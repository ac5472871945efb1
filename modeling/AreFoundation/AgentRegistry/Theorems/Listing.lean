import AreFoundation.AgentRegistry.Listing

namespace AgentRegistry

open Pagination

theorem pageLimit_pos (limit : Int) : 0 < pageLimit limit := by
  unfold pageLimit
  split
  case isTrue  => decide
  case isFalse =>
    split
    case isTrue  => decide
    case isFalse => omega

theorem empty_le (s : String) : "" ≤ s := by
  rw [String.le_iff_toList_le, String.toList_empty]
  exact not_lt.mp (List.not_lt_nil _)

namespace Registry

variable {r : Registry} {f : AgentFilter}

theorem matching_sorted : (r.matching f).Pairwise (·.1 < ·.1) := by
  refine List.Pairwise.filter _ <| (sortedKeys_sorted r.agents).filterMap _ ?_
  intro k k' h row hr row' hr'
  obtain ⟨_, _, rfl⟩ := Option.map_eq_some_iff.mp hr
  obtain ⟨_, _, rfl⟩ := Option.map_eq_some_iff.mp hr'
  exact h

theorem length_matching_le : (r.matching f).length ≤ r.agents.keys.card := by
  have h : r.agentRows.length ≤ (sortedKeys r.agents).length := List.length_filterMap_le ..
  rw [length_sortedKeys] at h
  exact (List.length_filter_le ..).trans h

-- The pages of a query are those of the rows that match its filter.
theorem listAgents_eq_page :
    r.listAgents f limit token =
      ((page Prod.fst (r.matching f) (pageLimit limit) "" token).1.map Prod.snd,
        (page Prod.fst (r.matching f) (pageLimit limit) "" token).2,
        (page Prod.fst (r.matching f) (pageLimit limit) "" token).1.length) := by
  simp only [listAgents]
  split
  case isTrue => simp [page, rest, List.take_take]
  case isFalse h =>
    have hl : (rest Prod.fst (r.matching f) "" token).length ≤ pageLimit limit := by
      simp only [List.length_take, gt_iff_lt, not_lt] at h
      simp only [rest]
      omega
    rw [page_of_length_le hl]
    simp only [rest] at hl ⊢
    rw [List.take_of_length_le (by omega)]

-- What a client uses of an answer.
def listPage (r : Registry) (f : AgentFilter) (limit : Int) (token : String) : List Agent × String :=
  ((r.listAgents f limit token).1, (r.listAgents f limit token).2.1)

theorem listAgents_complete_iff (r : Registry) (f : AgentFilter) (limit : Int)
    (h : r.agents.keys.card < fuel) :
    ∃ out, collect (r.listPage f limit) "" fuel "" = some out ∧
      (out = (r.matching f).map (·.2) ↔ (r.matching f).length ≤ pageLimit limit) := by
  have hr : rest Prod.fst (r.matching f) "" "" = r.matching f := by simp [rest]
  obtain ⟨out, ho, hs, hi⟩ :=
    collect_page matching_sorted (fun row _ => empty_le row.1) (pageLimit_pos limit)
      (hr.symm ▸ length_matching_le.trans_lt h)
  rw [hr] at hs hi
  refine ⟨out.map Prod.snd, ?_, ?_⟩
  case refine_1 =>
    have hp : r.listPage f limit = fun token =>
        ((page Prod.fst (r.matching f) (pageLimit limit) "" token).1.map Prod.snd,
          (page Prod.fst (r.matching f) (pageLimit limit) "" token).2) := by
      funext token
      rw [listPage, listAgents_eq_page]
    rw [hp, collect_map, ho]
    rfl
  case refine_2 =>
    rw [← hi]
    refine ⟨fun he => hs.eq_of_length ?_, fun he => he ▸ rfl⟩
    simpa using congrArg List.length he

end Registry

namespace Sample

def agent (agentId : String) : Agent :=
  ⟨agentId, .system, "owner-1", "", .pending, "", {}, 0, 0, {}, "", "", 0⟩

def twoAgents : Registry where
  agents := Finmap.insert "agent-1" (agent "agent-1") <| Finmap.insert "agent-2" (agent "agent-2") ∅

theorem matching_twoAgents : twoAgents.matching ⟨"", "", ""⟩ =
    [("agent-1", agent "agent-1"), ("agent-2", agent "agent-2")] := by
  have hk : twoAgents.agents.keys = ["agent-1", "agent-2"].toFinset := by decide +kernel
  have hs : ["agent-1", "agent-2"].toFinset.sort = ["agent-1", "agent-2"] :=
    (List.toFinset_sort _ (by decide)).mpr (by decide)
  rw [Registry.matching, Registry.agentRows, sortedKeys, hk, hs]
  rfl

-- The second page begins after the agent whose id is the token.
theorem second_agent_skipped :
    collect (twoAgents.listPage ⟨"", "", ""⟩ 1) "" 3 "" = some [agent "agent-1"] ∧
    (twoAgents.matching ⟨"", "", ""⟩).map (·.2) = [agent "agent-1", agent "agent-2"] := by
  have first : twoAgents.listPage ⟨"", "", ""⟩ 1 "" = ([agent "agent-1"], "agent-2") := by
    rw [Registry.listPage, Registry.listAgents, matching_twoAgents]
    rfl
  have second : twoAgents.listPage ⟨"", "", ""⟩ 1 "agent-2" = ([], "") := by
    rw [Registry.listPage, Registry.listAgents, matching_twoAgents]
    rfl
  simp [collect, first, second, matching_twoAgents]

theorem two_agents_listed :
    ∃ out, collect (twoAgents.listPage ⟨"", "", ""⟩ 0) "" 3 "" = some out ∧
      out = (twoAgents.matching ⟨"", "", ""⟩).map (·.2) := by
  have hc : twoAgents.agents.keys.card < 3 := by decide +kernel
  have ⟨out, ho, hi⟩ := Registry.listAgents_complete_iff twoAgents ⟨"", "", ""⟩ 0 hc
  exact ⟨out, ho, hi.mpr (by rw [matching_twoAgents]; decide)⟩

end Sample

end AgentRegistry
