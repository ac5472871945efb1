import AreFoundation.RestBff.Theorems.Linearizable

-- Calls that compete for one key.
open Interleaving Linearization

namespace RestBff.Transactions

structure Contested (calls : ι → Call) (init : Tables) : Prop where
  sameKey : ∀ i j, (calls i).idemKey = (calls j).idemKey
  fresh   : ∀ i, (calls i).Fresh init

section Sequential

variable {calls : ι → Call} {init t : Tables} {i w : ι} {p : Part}

-- The rows of one call have been added.
def Won (calls : ι → Call) (init t : Tables) (p : Part) (w : ι) : Prop :=
  (calls w).part = p ∧ (calls w).Stores init t

theorem Won.of_agree (h : Won calls init t p w) (ha : t'.Agree t p) : Won calls init t' p w :=
  ⟨h.left, Call.stores_iff.mpr <| (h.left.symm ▸ ha).trans <| Call.stores_iff.mp h.right⟩

-- The calls of each function that have been made agree on a winner.
def Settled (calls : ι → Call) (init t : Tables) (results : List (ι × Except RepoError Json)) : Prop :=
  ∀ p, (t.Agree init p ∧ ∀ x ∈ results, (calls x.1).part ≠ p) ∨
    ∃ w, Won calls init t p w ∧
      ∀ x ∈ results, (calls x.1).part = p → x.2 = .ok (calls w).responseBody

theorem settled_nil : Settled calls init init [] :=
  fun p => .inl ⟨.refl init p, nofun⟩

-- Rows of agents are not taken away.
theorem Settled.contains_agent (h : Settled calls init t results) (ha : init.contains (.agent a)) :
    t.contains (.agent a) := by
  rcases h .register with ⟨hg, _⟩ | ⟨w, hw, _⟩
  case inl => rwa [Tables.Agree.contains_eq hg]
  case inr =>
    have hg := hw.left ▸ Call.stores_iff.mp hw.right
    rw [Tables.Agree.contains_eq hg]
    exact Tables.contains_foldl ha

-- The first call of its function.
theorem Call.outcome_of_agree {call : Call} (hf : call.Fresh init) (h : t.Agree init call.part)
    (ha : call.part = .passport → t.contains (.agent call.agentId)) :
    call.outcome t =
      (.ok call.responseBody, (call.statements.map Statement.row).foldl Tables.apply t) := by
  have hn {st : Statement} (hs : st ∈ call.statements) : ¬t.contains st.key := by
    rw [Tables.Agree.contains_eq ((Call.executes hs).part.symm ▸ h)]
    exact hf.not_contains hs
  have hi : ¬t.contains call.idem := by
    rw [Tables.Agree.contains_eq (call.idem_part.symm ▸ h)]
    exact hf.not_contains_idem
  have hr : (call.statements.flatMap fun st => (st.execute t).getD []) =
      call.statements.map Statement.row := by
    rw [← List.flatMap_pure_eq_map]
    refine List.flatMap_congr fun st hs => ?_
    rw [Statement.execute_of_not_contains (hn hs)]
    rfl
  rw [Call.outcome_of_none (Call.select_eq_none_iff.mpr hi) ha, hr]

-- One more call, which concerns its own function only.
theorem Settled.concat (h : Settled calls init t results)
    (ho : ∀ p, (calls i).part ≠ p → t'.Agree t p) (hw : Won calls init t' (calls i).part w)
    (hr : ∀ x ∈ results, (calls x.1).part = (calls i).part → x.2 = .ok (calls w).responseBody) :
    Settled calls init t' (results ++ [(i, .ok (calls w).responseBody)]) := by
  intro p
  simp only [List.forall_mem_append, List.forall_mem_singleton]
  by_cases hp : (calls i).part = p
  case pos =>
    subst hp
    exact .inr ⟨w, hw, hr, fun _ => rfl⟩
  case neg =>
    refine (h p).imp ?_ ?_
    case refine_1 => exact fun ⟨ha, hn⟩ => ⟨(ho p hp).trans ha, hn, hp⟩
    case refine_2 => exact fun ⟨w', hw', hr'⟩ => ⟨w', hw'.of_agree (ho p hp), hr', fun he => absurd he hp⟩

theorem Settled.outcome (hc : Contested calls init) (h : Settled calls init t results) (i : ι) :
    Settled calls init ((calls i).outcome t).2 (results ++ [(i, ((calls i).outcome t).1)]) := by
  rcases h (calls i).part with ⟨hg, hn⟩ | ⟨w, hw, hr⟩
  case inl =>
    have ha (hp : (calls i).part = .passport) : t.contains (.agent (calls i).agentId) :=
      h.contains_agent ((hc.fresh i).contains_agent hp)
    rw [Call.outcome_of_agree (hc.fresh i) hg ha]
    refine h.concat (fun p hp => ?_) ⟨rfl, Call.stores_iff.mpr (hg.foldl _)⟩
      fun x hx hp => absurd hp (hn x hx)
    refine Tables.agree_foldl fun d hd => ?_
    obtain ⟨st, hs, rfl⟩ := List.mem_map.mp hd
    exact (Call.executes hs).part ▸ hp
  case inr =>
    rw [Call.outcome_of_some (hw.right.select_eq (hc.fresh w) (hc.sameKey w i) hw.left)]
    exact h.concat (fun p _ => .refl t p) hw hr

theorem Settled.replay (hc : Contested calls init) (h : Settled calls init t results)
    (order : List ι) :
    Settled calls init (after (fun i => (calls i).outcome) t order)
      (results ++ replay (fun i => (calls i).outcome) t order) := by
  induction order generalizing t results
  case nil          => simpa [after, Linearization.replay] using h
  case cons i tl hi => simpa [after, Linearization.replay] using hi (h.outcome hc i)

end Sequential

section Run

variable [DecidableEq ι] {calls : ι → Call} {init : Tables} {g : Guard ι (Database ι) Pc Unit}
variable {s : State ι (Database ι) Pc} {i : ι}

theorem run_won (hc : Contested calls init) (r : Run (system calls) g (opened ι init) s)
    (hl : s.locals i = .returned result) :
    ∃ w, Won calls init s.shared.committed (calls i).part w ∧
      result = .ok (calls w).responseBody := by
  obtain ⟨order, hr⟩ := run_linearizes r
  obtain ⟨v, hv⟩ : ∃ v, (s.locals i).result = some v := by
    rw [hl]
    rcases result with (_ | _) | _ <;> exact ⟨_, rfl⟩
  have hm := hr.results i v hv
  rcases settled_nil.replay hc order (calls i).part with ⟨_, hn⟩ | ⟨w, hw, h⟩
  case inl => exact absurd rfl (hn _ hm)
  case inr =>
    refine ⟨w, hr.final ▸ hw, ?_⟩
    have hv' := h _ hm rfl
    rw [hl] at hv
    rcases result with (_ | _) | _
    all_goals
      cases hv
      cases hv'
    rfl

theorem run_idemRows (hc : Contested calls init) (r : Run (system calls) g (opened ι init) s)
    (hl : s.locals i = .returned (.ok body)) :
    (calls i).idemRows s.shared.committed = [⟨(calls i).idemKey, body⟩] := by
  obtain ⟨w, hw, hr⟩ := run_won hc r hl
  cases hr
  rw [← Call.idemRows_congr (hc.sameKey w i) hw.left, hw.right.idemRows_eq (hc.fresh w),
    hc.sameKey w i]

-- Calls of both functions may be open at the same time. The calls of one of them agree on a winner.
theorem run_idem_race_free (hc : Contested calls init)
    (r : Run (system calls) g (opened ι init) s) :
    (∀ i result, s.locals i = .returned result → ∃ body, result = .ok body) ∧
    (∀ i j body body', (calls i).part = (calls j).part → s.locals i = .returned (.ok body) →
      s.locals j = .returned (.ok body') → body = body') ∧
    (∀ i body, s.locals i = .returned (.ok body) →
      (calls i).idemRows s.shared.committed = [⟨(calls i).idemKey, body⟩] ∧
      ∃ w, (calls w).part = (calls i).part ∧ (calls w).responseBody = body ∧
        (calls w).Stores init s.shared.committed) ∧
    (∀ i, Unfinished s i → ∃ j, Unfinished s j ∧ (system calls).allows j () s.shared (s.locals j)) ∧
    (∀ i, 5 ≤ r.turns i → ∃ body, s.locals i = .returned (.ok body)) := by
  have ok {i result} (hl : s.locals i = .returned result) : ∃ body, result = .ok body :=
    have ⟨_, _, hr⟩ := run_won hc r hl
    ⟨_, hr⟩
  refine ⟨fun i result => ok, ?same, ?stored, fun i => run_exists_ready r, ?returns⟩
  case same =>
    intro i j body body' hp hl hl'
    have he := run_idemRows hc r hl'
    rw [← Call.idemRows_congr (hc.sameKey i j) hp, run_idemRows hc r hl] at he
    exact (IdemRow.mk.inj (List.singleton_inj.mp he)).right
  case stored =>
    intro i body hl
    refine ⟨run_idemRows hc r hl, ?_⟩
    obtain ⟨w, hw, hr⟩ := run_won hc r hl
    cases hr
    exact ⟨w, hw.left, rfl, hw.right⟩
  case returns =>
    intro i ht
    obtain ⟨result, hl⟩ := run_returns r ht
    obtain ⟨body, rfl⟩ := ok hl
    exact ⟨body, hl⟩

namespace Sample

def contenders (second : Bool) : Call :=
  .finishRegister "k" "agt-k" (.string <| if second then "second" else "first")
    { agentType := "AUTONOMOUS", ownerId := "o", metadata := {}, status := "ACTIVE" }

-- Both calls miss the key, and the second one waits until the first one has been committed.
def raced : State Bool (Database Bool) Pc :=
  Transition.exec (system contenders).interleaved (opened Bool {})
    ([false, true, false, false, false, true, true, true, true].map (·, ()))

theorem contested_contenders : Contested contenders {} where
  sameKey _ _ := rfl
  fresh _     := ⟨Bool.false_ne_true, Bool.false_ne_true⟩

theorem run_idem_race_free_contenders :
    raced.locals true = .returned (.ok <| .string "first") ∧
    (contenders true).idemRows raced.shared.committed = [⟨"k", .string "first"⟩] := by
  have r : Run (system contenders) .any (opened Bool {}) raced := .ofSchedule _ (by decide +kernel)
  have hl : raced.locals true = .returned (.ok <| .string "first") := rfl
  exact ⟨hl, ((run_idem_race_free contested_contenders r).right.right.left true _ hl).left⟩

end Sample

end Run

end RestBff.Transactions
