import AreFoundation.Ledger.Theorems.AppendOnly
import AreFoundation.Ledger.Theorems.Verification

open Interleaving

namespace Ledger

section Positions

variable {es es' : List LedgerEntryRecord} {e : LedgerEntryRecord} {n : Nat}

-- The position of an entry tells how many entries precede it.
theorem position_append (h : (es ++ e :: es').map (·.chainPosition) = positionsUpTo n) :
    e.chainPosition = es.length + 1 := by
  have hp : some e.chainPosition = ((List.range n)[es.length]?).map fun i : Nat => (i : Int) + 1 := by
    rw [← List.getElem?_map, ← positionsUpTo, ← h]
    simp
  obtain ⟨i, hi, hp⟩ := Option.map_eq_some_iff.mp hp.symm
  obtain ⟨_, hi⟩ := List.getElem?_eq_some_iff.mp hi
  rw [List.getElem_range] at hi
  omega

theorem nodup_of_positions (h : es.map (·.chainPosition) = positionsUpTo n) :
    (es.map (·.chainPosition)).Nodup :=
  List.pairwise_map.mpr <| (pairwise_of_positions h).imp ne_of_lt

theorem range_infix_of_positions (h : es.map (·.chainPosition) = positionsUpTo n) (a b : Int) :
    (es.filter fun e => a ≤ e.chainPosition ∧ e.chainPosition ≤ b) <:+: es := by
  have hs := pairwise_of_positions h
  have upper : (es.filter (a ≤ ·.chainPosition)) <:+ es :=
    HashChain.filter_suffix <| hs.imp fun hp ha => by
      simp at ha ⊢
      omega
  have lower : ((es.filter (a ≤ ·.chainPosition)).filter (·.chainPosition ≤ b)) <+:
      es.filter (a ≤ ·.chainPosition) :=
    HashChain.filter_prefix <| (hs.sublist List.filter_sublist).imp fun hp hb => by
      simp at hb ⊢
      omega
  have hf : (es.filter fun e => a ≤ e.chainPosition ∧ e.chainPosition ≤ b) =
      (es.filter (a ≤ ·.chainPosition)).filter (·.chainPosition ≤ b) := by
    rw [List.filter_filter]
    exact List.filter_congr fun e _ => by simp [Bool.and_comm]
  rw [hf]
  exact lower.isInfix.trans upper.isInfix

theorem max?_of_positions (h : es.map (·.chainPosition) = positionsUpTo n) :
    (es.map (·.chainPosition)).max?.getD 0 = es.getLast?.elim 0 (·.chainPosition) := by
  have hm := maxOn?_of_positions h
  cases hl : es.getLast?
  case none => simp [List.getLast?_eq_none_iff.mp hl]
  case some last =>
    have hn : es ≠ [] := List.ne_nil_of_mem <| List.mem_of_getLast? hl
    rw [List.maxOn?_eq_some_maxOn hn, hl] at hm
    rw [List.max?_eq_some_max (by simpa using hn), List.max_map hn, Option.some.inj hm]
    rfl

theorem boundPosition_of_mem {bound : Option LedgerEntryRecord} {default : Int}
    (hn : (es.map (·.entryId)).Nodup) (h : ∀ e ∈ bound, e ∈ es) :
    boundPosition es default (bound.map (·.entryId)) =
      .ok (bound.elim default (·.chainPosition)) := by
  cases bound
  case none   => rfl
  case some e =>
    have hf := HashMap.Indexes.find?_of_mem hn (h e rfl)
    simp only [← beq_eq_decide] at hf
    simp only [Option.map_some, boundPosition, hf, Option.elim_some]

end Positions

section VerifyChain

variable [Sha256] [LedgerRepository ρ] {config : AppConfig} {repo : ρ}
variable {es : List LedgerEntryRecord} {e : LedgerEntryRecord}

-- A loop that does not stop early has checked every entry.
theorem checkEntries_of_chainValid {prev : Option LedgerEntryRecord}
    (h : (checkEntries config idx prev es).chainValid) :
    checkEntries config idx prev es =
      { chainValid := true, entriesChecked := idx + es.length, firstInvalidEntryId := none,
        failureReason := "" } := by
  fun_induction checkEntries config idx prev es
  case case1 => rfl
  case case2 => simp at h
  case case3 => simp at h
  case case4 hi =>
    rw [hi h, List.length_cons]
    simp only [VerifyChainOutput.mk.injEq, true_and, and_true]
    omega

-- Every part of a well-formed chain passes the loop.
theorem WellFormed.linkedFromLowest (w : WellFormed config es) (a b : Int) :
    LinkedFromLowest config
      (es.filter fun e => a ≤ e.chainPosition ∧ e.chainPosition ≤ b) := by
  have hi := range_infix_of_positions w.positions a b
  constructor
  case links  => exact w.links.infix hi
  case hashes => exact fun e he => w.hashes e <| hi.subset he
  case genesis =>
    intro e he hp
    obtain ⟨l, l', hl⟩ := List.append_of_mem <| hi.subset <| List.mem_of_head? he
    have := position_append (hl ▸ w.positions)
    cases l
    case nil  => exact w.genesis e <| by simp [hl]
    case cons => simp at this; omega

theorem verifyChain_of_wellFormed (h : LedgerRepository.getEntriesByType repo t = .ok es)
    (w : WellFormed config es) (hn : (es.map (·.entryId)).Nodup)
    (first last : Option LedgerEntryRecord) (hf : ∀ e ∈ first, e ∈ es) (hl : ∀ e ∈ last, e ∈ es) :
    verifyChain config repo t (first.map (·.entryId)) (last.map (·.entryId)) =
      .ok { chainValid          := true
            entriesChecked      := es.countP fun e =>
              first.elim 1 (·.chainPosition) ≤ e.chainPosition ∧ e.chainPosition ≤
                last.elim (es.getLast?.elim 0 (·.chainPosition)) (·.chainPosition)
            firstInvalidEntryId := none
            failureReason       := "" } := by
  have valid (a b : Int) : checkEntries config 0 none
      (sortByPosition <| es.filter fun e => a ≤ e.chainPosition ∧ e.chainPosition ≤ b) =
      { chainValid          := true
        entriesChecked      := es.countP fun e => a ≤ e.chainPosition ∧ e.chainPosition ≤ b
        firstInvalidEntryId := none
        failureReason       := "" } := by
    have hs : sortByPosition (es.filter fun e => a ≤ e.chainPosition ∧ e.chainPosition ≤ b) =
        es.filter fun e => a ≤ e.chainPosition ∧ e.chainPosition ≤ b :=
      ((pairwise_of_positions w.positions).imp Int.le_of_lt |>.sublist List.filter_sublist
        |>.insertionSort_eq)
    rw [hs, checkEntries_of_chainValid (checkEntries_none_chainValid.mpr <| w.linkedFromLowest a b),
      Nat.zero_add, ← List.countP_eq_length_filter]
  cases es
  case nil =>
    simp [verifyChain, checkChain, h, bind, Except.bind, Except.mapError, pure, Except.pure]
  case cons e es =>
    simp only [verifyChain, checkChain, h, bind, Except.bind, Except.mapError, pure, Except.pure,
      boundPosition_of_mem hn hf, boundPosition_of_mem hn hl, max?_of_positions w.positions,
      List.isEmpty_cons, Bool.false_eq_true, if_false, valid]

-- The entry that precedes another one in the chain is the one that its position points to.
theorem WellFormed.find?_predecessor {init : List LedgerEntryRecord}
    (w : WellFormed config (init ++ prev :: e :: es)) :
    (init ++ prev :: e :: es).find? (·.chainPosition == e.chainPosition - 1) = some prev := by
  have hp : prev.chainPosition = e.chainPosition - 1 := by
    have h₁ := position_append w.positions
    have hw : ((init ++ [prev]) ++ e :: es).map (·.chainPosition) =
        positionsUpTo (init ++ prev :: e :: es).length := by
      simpa using w.positions
    have h₂ := position_append hw
    rw [List.length_append, List.length_singleton] at h₂
    omega
  have hf := HashMap.Indexes.find?_of_mem (nodup_of_positions w.positions)
    (show prev ∈ init ++ prev :: e :: es by simp)
  simpa only [← beq_eq_decide, hp] using hf

theorem verifyEntry_of_wellFormed {id : Uuid} (hg : LedgerRepository.getEntry repo id = .ok e)
    (h : LedgerRepository.getEntriesByType repo e.entryType = .ok es) (w : WellFormed config es)
    (he : e ∈ es) :
    verifyEntry config repo id =
      .ok { entryId := id, hashValid := true, chainLinkValid := true, failureReason := "" } := by
  have hh := (w.hashes e he).symm
  obtain ⟨l, l', rfl⟩ := List.append_of_mem he
  have hp := position_append w.positions
  rcases List.eq_nil_or_concat l with rfl | ⟨init, prev, rfl⟩
  case inl =>
    have hg' : e.previousHash = config.genesisHash := w.genesis e rfl
    simp [verifyEntry_eq hg, verified, hh, hp, hg']
  case inr =>
    have hn : e.chainPosition ≠ 1 := by
      rw [hp, List.concat_eq_append, List.length_append, List.length_singleton]
      omega
    rw [List.concat_eq_append, List.append_assoc, List.singleton_append] at h w
    have hl : prev.entryHash = e.previousHash :=
      (List.isChain_append_cons_cons.mp w.links).right.left.symm
    simp only [verifyEntry_eq hg, h, Except.mapError, Except.map, verified, linked, hh, hn, if_false,
      w.find?_predecessor, hl, beq_self_eq_true, Bool.and_self, if_true]

end VerifyChain

namespace WriteEntry

section Run

variable [Sha256] [DecidableEq ι] {config : AppConfig} {calls : ι → WriteEntryInput}
variable {g : Guard ι (ImmutableLedgerService InMemoryLedgerRepository) Pc Env}
variable {s : State ι InMemoryLedgerRepository}

theorem run_records (r : Run (writers config calls) g (State.init ι {}) s) :
    ∃ j, s.shared.repo.Records j := by
  refine r.invariant (P := fun s => ∃ j, s.shared.repo.Records j) ?_ ⟨_, .init⟩
  rintro s ⟨i, env⟩ ⟨j, hr⟩ ha -
  -- A call takes the same steps if there are other tasks.
  let env' : Server.Env := ⟨env, ⟨[], false⟩, []⟩
  have ha' : Server.Allows env' s.shared (.writeEntry (calls i) (s.locals i)) := ha
  obtain ⟨j', hr', -⟩ := Server.step_records config hr ha'
  exact ⟨j', hr'⟩

theorem run_honest_verifies (r : Run (writers config calls) .any (State.init ι {}) s) :
    (∀ (t : String) (first last : Option LedgerEntryRecord),
      (∀ e ∈ first, e ∈ s.shared.repo.getEntriesByType t) →
      (∀ e ∈ last, e ∈ s.shared.repo.getEntriesByType t) →
      verifyChain config s.shared.repo t (first.map (·.entryId)) (last.map (·.entryId)) =
        .ok { chainValid          := true
              entriesChecked      := (s.shared.repo.getEntriesByType t).countP fun e =>
                first.elim 1 (·.chainPosition) ≤ e.chainPosition ∧
                e.chainPosition ≤ last.elim
                  ((s.shared.repo.getEntriesByType t).getLast?.elim 0 (·.chainPosition))
                  (·.chainPosition)
              firstInvalidEntryId := none
              failureReason       := "" }) ∧
    (∀ id e, s.shared.repo.entries.lookup id = some e →
      verifyEntry config s.shared.repo id =
        .ok { entryId := id, hashValid := true, chainLinkValid := true, failureReason := "" }) := by
  obtain ⟨j, hr⟩ := run_records r
  have w t := (run_chain_wellFormed r t).left
  constructor
  case left =>
    intro t first last hf hl
    have hn : ((s.shared.repo.getEntriesByType t).map (·.entryId)).Nodup := by
      rw [hr.getEntriesByType]
      exact hr.entries.nodup.sublist <| List.filter_sublist.map _
    exact verifyChain_of_wellFormed rfl (w t) hn first last hf hl
  case right =>
    intro id e he
    have hg : LedgerRepository.getEntry s.shared.repo id = .ok e := by
      simp only [LedgerRepository.getEntry, InMemoryLedgerRepository.getEntry, he]
    have hm : e ∈ s.shared.repo.getEntriesByType e.entryType := by
      rw [hr.getEntriesByType]
      simpa [Journal.chain] using (hr.entries.mem_of_lookup he).left
    exact verifyEntry_of_wellFormed hg rfl (w e.entryType) hm

end Run

section Sample

open scoped Sha256.Standard

-- The second of the two entries is verified on its own.
theorem second_entry_verified :
    (∃ e, sampleState.shared.repo.entries.lookup 2 = some e ∧ e.chainPosition = 2) ∧
    (verifyChain sampleConfig sampleState.shared.repo "ACTION_RECEIPT" (some 2) none =
      .ok { chainValid := true, entriesChecked := 1, firstInvalidEntryId := none,
            failureReason := "" }) ∧
    (verifyEntry sampleConfig sampleState.shared.repo 2 =
      .ok { entryId := 2, hashValid := true, chainLinkValid := true, failureReason := "" }) := by
  obtain ⟨hc, hv⟩ := run_honest_verifies sampleRun
  have stored : (sampleState.shared.repo.entries.lookup 2).map
      (fun e => (e.entryId, e.chainPosition)) = some (2, 2) := by
    decide +kernel
  have last : (sampleState.shared.repo.getEntriesByType "ACTION_RECEIPT").getLast? =
      sampleState.shared.repo.entries.lookup 2 := by
    decide +kernel
  obtain ⟨e, he, hp⟩ := Option.map_eq_some_iff.mp stored
  obtain ⟨hi, hp⟩ := Prod.mk.inj hp
  have hl := last.trans he
  have hc := hc "ACTION_RECEIPT" (some e) none
    (by rintro _ ⟨⟩; exact List.mem_of_getLast? hl) (by simp)
  have count : ((sampleState.shared.repo.getEntriesByType "ACTION_RECEIPT").countP fun e =>
      2 ≤ e.chainPosition ∧ e.chainPosition ≤ 2) = 1 := by
    decide +kernel
  simp only [Option.map_some, hi, Option.map_none, Option.elim_some, hp, Option.elim_none, hl,
    count] at hc
  exact ⟨⟨e, he, hp⟩, hc, hv 2 e he⟩

end Sample

end WriteEntry

end Ledger
