import AreFoundation.Library.Pagination
import AreFoundation.Ledger.Query

open Pagination SortByKey

namespace Ledger

theorem parseUsize_toString (h : n < 2 ^ 64) : parseUsize (toString n) = some n := by
  have text : (toString n).toList = Nat.toDigits 10 n := Nat.toList_repr
  have digits : (Nat.toDigits 10 n).all Char.isDigit :=
    List.all_eq_true.mpr fun c => Nat.isDigit_of_mem_toDigits (by decide) (by decide)
  have value : Nat.ofDigitChars 10 (Nat.toDigits 10 n) 0 = n :=
    Nat.ofDigitChars_toDigits (by decide) (by decide)
  have unsigned : withoutSign (Nat.toDigits 10 n) = Nat.toDigits 10 n := by
    unfold withoutSign
    split
    case h_1 ds hd => simp [hd] at digits
    case h_2       => rfl
  simp only [parseUsize, text, unsigned, value]
  exact if_pos ⟨Nat.toDigits_ne_nil, digits, h⟩

namespace QueryEntriesInput

def Passes (query : QueryEntriesInput) (entry : LedgerEntryRecord) : Prop :=
  (∀ t ∈ query.entryType, entry.entryType = t) ∧
  (∀ a ∈ query.agentId, entry.agentId = a) ∧
  (∀ s ∈ query.sourceId, entry.sourceId = s) ∧
  (∀ c ∈ query.correlationId, entry.correlationId = some c) ∧
  (∀ ts ∈ query.fromTs, ts ≤ DateTime.timestampMillis entry.writtenTs) ∧
  (∀ ts ∈ query.toTs, DateTime.timestampMillis entry.writtenTs ≤ ts)

instance (query : QueryEntriesInput) : DecidablePred query.Passes :=
  fun _ => inferInstanceAs <| Decidable (_ ∧ _ ∧ _ ∧ _ ∧ _ ∧ _)

variable {query : QueryEntriesInput}

theorem retain_eq {filter : Option α} {keep : LedgerEntryRecord → α → Bool} :
    retain filter keep entries = entries.filter fun e => ∀ value ∈ filter, keep e value := by
  cases filter
  case none       => simp [retain]
  case some value => simp [retain]

theorem select_eq : query.select entries = entries.filter query.Passes := by
  simp only [select, retain_eq, List.filter_filter]
  apply List.filter_congr
  intro e _
  simp only [Passes, beq_iff_eq, decide_eq_true_eq, ge_iff_le, ← Bool.decide_and]
  congr 1
  apply propext
  tauto

theorem size_pos : 0 < query.size := by
  unfold size
  split
  case isTrue  => decide
  case isFalse =>
    split
    case isTrue  => decide
    case isFalse => omega

end QueryEntriesInput

-- What the repository holds when one call after the other is made. Entries that are added in the
-- meantime have greater keys than everything that is stored before.
structure Store where
  values   : Nat → List LedgerEntryRecord
  -- No vector is larger.
  fits     : ∀ k, (values k).length < 2 ^ 63
  distinct : ((values 0).map (·.sortKey)).Nodup
  grows    : ∀ k, ∃ added, (values (k + 1)).Perm (values k ++ added) ∧
    ∀ e ∈ values k, ∀ a ∈ added, e.sortKey < a.sortKey

namespace Store

-- Nothing is added.
def constant (values : List LedgerEntryRecord) (fits : values.length < 2 ^ 63)
    (distinct : (values.map (·.sortKey)).Nodup) : Store where
  values _ := values
  fits _   := fits
  distinct := distinct
  grows _  := ⟨[], by simp⟩

variable (store : Store) (query : QueryEntriesInput)

theorem added_since (k n : Nat) :
    ∃ added, (store.values (k + n)).Perm (store.values k ++ added) ∧
      ∀ e ∈ store.values k, ∀ a ∈ added, e.sortKey < a.sortKey := by
  induction n
  case zero => exact ⟨[], by simp⟩
  case succ n hi =>
    obtain ⟨added, hp, hl⟩ := hi
    obtain ⟨new, hp', hl'⟩ := store.grows (k + n)
    refine ⟨added ++ new, ?_, ?_⟩
    case refine_1 => exact hp'.trans <| List.append_assoc .. ▸ hp.append_right new
    case refine_2 =>
      intro e he a ha
      rcases List.mem_append.mp ha with ha | ha
      case inl => exact hl e he a ha
      case inr => exact hl' e (hp.mem_iff.mpr <| List.mem_append_left _ he) a ha

-- A call of a client that keeps its filters and its page size.
def fetch (k : Nat) (token : Option String) : Except ServiceError QueryEntriesOutput :=
  queryEntries (InMemoryLedgerRepository.queryEntries <| store.values k)
    { query with pageToken := token }

-- The repository sorts the entries before they are filtered.
def matching (k : Nat) : List LedgerEntryRecord :=
  query.select <| sortByKey (·.sortKey) (store.values k)

def rows (k : Nat) : List LedgerEntryRecord :=
  sortByKey (·.sortKey) (store.matching query k)

variable {store query}

theorem matching_perm : (store.matching query k).Perm ((store.values k).filter query.Passes) := by
  rw [matching, QueryEntriesInput.select_eq]
  exact (SortByKey.perm _).filter _

theorem matching_nodup (h : ((store.values k).map (·.sortKey)).Nodup) :
    ((store.matching query k).map (·.sortKey)).Nodup := by
  rw [(matching_perm.map _).nodup_iff]
  exact h.sublist <| List.filter_sublist.map _

theorem rows_perm : (store.rows query k).Perm ((store.values k).filter query.Passes) :=
  (SortByKey.perm _).trans matching_perm

theorem length_rows : (store.rows query k).length = (store.values k).countP query.Passes := by
  rw [rows_perm.length_eq, List.countP_eq_length_filter]

-- The rows of an earlier call are still in front, and what follows them is new.
theorem rows_append (query : QueryEntriesInput)
    (h : ((store.values k).map (·.sortKey)).Nodup) (n : Nat) :
    ∃ new, store.rows query k ++ new = store.rows query (k + n) ∧
      ∀ e ∈ new, e ∉ store.values k := by
  obtain ⟨added, hp, hl⟩ := store.added_since k n
  have more : (store.matching query (k + n)).Perm
      (store.matching query k ++ added.filter query.Passes) := by
    refine matching_perm.trans <| (hp.filter _).trans ?_
    rw [List.filter_append]
    exact matching_perm.symm.append_right _
  obtain ⟨new, hn⟩ := sortByKey_isPrefix (matching_nodup h) more fun e he a ha =>
    hl e (List.mem_of_mem_filter <| matching_perm.mem_iff.mp he) a (List.mem_of_mem_filter ha)
  refine ⟨new, hn, fun e he hm => ?_⟩
  have rest : new.Perm (added.filter query.Passes) := by
    rw [← List.perm_append_left_iff (store.rows query k), rows, hn]
    exact (SortByKey.perm _).trans <| more.trans <| (SortByKey.perm _).symm.append_right _
  exact lt_irrefl _ <| hl e hm e <| List.mem_of_mem_filter <| rest.mem_iff.mp he

theorem fetch_eq : store.fetch query k token =
    let offset := (token.bind parseUsize).getD 0
    let page := ((store.rows query k).drop offset).take query.size
    .ok { entries   := page
          nextToken := if offset + page.length < (store.rows query k).length then
              some (toString (offset + page.length)) else none
          total     := (store.rows query k).length } :=
  rfl

theorem offsetPages (store : Store) (query : QueryEntriesInput) :
    OffsetPages (store.fetch query) (·.entries) (·.nextToken) (store.rows query) query.size
      (fun token => (token.bind parseUsize).getD 0) where
  ok _ _ := ⟨_, fetch_eq⟩
  page h := by
    rw [fetch_eq] at h
    obtain rfl := Except.ok.inj h
    rfl
  left {k token answer} h := by
    rw [fetch_eq] at h
    obtain rfl := Except.ok.inj h
    simp only
    split
    case isFalse => rfl
    case isTrue hl =>
      have fits := List.length_filter_le query.Passes (store.values k)
      rw [← rows_perm.length_eq] at fits
      have := store.fits k
      rw [Option.map_some, Function.comp_apply, Option.bind_some, parseUsize_toString (by omega),
        Option.getD_some]

end Store

theorem queryEntries_paginates (store : Store) (query : QueryEntriesInput) (fuel : Nat) :
    ∃ answers ended, follow (store.fetch query) (·.nextToken) fuel 0 none = .ok (answers, ended) ∧
      (∀ i answer, answers[i]? = some answer →
        answer.total = (store.values i).countP query.Passes) ∧
      (∀ answer ∈ answers.dropLast, answer.entries.length = query.size) ∧
      -- Everything that is stored at the first call is returned once and in order.
      (ended = true ∨ (store.values 0).countP query.Passes ≤ fuel →
        ∃ first later, answers.flatMap (·.entries) = first ++ later ∧
          first.Perm ((store.values 0).filter query.Passes) ∧
          first.Pairwise (·.sortKey < ·.sortKey) ∧ ∀ e ∈ later, e ∉ store.values 0) ∧
      -- If all keys are distinct, then a client that is done has what is stored at the last call.
      (ended = true → (∀ k, ((store.values k).map (·.sortKey)).Nodup) →
        ∃ last, answers.length = last + 1 ∧
          (answers.flatMap (·.entries)).Perm ((store.values last).filter query.Passes) ∧
          (answers.flatMap (·.entries)).Pairwise (·.sortKey < ·.sortKey)) ∧
      (∀ n ≤ fuel, (∀ k, (store.values k).countP query.Passes < n) → ended = true) := by
  obtain ⟨answers, ended, hf, f⟩ := follow_followed (store.offsetPages query) fuel 0 none
  have many : fuel ≤ query.size * fuel := Nat.le_mul_of_pos_left fuel query.size_pos
  refine ⟨answers, ended, hf, ?totals, fun _ => f.full, ?first, ?complete, ?ends⟩
  case totals =>
    intro i answer hi
    obtain ⟨token, ht⟩ := f.answered hi
    rw [Store.fetch_eq, Nat.zero_add] at ht
    obtain rfl := Except.ok.inj ht
    exact Store.length_rows
  case first =>
    intro hl
    have enough : ended = true ∨ (store.rows query 0).length ≤ query.size * fuel := by
      rw [Store.length_rows]
      exact hl.imp_right many.trans'
    obtain ⟨later, hc, hn⟩ := f.exists_later (Store.rows_append query store.distinct) enough
    exact ⟨_, later, hc, Store.rows_perm, pairwise_lt <| Store.matching_nodup store.distinct, hn⟩
  case complete =>
    intro he distinct
    subst he
    have grown (k : Nat) : store.rows query k <+: store.rows query (k + 1) :=
      (Store.rows_append query (distinct k) 1).imp fun _ h => h.left
    obtain ⟨last, hl, hr⟩ := f.flatMap_eq grown
    rw [Nat.zero_add] at hr
    rw [hr]
    exact ⟨last, hl, Store.rows_perm, pairwise_lt <| Store.matching_nodup (distinct last)⟩
  case ends =>
    intro n hn hb
    apply f.ended_of_length_lt query.size_pos
    intro k
    rw [Store.length_rows]
    exact (hb _).trans_le hn

section Sample

def queriedEntry (entryId : Uuid) (chainPosition : Int) (agentId : String) :
    LedgerEntryRecord where
  entryId        := entryId
  entryType      := "ACTION_RECEIPT"
  agentId        := agentId
  content        := []
  contentType    := "application/json"
  sourceId       := "source"
  correlationId  := none
  idempotencyKey := none
  entryHash      := "stored"
  previousHash   := "genesis"
  chainPosition  := chainPosition
  writtenTs      := 1700000000000000000

def queriedStore : Store :=
  .constant [queriedEntry 0 3 "agent-1", queriedEntry 1 2 "agent-2", queriedEntry 2 1 "agent-1"]
    (by decide) (by decide +kernel)

theorem queryEntries_paginates_queriedStore :
    ∃ answers, follow (queriedStore.fetch { agentId := some "agent-1", pageSize := 1 })
        (·.nextToken) 3 0 none = .ok (answers, true) ∧
      (answers.flatMap (·.entries)).Perm [queriedEntry 0 3 "agent-1", queriedEntry 2 1 "agent-1"] ∧
      (answers.flatMap (·.entries)).Pairwise (·.sortKey < ·.sortKey) := by
  obtain ⟨answers, ended, hf, -, -, -, hc, he⟩ :=
    queryEntries_paginates queriedStore { agentId := some "agent-1", pageSize := 1 } 3
  obtain rfl := he 3 le_rfl fun k => by
    change [queriedEntry 0 3 "agent-1", queriedEntry 1 2 "agent-2",
      queriedEntry 2 1 "agent-1"].countP _ < 3
    decide +kernel
  obtain ⟨last, -, hp, hs⟩ := hc rfl fun _ => queriedStore.distinct
  exact ⟨answers, hf, hp, hs⟩

end Sample

end Ledger
