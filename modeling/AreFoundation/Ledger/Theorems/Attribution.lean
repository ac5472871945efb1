import AreFoundation.Ledger.Grpc
import AreFoundation.Ledger.Theorems.Cluster
import AreFoundation.Ledger.Theorems.HonestChains
import AreFoundation.Ledger.Theorems.Query

open Interleaving

namespace Ledger

-- The entry has the fields that have been sent.
structure LedgerEntryRecord.Carries (e : LedgerEntryRecord) (input : WriteEntryInput) : Prop where
  entryType      : e.entryType = input.entryType
  agentId        : e.agentId = input.agentId
  content        : e.content = input.content
  contentType    : e.contentType = input.contentType
  sourceId       : e.sourceId = input.sourceId
  correlationId  : e.correlationId = input.correlationId
  idempotencyKey : e.idempotencyKey = input.idempotencyKey

-- The entry has been written with the same idempotency key.
structure LedgerEntryRecord.Shares (e : LedgerEntryRecord) (input : WriteEntryInput) : Prop where
  entryType      : e.entryType = input.entryType
  idempotencyKey : e.idempotencyKey = input.idempotencyKey
  isSome         : e.idempotencyKey.isSome

-- The type can be asked for.
structure LedgerEntryRecord.Named (e : LedgerEntryRecord) : Prop where
  nonempty : e.entryType ≠ ""
  text     : Sql.text e.entryType = some e.entryType

namespace Cluster

open Transactions (Call storedAs text_eq_some varchar_of_length_le)

-- The widths of all columns.
structure FitsColumns (input : WriteEntryInput) : Prop extends Fits input where
  correlationId  : ∀ c ∈ input.correlationId, c.length ≤ 255
  idempotencyKey : ∀ k ∈ input.idempotencyKey, k.length ≤ 255

theorem text_of_varchar (h : Sql.varchar n s = some s') : Sql.text s = some s := by
  obtain ⟨_, hs, _⟩ := Option.bind_eq_some_iff.mp h
  cases text_eq_some hs
  exact hs

theorem mapM_varchar {o o' : Option String} (hl : ∀ s ∈ o, s.length ≤ n)
    (h : o.mapM (Sql.varchar n) = some o') : o' = o := by
  cases o
  case none   => simpa using h.symm
  case some s =>
    obtain ⟨s', hs, rfl⟩ : ∃ s', Sql.varchar n s = some s' ∧ some s' = o' := by
      simpa [Option.map_eq_some_iff] using h
    rw [varchar_of_length_le (hl s rfl) hs]

theorem stored_options {input row : EntryWriteInput} (h : input.stored = some row) :
    input.correlationId.mapM (Sql.varchar 255) = some row.correlationId ∧
    input.idempotencyKey.mapM (Sql.varchar 255) = some row.idempotencyKey := by
  simp only [EntryWriteInput.stored, Option.bind_eq_bind, Option.bind_eq_some_iff, Option.pure_def] at h
  obtain ⟨_, _, _, _, _, _, _, _, _, hc, _, hk, _, _, _, _, _, _, h⟩ := h
  cases h
  exact ⟨hc, hk⟩

variable {config : AppConfig} {input : WriteEntryInput} {t t' : Tables}

-- What a step of a call does to the committed rows.
inductive Commit (input : WriteEntryInput) (t : Tables) : Tables → Prop
  | none : Commit input t t
  | entry (hc : e.Carries input) (hn : e.Named) (he : t.Insertable e) (ho : t.AdmitsOutbox o) :
      Commit input t ((t.apply (.insertEntry e)).apply (.insertOutbox o))

namespace Commit

theorem subset (h : Commit input t t') : t.ledgerEntries ⊆ t'.ledgerEntries := by
  cases h
  case none  => exact List.Subset.refl _
  case entry => exact List.subset_append_left _ _

theorem mem (h : Commit input t t') (he : e ∈ t'.ledgerEntries) :
    e ∈ t.ledgerEntries ∨ e.Named ∧ e.Carries input := by
  cases h
  case none => exact .inl he
  case entry hc hn _ _ =>
    refine (List.mem_append.mp he).imp_right fun he => ?_
    rw [List.mem_singleton.mp he]
    exact ⟨hn, hc⟩

-- The unique indexes are kept.
theorem exists_toTables (h : Commit input t t') (hr : ∃ repo : PostgresLedgerRepository, repo.toTables = t) :
    ∃ repo : PostgresLedgerRepository, repo.toTables = t' := by
  cases h
  case none => exact hr
  case entry e o _ _ he ho =>
    obtain ⟨repo, rfl⟩ := hr
    refine ⟨(repo.insertEntry e o).2, ?_⟩
    rw [PostgresLedgerRepository.insertEntry, dif_pos he, dif_pos ho]
    rfl

end Commit

-- Where the output of a call comes from.
def Attested (input : WriteEntryInput) (t : Tables) : Pc → Prop
  | .findIdempotent key                         =>
    input.entryType ≠ "" ∧ input.idempotencyKey = some key
  | .getChainTip _ | .writeEntryWithOutbox _ _ _ => input.entryType ≠ ""
  | .returned (.ok out)                         =>
    ∃ e ∈ t.ledgerEntries, e.toOutput = out ∧ (e.Carries input ∨ e.Shares input)
  | _                                           => True

theorem Attested.mono (h : Attested input t pc) (ht : t.ledgerEntries ⊆ t'.ledgerEntries) :
    Attested input t' pc := by
  cases pc
  case returned result =>
    cases result
    case error => trivial
    case ok    =>
      obtain ⟨e, he, ho⟩ := h
      exact ⟨e, ht he, ho⟩
  all_goals exact h

theorem Attested.resume [Sha256] (h : input.entryType ≠ "")
    (hn : ∀ result, tx ≠ .returned (.ok result)) :
    Attested input t (resume input env attempt call tx) := by
  cases tx
  case returned result =>
    cases result
    case ok result => exact absurd rfl (hn result)
    case error err =>
      cases err
      case chainIntegrityViolation =>
        simp only [Cluster.resume, WriteEntry.written]
        split
        case isTrue  => exact h
        case isFalse => trivial
      all_goals trivial
  all_goals exact h

theorem entryType_of_validate (h : input.validate config = .ok u) : input.entryType ≠ "" := by
  unfold WriteEntryInput.validate at h
  split at h
  case isTrue     => cases h
  case isFalse hn => exact fun he => hn (.inl he)

variable [Sha256]

theorem Honest.carries (h : Honest config input t call) (hf : FitsColumns input)
    (hs : call.input.stored = some row) (ids : NewIds) (position : Int) :
    (row.toEntry ids position).Carries input ∧ Sql.text input.entryType = some input.entryType := by
  have hr := storedAs hs
  obtain ⟨hc, hk⟩ := stored_options hs
  obtain ⟨eventId, now, he, _⟩ := h.written
  rw [he] at hr hc hk
  refine ⟨?_, text_of_varchar hr.entryType⟩
  constructor
  case entryType      => exact varchar_of_length_le hf.entryType hr.entryType
  case agentId        => exact varchar_of_length_le hf.agentId hr.agentId
  case content        => exact hr.content
  case contentType    => exact varchar_of_length_le hf.contentType hr.contentType
  case sourceId       => exact varchar_of_length_le hf.sourceId hr.sourceId
  case correlationId  => exact mapM_varchar hf.correlationId hc
  case idempotencyKey => exact mapM_varchar hf.idempotencyKey hk

variable [Database]

section Step

variable [DecidableEq ι] {calls : ι → WriteEntryInput} {i : ι} {sh : Shared ι π} {pc : Pc}

theorem commit_committing (hf : FitsColumns (calls i))
    (hb : Attested (calls i) sh.db.committed (.writeEntryWithOutbox attempt call (.committing position)))
    (ha : Asn config calls i (.writeEntryWithOutbox attempt call (.committing position)) sh) :
    ∃ row : EntryWriteInput, (row.toEntry call.ids position).Carries (calls i) ∧
      (row.toEntry call.ids position).toOutput = (call.input.toEntry call.ids position).toOutput ∧
      row.toEntry call.ids position ∈ (sh.db.commit i Tables.apply).committed.ledgerEntries ∧
      Commit (calls i) sh.db.committed (sh.db.commit i Tables.apply).committed := by
  obtain ⟨hs, _, hh⟩ := ha
  obtain ⟨_, _, row, payload, hr, _, hi, ho, hp⟩ := hs
  obtain ⟨hc, hx⟩ := hh.carries hf hr call.ids position
  obtain ⟨ht, _, _, hout⟩ := hh.stored hf.toFits hr call.ids position
  have he : (sh.db.commit i Tables.apply).committed =
      (sh.db.committed.apply (.insertEntry (row.toEntry call.ids position))).apply
        (.insertOutbox (call.outboxRow row payload)) :=
    Transactions.Commits.committed ⟨hp, ht.trans hh.entryType_eq.symm⟩
  have hn : (row.toEntry call.ids position).Named := ⟨hc.entryType ▸ hb, hc.entryType ▸ hx⟩
  refine ⟨row, hc, hout, ?_, ?_⟩
  case refine_1 => rw [he]; exact List.mem_append_right _ (List.mem_singleton_self _)
  case refine_2 => rw [he]; exact .entry hc hn hi ho

variable [DecidableEq π] {env : WriteEntry.Env} {p : π}

theorem step_commit (hf : FitsColumns (calls i)) (hb : Attested (calls i) sh.db.committed pc)
    (ha : Asn config calls i pc sh) :
    Commit (calls i) sh.db.committed (step config (calls i) p i env sh pc).1.db.committed := by
  by_cases hp : ∃ attempt call position, pc = .writeEntryWithOutbox attempt call (.committing position)
  case pos =>
    obtain ⟨attempt, call, position, rfl⟩ := hp
    obtain ⟨_, _, _, _, h⟩ := commit_committing hf hb ha
    exact h
  case neg =>
    have he : (step config (calls i) p i env sh pc).1.db.committed = sh.db.committed := by
      cases pc
      case writeEntryWithOutbox attempt call tx =>
        refine Transactions.committed_step fun position ht => hp ⟨attempt, call, position, ?_⟩
        rw [ht]
      all_goals rw [step_db (by simp)]
    rw [he]
    exact .none

theorem step_attested (hf : FitsColumns (calls i)) (hb : Attested (calls i) sh.db.committed pc)
    (ha : Asn config calls i pc sh) :
    Attested (calls i) (step config (calls i) p i env sh pc).1.db.committed
      (step config (calls i) p i env sh pc).2 := by
  cases pc
  case start =>
    simp only [step, WriteEntry.begin]
    split
    case h_1 => trivial
    case h_2 hv =>
      have hn := entryType_of_validate hv
      split
      case isTrue  => trivial
      case isFalse =>
        split
        case h_1 key hk => exact ⟨hn, hk⟩
        case h_2        => exact hn
  case findIdempotent key =>
    obtain ⟨hn, hk⟩ := hb
    simp only [step, WriteEntry.idempotent]
    split
    case h_1 => trivial
    case h_3 => exact hn
    case h_2 existing he =>
      obtain ⟨hm, ht, hy⟩ := mem_of_findIdempotent he
      exact ⟨existing, hm, rfl, .inr ⟨ht, hy.trans hk.symm, by simp [hy]⟩⟩
  case getChainTip attempt =>
    simp only [step, WriteEntry.chainTip]
    split
    case isFalse => trivial
    case isTrue  =>
      split
      case h_3 => trivial
      all_goals exact hb
  case writeEntryWithOutbox attempt call tx =>
    by_cases hp : ∃ position, tx = .committing position
    case pos =>
      obtain ⟨position, rfl⟩ := hp
      obtain ⟨row, hc, ho, hm, _⟩ := commit_committing hf hb ha
      exact ⟨row.toEntry call.ids position, hm, ho, .inl hc⟩
    case neg =>
      push Not at hp
      exact .resume hb (Transactions.step_ne_ok hp ha.right.left)
  case haltChain => trivial
  case returned  => exact hb

end Step

section Run

variable [DecidableEq ι] [DecidableEq π] {calls : ι → WriteEntryInput} {process : ι → π}
variable {s : State ι (Shared ι π) Pc} {i : ι} {env : WriteEntry.Env}

structure Sound (config : AppConfig) (process : ι → π) (hf : ∀ i, FitsColumns (calls i))
    (s : State ι (Shared ι π) Pc) : Prop where
  outline  : (outline config process fun i => (hf i).toFits).Holds s
  valid    : ∃ repo : PostgresLedgerRepository, repo.toTables = s.shared.db.committed
  origin   : ∀ e ∈ s.shared.db.committed.ledgerEntries, e.Named ∧ ∃ k, e.Carries (calls k)
  attested : ∀ i, Attested (calls i) s.shared.db.committed (s.locals i)

namespace Sound

variable {hf : ∀ i, FitsColumns (calls i)}

theorem opened : Sound config process hf (opened ι π {}) where
  outline    := outline_opened _
  valid      := ⟨{}, rfl⟩
  origin _ h := by cases h
  attested _ := trivial

theorem commit (h : Sound config process hf s) (i : ι) (env : WriteEntry.Env) :
    Commit (calls i) s.shared.db.committed
      (s.next (system config calls process) i env).shared.db.committed :=
  step_commit (hf i) (h.attested i) (h.outline.asn i)

theorem next (h : Sound config process hf s)
    (a : (system config calls process).allows i env s.shared (s.locals i))
    (c : Sql.epoch ≤ env.now) : Sound config process hf (s.next (system config calls process) i env) where
  outline := h.outline.next a c
  valid   := (h.commit i env).exists_toTables h.valid
  origin e he := by
    rcases (h.commit i env).mem he with he | ⟨hn, hc⟩
    case inl => exact h.origin e he
    case inr => exact ⟨hn, i, hc⟩
  attested := by
    refine State.forall_next_locals (P := fun j pc => Attested (calls j)
      (s.next (system config calls process) i env).shared.db.committed pc) ?_ fun j _ => ?_
    case refine_1 => exact step_attested (hf i) (h.attested i) (h.outline.asn i)
    case refine_2 => exact (h.attested j).mono (h.commit i env).subset

end Sound

end Run

end Cluster

section Reads

variable {es : List LedgerEntryRecord} {e : LedgerEntryRecord}

theorem position_bounds (h : es.map (·.chainPosition) = positionsUpTo es.length) (he : e ∈ es) :
    ∃ last, es.getLast? = some last ∧ 1 ≤ e.chainPosition ∧ e.chainPosition ≤ last.chainPosition := by
  obtain ⟨l, l', rfl⟩ := List.append_of_mem he
  obtain ⟨last, hl⟩ : ∃ last, (l ++ e :: l').getLast? = some last :=
    ⟨_, List.getLast?_eq_some_getLast (List.ne_nil_of_mem he)⟩
  have hp := position_append h
  have hlast := position_getLast_of_positions h hl
  rw [List.length_append, List.length_cons] at hlast
  exact ⟨last, hl, by omega, by omega⟩

theorem toString_ne_empty (n : Nat) : toString n ≠ "" := by
  intro h
  have hd : Nat.toDigits 10 n = [] := Nat.toList_repr.symm.trans (congrArg String.toList h)
  exact Nat.toDigits_ne_nil hd

-- The first page is all there is if there is no next one.
theorem queryEntries_of_mem {query : QueryEntriesInput} (he : e ∈ found) (hp : query.Passes e)
    (ht : query.pageToken = none) :
    ∃ output, queryEntries (.ok found) query = .ok output ∧
      (output.nextToken.getD "" = "" → e ∈ output.entries) := by
  refine ⟨_, rfl, fun hn => ?_⟩
  have ho : query.offset = 0 := by simp [QueryEntriesInput.offset, ht]
  have hs : e ∈ SortByKey.sortByKey (·.sortKey) (query.select found) := by
    rw [(SortByKey.perm _).mem_iff, QueryEntriesInput.select_eq, List.mem_filter]
    exact ⟨he, decide_eq_true hp⟩
  simp only [ho, List.drop_zero, Nat.zero_add] at hn ⊢
  split at hn
  case isTrue     => exact absurd hn (toString_ne_empty _)
  case isFalse hl =>
    rw [List.length_take, Nat.min_def] at hl
    rwa [List.take_of_length_le (by split at hl <;> omega)]

theorem Tables.mem_chain {t : Tables} (h : e ∈ t.ledgerEntries) :
    e ∈ t.chain e.entryType := by
  simp [Tables.chain, h]

namespace Cluster.Sound

variable [Sha256] [Database] [DecidableEq ι] [DecidableEq π] {config : AppConfig}
variable {calls : ι → WriteEntryInput} {process : ι → π} {hf : ∀ i, FitsColumns (calls i)}
variable {s : State ι (Shared ι π) Pc}
variable (h : Sound config process hf s)

include h

theorem wellFormed (entryType : String) : WellFormed config (s.shared.db.committed.chain entryType) :=
  h.outline.inv.wellFormed entryType

-- The rows of a type are stored in the order in which they are read.
theorem sortByPosition_chain (entryType : String) :
    sortByPosition (s.shared.db.committed.chain entryType) = s.shared.db.committed.chain entryType :=
  sortByPosition_of_positions (h.wellFormed entryType).positions

theorem nodup_entryIds : (s.shared.db.committed.ledgerEntries.map (·.entryId)).Nodup := by
  obtain ⟨repo, hr⟩ := h.valid
  have hu : (repo.ledgerEntries.filterMap (some ∘ (·.entryId))).Nodup := repo.primaryKey
  rw [List.filterMap_eq_map] at hu
  rwa [← hr]

variable (he : e ∈ s.shared.db.committed.ledgerEntries)

include he

theorem find?_of_mem :
    s.shared.db.committed.ledgerEntries.find? (·.entryId = e.entryId) = some e :=
  HashMap.Indexes.find?_of_mem h.nodup_entryIds he

theorem getEntry_of_mem : s.shared.db.committed.getEntry e.entryId = .ok e := by
  rw [Tables.getEntry, h.find?_of_mem he]

theorem getEntriesByType_of_mem :
    PostgresClient.getEntriesByType s.shared.db.committed e.entryType =
      .ok (s.shared.db.committed.chain e.entryType) := by
  rw [PostgresClient.getEntriesByType, (h.origin e he).left.text]
  exact congrArg Except.ok (h.sortByPosition_chain e.entryType)

-- A repository with the same rows, for which the service has been verified.
theorem exists_repository : ∃ repo : PostgresLedgerRepository,
    LedgerRepository.getEntry repo e.entryId = .ok e ∧
    LedgerRepository.getEntriesByType repo e.entryType =
      .ok (s.shared.db.committed.chain e.entryType) := by
  obtain ⟨repo, hr⟩ := h.valid
  refine ⟨repo, ?_, ?_⟩
  case refine_1 =>
    change repo.toTables.getEntry e.entryId = _
    rw [hr, h.getEntry_of_mem he]
  case refine_2 =>
    change Except.ok (repo.toTables.getEntriesByType e.entryType) = _
    rw [hr]
    exact congrArg Except.ok (h.sortByPosition_chain e.entryType)

theorem verified_of_mem :
    (e.chainPosition = 1 → verified e.entryId e (e.previousHash == config.genesisHash) =
      ⟨e.entryId, true, true, ""⟩) ∧
    (e.chainPosition ≠ 1 →
      verified e.entryId e (linked e (s.shared.db.committed.chain e.entryType)) =
        ⟨e.entryId, true, true, ""⟩) := by
  obtain ⟨repo, hg, hc⟩ := h.exists_repository he
  have hv := verifyEntry_of_wellFormed hg hc (h.wellFormed _) (Tables.mem_chain he)
  rw [verifyEntry_eq hg, hc] at hv
  constructor
  case left  => intro hp; rw [if_pos hp] at hv; exact Except.ok.inj hv
  case right => intro hp; rw [if_neg hp] at hv; exact Except.ok.inj hv

theorem checkChain_of_mem {first last : Option LedgerEntryRecord} (hb : ∀ x ∈ first, x = e)
    (hl : ∀ x ∈ last, x = e) :
    ∃ n, 0 < n ∧
      checkChain config (PostgresClient.getEntriesByType s.shared.db.committed e.entryType)
        (first.map (·.entryId)) (last.map (·.entryId)) = .ok ⟨true, n, none, ""⟩ := by
  obtain ⟨repo, _, hc⟩ := h.exists_repository he
  have hw := h.wellFormed e.entryType
  have hm := Tables.mem_chain he
  have hn : ((s.shared.db.committed.chain e.entryType).map (·.entryId)).Nodup :=
    h.nodup_entryIds.sublist (List.filter_sublist.map _)
  have hv := verifyChain_of_wellFormed hc hw hn first last (fun x hx => hb x hx ▸ hm)
    (fun x hx => hl x hx ▸ hm)
  rw [verifyChain, hc] at hv
  rw [h.getEntriesByType_of_mem he]
  refine ⟨_, ?_, hv⟩
  obtain ⟨tip, ht, hp, hq⟩ := position_bounds hw.positions hm
  refine List.countP_pos_iff.mpr ⟨e, hm, decide_eq_true ⟨?_, ?_⟩⟩
  case refine_1 =>
    cases first
    case none   => exact hp
    case some x => rw [hb x rfl]; exact le_rfl
  case refine_2 =>
    cases last
    case none   => rw [ht]; exact hq
    case some x => rw [hl x rfl]; exact le_rfl

theorem getChainTip_of_mem : ∃ last,
    PostgresClient.getChainTip s.shared.db.committed e.entryType = .ok last.toTip ∧
    e.chainPosition ≤ last.chainPosition ∧ (last.chainPosition = e.chainPosition → last = e) := by
  have hw := h.wellFormed e.entryType
  have hm := Tables.mem_chain he
  obtain ⟨last, hl, _, hq⟩ := position_bounds hw.positions hm
  refine ⟨last, ?_, hq, fun hp => ?_⟩
  case refine_1 =>
    rw [PostgresClient.getChainTip, (h.origin e he).left.text]
    simp only [Tables.getChainTip, tipRow_eq hw, hl]
  case refine_2 =>
    exact List.inj_on_of_nodup_map (nodup_of_positions hw.positions) (List.mem_of_getLast? hl) hm hp

end Cluster.Sound

end Reads

end Ledger
