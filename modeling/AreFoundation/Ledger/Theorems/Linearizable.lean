import AreFoundation.Library.Linearization
import AreFoundation.Ledger.Transactions

open Interleaving ReadCommitted Linearization

namespace Ledger.Transactions

section Alone

variable [Database] {call : Call} {repo : PostgresLedgerRepository}

def Call.alone (call : Call) (repo : PostgresLedgerRepository) :
    Except RepositoryError WriteResult × PostgresLedgerRepository :=
  PostgresClient.writeEntryWithOutbox repo call.input call.ids

namespace Call

-- The driver and the lock have taken the input.
structure Accepted (call : Call) : Prop where
  isJson  : Database.isJson call.input.outboxPayload
  refused : ¬(Sql.text call.input.entryType = none ∨
              Database.hashtext call.input.entryType = BitVec.intMin 32)

theorem alone_of_not_isJson (h : ¬Database.isJson call.input.outboxPayload) :
    call.alone repo = (.error .unavailable, repo) :=
  if_pos h

theorem alone_of_refused (hj : Database.isJson call.input.outboxPayload) (h : call.Refused) :
    call.alone repo = (.error .unavailable, repo) := by
  unfold Refused at h
  rw [alone, PostgresClient.writeEntryWithOutbox, if_neg (not_not.mpr hj), if_pos h]

section Accepted

variable (h : call.Accepted)

include h

theorem alone_of_error (ht : repo.checkTip call.input = .error err) :
    call.alone repo = (.error err, repo) := by
  rw [alone, PostgresClient.writeEntryWithOutbox, if_neg (not_not.mpr h.isJson), if_neg h.refused, ht]

variable (ht : repo.checkTip call.input = .ok position)

include ht

theorem alone_of_not_stored (hs : call.input.stored = none) :
    call.alone repo = (.error .unavailable, repo) := by
  rw [alone, PostgresClient.writeEntryWithOutbox, if_neg (not_not.mpr h.isJson), if_neg h.refused, ht,
    hs]

variable (hs : call.input.stored = some row)

include hs

theorem alone_of_violation (hi : ¬repo.Insertable (row.toEntry call.ids position)) :
    call.alone repo = (.error .chainIntegrityViolation, repo) := by
  rw [alone, PostgresClient.writeEntryWithOutbox, if_neg (not_not.mpr h.isJson), if_neg h.refused, ht,
    hs]
  cases Database.jsonb call.input.outboxPayload
  case none => exact if_neg hi
  case some =>
    simp only [PostgresLedgerRepository.insertEntry, dif_neg hi]
    rfl

variable (hi : repo.Insertable (row.toEntry call.ids position))

include hi

theorem alone_of_not_jsonb (hp : Database.jsonb call.input.outboxPayload = none) :
    call.alone repo = (.error .unavailable, repo) := by
  rw [alone, PostgresClient.writeEntryWithOutbox, if_neg (not_not.mpr h.isJson), if_neg h.refused, ht,
    hs, hp]
  exact if_pos hi

variable (hp : Database.jsonb call.input.outboxPayload = some payload)

include hp

theorem alone_of_duplicate
    (ho : ¬repo.AdmitsOutbox (call.outboxRow row payload)) :
    call.alone repo = (.error .unavailable, repo) := by
  rw [outboxRow] at ho
  rw [alone, PostgresClient.writeEntryWithOutbox, if_neg (not_not.mpr h.isJson), if_neg h.refused, ht,
    hs, hp]
  simp only [PostgresLedgerRepository.insertEntry, dif_pos hi, dif_neg ho]
  rfl

theorem alone_of_admitted
    (ho : repo.AdmitsOutbox (call.outboxRow row payload)) :
    ∃ repo', call.alone repo =
        (.ok ⟨call.input.toEntry call.ids position, call.input.toOutbox call.ids⟩, repo') ∧
      repo'.toTables =
        { ledgerEntries     := repo.ledgerEntries ++ [row.toEntry call.ids position]
          ledgerWriteOutbox := repo.ledgerWriteOutbox ++ [call.outboxRow row payload] } := by
  rw [outboxRow] at ho
  rw [alone, PostgresClient.writeEntryWithOutbox, if_neg (not_not.mpr h.isJson), if_neg h.refused, ht,
    hs, hp]
  simp only [PostgresLedgerRepository.insertEntry, dif_pos hi, dif_pos ho]
  exact ⟨_, rfl, rfl⟩

end Accepted

end Call

end Alone

def Pc.result : Pc → Option (Except RepositoryError WriteResult)
  | .returned result => some result
  | _                => none

end Ledger.Transactions

namespace Ledger.Tables

open Transactions

variable {t : Tables}

theorem foldl_hold (keys : List Key) : (keys.map Change.hold).foldl apply t = t := by
  induction keys
  case nil       => rfl
  case cons _ hi => exact hi

theorem foldl_insertEntry (entry : LedgerEntryRecord) :
    (Call.insertEntry entry).foldl apply t = t.apply (.insertEntry entry) :=
  foldl_hold _

theorem subset_foldl (ds : List Change) : t.ledgerEntries ⊆ (ds.foldl apply t).ledgerEntries := by
  induction ds generalizing t
  case nil => exact List.Subset.refl _
  case cons d ds hi =>
    refine List.Subset.trans ?_ hi
    cases d
    case insertEntry => exact List.subset_append_left _ _
    all_goals exact List.Subset.refl _

-- Entries of other types do not matter for the tip of a chain.
theorem checkTip_insertEntry (h : entry.entryType ≠ input.entryType) :
    (t.apply (.insertEntry entry)).checkTip input = t.checkTip input := by
  simp [checkTip, tipRow, apply, h]

-- Each unique index has a key of its own among those that an entry comes with.
theorem Insertable.insertEntry (h : t.Insertable entry)
    (hn : ∀ d ∈ Call.insertEntry entry, ∀ d' ∈ Call.insertEntry entry', d.key ≠ d'.key) :
    (t.apply (.insertEntry entry')).Insertable entry := by
  refine ⟨Table.admits_append.mpr ⟨h.primaryKey, fun k hk he => ?_⟩,
    Table.admits_append.mpr ⟨h.typePosition, fun k hk he => ?_⟩,
    Table.admits_append.mpr ⟨h.idempotency, fun k hk he => ?_⟩⟩
  case refine_1 =>
    have hi : entry'.entryId = entry.entryId := Option.some.inj (he.trans hk.symm)
    exact hn (.insertEntry entry) (by simp [Call.insertEntry]) (.insertEntry entry')
      (by simp [Call.insertEntry]) (by simp [Change.key, hi])
  case refine_2 =>
    have hi : (entry'.entryType, entry'.chainPosition) = (entry.entryType, entry.chainPosition) :=
      Option.some.inj (he.trans hk.symm)
    obtain ⟨ht, hp⟩ := Prod.mk.inj hi
    exact hn (.hold <| .typePosition entry.entryType entry.chainPosition)
      (by simp [Call.insertEntry, Call.indexed])
      (.hold <| .typePosition entry'.entryType entry'.chainPosition)
      (by simp [Call.insertEntry, Call.indexed]) (by simp [Change.key, ht, hp])
  case refine_3 =>
    obtain ⟨key, hy, rfl⟩ := Option.map_eq_some_iff.mp hk
    obtain ⟨key', hy', hi⟩ := Option.map_eq_some_iff.mp he
    obtain ⟨ht, rfl⟩ := Prod.mk.inj hi
    exact hn (.hold <| .typeIdempotencyKey entry.entryType key')
      (by simp [Call.insertEntry, Call.indexed, hy])
      (.hold <| .typeIdempotencyKey entry'.entryType key')
      (by simp [Call.insertEntry, Call.indexed, hy']) (by simp [Change.key, ht])

theorem Insertable.insertOutbox (h : t.Insertable entry) :
    (t.apply (.insertOutbox record)).Insertable entry :=
  ⟨h.primaryKey, h.typePosition, h.idempotency⟩

end Ledger.Tables

namespace Ledger.Transactions

theorem text_eq_some (h : Sql.text s = some s') : s' = s := by
  unfold Sql.text at h
  split at h
  case isTrue  => cases h
  case isFalse => exact (Option.some.inj h).symm

theorem varchar_of_length_le (hl : s.length ≤ n) (h : Sql.varchar n s = some s') : s' = s := by
  obtain ⟨_, hs, h⟩ := Option.bind_eq_some_iff.mp h
  cases text_eq_some hs
  rw [if_pos hl] at h
  exact (Option.some.inj h).symm

-- What the columns make of the values that are hashed.
structure StoredAs (input row : EntryWriteInput) : Prop where
  entryType    : Sql.varchar 50 input.entryType = some row.entryType
  agentId      : Sql.varchar 100 input.agentId = some row.agentId
  content      : row.content = input.content
  contentType  : Sql.varchar 100 input.contentType = some row.contentType
  sourceId     : Sql.varchar 100 input.sourceId = some row.sourceId
  entryHash    : Sql.varchar 64 input.entryHash = some row.entryHash
  previousHash : Sql.varchar 64 input.previousHash = some row.previousHash
  writtenTs    : Sql.timestamptz input.writtenTs = some row.writtenTs

theorem storedAs {input row : EntryWriteInput} (h : input.stored = some row) : StoredAs input row := by
  simp only [EntryWriteInput.stored, Option.bind_eq_bind, Option.bind_eq_some_iff, Option.pure_def] at h
  obtain ⟨_, h₁, _, h₂, _, h₃, _, h₄, _, _, _, _, _, h₅, _, h₆, _, h₇, h⟩ := h
  cases h
  exact ⟨h₁, h₂, rfl, h₃, h₄, h₅, h₆, h₇⟩

theorem stored_entryType {input row : EntryWriteInput} (hl : input.entryType.length ≤ 50)
    (h : input.stored = some row) : row.entryType = input.entryType :=
  varchar_of_length_le hl (storedAs h).entryType

-- Keys are taken in the order of the statements.
def Key.level : Key → Nat
  | .advisory _ => 0
  | .outboxId _ => 2
  | _           => 1

theorem Key.level_le (k : Key) : k.level ≤ 2 := by
  cases k <;> simp [level]

theorem level_of_insertEntry (h : d ∈ Call.insertEntry entry) : d.key.level = 1 := by
  rcases List.mem_cons.mp h with rfl | h
  case inl => rfl
  case inr =>
    obtain ⟨k, hk, rfl⟩ := List.mem_map.mp h
    rcases List.mem_cons.mp hk with rfl | hk
    case inl => rfl
    case inr =>
      obtain ⟨key, _, rfl⟩ := Option.map_eq_some_iff.mp (Option.mem_toList.mp hk)
      rfl

section Stages

variable [Database]

-- What is known about a call at each of its points. What has been read under the lock is still true.
def Stage (call : Call) (i : ι) (pc : Pc) (db : Connections ι) : Prop :=
  match pc with
  | .start                    => db.pending i = []
  | .locking                  =>
    db.pending i = [] ∧ Database.isJson call.input.outboxPayload
  | .selecting                => call.Accepted ∧ db.pending i = [.hold call.lockKey]
  | .insertingEntry position  =>
    call.Accepted ∧ db.committed.checkTip call.input = .ok position ∧
      db.pending i = [.hold call.lockKey]
  | .insertingOutbox position =>
    call.Accepted ∧ db.committed.checkTip call.input = .ok position ∧
      ∃ row, call.input.stored = some row ∧
        db.committed.Insertable (row.toEntry call.ids position) ∧
        db.pending i = .hold call.lockKey ::
          Call.insertEntry (row.toEntry call.ids position)
  | .committing position      =>
    call.Accepted ∧ db.committed.checkTip call.input = .ok position ∧
      ∃ row payload, call.input.stored = some row ∧
        Database.jsonb call.input.outboxPayload = some payload ∧
        db.committed.Insertable (row.toEntry call.ids position) ∧
        db.committed.AdmitsOutbox (call.outboxRow row payload) ∧
        db.pending i = .hold call.lockKey ::
          (Call.insertEntry (row.toEntry call.ids position) ++
            [.insertOutbox <| call.outboxRow row payload])
  | .rollingBack _            => True
  | .returned _               => db.pending i = []

-- A transaction that is rolled back has failed at the time of the statement before.
def Evidence (call : Call) (repo : PostgresLedgerRepository) : Pc → Prop
  | .rollingBack err => call.alone repo = (.error err, repo)
  | _                => True

-- What a step of a call achieves.
structure Advances (call : Call) (i : ι) (db : Connections ι) (pc : Pc) (r : Connections ι × Pc) :
    Prop where
  exclusive : r.1.Exclusive Change.key
  stage     : Stage call i r.2 r.1
  point     : ∀ repo, repo.toTables = db.committed →
                Point (fun repo db => repo.toTables = db.committed) Pc.result call.alone
                  (fun pc _ repo => Evidence call repo pc) repo db pc r.1 r.2

variable {call call' : Call} {i j : ι} {db : Connections ι} {pc pc' : Pc}

-- A statement that fails leaves the transaction to be rolled back.
theorem Advances.fails (hx : db.Exclusive Change.key) (hp : pc.result = none)
    (h : ∀ repo, repo.toTables = db.committed → call.alone repo = (.error err, repo)) :
    Advances call i db pc (db, .rollingBack err) where
  exclusive := hx
  stage     := trivial
  point repo hr := .observe hp rfl hr (h repo hr)

section Step

variable [DecidableEq ι] (hx : db.Exclusive Change.key)

include hx

theorem step_start (h : Stage call i .start db) :
    Advances call i db .start (step call i db .start) := by
  simp only [step]
  split
  case isTrue hj =>
    exact ⟨hx, ⟨h, hj⟩, fun repo hr => .prepare rfl rfl hr fun _ _ => trivial⟩
  case isFalse hj =>
    exact ⟨hx, h, fun repo hr => .perform rfl rfl (Call.alone_of_not_isJson hj) hr⟩

theorem step_locking (h : Stage call i .locking db) (hr : Ready call i db .locking) :
    Advances call i db .locking (step call i db .locking) := by
  obtain ⟨hp, hj⟩ := h
  simp only [step]
  split
  case isTrue h =>
    refine ⟨hx.rollback, Store.rollback_pending_self, fun repo hr => ?_⟩
    exact .perform rfl rfl (Call.alone_of_refused hj h) hr
  case isFalse h =>
    refine ⟨hx.write fun d hd => ?_, ⟨⟨hj, h⟩, ?_⟩, fun repo hr => ?_⟩
    case refine_1 =>
      rw [List.mem_singleton.mp hd]
      exact hr _ (by simp [Call.wants, h, Change.key])
    case refine_2 => rw [Store.write_pending_self, hp]; rfl
    case refine_3 => exact .prepare rfl rfl hr fun _ _ => trivial

theorem step_selecting (h : Stage call i .selecting db) :
    Advances call i db .selecting (step call i db .selecting) := by
  obtain ⟨ha, hp⟩ := h
  have hv : db.view Tables.apply i = db.committed := by rw [Store.view, hp]; rfl
  simp only [step, hv]
  split
  case h_1 err ht =>
    exact .fails hx rfl fun repo hr => Call.alone_of_error ha (hr ▸ ht)
  case h_2 position ht =>
    exact ⟨hx, ⟨ha, ht, hp⟩, fun repo hr => .prepare rfl rfl hr fun _ _ => trivial⟩

theorem step_insertingEntry (h : Stage call i (.insertingEntry position) db)
    (hr : Ready call i db (.insertingEntry position)) :
    Advances call i db (.insertingEntry position)
      (step call i db (.insertingEntry position)) := by
  obtain ⟨ha, ht, hp⟩ := h
  have hv : db.view Tables.apply i = db.committed := by rw [Store.view, hp]; rfl
  simp only [step, hv]
  split
  case h_1 hs =>
    refine .fails hx rfl fun repo hr => ?_
    exact Call.alone_of_not_stored ha (hr ▸ ht) hs
  case h_2 row hs =>
    split
    case isTrue hi =>
      refine ⟨hx.write fun d hd => ?_, ⟨ha, ht, row, hs, hi, ?_⟩, fun repo hr => ?_⟩
      case refine_1 =>
        refine hr _ ?_
        simp only [Call.wants, hs]
        exact List.mem_map_of_mem hd
      case refine_2 => rw [Store.write_pending_self, hp]; rfl
      case refine_3 => exact .prepare rfl rfl hr fun _ _ => trivial
    case isFalse hi =>
      refine .fails hx rfl fun repo hr => Call.alone_of_violation ha (hr ▸ ht) hs ?_
      exact fun h => hi (hr ▸ h)

theorem step_insertingOutbox (h : Stage call i (.insertingOutbox position) db)
    (hr : Ready call i db (.insertingOutbox position)) :
    Advances call i db (.insertingOutbox position)
      (step call i db (.insertingOutbox position)) := by
  obtain ⟨ha, ht, row, hs, hi, hp⟩ := h
  have hv {record : OutboxRecord} : (db.view Tables.apply i).AdmitsOutbox record ↔
      db.committed.AdmitsOutbox record := by
    rw [Store.view, hp, List.foldl_cons, Tables.foldl_insertEntry]
    rfl
  simp only [step, hs, hv]
  split
  case h_1 row' payload he hj =>
    cases he
    split
    case isTrue ho =>
      refine ⟨hx.write fun d hd => ?_, ⟨ha, ht, row, payload, hs, hj, hi, ho, ?_⟩, fun repo hr => ?_⟩
      case refine_1 =>
        rw [List.mem_singleton.mp hd]
        exact hr _ (by simp [Call.wants, hj, Change.key, Call.outboxRow, EntryWriteInput.toOutbox])
      case refine_2 => rw [Store.write_pending_self, hp]; rfl
      case refine_3 => exact .prepare rfl rfl hr fun _ _ => trivial
    case isFalse ho =>
      refine .fails hx rfl fun repo hr => ?_
      exact Call.alone_of_duplicate ha (hr ▸ ht) hs (hr ▸ hi) hj
        fun h => ho (hr ▸ h)
  case h_2 hn =>
    refine .fails hx rfl fun repo hr => ?_
    have hj : Database.jsonb call.input.outboxPayload = none := by
      by_contra hj
      obtain ⟨payload, hj⟩ := Option.ne_none_iff_exists'.mp hj
      exact hn row payload rfl hj
    exact Call.alone_of_not_jsonb ha (hr ▸ ht) hs (hr ▸ hi) hj

theorem step_committing (h : Stage call i (.committing position) db) :
    Advances call i db (.committing position) (step call i db (.committing position)) := by
  obtain ⟨ha, ht, row, payload, hs, hj, hi, ho, hp⟩ := h
  refine ⟨hx.commit, Store.commit_pending_self, fun repo hr => ?_⟩
  obtain ⟨repo', he, hr'⟩ := Call.alone_of_admitted ha (hr ▸ ht) hs
    (hr ▸ hi) hj (hr ▸ ho)
  refine .perform rfl rfl he ?_
  simp only [step, Store.commit_committed, Store.view]
  rw [hr', hp, List.foldl_cons, List.foldl_append, Tables.foldl_insertEntry, ← hr]
  rfl

theorem step_advances (h : Stage call i pc db) (hr : Ready call i db pc) :
    Advances call i db pc (step call i db pc) := by
  cases pc
  case start           => exact step_start hx h
  case locking         => exact step_locking hx h hr
  case selecting       => exact step_selecting hx h
  case insertingEntry  => exact step_insertingEntry hx h hr
  case insertingOutbox => exact step_insertingOutbox hx h hr
  case committing      => exact step_committing hx h
  case rollingBack     =>
    exact ⟨hx.rollback, Store.rollback_pending_self, fun repo hr => .lookBack rfl rfl hr fun _ => id⟩
  case returned        => exact ⟨hx, h, fun repo hr => .idle rfl rfl hr⟩

end Step

section Stable

-- What the transaction of a call is about to commit.
structure Commits (call : Call) (pending : List Change) (entry : LedgerEntryRecord)
    (record : OutboxRecord) : Prop where
  pending   : pending = .hold call.lockKey :: (Call.insertEntry entry ++ [.insertOutbox record])
  entryType : entry.entryType = call.input.entryType

theorem Stage.commits (h : Stage call i (.committing position) db)
    (hl : call.input.entryType.length ≤ 50) :
    ∃ entry record, Commits call (db.pending i) entry record := by
  obtain ⟨_, _, row, payload, hs, _, _, _, hp⟩ := h
  exact ⟨_, _, hp, stored_entryType hl hs⟩

namespace Commits

variable [DecidableEq ι] (h : Commits call (db.pending i) entry record)

include h

theorem committed : (db.commit i Tables.apply).committed =
    (db.committed.apply (.insertEntry entry)).apply (.insertOutbox record) := by
  rw [Store.commit_committed, Store.view, h.pending, List.foldl_cons, List.foldl_append,
    Tables.foldl_insertEntry]
  rfl

variable (hx : db.Exclusive Change.key) (hj : j ≠ i)

include hx hj

-- Entries of one type are written under one lock.
theorem checkTip (hd : .hold call'.lockKey ∈ db.pending j) :
    (db.commit i Tables.apply).committed.checkTip call'.input =
      db.committed.checkTip call'.input := by
  rw [h.committed]
  refine Tables.checkTip_insertEntry fun ht => hj (hx.eq hd (h.pending ▸ List.mem_cons_self) ?_)
  rw [h.entryType] at ht
  simp only [Change.key, Call.lockKey, ht]

theorem insertable (hd : ∀ d ∈ Call.insertEntry entry', d ∈ db.pending j)
    (ha : db.committed.Insertable entry') :
    (db.commit i Tables.apply).committed.Insertable entry' := by
  rw [h.committed]
  refine .insertOutbox <| .insertEntry ha fun d hd' d' he hk => hj (hx.eq (hd d hd') ?_ hk)
  rw [h.pending]
  exact List.mem_cons_of_mem _ (List.mem_append_left _ he)

theorem admitsOutbox (hd : .insertOutbox record' ∈ db.pending j)
    (ha : db.committed.AdmitsOutbox record') :
    (db.commit i Tables.apply).committed.AdmitsOutbox record' := by
  rw [h.committed]
  have hm : .insertOutbox record ∈ db.pending i := by simp [h.pending]
  refine Table.admits_append.mpr ⟨ha, fun k hk he => hj (hx.eq hd hm ?_)⟩
  exact congrArg Key.outboxId <| Option.some.inj (hk.trans he.symm)

end Commits

theorem Stage.congr {db' : Connections ι} (h : Stage call' j pc db)
    (hp : db'.pending j = db.pending j) (hc : db'.committed = db.committed) : Stage call' j pc db' := by
  cases pc
  case rollingBack => trivial
  all_goals simpa only [Stage, hp, hc] using h

variable [DecidableEq ι]

theorem Stage.commit (h : Stage call' j pc db) (hc : Commits call (db.pending i) entry record)
    (hx : db.Exclusive Change.key) (hj : j ≠ i) : Stage call' j pc (db.commit i Tables.apply) := by
  have hq : (db.commit i Tables.apply).pending j = db.pending j := Store.commit_pending_of_ne hj
  cases pc
  case start       => exact hq.trans h
  case locking     => exact ⟨hq.trans h.left, h.right⟩
  case selecting   => exact ⟨h.left, hq.trans h.right⟩
  case rollingBack => trivial
  case returned    => exact hq.trans h
  case insertingEntry =>
    obtain ⟨ha, ht, hp⟩ := h
    exact ⟨ha, (hc.checkTip hx hj (by simp [hp])).trans ht, hq.trans hp⟩
  case insertingOutbox =>
    obtain ⟨ha, ht, row, hs, hi, hp⟩ := h
    refine ⟨ha, (hc.checkTip hx hj (by simp [hp])).trans ht, row, hs, ?_, hq.trans hp⟩
    exact hc.insertable hx hj (fun d hd => hp ▸ List.mem_cons_of_mem _ hd) hi
  case committing =>
    obtain ⟨ha, ht, row, payload, hs, hb, hi, ho, hp⟩ := h
    refine ⟨ha, (hc.checkTip hx hj (by simp [hp])).trans ht, row, payload, hs, hb, ?_, ?_,
      hq.trans hp⟩
    case refine_1 =>
      refine hc.insertable hx hj (fun d hd => ?_) hi
      exact hp ▸ List.mem_cons_of_mem _ (List.mem_append_left _ hd)
    case refine_2 => exact hc.admitsOutbox hx hj (by simp [hp]) ho

theorem step_effect (call : Call) (i : ι) (db : Connections ι) (pc : Pc) :
    db.Effect i Tables.apply (∃ position, pc = .committing position) (step call i db pc).1 := by
  cases pc <;> simp only [step]
  case committing position => exact .commit ⟨position, rfl⟩
  all_goals repeat' split
  all_goals constructor

theorem pending_step (call : Call) (db : Connections ι) (pc : Pc) (hj : j ≠ i) :
    (step call i db pc).1.pending j = db.pending j :=
  (step_effect call i db pc).pending_of_ne hj

theorem subset_step (call : Call) (i : ι) (db : Connections ι) (pc : Pc) :
    db.committed.ledgerEntries ⊆ (step call i db pc).1.committed.ledgerEntries := by
  have he := step_effect call i db pc
  generalize (step call i db pc).1 = db' at he ⊢
  cases he
  case commit => exact Tables.subset_foldl _
  all_goals exact List.Subset.refl _

theorem committed_step (hp : ∀ position, pc ≠ .committing position) :
    (step call i db pc).1.committed = db.committed :=
  (step_effect call i db pc).committed fun ⟨position, h⟩ => hp position h

theorem step_ne_ok (hp : ∀ position, pc ≠ .committing position) (hr : pc.result = none)
    (result : WriteResult) : (step call i db pc).2 ≠ .returned (.ok result) := by
  cases pc <;> simp only [step]
  case committing position => exact absurd rfl (hp position)
  case returned            => cases hr
  case rollingBack         => nofun
  all_goals repeat' split
  all_goals nofun

theorem Stage.step (h : Stage call' j pc' db) (hi : Stage call i pc db)
    (hl : call.input.entryType.length ≤ 50) (hx : db.Exclusive Change.key) (hj : j ≠ i) :
    Stage call' j pc' (step call i db pc).1 := by
  have he := step_effect call i db pc
  generalize (Transactions.step call i db pc).1 = db' at he ⊢
  cases he
  case read     => exact h
  case write    => exact h.congr (Store.write_pending_of_ne hj) rfl
  case rollback => exact h.congr (Store.rollback_pending_of_ne hj) rfl
  case commit hp =>
    obtain ⟨position, rfl⟩ := hp
    obtain ⟨entry, record, hc⟩ := hi.commits hl
    exact h.commit hc hx hj

end Stable

section Run

variable [DecidableEq ι] {calls : ι → Call} {g : Guard ι (Connections ι) Pc Unit}
variable {s : State ι (Connections ι) Pc} {repo : PostgresLedgerRepository}

def stages (g : Guard ι (Connections ι) Pc Unit)
    (hl : ∀ i, (calls i).input.entryType.length ≤ 50) : Outline (system calls) g where
  inv db                 := db.Exclusive Change.key
  asn i                  := Stage (calls i) i
  stable hj hx hi hb _ _ := hb.step hi (hl _) hx hj
  keeps hx ha hr _       := by
    rw [State.next_locals_self]
    exact ⟨(step_advances hx ha hr).exclusive, (step_advances hx ha hr).stage⟩

theorem stages_opened (hl : ∀ i, (calls i).input.entryType.length ≤ 50) (t : Tables) :
    (stages g hl).Holds (opened ι t) where
  inv   := ⟨nofun⟩
  asn _ := rfl

def points (g : Guard ι (Connections ι) Pc Unit)
    (hl : ∀ i, (calls i).input.entryType.length ≤ 50) :
    Points (system calls) g (stages g hl) (fun i => (calls i).alone)
      (fun repo db => repo.toTables = db.committed) (· = .start) Pc.result where
  evidence i pc _ repo := Evidence (calls i) repo pc
  begins h             := by rw [h]; rfl
  initial h _          := by rw [h]; trivial
  stable _ _ h _ _     := h
  point ho h hr _      := by
    rw [State.next_locals_self]
    exact (step_advances ho.inv (ho.asn _) hr).point _ h

-- A type that is too long could be stored under a shorter name, and then it is written under another
-- lock than the entries of that name.
theorem run_writes_linearizable (hl : ∀ i, (calls i).input.entryType.length ≤ 50)
    (r : Run (system calls) g (opened ι repo.toTables) s) :
    ∃ order, Linearizes (fun repo db => repo.toTables = db.committed) Pc.result
      (fun i => (calls i).alone) repo (Precedes (· = .start) Pc.result r) s order :=
  (points g hl).linearizes (stages_opened hl _) (fun _ => rfl) rfl r

end Run

section Progress

-- The keys that the transaction of a call can have taken. Nothing is said about the rows.
def Locks : Pc → List Change → Prop
  | .start, pending | .locking, pending | .returned _, pending => pending = []
  | .selecting, pending | .insertingEntry _, pending           => ∀ d ∈ pending, d.key.level = 0
  | .insertingOutbox _, pending                                => ∀ d ∈ pending, d.key.level ≤ 1
  | .committing _, _ | .rollingBack _, _                       => True

theorem Locks.level_lt (h : Locks pc pending) (hk : k ∈ call.wants pc) (hd : d ∈ pending) :
    d.key.level < k.level := by
  cases pc <;> simp only [Call.wants] at hk
  case locking => rw [h] at hd; cases hd
  case insertingEntry =>
    rw [h d hd]
    split at hk
    case h_1 => cases hk
    case h_2 =>
      obtain ⟨d', hd', rfl⟩ := List.mem_map.mp hk
      rw [level_of_insertEntry hd']
      exact Nat.one_pos
  case insertingOutbox =>
    have hd := h d hd
    split at hk
    case h_1 => cases hk
    case h_2 =>
      rw [List.mem_singleton.mp hk]
      exact Nat.lt_succ_of_le hd
  all_goals cases hk

theorem Locks.step [DecidableEq ι] {i : ι} {db : Connections ι} (h : Locks pc (db.pending i)) :
    Locks (step call i db pc).2 ((step call i db pc).1.pending i) := by
  cases pc <;> simp only [Transactions.step]
  case start => split <;> exact h
  case locking =>
    split
    case isTrue  => exact Store.rollback_pending_self
    case isFalse =>
      intro d hd
      rw [Store.write_pending_self, h, List.nil_append, List.mem_singleton] at hd
      rw [hd]
      rfl
  case selecting =>
    split
    case h_1 => trivial
    case h_2 => exact h
  case insertingEntry =>
    split
    case h_1 => trivial
    case h_2 =>
      split
      case isFalse => trivial
      case isTrue  =>
        intro d hd
        rw [Store.write_pending_self, List.mem_append] at hd
        rcases hd with hd | hd
        case inl => exact (h d hd).trans_le (Nat.zero_le 1)
        case inr => exact le_of_eq (level_of_insertEntry hd)
  case insertingOutbox =>
    split
    case h_1 => split <;> trivial
    case h_2 => trivial
  case committing  => exact Store.commit_pending_self
  case rollingBack => exact Store.rollback_pending_self
  case returned    => exact h

-- An upper bound for the number of steps that are left.
def Pc.rank : Pc → Nat
  | .start             => 6
  | .locking           => 5
  | .selecting         => 4
  | .insertingEntry _  => 3
  | .insertingOutbox _ => 2
  | .committing _      => 1
  | .rollingBack _     => 1
  | .returned _        => 0

theorem rank_step [DecidableEq ι] (call : Call) (i : ι) (db : Connections ι) (pc : Pc) :
    (step call i db pc).2.rank ≤ pc.rank - 1 := by
  cases pc <;> simp only [step]
  all_goals repeat' split
  all_goals simp [Pc.rank]

variable [DecidableEq ι] {calls : ι → Call} {g : Guard ι (Connections ι) Pc Unit}
variable {s : State ι (Connections ι) Pc}

def Unfinished (s : State ι (Connections ι) Pc) (i : ι) : Prop :=
  ∀ result, s.locals i ≠ .returned result

def locks (calls : ι → Call) (g : Guard ι (Connections ι) Pc Unit) : Outline (system calls) g where
  inv _                := True
  asn i pc db          := Locks pc (db.pending i)
  stable hj _ _ hb _ _ := (pending_step _ _ _ hj).symm ▸ hb
  keeps _ ha _ _       := by
    rw [State.next_locals_self]
    exact ⟨trivial, ha.step⟩

theorem run_locks (r : Run (system calls) g (opened ι t) s) (i : ι) :
    Locks (s.locals i) (s.shared.pending i) := by
  have ho : (locks calls g).Holds (opened ι t) := ⟨trivial, fun _ => rfl⟩
  exact (ho.run r).asn i

-- No deadlock is possible, and a call that gets its turns returns.
theorem run_writes_progress (r : Run (system calls) g (opened ι t) s) :
    (∀ i, Unfinished s i → ∃ j, Unfinished s j ∧ (system calls).allows j () s.shared (s.locals j)) ∧
    ∀ i, 6 ≤ r.turns i → ∃ result, s.locals i = .returned result := by
  refine ⟨fun i hi => ?_, fun i ht => ?_⟩
  case refine_1 =>
    obtain ⟨j, hj, hf⟩ := Store.exists_free (w := fun i => (calls i).wants (s.locals i)) Key.level_le
      (fun i k hk d hd => (run_locks r i).level_lt hk hd) i
    refine ⟨j, ?_, hf⟩
    rcases hj with rfl | hp
    case inl => exact hi
    case inr =>
      intro result he
      have hl := run_locks r j
      rw [he] at hl
      exact hp hl
  case refine_2 =>
    have hr := r.rank_le Pc.rank (rank_step ..) i
    have hs : ((opened ι t).locals i).rank = 6 := rfl
    have hz : (s.locals i).rank = 0 := by omega
    cases hl : s.locals i
    case returned result => exact ⟨result, rfl⟩
    all_goals
      rw [hl] at hz
      cases hz

end Progress

end Stages

namespace Sample

-- Payloads are taken as they are.
scoped instance plain : Database where
  hashtext := Database.polynomial
  isJson _ := true
  jsonb    := some

def unwritten : PostgresLedgerRepository := {}

def contenders (second : Bool) : Call where
  input :=
    { entryType      := "ACTION_RECEIPT"
      agentId        := "agent"
      content        := []
      contentType    := "application/json"
      sourceId       := "source"
      correlationId  := none
      idempotencyKey := none
      entryHash      := if second then "second" else "first"
      previousHash   := "genesis"
      writtenTs      := 1700000000000000000
      outboxPayload  := "null" }
  ids   := if second then ⟨3, 4⟩ else ⟨1, 2⟩

-- The second call waits for the lock until the first one has been committed.
def contention : List (Bool × Unit) :=
  [false, true, false, false, false, false, false, true, true, true].map (·, ())

def contended : State Bool (Connections Bool) Pc :=
  Transition.exec (system contenders).interleaved (opened Bool unwritten.toTables) contention

def contendedRun : Run (system contenders) .any (opened Bool unwritten.toTables) contended :=
  .ofSchedule contention (by decide +kernel)

theorem contended_linearizable :
    contended.locals true = .returned (.error .chainIntegrityViolation) ∧
    ∃ order, Linearizes (fun repo db => repo.toTables = db.committed) Pc.result
      (fun i => (contenders i).alone) unwritten (Precedes (· = .start) Pc.result contendedRun) contended
      order :=
  ⟨by decide +kernel, run_writes_linearizable (by decide) contendedRun⟩

theorem contended_returns : ∃ result, contended.locals false = .returned result := by
  have hc : 6 ≤ contention.countP (·.1 = false) := by decide
  have ht : 6 ≤ contendedRun.turns false := hc.trans_eq (Run.turns_ofSchedule _).symm
  exact (run_writes_progress contendedRun).right false ht

end Sample

end Ledger.Transactions
