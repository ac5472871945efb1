import Mathlib.Data.Fintype.Basic
import AreFoundation.AgentRegistry.Outbox

namespace AgentRegistry

open Calendar Transition

namespace OutboxTable

variable {t t' : OutboxTable} {outboxId : String}

theorem pending?_eq_some_iff : t.pending? outboxId = some x ↔
    ∃ row, t.lookup outboxId = some row ∧ row.status = .pending ∧
      x = ⟨outboxId, row.agentId, row.payload, row.attemptCount⟩ := by
  unfold pending?
  cases t.lookup outboxId
  case none     => simp
  case some row => by_cases h : row.status = .pending <;> simp [h, eq_comm]

theorem outboxId_of_pending? (h : t.pending? outboxId = some x) : x.outboxId = outboxId := by
  obtain ⟨_, _, _, rfl⟩ := pending?_eq_some_iff.mp h
  rfl

theorem pending?_congr (h : t'.lookup outboxId = t.lookup outboxId) :
    t'.pending? outboxId = t.pending? outboxId := by
  rw [pending?, pending?, h]

theorem status?_of_pending? (h : t.pending? outboxId = some x) :
    t.status? outboxId = some .pending := by
  obtain ⟨row, hl, hs, _⟩ := pending?_eq_some_iff.mp h
  simp [status?, hl, hs]

-- A new row does not change the others.
theorem status?_insert (h : t.status? outboxId = some status) (hn : outboxId' ∉ t) :
    OutboxTable.status? (t.insert outboxId' row) outboxId = some status := by
  have ⟨_, hl, _⟩ := Option.map_eq_some_iff.mp h
  rw [← h, status?, status?]
  exact congrArg _ <| Finmap.lookup_insert_of_ne _ <| HashMap.ne_of_lookup_of_not_mem hl hn

theorem ids_of_filterMap {ids : List String} (h : ∀ id ∈ ids, (t.pending? id).isSome) :
    (ids.filterMap t.pending?).map (·.outboxId) = ids := by
  induction ids
  case nil => rfl
  case cons id ids hi =>
    have ⟨x, hx⟩ := Option.isSome_iff_exists.mp <| h id List.mem_cons_self
    rw [List.filterMap_cons_some hx, List.map_cons, outboxId_of_pending? hx,
      hi fun id hm => h id <| List.mem_cons_of_mem _ hm]

end OutboxTable

namespace Processor

variable {t t' : OutboxTable} {pc pc' : Pc} {maxAttempts : Int} {action : Action}

-- What the steps of a processor do.
inductive Acts (maxAttempts : Int) (t : OutboxTable) : Action → Pc → OutboxTable → Pc → Prop
  | select (h : t.Selects ids) :
    Acts maxAttempts t (.select ids) .idle t (.emitting <| ids.filterMap t.pending?)
  | stop : Acts maxAttempts t .stop (.emitting rows) t .idle
  | emit : Acts maxAttempts t (.emit ok) (.emitting (row :: rows)) t (.updating row ok rows)
  | applied : Acts maxAttempts t (.update true now) (.updating row ok rows)
      (recordAttempt maxAttempts row ok now t) (.emitting rows)
  | lost : Acts maxAttempts t (.update false now) (.updating row ok rows) t (.emitting rows)

theorem acts (maxAttempts : Int) : {action : Action} → {pc : Pc} → (action.Allowed t pc) →
    Acts maxAttempts t action pc (step maxAttempts t action pc).1 (step maxAttempts t action pc).2
  | .select _,       .idle,              h => .select h
  | .stop,           .emitting _,        _ => .stop
  | .emit _,         .emitting (_ :: _), _ => .emit
  | .update true _,  .updating _ _ _,    _ => .applied
  | .update false _, .updating _ _ _,    _ => .lost

theorem lookup_recordAttempt_of_ne (h : outboxId ≠ row.outboxId) :
    (recordAttempt maxAttempts row ok now t).lookup outboxId = t.lookup outboxId := by
  rw [recordAttempt, HashMap.lookup_modify, if_neg h]

theorem status?_recordAttempt_of_ne (h : outboxId ≠ row.outboxId) :
    (recordAttempt maxAttempts row ok now t).status? outboxId = t.status? outboxId :=
  congrArg _ <| lookup_recordAttempt_of_ne h

theorem status?_recordAttempt (h : t.lookup row.outboxId = some r) :
    (recordAttempt maxAttempts row ok now t).status? row.outboxId =
      some (attempted maxAttempts row ok now r).status := by
  simp [OutboxTable.status?, recordAttempt, HashMap.lookup_modify, h]

-- Only the rows that a processor has in hand change.
theorem Acts.lookup_eq (h : Acts maxAttempts t action pc t' pc')
    (hn : ∀ row ∈ pc.hand, outboxId ≠ row.outboxId) : t'.lookup outboxId = t.lookup outboxId := by
  cases h
  case applied => exact lookup_recordAttempt_of_ne <| hn _ List.mem_cons_self
  all_goals rfl

-- What a processor has in hand after a step comes from what it had before, or from a query.
theorem Acts.hand (h : Acts maxAttempts t action pc t' pc') (hr : row ∈ pc'.hand) :
    row ∈ pc.hand ∨ ∃ ids, action = .select ids ∧ row.outboxId ∈ ids := by
  cases h
  case select ids _ =>
    have ⟨id, hm, hp⟩ := List.mem_filterMap.mp hr
    exact .inr ⟨ids, rfl, OutboxTable.outboxId_of_pending? hp ▸ hm⟩
  case stop    => cases hr
  case emit    => exact .inl hr
  case applied => exact .inl <| List.mem_cons_of_mem _ hr
  case lost    => exact .inl <| List.mem_cons_of_mem _ hr

-- The rows are pending, as they were when they were read.
structure Held (t : OutboxTable) (rows : List PendingRow) : Prop where
  nodup  : (rows.map (·.outboxId)).Nodup
  stored : ∀ row ∈ rows, t.pending? row.outboxId = some row

namespace Held

theorem nil : Held t [] where
  nodup  := List.nodup_nil
  stored := nofun

theorem select (h : t.Selects ids) : Held t (ids.filterMap t.pending?) where
  nodup := by
    obtain ⟨hn, _, hp, _⟩ := h
    rwa [OutboxTable.ids_of_filterMap hp]
  stored row hr := by
    have ⟨id, _, hp⟩ := List.mem_filterMap.mp hr
    rwa [OutboxTable.outboxId_of_pending? hp]

theorem tail (h : Held t (row :: rows)) : Held t rows where
  nodup  := (List.nodup_cons.mp h.nodup).right
  stored := fun _ hr => h.stored _ <| List.mem_cons_of_mem _ hr

theorem ne_of_mem_tail (h : Held t (row :: rows)) (hr : row' ∈ rows) :
    row'.outboxId ≠ row.outboxId := by
  have hn : row.outboxId ∉ rows.map (·.outboxId) := (List.nodup_cons.mp h.nodup).left
  exact fun he => hn <| List.mem_map.mpr ⟨row', hr, he⟩

theorem of_lookup_eq (h : Held t rows)
    (hl : ∀ row ∈ rows, t'.lookup row.outboxId = t.lookup row.outboxId) : Held t' rows where
  nodup       := h.nodup
  stored row hr := (OutboxTable.pending?_congr <| hl row hr).trans <| h.stored row hr

theorem ne_of_not_mem (h : Held t rows) (hr : row ∈ rows) (hn : outboxId ∉ t) :
    row.outboxId ≠ outboxId := by
  obtain ⟨_, hl, _⟩ := OutboxTable.pending?_eq_some_iff.mp <| h.stored row hr
  exact HashMap.ne_of_lookup_of_not_mem hl hn

theorem insert (h : Held t rows) (hn : outboxId ∉ t) : Held (t.insert outboxId r) rows :=
  h.of_lookup_eq fun _ hr => Finmap.lookup_insert_of_ne _ <| h.ne_of_not_mem hr hn

theorem acts (h : Held t pc.hand) (ha : Acts maxAttempts t action pc t' pc') : Held t' pc'.hand := by
  cases ha
  case select hs => exact .select hs
  case stop      => exact .nil
  case emit      => exact h
  case applied   =>
    exact h.tail.of_lookup_eq fun _ hr => lookup_recordAttempt_of_ne <| h.ne_of_mem_tail hr
  case lost      => exact h.tail

end Held

section Processors

variable {s s₁ s₂ : State ι} {outboxId : String}

abbrev State.init (t : OutboxTable) : State ι :=
  ⟨t, fun _ => .idle⟩

-- A batch that is selected shares no row with what other processors have in hand.
def Apart : Guard (State ι) (Event ι)
  | s, .act i (.select ids) => ∀ j ≠ i, ∀ row ∈ (s.pcs j).hand, row.outboxId ∉ ids
  | _, _                    => True

instance [Fintype ι] [DecidableEq ι] {s : State ι} : (e : Event ι) → Decidable (Apart s e)
  | .insert ..            => .isTrue trivial
  | .act _ (.select _)    => inferInstanceAs <| Decidable (∀ j ≠ _, ∀ row ∈ _, _ ∉ _)
  | .act _ .stop          => .isTrue trivial
  | .act _ (.emit _)      => .isTrue trivial
  | .act _ (.update _ _)  => .isTrue trivial

structure Exclusive (s : State ι) : Prop where
  held     : ∀ i, Held s.table (s.pcs i).hand
  disjoint : ∀ i j, i ≠ j → ∀ row ∈ (s.pcs i).hand, ∀ row' ∈ (s.pcs j).hand,
               row.outboxId ≠ row'.outboxId

namespace Exclusive

theorem init : Exclusive (State.init t : State ι) where
  held _     := .nil
  disjoint _ := nofun

theorem insert (h : Exclusive s) (hn : outboxId ∉ s.table) :
    Exclusive { s with table := s.table.insert outboxId row } where
  held i   := (h.held i).insert hn
  disjoint := h.disjoint

variable [DecidableEq ι] {maxAttempts : ι → Int}

theorem act (h : Exclusive s) (ha : action.Allowed s.table (s.pcs i)) (hg : Apart s (.act i action)) :
    Exclusive ((processors maxAttempts).step s (.act i action)) := by
  have ha := acts (maxAttempts i) ha
  -- The processor takes no row that another one has in hand.
  have hd : ∀ j ≠ i, ∀ row ∈ (s.pcs j).hand,
      ∀ row' ∈ (step (maxAttempts i) s.table action (s.pcs i)).2.hand,
        row.outboxId ≠ row'.outboxId := by
    intro j hj row hr row' hr' he
    obtain hr' | ⟨ids, rfl, hm⟩ := ha.hand hr'
    case inl => exact h.disjoint j i hj row hr row' hr' he
    case inr => exact hg j hj row hr (he ▸ hm)
  constructor
  case held =>
    intro j
    by_cases hj : j = i
    case pos =>
      subst hj
      rw [act_table, act_pcs_self]
      exact (h.held j).acts ha
    case neg =>
      rw [act_table, act_pcs_of_ne hj]
      exact (h.held j).of_lookup_eq fun row hr => ha.lookup_eq <| h.disjoint j i hj row hr
  case disjoint =>
    intro j k hjk
    by_cases hj : j = i
    case pos =>
      subst hj
      rw [act_pcs_self, act_pcs_of_ne (Ne.symm hjk)]
      exact fun row hr row' hr' => Ne.symm <| hd k (Ne.symm hjk) row' hr' row hr
    case neg =>
      by_cases hk : k = i
      case pos =>
        subst hk
        rw [act_pcs_self, act_pcs_of_ne hj]
        exact hd j hj
      case neg =>
        rw [act_pcs_of_ne hj, act_pcs_of_ne hk]
        exact h.disjoint j k hjk

theorem step (h : Exclusive s) (ha : (processors maxAttempts).allows s e) (hg : Apart s e) :
    Exclusive ((processors maxAttempts).step s e) := by
  cases e
  case insert => exact h.insert ha
  case act    => exact h.act ha hg

theorem run (r : Run (processors maxAttempts) Apart (State.init t) s) : Exclusive s :=
  r.invariant step init

end Exclusive

variable [DecidableEq ι] {maxAttempts : ι → Int}

theorem delivered_step (h : Exclusive s) (ha : (processors maxAttempts).allows s e)
    (hd : s.table.status? outboxId = some .delivered) :
    ((processors maxAttempts).step s e).table.status? outboxId = some .delivered := by
  cases e
  case insert => exact OutboxTable.status?_insert hd ha
  case act i action =>
    rw [act_table, ← hd, OutboxTable.status?, OutboxTable.status?]
    refine congrArg _ <| (acts (maxAttempts i) ha).lookup_eq ?_
    rintro row hr rfl
    rw [OutboxTable.status?_of_pending? <| (h.held i).stored row hr] at hd
    cases hd

theorem run_delivered_stays (r₁ : Run (processors maxAttempts) Apart (State.init t) s₁)
    (r₂ : Run (processors maxAttempts) Apart s₁ s₂)
    (h : s₁.table.status? outboxId = some .delivered) :
    s₂.table.status? outboxId = some .delivered := by
  let P (s : State ι) : Prop := Exclusive s ∧ s.table.status? outboxId = some .delivered
  have hs : P s₂ := by
    refine r₂.invariant (P := P) ?_ ⟨.run r₁, h⟩
    exact fun ⟨hx, hd⟩ ha hg => ⟨hx.step ha hg, delivered_step hx ha hd⟩
  exact hs.right

end Processors

-- What an observer sees of a run.
inductive Happening
  | emitted (outboxId : String) (ok : Bool)
  | applied (outboxId : String)
  deriving DecidableEq

def happenings : Action → Pc → List Happening
  | .emit ok,       .emitting (row :: _) => [.emitted row.outboxId ok]
  | .update true _, .updating row _ _    => [.applied row.outboxId]
  | _,              _                    => []

-- The log has the latest happening at its head.
def observe (s : State ι) : Event ι → List Happening → List Happening
  | .insert ..,    log => log
  | .act i action, log => happenings action (s.pcs i) ++ log

section Single

variable {log : List Happening} {outboxId : String}

-- A failed attempt that is not yet recorded in the table.
def Pc.owed (outboxId : String) : Pc → Nat
  | .updating row false _ => if row.outboxId = outboxId then 1 else 0
  | _                     => 0

theorem owed_eq_zero (h : ∀ row ∈ pc.hand, row.outboxId ≠ outboxId) : pc.owed outboxId = 0 := by
  unfold Pc.owed
  split
  case h_1 row _ => exact if_neg <| h row List.mem_cons_self
  case h_2       => rfl

-- A row is what the log says. While it is pending it has attempts left.
structure Accounts (maxAttempts : Int) (log : List Happening) (owed : Nat) (outboxId : String)
    (row : OutboxRow) : Prop where
  applied : row.attemptCount = log.count (.applied outboxId)
  bounded : row.attemptCount ≤ maxAttempts
  tried   : row.status = .pending →
              row.attemptCount < maxAttempts ∧
                row.attemptCount + owed ≤ log.count (.emitted outboxId false)

theorem Accounts.mono (h : Accounts maxAttempts log owed outboxId row)
    (ha : log'.count (.applied outboxId) = log.count (.applied outboxId))
    (he : owed' + log.count (.emitted outboxId false) ≤
      owed + log'.count (.emitted outboxId false)) :
    Accounts maxAttempts log' owed' outboxId row where
  applied  := h.applied.trans ha.symm
  bounded  := h.bounded
  tried hp := by
    have ⟨hl, ht⟩ := h.tried hp
    omega

theorem Accounts.attempted {row : PendingRow} {r : OutboxRow}
    (h : Accounts maxAttempts log (Pc.owed row.outboxId (.updating row ok rows)) row.outboxId r)
    (hp : r.status = .pending) (hr : row.attempts = r.attemptCount) :
    Accounts maxAttempts (.applied row.outboxId :: log) 0 row.outboxId
      (attempted maxAttempts row ok now r) := by
  have ⟨ha, hb, ht⟩ := h
  have ⟨hl, ht⟩ := ht hp
  cases ok
  case true => exact ⟨by simp [Processor.attempted, ha], by simp [Processor.attempted]; omega, nofun⟩
  case false =>
    simp only [Pc.owed, if_true] at ht
    refine ⟨by simp [Processor.attempted, hr, ha], by simp [Processor.attempted]; omega, fun hs => ?_⟩
    have hm : row.attempts + 1 < maxAttempts := by simpa [Processor.attempted] using hs
    simp [Processor.attempted]
    omega

structure Counted (maxAttempts : Int) (log : List Happening) (t : OutboxTable) (pc : Pc) : Prop where
  held   : Held t pc.hand
  latest : ∀ {row ok rows}, pc = .updating row ok rows →
             log.head? = some (.emitted row.outboxId ok)
  unseen : ∀ outboxId ∉ t, log.count (.applied outboxId) = 0
  rows   : ∀ {outboxId row}, t.lookup outboxId = some row →
             Accounts maxAttempts log (pc.owed outboxId) outboxId row

namespace Counted

theorem init (maxAttempts : Int) : Counted maxAttempts [] ∅ .idle where
  held   := .nil
  latest := nofun
  unseen := fun _ _ => rfl
  rows   := fun h => by simp at h

theorem insert (h : Counted maxAttempts log t pc) (hm : 1 ≤ maxAttempts) (hn : outboxId ∉ t) :
    Counted maxAttempts log (t.insert outboxId ⟨event, payload, .pending, createdTs, none, 0⟩)
      pc := by
  constructor
  case held   => exact h.held.insert hn
  case latest => exact h.latest
  case unseen => exact fun _ hi => h.unseen _ fun ht => hi <| Finmap.mem_insert.mpr <| .inr ht
  case rows =>
    intro id row hl
    rw [HashMap.lookup_insert] at hl
    split at hl
    case isTrue he =>
      cases hl
      subst he
      have ho : pc.owed id = 0 := owed_eq_zero fun row hr => h.held.ne_of_not_mem hr hn
      exact ⟨(h.unseen id hn).symm, by simp; omega, fun _ => by simp [ho]; omega⟩
    case isFalse => exact h.rows hl

theorem act (h : Counted maxAttempts log t pc) (ha : Acts maxAttempts t action pc t' pc') :
    Counted maxAttempts (happenings action pc ++ log) t' pc' := by
  have held := h.held.acts ha
  cases ha
  case select => exact ⟨held, nofun, h.unseen, h.rows⟩
  case stop   => exact ⟨held, nofun, h.unseen, h.rows⟩
  case lost   =>
    refine ⟨held, nofun, h.unseen, fun hl => (h.rows hl).mono rfl ?_⟩
    simp [Pc.owed, happenings]
  case emit ok row rows =>
    refine ⟨held, ?_, by simpa [happenings] using h.unseen, fun {id _} hl => (h.rows hl).mono ?_ ?_⟩
    case refine_1 => intro _ _ _ he; cases he; rfl
    case refine_2 => simp [happenings]
    case refine_3 =>
      -- The attempt is owed until its update.
      cases ok
      all_goals by_cases hi : row.outboxId = id <;> simp [happenings, Pc.owed, hi, Nat.add_comm]
  case applied now row ok rows =>
    obtain ⟨r, hr, hp, he⟩ := OutboxTable.pending?_eq_some_iff.mp <|
      h.held.stored row List.mem_cons_self
    refine ⟨held, nofun, fun id hn => ?_, fun {id _} hl => ?_⟩
    case refine_1 =>
      have hn : id ∉ t := hn ∘ HashMap.mem_modify.mpr
      simpa [happenings, (HashMap.ne_of_lookup_of_not_mem hr hn)] using h.unseen id hn
    case refine_2 =>
      rw [recordAttempt, HashMap.lookup_modify] at hl
      split at hl
      case isTrue hi =>
        subst hi
        rw [hr] at hl
        cases hl
        exact (h.rows hr).attempted hp (by rw [he])
      case isFalse hn =>
        exact (h.rows hl).mono (by simp [happenings, Ne.symm hn]) (by simp [Pc.owed, happenings])

theorem run (hm : 1 ≤ maxAttempts)
    (r : Run (processors fun _ : Unit => maxAttempts) g (State.init ∅) s) :
    Counted maxAttempts (r.fold observe []) s.table (s.pcs ()) := by
  let P (log : List Happening) (s : State Unit) : Prop := Counted maxAttempts log s.table (s.pcs ())
  refine r.invariant_fold (P := P) ?_ (init maxAttempts)
  intro log s e h ha _
  cases e
  case insert => exact h.insert hm ha
  case act i action =>
    simp only [P, act_table, act_pcs_self]
    exact h.act <| acts maxAttempts ha

end Counted

-- How a record may leave the status in which it was inserted.
def Leaves (maxAttempts : Int) (log : List Happening) (outboxId : String) : OutboxStatus → Prop
  | .pending   => False
  | .delivered => log.head? = some (.emitted outboxId true)
  | .failed    => maxAttempts ≤ log.count (.emitted outboxId false)

theorem Accounts.leaves {row : PendingRow} {r : OutboxRow}
    (h : Accounts maxAttempts log (Pc.owed row.outboxId (.updating row ok rows)) row.outboxId r)
    (hp : r.status = .pending) (hr : row.attempts = r.attemptCount)
    (hl : log.head? = some (.emitted row.outboxId ok)) :
    (Processor.attempted maxAttempts row ok now r).status = .pending ∨
      Leaves maxAttempts log row.outboxId (Processor.attempted maxAttempts row ok now r).status := by
  cases ok
  case true  => exact .inr hl
  case false =>
    have ⟨_, ht⟩ := h.tried hp
    simp only [Pc.owed, if_true] at ht
    simp only [Processor.attempted, Bool.false_eq_true, if_false]
    split
    case isTrue  => exact .inr (by simp only [Leaves]; omega)
    case isFalse => exact .inl rfl

theorem Counted.leaves (h : Counted maxAttempts log t pc)
    (ha : Acts maxAttempts t action pc t' pc') (hp : t.status? outboxId = some .pending) :
    ∃ status, t'.status? outboxId = some status ∧
      (status = .pending ∨ Leaves maxAttempts log outboxId status) := by
  cases ha
  case applied now row ok rows =>
    by_cases ho : outboxId = row.outboxId
    case pos =>
      subst ho
      obtain ⟨r, hr, hs, he⟩ := OutboxTable.pending?_eq_some_iff.mp <|
        h.held.stored row List.mem_cons_self
      exact ⟨_, status?_recordAttempt hr, (h.rows hr).leaves hs (by rw [he]) (h.latest rfl)⟩
    case neg =>
      rw [status?_recordAttempt_of_ne ho]
      exact ⟨.pending, hp, .inl rfl⟩
  all_goals exact ⟨.pending, hp, .inl rfl⟩

-- What holds of a single processor after every run, given what has happened so far.
structure Lossless (maxAttempts : Int) (log : List Happening) (s : State Unit) : Prop where
  leaves : ∀ e outboxId, (processors fun _ => maxAttempts).allows s e →
             s.table.status? outboxId = some .pending →
             ∃ status, ((processors fun _ => maxAttempts).step s e).table.status? outboxId =
                 some status ∧
               (status = .pending ∨ Leaves maxAttempts log outboxId status)
  counts : ∀ outboxId row, s.table.lookup outboxId = some row →
             row.attemptCount ≤ maxAttempts ∧ row.attemptCount = log.count (.applied outboxId)
  emits  : ∀ row rows, s.pcs () = .emitting (row :: rows) →
             s.table.status? row.outboxId = some .pending

theorem run_no_event_lost (hm : 1 ≤ maxAttempts)
    (r : Run (processors fun _ => maxAttempts) g (State.init ∅) s) :
    Lossless maxAttempts (r.fold observe []) s := by
  have hc := Counted.run hm r
  constructor
  case leaves =>
    intro e outboxId ha hp
    cases e
    case insert       => exact ⟨.pending, OutboxTable.status?_insert hp ha, .inl rfl⟩
    case act i action => exact hc.leaves (acts maxAttempts ha) hp
  case counts =>
    intro _ _ hl
    exact ⟨(hc.rows hl).bounded, (hc.rows hl).applied⟩
  case emits =>
    intro row rows he
    exact OutboxTable.status?_of_pending? <| hc.held.stored row <| by simp [he, Pc.hand]

end Single

namespace Sample

def registered (outboxId : String) (createdTs : Instant) : Event ι :=
  .insert outboxId ⟨"agent-1", .agentRegistered⟩ "" createdTs

-- Both processors select the record. The first one delivers it before the second one fails to.
def overlapping : List (Event Bool) :=
  [registered "1" 0, .act true (.select ["1"]), .act false (.select ["1"]), .act true (.emit true),
    .act true (.update true 1)]

def lateFailure : List (Event Bool) :=
  [.act false (.emit false), .act false (.update true 2)]

theorem delivered_record_pending_again :
    ∃ s₁ s₂, ∃ _ : Run (processors fun _ : Bool => 3) .any (State.init ∅) s₁,
      ∃ _ : Run (processors fun _ : Bool => 3) .any s₁ s₂,
        s₁.table.status? "1" = some .delivered ∧ s₂.table.status? "1" = some .pending :=
  ⟨_, _, .ofSchedule overlapping (by decide +kernel), .ofSchedule lateFailure (by decide +kernel),
    by decide +kernel⟩

def inTurn : List (Event Bool) :=
  [registered "1" 0, .act true (.select ["1"]), .act true (.emit true), .act true (.update true 1)]

def nextBatch : List (Event Bool) :=
  [registered "2" 1, .act false (.select ["2"]), .act false (.emit false), .act false (.update true 2)]

theorem delivered_record_kept :
    ∃ s₁ s₂, ∃ _ : Run (processors fun _ : Bool => 3) Apart (State.init ∅) s₁,
      ∃ _ : Run (processors fun _ : Bool => 3) Apart s₁ s₂,
        s₁.table.status? "1" = some .delivered ∧ s₂.table.status? "1" = some .delivered := by
  have r₁ : Run (processors fun _ : Bool => 3) Apart (State.init ∅)
      (exec (processors fun _ => 3) (State.init ∅) inTurn) :=
    .ofSchedule inTurn (by decide +kernel)
  have r₂ : Run (processors fun _ : Bool => 3) Apart _
      (exec (processors fun _ => 3) (exec (processors fun _ => 3) (State.init ∅) inTurn) nextBatch) :=
    .ofSchedule nextBatch (by decide +kernel)
  have h : (exec (processors fun _ : Bool => 3) (State.init ∅) inTurn).table.status? "1" =
      some .delivered := by
    decide +kernel
  exact ⟨_, _, r₁, r₂, h, run_delivered_stays r₁ r₂ h⟩

-- The update after the first failure is lost.
def failingTwice : List (Event Unit) :=
  [registered "1" 0, .act () (.select ["1"]), .act () (.emit false), .act () (.update false 1),
    .act () .stop, .act () (.select ["1"]), .act () (.emit false), .act () (.update true 2)]

theorem failed_record_lossless :
    ∃ s, ∃ r : Run (processors fun _ : Unit => 1) .any (State.init ∅) s,
      s.table.status? "1" = some .failed ∧ Lossless 1 (r.fold observe []) s := by
  have r : Run (processors fun _ : Unit => 1) .any (State.init ∅)
      (exec (processors fun _ => 1) (State.init ∅) failingTwice) :=
    .ofSchedule failingTwice (by decide +kernel)
  exact ⟨_, r, by decide +kernel, run_no_event_lost (by decide) r⟩

end Sample

end Processor

end AgentRegistry
