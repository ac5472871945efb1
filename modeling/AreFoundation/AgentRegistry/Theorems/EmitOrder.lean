import AreFoundation.AgentRegistry.Theorems.Delivery

namespace AgentRegistry

open Calendar Transition

-- Both rows are records of one agent, and the first one was created before the second one.
def OutboxTable.Earlier (t : OutboxTable) (outboxId outboxId' : String) : Prop :=
  ∃ row ∈ t.lookup outboxId, ∃ row' ∈ t.lookup outboxId',
    row.agentId = row'.agentId ∧ row.createdTs < row'.createdTs

instance {t : OutboxTable} : DecidableRel t.Earlier :=
  fun _ _ => inferInstanceAs <| Decidable (∃ row ∈ _, ∃ row' ∈ _, _)

namespace Processor

variable {t t' t₀ : OutboxTable} {pc pc' : Pc} {maxAttempts : Int} {action : Action}
variable {log log' : List Happening} {outboxId : String}

-- The record has been emitted, in this run or before it, or it has been given up.
def Settled (t₀ : OutboxTable) (log : List Happening) (t : OutboxTable) (outboxId : String) : Prop :=
  .emitted outboxId true ∈ log ∨ t.status? outboxId = some .failed ∨
    t₀.status? outboxId = some .delivered

instance : Decidable (Settled t₀ log t outboxId) :=
  inferInstanceAs <| Decidable (_ ∨ _ ∨ _)

def Followed (row : PendingRow) (rows : List PendingRow) : Prop :=
  ∃ row' ∈ rows, row'.agentId = row.agentId

-- While records of the same agent follow in the batch, an emit may only fail if the record is given up
-- thereby. New records of an agent are created after its other ones.
def InOrder (maxAttempts : Int) : Guard (State Unit) (Event Unit)
  | s, .insert _ event _ createdTs =>
    ∀ outboxId row, s.table.lookup outboxId = some row → row.agentId = event.agentId →
      row.createdTs ≤ createdTs
  | s, .act _ (.emit false) =>
    ∀ row rows, s.pcs () = .emitting (row :: rows) → Followed row rows →
      (row.attempts + 1 : Nat) ≥ maxAttempts
  | s, .act _ (.update false _) =>
    ∀ row rows, s.pcs () = .updating row false rows → ¬Followed row rows
  | _, _ => True

structure Ordered (maxAttempts : Int) (t₀ : OutboxTable) (log : List Happening) (t : OutboxTable)
    (pc : Pc) : Prop where
  held      : Held t pc.hand
  delivered : ∀ outboxId, t.status? outboxId = some .delivered →
                .emitted outboxId true ∈ log ∨ t₀.status? outboxId = some .delivered
  emitted   : ∀ {row ok rows}, pc = .updating row ok rows →
                if ok then .emitted row.outboxId true ∈ log
                else Followed row rows → (row.attempts + 1 : Nat) ≥ maxAttempts
  order     : ∀ {front row back}, pc.hand = front ++ row :: back →
                ∀ outboxId, t.Earlier outboxId row.outboxId →
                  Settled t₀ log t outboxId ∨ outboxId ∈ front.map (·.outboxId)

theorem Settled.mono (h : Settled t₀ log t outboxId) (hl : log ⊆ log')
    (hf : t.status? outboxId = some .failed → t'.status? outboxId = some .failed) :
    Settled t₀ log' t' outboxId :=
  h.imp (hl ·) (·.imp_left hf)

-- Attempts do not change the columns by which records are ordered.
theorem earlier_of_recordAttempt
    (h : (recordAttempt maxAttempts row ok now t).Earlier outboxId outboxId') :
    t.Earlier outboxId outboxId' := by
  have hc {id r'} (hl : r' ∈ (recordAttempt maxAttempts row ok now t).lookup id) :
      ∃ r ∈ t.lookup id, r.agentId = r'.agentId ∧ r.createdTs = r'.createdTs := by
    rw [recordAttempt, HashMap.lookup_modify] at hl
    split at hl
    case isTrue he =>
      subst he
      obtain ⟨r, hr, rfl⟩ := Option.map_eq_some_iff.mp hl
      refine ⟨r, hr, ?_⟩
      unfold attempted
      split <;> exact ⟨rfl, rfl⟩
    case isFalse => exact ⟨r', hl, rfl, rfl⟩
  obtain ⟨_, hl₁, _, hl₂, ha, ht⟩ := h
  obtain ⟨r₁, hr₁, ha₁, ht₁⟩ := hc hl₁
  obtain ⟨r₂, hr₂, ha₂, ht₂⟩ := hc hl₂
  exact ⟨r₁, hr₁, r₂, hr₂, by rw [ha₁, ha₂, ha], by rw [ht₁, ht₂]; exact ht⟩

theorem not_createdBy_of_earlier (h : t.Earlier outboxId outboxId') :
    ¬t.CreatedBy outboxId' outboxId := by
  obtain ⟨row, hr, row', hr', _, ht⟩ := h
  exact fun hc => (hc row' hr' row hr).not_gt ht

-- A batch lists the pending records that are earlier than one of its own before that one.
theorem mem_front_of_selects (hs : t.Selects ids) (hi : ids = front ++ outboxId' :: back)
    (hp : (t.pending? outboxId).isSome) (he : t.Earlier outboxId outboxId') : outboxId ∈ front := by
  obtain ⟨_, _, _, ho, hr⟩ := hs
  have hn := not_createdBy_of_earlier he
  have hm : outboxId ∈ ids := by
    obtain ⟨row, hl, _⟩ := he
    by_contra hm
    have hk : outboxId ∈ t.keys := Finmap.mem_keys.mpr <| Finmap.mem_iff.mpr ⟨row, hl⟩
    exact hn <| (hr outboxId hk hm hp).right outboxId' (by simp [hi])
  rw [hi, List.pairwise_append, List.pairwise_cons] at ho
  rw [hi, List.mem_append, List.mem_cons] at hm
  obtain hm | rfl | hm := hm
  case inl    => exact hm
  case inr.inl =>
    obtain ⟨row, hl, row', hl', _, ht⟩ := he
    cases hl.symm.trans hl'
    exact absurd ht (lt_irrefl _)
  case inr.inr => exact absurd (ho.right.left.left outboxId hm) hn

theorem followed_of_earlier (h : Held t (row :: rows)) (hm : row' ∈ rows)
    (he : t.Earlier row.outboxId row'.outboxId) : Followed row rows := by
  obtain ⟨r, hr, r', hr', ha, _⟩ := he
  obtain ⟨_, hl, _, he⟩ := OutboxTable.pending?_eq_some_iff.mp <| h.stored row List.mem_cons_self
  obtain ⟨_, hl', _, he'⟩ := OutboxTable.pending?_eq_some_iff.mp <|
    h.stored row' <| List.mem_cons_of_mem _ hm
  cases hr.symm.trans hl
  cases hr'.symm.trans hl'
  exact ⟨row', hm, by rw [he, he', ha]⟩

namespace Ordered

theorem init (t₀ : OutboxTable) : Ordered maxAttempts t₀ [] t₀ .idle where
  held      := .nil
  delivered := fun _ => .inr
  emitted   := nofun
  order     := fun h => by simp [Pc.hand] at h

theorem insert (h : Ordered maxAttempts t₀ log t pc) (hn : outboxId ∉ t)
    (hc : ∀ outboxId row, t.lookup outboxId = some row → row.agentId = event.agentId →
      row.createdTs ≤ createdTs) :
    Ordered maxAttempts t₀ log (t.insert outboxId ⟨event, payload, .pending, createdTs, none, 0⟩)
      pc := by
  constructor
  case held => exact h.held.insert hn
  case delivered =>
    intro id hd
    refine h.delivered id ?_
    rw [OutboxTable.status?, HashMap.lookup_insert] at hd
    split at hd
    case isTrue  => cases hd
    case isFalse => exact hd
  case emitted => exact h.emitted
  case order =>
    rintro front row back hh id ⟨r, hr, r', hr', ha, ht⟩
    have hne : row.outboxId ≠ outboxId := h.held.ne_of_not_mem (by simp [hh]) hn
    have hr' : t.lookup row.outboxId = some r' := by rwa [Finmap.lookup_insert_of_ne _ hne] at hr'
    rw [HashMap.lookup_insert] at hr
    split at hr
    case isTrue =>
      -- The new record is not earlier than the ones in hand.
      cases hr
      exact absurd ht (hc _ r' hr' ha.symm).not_gt
    case isFalse =>
      refine (h.order hh id ⟨r, hr, r', hr', ha, ht⟩).imp_left (·.mono (List.Subset.refl _) ?_)
      exact fun hf => OutboxTable.status?_insert hf hn

theorem order_select (h : Ordered maxAttempts t₀ log t .idle) (hs : t.Selects ids)
    (hh : ids.filterMap t.pending? = front ++ row :: back) (he : t.Earlier outboxId row.outboxId) :
    Settled t₀ log t outboxId ∨ outboxId ∈ front.map (·.outboxId) := by
  have hi : ids = front.map (·.outboxId) ++ row.outboxId :: back.map (·.outboxId) := by
    rw [← OutboxTable.ids_of_filterMap hs.2.2.1, hh, List.map_append, List.map_cons]
  obtain ⟨r, hr, _⟩ := id he
  have hst : t.status? outboxId = some r.status := congrArg (Option.map _) hr
  cases hc : r.status
  all_goals rw [hc] at hst
  case pending =>
    have hp : t.pending? outboxId = some ⟨outboxId, r.agentId, r.payload, r.attemptCount⟩ :=
      OutboxTable.pending?_eq_some_iff.mpr ⟨r, hr, hc, rfl⟩
    exact .inr <| mem_front_of_selects hs hi (by rw [hp]; rfl) he
  case failed    => exact .inl <| .inr <| .inl hst
  case delivered => exact .inl <| (h.delivered _ hst).imp_right .inr

-- Once the update of a row is done, the row holds up the ones behind it no longer.
theorem order_tail (h : Ordered maxAttempts t₀ log t (.updating row ok rows))
    (hf : ∀ outboxId, t.status? outboxId = some .failed → t'.status? outboxId = some .failed)
    (hs : ok = false → Followed row rows → t'.status? row.outboxId = some .failed)
    (hh : rows = front ++ row' :: back) (he : t.Earlier outboxId row'.outboxId) :
    Settled t₀ log t' outboxId ∨ outboxId ∈ front.map (·.outboxId) := by
  have hm : row' ∈ rows := by simp [hh]
  have ho := @h.order (row :: front) row' back (by simp [Pc.hand, hh]) outboxId he
  rw [List.map_cons, List.mem_cons] at ho
  obtain ho | rfl | ho := ho
  case inl     => exact .inl <| ho.mono (List.Subset.refl _) (hf _)
  case inr.inr => exact .inr ho
  case inr.inl =>
    have hem := h.emitted rfl
    cases ok
    case true  => exact .inl <| .inl hem
    case false => exact .inl <| .inr <| .inl <| hs rfl <| followed_of_earlier h.held hm he

theorem act (h : Ordered maxAttempts t₀ log t pc) (ha : Acts maxAttempts t action pc t' pc')
    (hg : InOrder maxAttempts ⟨t, fun _ => pc⟩ (.act () action)) :
    Ordered maxAttempts t₀ (happenings action pc ++ log) t' pc' := by
  have held := h.held.acts ha
  have hl : log ⊆ happenings action pc ++ log := List.subset_append_right ..
  cases ha
  case select hs => exact ⟨held, h.delivered, (fun h => by cases h), fun hh _ => h.order_select hs hh⟩
  case stop      => exact ⟨held, h.delivered, (fun h => by cases h), fun hh => by simp [Pc.hand] at hh⟩
  case emit ok row rows =>
    refine ⟨held, fun id hd => (h.delivered id hd).imp_left (hl ·), ?_, ?_⟩
    case refine_1 =>
      intro _ _ _ he
      cases he
      cases ok
      case true  => exact List.mem_cons_self
      case false => exact hg row rows rfl
    case refine_2 => exact fun hh id he => (h.order hh id he).imp_left (·.mono hl fun hf => hf)
  case applied now row ok rows =>
    obtain ⟨r, hr, hp, _⟩ := OutboxTable.pending?_eq_some_iff.mp <|
      h.held.stored row List.mem_cons_self
    refine ⟨held, fun id hd => ?_, (fun h => by cases h), fun hh id he => ?_⟩
    case refine_1 =>
      by_cases hi : id = row.outboxId
      case pos =>
        subst hi
        rw [status?_recordAttempt hr] at hd
        have hem := h.emitted rfl
        cases ok
        case true  => exact .inl <| hl hem
        case false =>
          simp only [attempted, Bool.false_eq_true, if_false] at hd
          split at hd <;> cases hd
      case neg =>
        rw [status?_recordAttempt_of_ne hi] at hd
        exact (h.delivered id hd).imp_left (hl ·)
    case refine_2 =>
      refine (h.order_tail ?_ ?_ hh <| earlier_of_recordAttempt he).imp_left (·.mono hl fun hf => hf)
      case refine_1 =>
        intro id hf
        have hi : id ≠ row.outboxId := by
          rintro rfl
          rw [OutboxTable.status?, hr, Option.map_some, hp] at hf
          cases hf
        rwa [status?_recordAttempt_of_ne hi]
      case refine_2 =>
        rintro rfl hf
        rw [status?_recordAttempt hr]
        simp only [attempted, Bool.false_eq_true, if_false, if_pos (h.emitted rfl hf)]
  case lost now row ok rows =>
    refine ⟨held, h.delivered, (fun h => by cases h), fun hh _ => h.order_tail (fun _ hf => hf) ?_ hh⟩
    rintro rfl hf
    exact absurd hf <| hg row rows rfl

theorem run (r : Run (processors fun _ => maxAttempts) (InOrder maxAttempts) (State.init t₀) s) :
    Ordered maxAttempts t₀ (r.fold observe []) s.table (s.pcs ()) := by
  let P (log : List Happening) (s : State Unit) : Prop :=
    Ordered maxAttempts t₀ log s.table (s.pcs ())
  refine r.invariant_fold (P := P) ?_ (init t₀)
  intro log s e h ha hg
  cases e
  case insert => exact h.insert ha hg
  case act i action =>
    simp only [P, act_table, act_pcs_self]
    exact h.act (acts maxAttempts ha) hg

end Ordered

theorem run_emits_in_order
    (r : Run (processors fun _ => maxAttempts) (InOrder maxAttempts) (State.init t₀) s)
    (hs : s.pcs () = .emitting (row :: rows)) (he : s.table.Earlier outboxId row.outboxId) :
    Settled t₀ (r.fold observe []) s.table outboxId := by
  have ho := @(Ordered.run r).order [] row rows (by simp [hs, Pc.hand]) outboxId he
  simpa using ho

namespace Sample

def backlog : OutboxTable :=
  Finmap.insert "1" ⟨⟨"agent-1", .agentRegistered⟩, "", .pending, 0, none, 0⟩ <|
    Finmap.insert "2" ⟨⟨"agent-1", .agentStatusChanged⟩, "", .pending, 1, none, 0⟩ ∅

def overtaking : List (Event Unit) :=
  [.act () (.select ["1", "2"]), .act () (.emit false), .act () (.update true 2), .act () (.emit true)]

-- The first record stays pending while the second one is emitted.
theorem later_record_emitted_first :
    ∃ s, ∃ r : Run (processors fun _ : Unit => 3) .any (State.init backlog) s,
      s.table.Earlier "1" "2" ∧ .emitted "2" true ∈ r.fold observe [] ∧
        ¬Settled backlog (r.fold observe []) s.table "1" := by
  refine ⟨_, .ofSchedule overtaking (by decide +kernel), ?_⟩
  rw [Run.fold_ofSchedule]
  decide +kernel

def inSequence : List (Event Unit) :=
  [.act () (.select ["1", "2"]), .act () (.emit true), .act () (.update true 2)]

theorem later_record_emitted_second :
    ∃ s row, ∃ r : Run (processors fun _ => 3) (InOrder 3) (State.init backlog) s,
      s.pcs () = .emitting [row] ∧ s.table.Earlier "1" row.outboxId ∧
        Settled backlog (r.fold observe []) s.table "1" := by
  have r : Run (processors fun _ => 3) (InOrder 3) (State.init backlog)
      (exec (processors fun _ => 3) (State.init backlog) inSequence) :=
    .ofSchedule inSequence ⟨by decide +kernel, trivial, trivial, trivial, trivial, trivial, trivial⟩
  have he : (exec (processors fun _ => 3) (State.init backlog) inSequence).table.Earlier "1" "2" := by
    decide +kernel
  exact ⟨_, ⟨"2", "agent-1", "", 0⟩, r, rfl, he, run_emits_in_order r rfl he⟩

end Sample

end Processor

end AgentRegistry
