import AreFoundation.Library.Interleaving

-- Threads that each perform one operation on a shared object in several steps, but with the effect of
-- performing it at once.
namespace Linearization

open Interleaving

section Sequential

variable (op : ι → α → ρ × α)

-- The object after the operations have been performed one after the other, and what they return.
def after (a : α) : List ι → α
  | []      => a
  | i :: tl => after (op i a).2 tl

def replay (a : α) : List ι → List (ι × ρ)
  | []      => []
  | i :: tl => (i, (op i a).1) :: replay (op i a).2 tl

variable {op} {a : α} {l₁ l₂ : List ι}

theorem after_append : after op a (l₁ ++ l₂) = after op (after op a l₁) l₂ := by
  induction l₁ generalizing a
  case nil          => rfl
  case cons i tl hi => exact hi

theorem after_preserves {P : α → Prop} (h : ∀ i a, P a → P (op i a).2) (ha : P a) :
    P (after op a order) := by
  induction order generalizing a
  case nil          => exact ha
  case cons i tl hi => exact hi (h i a ha)

theorem replay_append :
    replay op a (l₁ ++ l₂) = replay op a l₁ ++ replay op (after op a l₁) l₂ := by
  induction l₁ generalizing a
  case nil          => rfl
  case cons i tl hi => simp [replay, after, hi]

-- An operation that changes nothing can be performed without affecting the others.
theorem after_insert (h : op i (after op a l₁) = (v, after op a l₁)) :
    after op a (l₁ ++ i :: l₂) = after op a (l₁ ++ l₂) := by
  simp [after_append, after, h]

theorem replay_insert (h : op i (after op a l₁) = (v, after op a l₁)) :
    replay op a (l₁ ++ i :: l₂) = replay op a l₁ ++ (i, v) :: replay op (after op a l₁) l₂ := by
  simp [replay_append, replay, h]

theorem mem_replay_insert (h : op i (after op a l₁) = (v, after op a l₁))
    (hm : p ∈ replay op a (l₁ ++ l₂)) : p ∈ replay op a (l₁ ++ i :: l₂) := by
  rw [replay_append, List.mem_append] at hm
  rw [replay_insert h, List.mem_append, List.mem_cons]
  exact hm.imp_right .inr

-- At some time in the order, after certain threads, something holds of the object.
def Sometime (op : ι → α → ρ × α) (a : α) (order : List ι) (threads : Set ι) (P : α → Prop) : Prop :=
  ∃ l₁ l₂, order = l₁ ++ l₂ ∧ (∀ i ∈ threads, i ∈ l₁) ∧ P (after op a l₁)

namespace Sometime

variable {order : List ι} {threads threads' : Set ι} {P Q : α → Prop}

theorem mono (h : Sometime op a order threads P) (ht : threads' ⊆ threads) (hp : ∀ b, P b → Q b) :
    Sometime op a order threads' Q := by
  obtain ⟨l₁, l₂, hl, hm, h⟩ := h
  exact ⟨l₁, l₂, hl, fun i hi => hm i (ht hi), hp _ h⟩

-- In the end.
theorem last (hm : ∀ i ∈ threads, i ∈ order) (h : P (after op a order)) :
    Sometime op a order threads P :=
  ⟨order, [], (List.append_nil order).symm, hm, h⟩

theorem mem (h : Sometime op a order threads P) (hi : i ∈ threads) : i ∈ order := by
  obtain ⟨l₁, l₂, hl, hm, _⟩ := h
  exact hl ▸ List.mem_append_left l₂ (hm i hi)

theorem append (h : Sometime op a order threads P) (l : List ι) :
    Sometime op a (order ++ l) threads P := by
  obtain ⟨l₁, l₂, rfl, hm, h⟩ := h
  exact ⟨l₁, l₂ ++ l, List.append_assoc .., hm, h⟩

theorem insert (h : Sometime op a (l₁ ++ l₂) threads P)
    (hop : op i (after op a l₁) = (v, after op a l₁)) :
    Sometime op a (l₁ ++ i :: l₂) threads P := by
  obtain ⟨m₁, m₂, he, hm, h⟩ := h
  rcases List.append_eq_append_iff.mp he with ⟨c, rfl, rfl⟩ | ⟨c, rfl, rfl⟩
  case inl =>
    refine ⟨l₁ ++ i :: c, m₂, by simp, fun k hk => ?_, (after_insert hop).symm ▸ h⟩
    exact List.mem_append.mpr <| (List.mem_append.mp <| hm k hk).imp_right <| List.mem_cons_of_mem i
  case inr => exact ⟨m₁, c ++ i :: l₂, by simp, hm, h⟩

end Sometime

end Sequential

section Definitions

variable (fresh : ℓ → Prop) (abs : α → σ → Prop) (result : ℓ → Option ρ)

-- The pairs of threads where the first one has returned in a state of the run in which the second one
-- has not begun.
def Precedes [DecidableEq ι] {sys : System ι σ ℓ ε} {g : Guard ι σ ℓ ε} {s₁ s₂ : State ι σ ℓ}
    (r : Run sys g s₁ s₂) : Set (ι × ι) :=
  r.collect fun s _ => {p | (result (s.locals p.1)).isSome ∧ fresh (s.locals p.2)}

-- The threads that have returned are put in an order. If they perform their operations at once and in
-- this order, they return the same results and leave the same object behind.
structure Linearizes (op : ι → α → ρ × α) (a : α) (before : Set (ι × ι)) (s : State ι σ ℓ)
    (order : List ι) : Prop where
  nodup    : order.Nodup
  mem_iff  : ∀ i, i ∈ order ↔ (result (s.locals i)).isSome
  results  : ∀ i v, result (s.locals i) = some v → (i, v) ∈ replay op a order
  final    : abs (after op a order) s.shared
  realTime : ∀ i j, (i, j) ∈ before → j ∈ order → [i, j].Sublist order

-- Operations on a representation of the object.
theorem after_map {f : β → α} {op : ι → α → ρ × α} {op' : ι → β → ρ × β}
    (h : ∀ i b, op i (f b) = ((op' i b).1, f (op' i b).2)) (b : β) (order : List ι) :
    after op (f b) order = f (after op' b order) := by
  induction order generalizing b
  case nil          => rfl
  case cons i tl hi => rw [after, after, h, hi]

theorem replay_map {f : β → α} {op : ι → α → ρ × α} {op' : ι → β → ρ × β}
    (h : ∀ i b, op i (f b) = ((op' i b).1, f (op' i b).2)) (b : β) (order : List ι) :
    replay op (f b) order = replay op' b order := by
  induction order generalizing b
  case nil          => rfl
  case cons i tl hi => rw [replay, replay, h, hi]

-- What a step contributes to the operation of its thread. An operation that only reads may be performed
-- at an earlier time, if something has been known since then.
inductive Point (op : α → ρ × α) (evidence : ℓ → σ → α → Prop) (a : α) (sh : σ) (l : ℓ) (sh' : σ)
    (l' : ℓ) : Prop
  | prepare (h : result l = none) (h' : result l' = none) (abs : abs a sh')
    (keep : ∀ b, evidence l sh b → evidence l' sh' b)
  | observe (h : result l = none) (h' : result l' = none) (abs : abs a sh') (now : evidence l' sh' a)
  | perform (h : result l = none) (h' : result l' = some v) (eq : op a = (v, a')) (abs : abs a' sh')
  | lookBack (h : result l = none) (h' : result l' = some v) (abs : abs a sh')
    (eq : ∀ b, evidence l sh b → op b = (v, b))
  | idle (h : (result l).isSome) (h' : result l' = result l) (abs : abs a sh')

end Definitions

theorem Linearizes.of_map {abs : α → σ → Prop} {result : ℓ → Option ρ} {f : β → α}
    {op : ι → α → ρ × α} {op' : ι → β → ρ × β} {b : β} {order : List ι}
    (hl : Linearizes abs result op (f b) before s order)
    (h : ∀ i b, op i (f b) = ((op' i b).1, f (op' i b).2)) :
    Linearizes (fun b sh => abs (f b) sh) result op' b before s order :=
  { hl with
    results := fun i v hv => replay_map h b order ▸ hl.results i v hv
    final   := after_map h b order ▸ hl.final }

-- What a thread does apart from its operation makes no difference.
theorem Point.congr {abs : α → σ → Prop} {result : ℓ → Option ρ} {op : α → ρ × α}
    {evidence : ℓ → σ → α → Prop} (h : Point abs result op evidence a sh l sh' l')
    (hr : result l'' = result l') (ha : ∀ b, abs b sh' → abs b sh'')
    (he : ∀ b, evidence l' sh' b → evidence l'' sh'' b) :
    Point abs result op evidence a sh l sh'' l'' := by
  cases h
  case prepare hl hl' habs hk   => exact .prepare hl (hr.trans hl') (ha _ habs) fun b => he b ∘ hk b
  case observe hl hl' habs hn   => exact .observe hl (hr.trans hl') (ha _ habs) (he _ hn)
  case perform hl hl' heq habs  => exact .perform hl (hr.trans hl') heq (ha _ habs)
  case lookBack hl hl' habs heq => exact .lookBack hl (hr.trans hl') (ha _ habs) heq
  case idle hl hl' habs         => exact .idle hl (hr.trans hl') (ha _ habs)

variable [DecidableEq ι] {sys : System ι σ ℓ ε} {g : Guard ι σ ℓ ε}

-- Where each thread performs its operation, given what is known about all of them. `seen` is what a
-- thread has found out about the object since then.
structure Points (sys : System ι σ ℓ ε) (g : Guard ι σ ℓ ε) (o : Outline sys g)
    (op : ι → α → ρ × α) (abs : α → σ → Prop) (fresh : ℓ → Prop) (result : ℓ → Option ρ) where
  evidence : ι → ℓ → σ → α → Prop
  begins   : ∀ {l}, fresh l → result l = none
  initial  : ∀ {i l sh a}, fresh l → abs a sh → evidence i l sh a
  stable   : ∀ {s i j e b}, j ≠ i → o.Holds s → evidence j (s.locals j) s.shared b →
               (sys.allows i e s.shared <| s.locals i) → g s (i, e) →
               evidence j (s.locals j) (s.next sys i e).shared b
  point    : ∀ {s i e a}, o.Holds s → abs a s.shared → (sys.allows i e s.shared <| s.locals i) →
               g s (i, e) →
               Point abs result (op i) (evidence i) a s.shared (s.locals i) (s.next sys i e).shared
                 ((s.next sys i e).locals i)
  seen     : ι → ℓ → α → Prop := fun _ _ _ => True
  sees     : ∀ {s i e}, o.Holds s → (sys.allows i e s.shared <| s.locals i) → g s (i, e) →
               (result ((s.next sys i e).locals i)).isSome →
               (∀ a, abs a (s.next sys i e).shared → seen i ((s.next sys i e).locals i) a) ∨
               ((result (s.locals i)).isSome ∧
                 ∀ a, seen i (s.locals i) a → seen i ((s.next sys i e).locals i) a) := by
    exact fun _ _ _ _ => .inl fun _ _ => trivial

namespace Points

variable {o : Outline sys g} {op : ι → α → ρ × α} {abs : α → σ → Prop} {fresh : ℓ → Prop}
variable {result : ℓ → Option ρ} {pts : Points sys g o op abs fresh result}
variable {a : α} {before : Set (ι × ι)} {s : State ι σ ℓ} {order : List ι}

-- A thread that has not returned yet can still be placed: after those that precede it, and where the
-- object was in a state that it knows about.
def Open (pts : Points sys g o op abs fresh result) (a : α) (before : Set (ι × ι))
    (s : State ι σ ℓ) (order : List ι) (j : ι) : Prop :=
  Sometime op a order {i | (i, j) ∈ before} (pts.evidence j (s.locals j) s.shared)

-- What a thread has seen was there after its operation.
def Seen (pts : Points sys g o op abs fresh result) (a : α) (s : State ι σ ℓ) (order : List ι)
    (j : ι) : Prop :=
  Sometime op a order {j} (pts.seen j (s.locals j))

structure Ordered (pts : Points sys g o op abs fresh result) (a : α) (before : Set (ι × ι))
    (s : State ι σ ℓ) (order : List ι) : Prop extends
    Linearizes abs result op a before s order where
  opens : ∀ j, result (s.locals j) = none → pts.Open a before s order j
  seen  : ∀ j, (result (s.locals j)).isSome → pts.Seen a s order j

-- What a thread knows about the object cannot be invalidated by the other threads.
theorem Open.next (h : pts.Open a before s order j) (hj : j ≠ i) (ho : o.Holds s)
    (al : sys.allows i e s.shared <| s.locals i) (c : g s (i, e)) :
    pts.Open a before (s.next sys i e) order j := by
  refine Sometime.mono h subset_rfl fun b he => ?_
  rw [State.next_locals_of_ne s e hj]
  exact pts.stable hj ho he al c

theorem Seen.next (h : pts.Seen a s order j) (hj : j ≠ i) : pts.Seen a (s.next sys i e) order j := by
  rw [Seen, State.next_locals_of_ne s e hj]
  exact h

namespace Ordered

-- The threads that have returned by now precede those that have not begun.
theorem meet (h : pts.Ordered a before s order) :
    pts.Ordered a (before ∪ {p | (result (s.locals p.1)).isSome ∧ fresh (s.locals p.2)}) s order where
  toLinearizes := by
    refine { h.toLinearizes with realTime := fun i j hb hj => ?_ }
    refine hb.elim (fun hb => h.realTime i j hb hj) fun ⟨_, hf⟩ => ?_
    have hn := (h.mem_iff j).mp hj
    rw [pts.begins hf] at hn
    cases hn
  seen := h.seen
  opens j hn := by
    have ho := h.opens j hn
    by_cases hf : fresh (s.locals j)
    case pos =>
      refine .last (fun i hi => ?_) (pts.initial hf h.final)
      exact hi.elim ho.mem fun hi => (h.mem_iff i).mpr hi.left
    case neg => exact ho.mono (fun i hi => hi.resolve_right fun hi => hf hi.right) fun _ => id

variable (h : pts.Ordered a before s order) (ho : o.Holds s)
variable (al : sys.allows i e s.shared <| s.locals i) (c : g s (i, e))

include h ho al c

-- A thread that does not return stays open, and so do the others.
theorem next_of_none (hn : result ((s.next sys i e).locals i) = none)
    (hs : result (s.locals i) = none) (ha : abs (after op a order) (s.next sys i e).shared)
    (hi : pts.Open a before (s.next sys i e) order i) :
    pts.Ordered a before (s.next sys i e) order where
  nodup    := h.nodup
  final    := ha
  realTime := h.realTime
  mem_iff j := by
    by_cases hj : j = i
    case pos => subst hj; rw [h.mem_iff, hn, hs]
    case neg => rw [h.mem_iff, State.next_locals_of_ne s e hj]
  results j v hv := by
    by_cases hj : j = i
    case pos => subst hj; rw [hn] at hv; cases hv
    case neg => exact h.results j v (State.next_locals_of_ne s e hj ▸ hv)
  opens j hj := by
    by_cases hji : j = i
    case pos => exact hji ▸ hi
    case neg => exact (h.opens j (State.next_locals_of_ne s e hji ▸ hj)).next hji ho al c
  seen j hj := by
    have hji : j ≠ i := by
      rintro rfl
      rw [hn] at hj
      cases hj
    exact (h.seen j (State.next_locals_of_ne s e hji ▸ hj)).next hji

-- A thread that returns is placed where its operation is performed.
theorem next_of_some (hs : result ((s.next sys i e).locals i) = some v)
    (hn : result (s.locals i) = none) (hl : order = l₁ ++ l₂)
    (hb : ∀ j, (j, i) ∈ before → j ∈ l₁) (hi : (i, v) ∈ replay op a (l₁ ++ i :: l₂))
    (hr : ∀ p ∈ replay op a order, p ∈ replay op a (l₁ ++ i :: l₂))
    (hf : abs (after op a (l₁ ++ i :: l₂)) (s.next sys i e).shared)
    (hop : ∀ threads P, Sometime op a order threads P → Sometime op a (l₁ ++ i :: l₂) threads P) :
    pts.Ordered a before (s.next sys i e) (l₁ ++ i :: l₂) := by
  have hm : i ∉ l₁ ++ l₂ := by
    rw [← hl, h.mem_iff, hn]
    exact Bool.false_ne_true
  have sub : (l₁ ++ l₂).Sublist (l₁ ++ i :: l₂) :=
    (List.sublist_cons_self i l₂).append_left l₁
  refine { nodup := ?_, final := hf, mem_iff := fun j => ?_, results := fun j w hw => ?_,
           realTime := fun k j hk hj => ?_, opens := fun j hj => ?_, seen := fun j hj => ?_ }
  case refine_1 => exact (List.perm_middle.nodup_iff).mpr <| List.nodup_cons.mpr ⟨hm, hl ▸ h.nodup⟩
  case refine_2 =>
    rw [List.perm_middle.mem_iff, List.mem_cons, ← hl]
    by_cases hj : j = i
    case pos => subst hj; rw [hs]; simp
    case neg => simp [hj, h.mem_iff, State.next_locals_of_ne s e hj]
  case refine_3 =>
    by_cases hj : j = i
    case pos =>
      subst hj
      rw [hs] at hw
      exact Option.some.inj hw ▸ hi
    case neg => exact hr _ <| h.results j w (State.next_locals_of_ne s e hj ▸ hw)
  case refine_4 =>
    by_cases hji : j = i
    case pos =>
      subst hji
      have hk : [k].Sublist l₁ := List.singleton_sublist.mpr (hb k hk)
      exact hk.append <| (List.nil_sublist l₂).cons_cons j
    case neg =>
      rw [List.perm_middle.mem_iff, List.mem_cons, ← hl] at hj
      exact (h.realTime k j hk (hj.resolve_left hji)).trans (hl ▸ sub)
  case refine_5 =>
    have hji : j ≠ i := by
      intro he
      rw [he, hs] at hj
      cases hj
    exact hop _ _ <| (h.opens j (State.next_locals_of_ne s e hji ▸ hj)).next hji ho al c
  case refine_6 =>
    by_cases hji : j = i
    case neg => exact hop _ _ <| (h.seen j (State.next_locals_of_ne s e hji ▸ hj)).next hji
    case pos =>
      subst hji
      refine .last (fun k hk => hk ▸ by simp) ?_
      refine ((pts.sees ho al c hj).resolve_right fun hi => ?_) _ hf
      rw [hn] at hi
      cases hi.left

theorem next_of_idle (hr : result ((s.next sys i e).locals i) = result (s.locals i))
    (hs : (result (s.locals i)).isSome) (ha : abs (after op a order) (s.next sys i e).shared) :
    pts.Ordered a before (s.next sys i e) order := by
  have same (j : ι) : result ((s.next sys i e).locals j) = result (s.locals j) := by
    by_cases hj : j = i
    case pos => exact hj ▸ hr
    case neg => rw [State.next_locals_of_ne s e hj]
  refine { nodup := h.nodup, final := ha, realTime := h.realTime, mem_iff := fun j => ?_,
           results := fun j v hv => h.results j v (same j ▸ hv), opens := fun j hj => ?_,
           seen := fun j hj => ?_ }
  case refine_1 => rw [h.mem_iff, same]
  case refine_2 =>
    rw [same] at hj
    refine (h.opens j hj).next (fun he => ?_) ho al c
    rw [he] at hj
    rw [hj] at hs
    cases hs
  case refine_3 =>
    by_cases hji : j = i
    case neg => exact (h.seen j (same j ▸ hj)).next hji
    case pos =>
      subst hji
      rcases pts.sees ho al c hj with hv | ⟨_, hv⟩
      case inl => exact .last (fun k hk => hk ▸ (h.mem_iff j).mpr hs) (hv _ ha)
      case inr => exact (h.seen j hs).mono subset_rfl hv

theorem next : ∃ order', pts.Ordered a before (s.next sys i e) order' := by
  cases pts.point ho h.final al c
  case prepare hs hn ha hk =>
    exact ⟨order, h.next_of_none ho al c hn hs ha <| (h.opens i hs).mono subset_rfl hk⟩
  case observe hs hn ha hw =>
    exact ⟨order, h.next_of_none ho al c hn hs ha <| .last (fun j hj => (h.opens i hs).mem hj) hw⟩
  case perform v a' hn hs heq ha =>
    refine ⟨order ++ [i], h.next_of_some ho al c hs hn (List.append_nil order).symm ?_ ?_ ?_ ?_ ?_⟩
    case refine_1 => exact fun j hj => (h.opens i hn).mem hj
    case refine_2 => simp [replay_append, replay, heq]
    case refine_3 => exact fun p hp => by simp [replay_append, hp]
    case refine_4 => simpa [after_append, after, heq] using ha
    case refine_5 => exact fun _ _ hj => hj.append [i]
  case lookBack v hn hs ha heq =>
    obtain ⟨l₁, l₂, hl, hb, he⟩ := h.opens i hn
    have hop := heq _ he
    refine ⟨l₁ ++ i :: l₂, h.next_of_some ho al c hs hn hl hb ?_ ?_ ?_ ?_⟩
    case refine_1 => simp [replay_insert hop]
    case refine_2 => exact fun p hp => mem_replay_insert hop (hl ▸ hp)
    case refine_3 => rwa [after_insert hop, ← hl]
    case refine_4 => exact fun _ _ hj => (hl ▸ hj).insert hop
  case idle hs hr ha => exact ⟨order, h.next_of_idle ho al c hr hs ha⟩

end Ordered

theorem ordered_of_fresh (hf : ∀ i, fresh (s.locals i)) (ha : abs a s.shared) :
    pts.Ordered a ∅ s [] where
  nodup            := List.nodup_nil
  mem_iff i        := by simp [pts.begins (hf i)]
  results i v hv   := by rw [pts.begins (hf i)] at hv; cases hv
  final            := ha
  realTime _ _ h _ := h.elim
  opens i _        := .last (fun _ h => h.elim) (pts.initial (hf i) ha)
  seen i hs        := by rw [pts.begins (hf i)] at hs; cases hs

theorem linearizes_seen (pts : Points sys g o op abs fresh result) (ho : o.Holds s)
    (hf : ∀ i, fresh (s.locals i)) (ha : abs a s.shared) (r : Run sys g s s') :
    ∃ order, Linearizes abs result op a (Precedes fresh result r) s' order ∧
      ∀ i, (result (s'.locals i)).isSome → pts.Seen a s' order i := by
  have hr : o.Holds s' ∧ ∃ order, pts.Ordered a (Precedes fresh result r) s' order := by
    refine r.invariant_fold (P := fun before s => o.Holds s ∧ ∃ order, pts.Ordered a before s order)
      ?_ ⟨ho, [], ordered_of_fresh hf ha⟩
    intro before s e ⟨ho, order, h⟩ al c
    exact ⟨ho.next al c, h.meet.next ho al c⟩
  exact hr.right.imp fun order h => ⟨h.toLinearizes, h.seen⟩

theorem linearizes (pts : Points sys g o op abs fresh result) (ho : o.Holds s)
    (hf : ∀ i, fresh (s.locals i)) (ha : abs a s.shared) (r : Run sys g s s') :
    ∃ order, Linearizes abs result op a (Precedes fresh result r) s' order :=
  (pts.linearizes_seen ho hf ha r).imp fun _ h => h.left

end Points

end Linearization
