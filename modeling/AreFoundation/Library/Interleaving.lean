import Mathlib.Logic.Function.Basic
import AreFoundation.Library.Transition

-- Threads that own a local state, share a global one, and take their atomic steps in any order.
namespace Interleaving

-- `ε` collects what the environment decides in a step of a thread.
structure System (ι σ ℓ ε : Type*) where
  allows : ι → ε → σ → ℓ → Prop
  step   : ι → ε → σ → ℓ → σ × ℓ

@[ext]
structure State (ι σ ℓ : Type*) where
  shared : σ
  locals : ι → ℓ

abbrev Guard (ι σ ℓ ε : Type*) := Transition.Guard (State ι σ ℓ) (ι × ε)

variable [DecidableEq ι] {sys : System ι σ ℓ ε} {g : Guard ι σ ℓ ε}

namespace State

def next (sys : System ι σ ℓ ε) (s : State ι σ ℓ) (i : ι) (e : ε) : State ι σ ℓ where
  shared := (sys.step i e s.shared <| s.locals i).1
  locals := Function.update s.locals i (sys.step i e s.shared <| s.locals i).2

@[simp]
theorem next_shared (s : State ι σ ℓ) (i : ι) (e : ε) :
    (s.next sys i e).shared = (sys.step i e s.shared <| s.locals i).1 :=
  rfl

@[simp]
theorem next_locals_self (s : State ι σ ℓ) (i : ι) (e : ε) :
    (s.next sys i e).locals i = (sys.step i e s.shared <| s.locals i).2 := by
  simp [next]

theorem next_locals_of_ne (s : State ι σ ℓ) {i j : ι} (e : ε) (h : j ≠ i) :
    (s.next sys i e).locals j = s.locals j := by
  simp [next, h]

theorem forall_next_locals {P : ι → ℓ → Prop} {s : State ι σ ℓ} {i : ι} {e : ε}
    (own : P i (sys.step i e s.shared <| s.locals i).2)
    (others : ∀ j, j ≠ i → P j (s.locals j)) (j : ι) : P j ((s.next sys i e).locals j) :=
  (Function.forall_update_iff _ _).mpr ⟨own, others⟩ j

end State

-- The threads as one state machine whose events say whose turn it is.
def System.interleaved (sys : System ι σ ℓ ε) : Transition.System (State ι σ ℓ) (ι × ε) where
  allows s e := sys.allows e.1 e.2 s.shared (s.locals e.1)
  step s e   := s.next sys e.1 e.2

instance [∀ i e sh l, Decidable (sys.allows i e sh l)] (s : State ι σ ℓ) (e : ι × ε) :
    Decidable (sys.interleaved.allows s e) :=
  inferInstanceAs <| Decidable (sys.allows ..)

abbrev Run (sys : System ι σ ℓ ε) (g : Guard ι σ ℓ ε) := Transition.Run sys.interleaved g

namespace Run

-- The number of steps that thread `i` takes.
def turns {s₁ s₂ : State ι σ ℓ} (i : ι) (r : Run sys g s₁ s₂) : Nat :=
  r.count (·.1 = i)

-- A thread that loses at least one unit of rank with each of its own steps, given an invariant, has used
-- up its rank after that many turns, however the other threads are scheduled.
theorem rank_le_of {I : State ι σ ℓ → Prop} (rank : ι → ℓ → Nat)
    (keeps : ∀ {s i e}, I s → (sys.allows i e s.shared <| s.locals i) → g s (i, e) →
      I (s.next sys i e))
    (h : ∀ {s i e}, I s → (sys.allows i e s.shared <| s.locals i) → g s (i, e) →
      rank i (sys.step i e s.shared <| s.locals i).2 ≤ rank i (s.locals i) - 1)
    (i : ι) {s₁ s₂ : State ι σ ℓ} (r : Run sys g s₁ s₂) (hs : I s₁) :
    rank i (s₂.locals i) ≤ rank i (s₁.locals i) - r.turns i := by
  induction r
  case refl => simp [turns, Transition.Run.count]
  case step s₁ s₂ e a c tl hi =>
    have hi := hi (keeps hs a c)
    simp only [turns, Transition.Run.count, System.interleaved] at hi ⊢
    by_cases he : e.1 = i
    case pos =>
      subst he
      have := h hs a c
      simp only [State.next_locals_self, decide_true, if_true] at hi ⊢
      omega
    case neg =>
      rw [State.next_locals_of_ne _ _ (Ne.symm he)] at hi
      simpa [he] using hi

theorem rank_le (rank : ℓ → Nat)
    (h : ∀ {i e sh l}, rank (sys.step i e sh l).2 ≤ rank l - 1) (i : ι) {s₁ s₂ : State ι σ ℓ}
    (r : Run sys g s₁ s₂) : rank (s₂.locals i) ≤ rank (s₁.locals i) - r.turns i :=
  r.rank_le_of (I := fun _ => True) (fun _ => rank) (fun _ _ _ => trivial) (fun _ _ _ => h) i trivial

-- An assertion about one thread that its own steps keep and that the other threads leave alone.
theorem thread_invariant {A : ℓ → σ → Prop} {i : ι}
    (own : ∀ {s : State ι σ ℓ} {e}, A (s.locals i) s.shared →
      (sys.allows i e s.shared <| s.locals i) → g s (i, e) →
      A (sys.step i e s.shared <| s.locals i).2 (sys.step i e s.shared <| s.locals i).1)
    (other : ∀ {j e sh l l'}, A l sh → sys.allows j e sh l' → A l (sys.step j e sh l').1)
    {s₁ s₂ : State ι σ ℓ} (r : Run sys g s₁ s₂) (h : A (s₁.locals i) s₁.shared) :
    A (s₂.locals i) s₂.shared := by
  refine r.invariant (P := fun s => A (s.locals i) s.shared) ?_ h
  intro s ⟨j, e⟩ h a c
  by_cases hj : j = i
  case pos =>
    subst hj
    simpa [System.interleaved] using own h a c
  case neg =>
    simpa [System.interleaved, State.next_locals_of_ne s e (Ne.symm hj)] using other h a

-- What every step of a thread establishes, given what all threads keep, holds once it has taken one.
theorem settled {A : σ → Prop} {P Q : ℓ → Prop} {i : ι}
    (keeps : ∀ {j e sh l}, A sh → sys.allows j e sh l → A (sys.step j e sh l).1)
    (own : ∀ {s : State ι σ ℓ} {e}, A s.shared → P (s.locals i) ∨ Q (s.locals i) →
      (sys.allows i e s.shared <| s.locals i) → g s (i, e) →
      Q (sys.step i e s.shared <| s.locals i).2) {s₁ s₂ : State ι σ ℓ} (r : Run sys g s₁ s₂)
    (ha : A s₁.shared) (hp : P (s₁.locals i) ∨ Q (s₁.locals i)) :
    (0 < r.turns i ∨ Q (s₁.locals i)) → Q (s₂.locals i) := by
  induction r
  case refl => simp [turns, Transition.Run.count]
  case step s₁ s₂ e a c tl hi =>
    obtain ⟨j, e⟩ := e
    have ha' : A (s₁.next sys j e).shared := keeps ha a
    intro ht
    by_cases hj : j = i
    case pos =>
      subst hj
      have hq : Q ((s₁.next sys j e).locals j) := by simpa using own ha hp a c
      exact hi ha' (.inr hq) (.inr hq)
    case neg =>
      have hl : (s₁.next sys j e).locals i = s₁.locals i := s₁.next_locals_of_ne e (Ne.symm hj)
      refine hi ha' (by simpa [System.interleaved, hl] using hp) ?_
      simpa [turns, Transition.Run.count, hj, System.interleaved, hl] using ht

theorem turns_ofSchedule {s : State ι σ ℓ} {sched : List (ι × ε)}
    (h : Transition.Admissible sys.interleaved g s sched) :
    turns i (.ofSchedule sched h) = sched.countP (·.1 = i) :=
  Transition.Run.count_ofSchedule h

end Run

-- A proof outline: an invariant of the shared state together with an assertion for each thread, where
-- no thread invalidates the assertion of another one.
structure Outline (sys : System ι σ ℓ ε) (g : Guard ι σ ℓ ε) where
  inv    : σ → Prop
  asn    : ι → ℓ → σ → Prop
  keeps  : ∀ {s i e}, inv s.shared → asn i (s.locals i) s.shared →
             (sys.allows i e s.shared <| s.locals i) → g s (i, e) →
             inv (s.next sys i e).shared ∧ asn i ((s.next sys i e).locals i) (s.next sys i e).shared
  stable : ∀ {s i j e}, j ≠ i → inv s.shared → asn i (s.locals i) s.shared →
             asn j (s.locals j) s.shared → (sys.allows i e s.shared <| s.locals i) → g s (i, e) →
             asn j (s.locals j) (s.next sys i e).shared

namespace Outline

variable {o : Outline sys g} {s s₁ s₂ : State ι σ ℓ}

structure Holds (o : Outline sys g) (s : State ι σ ℓ) : Prop where
  inv : o.inv s.shared
  asn : ∀ i, o.asn i (s.locals i) s.shared

theorem Holds.next (h : o.Holds s) (a : sys.allows i e s.shared <| s.locals i) (c : g s (i, e)) :
    o.Holds (s.next sys i e) where
  inv := o.keeps h.inv (h.asn i) a c |>.left
  asn := by
    have hk := o.keeps h.inv (h.asn i) a c
    rw [State.next_locals_self] at hk
    refine State.forall_next_locals (P := fun j l => o.asn j l _) hk.right ?_
    exact fun j hj => o.stable hj h.inv (h.asn i) (h.asn j) a c

theorem Holds.run (h : o.Holds s₁) (r : Run sys g s₁ s₂) : o.Holds s₂ :=
  r.invariant Holds.next h

-- Adds what can be established on top of an outline. Assertions that only concern a thread's local
-- state cannot be invalidated by the other threads.
def strengthen (o : Outline sys g) (inv : σ → Prop) (asn : ι → ℓ → Prop)
    (keeps : ∀ {s i e}, o.inv s.shared → o.asn i (s.locals i) s.shared → inv s.shared →
      asn i (s.locals i) → (sys.allows i e s.shared <| s.locals i) → g s (i, e) →
      inv (s.next sys i e).shared ∧ asn i ((s.next sys i e).locals i)) : Outline sys g where
  inv sh     := o.inv sh ∧ inv sh
  asn i l sh := o.asn i l sh ∧ asn i l
  keeps := by
    intro _ _ _ ⟨ho, hi⟩ ⟨hao, ha⟩ a c
    have ⟨ho', hao'⟩ := o.keeps ho hao a c
    have ⟨hi', ha'⟩ := keeps ho hao hi ha a c
    exact ⟨⟨ho', hi'⟩, ⟨hao', ha'⟩⟩
  stable h hi hai haj a c := ⟨o.stable h hi.left hai.left haj.left a c, haj.right⟩

end Outline

end Interleaving
