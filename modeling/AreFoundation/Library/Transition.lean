import Mathlib.Data.List.Basic
import Mathlib.Data.Set.Basic
import Mathlib.Tactic.Common

-- State machines whose steps depend on an event.
namespace Transition

-- Events collect what the machine does not decide itself: inputs, the clock, generated identifiers,
-- outcomes of calls to the outside. `allows` says which of them can occur.
structure System (σ ε : Type*) where
  allows : σ → ε → Prop
  step   : σ → ε → σ

-- A condition on the steps of a run, evaluated in the state before the step.
abbrev Guard (σ ε : Type*) := σ → ε → Prop

def Guard.any : Guard σ ε := fun _ _ => True

instance : Decidable (Guard.any (s : σ) (e : ε)) := .isTrue trivial

variable {sys : System σ ε} {g : Guard σ ε}

inductive Run (sys : System σ ε) (g : Guard σ ε) : σ → σ → Type _
  | refl : Run sys g s s
  | step (e : ε) (allowed : sys.allows s₁ e) (guarded : g s₁ e) (tl : Run sys g (sys.step s₁ e) s₂) :
    Run sys g s₁ s₂

namespace Run

variable {s s₁ s₂ : σ}

def count (p : ε → Bool) {s₁ s₂ : σ} : (Run sys g s₁ s₂) → Nat
  | refl          => 0
  | step e _ _ tl => tl.count p + if p e then 1 else 0

theorem invariant {P : σ → Prop}
    (h : ∀ {s e}, P s → sys.allows s e → g s e → P (sys.step s e)) {s₁ s₂ : σ} :
    (Run sys g s₁ s₂) → P s₁ → P s₂
  | refl,          hi => hi
  | step _ a c tl, hi => tl.invariant h <| h hi a c

-- A history variable, updated in every step with the state before the step.
def fold (f : σ → ε → α → α) (a : α) {s₁ s₂ : σ} : (Run sys g s₁ s₂) → α
  | refl          => a
  | step e _ _ tl => tl.fold f (f s₁ e a)

theorem invariant_fold {P : α → σ → Prop} {f : σ → ε → α → α}
    (h : ∀ {a s e}, P a s → sys.allows s e → g s e → P (f s e a) (sys.step s e)) {a : α}
    {s₁ s₂ : σ} : (r : Run sys g s₁ s₂) → P a s₁ → P (r.fold f a) s₂
  | refl,          hi => hi
  | step _ a c tl, hi => tl.invariant_fold h <| h hi a c

-- Two history variables at once.
theorem invariant_fold₂ {P : α → β → σ → Prop} {f : σ → ε → α → α} {f' : σ → ε → β → β}
    (h : ∀ {a b s e}, P a b s → sys.allows s e → g s e → P (f s e a) (f' s e b) (sys.step s e))
    {a : α} {b : β} {s₁ s₂ : σ} :
    (r : Run sys g s₁ s₂) → P a b s₁ → P (r.fold f a) (r.fold f' b) s₂
  | refl,          hi => hi
  | step _ a c tl, hi => tl.invariant_fold₂ h <| h hi a c

def append {s₁ s₂ s₃ : σ} : (Run sys g s₁ s₂) → (Run sys g s₂ s₃) → Run sys g s₁ s₃
  | refl,          r => r
  | step e a c tl, r => step e a c (tl.append r)

def weaken {g' : Guard σ ε} (h : ∀ {s e}, g s e → g' s e) {s₁ s₂ : σ} :
    (Run sys g s₁ s₂) → Run sys g' s₁ s₂
  | refl          => refl
  | step e a c tl => step e a (h c) (tl.weaken h)

theorem fold_append (f : σ → ε → α → α) (a : α) {s₁ s₂ s₃ : σ} :
    (r : Run sys g s₁ s₂) → (r' : Run sys g s₂ s₃) → (r.append r').fold f a = r'.fold f (r.fold f a)
  | refl,          _  => rfl
  | step _ _ _ tl, r' => tl.fold_append f _ r'

theorem fold_weaken {g' : Guard σ ε} (h : ∀ {s e}, g s e → g' s e) (f : σ → ε → α → α) (a : α)
    {s₁ s₂ : σ} : (r : Run sys g s₁ s₂) → (r.weaken h).fold f a = r.fold f a
  | refl          => rfl
  | step _ _ _ tl => tl.fold_weaken h f _

-- One more step at the end.
def concat (r : Run sys g s₁ s₂) (e : ε) (a : sys.allows s₂ e) (c : g s₂ e) :
    Run sys g s₁ (sys.step s₂ e) :=
  r.append (step e a c refl)

-- Everything that the steps of a run contribute.
def collect (f : σ → ε → Set α) (r : Run sys g s₁ s₂) : Set α :=
  r.fold (fun s e A => A ∪ f s e) ∅

-- The same in the order of the steps.
def log (f : σ → ε → List α) (r : Run sys g s₁ s₂) : List α :=
  r.fold (fun s e l => l ++ f s e) []

theorem log_concat {f : σ → ε → List α} {e : ε} {a : sys.allows s₂ e} {c : g s₂ e}
    {r : Run sys g s₁ s₂} : (r.concat e a c).log f = r.log f ++ f s₂ e := by
  rw [log, concat, fold_append]
  rfl

end Run

-- Schedules give the events explicitly, so that a run can be computed.
def exec (sys : System σ ε) (s : σ) : List ε → σ
  | []      => s
  | e :: tl => exec sys (sys.step s e) tl

def foldExec (sys : System σ ε) (f : σ → ε → α → α) (s : σ) (a : α) : List ε → α
  | []      => a
  | e :: tl => foldExec sys f (sys.step s e) (f s e a) tl

def Admissible (sys : System σ ε) (g : Guard σ ε) (s : σ) : List ε → Prop
  | []      => True
  | e :: tl => sys.allows s e ∧ g s e ∧ Admissible sys g (sys.step s e) tl

instance Admissible.decidable [∀ s e, Decidable (sys.allows s e)] [∀ s e, Decidable (g s e)] :
    (s : σ) → (sched : List ε) → Decidable (Admissible sys g s sched)
  | _, []      => .isTrue trivial
  | s, e :: tl =>
    have := Admissible.decidable (sys.step s e) tl
    inferInstanceAs <| Decidable (_ ∧ _ ∧ _)

namespace Run

variable {s : σ} {sched : List ε}

def ofSchedule {s : σ} :
    (sched : List ε) → (Admissible sys g s sched) → Run sys g s (exec sys s sched)
  | [],     _         => refl
  | e :: _, ⟨a, c, h⟩ => step e a c <| ofSchedule _ h

theorem fold_ofSchedule {f : σ → ε → α → α} {a : α} (h : Admissible sys g s sched) :
    (ofSchedule sched h).fold f a = foldExec sys f s a sched := by
  induction sched generalizing s a
  case nil => rfl
  case cons hi =>
    obtain ⟨_, _, h⟩ := h
    exact hi h

theorem count_ofSchedule (h : Admissible sys g s sched) :
    (ofSchedule sched h).count p = sched.countP p := by
  induction sched generalizing s
  case nil => rfl
  case cons hi =>
    obtain ⟨_, _, h⟩ := h
    rw [List.countP_cons, ← hi h]
    rfl

end Run

-- Two copies of a machine that take their steps together.
def System.pair (sys : System σ ε) : System (σ × σ) (ε × ε) where
  allows s e := sys.allows s.1 e.1 ∧ sys.allows s.2 e.2
  step s e   := (sys.step s.1 e.1, sys.step s.2 e.2)

-- Two runs from schedules whose events correspond to each other.
def Run.ofSchedules {g : Guard (σ × σ) (ε × ε)} {f : ε → ε} {s s' : σ} :
    (sched : List ε) → (∀ s, ∀ e ∈ sched, g s (e, f e)) → (Admissible sys .any s sched) →
    (Admissible sys .any s' (sched.map f)) →
    Run sys.pair g (s, s') (exec sys s sched, exec sys s' (sched.map f))
  | [],         _,  _,         _           => refl
  | e :: sched, hg, ⟨a, _, h⟩, ⟨a', _, h'⟩ =>
    step (e, f e) ⟨a, a'⟩ (hg _ _ <| .head _) <|
      ofSchedules sched (fun s e he => hg s e <| .tail _ he) h h'

end Transition
