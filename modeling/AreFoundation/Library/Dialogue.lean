import Mathlib.Tactic.Common

-- Programs that ask other parties questions and go on with what they answer.
inductive Dialogue (Q : Type) (A : Q → Type) (α : Type)
  | ret (a : α)
  | ask (q : Q) (k : A q → Dialogue Q A α)

namespace Dialogue

variable {Q : Type} {A : Q → Type} {α β : Type}

def bind (d : Dialogue Q A α) (f : α → Dialogue Q A β) : Dialogue Q A β :=
  match d with
  | ret a   => f a
  | ask q k => ask q fun a => (k a).bind f

instance : Monad (Dialogue Q A) where
  pure := ret
  bind := bind

def question (q : Q) : Dialogue Q A (A q) :=
  ask q ret

abbrev Transcript (Q : Type) (A : Q → Type) := List (Σ q, A q)

-- What is asked and answered on the way to a result. Nothing is assumed about the answers: they may
-- depend on everything that has happened before.
inductive Yields : Dialogue Q A α → Transcript Q A → α → Prop
  | ret : Yields (ret a) [] a
  | ask {k : A q → Dialogue Q A α} : Yields (k a) t r → Yields (ask q k) (⟨q, a⟩ :: t) r

def Always (d : Dialogue Q A α) (P : Transcript Q A → α → Prop) : Prop :=
  ∀ t r, d.Yields t r → P t r

variable {P : Transcript Q A → β → Prop}

@[simp]
theorem always_pure {b : β} : (pure b : Dialogue Q A β).Always P ↔ P [] b where
  mp h  := h _ _ .ret
  mpr h := by
    intro _ _ y
    cases y
    exact h

theorem always_ask {q : Q} {k : A q → Dialogue Q A β} :
    (ask q k).Always P ↔ ∀ a, (k a).Always fun t r => P (⟨q, a⟩ :: t) r where
  mp h  := fun _ _ _ y => h _ _ (.ask y)
  mpr h := by
    intro _ _ y
    cases y
    case ask y => exact h _ _ _ y

theorem always_bind {d : Dialogue Q A α} {f : α → Dialogue Q A β} :
    (d >>= f).Always P ↔ d.Always fun t a => (f a).Always fun t' r => P (t ++ t') r := by
  induction d generalizing P
  case ret a => exact (always_pure (P := fun t a => (f a).Always fun t' r => P (t ++ t') r)).symm
  case ask q k hi =>
    rw [always_ask]
    refine Iff.trans always_ask ?_
    exact forall_congr' fun a => hi a

@[simp]
theorem always_question {q : Q} {P : Transcript Q A → A q → Prop} :
    (question q).Always P ↔ ∀ a, P [⟨q, a⟩] a := by
  rw [question, always_ask]
  exact forall_congr' fun a => always_pure

theorem Always.mono {P' : Transcript Q A → β → Prop} {d : Dialogue Q A β} (h : d.Always P)
    (hp : ∀ {t r}, P t r → P' t r) : d.Always P' :=
  fun t r y => hp (h t r y)

theorem Always.ite [Decidable c] {d₁ d₂ : Dialogue Q A β} (pos : c → d₁.Always P)
    (neg : ¬c → d₂.Always P) : (if c then d₁ else d₂).Always P := by
  split
  case isTrue h  => exact pos h
  case isFalse h => exact neg h

end Dialogue
