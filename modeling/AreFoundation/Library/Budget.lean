import Mathlib.Tactic.Common

-- Computations that consume a budget and fail when it is exhausted.
abbrev Budgeted (ε α : Type) := StateT Nat (Except ε) α

namespace Budgeted

variable {ε α β : Type} {exhausted : ε}

-- The first computation works under tighter limits than the second one. Unless it is stopped by
-- them, both have the same result and consume the same amount.
def Tightens (exhausted : ε) (m m' : Budgeted ε α) : Prop :=
  ∀ budget extra, m budget = .error exhausted ∨
    m' (budget + extra) = (m budget).map fun r => (r.1, r.2 + extra)

namespace Tightens

variable {m m' : Budgeted ε α} {f f' : α → Budgeted ε β}

theorem pure (a : α) : Tightens exhausted (pure a) (pure a) :=
  fun _ _ => .inr rfl

theorem throw (err : ε) : Tightens exhausted (throw err : Budgeted ε α) (throw err) :=
  fun _ _ => .inr rfl

theorem stopped : Tightens exhausted (MonadExcept.throw exhausted) m' :=
  fun _ _ => .inl rfl

theorem bind (h : Tightens exhausted m m') (hf : ∀ a, Tightens exhausted (f a) (f' a)) :
    Tightens exhausted (m >>= f) (m' >>= f') := by
  intro budget extra
  simp only [Bind.bind, StateT.bind, Except.bind]
  rcases h budget extra with hm | hm
  case inl => simp [hm]
  case inr =>
    rw [hm]
    cases m budget
    case error => exact .inr rfl
    case ok r  => exact hf r.1 r.2 extra

theorem ok (h : Tightens exhausted m m') (hm : m budget = .ok (a, rest)) :
    m' (budget + extra) = .ok (a, rest + extra) := by
  rcases h budget extra with hb | hb
  case inl => simp [hm] at hb
  case inr => simpa [hm, Except.map] using hb

-- Tighter limits do not lead to another result.
theorem ok_or_exhausted (h : Tightens exhausted m m') (hm : m' (budget + extra) = .ok (a, rest)) :
    (∃ rest', m budget = .ok (a, rest')) ∨ m budget = .error exhausted := by
  rcases h budget extra with hb | hb
  case inl => exact .inr hb
  case inr =>
    rw [hm] at hb
    cases hr : m budget
    case error => simp [hr, Except.map] at hb
    case ok r  =>
      simp only [hr, Except.map, Except.ok.injEq, Prod.mk.injEq] at hb
      exact .inl ⟨r.2, by rw [hb.left]⟩

end Tightens

end Budgeted
