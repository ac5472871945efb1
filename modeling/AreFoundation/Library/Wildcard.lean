import Mathlib.Data.List.Infix
import Mathlib.Tactic.Common

-- Patterns whose tokens stand for one letter or for any number of letters.
namespace Wildcard

inductive Token (α : Type*)
  | many
  | one (p : α → Prop)

inductive Matches : List (Token α) → List α → Prop
  | nil : Matches [] []
  | many (xs : List α) (h : Matches ts ys) : Matches (.many :: ts) (xs ++ ys)
  | one (hp : p x) (h : Matches ts xs) : Matches (.one p :: ts) (x :: xs)

namespace Matches

variable {ts : List (Token α)} {xs ys : List α}

theorem many_of_suffix (hs : ys <:+ xs) (h : Matches ts ys) : Matches (.many :: ts) xs := by
  have ⟨zs, hz⟩ := hs
  exact hz ▸ .many zs h

theorem many_nil (xs : List α) : Matches [.many] xs :=
  .many_of_suffix xs.nil_suffix .nil

theorem nil_iff : Matches [] xs ↔ xs = [] where
  mp h  := by cases h; rfl
  mpr h := h ▸ .nil

theorem many_iff : Matches (.many :: ts) xs ↔ ∃ ys, ys <:+ xs ∧ Matches ts ys where
  mp h := by
    cases h
    case many ys zs h => exact ⟨ys, List.suffix_append zs ys, h⟩
  mpr := fun ⟨_, hs, h⟩ => .many_of_suffix hs h

theorem one_nil_iff : Matches (.one p :: ts) ([] : List α) ↔ False where
  mp h  := by cases h
  mpr h := h.elim

theorem one_cons_iff {x : α} : Matches (.one p :: ts) (x :: xs) ↔ p x ∧ Matches ts xs where
  mp h := by
    cases h
    case one hp h => exact ⟨hp, h⟩
  mpr := fun ⟨hp, h⟩ => .one hp h

-- Patterns whose tokens admit more match more.
theorem map_mono {f g : β → Token α} (hm : ∀ b, f b = .many → g b = .many)
    (ho : ∀ b p, f b = .one p → ∃ q, g b = .one q ∧ ∀ x, p x → q x) {bs : List β}
    (h : Matches (bs.map f) xs) : Matches (bs.map g) xs := by
  induction bs generalizing xs
  case nil => exact h
  case cons b bs hi =>
    rw [List.map_cons] at h ⊢
    cases hf : f b
    case many =>
      rw [hf, many_iff] at h
      obtain ⟨ys, hs, h⟩ := h
      exact hm b hf ▸ .many_of_suffix hs (hi h)
    case one p =>
      obtain ⟨q, hg, hq⟩ := ho b p hf
      rw [hf] at h
      cases h
      case one hp h => exact hg ▸ .one (hq _ hp) (hi h)

-- A token for no letter at all makes the pattern match nothing.
theorem satisfiable (h : Matches ts xs) : ∀ p, .one p ∈ ts → ∃ x, p x := by
  induction h
  case nil       => simp
  case many hi   => simpa using hi
  case one hp _ hi =>
    intro q hq
    cases hq
    case head    => exact ⟨_, hp⟩
    case tail hq => exact hi q hq

end Matches

end Wildcard
