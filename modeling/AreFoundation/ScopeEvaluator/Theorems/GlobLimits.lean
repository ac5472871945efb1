import AreFoundation.Library.Budget
import AreFoundation.ScopeEvaluator.GlobMatch

open Budgeted

namespace ScopeEvaluator

namespace GlobMatch

abbrev Tightens (m m' : Matcher α) : Prop :=
  Budgeted.Tightens GlobError.patternTooComplex m m'

variable {w w' cap cap' : Nat}

theorem burnWork_tightens (cost : Nat) : Tightens (burnWork cost) (burnWork cost) := by
  intro work extra
  unfold burnWork
  by_cases h : cost ≤ work
  case pos =>
    have hr : work + extra - cost = work - cost + extra := by omega
    simp [h, Nat.le_add_right_of_le h, hr, Except.map]
  case neg => simp [h]

theorem ite_tightens {m m' : Matcher Bool} {f f' g g' : Matcher α} (hm : Tightens m m')
    (hf : Tightens f f') (hg : Tightens g g') :
    Tightens (do if ← m then f else g) (do if ← m' then f' else g') := by
  apply hm.bind
  intro b
  cases b
  case true  => exact hf
  case false => exact hg

theorem matchStar_tightens {rest rest' : List Char → Matcher Bool}
    (h : ∀ ts, Tightens (rest ts) (rest' ts)) (ts : List Char) :
    Tightens (matchStar rest restIsEmpty ts) (matchStar rest' restIsEmpty ts) := by
  induction ts
  case nil          => exact .pure _
  case cons t ts hi =>
    apply (burnWork_tightens 1).bind
    intro _
    exact ite_tightens (h _) (.pure _) hi

theorem matchChars_tightens (pattern text : List Char) :
    Tightens (matchChars pattern text) (matchChars pattern text) := by
  induction pattern generalizing text
  case nil          => exact .pure _
  case cons c p hi  =>
    unfold matchChars
    split
    case h_1 heq => cases heq
    case h_2 heq =>
      cases heq
      apply matchStar_tightens
      intro ts
      exact (burnWork_tightens 1).bind fun _ => hi ts
    case h_3 heq =>
      cases heq
      split
      case h_1 => exact .pure _
      case h_2 => exact hi _
    case h_8 heq =>
      cases heq
      split
      case h_1 => exact .pure _
      case h_2 =>
        split
        case isTrue  => exact hi _
        case isFalse => exact .pure _
    all_goals exact .throw _

theorem matchSegment_tightens (pattern text : List Char) :
    Tightens (matchSegment pattern text) (matchSegment pattern text) :=
  (burnWork_tightens 1).bind fun _ => matchChars_tightens pattern text

theorem matchDoubleStar_tightens {rest rest' : List (List Char) → Matcher Bool}
    (h : ∀ rs, Tightens (rest rs) (rest' rs)) (rs : List (List Char)) :
    Tightens (matchDoubleStar rest rs) (matchDoubleStar rest' rs) := by
  induction rs
  case nil          => exact (burnWork_tightens 1).bind fun _ => h []
  case cons r rs hi =>
    apply (burnWork_tightens 1).bind
    intro _
    exact ite_tightens (h _) (.pure _) hi

theorem matchSegmentsWithin_tightens (h : cap ≤ cap') (pattern resource : List (List Char))
    (depth : Nat) :
    Tightens (matchSegmentsWithin cap pattern resource depth)
      (matchSegmentsWithin cap' pattern resource depth) := by
  induction pattern generalizing resource depth
  case nil          => exact (burnWork_tightens 1).bind fun _ => .pure _
  case cons p ps hi =>
    apply (burnWork_tightens 1).bind
    intro _
    split
    case isTrue =>
      by_cases hd : depth ≥ cap
      case pos => rw [if_pos hd]; exact .stopped
      case neg =>
        rw [if_neg hd, if_neg (show ¬depth ≥ cap' by omega)]
        split
        case isTrue  => exact .pure _
        case isFalse => exact matchDoubleStar_tightens (hi · _) _
    case isFalse =>
      split
      case h_1 => exact .pure _
      case h_2 => exact ite_tightens (matchSegment_tightens _ _) (hi _ _) (.pure _)

end GlobMatch

open GlobMatch

-- The last part is about the limits that the code has, compared with arbitrary ones.
theorem limits_never_change_answer (hw : w ≤ w') (hc : cap ≤ cap')
    (pattern resource : List (List Char)) (depth : Nat) :
    (∀ b rest, matchSegmentsWithin cap pattern resource depth w = .ok (b, rest) →
      ∃ rest', matchSegmentsWithin cap' pattern resource depth w' = .ok (b, rest') ∧
        w' + rest = w + rest') ∧
    (∀ b rest, matchSegmentsWithin cap' pattern resource depth w' = .ok (b, rest) →
      (∃ rest', matchSegmentsWithin cap pattern resource depth w = .ok (b, rest')) ∨
      matchSegmentsWithin cap pattern resource depth w = .error .patternTooComplex) ∧
    (∀ pattern resource b rest, pattern ≠ "" →
      matchSegmentsWithin cap (segments pattern) (resourceSegments resource) 0 w = .ok (b, rest) →
      globMatch pattern resource = .ok b ∨
      globMatch pattern resource = .error .patternTooComplex) := by
  have tightens := matchSegmentsWithin_tightens hc pattern resource depth
  obtain ⟨extra, rfl⟩ := Nat.exists_eq_add_of_le hw
  refine ⟨?consumed, ?stopped, ?limits⟩
  case consumed =>
    intro b rest h
    exact ⟨rest + extra, tightens.ok h, by omega⟩
  case stopped => exact fun b rest h => tightens.ok_or_exhausted h
  case limits =>
    intro pattern resource b rest hp h
    -- Both kinds of limits are compared with ones that are at least as generous as either.
    have given := matchSegmentsWithin_tightens (Nat.le_max_left cap maxDoubleStarDepth)
      (segments pattern) (resourceSegments resource) 0
    have ours := matchSegmentsWithin_tightens (Nat.le_max_right cap maxDoubleStarDepth)
      (segments pattern) (resourceSegments resource) 0
    have generous : matchSegmentsWithin (max cap maxDoubleStarDepth) (segments pattern)
        (resourceSegments resource) 0 (maxGlobWork + w) = .ok (b, rest + maxGlobWork) := by
      rw [Nat.add_comm]
      exact given.ok h
    rw [globMatch, if_neg hp, matchSegments]
    rcases ours.ok_or_exhausted generous with ⟨rest', ho⟩ | ho
    case inl => simp [StateT.run', ho, Functor.map, Except.map]
    case inr => simp [StateT.run', ho, Functor.map, Except.map]

theorem limits_never_change_answer_nested :
    ∃ rest, matchSegmentsWithin 3 (segments "a/**/c*") (segments "a/b/cd") 0 100 =
      .ok (true, rest) ∧ 100 + 8 = 20 + rest := by
  have answer : matchSegmentsWithin 2 (segments "a/**/c*") (segments "a/b/cd") 0 20 =
      .ok (true, 8) := by
    decide +kernel
  exact (limits_never_change_answer (by decide) (by decide) _ _ _).left _ _ answer

end ScopeEvaluator
