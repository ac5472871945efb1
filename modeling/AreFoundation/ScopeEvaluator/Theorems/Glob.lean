import AreFoundation.Library.Wildcard
import AreFoundation.ScopeEvaluator.GlobMatch

namespace ScopeEvaluator

open Wildcard

-- What patterns mean, apart from how they are matched.

def charToken : Char → Token Char
  | '*'                         => .many
  | '?'                         => .one fun _ => True
  | '[' | ']' | '\x7b' | '\x7d' => .one fun _ => False
  | c                           => .one (· = c)

theorem charToken_literal (h : c ∉ ['*', '?', '[', ']', '\x7b', '\x7d']) :
    charToken c = .one (· = c) := by
  unfold charToken
  split <;> simp_all

def SegmentMatches (pattern text : List Char) : Prop :=
  Matches (pattern.map charToken) text

theorem SegmentMatches.star_iff :
    SegmentMatches ('*' :: p) text ↔ ∃ suffix, suffix <:+ text ∧ SegmentMatches p suffix :=
  Matches.many_iff

theorem SegmentMatches.star (text : List Char) : SegmentMatches ['*'] text :=
  .many_nil text

def segmentToken (pattern : List Char) : Token (List Char) :=
  if pattern = ['*', '*'] then .many else .one (SegmentMatches pattern)

def GlobMatches (pattern resource : String) : Prop :=
  pattern ≠ "" ∧ Matches ((GlobMatch.segments pattern).map segmentToken)
    (GlobMatch.resourceSegments resource)

namespace GlobMatch

-- The matcher returns `a` for some amount of work.
def Yields (m : Matcher α) (a : α) : Prop :=
  ∃ work work', m work = .ok (a, work')

namespace Yields

variable {a b : α}

theorem pure_iff : Yields (pure a) b ↔ a = b := by
  constructor
  case mp =>
    intro ⟨_, _, h⟩
    exact congrArg Prod.fst (Except.ok.inj h)
  case mpr => exact fun h => ⟨0, 0, h ▸ rfl⟩

theorem not_throw : ¬Yields (throw err : Matcher α) a := by
  simp [Yields, throw, throwThe, MonadExceptOf.throw, StateT.lift, bind, Except.bind]

theorem bind {m : Matcher β} {f : β → Matcher α} (h : Yields (m >>= f) a) :
    ∃ b, Yields m b ∧ Yields (f b) a := by
  have ⟨work, work', h⟩ := h
  simp only [Bind.bind, StateT.bind, Except.bind] at h
  cases hm : m work
  case error => simp [hm] at h
  case ok r  => exact ⟨r.1, ⟨work, r.2, hm⟩, ⟨r.2, work', by simpa [hm] using h⟩⟩

theorem burnWork {m : Matcher α} (h : Yields (do burnWork cost; m) a) : Yields m a :=
  have ⟨_, _, h⟩ := h.bind
  h

theorem of_run {m : Matcher α} (h : m.run' work = .ok a) : Yields m a := by
  simp only [StateT.run', Functor.map, Except.map] at h
  split at h
  case h_1         => cases h
  case h_2 r heq => exact ⟨work, r.2, heq.trans <| by rw [← Except.ok.inj h]⟩

end Yields

-- Whenever the matcher returns, it decides a property.
def Decides (m : Matcher Bool) (P : Prop) : Prop :=
  ∀ b, Yields m b → (b = true ↔ P)

namespace Decides

variable {m f g : Matcher Bool} {P Q : Prop}

theorem pure (h : b = true ↔ P) : Decides (pure b) P :=
  fun _ hy => Yields.pure_iff.mp hy ▸ h

theorem throw : Decides (throw err) P :=
  fun _ hy => absurd hy Yields.not_throw

theorem burnWork (h : Decides m P) : Decides (do burnWork cost; m) P :=
  fun b hy => h b hy.burnWork

theorem congr (h : Decides m P) (hq : P ↔ Q) : Decides m Q :=
  fun b hy => (h b hy).trans hq

theorem ite (hm : Decides m P) (hf : P → Decides f Q) (hg : ¬P → Decides g Q) :
    Decides (do if ← m then f else g) Q := by
  intro b hy
  obtain ⟨c, hc, hy⟩ := hy.bind
  have hp := hm c hc
  cases c
  case true  => exact hf (hp.mp rfl) b hy
  case false => exact hg (by simpa using hp) b hy

end Decides

theorem matchStar_decides {rest : List Char → Matcher Bool} {Q : List Char → Prop}
    (h : ∀ ts, Decides (rest ts) (Q ts)) (ts : List Char) :
    Decides (matchStar rest restIsEmpty ts)
      (restIsEmpty = true ∨ ∃ suffix, suffix ≠ [] ∧ suffix <:+ ts ∧ Q suffix) := by
  induction ts
  case nil =>
    apply Decides.pure
    simp +contextual
  case cons t ts hi =>
    apply Decides.burnWork
    apply (h (t :: ts)).ite
    case hf =>
      intro hq
      exact .pure <| iff_of_true rfl <| .inr ⟨_, List.cons_ne_nil t ts, List.suffix_rfl, hq⟩
    case hg =>
      intro hq
      apply hi.congr
      apply or_congr_right
      apply exists_congr
      intro suffix
      rw [List.suffix_cons_iff]
      grind

-- The loop for a `*` gives up at the end of the text unless nothing is left of the pattern. Another
-- `*` at the end of a pattern therefore needs something to match.
def sharpen : List Char → List Char
  | []         => []
  | ['*', '*'] => ['?', '*']
  | c :: p     => c :: sharpen p

theorem sharpen_cons (h : c :: p ≠ ['*', '*']) : sharpen (c :: p) = c :: sharpen p := by
  rw [sharpen]
  exact fun hc hp => h (by rw [hc, hp])

-- Only a `*` matches the empty text.
theorem sharpen_nil (h : SegmentMatches (sharpen p) []) : p = [] ∨ p = ['*'] := by
  induction p
  case nil => exact .inl rfl
  case cons c p hi =>
    by_cases hp : c :: p = ['*', '*']
    case pos =>
      rw [hp] at h
      cases h
    case neg =>
      rw [sharpen_cons hp] at h
      by_cases hc : c = '*'
      case pos =>
        subst hc
        obtain ⟨suffix, hs, h⟩ := SegmentMatches.star_iff.mp h
        rw [List.suffix_nil.mp hs] at h
        rcases hi h with rfl | rfl
        case inl => exact .inr rfl
        case inr => exact absurd rfl hp
      case neg =>
        have ht : ∃ q, charToken c = .one q := by
          unfold charToken
          split <;> simp_all
        obtain ⟨q, hq⟩ := ht
        rw [SegmentMatches, List.map_cons, hq] at h
        cases h

theorem sharpen_star : (p.isEmpty = true ∨
    ∃ suffix, suffix ≠ [] ∧ suffix <:+ text ∧ SegmentMatches (sharpen p) suffix) ↔
      SegmentMatches (sharpen ('*' :: p)) text := by
  by_cases hp : p = ['*']
  case pos =>
    subst hp
    have hs : SegmentMatches ['?', '*'] text ↔ text ≠ [] := by
      cases text
      case nil         => exact iff_of_false (fun h => by cases h) (by simp)
      case cons t text => exact iff_of_true (.one trivial <| .many_nil text) (by simp)
    refine Iff.trans ?_ hs.symm
    constructor
    case mp =>
      rintro (he | ⟨suffix, hn, hs, -⟩) rfl
      case inl => cases he
      case inr => exact hn <| List.suffix_nil.mp hs
    case mpr => exact fun hn => .inr ⟨text, hn, List.suffix_rfl, .star text⟩
  case neg =>
    rw [sharpen_cons (by simpa using hp), SegmentMatches.star_iff]
    constructor
    case mp =>
      rintro (he | ⟨suffix, -, hs, h⟩)
      case inl =>
        rw [List.isEmpty_iff.mp he]
        exact ⟨[], List.nil_suffix, .nil⟩
      case inr => exact ⟨suffix, hs, h⟩
    case mpr =>
      rintro ⟨suffix, hs, h⟩
      cases suffix
      case nil       => exact .inl <| List.isEmpty_iff.mpr <| (sharpen_nil h).resolve_right hp
      case cons t ts => exact .inr ⟨_, List.cons_ne_nil t ts, hs, h⟩

theorem matchChars_decides (pattern text : List Char) :
    Decides (matchChars pattern text) (SegmentMatches (sharpen pattern) text) := by
  induction pattern generalizing text
  case nil =>
    apply Decides.pure
    rw [List.isEmpty_iff]
    exact Matches.nil_iff.symm
  case cons c p hi =>
    unfold matchChars
    split
    case h_1 heq => cases heq
    case h_2 heq =>
      cases heq
      exact (matchStar_decides (fun ts => (hi ts).burnWork) _).congr sharpen_star
    case h_3 heq =>
      cases heq
      rw [sharpen_cons (by simp), SegmentMatches, List.map_cons]
      split
      case h_1 => exact .pure <| iff_of_false (by simp) (Matches.one_nil_iff.mp ·)
      case h_2 =>
        exact (hi _).congr ⟨fun h => .one trivial h, fun h => (Matches.one_cons_iff.mp h).right⟩
    case h_8 heq =>
      cases heq
      rw [sharpen_cons (by simp_all), SegmentMatches, List.map_cons,
        charToken_literal (by simp_all)]
      split
      case h_1 => exact .pure <| iff_of_false (by simp) (Matches.one_nil_iff.mp ·)
      case h_2 =>
        rw [Matches.one_cons_iff]
        split
        case isTrue ht  => exact (hi _).congr <| by simp [ht, SegmentMatches]
        case isFalse ht => exact .pure <| by simp [ht]
    all_goals exact .throw

theorem matchDoubleStar_decides {rest : List (List Char) → Matcher Bool}
    {Q : List (List Char) → Prop} (h : ∀ rs, Decides (rest rs) (Q rs)) (rs : List (List Char)) :
    Decides (matchDoubleStar rest rs) (∃ suffix, suffix <:+ rs ∧ Q suffix) := by
  induction rs
  case nil =>
    apply Decides.burnWork
    exact (h []).congr <| by simp
  case cons r rs hi =>
    apply Decides.burnWork
    apply (h (r :: rs)).ite
    case hf => exact fun hq => .pure <| iff_of_true rfl ⟨_, List.suffix_rfl, hq⟩
    case hg =>
      intro hq
      apply hi.congr
      apply exists_congr
      intro suffix
      rw [List.suffix_cons_iff]
      grind

def sharpToken (pattern : List Char) : Token (List Char) :=
  if pattern = ['*', '*'] then .many else .one (SegmentMatches (sharpen pattern))

theorem matchSegments_decides (pattern resource : List (List Char)) (depth : Nat) :
    Decides (matchSegments pattern resource depth) (Matches (pattern.map sharpToken) resource) := by
  induction pattern generalizing resource depth
  case nil =>
    apply Decides.burnWork
    apply Decides.pure
    rw [List.isEmpty_iff]
    exact Matches.nil_iff.symm
  case cons p ps hi =>
    apply Decides.burnWork
    rw [List.map_cons, sharpToken]
    split
    case isTrue =>
      split
      case isTrue  => exact .throw
      case isFalse =>
        split
        case isTrue hn =>
          have : ps = [] := by simpa using hn
          subst this
          exact .pure <| iff_of_true rfl (.many_nil resource)
        case isFalse =>
          exact (matchDoubleStar_decides (hi · _) resource).congr Matches.many_iff.symm
    case isFalse =>
      split
      case h_1      => exact .pure <| iff_of_false (by simp) (Matches.one_nil_iff.mp ·)
      case h_2 r rs =>
        rw [Matches.one_cons_iff]
        have segment : Decides (matchSegment p r) (SegmentMatches (sharpen p) r) :=
          (matchChars_decides p r).burnWork
        apply segment.ite
        case hf => exact fun hs => (hi _ _).congr <| by simp [hs]
        case hg => exact fun hs => .pure <| by simp [hs]

end GlobMatch

open GlobMatch

-- The pattern matches even though a `**` at the end of a longer segment stands for `?*`.
def SharpMatches (pattern resource : String) : Prop :=
  pattern ≠ "" ∧ Matches ((segments pattern).map sharpToken) (resourceSegments resource)

theorem globMatch_decides (h : globMatch pattern resource = .ok b) :
    b = true ↔ SharpMatches pattern resource := by
  unfold globMatch at h
  split at h
  case isTrue hp  => cases h; simp [SharpMatches, hp]
  case isFalse hp =>
    rw [SharpMatches, and_iff_right hp]
    exact matchSegments_decides _ _ _ b <| .of_run h

theorem SegmentMatches.of_sharpen (h : SegmentMatches (sharpen pattern) text) :
    SegmentMatches pattern text := by
  induction pattern generalizing text
  case nil => exact h
  case cons c p hi =>
    by_cases hp : c :: p = ['*', '*']
    case pos =>
      rw [hp, SegmentMatches.star_iff]
      exact ⟨text, List.suffix_rfl, .star text⟩
    case neg =>
      rw [sharpen_cons hp] at h
      simp only [SegmentMatches, List.map_cons] at h ⊢
      generalize charToken c = token at h
      cases h
      case many h   => exact .many _ (hi h)
      case one hp h => exact .one hp (hi h)

theorem SharpMatches.globMatches (h : SharpMatches pattern resource) :
    GlobMatches pattern resource := by
  refine ⟨h.left, h.right.map_mono ?many ?one⟩
  case many =>
    intro p hp
    unfold sharpToken at hp
    unfold segmentToken
    split at hp
    case isTrue h => exact if_pos h
    case isFalse  => cases hp
  case one =>
    intro p q hp
    unfold sharpToken at hp
    unfold segmentToken
    split at hp
    case isTrue    => cases hp
    case isFalse h =>
      cases hp
      exact ⟨_, if_neg h, fun _ => SegmentMatches.of_sharpen⟩

theorem globMatch_sound (h : globMatch pattern resource = .ok true) :
    GlobMatches pattern resource :=
  (globMatch_decides h).mp rfl |>.globMatches

theorem mem_of_mem_intercalate {ls : List (List α)} (h : x ∈ List.intercalate sep ls)
    (hs : x ∉ sep) : ∃ l ∈ ls, x ∈ l := by
  induction ls using List.twoStepInduction
  case nil       => simp at h
  case singleton => simpa using h
  case cons_cons l l' ls _ hi =>
    rw [List.intercalate_cons_cons] at h
    simp only [List.mem_append, hs, or_false] at h
    cases h
    case inl h => exact ⟨l, .head _, h⟩
    case inr h =>
      have ⟨k, hk, h⟩ := hi l' h
      exact ⟨k, .tail _ hk, h⟩

theorem mem_segments (hc : c ∈ path.toList) (hs : c ≠ '/') :
    ∃ segment ∈ segments path, c ∈ segment := by
  have hi : List.intercalate ['/'] (segments path) = path.toList := List.intercalate_splitOn '/'
  exact mem_of_mem_intercalate (hi ▸ hc) (by simpa using hs)

def reserved : List Char := ['[', ']', '\x7b', '\x7d']

theorem SegmentMatches.not_reserved (h : SegmentMatches pattern text) (hc : c ∈ reserved) :
    c ∉ pattern := by
  intro hm
  have ht : charToken c = .one fun _ => False := by
    simp only [reserved, List.mem_cons, List.not_mem_nil, or_false] at hc
    rcases hc with rfl | rfl | rfl | rfl <;> rfl
  have ⟨_, hf⟩ := h.satisfiable _ <| List.mem_map.mpr ⟨c, hm, ht⟩
  exact hf

theorem GlobMatches.not_reserved (h : GlobMatches pattern resource) (hc : c ∈ reserved) :
    c ∉ pattern.toList := by
  intro hm
  have ⟨segment, hs, hm⟩ := mem_segments hm (by rintro rfl; simp [reserved] at hc)
  have hne : segment ≠ ['*', '*'] := by rintro rfl; simp [reserved] at hm hc; simp_all
  have ht : segmentToken segment = .one (SegmentMatches segment) := if_neg hne
  have ⟨_, ht⟩ := h.right.satisfiable _ <| List.mem_map.mpr ⟨segment, hs, ht⟩
  exact ht.not_reserved hc hm

theorem globMatch_never_overGrants (h : globMatch pattern resource = .ok true) :
    GlobMatches pattern resource ∧ ∀ c ∈ reserved, c ∉ pattern.toList := by
  have hg := globMatch_sound h
  exact ⟨hg, fun _ => hg.not_reserved⟩

theorem globMatch_never_overGrants_nested :
    globMatch "data/**/user-?*" "data/eu/1/user-ab" = .ok true ∧
    GlobMatches "data/**/user-?*" "data/eu/1/user-ab" := by
  have h : globMatch "data/**/user-?*" "data/eu/1/user-ab" = .ok true := by decide +kernel
  exact ⟨h, (globMatch_never_overGrants h).left⟩

theorem sharpen_eq (h : ¬['*', '*'] <:+ p) : sharpen p = p := by
  induction p
  case nil => rfl
  case cons c p hi =>
    have hp : c :: p ≠ ['*', '*'] := fun hp => h (hp ▸ List.suffix_rfl)
    rw [sharpen_cons hp, hi fun hs => h (hs.trans <| List.suffix_cons c p)]

theorem GlobMatches.sharp (h : GlobMatches pattern resource)
    (hp : ∀ segment ∈ segments pattern, segment = ['*', '*'] ∨ ¬['*', '*'] <:+ segment) :
    SharpMatches pattern resource := by
  have tokens : (segments pattern).map sharpToken = (segments pattern).map segmentToken := by
    apply List.map_congr_left
    intro segment hs
    unfold sharpToken segmentToken
    split
    case isTrue    => rfl
    case isFalse h => rw [sharpen_eq <| (hp segment hs).resolve_left h]
  exact ⟨h.left, tokens ▸ h.right⟩

theorem globMatch_never_underGrants_iff (h : globMatch pattern resource = .ok b) :
    ((b = false → ¬GlobMatches pattern resource) ↔
      (GlobMatches pattern resource → SharpMatches pattern resource)) ∧
    ((∀ segment ∈ segments pattern, segment = ['*', '*'] ∨ ¬['*', '*'] <:+ segment) →
      (b = true ↔ GlobMatches pattern resource)) := by
  have decided := globMatch_decides h
  constructor
  case left =>
    rw [← not_imp_not, not_not, Bool.not_eq_false, decided]
  case right =>
    intro hp
    rw [decided]
    exact ⟨SharpMatches.globMatches, fun hg => hg.sharp hp⟩

theorem globMatch_never_underGrants_iff_nested :
    ¬GlobMatches "data/**/user-?*" "data/eu/1/user-" := by
  have h : globMatch "data/**/user-?*" "data/eu/1/user-" = .ok false := by decide +kernel
  have exact_on := (globMatch_never_underGrants_iff h).right <| by
    simp only [show segments "data/**/user-?*" =
      [['d', 'a', 't', 'a'], ['*', '*'], ['u', 's', 'e', 'r', '-', '?', '*']] by decide +kernel]
    decide
  exact fun hg => Bool.false_ne_true (exact_on.mpr hg)

theorem globMatch_underGrants_trailing_stars :
    globMatch "data/eu**" "data/eu" = .ok false ∧ GlobMatches "data/eu**" "data/eu" := by
  refine ⟨by decide +kernel, by decide, ?_⟩
  have hp : segments "data/eu**" = [['d', 'a', 't', 'a'], ['e', 'u', '*', '*']] := by decide +kernel
  have hr : segments "data/eu" = [['d', 'a', 't', 'a'], ['e', 'u']] := by decide +kernel
  rw [hp, resourceSegments, if_neg (by decide), hr]
  have data : SegmentMatches ['d', 'a', 't', 'a'] ['d', 'a', 't', 'a'] :=
    .one rfl <| .one rfl <| .one rfl <| .one rfl .nil
  have eu : SegmentMatches ['e', 'u', '*', '*'] ['e', 'u'] :=
    .one rfl <| .one rfl <| .many [] <| .many [] .nil
  exact .one data <| .one eu .nil

end ScopeEvaluator
