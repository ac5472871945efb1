import Mathlib.Data.Set.Finite.Lattice
import AreFoundation.Library.GoStrings

open Go (Bytes)

namespace Gateway

-- The paths that are labels themselves.
def listedRoutes : List String :=
  ["/metrics", "/v1/platform/health", "/v1/identity/agents", "/v1/passports",
    "/v1/passports:verify", "/v1/enforcement/scope:evaluate", "/v1/policy/evaluations"]

-- The route of a request in the labels of the metrics. Every request is counted, also one that is
-- refused.
def normalizedRoute (path : Bytes) : Bytes :=
  let p := Bytes.trimSuffix (Bytes.trimSpace path) "/"
  if p = [] then
    asBytes "/"
  else if p ∈ listedRoutes.map asBytes then
    p
  else if Bytes.hasPrefix p "/v1/identity/agents/" then
    asBytes "/v1/identity/agents/\x7bagent_id\x7d"
  else if Bytes.hasPrefix p "/v1/passports/by-agent/" then
    asBytes "/v1/passports/by-agent/\x7bagent_id\x7d"
  else if Bytes.hasPrefix p "/v1/" then
    let sub := (Bytes.trimPrefix p "/v1/").takeWhile (· ≠ 0x2f)
    if sub ≠ [] then asBytes "/v1/" ++ sub else asBytes "/v1/other"
  else
    asBytes "other"

-- The labels that do not depend on the text of the path.
def fixedRoutes : List String :=
  ["/", "/v1/identity/agents/\x7bagent_id\x7d", "/v1/passports/by-agent/\x7bagent_id\x7d",
    "/v1/other", "other"] ++ listedRoutes

def firstSegment? (p : Bytes) : Option Bytes :=
  if Bytes.hasPrefix p "/v1/" then some <| (Bytes.trimPrefix p "/v1/").takeWhile (· ≠ 0x2f) else none

-- The first segments below `/v1/` in some paths.
def firstSegments (paths : Set Bytes) : Set Bytes :=
  { sub | sub ≠ [] ∧ ∃ path ∈ paths,
      firstSegment? (Bytes.trimSuffix (Bytes.trimSpace path) "/") = some sub }

section Segments

variable {p path sub rest : Bytes}

theorem hasPrefix_append : Bytes.hasPrefix (asBytes pre ++ rest) pre := by
  simp [Bytes.hasPrefix]

theorem firstSegment?_append :
    firstSegment? (asBytes "/v1/" ++ rest) = some (rest.takeWhile (· ≠ 0x2f)) := by
  simp [firstSegment?, Bytes.trimPrefix, hasPrefix_append]

theorem firstSegment?_of_hasPrefix (name tail : String)
    (h : Bytes.hasPrefix p ("/v1/" ++ (name ++ ("/" ++ tail))))
    (hn : ∀ b ∈ asBytes name, b ≠ 0x2f) : firstSegment? p = some (asBytes name) := by
  have hs : asBytes "/" = [0x2f] := by decide +kernel
  rw [Bytes.eq_append_of_hasPrefix h]
  simp only [asBytes_append, List.append_assoc, firstSegment?_append, hs]
  rw [List.takeWhile_append_of_pos (by simpa using hn), List.singleton_append,
    List.takeWhile_cons_of_neg (by decide), List.append_nil]

theorem takeWhile_firstSegment? (h : firstSegment? p = some sub) :
    sub.takeWhile (· ≠ 0x2f) = sub := by
  unfold firstSegment? at h
  split at h
  case isTrue  => cases h; rw [List.takeWhile_idem]
  case isFalse => cases h

end Segments

-- A label is fixed, or the path is cut after its first segment, which the label keeps in any case.
inductive Labels (p : Bytes) : Bytes → Prop
  | fixed (hr : route ∈ fixedRoutes.map asBytes)
    (hs : ∀ sub ∈ firstSegment? p, sub ≠ [] → firstSegment? route = some sub) : Labels p route
  | segment (hs : firstSegment? p = some sub) (hn : sub ≠ []) : Labels p (asBytes "/v1/" ++ sub)

-- A label that stands for all paths that begin with the same segments.
theorem Labels.bucket (name tail : String) {label : String}
    (h : Bytes.hasPrefix p ("/v1/" ++ (name ++ ("/" ++ tail)))) (hn : ∀ b ∈ asBytes name, b ≠ 0x2f)
    (hr : asBytes label ∈ fixedRoutes.map asBytes)
    (hl : firstSegment? (asBytes label) = some (asBytes name)) : Labels p (asBytes label) := by
  refine .fixed hr fun sub hs _ => ?_
  rw [← hs, firstSegment?_of_hasPrefix name tail h hn, hl]

theorem normalizedRoute_labels (path : Bytes) :
    Labels (Bytes.trimSuffix (Bytes.trimSpace path) "/") (normalizedRoute path) := by
  unfold normalizedRoute
  generalize Bytes.trimSuffix (Bytes.trimSpace path) "/" = p
  dsimp only
  split
  case isTrue h =>
    subst h
    exact .fixed (by decide +kernel) nofun
  case isFalse =>
    split
    case isTrue h =>
      refine .fixed ?_ fun _ hs _ => hs
      rw [fixedRoutes, List.map_append]
      exact List.mem_append_right _ h
    case isFalse =>
      split
      case isTrue h => refine .bucket "identity" "agents/" h ?_ ?_ ?_ <;> decide +kernel
      case isFalse =>
        split
        case isTrue h => refine .bucket "passports" "by-agent/" h ?_ ?_ ?_ <;> decide +kernel
        case isFalse =>
          split
          case isTrue h =>
            have hs : firstSegment? p = some ((Bytes.trimPrefix p "/v1/").takeWhile (· ≠ 0x2f)) :=
              if_pos h
            split
            case isTrue hn => exact .segment hs hn
            case isFalse hn =>
              refine .fixed (by decide +kernel) fun sub hs' hn' => absurd ?_ hn'
              rw [hs] at hs'
              exact Option.some.inj hs' ▸ not_not.mp hn
          case isFalse h =>
            have hs : firstSegment? p = none := if_neg h
            exact .fixed (by decide +kernel) (by simp [hs])

theorem Labels.keeps (h : Labels p route) (hs : firstSegment? p = some sub) (hn : sub ≠ []) :
    firstSegment? route = some sub := by
  cases h
  case fixed h => exact h sub hs hn
  case segment hs' _ =>
    cases Option.some.inj <| hs.symm.trans hs'
    rw [firstSegment?_append, takeWhile_firstSegment? hs]

theorem Labels.mem (h : Labels p route) :
    route ∈ fixedRoutes.map asBytes ∨
      ∃ sub, firstSegment? p = some sub ∧ sub ≠ [] ∧ route = asBytes "/v1/" ++ sub := by
  cases h
  case fixed hr _    => exact .inl hr
  case segment hs hn => exact .inr ⟨_, hs, hn, rfl⟩

-- The labels of some paths are finite in number if and only if the first segments are.
theorem finite_routes_iff (paths : Set Bytes) :
    (∃ S : Set Bytes, S.Finite ∧ ∀ path ∈ paths, normalizedRoute path ∈ S) ↔
      (firstSegments paths).Finite := by
  constructor
  case mp =>
    intro ⟨S, hf, h⟩
    refine ((hf.image firstSegment?).preimage (Option.some_injective _).injOn).subset ?_
    intro sub ⟨hn, path, hp, hs⟩
    exact ⟨normalizedRoute path, h path hp, (normalizedRoute_labels path).keeps hs hn⟩
  case mpr =>
    intro hf
    refine ⟨{ route | route ∈ fixedRoutes.map asBytes } ∪ (asBytes "/v1/" ++ ·) '' firstSegments paths,
      (List.finite_toSet _).union (hf.image _), fun path hp => ?_⟩
    rcases (normalizedRoute_labels path).mem with hr | ⟨sub, hs, hn, hr⟩
    case inl => exact .inl hr
    case inr => exact .inr ⟨sub, ⟨hn, path, hp, hs⟩, hr.symm⟩

section Unbounded

def manyRoutes (n : Nat) : Bytes :=
  asBytes "/v1/" ++ List.replicate (n + 1) 0x78

theorem manyRoutes_injective : Function.Injective manyRoutes := by
  intro m n h
  simpa using congrArg List.length (List.append_cancel_left h)

theorem manyRoutes_eq (n : Nat) :
    manyRoutes n = [0x2f, 0x76, 0x31, 0x2f] ++ List.replicate n 0x78 ++ [0x78] := by
  have hb : asBytes "/v1/" = [0x2f, 0x76, 0x31, 0x2f] := by decide +kernel
  rw [manyRoutes, hb, List.append_assoc, List.replicate_succ']

theorem trim_manyRoutes (n : Nat) :
    Bytes.trimSuffix (Bytes.trimSpace (manyRoutes n)) "/" = manyRoutes n := by
  have ht : Bytes.trimSpace (manyRoutes n) = manyRoutes n := by
    rw [manyRoutes_eq]
    refine Bytes.trimSpace_ascii ?_ ?_ ?_
    case refine_1 => simp [or_imp, forall_and]
    case refine_2 => rintro b ⟨⟩; decide +kernel
    case refine_3 => rw [List.getLast?_concat]; rintro b ⟨⟩; decide +kernel
  have hs : asBytes "/" = [0x2f] := by decide +kernel
  rw [ht, Bytes.trimSuffix, if_neg]
  rw [hs, manyRoutes_eq, List.isSuffixOf_iff_suffix]
  intro h
  simpa using h.getLast (by simp)

theorem normalizedRoute_manyRoutes (n : Nat) : normalizedRoute (manyRoutes n) = manyRoutes n := by
  have hs : firstSegment? (manyRoutes n) = some (List.replicate (n + 1) 0x78) := by
    simp [manyRoutes, firstSegment?_append]
  have hl := normalizedRoute_labels (manyRoutes n)
  rw [trim_manyRoutes] at hl
  rcases hl.mem with hr | ⟨sub, hs', _, hr⟩
  case inl =>
    have fixed : ∀ route ∈ fixedRoutes.map asBytes,
        (firstSegment? route).bind List.head? ≠ some 0x78 := by
      decide +kernel
    exact absurd (congrArg (Option.bind · List.head?) (hl.keeps hs (by simp))) (fixed _ hr)
  case inr =>
    cases Option.some.inj <| hs.symm.trans hs'
    exact hr

-- Every path of a different length gets its own label.
theorem routes_not_finite : ¬∃ S : Set Bytes, S.Finite ∧ ∀ path, normalizedRoute path ∈ S := by
  intro ⟨S, hf, h⟩
  refine Set.infinite_of_injective_forall_mem manyRoutes_injective (fun n => ?_) hf
  exact normalizedRoute_manyRoutes n ▸ h (manyRoutes n)

end Unbounded

end Gateway
