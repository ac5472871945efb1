import Mathlib.Data.List.Basic
import Mathlib.Tactic.Common

namespace ScopeEvaluator

inductive GlobError
  | invalidPattern
  | patternTooComplex
  deriving DecidableEq

namespace GlobMatch

def maxDoubleStarDepth : Nat := 48

def maxGlobWork : Nat := 65536

-- A matcher that consumes the remaining work. The remaining work is lost with an error.
abbrev Matcher (α : Type) := StateT Nat (Except GlobError) α

def burnWork (cost : Nat) : Matcher Unit := fun work =>
  if cost ≤ work then .ok ((), work - cost) else .error .patternTooComplex

-- The loop for a `*`: tries `rest` on every nonempty suffix of the text.
def matchStar (rest : List Char → Matcher Bool) (restIsEmpty : Bool) : List Char → Matcher Bool
  | []      => pure restIsEmpty
  | t :: ts => do
    burnWork 1
    if ← rest (t :: ts) then pure true else matchStar rest restIsEmpty ts

-- The loop of `match_segment` over the characters of the pattern.
def matchChars : List Char → List Char → Matcher Bool
  | [],       ts => pure ts.isEmpty
  | '*' :: p, ts => matchStar (fun ts => do burnWork 1; matchChars p ts) p.isEmpty ts
  | '?' :: p, ts =>
    match ts with
    | []      => pure false
    | _ :: ts => matchChars p ts
  | '[' :: _, _ | ']' :: _, _ | '\x7b' :: _, _ | '\x7d' :: _, _ => throw .invalidPattern
  | c :: p,   ts =>
    match ts with
    | []      => pure false
    | t :: ts => if t = c then matchChars p ts else pure false

def matchSegment (pattern text : List Char) : Matcher Bool := do
  burnWork 1
  matchChars pattern text

-- The loop for a `**`: tries `rest` on every suffix of the resource, the empty one included.
def matchDoubleStar (rest : List (List Char) → Matcher Bool) : List (List Char) → Matcher Bool
  | []      => do burnWork 1; rest []
  | r :: rs => do
    burnWork 1
    if ← rest (r :: rs) then pure true else matchDoubleStar rest rs

-- The recursion of `match_segments`, for an arbitrary cap on the number of `**`.
def matchSegmentsWithin (cap : Nat) : List (List Char) → List (List Char) → Nat → Matcher Bool
  | [],      resource, _     => do burnWork 1; pure resource.isEmpty
  | p :: ps, resource, depth => do
    burnWork 1
    if p = ['*', '*'] then
      if depth ≥ cap then throw .patternTooComplex
      else if ps.isEmpty then pure true
      else matchDoubleStar (fun resource => matchSegmentsWithin cap ps resource (depth + 1)) resource
    else match resource with
      | []      => pure false
      | r :: rs => do if ← matchSegment p r then matchSegmentsWithin cap ps rs depth else pure false

def matchSegments : List (List Char) → List (List Char) → Nat → Matcher Bool :=
  matchSegmentsWithin maxDoubleStarDepth

def segments (path : String) : List (List Char) :=
  path.toList.splitOn '/'

-- The segments that `glob_match` compares with a pattern.
def resourceSegments (resource : String) : List (List Char) :=
  if resource = "" then [] else segments resource

end GlobMatch

open GlobMatch in
def globMatch (pattern resource : String) : Except GlobError Bool :=
  if pattern = "" then
    .ok false
  else
    (matchSegments (segments pattern) (resourceSegments resource) 0).run' maxGlobWork

example : globMatch "tenant/*/project/?x" "tenant/a/project/yx" = .ok true := by decide +kernel

example : globMatch "a/**/c" "a/b/d/c" = .ok true := by decide +kernel

example : globMatch "data/[abc]" "data/a" = .error .invalidPattern := by decide +kernel

end ScopeEvaluator
