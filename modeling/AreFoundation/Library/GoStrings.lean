import Mathlib.Data.List.DropRight
import Mathlib.Data.Rat.Floor
import AreFoundation.Library.Encoding

-- Functions of Go's standard library on strings and numbers. Strings are sequences of Unicode scalar
-- values.
namespace Go

-- What `unicode.IsSpace` accepts.
def isSpace (c : Char) : Bool :=
  (0x9 ≤ c.toNat && c.toNat ≤ 0xd) || (0x2000 ≤ c.toNat && c.toNat ≤ 0x200a) ||
    c.toNat ∈ [0x20, 0x85, 0xa0, 0x1680, 0x2028, 0x2029, 0x202f, 0x205f, 0x3000]

def trimSpace (s : String) : String :=
  String.ofList <| (s.toList.dropWhile isSpace).rdropWhile isSpace

-- The dotless i and the long s are the only letters beyond ASCII with an upper case in ASCII. Other
-- letters are not changed here, since results are only compared with ASCII texts.
def upperChar (c : Char) : Char :=
  if c = 'ı' then 'I' else if c = 'ſ' then 'S' else c.toUpper

def toUpper (s : String) : String :=
  String.ofList <| s.toList.map upperChar

-- The dotted I and the Kelvin sign are the only letters beyond ASCII with a lower case in ASCII.
def lowerChar (c : Char) : Char :=
  if c = 'İ' then 'i' else if c.toNat = 0x212a then 'k' else c.toLower

def toLower (s : String) : String :=
  String.ofList <| s.toList.map lowerChar

-- Besides the cases of ASCII letters, the long s and the Kelvin sign are folded to ASCII.
def foldChar (c : Char) : Char :=
  if c = 'ſ' then 's' else if c.toNat = 0x212a then 'k' else c.toLower

def equalFold (s t : String) : Bool :=
  s.toList.map foldChar = t.toList.map foldChar

def contains (s sub : String) : Bool :=
  s.toList.tails.any (sub.toList.isPrefixOf ·)

def hasPrefix (s pre : String) : Bool :=
  pre.toList.isPrefixOf s.toList

def hasSuffix (s suffix : String) : Bool :=
  suffix.toList.isSuffixOf s.toList

def trimSuffix (s suffix : String) : String :=
  if hasSuffix s suffix then
    String.ofList <| s.toList.take (s.toList.length - suffix.toList.length)
  else
    s

-- The segments that `path.Clean` leaves of a path that starts with a slash.
def cleanSegments (segments : List (List Char)) : List (List Char) :=
  segments.foldl
    (fun out segment =>
      if segment = [] ∨ segment = ['.'] then out
      else if segment = ['.', '.'] then out.dropLast
      else out ++ [segment])
    []

-- The form to which `net/http` redirects a path. A slash at the end is kept.
def cleanPath (p : String) : String :=
  let p := if hasPrefix p "/" then p else "/" ++ p
  let np := '/' :: ['/'].intercalate (cleanSegments <| p.toList.splitOn '/')
  String.ofList <| if hasSuffix p "/" ∧ np ≠ ['/'] then np ++ ['/'] else np

example : cleanPath "/a//b/./c/../" = "/a/b/" := by
  decide +kernel

-- A string that comes from outside need not be text.
abbrev Bytes := List UInt8

namespace Bytes

def hasPrefix (s : Bytes) (pre : String) : Bool :=
  (asBytes pre).isPrefixOf s

def trimPrefix (s : Bytes) (pre : String) : Bytes :=
  if hasPrefix s pre then s.drop (asBytes pre).length else s

def trimSuffix (s : Bytes) (suffix : String) : Bytes :=
  if (asBytes suffix).isSuffixOf s then s.take (s.length - (asBytes suffix).length) else s

theorem eq_append_of_hasPrefix {s : Bytes} {pre : String} (h : hasPrefix s pre) :
    s = asBytes pre ++ trimPrefix s pre := by
  obtain ⟨rest, rfl⟩ := List.isPrefixOf_iff_prefix.mp h
  simp [trimPrefix, h]

end Bytes

-- Letters after the backslash for the characters that have one.
def escapes : List (Nat × Char) :=
  [(0x7, 'a'), (0x8, 'b'), (0x9, 't'), (0xa, 'n'), (0xb, 'v'), (0xc, 'f'), (0xd, 'r'),
    (0x22, Char.ofNat 0x22), (0x5c, Char.ofNat 0x5c)]

def quoteChar (c : Char) : List Char :=
  match escapes.lookup c.toNat with
  | some letter => [Char.ofNat 0x5c, letter]
  | none        =>
    if c.toNat < 0x20 ∨ c.toNat = 0x7f then
      Char.ofNat 0x5c :: 'x' :: hexDigits (UInt8.ofNat c.toNat)
    else
      [c]

-- The verb `%q`, where every character beyond ASCII counts as printable.
def quote (s : String) : String :=
  String.ofList <| Char.ofNat 0x22 :: s.toList.flatMap quoteChar ++ [Char.ofNat 0x22]

def parseDigits (ds : List Char) : Option Nat :=
  if ds ≠ [] ∧ ds.all Char.isDigit then
    some <| ds.foldl (fun n d => 10 * n + (d.toNat - '0'.toNat)) 0
  else
    none

-- `strconv.ParseInt` for base 10 and 64 bits.
def parseInt (s : String) : Option Int :=
  match s.toList with
  | '-' :: ds => (parseDigits ds).bind fun n => if n ≤ 2 ^ 63 then some (-n : Int) else none
  | '+' :: ds => (parseDigits ds).bind fun n => if n < 2 ^ 63 then some (n : Int) else none
  | ds        => (parseDigits ds).bind fun n => if n < 2 ^ 63 then some (n : Int) else none

-- The conversion drops the fraction. Numbers that do not fit are converted as on amd64.
def int64 (q : ℚ) : Int :=
  let n := if 0 ≤ q then ⌊q⌋ else ⌈q⌉
  if -2 ^ 63 ≤ n ∧ n < 2 ^ 63 then n else -2 ^ 63

-- The character that the first `n` bytes encode.
def runeOf (n : Nat) (bytes : List UInt8) : Option (Char × List UInt8) :=
  let lead := (bytes.headD 0).toNat % 2 ^ (if n = 1 then 8 else 7 - n)
  let code := (bytes.take n).tail.foldl (fun c b => 64 * c + b.toNat % 64) lead
  if String.utf8EncodeChar (Char.ofNat code) = bytes.take n then
    some (Char.ofNat code, bytes.drop n)
  else
    none

def decodeRune (bytes : List UInt8) : Option (Char × List UInt8) :=
  [1, 2, 3, 4].findSome? (runeOf · bytes)

def decodeText : Nat → List UInt8 → List Char
  | 0,     _          => []
  | _,     []         => []
  | n + 1, b :: bytes =>
    match decodeRune (b :: bytes) with
    | some (c, rest) => c :: decodeText n rest
    | none           => Char.ofNat 0xfffd :: decodeText n bytes

-- What an encoder makes of a string with these bytes: a byte that is not part of a character is
-- replaced.
def jsonText (bytes : List UInt8) : String :=
  String.ofList <| decodeText bytes.length bytes

example : jsonText [0x61, 0xc3, 0xa9, 0xff, 0xe2, 0x82] = "aé���" := by
  decide +kernel

-- The characters of a string with their bytes. A byte that is not part of a character stands alone.
def Bytes.runes : Nat → Bytes → List (Bytes × Option Char)
  | 0,     _          => []
  | _,     []         => []
  | n + 1, b :: bytes =>
    match decodeRune (b :: bytes) with
    | some (c, rest) => ((b :: bytes).take (bytes.length + 1 - rest.length), some c) :: runes n rest
    | none           => ([b], none) :: runes n bytes

def Bytes.trimSpace (s : Bytes) : Bytes :=
  let space (r : Bytes × Option Char) : Bool := r.2.any isSpace
  ((runes s.length s).dropWhile space).rdropWhile space |>.flatMap (·.1)

example : Bytes.trimSpace [0x20, 0xff, 0x61, 0x20, 0xc2, 0xa0] = [0xff, 0x61] := by
  decide +kernel

section Ascii

variable {s : Bytes}

theorem decodeRune_ascii {b : UInt8} (h : b < 128) :
    decodeRune (b :: s) = some (Char.ofNat b.toNat, s) := by
  have ascii : ∀ i : Fin 128, String.utf8EncodeChar (Char.ofNat i) = [UInt8.ofNat i] := by
    decide +kernel
  have he : String.utf8EncodeChar (Char.ofNat b.toNat) = [b] :=
    (ascii ⟨b.toNat, h⟩).trans (by simp)
  simp [decodeRune, runeOf, he]

theorem Bytes.runes_ascii (h : ∀ b ∈ s, b < 128) :
    runes s.length s = s.map fun b => ([b], some <| Char.ofNat b.toNat) := by
  induction s
  case nil => rfl
  case cons b s hi =>
    rw [List.forall_mem_cons] at h
    simp [runes, decodeRune_ascii h.left, hi h.right]

theorem Bytes.trimSpace_ascii (h : ∀ b ∈ s, b < 128)
    (hs : ∀ b ∈ s.head?, ¬isSpace (Char.ofNat b.toNat))
    (he : ∀ b ∈ s.getLast?, ¬isSpace (Char.ofNat b.toNat)) : trimSpace s = s := by
  have start : (s.map fun b => ([b], some <| Char.ofNat b.toNat)).dropWhile
      (fun r : Bytes × Option Char => r.2.any isSpace) =
      s.map fun b => ([b], some <| Char.ofNat b.toNat) := by
    cases s
    case nil      => rfl
    case cons b s => simp [hs b rfl]
  have stop : (s.map fun b => ([b], some <| Char.ofNat b.toNat)).rdropWhile
      (fun r : Bytes × Option Char => r.2.any isSpace) =
      s.map fun b => ([b], some <| Char.ofNat b.toNat) := by
    cases s using List.reverseRecOn
    case nil                    => rfl
    case append_singleton s b _ => simp [he b (by simp)]
  simp only [trimSpace, runes_ascii h]
  rw [start, stop]
  simp [List.flatMap_map]

end Ascii

theorem hasSuffix_append (s suffix : String) : hasSuffix (s ++ suffix) suffix := by
  simp [hasSuffix]

theorem trimSuffix_append (s suffix : String) : trimSuffix (s ++ suffix) suffix = s := by
  simp [trimSuffix, hasSuffix_append]

theorem length_trimSuffix (h : hasSuffix s suffix) :
    (trimSuffix s suffix).toList.length + suffix.toList.length = s.toList.length := by
  have hl := (List.isSuffixOf_iff_suffix.mp h).length_le
  rw [trimSuffix, if_pos h, String.toList_ofList, List.length_take]
  omega

-- A suffix that starts with a character which does not occur in `s` starts after it.
theorem hasSuffix_append_iff {s t : String} (h : suffix.toList = c :: cs) (hc : c ∉ s.toList) :
    hasSuffix (s ++ t) suffix ↔ hasSuffix t suffix := by
  simp only [hasSuffix, List.isSuffixOf_iff_suffix, String.toList_append, h]
  refine ⟨fun hs => ?_, fun hs => hs.trans (List.suffix_append _ _)⟩
  have ht := List.suffix_append s.toList t.toList
  by_cases hl : (c :: cs).length ≤ t.toList.length
  case pos => exact List.suffix_of_suffix_length_le hs ht hl
  case neg =>
    obtain ⟨r, hr⟩ := List.suffix_of_suffix_length_le ht hs (Nat.le_of_not_le hl)
    obtain ⟨p, hp⟩ := hs
    cases r
    case nil => simp [← hr] at hl
    case cons c' r =>
      rw [← hr, ← List.append_assoc] at hp
      have hm : c' ∈ s.toList := List.append_cancel_right hp ▸ by simp
      exact absurd ((List.cons.inj hr).left ▸ hm) hc

theorem length_trimSpace_le (s : String) : (trimSpace s).toList.length ≤ s.toList.length := by
  rw [trimSpace, String.toList_ofList]
  exact (List.rdropWhile_prefix _ _).length_le.trans (List.dropWhile_suffix _).length_le

theorem trimSpace_append {s t : String} (hs : s.toList = c :: cs) (hc : ¬isSpace c)
    (ht : trimSpace t = t) (hn : t ≠ "") : trimSpace (s ++ t) = s ++ t := by
  have hl : t.toList ≠ [] := by simpa using hn
  have ht : (t.toList.dropWhile isSpace).rdropWhile isSpace = t.toList := by
    simpa [trimSpace] using congrArg String.toList ht
  have stop : ¬isSpace (t.toList.getLast hl) := by
    have := List.rdropWhile_last_not isSpace (t.toList.dropWhile isSpace) (by rwa [ht])
    simpa only [ht] using this
  have hr : (s ++ t).toList.rdropWhile isSpace = (s ++ t).toList := by
    rw [String.toList_append, List.rdropWhile_eq_self_iff]
    intro _
    rwa [List.getLast_append_of_ne_nil _ hl]
  have hd : (s ++ t).toList.dropWhile isSpace = (s ++ t).toList := by
    simp [hs, hc]
  rw [trimSpace, hd, hr, String.ofList_toList]

theorem trimSpace_trimSpace (s : String) : trimSpace (trimSpace s) = trimSpace s := by
  have start : (trimSpace s).toList.dropWhile isSpace = (trimSpace s).toList := by
    simp only [trimSpace, String.toList_ofList]
    refine List.dropWhile_eq_self_iff.mpr fun hl => ?_
    have hp := List.rdropWhile_prefix isSpace (s.toList.dropWhile isSpace)
    rw [hp.getElem hl]
    exact List.dropWhile_get_zero_not isSpace s.toList <| hl.trans_le hp.length_le
  rw [trimSpace, start]
  simp [trimSpace, List.rdropWhile_idempotent]

theorem trimSpace_ne_empty {s : String} {c : Char} (hc : c ∈ s.toList) (hn : ¬isSpace c) :
    trimSpace s ≠ "" := by
  intro h
  have hr : (s.toList.dropWhile isSpace).rdropWhile isSpace = [] := by
    simpa [trimSpace] using congrArg String.toList h
  rw [← List.takeWhile_append_dropWhile (p := isSpace) (l := s.toList), List.mem_append] at hc
  cases hc
  case inl hc => exact hn <| List.mem_takeWhile_imp hc
  case inr hc => exact hn <| List.rdropWhile_eq_nil_iff.mp hr c hc

end Go
