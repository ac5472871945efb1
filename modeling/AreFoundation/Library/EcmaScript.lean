import Mathlib.Data.List.DropRight
import Mathlib.Data.List.Lex
import Mathlib.Data.List.Sort
import Mathlib.Data.Rat.Floor
import AreFoundation.Library.OrderedMap

-- Functions of the language's standard library on strings and numbers, and the look-up of a property.
-- Strings are sequences of Unicode scalar values.
namespace EcmaScript

-- What `trim` removes and `\s` matches.
def isWhiteSpace (c : Char) : Bool :=
  (0x9 ≤ c.toNat && c.toNat ≤ 0xd) || (0x2000 ≤ c.toNat && c.toNat ≤ 0x200a) ||
    c.toNat ∈ [0x20, 0xa0, 0x1680, 0x2028, 0x2029, 0x202f, 0x205f, 0x3000, 0xfeff]

-- What `\w` matches.
def isWordChar (c : Char) : Bool :=
  c.isAlphanum || c = '_'

def trim (s : String) : String :=
  String.ofList <| (s.toList.dropWhile isWhiteSpace).rdropWhile isWhiteSpace

def startsWith (s pre : String) : Bool :=
  pre.toList.isPrefixOf s.toList

def join (separator : String) : List String → String
  | []           => ""
  | [s]          => s
  | s :: s' :: l => s ++ separator ++ join separator (s' :: l)

def codeUnits (c : Char) : List Nat :=
  if c.toNat < 0x10000 then
    [c.toNat]
  else
    [0xd800 + (c.toNat - 0x10000) / 0x400, 0xdc00 + (c.toNat - 0x10000) % 0x400]

-- `sort` without an argument compares UTF-16 code units.
def sort (l : List String) : List String :=
  l.insertionSort fun s t => s.toList.flatMap codeUnits ≤ t.toList.flatMap codeUnits

theorem sort_perm (l : List String) : (sort l).Perm l :=
  List.perm_insertionSort _ l

section Join

variable {c : Char} {separator : String} {l l' : List String}

theorem toList_join :
    (join separator l).toList = separator.toList.intercalate (l.map String.toList) := by
  induction l
  case nil => rfl
  case cons s l hi =>
    cases l
    case nil  => simp [join]
    case cons => simp [join, hi, List.intercalate]

theorem not_mem_join (hs : c ∉ separator.toList) (h : ∀ s ∈ l, c ∉ s.toList) :
    c ∉ (join separator l).toList := by
  induction l
  case nil => simp [join]
  case cons s l hi =>
    have hi := hi fun s' hs' => h s' (List.mem_cons_of_mem s hs')
    cases l
    case nil  => simpa [join] using h
    case cons => simp [join, hs, hi, h s]

theorem splitOn_join (hl : l ≠ []) (h : ∀ s ∈ l, c ∉ s.toList) :
    (join (String.ofList [c]) l).toList.splitOn c = l.map String.toList := by
  rw [toList_join, String.toList_ofList]
  exact List.splitOn_intercalate c (by simpa using h) (by simpa using hl)

-- Texts without the separator can be told apart after they have been joined.
theorem eq_of_join_eq (hl : l ≠ []) (hl' : l' ≠ []) (h : ∀ s ∈ l, c ∉ s.toList)
    (h' : ∀ s ∈ l', c ∉ s.toList) (he : join (String.ofList [c]) l = join (String.ofList [c]) l') :
    l = l' := by
  have hm : l.map String.toList = l'.map String.toList := by
    rw [← splitOn_join hl h, ← splitOn_join hl' h', he]
  exact List.map_injective_iff.mpr (fun _ _ => String.toList_injective) hm

theorem join_ne_empty (hl : l ≠ []) (h : ∀ s ∈ l, s ≠ "" ∧ c ∉ s.toList) :
    join (String.ofList [c]) l ≠ "" := by
  intro he
  have hs := splitOn_join hl fun s hs => (h s hs).right
  rw [he] at hs
  have hm : [] ∈ l.map String.toList := hs ▸ by simp
  have ⟨s, hs, hn⟩ := List.mem_map.mp hm
  exact (h s hs).left (String.toList_eq_nil_iff.mp hn)

-- No text at all is told apart from texts that are not empty.
theorem eq_of_join_eq_of_ne_empty (h : ∀ s ∈ l, s ≠ "" ∧ c ∉ s.toList)
    (h' : ∀ s ∈ l', s ≠ "" ∧ c ∉ s.toList)
    (he : join (String.ofList [c]) l = join (String.ofList [c]) l') : l = l' := by
  by_cases hl : l = [] <;> by_cases hl' : l' = []
  case pos => rw [hl, hl']
  case neg => exact absurd (he.symm.trans <| hl ▸ rfl) <| join_ne_empty hl' h'
  case pos => exact absurd (he.trans <| hl' ▸ rfl) <| join_ne_empty hl h
  case neg => exact eq_of_join_eq hl hl' (fun s hs => (h s hs).2) (fun s hs => (h' s hs).2) he

-- The texts before and after the first separator.
def unpair (c : Char) (s : String) : String × String :=
  (String.ofList (s.toList.takeWhile (· ≠ c)), String.ofList (s.toList.dropWhile (· ≠ c)).tail)

theorem unpair_append {k v : String} (h : c ∉ k.toList) :
    unpair c (k ++ String.ofList [c] ++ v) = (k, v) := by
  have hk : ∀ d ∈ k.toList, decide (d ≠ c) := by
    intro d hd
    exact decide_eq_true fun he => h (he ▸ hd)
  simp only [unpair, String.toList_append, String.toList_ofList, List.append_assoc,
    List.takeWhile_append_of_pos hk, List.dropWhile_append_of_pos hk]
  simp

theorem append_separator_ne_empty {k v : String} : k ++ String.ofList [c] ++ v ≠ "" := by
  simp [← String.toList_eq_nil_iff]

theorem map_unpair {l : List (String × String)} (h : ∀ kv ∈ l, c ∉ kv.1.toList) :
    (l.map fun kv => kv.1 ++ String.ofList [c] ++ kv.2).map (unpair c) = l := by
  rw [List.map_map]
  trans l.map id
  case _ => exact List.map_congr_left fun kv hm => unpair_append (h kv hm)
  case _ => exact List.map_id l

end Join

section Trim

variable {cs : List Char} {w : Char}

theorem trim_cons (h : isWhiteSpace w) :
    trim (String.ofList (w :: cs)) = trim (String.ofList cs) := by
  simp [trim, h]

theorem trim_concat (h : isWhiteSpace w) :
    trim (String.ofList (cs ++ [w])) = trim (String.ofList cs) := by
  simp only [trim, String.toList_ofList, List.dropWhile_append]
  split
  case isTrue hc  => simp [List.isEmpty_iff.mp hc, h]
  case isFalse hc => rw [List.rdropWhile_concat_pos _ _ _ h]

theorem isInfix_trim (s : String) : (trim s).toList <:+: s.toList := by
  rw [trim, String.toList_ofList]
  exact (List.rdropWhile_prefix ..).isInfix.trans (List.dropWhile_suffix _).isInfix

theorem trim_eq_self {s : String} (hf : ∀ c ∈ s.toList.head?, isWhiteSpace c = false)
    (hl : ∀ c ∈ s.toList.getLast?, isWhiteSpace c = false) : trim s = s := by
  have first : s.toList.dropWhile isWhiteSpace = s.toList := by
    cases hs : s.toList
    case nil       => rfl
    case cons c cs => exact List.dropWhile_cons_of_neg (by simp [hf c (by simp [hs])])
  have last : s.toList.rdropWhile isWhiteSpace = s.toList := by
    rw [List.rdropWhile_eq_self_iff]
    intro hn hw
    simp [hl _ (List.getLast?_eq_some_getLast hn)] at hw
  rw [trim, first, last, String.ofList_toList]

end Trim

-- A finite number is represented by its value, so that both zeros are the same.
inductive Number
  | nan
  | infinity (negative : Bool)
  | finite (value : ℚ)
  deriving DecidableEq

namespace Number

def gt : Number → Number → Bool
  | nan,            _              => false
  | _,              nan            => false
  | infinity true,  _              => false
  | infinity false, infinity false => false
  | infinity false, _              => true
  | finite _,       infinity neg   => neg
  | finite a,       finite b       => b < a

def roundHalfEven (q : ℚ) : Int :=
  if q - ⌊q⌋ < 1 / 2 ∨ q - ⌊q⌋ = 1 / 2 ∧ ⌊q⌋ % 2 = 0 then ⌊q⌋ else ⌊q⌋ + 1

-- The position of the highest bit of a positive number.
def exponent (q : ℚ) : Int :=
  let e : Int := Nat.log2 q.num.natAbs - Nat.log2 q.den
  if (2 : ℚ) ^ e ≤ q then e else e - 1

-- The nearest number with 53 significant bits and lowest bit `2 ^ -1074`.
def ofRat (q : ℚ) : Number :=
  let ulp : ℚ := 2 ^ max (exponent |q| - 52) (-1074)
  let value := roundHalfEven (q / ulp) * ulp
  if (2 : ℚ) ^ 1024 ≤ |value| then infinity (value < 0) else finite value

def digit? (base : Nat) (c : Char) : Option Nat :=
  let d := if c.isDigit then c.toNat - '0'.toNat
    else if 'a' ≤ c ∧ c ≤ 'z' then c.toNat - 'a'.toNat + 10
    else if 'A' ≤ c ∧ c ≤ 'Z' then c.toNat - 'A'.toNat + 10
    else base
  if d < base then some d else none

def unsigned? (base : Nat) (cs : List Char) : Option Nat :=
  if cs = [] then none else cs.foldlM (fun n c => (n * base + ·) <$> digit? base c) 0

def signed? : List Char → Option Int
  | '-' :: cs => Int.negOfNat <$> unsigned? 10 cs
  | '+' :: cs => Int.ofNat <$> unsigned? 10 cs
  | cs        => Int.ofNat <$> unsigned? 10 cs

-- A decimal literal without a sign: digits, a fraction and an exponent.
def decimal? (cs : List Char) : Option ℚ := do
  let int := cs.takeWhile (·.isDigit)
  let rest := cs.dropWhile (·.isDigit)
  let (frac, rest) := match rest with
    | '.' :: rest => (rest.takeWhile (·.isDigit), rest.dropWhile (·.isDigit))
    | _           => ([], rest)
  let mantissa ← unsigned? 10 (int ++ frac)
  let exp ← match rest with
    | []        => some 0
    | c :: rest => if c = 'e' ∨ c = 'E' then signed? rest else none
  return mantissa * 10 ^ (exp - frac.length)

-- `Number(raw)`
def ofString (raw : String) : Number :=
  match (trim raw).toList with
  | [] => finite 0
  | '0' :: 'x' :: cs | '0' :: 'X' :: cs => (unsigned? 16 cs).elim nan fun n => ofRat n
  | '0' :: 'o' :: cs | '0' :: 'O' :: cs => (unsigned? 8 cs).elim nan fun n => ofRat n
  | '0' :: 'b' :: cs | '0' :: 'B' :: cs => (unsigned? 2 cs).elim nan fun n => ofRat n
  | cs =>
    let (neg, cs) := match cs with
      | '-' :: cs => (true, cs)
      | '+' :: cs => (false, cs)
      | _         => (false, cs)
    if cs = "Infinity".toList then
      infinity neg
    else
      (decimal? cs).elim nan fun q => ofRat <| if neg then -q else q

-- The first integer that is not representable, the nearest number to one tenth, and no number.
example : ofString " 9007199254740993\n" = finite 9007199254740992 := by decide +kernel
example : ofString "0.1" = finite (3602879701896397 / 2 ^ 55) := by decide +kernel
example : ofString "1.5.2" = nan := by decide +kernel

end Number

section Properties

-- What every object inherits.
def objectPrototype : List String :=
  ["__defineGetter__", "__defineSetter__", "__lookupGetter__", "__lookupSetter__", "__proto__",
    "constructor", "hasOwnProperty", "isPrototypeOf", "propertyIsEnumerable", "toLocaleString",
    "toString", "valueOf"]

-- A property of an object whose own ones are texts. Those that are inherited are functions, and in one
-- case an object.
inductive Property
  | undefined
  | text (value : String)
  | inherited
  deriving DecidableEq

-- `object[name]`
def property (object : OrderedMap String String) (name : String) : Property :=
  match object.get? name with
  | some value => .text value
  | none       => if name ∈ objectPrototype then .inherited else .undefined

-- `Number(raw)`, where neither `undefined` nor the text of a function or of an object is a number.
def Property.toNumber : Property → Number
  | text value             => .ofString value
  | undefined | inherited  => .nan

end Properties

end EcmaScript
