import Mathlib.Data.List.Basic
import Mathlib.Tactic.Common

-- The UTF-8 bytes of a string.
def asBytes (s : String) : List UInt8 :=
  s.toByteArray.data.toList

@[simp]
theorem asBytes_append (s t : String) : asBytes (s ++ t) = asBytes s ++ asBytes t := by
  simp [asBytes, String.toByteArray_append, ByteArray.data_append]

theorem asBytes_injective : Function.Injective asBytes := by
  intro s t h
  rw [← String.toByteArray_inj]
  exact ByteArray.ext <| Array.toList_inj.mp h

theorem asBytes_ofList (cs : List Char) :
    asBytes (String.ofList cs) = cs.flatMap String.utf8EncodeChar := by
  simp [asBytes, List.utf8Encode]

-- The standard library has the next facts in modules that Mathlib imports only as a whole.
theorem natRepr_injective : Function.Injective Nat.repr := by
  intro m n h
  have hd : Nat.toDigits 10 m = Nat.toDigits 10 n := by
    rw [← Nat.toList_repr, ← Nat.toList_repr, h]
  rw [← Nat.ofDigitChars_toDigits (b := 10) (n := m) (by decide) (by decide), hd,
    Nat.ofDigitChars_toDigits (by decide) (by decide)]

theorem minus_notMem_repr (n : Nat) : '-' ∉ n.repr.toList := by
  intro h
  rw [Nat.toList_repr] at h
  exact absurd (Nat.isDigit_of_mem_toDigits (by decide) (by decide) h) (by decide)

theorem intRepr_injective : Function.Injective Int.repr := by
  intro m n h
  cases m <;> cases n
  case ofNat.ofNat m n => exact congrArg Int.ofNat (natRepr_injective h)
  case ofNat.negSucc m n =>
    have h : m.repr = "-" ++ (n + 1).repr := h
    exact absurd (by simp [h]) (minus_notMem_repr m)
  case negSucc.ofNat m n =>
    have h : "-" ++ (m + 1).repr = n.repr := h
    exact absurd (by simp [← h]) (minus_notMem_repr n)
  case negSucc.negSucc m n =>
    have h : "-" ++ (m + 1).repr = "-" ++ (n + 1).repr := h
    exact congrArg Int.negSucc (Nat.succ.inj (natRepr_injective <| by simpa using h))

-- Lowercase hexadecimal digits, two for each byte.
def hexDigits (b : UInt8) : List Char :=
  [Nat.digitChar (b.toNat / 16), Nat.digitChar (b.toNat % 16)]

def hexEncode (bs : List UInt8) : String :=
  String.ofList <| bs.flatMap hexDigits

theorem utf8Size_digitChar {n : Nat} (h : n < 16) : (Nat.digitChar n).utf8Size = 1 := by
  have size : ∀ i : Fin 16, (Nat.digitChar i).utf8Size = 1 := by decide
  exact size ⟨n, h⟩

theorem length_asBytes_hexEncode (bs : List UInt8) :
    (asBytes <| hexEncode bs).length = 2 * bs.length := by
  rw [hexEncode, asBytes_ofList]
  induction bs
  case nil => rfl
  case cons b _ hi =>
    have := b.toNat_lt
    have hd := utf8Size_digitChar (n := b.toNat / 16) (by omega)
    have hm := utf8Size_digitChar (n := b.toNat % 16) (by omega)
    simp only [List.flatMap_cons, List.flatMap_append, List.length_append, hi, hexDigits,
      List.flatMap_nil, String.length_utf8EncodeChar, hd, hm, List.length_cons, List.length_nil]
    omega

-- SHA-256 is used as a function from byte strings to 32 bytes about which nothing else is known.
class Sha256 where
  digest : List UInt8 → Vector UInt8 32

section Sha256

variable [Sha256]

def sha256Hex (value : List UInt8) : String :=
  hexEncode (Sha256.digest value).toList

@[simp]
theorem length_asBytes_sha256Hex (value : List UInt8) : (asBytes <| sha256Hex value).length = 64 := by
  simp [sha256Hex, length_asBytes_hexEncode]

theorem length_sha256Hex (value : List UInt8) : (sha256Hex value).length = 64 := by
  simp [sha256Hex, hexEncode, List.length_flatMap, hexDigits]

theorem sha256Hex_ne_empty (value : List UInt8) : sha256Hex value ≠ "" := by
  intro h
  have := length_asBytes_sha256Hex value
  rw [h] at this
  exact absurd this (by decide)

end Sha256
