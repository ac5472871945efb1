import AreFoundation.Library.Encoding

-- How the library `serde_json` writes values.
namespace Serde

-- Letters after the backslash for the characters that have one.
def escapes : List (Nat × Char) :=
  [(0x8, 'b'), (0x9, 't'), (0xa, 'n'), (0xc, 'f'), (0xd, 'r'), (0x22, Char.ofNat 0x22),
    (0x5c, Char.ofNat 0x5c)]

def stringChar (c : Char) : List Char :=
  match escapes.lookup c.toNat with
  | some letter => [Char.ofNat 0x5c, letter]
  | none        =>
    if c.toNat < 0x20 then
      [Char.ofNat 0x5c, 'u', '0', '0'] ++ hexDigits (UInt8.ofNat c.toNat)
    else
      [c]

def string (s : String) : String :=
  String.ofList <| Char.ofNat 0x22 :: s.toList.flatMap stringChar ++ [Char.ofNat 0x22]

-- The values of the fields are given as texts.
def object (fields : List (String × String)) : String :=
  "\x7b" ++ ",".intercalate (fields.map fun (k, v) => string k ++ ":" ++ v) ++ "\x7d"

end Serde
