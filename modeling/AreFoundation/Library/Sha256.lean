import Mathlib.Algebra.Group.Nat.Defs
import AreFoundation.Library.Encoding

-- The actual SHA-256 function on words below `2 ^ 32`. Results about code that hashes are stated for
-- every instance of `Sha256`. This one serves to run the code on concrete inputs.
namespace Sha256.Standard

def roundConstants : List Nat := [
  0x428a2f98, 0x71374491, 0xb5c0fbcf, 0xe9b5dba5, 0x3956c25b, 0x59f111f1, 0x923f82a4, 0xab1c5ed5,
  0xd807aa98, 0x12835b01, 0x243185be, 0x550c7dc3, 0x72be5d74, 0x80deb1fe, 0x9bdc06a7, 0xc19bf174,
  0xe49b69c1, 0xefbe4786, 0x0fc19dc6, 0x240ca1cc, 0x2de92c6f, 0x4a7484aa, 0x5cb0a9dc, 0x76f988da,
  0x983e5152, 0xa831c66d, 0xb00327c8, 0xbf597fc7, 0xc6e00bf3, 0xd5a79147, 0x06ca6351, 0x14292967,
  0x27b70a85, 0x2e1b2138, 0x4d2c6dfc, 0x53380d13, 0x650a7354, 0x766a0abb, 0x81c2c92e, 0x92722c85,
  0xa2bfe8a1, 0xa81a664b, 0xc24b8b70, 0xc76c51a3, 0xd192e819, 0xd6990624, 0xf40e3585, 0x106aa070,
  0x19a4c116, 0x1e376c08, 0x2748774c, 0x34b0bcb5, 0x391c0cb3, 0x4ed8aa4a, 0x5b9cca4f, 0x682e6ff3,
  0x748f82ee, 0x78a5636f, 0x84c87814, 0x8cc70208, 0x90befffa, 0xa4506ceb, 0xbef9a3f7, 0xc67178f2]

structure Registers where
  a : Nat
  b : Nat
  c : Nat
  d : Nat
  e : Nat
  f : Nat
  g : Nat
  h : Nat

def Registers.init : Registers where
  a := 0x6a09e667
  b := 0xbb67ae85
  c := 0x3c6ef372
  d := 0xa54ff53a
  e := 0x510e527f
  f := 0x9b05688c
  g := 0x1f83d9ab
  h := 0x5be0cd19

def add (x y : Nat) : Nat :=
  (x + y) % 2 ^ 32

def rotr (x n : Nat) : Nat :=
  (x >>> n) ||| ((x <<< (32 - n)) % 2 ^ 32)

-- The first 16 words are those of the block, each later word is computed from the 16 before it.
def messageSchedule : Nat → List Nat → List Nat
  | 0,     ws => ws
  | n + 1, ws =>
    let w₁  := ws.getD 1 0
    let w₁₄ := ws.getD 14 0
    let s₀  := rotr w₁ 7 ^^^ rotr w₁ 18 ^^^ (w₁ >>> 3)
    let s₁  := rotr w₁₄ 17 ^^^ rotr w₁₄ 19 ^^^ (w₁₄ >>> 10)
    let w   := (s₁ + ws.getD 9 0 + s₀ + ws.getD 0 0) % 2 ^ 32
    ws.take 1 ++ messageSchedule n (ws.drop 1 ++ [w])

def round (r : Registers) (kw : Nat) : Registers :=
  let s₁  := rotr r.e 6 ^^^ rotr r.e 11 ^^^ rotr r.e 25
  let ch  := (r.e &&& r.f) ^^^ (((2 ^ 32 - 1) ^^^ r.e) &&& r.g)
  let t₁  := r.h + s₁ + ch + kw
  let s₀  := rotr r.a 2 ^^^ rotr r.a 13 ^^^ rotr r.a 22
  let maj := (r.a &&& r.b) ^^^ (r.a &&& r.c) ^^^ (r.b &&& r.c)
  { a := add t₁ (s₀ + maj), b := r.a, c := r.b, d := r.c,
    e := add r.d t₁,        f := r.e, g := r.f, h := r.g }

def compress (r : Registers) (block : List Nat) : Registers :=
  let r' := (List.zipWith (· + ·) roundConstants <| messageSchedule 48 block).foldl round r
  { a := add r.a r'.a, b := add r.b r'.b, c := add r.c r'.c, d := add r.d r'.d,
    e := add r.e r'.e, f := add r.f r'.f, g := add r.g r'.g, h := add r.h r'.h }

def pad (value : List UInt8) : List Nat :=
  value.map (·.toNat) ++ [0x80] ++ List.replicate ((119 - value.length % 64) % 64) 0 ++
    (List.range 8).map fun i => value.length * 8 / 256 ^ (7 - i) % 256

def words : List Nat → List Nat
  | a :: b :: c :: d :: tl => (a * 2 ^ 24 + b * 2 ^ 16 + c * 2 ^ 8 + d) :: words tl
  | _                      => []

def blocks : Nat → List Nat → List (List Nat)
  | 0,     _  => []
  | n + 1, ws => ws.take 16 :: blocks n (ws.drop 16)

def registers (value : List UInt8) : Registers :=
  let ws := words <| pad value
  (blocks (ws.length / 16) ws).foldl compress .init

def Registers.toList (r : Registers) : List Nat :=
  [r.a, r.b, r.c, r.d, r.e, r.f, r.g, r.h]

scoped instance standard : Sha256 where
  digest value :=
    let ws := (registers value).toList
    .ofFn fun i => .ofNat <| ws.getD (i.val / 4) 0 / 256 ^ (3 - i.val % 4)

example : sha256Hex (asBytes "abc") =
    "ba7816bf8f01cfea414140de5dae2223b00361a396177a9cb410ff61f20015ad" := by
  decide +kernel

end Sha256.Standard
