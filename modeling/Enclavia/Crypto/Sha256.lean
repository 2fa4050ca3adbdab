import Mathlib.Tactic.Common
import Mathlib.Algebra.Ring.Nat

namespace crypto

/-! SHA-256 as FIPS 180-4 defines it, on byte lists. A 32-bit word is a number below `2 ^ 32`. -/

namespace sha256

def roundConstants : List Nat :=
  [ 0x428a2f98, 0x71374491, 0xb5c0fbcf, 0xe9b5dba5, 0x3956c25b, 0x59f111f1, 0x923f82a4, 0xab1c5ed5,
    0xd807aa98, 0x12835b01, 0x243185be, 0x550c7dc3, 0x72be5d74, 0x80deb1fe, 0x9bdc06a7, 0xc19bf174,
    0xe49b69c1, 0xefbe4786, 0x0fc19dc6, 0x240ca1cc, 0x2de92c6f, 0x4a7484aa, 0x5cb0a9dc, 0x76f988da,
    0x983e5152, 0xa831c66d, 0xb00327c8, 0xbf597fc7, 0xc6e00bf3, 0xd5a79147, 0x06ca6351, 0x14292967,
    0x27b70a85, 0x2e1b2138, 0x4d2c6dfc, 0x53380d13, 0x650a7354, 0x766a0abb, 0x81c2c92e, 0x92722c85,
    0xa2bfe8a1, 0xa81a664b, 0xc24b8b70, 0xc76c51a3, 0xd192e819, 0xd6990624, 0xf40e3585, 0x106aa070,
    0x19a4c116, 0x1e376c08, 0x2748774c, 0x34b0bcb5, 0x391c0cb3, 0x4ed8aa4a, 0x5b9cca4f, 0x682e6ff3,
    0x748f82ee, 0x78a5636f, 0x84c87814, 0x8cc70208, 0x90befffa, 0xa4506ceb, 0xbef9a3f7, 0xc67178f2 ]

def initialState : List Nat :=
  [ 0x6a09e667, 0xbb67ae85, 0x3c6ef372, 0xa54ff53a, 0x510e527f, 0x9b05688c, 0x1f83d9ab, 0x5be0cd19 ]

def rotr (x n : Nat) : Nat := (x >>> n) ||| ((x <<< (32 - n)) % 2 ^ 32)

def addWord (x y : Nat) : Nat := (x + y) % 2 ^ 32

def pad (message : List UInt8) : List UInt8 :=
  let zeros := (119 - message.length % 64) % 64
  let bits := message.length * 8
  let length := ([56, 48, 40, 32, 24, 16, 8, 0] : List Nat).map fun shift => UInt8.ofNat (bits >>> shift)
  message ++ 0x80 :: List.replicate zeros 0 ++ length

def words : List UInt8 → List Nat
  | a :: b :: c :: d :: rest =>
    (a.toNat <<< 24 ||| b.toNat <<< 16 ||| c.toNat <<< 8 ||| d.toNat) :: words rest
  | _ => []

def extend : Nat → List Nat → List Nat
  | 0, schedule => schedule
  | n + 1, schedule =>
    let w := fun i => schedule.getD i 0
    let s0 := rotr (w 14) 7 ^^^ rotr (w 14) 18 ^^^ (w 14 >>> 3)
    let s1 := rotr (w 1) 17 ^^^ rotr (w 1) 19 ^^^ (w 1 >>> 10)
    extend n ((s1 + w 6 + s0 + w 15) % 2 ^ 32 :: schedule)

def round : List Nat → Nat × Nat → List Nat
  | [a, b, c, d, e, f, g, h], (k, w) =>
    let s1 := rotr e 6 ^^^ rotr e 11 ^^^ rotr e 25
    let ch := (e &&& f) ^^^ ((e ^^^ 0xffffffff) &&& g)
    let t1 := h + s1 + ch + k + w
    let s0 := rotr a 2 ^^^ rotr a 13 ^^^ rotr a 22
    let maj := (a &&& b) ^^^ (a &&& c) ^^^ (b &&& c)
    [addWord t1 (s0 + maj), a, b, c, addWord d t1, e, f, g]
  | state, _ => state

def compress (state block : List Nat) : List Nat :=
  let schedule := (extend 48 block.reverse).reverse
  List.zipWith addWord state ((roundConstants.zip schedule).foldl round state)

def absorb : Nat → List Nat → List Nat → List Nat
  | 0, state, _ => state
  | fuel + 1, state, input =>
    if input.isEmpty then state else absorb fuel (compress state (input.take 16)) (input.drop 16)

end sha256

@[irreducible] def sha256 (message : List UInt8) : Vector UInt8 32 :=
  let state := sha256.absorb (message.length / 64 + 2) sha256.initialState
    (sha256.words (sha256.pad message))
  Vector.ofFn fun i : Fin 32 =>
    UInt8.ofNat (state.getD (i.val / 4) 0 >>> (24 - 8 * (i.val % 4)))

/-- The standard's own test message `abc`. -/
example : (sha256 [0x61, 0x62, 0x63]).toList =
    [ 0xba, 0x78, 0x16, 0xbf, 0x8f, 0x01, 0xcf, 0xea, 0x41, 0x41, 0x40, 0xde, 0x5d, 0xae, 0x22, 0x23,
      0xb0, 0x03, 0x61, 0xa3, 0x96, 0x17, 0x7a, 0x9c, 0xb4, 0x10, 0xff, 0x61, 0xf2, 0x00, 0x15, 0xad ] := by
  decide +kernel

end crypto
