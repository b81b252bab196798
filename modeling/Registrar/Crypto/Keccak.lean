import Registrar.Bytes

/-!
This module contains the hash function Keccak-256: the permutation of 25 lanes of 64 bits, and the
sponge that absorbs 136 bytes at a time.
-/

namespace Registrar.Keccak

/-- Twenty-five lanes; lane `(x, y)` stands at `5 * y + x`. -/
abbrev State := Vector UInt64 25

def rate : Nat := 136

/-- The constant that each round adds to lane `(0, 0)`. -/
def roundConstants : List UInt64 :=
  [0x0000000000000001, 0x0000000000008082, 0x800000000000808A, 0x8000000080008000,
   0x000000000000808B, 0x0000000080000001, 0x8000000080008081, 0x8000000000008009,
   0x000000000000008A, 0x0000000000000088, 0x0000000080008009, 0x000000008000000A,
   0x000000008000808B, 0x800000000000008B, 0x8000000000008089, 0x8000000000008003,
   0x8000000000008002, 0x8000000000000080, 0x000000000000800A, 0x800000008000000A,
   0x8000000080008081, 0x8000000000008080, 0x0000000080000001, 0x8000000080008008]

def rotations : Vector UInt64 25 :=
  #v[0, 1, 62, 28, 27, 36, 44, 6, 55, 20, 3, 10, 43, 25, 39, 41, 45, 15, 21, 8, 18, 2, 61, 56, 14]

def rotate (x : UInt64) (n : UInt64) : UInt64 :=
  if n = 0 then x else (x <<< n) ||| (x >>> (64 - n))

def theta (s : State) : State :=
  let parities : Vector UInt64 5 := .ofFn fun x =>
    s[x.val] ^^^ s[x.val + 5] ^^^ s[x.val + 10] ^^^ s[x.val + 15] ^^^ s[x.val + 20]
  let changes : Vector UInt64 5 := .ofFn fun x =>
    parities[(x.val + 4) % 5] ^^^ rotate parities[(x.val + 1) % 5] 1
  .ofFn fun i => s[i.val] ^^^ changes[i.val % 5]

/-- Rotate every lane and move lane `(x, y)` to `(y, 2 * x + 3 * y)`. -/
def rhoPi (s : State) : State :=
  .ofFn fun i =>
    let x := i.val % 5
    let y := i.val / 5
    -- the lane that moves to `(x, y)` comes from `(x + 3 * y, x)`
    let j := 5 * x + (x + 3 * y) % 5
    rotate s[j % 25] rotations[j % 25]

def chi (s : State) : State :=
  .ofFn fun i =>
    let x := i.val % 5
    let y := i.val / 5
    s[i.val] ^^^ (~~~ s[(5 * y + (x + 1) % 5) % 25] &&& s[(5 * y + (x + 2) % 5) % 25])

def round (s : State) (constant : UInt64) : State :=
  let t := chi (rhoPi (theta s))
  t.set 0 (t[0] ^^^ constant)

def permute (s : State) : State :=
  roundConstants.foldl round s

/-- The lane that eight bytes form, the least significant one first. -/
def lane (b : Bytes) : UInt64 :=
  UInt64.ofNat (Bytes.toNatLittle b)

def absorb (s : State) (block : Bytes) : State :=
  let lanes := ((Bytes.chunks 8 block).map lane).toArray
  permute (.ofFn fun i => s[i.val] ^^^ lanes.getD i.val 0)

/-- Complete a message to whole blocks: a first bit, zeroes, and a last bit. -/
def pad (message : Bytes) : Bytes :=
  let free := rate - message.length % rate
  if free = 1 then message ++ [0x81]
  else message ++ 0x01 :: List.replicate (free - 2) 0 ++ [0x80]

def hash (message : Bytes) : Bytes :=
  let final := (Bytes.chunks rate (pad message)).foldl absorb (Vector.replicate 25 0)
  ((final.toList.take 4).flatMap fun x => Bytes.ofNatLittle 8 x.toNat)

end Registrar.Keccak
