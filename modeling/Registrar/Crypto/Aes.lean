import Registrar.Bytes

/-!
This module contains the block cipher AES with keys of 128 bits, and the counter mode, in which the
encrypted numbers of the blocks are added to a text.
-/

namespace Registrar.Aes

/-- Multiply by `x` in the field of 256 elements. -/
def double (b : UInt8) : UInt8 :=
  (b <<< 1) ^^^ (if b ≥ 0x80 then 0x1b else 0)

/-- The product in the field of 256 elements, from `n` bits of the second factor. -/
def multiply : (n : Nat) → (a b : UInt8) → UInt8
  | 0, _, _ => 0
  | n + 1, a, b => (if b % 2 = 1 then a else 0) ^^^ multiply n (double a) (b >>> 1)

/-- The `n`-th power in the field of 256 elements. -/
def power (a : UInt8) : (n : Nat) → UInt8
  | 0 => 1
  | n + 1 => multiply 8 a (power a n)

def rotate (b n : UInt8) : UInt8 :=
  (b <<< n) ||| (b >>> (8 - n))

/-- The substitute of a byte: its inverse in the field, or zero, mixed with its own rotations. -/
def substituteOf (b : UInt8) : UInt8 :=
  let i := power b 254
  i ^^^ rotate i 1 ^^^ rotate i 2 ^^^ rotate i 3 ^^^ rotate i 4 ^^^ 0x63

def substitutes : Array UInt8 :=
  ((List.range 256).map fun n => substituteOf (UInt8.ofNat n)).toArray

def substitute (b : UInt8) : UInt8 :=
  substitutes.getD b.toNat 0

def add (a b : Bytes) : Bytes :=
  List.zipWith (· ^^^ ·) a b

def nextKey (constant : UInt8) (key : Bytes) : Bytes :=
  let w₀ := key.take 4
  let w₁ := (key.drop 4).take 4
  let w₂ := (key.drop 8).take 4
  let w₃ := key.drop 12
  let t := add ((w₃.rotateLeft 1).map substitute) [constant, 0, 0, 0]
  let v₀ := add w₀ t
  let v₁ := add w₁ v₀
  let v₂ := add w₂ v₁
  v₀ ++ v₁ ++ v₂ ++ add w₃ v₂

/-- The keys of `n` further rounds. -/
def expand : (n : Nat) → (constant : UInt8) → (key : Bytes) → List Bytes
  | 0, _, _ => []
  | n + 1, constant, key =>
    let k := nextKey constant key
    k :: expand n (double constant) k

/-- Rotate row `i` of the state by `i` places; the columns stand one behind the other. -/
def shiftRows (s : Bytes) : Bytes :=
  let a := s.toArray
  (List.range 16).map fun i => a.getD ((i + 4 * (i % 4)) % 16) 0

def mixColumn : Bytes → Bytes
  | [a, b, c, d] =>
    let all := a ^^^ b ^^^ c ^^^ d
    [a ^^^ all ^^^ double (a ^^^ b), b ^^^ all ^^^ double (b ^^^ c),
     c ^^^ all ^^^ double (c ^^^ d), d ^^^ all ^^^ double (d ^^^ a)]
  | s => s

/-- The rounds with the given keys; the last one does not mix columns. -/
def rounds (s : Bytes) : List Bytes → Bytes
  | [] => s
  | [k] => add (shiftRows (s.map substitute)) k
  | k :: ks =>
    rounds (add ((Bytes.chunks 4 (shiftRows (s.map substitute))).flatMap mixColumn) k) ks

def encrypt (key block : Bytes) : Bytes :=
  rounds (add block key) (expand 10 1 key)

/-- Encrypt or decrypt a text in counter mode, the blocks being numbered from `counter` on. -/
def applyCounter (key counter text : Bytes) : Bytes :=
  go (Bytes.toNat counter) (Bytes.chunks 16 text)
where
  go (n : Nat) : List Bytes → Bytes
    | [] => []
    | b :: r => add b (encrypt key (Bytes.ofNat 16 n)) ++ go (n + 1) r

end Registrar.Aes
