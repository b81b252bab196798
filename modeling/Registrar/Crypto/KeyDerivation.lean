import Registrar.Crypto.Hmac
import Registrar.Power

/-!
This module contains the derivation of keys from passwords: PBKDF2, which repeats a keyed hash, and
scrypt, which in between mixes large blocks in an order that depends on their content.
-/

namespace Registrar

namespace Pbkdf2

def combine (s t : Sha256.State) : Sha256.State :=
  ⟨s.a ^^^ t.a, s.b ^^^ t.b, s.c ^^^ t.c, s.d ^^^ t.d, s.e ^^^ t.e, s.f ^^^ t.f, s.g ^^^ t.g,
   s.h ^^^ t.h⟩

/-- Repeat the hash `n` times and combine all results. -/
def iterate (h : Hmac) : (n : Nat) → (last sum : Sha256.State) → Sha256.State
  | 0, _, sum => sum
  | n + 1, last, sum =>
    let s := h.next last
    iterate h n s (combine sum s)

/-- The `i`-th block of 32 bytes of a derived key; the first one has the number 1. -/
def block (h : Hmac) (salt : Bytes) (count i : Nat) : Bytes :=
  let s := h.state (salt ++ Bytes.ofNat 4 i)
  (iterate h (count - 1) s s).bytes

/-- A key of `length` bytes. -/
def derive (password salt : Bytes) (count length : Nat) : Bytes :=
  let h := Hmac.ofKey password
  ((List.range ((length + 31) / 32)).flatMap fun i => block h salt count (i + 1)).take length

end Pbkdf2

namespace Scrypt

abbrev Words := Array UInt32

def rotate (x n : UInt32) : UInt32 :=
  (x <<< n) ||| (x >>> (32 - n))

/-- Change word `i` by the words `j` and `k`. -/
def step (n : UInt32) (i j k : Nat) (w : Words) : Words :=
  w.setIfInBounds i (w.getD i 0 ^^^ rotate (w.getD j 0 + w.getD k 0) n)

def quarter (a b c d : Nat) (w : Words) : Words :=
  step 18 a d c (step 13 d c b (step 9 c b a (step 7 b a d w)))

def doubleRound (w : Words) : Words :=
  let w := quarter 15 3 7 11 (quarter 10 14 2 6 (quarter 5 9 13 1 (quarter 0 4 8 12 w)))
  quarter 15 12 13 14 (quarter 10 11 8 9 (quarter 5 6 7 4 (quarter 0 1 2 3 w)))

def salsa (w : Words) : Words :=
  Array.zipWith (· + ·) w (doubleRound (doubleRound (doubleRound (doubleRound w))))

/-- Mix blocks of sixteen words one into the other; gives the results in order. -/
def chain (last : Words) : List Words → List Words
  | [] => []
  | w :: r =>
    let x := salsa (Array.zipWith (· ^^^ ·) last w)
    x :: chain x r

def alternate {α : Type} : List α → List α × List α
  | [] => ([], [])
  | x :: r =>
    let (evens, odds) := alternate r
    (x :: odds, evens)

def mixBlocks (b : List Words) : List Words :=
  let (evens, odds) := alternate (chain (b.getLast?.getD #[]) b)
  evens ++ odds

/-- Mix `n` times and keep what there was before each time. -/
def fill : (n : Nat) → (kept : Array (List Words)) → List Words → Array (List Words) × List Words
  | 0, kept, b => (kept, b)
  | n + 1, kept, b => fill n (kept.push b) (mixBlocks b)

def selector (b : List Words) : Nat :=
  ((b.getLast?.getD #[]).getD 0 0).toNat + 2 ^ 32 * ((b.getLast?.getD #[]).getD 1 0).toNat

/-- Mix `n` times, each time with a kept state. -/
def stir (kept : Array (List Words)) : (n : Nat) → List Words → List Words
  | 0, b => b
  | n + 1, b =>
    let other := kept.getD (selector b % kept.size) []
    stir kept n (mixBlocks (List.zipWith (Array.zipWith (· ^^^ ·)) b other))

/-- Mix a part of the key with memory for `n` states. -/
def mix (n : Nat) (part : Bytes) : Bytes :=
  let little (b : Bytes) : UInt32 := UInt32.ofNat (Bytes.toNatLittle b)
  let blocks := (Bytes.chunks 64 part).map fun b => ((Bytes.chunks 4 b).map little).toArray
  let (kept, b) := fill n #[] blocks
  (stir kept n b).flatMap fun w => w.toList.flatMap fun x => Bytes.ofNatLittle 4 x.toNat

/-- Whether parameters are within the limits: memory for `2 ^ logN` states of `r` blocks, `p`
times. -/
def isValid (logN r p : Nat) : Bool :=
  0 < r && 0 < p && logN < r * 16 && logN < 64 && r * 128 * 2 ^ logN < 2 ^ 64 &&
    r * p < 0x40000000

/-- A key of `length` bytes. -/
def derive (password salt : Bytes) (logN r p length : Nat) : Bytes :=
  let parts := Bytes.chunks (128 * r) (Pbkdf2.derive password salt 1 (128 * r * p))
  Pbkdf2.derive password (parts.flatMap (mix (2 ^ logN))) 1 length

end Scrypt

end Registrar
