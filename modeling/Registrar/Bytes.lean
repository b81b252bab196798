import Registrar.Power

/-!
This module contains byte strings and their numbers: a byte string is the big-endian form of a
natural number, and every natural number has one of any length that is large enough for it.
-/

namespace Registrar

abbrev Bytes := List UInt8

abbrev Word := BitVec 256

namespace Bytes

/-- The low `n` bytes of a number, the most significant one first. -/
def ofNat : (n : Nat) → Nat → Bytes
  | 0, _ => []
  | n + 1, x => ofNat n (x / 256) ++ [UInt8.ofNat (x % 256)]

def toNat (b : Bytes) : Nat :=
  b.foldl (fun n x => n * 256 + x.toNat) 0

/-- The low `n` bytes of a number, the least significant one first. -/
def ofNatLittle (n x : Nat) : Bytes :=
  (ofNat n x).reverse

def toNatLittle (b : Bytes) : Nat :=
  toNat b.reverse

def ofText (s : List Char) : Bytes :=
  s.flatMap String.utf8EncodeChar

def ofString (s : String) : Bytes :=
  ofText s.toList

/-- The bytes up to `n` of them, zeroes standing in for those that are missing. -/
def window (n : Nat) (b : Bytes) : Bytes :=
  b.take n ++ List.replicate (n - b.length) 0

/-- The pieces of `n` bytes a byte string consists of; the last one may be shorter. -/
def chunks (n : Nat) (b : Bytes) : List Bytes :=
  go b.length b
where
  go : Nat → Bytes → List Bytes
    | _, [] => []
    | 0, b => [b]
    | k + 1, b => b.take n :: go k (b.drop n)

@[simp]
theorem length_ofNat (n x : Nat) : (ofNat n x).length = n := by
  induction n generalizing x with
  | zero => rfl
  | succ n ih => simp [ofNat, ih]

theorem foldl_eq (b : Bytes) (n : Nat) :
    b.foldl (fun n x => n * 256 + x.toNat) n = n * 256 ^ b.length + toNat b := by
  induction b generalizing n with
  | nil => simp [toNat]
  | cons x b ih =>
    rw [toNat, List.foldl_cons, List.foldl_cons, ih, ih (0 * 256 + x.toNat), List.length_cons,
      Nat.pow_succ, Nat.zero_mul, Nat.zero_add, Nat.add_mul, Nat.mul_assoc,
      Nat.mul_comm 256, Nat.add_assoc]

theorem toNat_append (a b : Bytes) : toNat (a ++ b) = toNat a * 256 ^ b.length + toNat b := by
  rw [toNat, List.foldl_append, foldl_eq]
  rfl

theorem toNat_ofNat (n x : Nat) : toNat (ofNat n x) = x % 256 ^ n := by
  induction n generalizing x with
  | zero => simp [ofNat, toNat, Nat.mod_one]
  | succ n ih =>
    rw [ofNat, toNat_append, ih]
    have hx : toNat [UInt8.ofNat (x % 256)] = x % 256 := by
      simp [toNat]
    rw [hx, List.length_singleton, Nat.pow_one, Nat.pow_succ, Nat.mul_comm (256 ^ n) 256,
      Nat.mod_mul]
    omega

end Bytes

namespace Word

/-- The 32 bytes of a word, the most significant one first. -/
def bytes (w : Word) : Bytes :=
  Bytes.ofNat 32 w.toNat

def ofBytes (b : Bytes) : Word :=
  BitVec.ofNat 256 (Bytes.toNat b)

@[simp]
theorem length_bytes (w : Word) : (bytes w).length = 32 :=
  Bytes.length_ofNat 32 _

theorem ofBytes_bytes (w : Word) : ofBytes (bytes w) = w := by
  apply BitVec.eq_of_toNat_eq
  rw [ofBytes, bytes, Bytes.toNat_ofNat, BitVec.toNat_ofNat]
  have := w.isLt
  rw [show (256 : Nat) ^ 32 = 2 ^ 256 by decide]
  simp only [Nat.mod_mod]
  exact Nat.mod_eq_of_lt this

end Word

end Registrar
