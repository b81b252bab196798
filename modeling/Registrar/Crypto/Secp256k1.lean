import Registrar.Crypto.Hmac
import Registrar.Crypto.Keccak
import Registrar.Address

/-!
This module contains signatures with the curve `y ^ 2 = x ^ 3 + 7` over the integers modulo a prime.
The number that a signature needs in secret is derived from the key and the digest, so that a digest
has one signature only, and of the two valid ones the smaller is taken.
-/

namespace Registrar.Secp256k1

def prime : Nat := 0xfffffffffffffffffffffffffffffffffffffffffffffffffffffffefffffc2f

def order : Nat := 0xfffffffffffffffffffffffffffffffebaaedce6af48a03bbfd25e8cd0364141

/-- A point, or none for the neutral one. -/
abbrev Point := Option (Nat × Nat)

def generator : Point :=
  some (0x79be667ef9dcbbac55a06295ce870b07029bfcdb2dce28d959f2815b16f81798,
        0x483ada7726a3c4655da4fbfc0e1108a8fd17b448a68554199c47d08ffb10d4b8)

/-- A power modulo `m`, from `bits` bits of the exponent. -/
def powerMod (m : Nat) : (bits : Nat) → (base exponent : Nat) → Nat
  | 0, _, _ => 1 % m
  | n + 1, a, e =>
    let rest := powerMod m n (a * a % m) (e / 2)
    if e % 2 = 1 then a * rest % m else rest

def inverse (m a : Nat) : Nat :=
  powerMod m 256 a (m - 2)

/-- The difference modulo `m` of numbers below `m`. -/
def subMod (m a b : Nat) : Nat :=
  (a + (m - b)) % m

/-- The third point of the line of a slope through two points, mirrored. -/
def third (slope x₁ y₁ x₂ : Nat) : Point :=
  let x := subMod prime (subMod prime (slope * slope % prime) x₁) x₂
  some (x, subMod prime (slope * subMod prime x₁ x % prime) y₁)

def add : Point → Point → Point
  | none, q => q
  | p, none => p
  | some (x₁, y₁), some (x₂, y₂) =>
    if x₁ ≠ x₂ then
      third (subMod prime y₂ y₁ * inverse prime (subMod prime x₂ x₁) % prime) x₁ y₁ x₂
    else if y₁ = y₂ ∧ y₁ ≠ 0 then
      third (3 * x₁ * x₁ * inverse prime (2 * y₁ % prime) % prime) x₁ y₁ x₂
    else none

/-- A multiple of a point, from `bits` bits of the factor. -/
def multiply : (bits : Nat) → (factor : Nat) → Point → Point
  | 0, _, _ => none
  | n + 1, k, p =>
    let rest := multiply n (k / 2) (add p p)
    if k % 2 = 1 then add p rest else rest

/-- A secret key: a number that is neither zero nor too large. -/
structure SecretKey where
  value : Nat
  pos : 0 < value
  lt_order : value < order

def SecretKey.ofNat? (n : Nat) : Option SecretKey :=
  if h : 0 < n ∧ n < order then some ⟨n, h.1, h.2⟩ else none

/-- The secret key in big-endian form, with up to eight leading bytes left out. -/
def SecretKey.ofBytes? (b : Bytes) : Option SecretKey :=
  if 24 ≤ b.length ∧ b.length ≤ 32 then ofNat? (Bytes.toNat b) else none

def SecretKey.address (key : SecretKey) : Address :=
  match multiply 256 key.value generator with
  | none => ⟨0⟩
  | some (x, y) => Address.ofBytes ((Keccak.hash (Bytes.ofNat 32 x ++ Bytes.ofNat 32 y)).drop 12)

structure Drbg where
  key : Bytes
  last : Bytes

namespace Drbg

def update (g : Drbg) (separator : UInt8) (data : Bytes) : Drbg :=
  let key := (Hmac.ofKey g.key).hash (g.last ++ separator :: data)
  ⟨key, (Hmac.ofKey key).hash g.last⟩

def start (seed : Bytes) : Drbg :=
  let g : Drbg := ⟨List.replicate 32 0, List.replicate 32 1⟩
  (g.update 0 seed).update 1 seed

def next : (fuel : Nat) → Drbg → Nat
  | 0, _ => 1
  | fuel + 1, g =>
    let last := (Hmac.ofKey g.key).hash g.last
    let k := Bytes.toNat last
    if 0 < k ∧ k < order then k else next fuel (update ⟨g.key, last⟩ 0 [])

end Drbg

/-- A signature: two numbers, and whether the point it was made with has an odd second
coordinate. -/
structure RawSignature where
  r : Nat
  s : Nat
  isOdd : Bool
deriving Repr, DecidableEq, Inhabited

def sign (key : SecretKey) (digest : Bytes) : RawSignature :=
  let k := Drbg.next 64 (Drbg.start (Bytes.ofNat 32 key.value ++ digest))
  match multiply 256 k generator with
  | none => ⟨0, 0, false⟩
  | some (x, y) =>
    let r := x % order
    let s := inverse order k * (Bytes.toNat digest + r * key.value) % order
    if s > order / 2 then ⟨r, order - s, y % 2 = 0⟩ else ⟨r, s, y % 2 = 1⟩

/-- The 65 bytes of a signature: both numbers, and 27 or 28. -/
def RawSignature.bytes (s : RawSignature) : Bytes :=
  Bytes.ofNat 32 s.r ++ Bytes.ofNat 32 s.s ++ [if s.isOdd then 28 else 27]

end Registrar.Secp256k1
