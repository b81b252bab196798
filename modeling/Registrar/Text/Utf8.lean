import Registrar.Bytes

/-!
This module contains the reading of UTF-8 that never fails: every longest beginning of a character
that does not go on as one is read as the replacement character.
-/

namespace Registrar.Text.Utf8

def replacement : Char := '\ufffd'

def within (low high : Nat) (b : UInt8) : Bool :=
  low ≤ b.toNat && b.toNat ≤ high

/-- The range of the byte that may follow the first byte of a character of several bytes. -/
def secondRange (first : UInt8) : Nat × Nat :=
  if first = 0xE0 then (0xA0, 0xBF)
  else if first = 0xED then (0x80, 0x9F)
  else if first = 0xF0 then (0x90, 0xBF)
  else if first = 0xF4 then (0x80, 0x8F)
  else (0x80, 0xBF)

/-- How many bytes follow the first byte of a character, and the bits that it contributes. -/
def lead? (first : UInt8) : Option (Nat × Nat) :=
  if within 0x00 0x7F first then some (0, first.toNat)
  else if within 0xC2 0xDF first then some (1, first.toNat - 0xC0)
  else if within 0xE0 0xEF first then some (2, first.toNat - 0xE0)
  else if within 0xF0 0xF4 first then some (3, first.toNat - 0xF0)
  else none

/-- Read `missing` further bytes of a character, the next of which lies in `range`. Gives the
character and how many bytes were used. -/
def readRest (bits : Nat) (range : Nat × Nat) (used : Nat) : (missing : Nat) → Bytes → Char × Nat
  | 0, _ => (Char.ofNat bits, used)
  | _ + 1, [] => (replacement, used)
  | k + 1, b :: r =>
    if within range.1 range.2 b then
      readRest (64 * bits + (b.toNat - 0x80)) (0x80, 0xBF) (used + 1) k r
    else (replacement, used)

def decodeLossy (b : Bytes) : List Char :=
  go b.length b
where
  go : Nat → Bytes → List Char
    | _, [] => []
    | 0, _ => []
    | n + 1, first :: r =>
      match lead? first with
      | none => replacement :: go n r
      | some (missing, bits) =>
        let (c, used) := readRest bits (secondRange first) 0 missing r
        c :: go n (r.drop used)

end Registrar.Text.Utf8
