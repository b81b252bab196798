import Registrar.Text.Utf8

/-!
This module contains the proof that reading UTF-8 gives back every text whose bytes are read. A
character is written in one to four bytes, and each of these is recognized by its range.
-/

namespace Registrar.Text.Utf8

variable {b : UInt8} {bits : Nat} {range : Nat × Nat} {r : Bytes}

theorem within_iff {low high : Nat} :
    within low high b = true ↔ low ≤ b.toNat ∧ b.toNat ≤ high := by
  unfold within
  rw [Bool.and_eq_true, decide_eq_true_eq, decide_eq_true_eq]

theorem toNat_ofNat_of_lt {n : Nat} (h : n < 256) : (UInt8.ofNat n).toNat = n :=
  UInt8.toNat_ofNat_of_lt' h

theorem lead?_one (h : b.toNat ≤ 0x7F) : lead? b = some (0, b.toNat) := by
  unfold lead?
  rw [if_pos]
  rw [within_iff]
  omega

theorem lead?_two (hlow : 0xC2 ≤ b.toNat) (hhigh : b.toNat ≤ 0xDF) :
    lead? b = some (1, b.toNat - 0xC0) := by
  unfold lead?
  rw [if_neg, if_pos]
  all_goals
    rw [within_iff]
    omega

theorem lead?_three (hlow : 0xE0 ≤ b.toNat) (hhigh : b.toNat ≤ 0xEF) :
    lead? b = some (2, b.toNat - 0xE0) := by
  unfold lead?
  rw [if_neg, if_neg, if_pos]
  all_goals
    rw [within_iff]
    omega

theorem lead?_four (hlow : 0xF0 ≤ b.toNat) (hhigh : b.toNat ≤ 0xF4) :
    lead? b = some (3, b.toNat - 0xF0) := by
  unfold lead?
  rw [if_neg, if_neg, if_neg, if_pos]
  all_goals
    rw [within_iff]
    omega

/-- A byte may follow the first one of a character unless the character would be one that is written
in fewer bytes, or none at all. -/
theorem le_secondRange {n : Nat} (hlow : 0x80 ≤ n) (hhigh : n ≤ 0xBF)
    (hthree : b.toNat = 0xE0 → 0xA0 ≤ n) (hsurrogate : b.toNat = 0xED → n ≤ 0x9F)
    (hfour : b.toNat = 0xF0 → 0x90 ≤ n) (hlast : b.toNat = 0xF4 → n ≤ 0x8F) :
    (secondRange b).1 ≤ n ∧ n ≤ (secondRange b).2 := by
  unfold secondRange
  split
  . next h => exact ⟨hthree (congrArg UInt8.toNat h), hhigh⟩
  . split
    . next h => exact ⟨hlow, hsurrogate (congrArg UInt8.toNat h)⟩
    . split
      . next h => exact ⟨hfour (congrArg UInt8.toNat h), hhigh⟩
      . split
        . next h => exact ⟨hlow, hlast (congrArg UInt8.toNat h)⟩
        . exact ⟨hlow, hhigh⟩

theorem readRest_succ {used k : Nat} (hlow : range.1 ≤ b.toNat) (hhigh : b.toNat ≤ range.2) :
    readRest bits range used (k + 1) (b :: r) =
      readRest (64 * bits + (b.toNat - 0x80)) (0x80, 0xBF) (used + 1) k r := by
  rw [readRest, if_pos (within_iff.2 ⟨hlow, hhigh⟩)]

/-- Bytes announce how many they are and are read as a character, whatever follows them. -/
def Writes (bytes : Bytes) (c : Char) : Prop :=
  ∃ first rest bits, bytes = first :: rest ∧ lead? first = some (rest.length, bits) ∧
    ∀ r, readRest bits (secondRange first) 0 rest.length (rest ++ r) = (c, rest.length)

section

variable {v : Nat}

theorem writes_one (h : v ≤ 0x7F) : Writes [UInt8.ofNat v] (Char.ofNat v) := by
  have hfirst := toNat_ofNat_of_lt (n := v) (by omega)
  refine ⟨_, [], _, rfl, lead?_one (by omega), ?_⟩
  intro r
  rw [hfirst]
  rfl

theorem writes_two (hlow : 0x7F < v) (hhigh : v ≤ 0x7FF) :
    Writes [UInt8.ofNat (v / 64 % 32 + 192), UInt8.ofNat (v % 64 + 128)] (Char.ofNat v) := by
  have hfirst := toNat_ofNat_of_lt (n := v / 64 % 32 + 192) (by omega)
  have hsecond := toNat_ofNat_of_lt (n := v % 64 + 128) (by omega)
  refine ⟨_, [_], _, rfl, lead?_two (by omega) (by omega), ?_⟩
  intro r
  have hrange := le_secondRange (b := UInt8.ofNat (v / 64 % 32 + 192)) (n := v % 64 + 128)
    (by omega) (by omega) (by omega) (by omega) (by omega) (by omega)
  rw [← hsecond] at hrange
  rw [List.length_singleton, List.singleton_append]
  rw [readRest_succ hrange.1 hrange.2, readRest, hfirst, hsecond]
  rw [show 64 * (v / 64 % 32 + 192 - 0xC0) + (v % 64 + 128 - 0x80) = v by omega]

theorem writes_three (hlow : 0x7FF < v) (hhigh : v ≤ 0xFFFF) (hvalid : v < 0xD800 ∨ 0xDFFF < v) :
    Writes [UInt8.ofNat (v / 4096 % 16 + 224), UInt8.ofNat (v / 64 % 64 + 128),
      UInt8.ofNat (v % 64 + 128)] (Char.ofNat v) := by
  have hfirst := toNat_ofNat_of_lt (n := v / 4096 % 16 + 224) (by omega)
  have hsecond := toNat_ofNat_of_lt (n := v / 64 % 64 + 128) (by omega)
  have hthird := toNat_ofNat_of_lt (n := v % 64 + 128) (by omega)
  refine ⟨_, [_, _], _, rfl, lead?_three (by omega) (by omega), ?_⟩
  intro r
  have hrange := le_secondRange (b := UInt8.ofNat (v / 4096 % 16 + 224)) (n := v / 64 % 64 + 128)
    (by omega) (by omega) (by omega) (by omega) (by omega) (by omega)
  rw [← hsecond] at hrange
  rw [List.length_cons, List.length_singleton, List.cons_append, List.singleton_append]
  rw [readRest_succ hrange.1 hrange.2]
  rw [readRest_succ (by omega) (by omega), readRest, hfirst, hsecond, hthird]
  rw [show 64 * (64 * (v / 4096 % 16 + 224 - 0xE0) + (v / 64 % 64 + 128 - 0x80)) +
    (v % 64 + 128 - 0x80) = v by omega]

theorem writes_four (hlow : 0xFFFF < v) (hhigh : v < 0x110000) :
    Writes [UInt8.ofNat (v / 262144 % 8 + 240), UInt8.ofNat (v / 4096 % 64 + 128),
      UInt8.ofNat (v / 64 % 64 + 128), UInt8.ofNat (v % 64 + 128)] (Char.ofNat v) := by
  have hfirst := toNat_ofNat_of_lt (n := v / 262144 % 8 + 240) (by omega)
  have hsecond := toNat_ofNat_of_lt (n := v / 4096 % 64 + 128) (by omega)
  have hthird := toNat_ofNat_of_lt (n := v / 64 % 64 + 128) (by omega)
  have hfourth := toNat_ofNat_of_lt (n := v % 64 + 128) (by omega)
  refine ⟨_, [_, _, _], _, rfl, lead?_four (by omega) (by omega), ?_⟩
  intro r
  have hrange := le_secondRange (b := UInt8.ofNat (v / 262144 % 8 + 240))
    (n := v / 4096 % 64 + 128)
    (by omega) (by omega) (by omega) (by omega) (by omega) (by omega)
  rw [← hsecond] at hrange
  rw [List.length_cons, List.length_cons, List.length_singleton, List.cons_append,
    List.cons_append, List.singleton_append]
  rw [readRest_succ hrange.1 hrange.2]
  rw [readRest_succ (by omega) (by omega)]
  rw [readRest_succ (by omega) (by omega), readRest, hfirst, hsecond, hthird, hfourth]
  rw [show 64 * (64 * (64 * (v / 262144 % 8 + 240 - 0xF0) + (v / 4096 % 64 + 128 - 0x80)) +
    (v / 64 % 64 + 128 - 0x80)) + (v % 64 + 128 - 0x80) = v by omega]

end

theorem writes_encodeChar (c : Char) : Writes (String.utf8EncodeChar c) c := by
  have hvalid : c.val.toNat < 0xD800 ∨ 0xDFFF < c.val.toNat ∧ c.val.toNat < 0x110000 := c.valid
  have hc : Char.ofNat c.val.toNat = c := Char.ofNat_toNat c
  unfold String.utf8EncodeChar
  dsimp only
  generalize c.val.toNat = v at hvalid hc
  rw [← hc]
  split
  . apply writes_one
    assumption
  . split
    . apply writes_two
      . omega
      . assumption
    . split
      . apply writes_three
        . omega
        . assumption
        . omega
      . apply writes_four
        . omega
        . omega

theorem go_append {bytes : Bytes} {c : Char} (h : Writes bytes c) (n : Nat) (r : Bytes) :
    decodeLossy.go (n + 1) (bytes ++ r) = c :: decodeLossy.go n r := by
  obtain ⟨first, rest, bits, rfl, hlead, hread⟩ := h
  rw [List.cons_append, decodeLossy.go, hlead]
  dsimp only
  rw [hread, List.drop_left]

theorem go_ofText (s : List Char) {n : Nat} (h : s.length ≤ n) :
    decodeLossy.go n (Bytes.ofText s) = s := by
  induction s generalizing n with
  | nil =>
    unfold decodeLossy.go
    rfl
  | cons c s ih =>
    cases n with
    | zero => cases h
    | succ n =>
      unfold Bytes.ofText
      rw [List.flatMap_cons, go_append (writes_encodeChar c)]
      congr 1
      apply ih
      exact Nat.le_of_succ_le_succ h

theorem length_le_length_ofText (s : List Char) : s.length ≤ (Bytes.ofText s).length := by
  induction s with
  | nil => exact Nat.le_refl 0
  | cons c s ih =>
    obtain ⟨first, rest, -, hc, -⟩ := writes_encodeChar c
    unfold Bytes.ofText at *
    rw [List.flatMap_cons, hc, List.length_append, List.length_cons, List.length_cons]
    omega

/-- A text is read back from its bytes. -/
theorem decodeLossy_ofText (s : List Char) : decodeLossy (Bytes.ofText s) = s :=
  go_ofText s (length_le_length_ofText s)

end Registrar.Text.Utf8
