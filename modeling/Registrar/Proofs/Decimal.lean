import Registrar.Conversion

/-!
This module contains the proof that decimal notation is read back: the digits of a number that fits
an integer type denote the number, also at the ends of the type, and whichever of the notations the
type has.
-/

namespace Registrar

namespace Decimal

theorem valueFrom_eq_ofDigitChars (n : Nat) (s : List Char) :
    valueFrom n s = Nat.ofDigitChars 10 s n := by
  rfl

theorem valueFrom_cons (n : Nat) (c : Char) (s : List Char) :
    valueFrom n (c :: s) = valueFrom (10 * n + digitValue c) s := by
  rfl

theorem valueFrom_ofNat (n : Nat) : valueFrom 0 (ofNat n) = n := by
  rw [valueFrom_eq_ofDigitChars]
  exact Nat.ofDigitChars_ten_toDigits

theorem le_valueFrom (n : Nat) (s : List Char) : n ≤ valueFrom n s := by
  induction s generalizing n with
  | nil => exact Nat.le_refl n
  | cons c s ih =>
    rw [valueFrom_cons]
    have := ih (10 * n + digitValue c)
    omega

theorem ofNat_ne_nil (n : Nat) : ofNat n ≠ [] := by
  exact Nat.toDigits_ne_nil

theorem isDigit_of_mem_ofNat {n : Nat} {c : Char} (hc : c ∈ ofNat n) : c.isDigit := by
  apply Nat.isDigit_of_mem_toDigits _ _ hc
  . decide
  . decide

end Decimal

namespace Integer

open Decimal

theorem readDigits_eq_ok {limit : Nat} {excess : ReadFault} {n : Nat} {s : List Char}
    (hs : ∀ c ∈ s, c.isDigit) (hv : valueFrom n s ≤ limit) :
    readDigits limit excess n s = .ok (valueFrom n s) := by
  induction s generalizing n with
  | nil => rfl
  | cons c s ih =>
    rw [valueFrom_cons] at hv ⊢
    have hle := le_valueFrom (10 * n + digitValue c) s
    unfold readDigits
    rw [if_pos (hs c List.mem_cons_self)]
    dsimp only
    rw [if_pos (by omega)]
    apply ih _ hv
    intro d hd
    exact hs d (List.mem_cons_of_mem c hd)

/-- Digits are compared with the words every now and then, which makes no difference if they denote
a word. -/
theorem readLoose_eq_ok {n count : Nat} {s : List Char} (hs : ∀ c ∈ s, c.isDigit)
    (hv : valueFrom n s < 2 ^ 256) : readLoose n count s = .ok (valueFrom n s) := by
  induction s generalizing n count with
  | nil =>
    unfold readLoose
    exact if_pos hv
  | cons c s ih =>
    have hc := hs c List.mem_cons_self
    have hrest : ∀ d ∈ s, d.isDigit := by
      intro d hd
      exact hs d (List.mem_cons_of_mem c hd)
    rw [valueFrom_cons] at hv ⊢
    have hle := le_valueFrom (10 * n + digitValue c) s
    unfold readLoose
    rw [if_neg]
    . rw [if_pos hc]
      dsimp only
      split
      . exact ih hrest hv
      . rw [if_pos (by omega)]
        exact ih hrest hv
    . intro heq
      rw [heq] at hc
      revert hc
      decide

theorem readUnsigned_ofNat {bits n : Nat} (hb : bits ≤ 256) (hn : n < 2 ^ bits) :
    readUnsigned bits (ofNat n) = .ok n := by
  have hdigits : ∀ c ∈ ofNat n, c.isDigit := fun c => isDigit_of_mem_ofNat
  have hpow : 2 ^ bits ≤ 2 ^ 256 := Nat.pow_le_pow_right (by decide) hb
  unfold readUnsigned
  rw [if_neg]
  . have hread {limit : Nat} {excess : ReadFault} (hl : n ≤ limit) :
        readDigits limit excess 0 (ofNat n) = .ok n := by
      rw [readDigits_eq_ok hdigits]
      . rw [valueFrom_ofNat]
      . rw [valueFrom_ofNat]
        exact hl
    rw [hread (by omega), hread (by omega)]
    dsimp only
    split
    . exact if_pos hn
    . exact if_pos hn
  . simpa [ofNat_ne_nil] using hdigits

theorem readNarrow_of_digits {bits : Nat} {s : List Char} (hne : s ≠ [])
    (hs : ∀ c ∈ s, c.isDigit) :
    readNarrow bits s = (readDigits (2 ^ (bits - 1) - 1) .tooLarge 0 s).map Int.ofNat := by
  unfold readNarrow
  split <;> simp_all

theorem readWide_of_digits {s : List Char} (hs : ∀ c ∈ s, c.isDigit) :
    readWide s = readLoose 0 0 s >>= withSign false := by
  unfold readWide
  split <;> simp_all

theorem readNarrow_minus {bits : Nat} {s : List Char} (hne : s ≠ []) :
    readNarrow bits ('-' :: s) =
      (readDigits (2 ^ (bits - 1)) .tooSmall 0 s).map fun n => -Int.ofNat n := by
  cases s with
  | nil => exact absurd rfl hne
  | cons c s => rfl

/-- The bounds of a signed type, for the magnitudes of its integers. -/
theorem fitsSigned_iff {bits : Nat} {i : Int} :
    fitsSigned bits i ↔
      match i with
      | .ofNat n => n < 2 ^ (bits - 1)
      | .negSucc n => n + 1 ≤ 2 ^ (bits - 1) := by
  have hp : ((2 ^ (bits - 1) : Nat) : Int) = (2 : Int) ^ (bits - 1) := Int.natCast_pow 2 (bits - 1)
  unfold fitsSigned
  rw [← hp]
  simp only [Bool.and_eq_true, decide_eq_true_eq]
  cases i with
  | ofNat n =>
    rw [Int.ofNat_eq_natCast]
    omega
  | negSucc n => omega

theorem readNarrow_ofInt {bits : Nat} {i : Int} (h : fitsSigned bits i) :
    readNarrow bits (ofInt i) = .ok i := by
  rw [fitsSigned_iff] at h
  cases i with
  | ofNat n =>
    dsimp only at h
    rw [ofInt, readNarrow_of_digits (ofNat_ne_nil n) fun c => isDigit_of_mem_ofNat]
    rw [readDigits_eq_ok fun c => isDigit_of_mem_ofNat]
    . rw [valueFrom_ofNat]
      rfl
    . rw [valueFrom_ofNat]
      omega
  | negSucc n =>
    dsimp only at h
    rw [ofInt, readNarrow_minus (ofNat_ne_nil _)]
    rw [readDigits_eq_ok fun c => isDigit_of_mem_ofNat]
    . rw [valueFrom_ofNat]
      rfl
    . rw [valueFrom_ofNat]
      omega

theorem readWide_ofInt {bits : Nat} {i : Int} (hb : bits ≤ 256) (h : fitsSigned bits i) :
    readWide (ofInt i) = .ok i := by
  have hpow : 2 ^ (bits - 1) ≤ 2 ^ 255 := Nat.pow_le_pow_right (by decide) (by omega)
  rw [fitsSigned_iff] at h
  cases i with
  | ofNat n =>
    dsimp only at h
    rw [ofInt, readWide_of_digits fun c => isDigit_of_mem_ofNat]
    rw [readLoose_eq_ok fun c => isDigit_of_mem_ofNat]
    . rw [valueFrom_ofNat]
      exact if_pos (by omega)
    . rw [valueFrom_ofNat]
      omega
  | negSucc n =>
    dsimp only at h
    rw [ofInt]
    show readLoose 0 0 (ofNat (n + 1)) >>= withSign true = _
    rw [readLoose_eq_ok fun c => isDigit_of_mem_ofNat]
    . rw [valueFrom_ofNat]
      exact if_pos (by omega)
    . rw [valueFrom_ofNat]
      omega

theorem readSigned_ofInt {bits : Nat} {i : Int} (hb : bits ≤ 256) (h : fitsSigned bits i) :
    readSigned bits (ofInt i) = .ok i := by
  unfold readSigned
  rw [readNarrow_ofInt h, readWide_ofInt hb h]
  dsimp only
  split
  . exact if_pos h
  . exact if_pos h

end Integer

end Registrar
