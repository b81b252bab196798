import Registrar.Proofs.Literal

/-!
This module contains the proof that a number is converted to an integer kind exactly or not at all: it
becomes the same integer if it lies in the range of the kind, whatever the signs and widths, and is
refused otherwise. Decimal notation comes first, then the words that hold the integers, then the
conversion and the status that is read with it.
-/

namespace Registrar

namespace Decimal

theorem isNumeral_ofNat (n : Nat) : IsNumeral (ofNat n) n where
  ne_nil := ofNat_ne_nil n
  digits _ := isDigit_of_mem_ofNat
  value := valueFrom_ofNat n

theorem isLooseNumeral_ofNat_iff {n m : Nat} : IsLooseNumeral (ofNat n) m ↔ m = n := by
  constructor
  . intro h
    exact h.value.symm.trans (isNumeral_ofNat n).loose.value
  . rintro rfl
    exact (isNumeral_ofNat m).loose

theorem ofNat_ne_cons {c : Char} (hc : ¬ c.isDigit) (n : Nat) (s : List Char) :
    ofNat n ≠ c :: s := by
  intro h
  apply hc
  apply isDigit_of_mem_ofNat (n := n)
  rw [h]
  exact List.mem_cons_self

/-- The notation of an integer denotes no other integer. -/
theorem signed_ofInt_iff {n i : Int} : Signed IsLooseNumeral (ofInt n) i ↔ i = n := by
  cases n with
  | ofNat n =>
    have hplus := ofNat_ne_cons (c := '+') (by decide) n
    have hminus := ofNat_ne_cons (c := '-') (by decide) n
    rw [ofInt, signed_plain_iff hplus hminus]
    simp [isLooseNumeral_ofNat_iff]
  | negSucc n =>
    rw [ofInt, signed_minus_iff (not_isLooseNumeral_cons (by decide) _)]
    simp [isLooseNumeral_ofNat_iff, Int.negSucc_eq]

end Decimal

namespace Integer

open Decimal

variable {bits : Nat} {n : Int}

theorem fitsSigned_eq_true_iff :
    fitsSigned bits n ↔ -2 ^ (bits - 1) ≤ n ∧ n < 2 ^ (bits - 1) := by
  simp only [fitsSigned, Bool.and_eq_true, decide_eq_true_eq]

theorem readSigned_ofInt_eq_ok_iff (hb : bits ≤ 256) {i : Int} :
    readSigned bits (ofInt n) = .ok i ↔ i = n ∧ fitsSigned bits n := by
  constructor
  . intro h
    obtain ⟨hsigned, hfits⟩ := (readSigned_eq_ok_iff hb).1 h
    have hloose : Signed IsLooseNumeral (ofInt n) i := by
      cases hsigned with
      | inl h => exact h.mono fun _ _ => IsNumeral.loose
      | inr h => exact h.2
    obtain rfl := signed_ofInt_iff.1 hloose
    exact ⟨rfl, hfits⟩
  . rintro ⟨rfl, hfits⟩
    exact readSigned_ofInt hb hfits

theorem readUnsigned_ofInt_eq_ok_iff (hb : bits ≤ 256) {m : Nat} :
    readUnsigned bits (ofInt n) = .ok m ↔ (m : Int) = n ∧ m < 2 ^ bits := by
  rw [readUnsigned_eq_ok_iff hb]
  cases n with
  | ofNat n =>
    have hvalue : IsNumeral (ofNat n) m ↔ m = n := by
      constructor
      . intro h
        exact isLooseNumeral_ofNat_iff.1 h.loose
      . rintro rfl
        exact isNumeral_ofNat m
    rw [ofInt, hvalue, Int.ofNat_eq_natCast, Int.natCast_inj]
  | negSucc n =>
    have hsign : ¬ IsNumeral ('-' :: ofNat (n + 1)) m := not_isNumeral_cons (by decide) _ _
    rw [ofInt]
    simp [hsign]

theorem toInt_ofInt_eq (hb : bits ≤ 256) (h : fitsSigned bits n) :
    (BitVec.ofInt 256 n).toInt = n := by
  obtain ⟨hle, hlt⟩ := fitsSigned_eq_true_iff.1 (fitsSigned_mono hb h)
  exact BitVec.toInt_ofInt_eq_self (by decide) hle hlt

theorem toNat_ofNat_eq (hb : bits ≤ 256) {m : Nat} (h : m < 2 ^ bits) :
    (BitVec.ofNat 256 m).toNat = m := by
  have hpow : 2 ^ bits ≤ 2 ^ 256 := Nat.pow_le_pow_right (by decide) hb
  rw [BitVec.toNat_ofNat]
  exact Nat.mod_eq_of_lt (Nat.lt_of_lt_of_le h hpow)

end Integer

namespace Kind

/-- Whether a kind is one of integers, with a width that integers can have. -/
def isInteger : Kind → Bool
  | .int bits => isWidth bits
  | .uint bits => isWidth bits
  | _ => false

/-- Whether an integer lies in the range of a kind. -/
def spans : Kind → Int → Prop
  | .int bits, n => -2 ^ (bits - 1) ≤ n ∧ n < 2 ^ (bits - 1)
  | .uint bits, n => 0 ≤ n ∧ n < 2 ^ bits
  | _, _ => False

instance : (kind : Kind) → (n : Int) → Decidable (kind.spans n)
  | .int bits, n => inferInstanceAs (Decidable (-2 ^ (bits - 1) ≤ n ∧ n < 2 ^ (bits - 1)))
  | .uint bits, n => inferInstanceAs (Decidable (0 ≤ n ∧ n < 2 ^ bits))
  | .bool, _ | .string, _ | .address, _ => inferInstanceAs (Decidable False)

end Kind

namespace Value

open Decimal

variable {v : Value} {n : Int}

/-- The integer that a number is, of whichever sort. -/
def number? : Value → Option Int
  | .int w => some w.toInt
  | .uint w => some w.toNat
  | _ => none

/-- The integer that a value is for an integer kind, if it is of the sort that the kind has. -/
def numberOf? : Kind → Value → Option Int
  | .int _, .int w => some w.toInt
  | .uint _, .uint w => some w.toNat
  | _, _ => none

theorem text_number (hv : v.number? = some n) : v.text = intText n := by
  cases v with
  | int w =>
    cases hv
    rfl
  | uint w =>
    cases hv
    rfl
  | _ => cases hv

theorem convert_number_eq (hv : v.number? = some n) (kind : Kind) :
    convert kind v = (ofText kind v.text).mapError (.parse v.text kind.name) := by
  cases v with
  | int w => rfl
  | uint w => rfl
  | _ => cases hv

/-- Each integer in the range of a kind is held by some word. -/
theorem exists_numberOf?_eq {kind : Kind} (hk : kind.isInteger) (hn : kind.spans n) :
    ∃ u : Value, u.numberOf? kind = some n := by
  cases kind with
  | int bits =>
    refine ⟨.int (BitVec.ofInt 256 n), congrArg some ?_⟩
    exact Integer.toInt_ofInt_eq (le_of_isWidth hk) (Integer.fitsSigned_eq_true_iff.2 hn)
  | uint bits =>
    obtain ⟨hle, hlt⟩ := hn
    obtain ⟨m, rfl⟩ := Int.eq_ofNat_of_zero_le hle
    refine ⟨.uint (BitVec.ofNat 256 m), congrArg (some ∘ Int.ofNat) ?_⟩
    exact Integer.toNat_ofNat_eq (le_of_isWidth hk) (by exact_mod_cast hlt)
  | _ => cases hk

/-- The notation of an integer is read as that integer, by every kind in whose range it lies. -/
theorem ofText_number_eq_ok_iff {kind : Kind} {u : Value} (hk : kind.isInteger) :
    ofText kind (intText n) = .ok u ↔ kind.spans n ∧ u.numberOf? kind = some n := by
  cases kind with
  | int bits =>
    unfold ofText
    rw [map_eq_ok_iff, intText, String.toList_ofList]
    simp only [Integer.readSigned_ofInt_eq_ok_iff (le_of_isWidth hk)]
    constructor
    . rintro ⟨i, ⟨rfl, hfits⟩, rfl⟩
      refine ⟨Integer.fitsSigned_eq_true_iff.1 hfits, congrArg some ?_⟩
      exact Integer.toInt_ofInt_eq (le_of_isWidth hk) hfits
    . rintro ⟨hn, hu⟩
      cases u with
      | int w =>
        cases hu
        refine ⟨w.toInt, ⟨rfl, Integer.fitsSigned_eq_true_iff.2 hn⟩, ?_⟩
        rw [BitVec.ofInt_toInt]
      | _ => cases hu
  | uint bits =>
    unfold ofText
    rw [map_eq_ok_iff, intText, String.toList_ofList]
    simp only [Integer.readUnsigned_ofInt_eq_ok_iff (le_of_isWidth hk)]
    constructor
    . rintro ⟨m, ⟨rfl, hlt⟩, rfl⟩
      refine ⟨⟨Int.natCast_nonneg m, by exact_mod_cast hlt⟩, congrArg (some ∘ Int.ofNat) ?_⟩
      exact Integer.toNat_ofNat_eq (le_of_isWidth hk) hlt
    . rintro ⟨⟨-, hlt⟩, hu⟩
      cases u with
      | uint w =>
        cases hu
        refine ⟨w.toNat, ⟨rfl, by exact_mod_cast hlt⟩, ?_⟩
        rw [BitVec.ofNat_toNat, BitVec.setWidth_eq]
      | _ => cases hu
  | _ => cases hk

theorem convert_number_eq_ok_iff {kind : Kind} {u : Value} (hv : v.number? = some n)
    (hk : kind.isInteger) :
    convert kind v = .ok u ↔ kind.spans n ∧ u.numberOf? kind = some n := by
  rw [convert_number_eq hv, mapError_eq_ok_iff, text_number hv]
  exact ofText_number_eq_ok_iff hk

theorem convert_number_eq_error {kind : Kind} (hv : v.number? = some n) (hk : kind.isInteger)
    (hn : ¬ kind.spans n) :
    ∃ fault, convert kind v = .error (.parse v.text kind.name fault) := by
  have heq := convert_number_eq hv kind
  cases hread : ofText kind v.text with
  | ok u =>
    rw [hread] at heq
    exact absurd ((convert_number_eq_ok_iff hv hk).1 heq).1 hn
  | error fault =>
    rw [hread] at heq
    exact ⟨fault, heq⟩

theorem narrow_eq_ok {w : Word} (h : convert (.int 64) v = .ok (.int w)) :
    narrow w = .ok w.toInt :=
  if_pos (fitsSigned_of_convert h)

theorem toInt64_eq_ok {w : Word} (h : convert (.int 64) v = .ok (.int w)) :
    toInt64 v = .ok w.toInt := by
  unfold toInt64
  rw [h]
  exact narrow_eq_ok h

theorem toInt64_eq_error {e : ConversionError} (h : convert (.int 64) v = .error e) :
    toInt64 v = .error e := by
  unfold toInt64
  rw [h]
  rfl

/-- A number becomes the same integer where it lies in the range of the kind, and is refused otherwise.
A status is a number that is narrowed to 64 bits after it has been converted; it is refused only if it
is not converted. -/
theorem convert_number {kind : Kind} (hv : v.number? = some n) (hk : kind.isInteger) :
    (kind.spans n → ∃ u, convert kind v = .ok u ∧ u.numberOf? kind = some n) ∧
    (¬ kind.spans n → ∃ fault, convert kind v = .error (.parse v.text kind.name fault)) ∧
    (-2 ^ 63 ≤ n ∧ n < 2 ^ 63 → toInt64 v = .ok n) ∧
    (¬ (-2 ^ 63 ≤ n ∧ n < 2 ^ 63) →
      ∃ e, convert (.int 64) v = .error e ∧ toInt64 v = .error e) := by
  have hstatus : (Kind.int 64).isInteger := by decide
  refine ⟨?_, convert_number_eq_error hv hk, ?_, ?_⟩
  . intro hn
    obtain ⟨u, hu⟩ := exists_numberOf?_eq hk hn
    exact ⟨u, (convert_number_eq_ok_iff hv hk).2 ⟨hn, hu⟩, hu⟩
  . intro hn
    obtain ⟨u, hu⟩ := exists_numberOf?_eq hstatus hn
    have hconvert := (convert_number_eq_ok_iff hv hstatus).2 ⟨hn, hu⟩
    cases u with
    | int w =>
      cases hu
      exact toInt64_eq_ok hconvert
    | _ => cases hu
  . intro hn
    obtain ⟨fault, h⟩ := convert_number_eq_error hv hstatus hn
    exact ⟨_, h, toInt64_eq_error h⟩

/-- The least signed integer of a word, which no narrower kind and no unsigned one has. -/
theorem convert_number_least :
    let v := Value.int (BitVec.intMin 256)
    v.number? = some (-2 ^ 255) ∧
      (∃ u, convert (.int 256) v = .ok u ∧ u.numberOf? (.int 256) = some (-2 ^ 255)) ∧
      (∃ fault, convert (.uint 256) v = .error (.parse v.text "uint256" fault)) ∧
      ∃ e, convert (.int 64) v = .error e ∧ toInt64 v = .error e := by
  intro v
  have hv : v.number? = some (-2 ^ 255) := by decide
  have hint : (Kind.int 256).isInteger := by decide
  have huint : (Kind.uint 256).isInteger := by decide
  refine ⟨hv, ?_, ?_, ?_⟩
  . exact (convert_number hv hint).1 (by decide)
  . exact (convert_number hv huint).2.1 (by decide)
  . exact (convert_number hv hint).2.2.2 (by decide)

end Value

end Registrar
