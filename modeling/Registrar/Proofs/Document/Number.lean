import Mathlib.Algebra.Field.Rat
import Registrar.Proofs.Document.Numeral
import Registrar.Proofs.Number
import Registrar.Value.Document

/-!
This module contains the proof that a number in a document is never taken for an integer that it is
only close to. An integer of 64 bits is kept exactly; whatever else is written becomes a floating
point number, whose text holds a point or the letter of an exponent, and no integer kind reads these.
-/

namespace Registrar.Json

namespace Literal

/-- The exponent of a number, zero if it is missing. -/
def power (l : Literal) : Int :=
  match l.exponent with
  | none => 0
  | some (false, digits) => Decimal.value digits
  | some (true, digits) => -Decimal.value digits

/-- The integer that is written without a point and an exponent. -/
def integer (l : Literal) : Int :=
  if l.negative then -Decimal.value l.whole else Decimal.value l.whole

/-- The number that is written. -/
def value (l : Literal) : ℚ :=
  let magnitude : ℚ := Decimal.value (l.whole ++ l.fraction) * 10 ^ (l.power - l.fraction.length)
  if l.negative then -magnitude else magnitude

end Literal

namespace Number

/-- What is no integer of 64 bits: floating point numbers, and what is beyond them. -/
inductive Inexact : Number → Prop
  | double (x : Double) : Inexact (.double x)
  | beyond : Inexact .beyond

theorem inexact_ofParts (negative : Bool) (significand : Nat) (e : Int) :
    Inexact (ofParts negative significand e) := by
  unfold ofParts
  split
  . exact .double _
  . exact .beyond

theorem inexact_withExponent (negative : Bool) (significand : Nat) (e : Int)
    (exponent : Option (Bool × List Char)) :
    Inexact (withExponent negative significand e exponent) := by
  unfold withExponent
  split
  . exact inexact_ofParts _ _ _
  . dsimp only
    split
    . split
      . exact .beyond
      . exact .double _
    . exact inexact_ofParts _ _ _

section Fill

open Decimal (valueFrom)

theorem fill_of_lt {n : Nat} {s : List Char} (h : valueFrom n s < 2 ^ 64) :
    fill n s = (valueFrom n s, []) := by
  induction s generalizing n with
  | nil => rfl
  | cons c s ih =>
    rw [Decimal.valueFrom_cons] at h ⊢
    have hle := Decimal.le_valueFrom (10 * n + Decimal.digitValue c) s
    unfold fill
    dsimp only
    rw [if_pos (Nat.lt_of_le_of_lt hle h)]
    exact ih h

/-- Where no digits are left over, the number has 64 bits. -/
theorem lt_of_fill {n m : Nat} {s : List Char} (hn : n < 2 ^ 64) (h : fill n s = (m, [])) :
    valueFrom n s < 2 ^ 64 := by
  induction s generalizing n with
  | nil => exact hn
  | cons c s ih =>
    unfold fill at h
    dsimp only at h
    split at h
    . next hlt => exact ih hlt h
    . cases h

theorem exists_fill_of_le {s : List Char} (h : 2 ^ 64 ≤ Decimal.value s) :
    ∃ m c left, fill 0 s = (m, c :: left) := by
  cases hfill : fill 0 s with
  | mk m left =>
    cases left with
    | nil => exact absurd (lt_of_fill (by decide) hfill) (Nat.not_lt.2 h)
    | cons c left => exact ⟨m, c, left, rfl⟩

end Fill

/-- The integer that is kept exactly, if it is one. -/
def integer? : Number → Option Int
  | .unsigned n => some n.toNat
  | .negative i => some i.toInt
  | _ => none

theorem integer?_eq_none_iff {n : Number} : n.integer? = none ↔ n.Inexact := by
  constructor
  . intro h
    cases n with
    | unsigned n => cases h
    | negative i => cases h
    | double x => exact .double x
    | beyond => exact .beyond
  . rintro (x | _)
    . rfl
    . rfl

section Literal

variable {l : Literal}

theorem inexact_ofLiteral
    (h : l.hasFraction ∨ l.exponent ≠ none ∨ 2 ^ 64 ≤ Decimal.value l.whole) :
    (ofLiteral l).Inexact := by
  unfold ofLiteral
  dsimp only
  split
  . exact inexact_withExponent _ _ _ _
  . next hf =>
    rw [if_pos]
    . exact inexact_withExponent _ _ _ _
    . rw [Bool.or_eq_true]
      rcases h with h | h | h
      . exact absurd h hf
      . exact .inl (Option.isSome_iff_ne_none.2 h)
      . obtain ⟨m, c, left, hfill⟩ := exists_fill_of_le h
        rw [hfill]
        exact .inr rfl

theorem ofLiteral_of_lt (hf : l.hasFraction = false) (he : l.exponent = none)
    (hlt : Decimal.value l.whole < 2 ^ 64) :
    ofLiteral l =
      if !l.negative then .unsigned (UInt64.ofNat (Decimal.value l.whole))
      else if Decimal.value l.whole = 0 ∨ Decimal.value l.whole > 2 ^ 63 then
        ofParts true (Decimal.value l.whole) 0
      else .negative (Int64.ofInt (-(Decimal.value l.whole : Int))) := by
  unfold ofLiteral
  rw [fill_of_lt hlt, hf, he]
  rfl

/-- A number written without a point and an exponent is kept exactly if it is an integer of 64 bits,
signed or not, and not the negative zero. Nothing else is kept as an integer. -/
theorem integer?_ofLiteral_eq_some_iff {i : Int} :
    (ofLiteral l).integer? = some i ↔
      l.hasFraction = false ∧ l.exponent = none ∧ i = l.integer ∧ -2 ^ 63 ≤ i ∧ i < 2 ^ 64 ∧
        (l.negative → i ≠ 0) := by
  by_cases hinexact : l.hasFraction ∨ l.exponent ≠ none ∨ 2 ^ 64 ≤ Decimal.value l.whole
  . rw [integer?_eq_none_iff.2 (inexact_ofLiteral hinexact)]
    constructor
    . intro h
      cases h
    . rintro ⟨hf, he, rfl, hle, hlt, -⟩
      rw [hf, he] at hinexact
      have hvalue : 2 ^ 64 ≤ Decimal.value l.whole := by simpa using hinexact
      unfold Literal.integer at hle hlt
      cases hneg : l.negative with
      | false =>
        rw [hneg, if_neg (by decide)] at hlt
        omega
      | true =>
        rw [hneg, if_pos rfl] at hle
        omega
  . rw [not_or, not_or, Bool.not_eq_true, not_not, Nat.not_le] at hinexact
    obtain ⟨hf, he, hlt⟩ := hinexact
    rw [ofLiteral_of_lt hf he hlt]
    unfold Literal.integer
    cases l.negative with
    | false =>
      have hn : (UInt64.ofNat (Decimal.value l.whole)).toNat = Decimal.value l.whole :=
        UInt64.toNat_ofNat_of_lt' hlt
      simp only [Bool.not_false, if_true, integer?, Bool.false_eq_true, if_false,
        Option.some.injEq, hn, hf, he, true_and, false_implies, and_true]
      omega
    | true =>
      simp only [Bool.not_true, Bool.false_eq_true, if_false, if_true, hf, he, true_and,
        true_implies]
      split
      . next hzero =>
        rw [integer?_eq_none_iff.2 (inexact_ofParts _ _ _)]
        simp only [reduceCtorEq, false_iff]
        omega
      . next hzero =>
        have hi : (Int64.ofInt (-(Decimal.value l.whole : Int))).toInt = -Decimal.value l.whole :=
          Int64.toInt_ofInt_of_le (by omega) (by omega)
        simp only [integer?, Option.some.injEq, hi]
        omega

end Literal

end Number

end Registrar.Json

namespace Registrar

/-- Whether a text holds a point or the letter of an exponent. -/
def IsFloating (s : List Char) : Prop :=
  '.' ∈ s ∨ 'e' ∈ s

namespace Double

theorem isFloating_layout (digits : List Char) (e : Int) : IsFloating (layout digits e) := by
  unfold layout
  dsimp only
  split
  . exact .inl (by simp)
  . split
    . exact .inl (by simp)
    . exact .inr (by simp)

theorem isFloating_signed {s : List Char} (h : IsFloating s) (negative : Bool) :
    IsFloating (if negative then '-' :: s else s) := by
  cases negative with
  | false => exact h
  | true => exact h.imp (List.mem_cons_of_mem '-') (List.mem_cons_of_mem '-')

theorem isFloating_text (x : Double) : IsFloating x.text.toList := by
  unfold text
  rw [String.toList_ofList]
  apply isFloating_signed
  split
  . exact .inl (by simp)
  . exact isFloating_layout _ _

end Double

open Json (Number Literal)

theorem Json.Number.Inexact.isFloating_text {n : Number} (h : n.Inexact) :
    IsFloating n.text.toList := by
  cases h with
  | double x => exact x.isFloating_text
  | beyond => exact .inr (by decide)

namespace Value

open Decimal

theorem not_isNumeral_of_isFloating {s : List Char} (h : IsFloating s) (n : Nat) :
    ¬ IsLooseNumeral s n := by
  intro hs
  cases h with
  | inl h => exact absurd (hs.digits _ h) (by decide)
  | inr h => exact absurd (hs.digits _ h) (by decide)

theorem isFloating_of_cons {c : Char} {s : List Char} (hpoint : '.' ≠ c) (he : 'e' ≠ c)
    (h : IsFloating (c :: s)) : IsFloating s :=
  h.imp (List.mem_of_ne_of_mem hpoint) (List.mem_of_ne_of_mem he)

theorem not_signed_of_isFloating {s : List Char} (h : IsFloating s) (i : Int) :
    ¬ Signed IsLooseNumeral s i := by
  intro hs
  cases hs with
  | plain hs => exact not_isNumeral_of_isFloating h _ hs
  | plus hs =>
    exact not_isNumeral_of_isFloating (isFloating_of_cons (by decide) (by decide) h) _ hs
  | minus hs =>
    exact not_isNumeral_of_isFloating (isFloating_of_cons (by decide) (by decide) h) _ hs

/-- No integer kind reads a text with a point or the letter of an exponent in it. -/
theorem convert_isFloating_ne_ok {kind : Kind} (hk : kind.isInteger) {text : String}
    (h : IsFloating text.toList) (v : Value) : convert kind (.string text) ≠ .ok v := by
  rw [convert_text, Ne, mapError_eq_ok_iff]
  cases kind with
  | int bits =>
    rw [ofText_int_eq_ok_iff hk]
    rintro ⟨i, ⟨hi, -⟩, -⟩
    apply not_signed_of_isFloating h i
    cases hi with
    | inl hi => exact hi.mono fun _ _ => IsNumeral.loose
    | inr hi => exact hi.2
  | uint bits =>
    rw [ofText_uint_eq_ok_iff hk]
    rintro ⟨n, hn, -⟩
    exact not_isNumeral_of_isFloating h n hn.loose
  | _ => cases hk

theorem number?_ofNumber {n : Number} {i : Int} (h : n.integer? = some i) :
    (ofNumber n).number? = some i := by
  cases n with
  | unsigned n =>
    cases h
    have hn : (BitVec.ofNat 256 n.toNat).toNat = n.toNat := by
      rw [BitVec.toNat_ofNat]
      exact Nat.mod_eq_of_lt (Nat.lt_trans n.toNat_lt (by decide))
    exact congrArg (some ∘ Int.ofNat) hn
  | negative n =>
    cases h
    have hle := n.le_toInt
    have hlt := n.toInt_lt
    exact congrArg some (BitVec.toInt_ofInt_eq_self (by decide) (by omega) (by omega))
  | double x => cases h
  | beyond => cases h

theorem ofNumber_of_inexact {n : Number} (h : n.Inexact) : ofNumber n = .string n.text := by
  cases h with
  | double x => rfl
  | beyond => rfl

/-- A number of a document is converted to an integer kind if and only if it is an integer that is
kept exactly and the kind spans it. -/
theorem convert_ofNumber_eq_ok_iff {kind : Kind} (hk : kind.isInteger) {n : Number} {v : Value} :
    convert kind (ofNumber n) = .ok v ↔
      ∃ i, n.integer? = some i ∧ kind.spans i ∧ v.numberOf? kind = some i := by
  cases h : n.integer? with
  | some i =>
    rw [convert_number_eq_ok_iff (number?_ofNumber h) hk]
    simp
  | none =>
    rw [Number.integer?_eq_none_iff] at h
    have hne := convert_isFloating_ne_ok hk h.isFloating_text v
    rw [ofNumber_of_inexact h]
    simp [hne]

end Value

namespace Json

variable {l : Literal} {s : List Char}

theorem readNormal_of_spells (h : l.Spells s) {j : Json} :
    readNormal (String.ofList s) = .ok j ↔
      Number.ofLiteral l ≠ .beyond ∧ j = .number (.ofLiteral l) := by
  unfold readNormal
  rw [read_of_spells h]
  cases Number.ofLiteral l with
  | beyond =>
    simp [normalize, normalizeWithin, bind, Except.bind, throw, throwThe, MonadExceptOf.throw]
  | _ => simp [normalize, normalizeWithin, bind, Except.bind, pure, Except.pure, eq_comm]

theorem Literal.fraction_eq_nil (h : l.Spells s) (hf : l.hasFraction = false) :
    l.fraction = [] := by
  cases h with
  | positive _ h =>
    cases h with
    | whole => rfl
    | fraction => cases hf
  | negative _ h =>
    cases h with
    | whole => rfl
    | fraction => cases hf

theorem Literal.value_eq_integer (h : l.Spells s) (hf : l.hasFraction = false)
    (he : l.exponent = none) : l.value = l.integer := by
  unfold value integer power
  rw [fraction_eq_nil h hf, he]
  cases l.negative with
  | false => simp
  | true => simp

end Json

namespace Value

open Json (readNormal)

/-- Whatever number is written in a document, it is converted to an integer kind as the very number
that is written or not at all. An integer of 64 bits, signed or not, is converted to every kind that
spans it, unless it is the negative zero. -/
theorem convert_literal {l : Literal} {s : List Char} (h : l.Spells s) {kind : Kind}
    (hk : kind.isInteger) :
    (∀ j v, readNormal (String.ofList s) = .ok j → convert kind (ofJson j) = .ok v →
      ∃ i : Int, v.numberOf? kind = some i ∧ (i : ℚ) = l.value) ∧
    (l.hasFraction = false → l.exponent = none →
      ∀ i : Int, (i : ℚ) = l.value → -2 ^ 63 ≤ i → i < 2 ^ 64 → (l.negative → i ≠ 0) →
        ∃ j, readNormal (String.ofList s) = .ok j ∧
          (kind.spans i → ∃ v, convert kind (ofJson j) = .ok v ∧ v.numberOf? kind = some i)) := by
  constructor
  . intro j v hj hv
    obtain ⟨-, rfl⟩ := (Json.readNormal_of_spells h).1 hj
    obtain ⟨i, hi, -, hvalue⟩ := (convert_ofNumber_eq_ok_iff hk).1 hv
    obtain ⟨hf, he, rfl, -⟩ := Number.integer?_ofLiteral_eq_some_iff.1 hi
    exact ⟨_, hvalue, (Literal.value_eq_integer h hf he).symm⟩
  . intro hf he i hvalue hle hlt hzero
    rw [Literal.value_eq_integer h hf he, Rat.intCast_inj] at hvalue
    have hi := Number.integer?_ofLiteral_eq_some_iff.2 ⟨hf, he, hvalue, hle, hlt, hzero⟩
    refine ⟨.number (.ofLiteral l), ?_, ?_⟩
    . rw [Json.readNormal_of_spells h]
      refine ⟨?_, rfl⟩
      intro hbeyond
      rw [hbeyond] at hi
      cases hi
    . intro hspans
      obtain ⟨v, hv⟩ := exists_numberOf?_eq hk hspans
      exact ⟨v, (convert_ofNumber_eq_ok_iff hk).2 ⟨i, hi, hspans, hv⟩, hv⟩

/-- The least integer of 64 bits, and the least width that spans it. -/
theorem convert_literal_least :
    let l : Literal := { negative := true, whole := "9223372036854775808".toList }
    l.Spells "-9223372036854775808".toList ∧ l.value = (-2 ^ 63 : Int) ∧
      ∃ j v, readNormal "-9223372036854775808" = .ok j ∧
        convert (.int 64) (ofJson j) = .ok v ∧ v.numberOf? (.int 64) = some (-2 ^ 63) ∧
        ∃ i : Int, v.numberOf? (.int 64) = some i ∧ (i : ℚ) = l.value := by
  intro l
  have hdigits := List.all_eq_true.1 (by decide : "9223372036854775808".toList.all Char.isDigit)
  have hl : l.Spells "-9223372036854775808".toList :=
    .negative rfl (.whole (t := []) ⟨⟨by decide, hdigits⟩, by simp⟩ .none)
  have hvalue : l.value = (-2 ^ 63 : Int) := Literal.value_eq_integer hl rfl rfl
  have hk : (Kind.int 64).isInteger := by decide
  obtain ⟨hexact, hkept⟩ := convert_literal hl hk
  obtain ⟨j, hj, hconvert⟩ := hkept rfl rfl (-2 ^ 63) hvalue.symm (by decide) (by decide)
    (fun _ => by decide)
  obtain ⟨v, hv, hn⟩ := hconvert (by decide)
  exact ⟨hl, hvalue, j, v, hj, hv, hn, hexact j v hj hv⟩

end Value

end Registrar
