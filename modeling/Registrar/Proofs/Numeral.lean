import Registrar.Proofs.Fitting

/-!
This module contains the proof that a text is read as an integer of a type if and only if it denotes
one that lies in the type, and that it is read as that integer. For an unsigned type the text has
nothing but digits; for a signed type there may be one sign before them. The signed widths with the
loose notation read some more texts, which are told apart.
-/

namespace Registrar

namespace Decimal

/-- The digits denote the number. -/
structure IsNumeral (s : List Char) (n : Nat) : Prop where
  ne_nil : s ≠ []
  digits : ∀ c ∈ s, c.isDigit
  value : Nat.ofDigitChars 10 s 0 = n

/-- Without the underscores in the text, the digits denote the number; no digits denote zero. -/
structure IsLooseNumeral (s : List Char) (n : Nat) : Prop where
  digits : ∀ c ∈ s, c = '_' ∨ c.isDigit
  value : Nat.ofDigitChars 10 (s.filter (· ≠ '_')) 0 = n

/-- The text denotes the integer by its magnitude, with at most one sign in front. -/
inductive Signed (P : List Char → Nat → Prop) : List Char → Int → Prop where
  | plain {s : List Char} {n : Nat} (h : P s n) : Signed P s n
  | plus {s : List Char} {n : Nat} (h : P s n) : Signed P ('+' :: s) n
  | minus {s : List Char} {n : Nat} (h : P s n) : Signed P ('-' :: s) (-n)

theorem Signed.mono {P Q : List Char → Nat → Prop} {s : List Char} {i : Int} (h : Signed P s i)
    (hPQ : ∀ s n, P s n → Q s n) : Signed Q s i := by
  cases h with
  | plain h => exact .plain (hPQ _ _ h)
  | plus h => exact .plus (hPQ _ _ h)
  | minus h => exact .minus (hPQ _ _ h)

theorem signed_plus_iff {P : List Char → Nat → Prop} {s : List Char} {i : Int}
    (hP : ∀ n, ¬ P ('+' :: s) n) : Signed P ('+' :: s) i ↔ ∃ n : Nat, P s n ∧ i = n := by
  constructor
  . intro h
    cases h with
    | plain h => exact absurd h (hP _)
    | plus h => exact ⟨_, h, rfl⟩
  . rintro ⟨n, h, rfl⟩
    exact .plus h

theorem signed_minus_iff {P : List Char → Nat → Prop} {s : List Char} {i : Int}
    (hP : ∀ n, ¬ P ('-' :: s) n) : Signed P ('-' :: s) i ↔ ∃ n : Nat, P s n ∧ i = -n := by
  constructor
  . intro h
    cases h with
    | plain h => exact absurd h (hP _)
    | minus h => exact ⟨_, h, rfl⟩
  . rintro ⟨n, h, rfl⟩
    exact .minus h

theorem signed_plain_iff {P : List Char → Nat → Prop} {s : List Char} {i : Int}
    (hplus : ∀ r, s ≠ '+' :: r) (hminus : ∀ r, s ≠ '-' :: r) :
    Signed P s i ↔ ∃ n : Nat, P s n ∧ i = n := by
  constructor
  . intro h
    cases h with
    | plain h => exact ⟨_, h, rfl⟩
    | plus h => exact absurd rfl (hplus _)
    | minus h => exact absurd rfl (hminus _)
  . rintro ⟨n, h, rfl⟩
    exact .plain h

theorem not_isNumeral_cons {c : Char} (hc : ¬ c.isDigit) (s : List Char) (n : Nat) :
    ¬ IsNumeral (c :: s) n :=
  fun h => hc (h.digits c List.mem_cons_self)

theorem not_isLooseNumeral_cons {c : Char} (hc : ¬ (c = '_' ∨ c.isDigit)) (s : List Char)
    (n : Nat) : ¬ IsLooseNumeral (c :: s) n :=
  fun h => hc (h.digits c List.mem_cons_self)

theorem IsNumeral.loose {s : List Char} {n : Nat} (h : IsNumeral s n) : IsLooseNumeral s n where
  digits c hc := .inr (h.digits c hc)
  value := by
    rw [List.filter_eq_self.2]
    . exact h.value
    . intro c hc
      have hdigit := h.digits c hc
      rw [decide_eq_true_eq]
      rintro rfl
      revert hdigit
      decide

end Decimal

namespace Integer

open Decimal

variable {bits : Nat} {text : List Char}

theorem readDigits_eq_ok_iff {limit n m : Nat} {excess : ReadFault} {s : List Char}
    (hn : n ≤ limit) :
    readDigits limit excess n s = .ok m ↔
      (∀ c ∈ s, c.isDigit) ∧ valueFrom n s = m ∧ m ≤ limit := by
  constructor
  . intro h
    induction s generalizing n with
    | nil =>
      cases h
      simp [valueFrom, hn]
    | cons c s ih =>
      unfold readDigits at h
      split at h
      . next hc =>
        dsimp only at h
        split at h
        . next hle =>
          obtain ⟨hs, hv, hm⟩ := ih hle h
          refine ⟨?_, hv, hm⟩
          rw [List.forall_mem_cons]
          exact ⟨hc, hs⟩
        . cases h
      . cases h
  . rintro ⟨hs, rfl, hm⟩
    exact readDigits_eq_ok hs hm

/-- Digits are compared with the words every now and then. A number that is no word stays one that is
none, so that this says no more than the comparison at the end. -/
theorem readLoose_eq_ok_iff {n count m : Nat} {s : List Char} :
    readLoose n count s = .ok m ↔
      (∀ c ∈ s, c = '_' ∨ c.isDigit) ∧ valueFrom n (s.filter (· ≠ '_')) = m ∧ m < 2 ^ 256 := by
  induction s generalizing n count with
  | nil =>
    unfold readLoose
    simp only [List.not_mem_nil, false_implies, implies_true, true_and, List.filter_nil]
    constructor
    . intro h
      split at h
      . next hn =>
        cases h
        exact ⟨rfl, hn⟩
      . cases h
    . rintro ⟨rfl, hn⟩
      exact if_pos hn
  | cons c s ih =>
    unfold readLoose
    rw [List.forall_mem_cons]
    by_cases hunderscore : c = '_'
    . rw [if_pos hunderscore, ih, List.filter_cons_of_neg (by simp [hunderscore])]
      simp [hunderscore]
    . rw [if_neg hunderscore, List.filter_cons_of_pos (by simp [hunderscore]), valueFrom_cons]
      by_cases hdigit : c.isDigit
      . rw [if_pos hdigit]
        dsimp only
        have hle := le_valueFrom (10 * n + digitValue c) (s.filter (· ≠ '_'))
        have hhead : c = '_' ∨ c.isDigit := .inr hdigit
        split
        . rw [ih]
          simp [hdigit]
        . split
          . rw [ih]
            simp [hdigit]
          . constructor
            . intro h
              cases h
            . rintro ⟨-, rfl, hm⟩
              omega
      . rw [if_neg hdigit]
        simp [hunderscore, hdigit]

theorem readUnsigned_eq_ok_iff {n : Nat} (hb : bits ≤ 256) :
    readUnsigned bits text = .ok n ↔ IsNumeral text n ∧ n < 2 ^ bits := by
  have hpow : 2 ^ bits ≤ 2 ^ 256 := Nat.pow_le_pow_right (by decide) hb
  constructor
  . intro h
    refine ⟨?_, lt_of_readUnsigned h⟩
    unfold readUnsigned at h
    dsimp only at h
    split at h
    . cases h
    . next htext =>
      have hread {limit : Nat} {excess : ReadFault}
          (h : (do
            let n ← readDigits limit excess 0 text
            if n < 2 ^ bits then .ok n else .error (.outOfRange (.uint bits))) = .ok n) :
          value text = n := by
        obtain ⟨m, hm, h⟩ := bind_eq_ok_iff.1 h
        split at h
        . cases h
          exact ((readDigits_eq_ok_iff (Nat.zero_le _)).1 hm).2.1
        . cases h
      simp only [Bool.or_eq_true, List.isEmpty_iff, Bool.not_eq_true', not_or] at htext
      refine ⟨htext.1, ?_, ?_⟩
      . simpa using htext.2
      . split at h
        . exact hread h
        . exact hread h
  . rintro ⟨⟨hne, hdigits, hvalue⟩, hn⟩
    unfold readUnsigned
    rw [if_neg (by simpa [hne] using hdigits)]
    have hread {limit : Nat} {excess : ReadFault} (hl : n ≤ limit) :
        readDigits limit excess 0 text = .ok n :=
      (readDigits_eq_ok_iff (Nat.zero_le _)).2 ⟨hdigits, hvalue, hl⟩
    rw [hread (by omega), hread (by omega)]
    dsimp only
    split
    . exact if_pos hn
    . exact if_pos hn

theorem fitsSigned_natCast_iff {n : Nat} : fitsSigned bits n ↔ n < 2 ^ (bits - 1) :=
  fitsSigned_iff (i := .ofNat n)

theorem fitsSigned_neg_iff {n : Nat} : fitsSigned bits (-n) ↔ n ≤ 2 ^ (bits - 1) := by
  cases n with
  | zero =>
    have hpos : 0 < 2 ^ (bits - 1) := Nat.two_pow_pos _
    rw [show -((0 : Nat) : Int) = (0 : Nat) from rfl, fitsSigned_natCast_iff]
    omega
  | succ n => exact fitsSigned_iff (i := .negSucc n)

theorem map_readDigits_eq_ok_iff {limit : Nat} {excess : ReadFault} {s : List Char} {f : Nat → Int}
    {i : Int} (hne : s ≠ []) :
    (readDigits limit excess 0 s).map f = .ok i ↔ ∃ n, IsNumeral s n ∧ n ≤ limit ∧ i = f n := by
  constructor
  . intro h
    obtain ⟨n, hn, rfl⟩ := Value.exists_of_map_eq_ok h
    obtain ⟨hs, hv, hle⟩ := (readDigits_eq_ok_iff (Nat.zero_le _)).1 hn
    exact ⟨n, ⟨hne, hs, hv⟩, hle, rfl⟩
  . rintro ⟨n, ⟨-, hs, hv⟩, hle, rfl⟩
    rw [(readDigits_eq_ok_iff (Nat.zero_le _)).2 ⟨hs, hv, hle⟩]
    rfl

theorem readLoose_bind_eq_ok_iff {negative : Bool} {s : List Char} {i : Int} :
    readLoose 0 0 s >>= withSign negative = .ok i ↔
      ∃ n : Nat, IsLooseNumeral s n ∧ i = (if negative then -(n : Int) else n) ∧
        fitsSigned 256 i := by
  rw [bind_eq_ok_iff]
  simp only [readLoose_eq_ok_iff]
  constructor
  . rintro ⟨n, ⟨hs, hv, -⟩, h⟩
    refine ⟨n, ⟨hs, hv⟩, ?_⟩
    unfold withSign at h
    split at h
    . next hneg =>
      split at h
      . next hn =>
        cases h
        rw [if_pos hneg]
        exact ⟨rfl, fitsSigned_neg_iff.2 hn⟩
      . cases h
    . next hneg =>
      split at h
      . next hn =>
        cases h
        rw [if_neg hneg]
        exact ⟨rfl, fitsSigned_natCast_iff.2 hn⟩
      . cases h
  . rintro ⟨n, ⟨hs, hv⟩, rfl, hfits⟩
    unfold withSign
    split at hfits
    . next hneg =>
      have hn := fitsSigned_neg_iff.1 hfits
      rw [show 256 - 1 = 255 from rfl] at hn
      refine ⟨n, ⟨hs, hv, by omega⟩, ?_⟩
      rw [if_pos hneg, if_pos hneg, if_pos hn]
      rfl
    . next hneg =>
      have hn := fitsSigned_natCast_iff.1 hfits
      rw [show 256 - 1 = 255 from rfl] at hn
      refine ⟨n, ⟨hs, hv, by omega⟩, ?_⟩
      rw [if_neg hneg, if_neg hneg, if_pos hn]
      rfl

theorem readNarrow_eq_ok_iff {i : Int} :
    readNarrow bits text = .ok i ↔ Signed IsNumeral text i ∧ fitsSigned bits i := by
  have hplus (s : List Char) (n : Nat) : ¬ IsNumeral ('+' :: s) n :=
    not_isNumeral_cons (by decide) s n
  have hminus (s : List Char) (n : Nat) : ¬ IsNumeral ('-' :: s) n :=
    not_isNumeral_cons (by decide) s n
  have hempty (n : Nat) : ¬ IsNumeral [] n := fun h => h.ne_nil rfl
  have hnatural {s : List Char} (hne : s ≠ []) :
      (readDigits (2 ^ (bits - 1) - 1) .tooLarge 0 s).map Int.ofNat = .ok i ↔
        (∃ n : Nat, IsNumeral s n ∧ i = n) ∧ fitsSigned bits i := by
    have hpos : 0 < 2 ^ (bits - 1) := Nat.two_pow_pos _
    rw [map_readDigits_eq_ok_iff hne]
    constructor
    . rintro ⟨n, hn, hle, rfl⟩
      exact ⟨⟨n, hn, rfl⟩, fitsSigned_natCast_iff.2 (by omega)⟩
    . rintro ⟨⟨n, hn, rfl⟩, hfits⟩
      have hlt := fitsSigned_natCast_iff.1 hfits
      exact ⟨n, hn, by omega, rfl⟩
  unfold readNarrow
  split
  . rw [signed_plain_iff (by simp) (by simp)]
    simp [hempty]
  . rw [signed_plus_iff (hplus _)]
    simp [hempty]
  . rw [signed_minus_iff (hminus _)]
    simp [hempty]
  . next r hne =>
    rw [signed_plus_iff (hplus _)]
    exact hnatural fun h => hne (by rw [h])
  . next r hne =>
    rw [signed_minus_iff (hminus _), map_readDigits_eq_ok_iff fun h => hne (by rw [h])]
    constructor
    . rintro ⟨n, hn, hle, rfl⟩
      exact ⟨⟨n, hn, rfl⟩, fitsSigned_neg_iff.2 hle⟩
    . rintro ⟨⟨n, hn, rfl⟩, hfits⟩
      exact ⟨n, hn, fitsSigned_neg_iff.1 hfits, rfl⟩
  . next hne _ _ hp hm =>
    rw [signed_plain_iff hp hm]
    exact hnatural hne

theorem readWide_eq_ok_iff {i : Int} :
    readWide text = .ok i ↔ Signed IsLooseNumeral text i ∧ fitsSigned 256 i := by
  have hmagnitude {negative : Bool} {s : List Char} :
      readLoose 0 0 s >>= withSign negative = .ok i ↔
        (∃ n : Nat, IsLooseNumeral s n ∧ i = if negative then -(n : Int) else n) ∧
          fitsSigned 256 i := by
    rw [readLoose_bind_eq_ok_iff]
    simp only [← and_assoc, exists_and_right]
  unfold readWide
  split
  . rw [signed_plus_iff (not_isLooseNumeral_cons (by decide) _)]
    exact hmagnitude
  . rw [signed_minus_iff (not_isLooseNumeral_cons (by decide) _)]
    exact hmagnitude
  . next hp hm =>
    rw [signed_plain_iff hp hm]
    exact hmagnitude

/-- Every width reads the integers in decimal notation that lie within it; those with the loose
notation also read the others that are in it. -/
theorem readSigned_eq_ok_iff {i : Int} (hb : bits ≤ 256) :
    readSigned bits text = .ok i ↔
      (Signed IsNumeral text i ∨ ¬ isNarrow bits ∧ Signed IsLooseNumeral text i) ∧
        fitsSigned bits i := by
  have hloose : Signed IsNumeral text i → Signed IsLooseNumeral text i :=
    fun h => h.mono fun _ _ => IsNumeral.loose
  have hchecked {x : Except ReadFault Int} :
      (do let i ← x; if fitsSigned bits i then .ok i else .error (.outOfRange (.int bits))) =
          .ok i ↔ x = .ok i ∧ fitsSigned bits i := by
    rw [bind_eq_ok_iff]
    constructor
    . rintro ⟨j, hj, h⟩
      split at h
      . next hfits =>
        cases h
        exact ⟨hj, hfits⟩
      . cases h
    . rintro ⟨hx, hfits⟩
      exact ⟨i, hx, if_pos hfits⟩
  unfold readSigned
  dsimp only
  split
  . next hn =>
    rw [hchecked, readNarrow_eq_ok_iff]
    simp [hn]
  . next hn =>
    rw [hchecked, readWide_eq_ok_iff]
    constructor
    . rintro ⟨⟨hi, -⟩, hfits⟩
      exact ⟨.inr ⟨hn, hi⟩, hfits⟩
    . rintro ⟨hi, hfits⟩
      refine ⟨⟨?_, fitsSigned_mono hb hfits⟩, hfits⟩
      cases hi with
      | inl hi => exact hloose hi
      | inr hi => exact hi.2

end Integer

namespace Value

open Decimal

variable {bits : Nat}

theorem le_of_isWidth (hb : Kind.isWidth bits) : bits ≤ 256 := by
  simp only [Kind.isWidth, Bool.and_eq_true, decide_eq_true_eq] at hb
  exact hb.2

theorem convert_text (kind : Kind) (text : String) :
    convert kind (.string text) = (ofText kind text).mapError (.parse text kind.name) := by
  rfl

theorem mapError_eq_ok_iff {ε δ α : Type} {x : Except ε α} {f : ε → δ} {a : α} :
    x.mapError f = .ok a ↔ x = .ok a := by
  cases x with
  | error e => simp [Except.mapError]
  | ok b => simp [Except.mapError]

theorem map_eq_ok_iff {ε α β : Type} {x : Except ε α} {f : α → β} {b : β} :
    x.map f = .ok b ↔ ∃ a, x = .ok a ∧ b = f a := by
  cases x with
  | error e => simp [Except.map]
  | ok a => simp [Except.map, eq_comm]

theorem ofText_uint_eq_ok_iff {text : String} {v : Value} (hb : Kind.isWidth bits) :
    ofText (.uint bits) text = .ok v ↔
      ∃ n, IsNumeral text.toList n ∧ n < 2 ^ bits ∧ v = .uint (BitVec.ofNat 256 n) := by
  unfold ofText
  rw [map_eq_ok_iff]
  simp only [Integer.readUnsigned_eq_ok_iff (le_of_isWidth hb), and_assoc]

/-- A text is converted to an unsigned integer if and only if it has digits only, at least one of
them, and denotes a number of the width; the integer is that number. Otherwise it is reported that
the text cannot be read. -/
theorem convert_uint_text (text : String) (hb : Kind.isWidth bits) :
    (∀ v, convert (.uint bits) (.string text) = .ok v ↔
      ∃ n, IsNumeral text.toList n ∧ n < 2 ^ bits ∧ ∃ w : Word, v = .uint w ∧ w.toNat = n) ∧
    ∀ e, convert (.uint bits) (.string text) = .error e →
      ∃ fault, e = .parse text (Kind.uint bits).name fault := by
  have hpow : 2 ^ bits ≤ 2 ^ 256 := Nat.pow_le_pow_right (by decide) (le_of_isWidth hb)
  rw [convert_text]
  constructor
  . intro v
    rw [mapError_eq_ok_iff, ofText_uint_eq_ok_iff hb]
    constructor
    . rintro ⟨n, hn, hlt, rfl⟩
      refine ⟨n, hn, hlt, _, rfl, ?_⟩
      rw [BitVec.toNat_ofNat]
      exact Nat.mod_eq_of_lt (Nat.lt_of_lt_of_le hlt hpow)
    . rintro ⟨n, hn, hlt, w, rfl, rfl⟩
      refine ⟨w.toNat, hn, hlt, ?_⟩
      rw [BitVec.ofNat_toNat, BitVec.setWidth_eq]
  . intro e h
    cases hread : ofText (.uint bits) text with
    | ok v =>
      rw [hread] at h
      cases h
    | error fault =>
      rw [hread] at h
      cases h
      exact ⟨fault, rfl⟩

/-- Zeroes in front change nothing, also where the number is the last one of its width, and the next
one is refused instead of wrapping around. -/
theorem convert_uint_text_padded :
    convert (.uint 24) (.string "00016777215") = .ok (.uint 16777215) ∧
      ∃ fault, convert (.uint 24) (.string "16777216") =
        .error (.parse "16777216" "uint24" fault) := by
  constructor
  . have hdigits := List.all_eq_true.1 (by decide : "00016777215".toList.all Char.isDigit)
    refine ((convert_uint_text "00016777215" (by decide)).1 _).2 ?_
    exact ⟨16777215, ⟨by decide, hdigits, by decide⟩, by decide, _, rfl, by decide⟩
  . cases h : convert (.uint 24) (.string "16777216") with
    | ok v =>
      obtain ⟨n, hn, hlt, -⟩ := ((convert_uint_text "16777216" (by decide)).1 v).1 h
      have hvalue : 16777216 = n := hn.value
      omega
    | error e =>
      obtain ⟨fault, rfl⟩ := (convert_uint_text "16777216" (by decide)).2 e h
      exact ⟨fault, rfl⟩

theorem ofText_int_eq_ok_iff {text : String} {v : Value} (hb : Kind.isWidth bits) :
    ofText (.int bits) text = .ok v ↔
      ∃ i, ((Signed IsNumeral text.toList i ∨
          ¬ Integer.isNarrow bits ∧ Signed IsLooseNumeral text.toList i) ∧
        Integer.fitsSigned bits i) ∧ v = .int (BitVec.ofInt 256 i) := by
  unfold ofText
  rw [map_eq_ok_iff]
  simp only [Integer.readSigned_eq_ok_iff (le_of_isWidth hb)]

/-- A text with at most one sign and nothing but digits behind it is converted to a signed integer if
and only if it denotes one of the width; the integer is that one. The widths 8, 16, 32 and 64 convert
no other text. Every other width also converts a text that has underscores among its digits, or no
digits. -/
theorem convert_int_text (text : String) (hb : Kind.isWidth bits) (v : Value) :
    convert (.int bits) (.string text) = .ok v ↔
      ∃ i : Int, (Signed IsNumeral text.toList i ∨
          ¬ Integer.isNarrow bits ∧ Signed IsLooseNumeral text.toList i) ∧
        -2 ^ (bits - 1) ≤ i ∧ i < 2 ^ (bits - 1) ∧ ∃ w : Word, v = .int w ∧ w.toInt = i := by
  rw [convert_text, mapError_eq_ok_iff, ofText_int_eq_ok_iff hb]
  have hfits_iff (i : Int) :
      Integer.fitsSigned bits i ↔ -2 ^ (bits - 1) ≤ i ∧ i < 2 ^ (bits - 1) := by
    simp only [Integer.fitsSigned, Bool.and_eq_true, decide_eq_true_eq]
  constructor
  . rintro ⟨i, ⟨hi, hfits⟩, rfl⟩
    obtain ⟨hle, hlt⟩ := (hfits_iff i).1 hfits
    obtain ⟨hword, hword'⟩ := (Bool.and_eq_true _ _).mp
      (Integer.fitsSigned_mono (le_of_isWidth hb) hfits)
    refine ⟨i, hi, hle, hlt, _, rfl, ?_⟩
    exact BitVec.toInt_ofInt_eq_self (by decide) (of_decide_eq_true hword)
      (of_decide_eq_true hword')
  . rintro ⟨i, hi, hle, hlt, w, rfl, rfl⟩
    refine ⟨w.toInt, ⟨hi, (hfits_iff _).2 ⟨hle, hlt⟩⟩, ?_⟩
    rw [BitVec.ofInt_toInt]

theorem convert_int_text_least :
    convert (.int 24) (.string "-08388608") = .ok (.int (-8388608)) := by
  have hdigits := List.all_eq_true.1 (by decide : "08388608".toList.all Char.isDigit)
  refine (convert_int_text "-08388608" (by decide) _).2 ?_
  exact ⟨-8388608, .inl (.minus ⟨by decide, hdigits, by decide⟩), by decide, by decide, _, rfl,
    by decide⟩

/-- An underscore is no digit, and the width 64 refuses it, but the width 128 does not. -/
theorem convert_int_text_underscore :
    (¬ ∃ i, Signed IsNumeral "1_000".toList i) ∧
      convert (.int 128) (.string "1_000") = .ok (.int 1000) ∧
      convert (.int 64) (.string "1_000") = .error (.parse "1_000" "int64" .badDigit) := by
  refine ⟨?_, rfl, rfl⟩
  rintro ⟨i, h⟩
  rw [show "1_000".toList = ['1', '_', '0', '0', '0'] from rfl,
    signed_plain_iff (by simp) (by simp)] at h
  obtain ⟨n, hn, -⟩ := h
  exact absurd (hn.digits '_' (by simp)) (by decide)

end Value

end Registrar
