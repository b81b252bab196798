import Registrar.Proofs.Number

/-!
This module contains the proof of what becomes of a number that is given for an address. Only what is
written in hexadecimal notation is an address, and the notation of a number is decimal; but forty
decimal digits are digits of an address as well, so that a number that has as many of them is taken for
the address of another number.
-/

namespace Registrar

namespace Decimal

theorem digitValue_lt {c : Char} (hc : c.isDigit) : digitValue c < 10 := by
  have hle := (Char.isDigit_iff_toNat.1 hc).2
  have h9 : '9'.toNat = '0'.toNat + 9 := rfl
  unfold digitValue
  omega

theorem length_ofNat_iff {n : Nat} :
    (ofNat n).length = 40 ↔ 10 ^ 39 ≤ n ∧ n < 10 ^ 40 := by
  have h39 := Nat.length_toDigits_le_iff (b := 10) (n := n) (k := 39) (by decide) (by decide)
  have h40 := Nat.length_toDigits_le_iff (b := 10) (n := n) (k := 40) (by decide) (by decide)
  unfold ofNat
  omega

theorem ofDigitChars_eq (base : Nat) (s : List Char) (n : Nat) :
    Nat.ofDigitChars base s n = base ^ s.length * n + Nat.ofDigitChars base s 0 := by
  induction s generalizing n with
  | nil => simp [Nat.ofDigitChars]
  | cons c s ih =>
    rw [Nat.ofDigitChars_cons, Nat.ofDigitChars_cons, ih, ih (base * 0 + _), List.length_cons,
      Nat.mul_add, Nat.pow_succ, Nat.mul_assoc, Nat.mul_zero, Nat.zero_add, Nat.add_assoc]

theorem ofDigitChars_lt {base : Nat} {m n : Nat} (hbase : 0 < base) (h : m < n) (s : List Char) :
    Nat.ofDigitChars base s m < Nat.ofDigitChars base s n := by
  induction s generalizing m n with
  | nil => exact h
  | cons c s ih =>
    rw [Nat.ofDigitChars_cons, Nat.ofDigitChars_cons]
    apply ih
    have := Nat.mul_lt_mul_of_pos_left h hbase
    omega

theorem ofDigitChars_ten_le {m n : Nat} (h : m ≤ n) (s : List Char) :
    Nat.ofDigitChars 10 s m ≤ Nat.ofDigitChars 16 s n := by
  induction s generalizing m n with
  | nil => exact h
  | cons c s ih =>
    rw [Nat.ofDigitChars_cons, Nat.ofDigitChars_cons]
    apply ih
    omega

/-- Digits denote a greater number in hexadecimal notation, unless only the last one counts. -/
theorem ofDigitChars_ten_lt {s : List Char} (hs : ∀ c ∈ s, c.isDigit)
    (h : 10 ≤ Nat.ofDigitChars 10 s 0) :
    Nat.ofDigitChars 10 s 0 < Nat.ofDigitChars 16 s 0 := by
  induction s with
  | nil => simp [Nat.ofDigitChars] at h
  | cons c s ih =>
    rw [List.forall_mem_cons] at hs
    rw [Nat.ofDigitChars_cons] at h
    rw [Nat.ofDigitChars_cons, Nat.ofDigitChars_cons]
    rw [Nat.mul_zero, Nat.zero_add] at h ⊢
    cases hd : c.toNat - '0'.toNat with
    | zero =>
      rw [hd] at h
      exact ih hs.2 h
    | succ d =>
      have hlt := digitValue_lt hs.1
      rw [digitValue, hd] at hlt
      rw [hd] at h
      cases s with
      | nil =>
        rw [Nat.ofDigitChars_nil] at h
        omega
      | cons e s =>
        rw [Nat.ofDigitChars_cons, Nat.ofDigitChars_cons]
        calc
          Nat.ofDigitChars 10 s (10 * (d + 1) + (e.toNat - '0'.toNat))
            ≤ Nat.ofDigitChars 16 s (10 * (d + 1) + (e.toNat - '0'.toNat)) :=
              ofDigitChars_ten_le (Nat.le_refl _) s
          _ < Nat.ofDigitChars 16 s (16 * (d + 1) + (e.toNat - '0'.toNat)) :=
              ofDigitChars_lt (by decide) (by omega) s

end Decimal

namespace Hex

variable {s : List Char}

theorem valueOf?_of_isDigit {c : Char} (hc : c.isDigit) :
    valueOf? c = some (Decimal.digitValue c) := by
  rw [Char.isDigit_iff_toNat] at hc
  have h0 : '0'.toNat = 48 := rfl
  have h9 : '9'.toNat = 57 := rfl
  have hvalue : (UInt8.ofNat c.toNat).toNat = c.toNat := by
    rw [UInt8.toNat_ofNat']
    omega
  unfold valueOf? digitValue?
  rw [if_pos (by omega)]
  dsimp only
  rw [hvalue, if_pos (by omega), Decimal.digitValue, h0]

/-- An even number of decimal digits spells bytes, which are those of the number that the digits denote
in hexadecimal notation. -/
theorem exists_spells {s : List Char} {k : Nat} (hs : ∀ c ∈ s, c.isDigit) (hk : s.length = 2 * k) :
    ∃ b : Bytes, Spells s b ∧ b.length = k ∧ Bytes.toNat b = Nat.ofDigitChars 16 s 0 := by
  induction k generalizing s with
  | zero =>
    obtain rfl := List.length_eq_zero_iff.1 hk
    exact ⟨[], .nil, rfl, rfl⟩
  | succ k ih =>
    match s, hk with
    | high :: low :: s, hk =>
      simp only [List.forall_mem_cons] at hs
      obtain ⟨hhigh, hlow, hs⟩ := hs
      rw [List.length_cons, List.length_cons] at hk
      obtain ⟨b, hb, rfl, hvalue⟩ := ih hs (by omega)
      have hhigh' := Decimal.digitValue_lt hhigh
      have hlow' := Decimal.digitValue_lt hlow
      let x := UInt8.ofNat (16 * Decimal.digitValue high + Decimal.digitValue low)
      have hx : x.toNat = 16 * Decimal.digitValue high + Decimal.digitValue low := by
        rw [UInt8.toNat_ofNat']
        omega
      have hpow : 16 ^ s.length = 256 ^ b.length := by
        rw [show s.length = 2 * b.length by omega, Nat.pow_mul]
      refine ⟨x :: b, .cons ?_ ?_ hb, rfl, ?_⟩
      . rw [hx, valueOf?_of_isDigit hhigh]
        congr 1
        omega
      . rw [hx, valueOf?_of_isDigit hlow]
        congr 1
        omega
      . have hdigits : Nat.ofDigitChars 16 (high :: low :: s) 0 =
            Nat.ofDigitChars 16 s x.toNat := by
          rw [hx, Nat.ofDigitChars_cons, Nat.ofDigitChars_cons, Nat.mul_zero, Nat.zero_add]
          rfl
        rw [hdigits, Decimal.ofDigitChars_eq 16 s x.toNat, hpow, ← hvalue, Bytes.toNat,
          List.foldl_cons, Bytes.foldl_eq, Nat.zero_mul, Nat.zero_add, Nat.mul_comm]

theorem ofText_of_digits (hs : ∀ c ∈ s, c.isDigit) :
    Bytes.ofText s = s.map fun c => UInt8.ofNat c.toNat := by
  induction s with
  | nil => rfl
  | cons c s ih =>
    rw [List.forall_mem_cons] at hs
    have hc := utf8EncodeChar_of_digit (valueOf?_of_isDigit hs.1)
    have hrest := ih hs.2
    unfold Bytes.ofText at hrest ⊢
    rw [List.flatMap_cons, hc, hrest]
    rfl

theorem digitValue?_of_isDigit {c : Char} (hc : c.isDigit) :
    digitValue? (UInt8.ofNat c.toNat) = some (Decimal.digitValue c) :=
  digitValue?_of_digit (valueOf?_of_isDigit hc)

theorem dropMarker_of_digits (hs : ∀ c ∈ s, c.isDigit) :
    dropMarker (Bytes.ofText s) = Bytes.ofText s := by
  rw [ofText_of_digits hs]
  match s with
  | [] => rfl
  | [c] =>
    unfold dropMarker
    split <;> simp_all
  | c :: d :: s =>
    have hd := digitValue?_of_isDigit (hs d (by simp))
    exact dropMarker_cons_cons _ hd _

theorem decodeExact_digits_eq_ok {k : Nat} (hs : ∀ c ∈ s, c.isDigit) (hk : s.length = 2 * k) :
    ∃ b, decodeExact k (Bytes.ofText s) = .ok b ∧ b.length = k ∧
      Bytes.toNat b = Nat.ofDigitChars 16 s 0 := by
  obtain ⟨b, hb, rfl, hvalue⟩ := exists_spells hs hk
  refine ⟨b, ?_, rfl, hvalue⟩
  unfold decodeExact
  dsimp only
  rw [hb.dropMarker, hb.length_ofText, if_neg (by omega), if_neg (by simp)]
  exact hb.decodePairs 0

theorem decodeExact_digits_eq_error {k : Nat} (hs : ∀ c ∈ s, c.isDigit) (hk : s.length ≠ 2 * k) :
    ∃ fault, decodeExact k (Bytes.ofText s) = .error fault := by
  have hlength : (Bytes.ofText s).length = s.length := by
    rw [ofText_of_digits hs, List.length_map]
  unfold decodeExact
  dsimp only
  rw [dropMarker_of_digits hs, hlength, if_pos hk]
  split
  . exact ⟨_, rfl⟩
  . exact ⟨_, rfl⟩

/-- A sign is no digit. -/
theorem decodeExact_minus_eq_error (k : Nat) (hs : ∀ c ∈ s, c.isDigit) (hne : s ≠ []) :
    ∃ fault, decodeExact k (Bytes.ofText ('-' :: s)) = .error fault := by
  have htext : Bytes.ofText ('-' :: s) = 0x2d :: Bytes.ofText s := rfl
  rw [htext, ofText_of_digits hs]
  match s, hne with
  | d :: s, _ =>
    have hd := digitValue?_of_isDigit (hs d (by simp))
    unfold decodeExact
    dsimp only
    rw [List.map_cons, dropMarker_cons_cons _ hd]
    split
    . exact ⟨_, rfl⟩
    . split
      . exact ⟨_, rfl⟩
      . exact ⟨_, rfl⟩

end Hex

namespace Address

variable {s : List Char} {a : Address}

theorem toNat_ofBytes {b : Bytes} (hb : b.length = 20) :
    (ofBytes b).value.toNat = Bytes.toNat b := by
  have hlt := Bytes.toNat_lt b
  rw [hb] at hlt
  unfold ofBytes
  rw [BitVec.toNat_ofNat]
  exact Nat.mod_eq_of_lt hlt

theorem read_of_solid (hs : Text.Solid s) :
    read s = (Hex.decodeExact 20 (Bytes.ofText s)).map ofBytes := by
  unfold read
  rw [hs.trim_eq]

theorem isBlank_of_isDigit {c : Char} (hc : c.isDigit) : Text.isBlank c = false :=
  Hex.isBlank_of_digit (Hex.valueOf?_of_isDigit hc)

theorem solid_of_digits (hne : s ≠ []) (hs : ∀ c ∈ s, c.isDigit) : Text.Solid s :=
  Text.solid_of_forall hne fun c hc => isBlank_of_isDigit (hs c hc)

theorem read_digits_eq_ok (hs : ∀ c ∈ s, c.isDigit) (hlength : s.length = 40) :
    ∃ a, read s = .ok a ∧ a.value.toNat = Nat.ofDigitChars 16 s 0 := by
  have hne : s ≠ [] := List.ne_nil_of_length_eq_add_one hlength
  obtain ⟨b, hb, hlen, hvalue⟩ := Hex.decodeExact_digits_eq_ok (k := 20) hs hlength
  refine ⟨ofBytes b, ?_, ?_⟩
  . rw [read_of_solid (solid_of_digits hne hs), hb]
    rfl
  . rw [toNat_ofBytes hlen, hvalue]

theorem read_digits_eq_error (hne : s ≠ []) (hs : ∀ c ∈ s, c.isDigit) (hlength : s.length ≠ 40) :
    ∃ fault, read s = .error fault := by
  obtain ⟨fault, hfault⟩ := Hex.decodeExact_digits_eq_error (k := 20) hs hlength
  rw [read_of_solid (solid_of_digits hne hs), hfault]
  exact ⟨fault, rfl⟩

theorem read_minus_eq_error (hne : s ≠ []) (hs : ∀ c ∈ s, c.isDigit) :
    ∃ fault, read ('-' :: s) = .error fault := by
  obtain ⟨fault, hfault⟩ := Hex.decodeExact_minus_eq_error 20 hs hne
  have hsolid : Text.Solid ('-' :: s) := by
    apply Text.solid_of_forall (List.cons_ne_nil _ _)
    rw [List.forall_mem_cons]
    exact ⟨rfl, fun c hc => isBlank_of_isDigit (hs c hc)⟩
  rw [read_of_solid hsolid, hfault]
  exact ⟨fault, rfl⟩

/-- The forty digits of an integer are taken to be hexadecimal. -/
theorem read_ofInt_eq_ok {n : Int} (hn : 10 ^ 39 ≤ n ∧ n < 10 ^ 40) :
    ∃ a, read (Decimal.ofInt n) = .ok a ∧
      a.value.toNat = Nat.ofDigitChars 16 (Decimal.ofInt n) 0 := by
  cases n with
  | ofNat n =>
    apply read_digits_eq_ok fun c => Decimal.isDigit_of_mem_ofNat
    apply Decimal.length_ofNat_iff.2
    rw [Int.ofNat_eq_natCast] at hn
    omega
  | negSucc n => omega

theorem read_ofInt_eq_error {n : Int} (hn : ¬ (10 ^ 39 ≤ n ∧ n < 10 ^ 40)) :
    ∃ fault, read (Decimal.ofInt n) = .error fault := by
  cases n with
  | ofNat n =>
    apply read_digits_eq_error (Decimal.ofNat_ne_nil n) fun c => Decimal.isDigit_of_mem_ofNat
    intro hlength
    have h := Decimal.length_ofNat_iff.1 hlength
    rw [Int.ofNat_eq_natCast] at hn
    omega
  | negSucc n =>
    exact read_minus_eq_error (Decimal.ofNat_ne_nil _) fun c => Decimal.isDigit_of_mem_ofNat

end Address

namespace Value

variable {v : Value} {n : Int}

theorem ofText_address_number :
    ofText .address (Decimal.intText n) =
      ((Address.read (Decimal.ofInt n)).mapError .notHex).map .address := by
  unfold ofText Decimal.intText
  dsimp only
  rw [String.toList_ofList]

theorem lt_ofDigitChars_number (hn : 10 ^ 39 ≤ n) :
    n < Nat.ofDigitChars 16 (Decimal.ofInt n) 0 := by
  cases n with
  | ofNat n =>
    have hvalue : Nat.ofDigitChars 10 (Decimal.ofNat n) 0 = n := Decimal.valueFrom_ofNat n
    rw [Int.ofNat_eq_natCast] at hn
    have hlt : n < Nat.ofDigitChars 16 (Decimal.ofNat n) 0 := by
      have h := Decimal.ofDigitChars_ten_lt (s := Decimal.ofNat n)
        fun c => Decimal.isDigit_of_mem_ofNat
      rw [hvalue] at h
      exact h (by omega)
    exact Int.ofNat_lt.2 hlt
  | negSucc n => omega

/-- A number is no address. One that has not forty digits is refused; of one that has, the digits are
read as if they were hexadecimal, so that the address is that of a greater number. -/
theorem convert_address_number (hv : v.number? = some n) (components : List Param) :
    (¬ (10 ^ 39 ≤ n ∧ n < 10 ^ 40) → ∃ fault,
      convert .address v = .error (.parse v.text "address" (.notHex fault)) ∧
      encodeAs .address components v = .error (.parse v.text "address" (.notHex fault))) ∧
    (10 ^ 39 ≤ n ∧ n < 10 ^ 40 → ∃ a : Address,
      convert .address v = .ok (.address a) ∧ encodeAs .address components v = .ok (.address a) ∧
      a.value.toNat = Nat.ofDigitChars 16 (Decimal.ofInt n) 0 ∧ n < a.value.toNat) := by
  have hconvert := convert_number_eq hv .address
  rw [text_number hv, ofText_address_number, ← text_number hv] at hconvert
  constructor
  . intro hn
    obtain ⟨fault, hread⟩ := Address.read_ofInt_eq_error hn
    rw [hread] at hconvert
    refine ⟨fault, hconvert, ?_⟩
    rw [encodeAs, hconvert]
    rfl
  . intro hn
    obtain ⟨a, hread, hvalue⟩ := Address.read_ofInt_eq_ok hn
    rw [hread] at hconvert
    refine ⟨a, hconvert, ?_, hvalue, ?_⟩
    . rw [encodeAs, hconvert]
      rfl
    . rw [hvalue]
      exact lt_ofDigitChars_number hn.1

/-- Forty digits on the one hand, one more on the other. -/
theorem convert_address_number_bounds :
    let v := Value.int (BitVec.ofNat 256 (10 ^ 40 - 1))
    let w := Value.uint (BitVec.ofNat 256 (10 ^ 40))
    v.number? = some (10 ^ 40 - 1) ∧ w.number? = some (10 ^ 40) ∧
      (∃ a : Address, convert .address v = .ok (.address a) ∧ 10 ^ 40 - 1 < a.value.toNat) ∧
      ∃ fault, encodeAs .address [] w = .error (.parse w.text "address" (.notHex fault)) := by
  intro v w
  have hv : v.number? = some (10 ^ 40 - 1) := by decide +kernel
  have hw : w.number? = some (10 ^ 40) := by decide +kernel
  refine ⟨hv, hw, ?_, ?_⟩
  . obtain ⟨a, ha, -, -, hlt⟩ := (convert_address_number hv []).2 (by decide)
    exact ⟨a, ha, by omega⟩
  . obtain ⟨fault, -, h⟩ := (convert_address_number hw []).1 (by decide)
    exact ⟨fault, h⟩

/-- Ten to the thirty-nine becomes the address whose number is sixteen to the thirty-nine. -/
theorem convert_address_number_power :
    let v := Value.uint (BitVec.ofNat 256 (10 ^ 39))
    let a : Address := ⟨BitVec.ofNat 160 (16 ^ 39)⟩
    v.number? = some (10 ^ 39) ∧ convert .address v = .ok (.address a) ∧
      encodeAs .address [] v = .ok (.address a) ∧ (a.value.toNat : Int) ≠ 10 ^ 39 := by
  intro v a
  have hconvert : convert .address v = .ok (.address a) := rfl
  refine ⟨by decide +kernel, hconvert, ?_, by decide +kernel⟩
  rw [encodeAs, hconvert]
  rfl

end Value

end Registrar
