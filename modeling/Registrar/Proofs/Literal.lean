import Registrar.Proofs.Nesting
import Registrar.Proofs.Numeral

/-!
This module contains the proof that what is shown of a value can be written in its place: the text of
an elementary value that a contract returned is encoded, for the same type, as the very value it was
decoded from. Hexadecimal notation comes first, with digits of either case, then addresses, whose
letters are upper-case where a hash says so.
-/

namespace Registrar

namespace Hex

/-- The text has two digits of either case for each of the bytes. -/
inductive Spells : List Char → Bytes → Prop where
  | nil : Spells [] []
  | cons {high low : Char} {s : List Char} {x : UInt8} {b : Bytes}
      (hhigh : valueOf? high = some (x.toNat / 16)) (hlow : valueOf? low = some (x.toNat % 16))
      (h : Spells s b) : Spells (high :: low :: s) (x :: b)

theorem lt_of_valueOf? {c : Char} {n : Nat} (h : valueOf? c = some n) : c.toNat < 128 := by
  unfold valueOf? at h
  split at h
  . assumption
  . cases h

/-- What holds of the characters that digits are among holds of every digit. -/
theorem forall_digit {P : Char → Prop} (hP : ∀ k < 128, P (Char.ofNat k)) {c : Char} {n : Nat}
    (h : valueOf? c = some n) : P c := by
  have := hP c.toNat (lt_of_valueOf? h)
  rwa [Char.ofNat_toNat] at this

theorem utf8EncodeChar_of_digit {c : Char} {n : Nat} (h : valueOf? c = some n) :
    String.utf8EncodeChar c = [UInt8.ofNat c.toNat] := by
  apply forall_digit _ h
  decide

theorem digitValue?_of_digit {c : Char} {n : Nat} (h : valueOf? c = some n) :
    digitValue? (UInt8.ofNat c.toNat) = some n := by
  unfold valueOf? at h
  rwa [if_pos (lt_of_valueOf? h)] at h

theorem valueOf?_toUpper {c : Char} {n : Nat} (h : valueOf? c = some n) :
    valueOf? c.toUpper = some n := by
  rw [← h]
  apply forall_digit (P := fun c => valueOf? c.toUpper = valueOf? c) _ h
  decide

theorem isBlank_of_digit {c : Char} {n : Nat} (h : valueOf? c = some n) :
    Text.isBlank c = false := by
  have hblank : valueOf? c = none ∨ Text.isBlank c = false := by
    apply forall_digit _ h
    decide
  simpa [h] using hblank

theorem valueOf?_digit {n : Nat} (h : n < 16) : valueOf? (digit n) = some n := by
  revert n
  decide

theorem dropMarker_cons_cons {y : UInt8} {n : Nat} (x : UInt8) (hy : digitValue? y = some n)
    (b : Bytes) : dropMarker (x :: y :: b) = x :: y :: b := by
  unfold dropMarker
  split
  . next heq =>
    injection heq with _ heq
    injection heq with heq
    rw [heq] at hy
    cases hy
  . next heq =>
    injection heq with _ heq
    injection heq with heq
    rw [heq] at hy
    cases hy
  . rfl

theorem spells_digits (b : Bytes) : Spells (digits b) b := by
  induction b with
  | nil => exact .nil
  | cons x b ih =>
    have hx := x.toNat_lt
    exact .cons (valueOf?_digit (by omega)) (valueOf?_digit (by omega)) ih

namespace Spells

variable {s : List Char} {b : Bytes}

theorem ofText_cons {high low : Char} {x y : Nat} (hhigh : valueOf? high = some x)
    (hlow : valueOf? low = some y) (s : List Char) :
    Bytes.ofText (high :: low :: s) =
      UInt8.ofNat high.toNat :: UInt8.ofNat low.toNat :: Bytes.ofText s := by
  unfold Bytes.ofText
  rw [List.flatMap_cons, List.flatMap_cons, utf8EncodeChar_of_digit hhigh,
    utf8EncodeChar_of_digit hlow]
  rfl

theorem length_ofText (h : Spells s b) : (Bytes.ofText s).length = 2 * b.length := by
  induction h with
  | nil => rfl
  | cons hhigh hlow h ih =>
    rw [ofText_cons hhigh hlow, List.length_cons, List.length_cons, List.length_cons, ih]
    omega

theorem decodePairs (h : Spells s b) (position : Nat) :
    Hex.decodePairs position (Bytes.ofText s) = .ok b := by
  induction h generalizing position with
  | nil => rfl
  | @cons _ _ _ x _ hhigh hlow h ih =>
    rw [ofText_cons hhigh hlow, Hex.decodePairs, digitValue?_of_digit hhigh,
      digitValue?_of_digit hlow]
    dsimp only
    rw [ih]
    show Except.ok (UInt8.ofNat (16 * (x.toNat / 16) + x.toNat % 16) :: _) = _
    rw [Nat.div_add_mod, UInt8.ofNat_toNat]

/-- Digits do not begin with a marker, since no marker consists of digits. -/
theorem dropMarker (h : Spells s b) : Hex.dropMarker (Bytes.ofText s) = Bytes.ofText s := by
  cases h with
  | nil => rfl
  | cons hhigh hlow h =>
    rw [ofText_cons hhigh hlow]
    exact dropMarker_cons_cons _ (digitValue?_of_digit hlow) _

theorem decode (h : Spells s b) : Hex.decode (Bytes.ofText s) = .ok b := by
  unfold Hex.decode
  dsimp only
  rw [h.dropMarker, h.length_ofText, if_neg (by omega)]
  exact h.decodePairs 0

theorem decodeExact (h : Spells s b) :
    Hex.decodeExact b.length (Bytes.ofText ('0' :: 'x' :: s)) = .ok b := by
  have hmarker : Hex.dropMarker (Bytes.ofText ('0' :: 'x' :: s)) = Bytes.ofText s := rfl
  unfold Hex.decodeExact
  dsimp only
  rw [hmarker, h.length_ofText, if_neg (by omega), if_neg (by simp)]
  exact h.decodePairs 0

theorem isBlank_eq_false (h : Spells s b) : ∀ c ∈ s, Text.isBlank c = false := by
  induction h with
  | nil => nofun
  | cons hhigh hlow h ih =>
    rw [List.forall_mem_cons, List.forall_mem_cons]
    exact ⟨isBlank_of_digit hhigh, isBlank_of_digit hlow, ih⟩

theorem checksum (h : Spells s b) (nibbles : List Nat) :
    Spells (Address.checksum s nibbles) b := by
  have hcase {c : Char} {n k : Nat} (h : valueOf? c = some n) :
      valueOf? (if k ≥ 8 then c.toUpper else c) = some n := by
    split
    . exact valueOf?_toUpper h
    . exact h
  induction h generalizing nibbles with
  | nil =>
    cases nibbles with
    | nil => exact .nil
    | cons k nibbles => exact .nil
  | cons hhigh hlow h ih =>
    match nibbles with
    | [] => exact .cons hhigh hlow h
    | [k] => exact .cons (hcase hhigh) hlow h
    | k :: l :: nibbles => exact .cons (hcase hhigh) (hcase hlow) (ih nibbles)

end Spells

end Hex

theorem Text.solid_of_forall {s : List Char} (hne : s ≠ [])
    (hs : ∀ c ∈ s, Text.isBlank c = false) : Text.Solid s where
  first := by
    cases s with
    | nil => exact absurd rfl hne
    | cons c r => exact ⟨c, r, rfl, hs c List.mem_cons_self⟩
  last :=
    ⟨s.dropLast, s.getLast hne, (List.dropLast_concat_getLast hne).symm,
      hs _ (List.getLast_mem hne)⟩

namespace Address

theorem ofBytes_bytes (a : Address) : ofBytes a.bytes = a := by
  have ha : a.value.toNat < 256 ^ 20 := a.value.isLt
  unfold ofBytes bytes
  rw [Bytes.toNat_ofNat, Nat.mod_eq_of_lt ha, BitVec.ofNat_toNat, BitVec.setWidth_eq]

theorem read_text (a : Address) : read a.text.toList = .ok a := by
  have hspells (nibbles : List Nat) : Hex.Spells (checksum (Hex.digits a.bytes) nibbles) a.bytes :=
    (Hex.spells_digits a.bytes).checksum nibbles
  unfold text read
  dsimp only
  rw [String.toList_ofList, Text.Solid.trim_eq, ← Bytes.length_ofNat 20 a.value.toNat]
  . rw [← bytes, (hspells _).decodeExact]
    show Except.ok (ofBytes a.bytes) = _
    rw [ofBytes_bytes]
  . apply Text.solid_of_forall (List.cons_ne_nil _ _)
    rw [List.forall_mem_cons, List.forall_mem_cons]
    exact ⟨rfl, rfl, (hspells _).isBlank_eq_false⟩

end Address

namespace AbiType

/-- Whether a type is one of data without parts of other types. -/
def isElementary : AbiType → Bool
  | .array _ => false
  | .fixedArray _ _ => false
  | .tuple _ => false
  | t => t.isData

end AbiType

namespace Value

/-- A value converted through its text is converted as its text is. -/
theorem convert_text_eq {kind : Kind} {v : Value} (h : v.sourceText? kind = some v.text) :
    convert kind (.string v.text) = convert kind v := by
  show (ofText kind v.text).mapError _ = _
  unfold convert
  rw [h]

theorem toBytes_text (b : Bytes) : toBytes (.string (Value.bytes b).text) = .ok b := by
  show toBytes (.string (Hex.encodeMarked b)) = _
  have hmarker : Text.stripStart? "0x".toList (Hex.encodeMarked b).toList =
      some (Hex.digits b) := by
    rw [Hex.encodeMarked, String.toList_ofList]
    simp [Text.stripStart?]
  unfold toBytes
  dsimp only
  rw [hmarker]
  dsimp only
  rw [(Hex.spells_digits b).decode]
  rfl

theorem convert_address_text (a : Address) :
    convert .address (.string (Value.address a).text) = .ok (.address a) := by
  rw [text, convert_text, mapError_eq_ok_iff]
  unfold ofText
  dsimp only
  rw [Address.read_text]
  rfl

/-- The text of what a contract returned for an elementary type is encoded for that type as what was
returned. -/
theorem encodeAs_text_ofAbi (v : AbiValue) (t : AbiType) (components : List Param)
    (ht : t.isElementary) (hv : v.hasType t) :
    encodeAs t components (.string (ofAbi components v).text) = .ok v := by
  -- a value whose form is not that of the type is not of the type
  cases t with
  | bool =>
    cases v with
    | bool b =>
      rw [ofAbi, encodeAs, convert_text_eq, convert_bool]
      . rfl
      . rfl
    | _ => simp [AbiValue.hasType] at hv
  | int bits =>
    cases v with
    | int w n =>
      simp only [AbiType.isElementary, AbiValue.hasType, AbiType.isData, Bool.and_eq_true,
        decide_eq_true_eq] at hv ht
      rw [ofAbi, encodeAs, convert_text_eq, convert_int ht.2 hv.2, hv.1]
      . rfl
      . rfl
    | _ => simp [AbiValue.hasType] at hv
  | uint bits =>
    cases v with
    | uint w n =>
      simp only [AbiType.isElementary, AbiValue.hasType, AbiType.isData, Bool.and_eq_true,
        decide_eq_true_eq] at hv ht
      rw [ofAbi, encodeAs, convert_text_eq, convert_uint ht.2 hv.2, hv.1]
      . rfl
      . rfl
    | _ => simp [AbiValue.hasType] at hv
  | fixedBytes size =>
    cases v with
    | fixedBytes w n =>
      simp only [AbiType.isElementary, AbiValue.hasType, AbiType.isData, Bool.and_eq_true,
        decide_eq_true_eq] at hv ht
      obtain ⟨rfl, hw⟩ := hv
      have hlength : (w.bytes.take n).length = n := by
        rw [List.length_take, Word.length_bytes]
        omega
      rw [ofAbi, encodeAs, toBytes_text]
      show (if (w.bytes.take n).length = n then _ else _) = _
      rw [if_pos hlength, leftAligned_take ht.2 hw]
    | _ => simp [AbiValue.hasType] at hv
  | address =>
    cases v with
    | address a =>
      rw [ofAbi, encodeAs, convert_address_text]
      rfl
    | _ => simp [AbiValue.hasType] at hv
  | bytes =>
    cases v with
    | bytes b =>
      rw [ofAbi, encodeAs, toBytes_text]
      rfl
    | _ => simp [AbiValue.hasType] at hv
  | string =>
    cases v with
    | string s =>
      rw [ofAbi, encodeAs]
      rfl
    | _ => simp [AbiValue.hasType] at hv
  | function => simp [AbiType.isElementary, AbiType.isData] at ht
  | array item => simp [AbiType.isElementary] at ht
  | fixedArray item length => simp [AbiType.isElementary] at ht
  | tuple items => simp [AbiType.isElementary] at ht

/-- The least signed integer of the greatest width, whose magnitude no signed integer has. -/
theorem encodeAs_text_ofAbi_least :
    let t := AbiType.int 256
    let v := AbiValue.int (BitVec.intMin 256) 256
    t.isElementary ∧ v.hasType t ∧ encodeAs t [] (.string (ofAbi [] v).text) = .ok v := by
  intro t v
  have ht : t.isElementary := by decide
  have hv : v.hasType t := by decide
  exact ⟨ht, hv, encodeAs_text_ofAbi v t [] ht hv⟩

end Value

end Registrar
