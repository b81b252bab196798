import Mathlib.Data.List.Induction
import Registrar.Proofs.Coding

/-!
This module contains the proof that a value encoded for a type has the shape of that type, and that
its numbers lie within their widths, except that the size of a byte string given for an unsigned
number is compared with a word instead of the width. Which values are encoded as numbers that are too
great is said by a check of the values themselves.
-/

namespace Registrar

theorem bind_eq_ok_iff {ε α β : Type} {x : Except ε α} {f : α → Except ε β} {b : β} :
    x >>= f = .ok b ↔ ∃ a, x = .ok a ∧ f a = .ok b := by
  cases x with
  | error e => simp [bind, Except.bind]
  | ok a => simp [bind, Except.bind]

namespace Bytes

theorem toNat_lt (b : Bytes) : toNat b < 256 ^ b.length := by
  induction b with
  | nil => decide
  | cons x b ih =>
    have hx := x.toNat_lt
    rw [toNat, List.foldl_cons, foldl_eq, List.length_cons, Nat.pow_succ]
    calc
      (0 * 256 + x.toNat) * 256 ^ b.length + toNat b < (x.toNat + 1) * 256 ^ b.length := by
        rw [Nat.zero_mul, Nat.zero_add, Nat.succ_mul]
        exact Nat.add_lt_add_left ih _
      _ ≤ 256 ^ b.length * 256 := by
        rw [Nat.mul_comm]
        exact Nat.mul_le_mul_left _ hx

theorem ofNat_toNat (b : Bytes) : ofNat b.length (toNat b) = b := by
  induction b using List.reverseRecOn with
  | nil => rfl
  | append_singleton b x ih =>
    have hx := x.toNat_lt
    have hlast : toNat [x] = x.toNat := by simp [toNat]
    rw [List.length_append, List.length_singleton, toNat_append, hlast, List.length_singleton]
    rw [Nat.pow_one, ofNat]
    rw [show (toNat b * 256 + x.toNat) / 256 = toNat b by omega, ih]
    rw [show (toNat b * 256 + x.toNat) % 256 = x.toNat by omega, UInt8.ofNat_toNat]

end Bytes

theorem Word.bytes_ofBytes {b : Bytes} (hb : b.length = 32) : (Word.ofBytes b).bytes = b := by
  have hlt := Bytes.toNat_lt b
  rw [hb] at hlt
  unfold Word.bytes Word.ofBytes
  rw [BitVec.toNat_ofNat, Nat.mod_eq_of_lt hlt, ← hb]
  exact Bytes.ofNat_toNat b

namespace Integer

variable {bits : Nat} {text : List Char}

/-- What passes a check at the end of reading has been checked, however it was read. -/
theorem checked_of_ok {α : Type} {x : Except ReadFault α} {p : α → Prop} [DecidablePred p] {a : α}
    {fault : ReadFault} (h : (do let n ← x; if p n then .ok n else .error fault) = .ok a) : p a := by
  obtain ⟨n, -, h⟩ := bind_eq_ok_iff.1 h
  split at h
  . next hn =>
    cases h
    exact hn
  . cases h

theorem lt_of_readUnsigned {n : Nat} (h : readUnsigned bits text = .ok n) : n < 2 ^ bits := by
  unfold readUnsigned at h
  dsimp only at h
  split at h
  . cases h
  . split at h
    . exact checked_of_ok (p := fun n => n < 2 ^ bits) h
    . exact checked_of_ok (p := fun n => n < 2 ^ bits) h

theorem fitsSigned_of_readSigned {i : Int} (h : readSigned bits text = .ok i) :
    fitsSigned bits i := by
  unfold readSigned at h
  dsimp only at h
  split at h
  . exact checked_of_ok (p := fun i => fitsSigned bits i) h
  . exact checked_of_ok (p := fun i => fitsSigned bits i) h

theorem fitsSigned_mono {b : Nat} {i : Int} (hb : b ≤ bits) (h : fitsSigned b i) :
    fitsSigned bits i := by
  have hpow : (2 ^ (b - 1) : Int) ≤ 2 ^ (bits - 1) := by
    exact_mod_cast Nat.pow_le_pow_right (Nat.succ_pos 1) (Nat.sub_le_sub_right hb 1)
  unfold fitsSigned at *
  simp only [Bool.and_eq_true, decide_eq_true_eq] at *
  omega

theorem fitsSigned_toInt (w : Word) : fitsSigned 256 w.toInt := by
  unfold fitsSigned
  simp only [Bool.and_eq_true, decide_eq_true_eq]
  exact ⟨BitVec.le_toInt w, BitVec.toInt_lt⟩

/-- A word holds a number of its width as it is, and none that exceeds a greater width. -/
theorem fitsSigned_ofInt {i : Int} (h : fitsSigned bits i) :
    fitsSigned bits (BitVec.ofInt 256 i).toInt := by
  cases Nat.le_total bits 256 with
  | inl hb =>
    have hword := fitsSigned_mono hb h
    unfold fitsSigned at hword
    simp only [Bool.and_eq_true, decide_eq_true_eq] at hword
    rw [BitVec.toInt_ofInt_eq_self (by decide) hword.1 hword.2]
    exact h
  | inr hb => exact fitsSigned_mono hb (fitsSigned_toInt _)

end Integer

namespace AbiValue

mutual

/-- Whether a value is one of a type but for the sizes of its unsigned numbers. -/
def hasShape : AbiValue → AbiType → Bool
  | .bool _, .bool => true
  | .int w n, .int bits => n = bits && Integer.fitsSigned bits w.toInt
  | .uint _ n, .uint bits => n = bits
  | .fixedBytes w n, .fixedBytes size =>
    n = size && w.bytes.drop size = List.replicate (32 - size) 0
  | .address _, .address => true
  | .bytes _, .bytes => true
  | .string _, .string => true
  | .array items, .array item => allHaveShape items item
  | .fixedArray items, .fixedArray item length => items.length = length && allHaveShape items item
  | .tuple items, .tuple types => haveShapes items types
  | _, _ => false

def allHaveShape : List AbiValue → AbiType → Bool
  | [], _ => true
  | v :: r, t => hasShape v t && allHaveShape r t

def haveShapes : List AbiValue → List AbiType → Bool
  | [], [] => true
  | v :: r, t :: ts => hasShape v t && haveShapes r ts
  | _, _ => false

end

end AbiValue

namespace Value

mutual

/-- Whether the byte strings of a value that are given for unsigned numbers are numbers of their
widths. -/
def bytesFit : AbiType → List Param → Value → Bool
  | .uint bits, _, .bytes b => Bytes.toNat b < 2 ^ bits
  | .array item, components, .array items => items.all (bytesFit item components)
  | .fixedArray item _, components, .array items => items.all (bytesFit item components)
  | .tuple types, components, v =>
    match v.asRecord? with
    | none => true
    | some fields =>
      if isFullyNamed components types.length then namedBytesFit types components fields
      else positionalBytesFit types components (fields.map (·.2))
  | _, _, _ => true

def namedBytesFit : List AbiType → List Param → Record → Bool
  | t :: ts, p :: ps, fields =>
    (match Assoc.find? p.name fields with
      | none => true
      | some v => bytesFit t p.components v) &&
      namedBytesFit ts ps fields
  | _, _, _ => true

def positionalBytesFit : List AbiType → List Param → List Value → Bool
  | t :: ts, ps, v :: vs =>
    bytesFit t ((ps.head?.map Param.components).getD []) v && positionalBytesFit ts ps.tail vs
  | _, _, _ => true

end

variable {bits size : Nat} {kind : Kind} {t : AbiType} {components : List Param} {u v : Value}
  {s : AbiValue}

/-- Converting reads a text, or leaves a value that has none as it is. -/
theorem convert_eq_ok (h : v.convert kind = .ok u) :
    v = u ∧ v.sourceText? kind = none ∨ ∃ text, ofText kind text = .ok u := by
  unfold convert at h
  split at h
  . next hnone =>
    cases h
    exact .inl ⟨rfl, hnone⟩
  . next text _ =>
    cases hread : ofText kind text with
    | error e =>
      rw [hread] at h
      cases h
    | ok w =>
      rw [hread] at h
      cases h
      exact .inr ⟨text, hread⟩

theorem exists_of_map_eq_ok {ε α β : Type} {x : Except ε α} {f : α → β} {b : β}
    (h : x.map f = .ok b) : ∃ a, x = .ok a ∧ f a = b := by
  cases x with
  | error e => cases h
  | ok a =>
    cases h
    exact ⟨a, rfl, rfl⟩

theorem lt_of_convert {w : Word} (h : v.convert (.uint bits) = .ok (.uint w)) :
    w.toNat < 2 ^ bits := by
  cases convert_eq_ok h with
  | inl h =>
    rw [h.1] at h
    cases h.2
  | inr h =>
    obtain ⟨text, h⟩ := h
    obtain ⟨n, hn, heq⟩ := exists_of_map_eq_ok h
    cases heq
    rw [BitVec.toNat_ofNat]
    exact Nat.lt_of_le_of_lt (Nat.mod_le _ _) (Integer.lt_of_readUnsigned hn)

theorem eq_of_convert_bytes {b : Bytes} (h : v.convert (.uint bits) = .ok (.bytes b)) :
    v = .bytes b := by
  cases convert_eq_ok h with
  | inl h => exact h.1
  | inr h =>
    obtain ⟨text, h⟩ := h
    obtain ⟨n, -, heq⟩ := exists_of_map_eq_ok h
    cases heq

theorem fitsSigned_of_convert {w : Word} (h : v.convert (.int bits) = .ok (.int w)) :
    Integer.fitsSigned bits w.toInt := by
  cases convert_eq_ok h with
  | inl h =>
    rw [h.1] at h
    cases h.2
  | inr h =>
    obtain ⟨text, h⟩ := h
    obtain ⟨i, hi, heq⟩ := exists_of_map_eq_ok h
    cases heq
    exact Integer.fitsSigned_ofInt (Integer.fitsSigned_of_readSigned hi)

/-- The word of a byte string of a given size is zero behind it. -/
theorem drop_leftAligned {b : Bytes} (hb : b.length = size) :
    (leftAligned b).bytes.drop size = List.replicate (32 - size) 0 := by
  subst hb
  unfold leftAligned
  by_cases hsize : b.length ≤ 32
  . rw [Word.bytes_ofBytes]
    . exact List.drop_left
    . rw [List.length_append, List.length_replicate]
      omega
  . rw [List.drop_eq_nil_of_le, Nat.sub_eq_zero_of_le (by omega)]
    . rfl
    . rw [Word.length_bytes]
      omega

theorem toNat_ofBytes {b : Bytes} (hb : b.length ≤ 32) :
    (Word.ofBytes b).toNat = Bytes.toNat b := by
  have hlt := Bytes.toNat_lt b
  have hle : 256 ^ b.length ≤ 256 ^ 32 := Nat.pow_le_pow_right (by decide) hb
  unfold Word.ofBytes
  rw [BitVec.toNat_ofNat]
  apply Nat.mod_eq_of_lt
  exact Nat.lt_of_lt_of_le hlt hle

theorem encodes_primitive (hk : t.kind? = some kind)
    (h : v.convert kind >>= encodePrimitive t = .ok s) :
    s.hasShape t ∧ s.hasType t = v.bytesFit t components := by
  obtain ⟨u, hu, hs⟩ := bind_eq_ok_iff.1 h
  cases t with
  | bool =>
    cases u with
    | bool b =>
      cases hs
      simp [AbiValue.hasShape, AbiValue.hasType, bytesFit]
    | _ => cases hs
  | int bits =>
    cases hk
    cases u with
    | int w =>
      have hw := fitsSigned_of_convert hu
      cases hs
      simp [AbiValue.hasShape, AbiValue.hasType, bytesFit, hw]
    | _ => cases hs
  | uint bits =>
    cases hk
    cases u with
    | uint w =>
      have hw := lt_of_convert hu
      have hv : bytesFit (.uint bits) components v = true := by
        cases v with
        | bytes b => cases hu
        | _ => simp [bytesFit]
      cases hs
      simp [AbiValue.hasShape, AbiValue.hasType, hv, hw]
    | bytes b =>
      obtain rfl := eq_of_convert_bytes hu
      simp only [encodePrimitive] at hs
      split at hs
      . next hb =>
        cases hs
        simp [AbiValue.hasShape, AbiValue.hasType, bytesFit, toNat_ofBytes hb]
      . cases hs
    | _ => cases hs
  | string =>
    cases u with
    | string b =>
      cases hs
      simp [AbiValue.hasShape, AbiValue.hasType, bytesFit]
    | _ => cases hs
  | address =>
    cases u with
    | address b =>
      cases hs
      simp [AbiValue.hasShape, AbiValue.hasType, bytesFit]
    | _ => cases hs
  | _ => cases hk

theorem encodes_fixedBytes (h : encodeAs (.fixedBytes size) components v = .ok s) :
    s.hasShape (.fixedBytes size) ∧
      s.hasType (.fixedBytes size) = v.bytesFit (.fixedBytes size) components := by
  rw [encodeAs] at h
  obtain ⟨b, -, h⟩ := bind_eq_ok_iff.1 h
  split at h
  . next hb =>
    cases h
    simp [AbiValue.hasShape, AbiValue.hasType, bytesFit, drop_leftAligned hb]
  . cases h

theorem encodes_items {item : AbiType} {items : List Value} {vs : List AbiValue}
    (hitem : ∀ v s, encodeAs item components v = .ok s →
      s.hasShape item ∧ s.hasType item = v.bytesFit item components)
    (h : items.mapM (encodeAs item components) = .ok vs) :
    vs.length = items.length ∧ AbiValue.allHaveShape vs item ∧
      AbiValue.allHaveType vs item = items.all (bytesFit item components) := by
  induction items generalizing vs with
  | nil =>
    cases h
    exact ⟨rfl, rfl, rfl⟩
  | cons v items ih =>
    rw [List.mapM_cons] at h
    obtain ⟨w, hw, h⟩ := bind_eq_ok_iff.1 h
    obtain ⟨ws, hws, h⟩ := bind_eq_ok_iff.1 h
    cases h
    obtain ⟨hshape, htype⟩ := hitem v w hw
    obtain ⟨hlength, hshapes, htypes⟩ := ih hws
    simp [AbiValue.allHaveShape, AbiValue.allHaveType, hlength, hshape, hshapes, htype, htypes]

mutual

theorem encodes (t : AbiType) (components : List Param) (v : Value) (s : AbiValue)
    (h : encodeAs t components v = .ok s) :
    s.hasShape t ∧ s.hasType t = v.bytesFit t components := by
  cases t with
  | bool =>
    rw [encodeAs] at h
    exact encodes_primitive rfl h
  | int bits =>
    rw [encodeAs] at h
    exact encodes_primitive rfl h
  | uint bits =>
    rw [encodeAs] at h
    exact encodes_primitive rfl h
  | string =>
    rw [encodeAs] at h
    exact encodes_primitive rfl h
  | address =>
    rw [encodeAs] at h
    exact encodes_primitive rfl h
  | fixedBytes size => exact encodes_fixedBytes h
  | bytes =>
    rw [encodeAs] at h
    obtain ⟨b, -, h⟩ := bind_eq_ok_iff.1 h
    cases h
    simp [AbiValue.hasShape, AbiValue.hasType, bytesFit]
  | function =>
    rw [encodeAs] at h
    cases h
  | array item =>
    cases v with
    | array items =>
      rw [encodeAs] at h
      obtain ⟨vs, hvs, h⟩ := bind_eq_ok_iff.1 h
      cases h
      obtain ⟨-, hshape, htype⟩ := encodes_items (encodes item components) hvs
      simp [AbiValue.hasShape, AbiValue.hasType, bytesFit, hshape, htype]
    | _ => simp [encodeAs] at h
  | fixedArray item length =>
    cases v with
    | array items =>
      rw [encodeAs] at h
      split at h
      . next hlength =>
        obtain ⟨vs, hvs, h⟩ := bind_eq_ok_iff.1 h
        cases h
        obtain ⟨heq, hshape, htype⟩ := encodes_items (encodes item components) hvs
        simp [AbiValue.hasShape, AbiValue.hasType, bytesFit, heq, hlength, hshape, htype]
      . cases h
    | _ => simp [encodeAs] at h
  | tuple types =>
    rw [encodeAs] at h
    split at h
    . cases h
    . next fields hfields =>
      split at h
      . next hnamed =>
        obtain ⟨vs, hvs, h⟩ := bind_eq_ok_iff.1 h
        cases h
        have hlength : components.length = types.length := by
          unfold isFullyNamed at hnamed
          simpa using (Bool.and_eq_true_iff.1 hnamed).1
        obtain ⟨hshape, htype⟩ := encodes_named types components fields vs hlength hvs
        simp [AbiValue.hasShape, AbiValue.hasType, bytesFit, hfields, hnamed, hshape, htype]
      . next hnamed =>
        split at h
        . next hlength =>
          obtain ⟨vs, hvs, h⟩ := bind_eq_ok_iff.1 h
          cases h
          obtain ⟨hshape, htype⟩ := encodes_positional types components (fields.map (·.2)) vs
            (by simpa using hlength) hvs
          simp [AbiValue.hasShape, AbiValue.hasType, bytesFit, hfields, hnamed, hshape, htype]
        . cases h

theorem encodes_named (types : List AbiType) (components : List Param) (fields : Record)
    (vs : List AbiValue) (hlength : components.length = types.length)
    (h : encodeNamed types components fields = .ok vs) :
    AbiValue.haveShapes vs types ∧
      AbiValue.haveTypes vs types = namedBytesFit types components fields := by
  cases types with
  | nil =>
    unfold encodeNamed at h
    cases h
    unfold namedBytesFit
    exact ⟨rfl, rfl⟩
  | cons t types =>
    cases components with
    | nil => cases hlength
    | cons p components =>
      rw [encodeNamed] at h
      split at h
      . cases h
      . next v hv =>
        obtain ⟨w, hw, h⟩ := bind_eq_ok_iff.1 h
        obtain ⟨ws, hws, h⟩ := bind_eq_ok_iff.1 h
        cases h
        obtain ⟨hshape, htype⟩ := encodes t p.components v w hw
        obtain ⟨hshapes, htypes⟩ := encodes_named types components fields ws
          (by simpa using hlength) hws
        simp [AbiValue.haveShapes, AbiValue.haveTypes, namedBytesFit, hv, hshape, hshapes, htype,
          htypes]

theorem encodes_positional (types : List AbiType) (components : List Param) (values : List Value)
    (vs : List AbiValue) (hlength : values.length = types.length)
    (h : encodePositional types components values = .ok vs) :
    AbiValue.haveShapes vs types ∧
      AbiValue.haveTypes vs types = positionalBytesFit types components values := by
  cases types with
  | nil =>
    unfold encodePositional at h
    cases h
    unfold positionalBytesFit
    exact ⟨rfl, rfl⟩
  | cons t types =>
    cases values with
    | nil => cases hlength
    | cons v values =>
      rw [encodePositional] at h
      obtain ⟨w, hw, h⟩ := bind_eq_ok_iff.1 h
      obtain ⟨ws, hws, h⟩ := bind_eq_ok_iff.1 h
      cases h
      obtain ⟨hshape, htype⟩ := encodes t _ v w hw
      obtain ⟨hshapes, htypes⟩ := encodes_positional types components.tail values ws
        (by simpa using hlength) hws
      simp [AbiValue.haveShapes, AbiValue.haveTypes, positionalBytesFit, hshape, hshapes, htype,
        htypes]

end

/-- What is encoded for a type has its shape, and it is a value of the type if and only if the byte
strings given for its unsigned numbers are not too great. -/
theorem encodeAs_fits (t : AbiType) (components : List Param) (v : Value) (s : AbiValue)
    (h : encodeAs t components v = .ok s) :
    s.hasShape t ∧ (s.hasType t ↔ v.bytesFit t components) := by
  obtain ⟨hshape, htype⟩ := encodes t components v s h
  rw [htype]
  exact ⟨hshape, Iff.rfl⟩

/-- A structure whose numbers come from a text, a number and a byte string of one byte too many. -/
theorem encodeAs_fits_structure :
    let t := AbiType.tuple [.int 8, .array (.uint 16), .fixedBytes 2]
    let v := Value.record
      [("a", .string "-128"), ("b", .array [.uint 65535, .bytes [1, 0, 0]]), ("c", .bytes [1, 2])]
    let s := AbiValue.tuple
      [.int (BitVec.ofInt 256 (-128)) 8, .array [.uint 65535 16, .uint 65536 16],
       .fixedBytes (BitVec.ofNat 256 (0x0102 * 2 ^ 240)) 2]
    encodeAs t [] v = .ok s ∧ s.hasShape t ∧ (s.hasType t ↔ v.bytesFit t []) := by
  intro t v s
  have h : encodeAs t [] v = .ok s := by rfl
  exact ⟨h, encodeAs_fits t [] v s h⟩

/-- A byte string of two bytes is encoded as a number of one byte that does not fit it. -/
theorem not_hasType_of_encodeAs :
    encodeAs (.uint 8) [] (.bytes [1, 0]) = .ok (.uint 256 8) ∧
      AbiValue.hasType (.uint 256 8) (.uint 8) = false := by
  constructor
  . rfl
  . rfl

end Value

end Registrar
