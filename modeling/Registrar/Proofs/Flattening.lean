import Mathlib.Algebra.GroupWithZero.Nat
import Registrar.Proofs.Literal
import Registrar.Proofs.Projection

/-!
This module contains the proof that the transform `[]byte` joins the bytes of leaves: depth first,
in the order of fields and elements, of all fields of a record or of those that are named. The
leaves of a value are defined here without regard to the transform. What a field contributes is
compared with the bytes that it is as key material: they are the same, unless the field is a text
behind the marker of hexadecimal digits, which only key material takes for digits.
-/

namespace Registrar

/-- What stands in a value that is taken apart no further. -/
inductive Scalar where
  | number (n : Int)
  | address (a : Address)
  | bytes (b : Bytes)
  | text (s : String)
deriving Repr, DecidableEq

namespace Scalar

/-- A number as 32 bytes in two's complement, the most significant one first, an address as 20
bytes, and a text in UTF-8. -/
def encoded : Scalar → Bytes
  | .number n => Bytes.ofNat 32 (n % (2 ^ 256 : Nat)).toNat
  | .address a => Bytes.ofNat 20 a.value.toNat
  | .bytes b => b
  | .text s => s.toUTF8.data.toList

def size : Scalar → Nat
  | .number _ => 32
  | .address _ => 20
  | .bytes b => b.length
  | .text s => s.utf8ByteSize

theorem length_encoded (x : Scalar) : x.encoded.length = x.size := by
  cases x with
  | number n => exact Bytes.length_ofNat 32 _
  | address a => exact Bytes.length_ofNat 20 _
  | bytes b => rfl
  | text s => rfl

theorem length_flatMap_encoded (l : List Scalar) :
    (l.flatMap encoded).length = (l.map size).sum := by
  rw [List.length_flatMap]
  congr 1
  apply List.map_congr_left
  exact fun x _ => x.length_encoded

end Scalar

theorem Bytes.ofString_eq (s : String) : ofString s = s.toUTF8.data.toList := by
  have hbytes : s.toUTF8 = (s.toList.flatMap String.utf8EncodeChar).toByteArray :=
    String.utf8Encode_toList.symm
  rw [hbytes, List.data_toByteArray]
  rfl

namespace Word

theorem bytes_eq_toInt (w : Word) : w.bytes = (Scalar.number w.toInt).encoded := by
  unfold bytes Scalar.encoded
  dsimp only
  rw [← BitVec.toNat_ofInt, BitVec.ofInt_toInt]

theorem bytes_eq_toNat (w : Word) : w.bytes = (Scalar.number w.toNat).encoded := by
  unfold bytes Scalar.encoded
  dsimp only
  rw [← Int.natCast_emod, Int.toNat_natCast, Nat.mod_eq_of_lt w.isLt]

end Word

namespace Value

mutual

/-- The leaves of a value, depth first. Those of a point are the ones of its record. -/
def scalars : Value → List Scalar
  | .bool b => [.number (if b then 1 else 0)]
  | .int w => [.number w.toInt]
  | .uint w => [.number w.toNat]
  | .string s => [.text s]
  | .bytes b => [.bytes b]
  | .address a => [.address a]
  | .array items => itemScalars items
  | .record fields => fieldScalars fields
  | .g1 p => [.number p.x.toNat, .number p.y.toNat]
  | .g2 p => [.number p.x.1.toNat, .number p.x.2.toNat, .number p.y.1.toNat, .number p.y.2.toNat]

def itemScalars : List Value → List Scalar
  | [] => []
  | v :: r => scalars v ++ itemScalars r

def fieldScalars : List (String × Value) → List Scalar
  | [] => []
  | (_, v) :: r => scalars v ++ fieldScalars r

end

/-- The bytes of the leaves of a value, one after the other. -/
def flattening (v : Value) : Bytes :=
  v.scalars.flatMap Scalar.encoded

theorem itemScalars_eq (items : List Value) : itemScalars items = items.flatMap scalars := by
  induction items with
  | nil =>
    unfold itemScalars
    rfl
  | cons v r ih =>
    unfold itemScalars
    rw [ih, List.flatMap_cons]

theorem fieldScalars_eq (fields : Record) :
    fieldScalars fields = fields.flatMap fun f => f.2.scalars := by
  induction fields with
  | nil =>
    unfold fieldScalars
    rfl
  | cons f r ih =>
    unfold fieldScalars
    rw [ih, List.flatMap_cons]

theorem scalars_of_asRecord? {v : Value} {record : Record} (hv : v.asRecord? = some record) :
    v.scalars = fieldScalars record := by
  cases v with
  | record fields =>
    cases hv
    rw [scalars]
  | g1 p =>
    cases hv
    simp [G1Point.toRecord, scalars, fieldScalars_eq]
  | g2 p =>
    cases hv
    simp [G2Point.toRecord, scalars, fieldScalars_eq, itemScalars_eq]
  | _ => cases hv

mutual

theorem leafBytes_eq : (v : Value) → v.leafBytes = v.scalars.flatMap Scalar.encoded
  | .bool b => by
    unfold leafBytes scalars
    cases b <;> rfl
  | .int w => by
    unfold leafBytes scalars
    rw [List.flatMap_singleton, ← Word.bytes_eq_toInt]
  | .uint w => by
    unfold leafBytes scalars
    rw [List.flatMap_singleton, ← Word.bytes_eq_toNat]
  | .string s => by
    unfold leafBytes scalars
    rw [List.flatMap_singleton, Bytes.ofString_eq]
    rfl
  | .bytes b => by
    unfold leafBytes scalars
    rw [List.flatMap_singleton]
    rfl
  | .address a => by
    unfold leafBytes scalars
    rw [List.flatMap_singleton]
    rfl
  | .array items => by
    unfold leafBytes scalars
    exact itemBytes_eq items
  | .record fields => by
    unfold leafBytes scalars
    exact fieldBytes_eq fields
  | .g1 p => by
    unfold leafBytes scalars G1Point.bytes
    simp only [Word.bytes_eq_toNat, List.flatMap_cons, List.flatMap_nil, List.append_nil]
  | .g2 p => by
    unfold leafBytes scalars
    simp only [Word.bytes_eq_toNat, List.flatMap_cons, List.flatMap_nil, List.append_nil,
      List.append_assoc]

theorem itemBytes_eq :
    (items : List Value) → itemBytes items = (itemScalars items).flatMap Scalar.encoded
  | [] => by
    unfold itemBytes itemScalars
    rfl
  | v :: r => by
    unfold itemBytes itemScalars
    rw [List.flatMap_append, leafBytes_eq v, itemBytes_eq r]

theorem fieldBytes_eq :
    (fields : List (String × Value)) →
      fieldBytes fields = (fieldScalars fields).flatMap Scalar.encoded
  | [] => by
    unfold fieldBytes fieldScalars
    rfl
  | (_, v) :: r => by
    unfold fieldBytes fieldScalars
    rw [List.flatMap_append, leafBytes_eq v, fieldBytes_eq r]

end

theorem flattening_of_asRecord? {v : Value} {record : Record} (hv : v.asRecord? = some record) :
    v.flattening = (record.map (·.2)).flatMap flattening := by
  unfold flattening
  rw [scalars_of_asRecord? hv, fieldScalars_eq, List.flatMap_assoc, List.flatMap_map]

theorem length_flattening (v : Value) : v.flattening.length = (v.scalars.map Scalar.size).sum :=
  Scalar.length_flatMap_encoded v.scalars

end Value

/-- Where no name repeats, the values of a record are what is found under its names, in order. -/
theorem Assoc.filterMap_names {α : Type} {entries : List (String × α)} (h : (names entries).Nodup) :
    (names entries).filterMap (find? · entries) = entries.map (·.2) := by
  unfold names
  rw [List.filterMap_map, ← List.filterMap_eq_map]
  apply List.filterMap_congr
  rintro ⟨name, v⟩ hmem
  exact (find?_eq_some_iff h).2 hmem

namespace Hex

theorem length_dropMarker_le (s : Bytes) : (dropMarker s).length ≤ s.length := by
  unfold dropMarker
  split
  . exact Nat.le_add_right _ 2
  . exact Nat.le_add_right _ 2
  . exact Nat.le_refl _

theorem length_of_decodePairs {position : Nat} {s b : Bytes} (h : decodePairs position s = .ok b) :
    s.length = 2 * b.length := by
  induction position, s using decodePairs.induct generalizing b with
  | case1 =>
    cases h
    rfl
  | case2 => cases h
  | case3 position high low s x y hhigh hlow ih =>
    rw [decodePairs, hhigh, hlow] at h
    dsimp only at h
    obtain ⟨rest, hrest, rfl⟩ := Value.exists_of_map_eq_ok h
    rw [List.length_cons, List.length_cons, List.length_cons, ih hrest]
    omega
  | case4 position high low s hhigh =>
    rw [decodePairs, hhigh] at h
    cases h
  | case5 position high low s x hhigh hlow =>
    rw [decodePairs, hhigh, hlow] at h
    cases h

/-- Decoding halves a text at least. -/
theorem length_of_decode {s b : Bytes} (h : decode s = .ok b) : 2 * b.length ≤ s.length := by
  unfold decode at h
  dsimp only at h
  split at h
  . cases h
  . rw [← length_of_decodePairs h]
    exact length_dropMarker_le s

end Hex

namespace Value

/-- Whether a value is a text that key material is decoded from. -/
def IsMarked : Value → Prop
  | .string s => "0x".toList <+: s.toList
  | _ => False

theorem toBytes_string_of_not_isMarked {s : String} (h : ¬ (Value.string s).IsMarked) :
    (Value.string s).toBytes = .ok (Bytes.ofString s) := by
  unfold toBytes
  dsimp only
  cases hstrip : Text.stripStart? "0x".toList s.toList with
  | none => rfl
  | some digits => exact absurd ⟨digits, (Text.stripStart?_eq_some hstrip).symm⟩ h

/-- Behind the marker there are more characters than bytes that they are decoded to. -/
theorem length_lt_of_isMarked {s : String} {b : Bytes} (hs : (Value.string s).IsMarked)
    (h : (Value.string s).toBytes = .ok b) : b.length < (Bytes.ofString s).length := by
  obtain ⟨digits, hdigits⟩ := hs
  unfold toBytes at h
  dsimp only at h
  rw [← hdigits, Text.stripStart?_append] at h
  have hdecode := Hex.length_of_decode (mapError_eq_ok_iff.1 h)
  have hlength : (Bytes.ofString s).length = 2 + (Bytes.ofText digits).length := by
    unfold Bytes.ofString Bytes.ofText
    rw [← hdigits, List.flatMap_append, List.length_append]
    rfl
  omega

/-- What a value is flattened to and what it is as key material are the same bytes, unless it is a
text behind the marker. -/
theorem flattening_eq_iff {v : Value} {b : Bytes} (h : v.toBytes = .ok b) :
    v.flattening = b ↔ ¬ v.IsMarked := by
  have hleaf : v.flattening = v.leafBytes := (leafBytes_eq v).symm
  cases v with
  | string s =>
    rw [hleaf]
    unfold leafBytes
    refine ⟨?_, ?_⟩
    . intro heq hmarked
      have hlt := length_lt_of_isMarked hmarked h
      rw [heq] at hlt
      exact Nat.lt_irrefl _ hlt
    . intro hmarked
      rw [toBytes_string_of_not_isMarked hmarked] at h
      exact Except.ok.inj h
  | bytes | address | int | uint =>
    rw [hleaf]
    unfold leafBytes
    exact ⟨fun _ => id, fun _ => Except.ok.inj h⟩
  | _ => cases h

end Value

namespace Transform

/-- What may stand between two commas: a name or nothing, with blanks around it. -/
structure Item where
  before : Key.Blanks
  label? : Option Label
  after : Key.Blanks

/-- A transform `[]byte` as it is written. -/
structure Selection where
  before : Key.Blanks
  beforeItems : Key.Blanks
  items : List Item
  after : Key.Blanks

namespace Item

variable (i : Item)

/-- An item without the blanks around it. -/
def core : List Char :=
  match i.label? with
  | none => []
  | some label => label.text

def text : List Char :=
  i.before.text ++ (i.core ++ i.after.text)

theorem not_mem_text : ',' ∉ i.text := by
  have hblanks := Key.Blanks.not_mem (c := ',') (by decide)
  unfold text core
  cases i.label? with
  | none => simp [hblanks]
  | some label => simp [hblanks, label.no_comma]

theorem trim_text : Text.trim i.text = i.core := by
  unfold text core
  cases i.label? with
  | none =>
    apply Text.trim_of_blank
    unfold Text.isBlankText
    rw [List.nil_append, List.all_append]
    exact Bool.and_eq_true_iff.2 ⟨i.before.isBlankText, i.after.isBlankText⟩
  | some label => exact label.solid.trim_between i.before.isBlankText i.after.isBlankText

end Item

namespace Selection

variable (p : Selection)

def core : List Char :=
  callChars "[]byte".toList p.beforeItems.text (p.items.map Item.text)

def text : String :=
  String.ofList (p.before.text ++ (p.core ++ p.after.text))

/-- The text as errors show it. -/
def shown : String :=
  String.ofList p.core

/-- The names of the fields that are selected, in order. -/
def names : List String :=
  (p.items.filterMap Item.label?).map fun label => String.ofList label.text

theorem solid_name : Text.Solid "[]byte".toList :=
  Text.Solid.of_ends (by decide) (by decide)

theorem trim_text : Text.trim p.text.toList = p.core := by
  unfold text
  rw [String.toList_ofList]
  exact (solid_callChars solid_name _ _).trim_between p.before.isBlankText p.after.isBlankText

/-- Of the items only the names are left when blanks are stripped. -/
theorem filter_trim_items (items : List Item) :
    ((items.map Item.text).map Text.trim).filter (fun item => !item.isEmpty) =
      (items.filterMap Item.label?).map Label.text := by
  rw [List.map_map, List.filter_map]
  induction items with
  | nil => rfl
  | cons i items ih =>
    have htrim : Text.trim i.text = i.core := i.trim_text
    cases hlabel : i.label? with
    | none =>
      have hcore : i.core = [] := by
        unfold Item.core
        rw [hlabel]
      rw [List.filterMap_cons_none hlabel, ← ih, List.filter_cons_of_neg]
      simp [htrim, hcore]
    | some label =>
      have hcore : i.core = label.text := by
        unfold Item.core
        rw [hlabel]
      have hne := label.solid.ne_nil
      rw [List.filterMap_cons_some hlabel, List.map_cons (f := Label.text), ← ih,
        List.filter_cons_of_pos, List.map_cons, Function.comp_apply, htrim, hcore]
      simp [htrim, hcore, hne]

theorem read?_core : Call.read? p.core = some ⟨"[]byte", p.names⟩ := by
  have hitems : ∀ item ∈ p.items.map Item.text, ',' ∉ item := by
    rw [List.forall_mem_map]
    exact fun item _ => item.not_mem_text
  unfold core
  rw [Call.read?_callChars solid_name (by decide) p.beforeItems.isBlankText hitems]
  rw [filter_trim_items, List.map_map, String.ofList_toList]
  rfl

/-- A selection that is applied flattens what the value has as a record. -/
theorem apply_text (v : Value) :
    apply p.text v =
      match v.asRecord? with
      | none => .error (.notARecord p.shown v.text)
      | some record => flatten p.shown record p.names := by
  unfold apply
  dsimp only
  rw [p.trim_text, p.read?_core]
  dsimp only
  rw [if_pos rfl]
  rfl

end Selection

variable {shown : String} {record : Record} {names : List String}

/-- The values of the fields with the given names that a record has. -/
def chosen (record : Record) (names : List String) : List Value :=
  names.filterMap (Assoc.find? · record)

/-- The bytes of a selection are those of its fields, or the first field that is missing is the
error. -/
theorem selectBytes_eq :
    selectBytes shown record names =
      match names.find? (· ∉ Assoc.names record) with
      | some name => .error (.missingField shown name)
      | none => .ok ((chosen record names).flatMap Value.flattening) := by
  induction names with
  | nil => rfl
  | cons name names ih =>
    unfold selectBytes
    rw [List.find?_cons]
    cases hfound : Assoc.find? name record with
    | none =>
      have hmem := Assoc.find?_eq_none_iff.1 hfound
      simp [hmem]
    | some v =>
      have hmem : name ∈ Assoc.names record := by
        rw [← Assoc.find?_isSome_iff, hfound]
        rfl
      have hchosen : chosen record (name :: names) = v :: chosen record names :=
        List.filterMap_cons_some hfound
      rw [hchosen, List.flatMap_cons]
      simp only [hmem, not_true_eq_false, decide_false, ih]
      cases names.find? (· ∉ Assoc.names record) with
      | some name => rfl
      | none =>
        rw [Value.leafBytes_eq]
        rfl

theorem apply_text_of_nil {p : Selection} {v : Value} (hv : v.asRecord? = some record)
    (hp : p.names = []) : apply p.text v = .ok (.bytes v.flattening) := by
  rw [p.apply_text, hv]
  unfold flatten
  dsimp only
  rw [if_pos (by simpa using hp), Value.fieldBytes_eq, ← Value.scalars_of_asRecord? hv]
  rfl

theorem apply_text_of_find? {p : Selection} {v : Value} {name : String}
    (hv : v.asRecord? = some record) (hne : p.names ≠ [])
    (h : p.names.find? (· ∉ Assoc.names record) = some name) :
    apply p.text v = .error (.missingField p.shown name) := by
  rw [p.apply_text, hv]
  unfold flatten
  dsimp only
  rw [if_neg (by simpa using hne), selectBytes_eq, h]
  rfl

theorem apply_text_of_mem {p : Selection} {v : Value} (hv : v.asRecord? = some record)
    (hne : p.names ≠ []) (h : ∀ name ∈ p.names, name ∈ Assoc.names record) :
    apply p.text v = .ok (.bytes ((chosen record p.names).flatMap Value.flattening)) := by
  have hnone : p.names.find? (· ∉ Assoc.names record) = none := by
    rw [List.find?_eq_none]
    intro name hname
    simpa using h name hname
  rw [p.apply_text, hv]
  unfold flatten
  dsimp only
  rw [if_neg (by simpa using hne), selectBytes_eq, hnone]
  rfl

theorem chosen_eq_of_map_eq {fields : List Value}
    (h : names.map (Assoc.find? · record) = fields.map some) : chosen record names = fields := by
  have hfields : chosen record names = (fields.map some).filterMap id := by
    unfold chosen
    rw [← h, List.filterMap_map]
    rfl
  rw [hfields, List.filterMap_map]
  exact List.filterMap_some

theorem mem_names_of_map_eq {fields : List Value}
    (h : names.map (Assoc.find? · record) = fields.map some) :
    ∀ name ∈ names, name ∈ Assoc.names record := by
  intro name hname
  have hfound : Assoc.find? name record ∈ fields.map some := by
    rw [← h]
    exact List.mem_map_of_mem hname
  obtain ⟨v, -, hv⟩ := List.mem_map.1 hfound
  rw [← Assoc.find?_isSome_iff, ← hv]
  rfl

/-- Without names a value is flattened as a whole. With names the fields that are found under them
are joined in the order of the names, or the first name without a field is the error. All names of a
record, in order, come to none. -/
theorem apply_selection (p : Selection) (v : Value) :
    (v.asRecord? = none → apply p.text v = .error (.notARecord p.shown v.text)) ∧
    ∀ record, v.asRecord? = some record →
      (p.names = [] →
        apply p.text v = .ok (.bytes v.flattening) ∧
        v.flattening.length = (v.scalars.map Scalar.size).sum) ∧
      (p.names ≠ [] →
        ((∃ w, apply p.text v = .ok w) ↔ ∀ name ∈ p.names, name ∈ Assoc.names record) ∧
        (∀ name, p.names.find? (· ∉ Assoc.names record) = some name →
          apply p.text v = .error (.missingField p.shown name)) ∧
        ∀ fields : List Value, p.names.map (Assoc.find? · record) = fields.map some →
          apply p.text v = .ok (.bytes (fields.flatMap Value.flattening))) ∧
      ((Assoc.names record).Nodup → p.names = Assoc.names record →
        apply p.text v = .ok (.bytes v.flattening)) := by
  refine ⟨?_, ?_⟩
  . intro hv
    rw [p.apply_text, hv]
  . intro record hv
    refine ⟨?_, ?_, ?_⟩
    . exact fun hp => ⟨apply_text_of_nil hv hp, v.length_flattening⟩
    . intro hp
      refine ⟨⟨?_, ?_⟩, fun name => apply_text_of_find? hv hp, ?_⟩
      . rintro ⟨w, hw⟩
        cases hfind : p.names.find? (· ∉ Assoc.names record) with
        | none => simpa using hfind
        | some name =>
          rw [apply_text_of_find? hv hp hfind] at hw
          cases hw
      . exact fun h => ⟨_, apply_text_of_mem hv hp h⟩
      . intro fields hfields
        rw [apply_text_of_mem hv hp (mem_names_of_map_eq hfields), chosen_eq_of_map_eq hfields]
    . intro hnodup hp
      by_cases hempty : p.names = []
      . exact apply_text_of_nil hv hempty
      . have hall : ∀ name ∈ p.names, name ∈ Assoc.names record := by
          rw [hp]
          exact fun _ => id
        rw [apply_text_of_mem hv hempty hall, Value.flattening_of_asRecord? hv, hp]
        unfold chosen
        rw [Assoc.filterMap_names hnodup]

/-- A selection without blanks, except for one behind each comma. -/
def Selection.listed (labels : List (Option Label)) : Selection where
  before := ⟨[], Text.isBlankText_nil⟩
  beforeItems := ⟨[], Text.isBlankText_nil⟩
  items := labels.map fun label? =>
    ⟨⟨[' '], Text.isBlankText_space⟩, label?, ⟨[], Text.isBlankText_nil⟩⟩
  after := ⟨[], Text.isBlankText_nil⟩

/-- A record in a record, an array and a point, one of them selected twice. -/
theorem apply_selection_nested :
    let a := (Target.letter 'a' rfl (by decide) (by decide)).toLabel
    let b := (Target.letter 'b' rfl (by decide) (by decide)).toLabel
    let c := (Target.letter 'c' rfl (by decide) (by decide)).toLabel
    let point := Value.g1 ⟨1, 2⟩
    let items := Value.array [.bool true, .record [("n", .int (-1)), ("s", .string "é")]]
    let v := Value.record [("a", point), ("b", items), ("c", .address ⟨0⟩)]
    let p := Selection.listed [some b, none, some a, some b]
    p.text = "[]byte( b, , a, b)" ∧
      apply p.text v = .ok (.bytes (items.flattening ++ (point.flattening ++ items.flattening))) ∧
      apply (Selection.listed [some a, some b, some c]).text v = .ok (.bytes v.flattening) ∧
      v.flattening.length = 150 := by
  intro a b c point items v p
  have hselection := (apply_selection p v).2 _ rfl
  have hitems := (hselection.2.1 (by decide)).2.2 [items, point, items] rfl
  have hwhole := (apply_selection (Selection.listed []) v).2 _ rfl
  have hall := (apply_selection (Selection.listed [some a, some b, some c]) v).2 _ rfl
  refine ⟨rfl, ?_, hall.2.2 (by decide) (by decide), ?_⟩
  . rw [hitems]
    simp only [List.flatMap_cons, List.flatMap_nil, List.append_nil]
  . rw [(hwhole.1 rfl).2]
    decide

theorem chosen_append (record : Record) (names names' : List String) :
    chosen record (names ++ names') = chosen record names ++ chosen record names' :=
  List.filterMap_append

/-- What a field adds to a selection are the bytes that it is as key material, unless it is a text
behind the marker of hexadecimal digits: a text adds its characters. -/
theorem apply_selection_field {p : Selection} {v f : Value} {name : String} {b : Bytes}
    {before after : List String} (hv : v.asRecord? = some record)
    (hf : Assoc.find? name record = some f) (hb : f.toBytes = .ok b)
    (hp : p.names = before ++ name :: after) (h : ∀ name ∈ p.names, name ∈ Assoc.names record) :
    apply p.text v = .ok (.bytes ((chosen record before).flatMap Value.flattening ++
      (f.flattening ++ (chosen record after).flatMap Value.flattening))) ∧
    (f.flattening = b ↔ ¬ f.IsMarked) ∧
    ∀ s, f = .string s → f.flattening = s.toUTF8.data.toList := by
  refine ⟨?_, Value.flattening_eq_iff hb, ?_⟩
  . have hne : p.names ≠ [] := by simp [hp]
    have hcons : chosen record (name :: after) = f :: chosen record after :=
      List.filterMap_cons_some hf
    rw [apply_text_of_mem hv hne h, hp, chosen_append, hcons, List.flatMap_append,
      List.flatMap_cons]
  . rintro s rfl
    unfold Value.flattening
    rw [Value.scalars, List.flatMap_singleton]
    rfl

/-- Two texts that are the same byte string as key material, and an address between them. -/
theorem apply_selection_field_second :
    let a := (Target.letter 'a' rfl (by decide) (by decide)).toLabel
    let b := (Target.letter 'b' rfl (by decide) (by decide)).toLabel
    let c := (Target.letter 'c' rfl (by decide) (by decide)).toLabel
    let f := Value.address ⟨7⟩
    let v := Value.record [("a", .string "x"), ("b", f), ("c", .string "0x78")]
    apply (Selection.listed [some a, some b, some c]).text v =
        .ok (.bytes (0x78 :: (Address.bytes ⟨7⟩ ++ [0x30, 0x78, 0x37, 0x38]))) ∧
      (Value.string "0x78").toBytes = .ok [0x78] := by
  intro a b c f v
  have hp : (Selection.listed [some a, some b, some c]).names = ["a"] ++ "b" :: ["c"] := rfl
  have hfield := apply_selection_field (v := v) (f := f) rfl rfl rfl hp (by decide)
  refine ⟨?_, rfl⟩
  rw [hfield.1, hfield.2.1.2 (by exact id)]
  rfl

/-- A text behind the marker, alone in a selection, is not the byte that it is as key material. -/
theorem apply_selection_marked :
    let x := (Target.letter 'x' rfl (by decide) (by decide)).toLabel
    let v := Value.record [("x", .string "0xab")]
    (Value.string "0xab").toBytes = .ok [0xab] ∧
      (Selection.listed [some x]).text = "[]byte( x)" ∧
      apply (Selection.listed [some x]).text v = .ok (.bytes [0x30, 0x78, 0x61, 0x62]) ∧
      apply (Selection.listed [some x]).text v ≠ .ok (.bytes [0xab]) := by
  intro x v
  have hv : apply (Selection.listed [some x]).text v = .ok (.bytes [0x30, 0x78, 0x61, 0x62]) := by
    rw [apply_text_of_mem rfl (by decide) (by decide)]
    rfl
  refine ⟨rfl, rfl, hv, ?_⟩
  rw [hv]
  simp

end Transform

end Registrar
