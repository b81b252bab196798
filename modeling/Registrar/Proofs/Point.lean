import Registrar.Coding
import Registrar.Transform

/-!
This module contains the proof that a point of a curve is no different from the record of its
coordinates: whatever points of a value are replaced by their records, wherever they stand in it, the
text, the bytes and the encodings of the value stay the same, and so do the errors where there are
none.
-/

namespace Registrar

namespace Value

mutual

/-- The value with every point in it replaced by the record of its coordinates. -/
def expand : Value → Value
  | .array items => .array (expandItems items)
  | .record fields => .record (expandFields fields)
  | .g1 p => .record p.toRecord
  | .g2 p => .record p.toRecord
  | v => v

def expandItems : List Value → List Value
  | [] => []
  | v :: r => expand v :: expandItems r

def expandFields : List (String × Value) → List (String × Value)
  | [] => []
  | (name, v) :: r => (name, expand v) :: expandFields r

end

mutual

/-- The second value is the first one with any of its points replaced by the records of their
coordinates, at the top, among the items of arrays or in the fields of records. -/
inductive Expands : Value → Value → Prop where
  | same (v : Value) : Expands v v
  | g1 (p : G1Point) : Expands (.g1 p) (.record p.toRecord)
  | g2 (p : G2Point) : Expands (.g2 p) (.record p.toRecord)
  | array {items items' : List Value} (h : ItemsExpand items items') :
      Expands (.array items) (.array items')
  | record {fields fields' : List (String × Value)} (h : FieldsExpand fields fields') :
      Expands (.record fields) (.record fields')

inductive ItemsExpand : List Value → List Value → Prop where
  | nil : ItemsExpand [] []
  | cons {v v' : Value} {r r' : List Value} (h : Expands v v') (hr : ItemsExpand r r') :
      ItemsExpand (v :: r) (v' :: r')

inductive FieldsExpand : List (String × Value) → List (String × Value) → Prop where
  | nil : FieldsExpand [] []
  | cons {name : String} {v v' : Value} {r r' : List (String × Value)} (h : Expands v v')
      (hr : FieldsExpand r r') : FieldsExpand ((name, v) :: r) ((name, v') :: r')

end

mutual

/-- Nothing is left of the difference once all points are replaced. -/
theorem Expands.expand_eq : {v v' : Value} → Expands v v' → v'.expand = v.expand
  | _, _, .same v => rfl
  | _, _, .g1 p => rfl
  | _, _, .g2 p => rfl
  | _, _, .array h => by
    rw [expand, expand, h.expandItems_eq]
  | _, _, .record h => by
    rw [expand, expand, h.expandFields_eq]

theorem ItemsExpand.expandItems_eq : {items items' : List Value} → ItemsExpand items items' →
    expandItems items' = expandItems items
  | _, _, .nil => rfl
  | _, _, .cons h hr => by
    rw [expandItems, expandItems, h.expand_eq, hr.expandItems_eq]

theorem FieldsExpand.expandFields_eq : {fields fields' : List (String × Value)} →
    FieldsExpand fields fields' → expandFields fields' = expandFields fields
  | _, _, .nil => rfl
  | _, _, .cons h hr => by
    rw [expandFields, expandFields, h.expand_eq, hr.expandFields_eq]

end

mutual

theorem text_expand : (v : Value) → v.expand.text = v.text
  | .array items => by
    rw [expand, text, text, texts_expandItems]
  | .record fields => by
    rw [expand, text, text, fieldTexts_expandFields]
  | .g1 p => (text_g1 p).symm
  | .g2 p => (text_g2 p).symm
  | .bool _ | .int _ | .uint _ | .string _ | .bytes _ | .address _ => rfl

theorem texts_expandItems : (items : List Value) → texts (expandItems items) = texts items
  | [] => rfl
  | v :: r => by
    rw [expandItems, texts, texts, text_expand, texts_expandItems]

theorem fieldTexts_expandFields :
    (fields : List (String × Value)) → fieldTexts (expandFields fields) = fieldTexts fields
  | [] => rfl
  | (name, v) :: r => by
    rw [expandFields, fieldTexts, fieldTexts, text_expand, fieldTexts_expandFields]

end

mutual

theorem leafBytes_expand : (v : Value) → v.expand.leafBytes = v.leafBytes
  | .array items => by
    rw [expand, leafBytes, leafBytes, itemBytes_expandItems]
  | .record fields => by
    rw [expand, leafBytes, leafBytes, fieldBytes_expandFields]
  | .g1 p => by
    simp [expand, leafBytes, G1Point.toRecord, fieldBytes, G1Point.bytes]
  | .g2 p => by
    simp [expand, leafBytes, G2Point.toRecord, fieldBytes, itemBytes]
  | .bool _ | .int _ | .uint _ | .string _ | .bytes _ | .address _ => rfl

theorem itemBytes_expandItems :
    (items : List Value) → itemBytes (expandItems items) = itemBytes items
  | [] => rfl
  | v :: r => by
    rw [expandItems, itemBytes, itemBytes, leafBytes_expand, itemBytes_expandItems]

theorem fieldBytes_expandFields :
    (fields : List (String × Value)) → fieldBytes (expandFields fields) = fieldBytes fields
  | [] => rfl
  | (name, v) :: r => by
    rw [expandFields, fieldBytes, fieldBytes, leafBytes_expand, fieldBytes_expandFields]

end

theorem expandItems_eq_map (items : List Value) : expandItems items = items.map expand := by
  induction items with
  | nil => rfl
  | cons v r ih => rw [expandItems, List.map_cons, ih]

theorem values_expandFields (fields : Record) :
    (expandFields fields).map (·.2) = (fields.map (·.2)).map expand := by
  induction fields with
  | nil => rfl
  | cons field r ih => rw [expandFields, List.map_cons, List.map_cons, List.map_cons, ih]

theorem find?_expandFields (name : String) (fields : Record) :
    Assoc.find? name (expandFields fields) = (Assoc.find? name fields).map expand := by
  induction fields with
  | nil => rfl
  | cons field r ih =>
    rw [expandFields, Assoc.find?, Assoc.find?]
    split
    . rfl
    . exact ih

theorem asRecord?_expand (v : Value) : v.expand.asRecord? = v.asRecord?.map expandFields := by
  cases v <;> rfl

theorem coercion_expand (v : Value) (t : AbiType) : v.expand.coercion t = v.coercion t := by
  rw [coercion, coercion, text_expand]

theorem toBytes_expand (v : Value) : v.expand.toBytes = v.toBytes := by
  have hnone {w : Value} (h : w.expand.toBytes = .error (.coercion w.expand.text "bytes")) :
      w.expand.toBytes = .error (.coercion w.text "bytes") := by
    rw [h, text_expand]
  cases v with
  | array _ | record _ | g1 _ | g2 _ => exact hnone rfl
  | _ => rfl

theorem encodePrimitive_expand (t : AbiType) (v : Value) :
    encodePrimitive t v.expand = encodePrimitive t v := by
  have hcoercion {w : Value} (hw : encodePrimitive t w = .error (w.coercion t))
      (h : encodePrimitive t w.expand = .error (w.expand.coercion t)) :
      encodePrimitive t w.expand = encodePrimitive t w := by
    rw [h, hw, coercion_expand]
  cases v with
  | array _ | record _ | g1 _ | g2 _ => cases t <;> exact hcoercion rfl rfl
  | _ => rfl

/-- A value that has no text is not converted, so that the encoding decides about it. -/
theorem encodePrimitive_convert_expand (t : AbiType) (kind : Kind) (v : Value) :
    v.expand.convert kind >>= encodePrimitive t = v.convert kind >>= encodePrimitive t := by
  cases v with
  | array _ | record _ | g1 _ | g2 _ => exact encodePrimitive_expand t _
  | _ => rfl

theorem mapM_expandItems {f : Value → Except ConversionError AbiValue}
    (hf : ∀ v, f v.expand = f v) (items : List Value) :
    (expandItems items).mapM f = items.mapM f := by
  rw [expandItems_eq_map, List.mapM_map]
  rw [show f ∘ expand = f from funext hf]

mutual

theorem encodeAs_expand : (t : AbiType) → (components : List Param) → (v : Value) →
    encodeAs t components v.expand = encodeAs t components v
  | .fixedBytes size, components, v => by
    rw [encodeAs, encodeAs, toBytes_expand, coercion_expand]
  | .bytes, components, v => by
    rw [encodeAs, encodeAs, toBytes_expand]
  | .array item, components, v => by
    have hitem : ∀ w : Value, encodeAs item components w.expand = encodeAs item components w :=
      encodeAs_expand item components
    have hother := coercion_expand v (.array item)
    cases v with
    | array items => simp only [expand, encodeAs, mapM_expandItems hitem]
    | record _ | g1 _ | g2 _ =>
      simpa only [expand, encodeAs] using congrArg Except.error hother
    | _ => rfl
  | .fixedArray item length, components, v => by
    have hitem : ∀ w : Value, encodeAs item components w.expand = encodeAs item components w :=
      encodeAs_expand item components
    have hother := coercion_expand v (.fixedArray item length)
    cases v with
    | array items =>
      have hlength : (expandItems items).length = items.length := by
        rw [expandItems_eq_map, List.length_map]
      rw [expand] at hother ⊢
      simp only [encodeAs, mapM_expandItems hitem, hlength, hother]
    | record _ | g1 _ | g2 _ =>
      simpa only [expand, encodeAs] using congrArg Except.error hother
    | _ => rfl
  | .tuple items, components, v => by
    rw [encodeAs, encodeAs, asRecord?_expand]
    cases v.asRecord? with
    | none => exact congrArg Except.error (coercion_expand v (.tuple items))
    | some fields =>
      have htext : (Value.record (expandFields fields)).text = (Value.record fields).text :=
        text_expand (.record fields)
      have hlength : (expandFields fields).length = fields.length := by
        have hvalues := congrArg List.length (values_expandFields fields)
        simpa using hvalues
      simp only [Option.map_some, encodeNamed_expand items, values_expandFields,
        encodePositional_expand items, htext, hlength]
  | .function, components, v => by
    rw [encodeAs, encodeAs, coercion_expand]
  | .bool, components, v => by
    rw [encodeAs, encodeAs]
    exact encodePrimitive_convert_expand _ _ v
  | .int bits, components, v => by
    rw [encodeAs, encodeAs]
    exact encodePrimitive_convert_expand _ _ v
  | .uint bits, components, v => by
    rw [encodeAs, encodeAs]
    exact encodePrimitive_convert_expand _ _ v
  | .string, components, v => by
    rw [encodeAs, encodeAs]
    exact encodePrimitive_convert_expand _ _ v
  | .address, components, v => by
    rw [encodeAs, encodeAs]
    exact encodePrimitive_convert_expand _ _ v

theorem encodeNamed_expand : (types : List AbiType) → (components : List Param) →
    (fields : Record) → encodeNamed types components (expandFields fields) =
      encodeNamed types components fields
  | [], _, _ => rfl
  | _ :: _, [], _ => rfl
  | t :: ts, p :: ps, fields => by
    rw [encodeNamed, encodeNamed, find?_expandFields]
    cases Assoc.find? p.name fields with
    | none => rfl
    | some v =>
      dsimp only [Option.map_some]
      rw [encodeAs_expand t, encodeNamed_expand ts]

theorem encodePositional_expand : (types : List AbiType) → (components : List Param) →
    (values : List Value) → encodePositional types components (values.map expand) =
      encodePositional types components values
  | [], _, _ => rfl
  | _ :: _, _, [] => rfl
  | t :: ts, ps, v :: vs => by
    rw [List.map_cons, encodePositional, encodePositional, encodeAs_expand t,
      encodePositional_expand ts]

end

end Value

namespace Transform

theorem selectBytes_expandFields (expression : String) (record : Record) (names : List String) :
    selectBytes expression (Value.expandFields record) names =
      selectBytes expression record names := by
  induction names with
  | nil => rfl
  | cons name r ih =>
    rw [selectBytes, selectBytes, Value.find?_expandFields]
    cases Assoc.find? name record with
    | none => rfl
    | some v =>
      dsimp only [Option.map_some]
      rw [ih, Value.leafBytes_expand]

theorem flatten_expandFields (expression : String) (record : Record) (names : List String) :
    flatten expression (Value.expandFields record) names = flatten expression record names := by
  rw [flatten, flatten, Value.fieldBytes_expandFields, selectBytes_expandFields]

theorem apply_expand {text : String} {call : Call}
    (hc : Call.read? (Text.trim text.toList) = some call) (hn : call.name = "[]byte") (v : Value) :
    apply text v.expand = apply text v := by
  unfold apply
  dsimp only
  rw [hc]
  dsimp only
  rw [if_pos hn, if_pos hn, Value.asRecord?_expand, Value.text_expand]
  cases v.asRecord? with
  | none => rfl
  | some record => exact flatten_expandFields _ record _

end Transform

namespace Value

/-- Where points of a value are replaced by the records of their coordinates, it has the same text,
`[]byte` gives the same bytes or the same error, and so does the encoding for any type and
components. -/
theorem alike_of_expands {v v' : Value} (h : Expands v v') :
    v'.text = v.text ∧
    (∀ text call, Transform.Call.read? (Text.trim text.toList) = some call →
      call.name = "[]byte" → Transform.apply text v' = Transform.apply text v) ∧
    ∀ t components, v'.encodeAs t components = v.encodeAs t components := by
  refine ⟨?_, ?_, ?_⟩
  . rw [← text_expand v', h.expand_eq, text_expand]
  . intro text call hc hn
    rw [← Transform.apply_expand hc hn v', h.expand_eq, Transform.apply_expand hc hn]
  . intro t components
    rw [← encodeAs_expand t components v', h.expand_eq, encodeAs_expand]

/-- A value with four points, at different depths. -/
def pointed : Value :=
  .record
    [("p", .g1 ⟨1, 2⟩), ("q", .array [.g1 ⟨3, 4⟩, .g1 ⟨5, 6⟩]), ("r", .g2 ⟨(7, 8), (9, 10)⟩)]

/-- The same value with all its points replaced but for one. -/
def partlyExpanded : Value :=
  .record
    [("p", .record (G1Point.toRecord ⟨1, 2⟩)),
     ("q", .array [.g1 ⟨3, 4⟩, .record (G1Point.toRecord ⟨5, 6⟩)]),
     ("r", .record (G2Point.toRecord ⟨(7, 8), (9, 10)⟩))]

theorem expands_pointed : Expands pointed partlyExpanded := by
  apply Expands.record
  apply FieldsExpand.cons (.g1 _)
  apply FieldsExpand.cons
  . apply Expands.array
    apply ItemsExpand.cons (.same _)
    exact .cons (.g1 _) .nil
  . exact .cons (.g2 _) .nil

def pointedType : AbiType :=
  .tuple
    [.tuple [.uint 8, .uint 8], .array (.tuple [.uint 256, .uint 256]),
     .tuple [.fixedArray (.uint 256) 2, .array (.uint 256)]]

theorem alike_of_expands_pointed :
    Expands pointed partlyExpanded ∧ partlyExpanded.text = pointed.text ∧
      Transform.apply "[]byte(q,p)" partlyExpanded = Transform.apply "[]byte(q,p)" pointed ∧
      partlyExpanded.encodeAs pointedType [] = pointed.encodeAs pointedType [] ∧
      (pointed.encodeAs pointedType []).isOk := by
  obtain ⟨htext, hbytes, hencode⟩ := alike_of_expands expands_pointed
  refine ⟨expands_pointed, htext, ?_, hencode pointedType [], ?_⟩
  . exact hbytes "[]byte(q,p)" ⟨"[]byte", ["q", "p"]⟩ (by decide +kernel) rfl
  . decide +kernel

end Value

end Registrar
