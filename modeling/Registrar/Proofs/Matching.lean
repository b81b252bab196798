import Mathlib.Data.List.Forall2
import Registrar.Proofs.Fitting

/-!
This module contains the proof that the fields of a record go to the components of a tuple by their
names where all components are named: neither their order nor fields beside them make a difference to
the encoding, at whatever depth the record stands. Values that differ in nothing else are akin, and
values that are akin have the same encodings.
-/

namespace Registrar

/-- Whether two computations have the same results. They may fail for different reasons. -/
def SameResults {ε α : Type} (x y : Except ε α) : Prop :=
  ∀ a, x = .ok a ↔ y = .ok a

namespace SameResults

variable {ε α β : Type}

theorem refl (x : Except ε α) : SameResults x x :=
  fun _ => Iff.rfl

theorem of_error (e e' : ε) : SameResults (.error e : Except ε α) (.error e') := by
  intro a
  constructor
  . intro h
    cases h
  . intro h
    cases h

theorem bind {x y : Except ε α} {f g : α → Except ε β} (h : SameResults x y)
    (hfg : ∀ a, SameResults (f a) (g a)) : SameResults (x >>= f) (y >>= g) := by
  intro b
  rw [bind_eq_ok_iff, bind_eq_ok_iff]
  constructor
  . rintro ⟨a, ha, hb⟩
    exact ⟨a, (h a).1 ha, (hfg a b).1 hb⟩
  . rintro ⟨a, ha, hb⟩
    exact ⟨a, (h a).2 ha, (hfg a b).2 hb⟩

theorem mapM {γ : Type} {f : γ → Except ε α} {s t : List γ}
    (h : List.Forall₂ (fun a b => SameResults (f a) (f b)) s t) :
    SameResults (s.mapM f) (t.mapM f) := by
  induction h with
  | nil => exact refl _
  | cons hhead _ ih =>
    rw [List.mapM_cons, List.mapM_cons]
    exact hhead.bind fun _ => ih.bind fun _ => refl _

end SameResults

namespace Value

def items? : Value → Option (List Value)
  | .array items => some items
  | _ => none

mutual

/-- Whether two values are no different to a type with the given components. In a tuple all of whose
components are named, the fields that the names pick are akin or both missing; in any other the fields
are as many, and akin by their positions. Everything that is no array or tuple is the same. -/
def Akin : AbiType → List Param → Value → Value → Prop
  | .array item, components, v, w =>
    match v.items?, w.items? with
    | some items, some items' => List.Forall₂ (Akin item components) items items'
    | _, _ => v = w
  | .fixedArray item _, components, v, w =>
    match v.items?, w.items? with
    | some items, some items' => List.Forall₂ (Akin item components) items items'
    | _, _ => v = w
  | .tuple items, components, v, w =>
    match v.asRecord?, w.asRecord? with
    | some fields, some fields' =>
      if isFullyNamed components items.length then NamedAkin items components fields fields'
      else
        fields.length = fields'.length ∧
          PositionsAkin items components (fields.map (·.2)) (fields'.map (·.2))
    | _, _ => v = w
  | _, _, v, w => v = w

def NamedAkin : List AbiType → List Param → Record → Record → Prop
  | t :: ts, p :: ps, fields, fields' =>
    Option.Rel (Akin t p.components) (Assoc.find? p.name fields) (Assoc.find? p.name fields') ∧
      NamedAkin ts ps fields fields'
  | _, _, _, _ => True

/-- Whether values are akin one by one as the items of a tuple. Components may be missing at the
end. -/
def PositionsAkin : List AbiType → List Param → List Value → List Value → Prop
  | t :: ts, ps, v :: vs, w :: ws =>
    Akin t ((ps.head?.map Param.components).getD []) v w ∧ PositionsAkin ts ps.tail vs ws
  | _, _, _, _ => True

end

theorem encodeAs_array (item : AbiType) (components : List Param) (v : Value) :
    encodeAs (.array item) components v =
      match v.items? with
      | some items => do
        let vs ← items.mapM (encodeAs item components)
        .ok (.array vs)
      | none => .error (v.coercion (.array item)) := by
  cases v with
  | array items =>
    rw [encodeAs]
    rfl
  | _ => rfl

theorem encodeAs_fixedArray (item : AbiType) (length : Nat) (components : List Param)
    (v : Value) :
    encodeAs (.fixedArray item length) components v =
      match v.items? with
      | some items =>
        if items.length = length then do
          let vs ← items.mapM (encodeAs item components)
          .ok (.fixedArray vs)
        else .error (v.coercion (.fixedArray item length))
      | none => .error (v.coercion (.fixedArray item length)) := by
  cases v with
  | array items =>
    rw [encodeAs]
    rfl
  | _ => rfl

mutual

theorem sameResults_of_akin : (t : AbiType) → (components : List Param) → (v w : Value) →
    Akin t components v w → SameResults (encodeAs t components v) (encodeAs t components w)
  | .array item, components, v, w, h => by
    have hitem := sameResults_of_akin item components
    unfold Akin at h
    split at h
    . next items items' hv hw =>
      rw [encodeAs_array, encodeAs_array, hv, hw]
      apply SameResults.bind
      . exact SameResults.mapM (h.imp hitem)
      . exact fun _ => .refl _
    . rw [h]
      exact .refl _
  | .fixedArray item length, components, v, w, h => by
    have hitem := sameResults_of_akin item components
    unfold Akin at h
    split at h
    . next items items' hv hw =>
      rw [encodeAs_fixedArray, encodeAs_fixedArray, hv, hw]
      dsimp only
      rw [h.length_eq]
      split
      . apply SameResults.bind
        . exact SameResults.mapM (h.imp hitem)
        . exact fun _ => .refl _
      . exact .of_error _ _
    . rw [h]
      exact .refl _
  | .tuple items, components, v, w, h => by
    unfold Akin at h
    split at h
    . next fields fields' hv hw =>
      rw [encodeAs, encodeAs, hv, hw]
      dsimp only
      split at h
      . next hnamed =>
        rw [if_pos hnamed, if_pos hnamed]
        exact (sameResults_of_namedAkin items components fields fields' h).bind fun _ => .refl _
      . next hnamed =>
        obtain ⟨hlength, h⟩ := h
        rw [if_neg hnamed, if_neg hnamed, hlength]
        split
        . have hlengths : (fields.map (·.2)).length = (fields'.map (·.2)).length := by
            rw [List.length_map, List.length_map, hlength]
          have hvalues := sameResults_of_positionsAkin items components _ _ h hlengths
          exact hvalues.bind fun _ => .refl _
        . exact .of_error _ _
    . rw [h]
      exact .refl _
  | .bool, _, _, _, h | .int _, _, _, _, h | .uint _, _, _, _, h | .fixedBytes _, _, _, _, h
  | .address, _, _, _, h | .function, _, _, _, h | .bytes, _, _, _, h | .string, _, _, _, h => by
    unfold Akin at h
    rw [h]
    exact .refl _

theorem sameResults_of_namedAkin : (ts : List AbiType) → (ps : List Param) →
    (fields fields' : Record) → NamedAkin ts ps fields fields' →
      SameResults (encodeNamed ts ps fields) (encodeNamed ts ps fields')
  | [], _, _, _, _ => .refl _
  | _ :: _, [], _, _, _ => .refl _
  | t :: ts, p :: ps, fields, fields', h => by
    unfold NamedAkin at h
    obtain ⟨hfield, h⟩ := h
    rw [encodeNamed, encodeNamed]
    generalize Assoc.find? p.name fields = x at hfield ⊢
    generalize Assoc.find? p.name fields' = y at hfield ⊢
    cases hfield with
    | none => exact .of_error _ _
    | some hfield =>
      apply SameResults.bind
      . exact sameResults_of_akin t p.components _ _ hfield
      . exact fun _ => (sameResults_of_namedAkin ts ps fields fields' h).bind fun _ => .refl _

theorem sameResults_of_positionsAkin : (ts : List AbiType) → (ps : List Param) →
    (vs ws : List Value) → PositionsAkin ts ps vs ws → vs.length = ws.length →
      SameResults (encodePositional ts ps vs) (encodePositional ts ps ws)
  | [], _, _, _, _, _ => .refl _
  | _ :: _, _, [], [], _, _ => .refl _
  | t :: ts, ps, v :: vs, w :: ws, h, hlength => by
    unfold PositionsAkin at h
    obtain ⟨hitem, h⟩ := h
    rw [encodePositional, encodePositional]
    apply SameResults.bind
    . exact sameResults_of_akin t _ v w hitem
    . have hrest := sameResults_of_positionsAkin ts ps.tail vs ws h (Nat.succ.inj hlength)
      exact fun _ => hrest.bind fun _ => .refl _

end

theorem of_encodeNamed_eq_ok {types : List AbiType} {components : List Param} {fields : Record}
    {items : List AbiValue} (hcomponents : components.length = types.length)
    (h : encodeNamed types components fields = .ok items) :
    items.length = types.length ∧
      ∀ (i : Nat) (t : AbiType) (p : Param) (u : AbiValue), types[i]? = some t →
        components[i]? = some p → items[i]? = some u →
        ∃ v, Assoc.find? p.name fields = some v ∧ encodeAs t p.components v = .ok u := by
  induction types generalizing components items with
  | nil =>
    rw [encodeNamed] at h
    . cases h
      simp
    . simp
  | cons t types ih =>
    cases components with
    | nil => simp at hcomponents
    | cons p components =>
      rw [encodeNamed] at h
      split at h
      . cases h
      . next v hv =>
        obtain ⟨u, hu, h⟩ := bind_eq_ok_iff.1 h
        obtain ⟨us, hus, h⟩ := bind_eq_ok_iff.1 h
        cases h
        obtain ⟨hlength, hrest⟩ := ih (Nat.succ.inj hcomponents) hus
        refine ⟨congrArg Nat.succ hlength, ?_⟩
        intro i t' p' u' ht' hp' hu'
        cases i with
        | zero =>
          cases ht'
          cases hp'
          cases hu'
          exact ⟨v, hv, hu⟩
        | succ i => exact hrest i t' p' u' ht' hp' hu'

/-- A tuple all of whose components are named is encoded from the fields that the names pick. -/
theorem encodeAs_tuple_eq_ok_iff {types : List AbiType} {components : List Param} {v : Value}
    {fields : Record} {u : AbiValue} (hv : v.asRecord? = some fields)
    (hnamed : isFullyNamed components types.length) :
    encodeAs (.tuple types) components v = .ok u ↔
      ∃ items, u = .tuple items ∧ items.length = types.length ∧
        ∀ (i : Nat) (t : AbiType) (p : Param) (x : AbiValue), types[i]? = some t →
          components[i]? = some p → items[i]? = some x →
          ∃ field, Assoc.find? p.name fields = some field ∧
            encodeAs t p.components field = .ok x := by
  have hlength : components.length = types.length := by
    unfold isFullyNamed at hnamed
    simp only [Bool.and_eq_true, decide_eq_true_eq] at hnamed
    exact hnamed.1
  rw [encodeAs, hv]
  dsimp only
  rw [if_pos hnamed, bind_eq_ok_iff]
  constructor
  . rintro ⟨items, hitems, hu⟩
    cases hu
    obtain ⟨hitems, hparts⟩ := of_encodeNamed_eq_ok hlength hitems
    exact ⟨items, rfl, hitems, hparts⟩
  . rintro ⟨items, rfl, hitems, hparts⟩
    exact ⟨items, encodeNamed_eq_ok hlength hitems hparts, rfl⟩

/-- Records that are akin for a tuple have the same encodings, or none. Where all components of the
tuple are named, each of its items is the encoding of the field of that name. -/
theorem encodeAs_akin {types : List AbiType} {components : List Param} {v w : Value}
    (h : Akin (.tuple types) components v w) :
    (∀ u, encodeAs (.tuple types) components v = .ok u ↔
      encodeAs (.tuple types) components w = .ok u) ∧
    ∀ fields, v.asRecord? = some fields → isFullyNamed components types.length →
      ∀ u, encodeAs (.tuple types) components v = .ok u ↔
        ∃ items, u = .tuple items ∧ items.length = types.length ∧
          ∀ (i : Nat) (t : AbiType) (p : Param) (x : AbiValue), types[i]? = some t →
            components[i]? = some p → items[i]? = some x →
            ∃ field, Assoc.find? p.name fields = some field ∧
              encodeAs t p.components field = .ok x := by
  constructor
  . exact sameResults_of_akin _ components v w h
  . intro fields hv hnamed u
    exact encodeAs_tuple_eq_ok_iff hv hnamed

/-- An order with two legs, each a record by the names of its fields, and a record whose fields go by
their positions. -/
def order : Value :=
  .record
    [("id", .uint 7),
     ("legs", .array
       [.record [("buy", .bool true), ("owner", .string "a")],
        .record [("buy", .bool false), ("owner", .string "b")]]),
     ("span", .record [("from", .uint 1), ("to", .uint 2)])]

/-- The same order with its fields and those of its legs in other orders, and with more of them. -/
def reordered : Value :=
  .record
    [("note", .string "x"), ("span", .record [("to", .uint 1), ("", .uint 2)]),
     ("legs", .array
       [.record [("owner", .string "a"), ("buy", .bool true)],
        .record [("id", .uint 1), ("owner", .string "b"), ("buy", .bool false)]]),
     ("id", .uint 7), ("id", .uint 8)]

def orderTypes : List AbiType :=
  [.uint 8, .array (.tuple [.bool, .string]), .tuple [.uint 8, .uint 8]]

def orderComponents : List Param :=
  [{ name := "id", type := "uint8" },
   { name := "legs", type := "tuple[]",
     components := [{ name := "buy", type := "bool" }, { name := "owner", type := "string" }] },
   { name := "span", type := "tuple", components := [{ type := "uint8" }, { type := "uint8" }] }]

theorem akin_reordered : Akin (.tuple orderTypes) orderComponents order reordered := by
  simp [Akin, NamedAkin, PositionsAkin, order, reordered, orderTypes, orderComponents, asRecord?,
    isFullyNamed, items?, Assoc.find?]

theorem encodeAs_akin_reordered :
    let item (b : Bool) (s : String) : AbiValue := .tuple [.bool b, .string s]
    let u : AbiValue :=
      .tuple
        [.uint 7 8, .array [item true "a", item false "b"], .tuple [.uint 1 8, .uint 2 8]]
    Akin (.tuple orderTypes) orderComponents order reordered ∧
      encodeAs (.tuple orderTypes) orderComponents order = .ok u ∧
      encodeAs (.tuple orderTypes) orderComponents reordered = .ok u ∧
      isFullyNamed orderComponents orderTypes.length ∧
      ∃ field, order.asRecord?.bind (Assoc.find? "legs") = some field ∧
        encodeAs (.array (.tuple [.bool, .string])) orderComponents[1].components field =
          .ok (.array [item true "a", item false "b"]) := by
  intro item u
  have horder : encodeAs (.tuple orderTypes) orderComponents order = .ok u := by rfl
  have hnamed : isFullyNamed orderComponents orderTypes.length := by decide
  obtain ⟨hsame, hfields⟩ := encodeAs_akin akin_reordered
  obtain ⟨items, heq, -, hitems⟩ := (hfields _ rfl hnamed u).1 horder
  obtain rfl := AbiValue.tuple.inj heq
  exact ⟨akin_reordered, horder, (hsame u).1 horder, hnamed, hitems 1 _ _ _ rfl rfl rfl⟩

end Value

end Registrar
