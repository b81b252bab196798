import Registrar.Coding
import Registrar.Proofs.Decimal

/-!
This module contains the proof that what a contract returned can be given back to it: a value that
has been decoded is encoded, for the same type and components, as the very value it was decoded from.
The values of primitive types come first, then sequences of items and fields, and then all values.
-/

namespace Registrar

namespace AbiType

mutual

/-- Whether a type is one of data: its widths are those of the contract language, and no part of it
is a function. -/
def isData : AbiType → Bool
  | .bool => true
  | .int bits => bits % 8 = 0 && 8 ≤ bits && bits ≤ 256
  | .uint bits => bits % 8 = 0 && 8 ≤ bits && bits ≤ 256
  | .fixedBytes size => 1 ≤ size && size ≤ 32
  | .address => true
  | .function => false
  | .bytes => true
  | .string => true
  | .array item => isData item
  | .fixedArray item _ => isData item
  | .tuple items => areData items

def areData : List AbiType → Bool
  | [] => true
  | t :: r => isData t && areData r

end

mutual

/-- Whether, in every tuple all of whose components have names, these names are different. -/
def namesDiffer : AbiType → List Param → Bool
  | .array item, components => namesDiffer item components
  | .fixedArray item _, components => namesDiffer item components
  | .tuple items, components =>
    (!Value.isFullyNamed components items.length || (components.map Param.name).Nodup) &&
      itemNamesDiffer items components
  | _, _ => true

/-- Whether the names differ in the items of a tuple, whose components may be missing at the end. -/
def itemNamesDiffer : List AbiType → List Param → Bool
  | [], _ => true
  | t :: r, components =>
    namesDiffer t ((components.head?.map Param.components).getD []) &&
      itemNamesDiffer r components.tail

end

end AbiType

namespace AbiValue

mutual

/-- Whether a value is one of a type: a number lies within the width, and the bytes of a word behind
the size of a byte string are zero. -/
def hasType : AbiValue → AbiType → Bool
  | .bool _, .bool => true
  | .int w n, .int bits => n = bits && Integer.fitsSigned bits w.toInt
  | .uint w n, .uint bits => n = bits && w.toNat < 2 ^ bits
  | .fixedBytes w n, .fixedBytes size =>
    n = size && w.bytes.drop size = List.replicate (32 - size) 0
  | .address _, .address => true
  | .bytes _, .bytes => true
  | .string _, .string => true
  | .array items, .array item => allHaveType items item
  | .fixedArray items, .fixedArray item length => items.length = length && allHaveType items item
  | .tuple items, .tuple types => haveTypes items types
  | _, _ => false

def allHaveType : List AbiValue → AbiType → Bool
  | [], _ => true
  | v :: r, t => hasType v t && allHaveType r t

def haveTypes : List AbiValue → List AbiType → Bool
  | [], [] => true
  | v :: r, t :: ts => hasType v t && haveTypes r ts
  | _, _ => false

end

end AbiValue

namespace Value

theorem convert_bool (b : Bool) : convert .bool (.bool b) = .ok (.bool b) := by
  cases b <;> rfl

theorem convert_string (s : String) : convert .string (.string s) = .ok (.string s) := by
  rfl

theorem convert_address (a : Address) : convert .address (.address a) = .ok (.address a) := by
  rfl

theorem convert_uint {bits : Nat} {w : Word} (hb : bits ≤ 256) (hw : w.toNat < 2 ^ bits) :
    convert (.uint bits) (.uint w) = .ok (.uint w) := by
  have hread : Integer.readUnsigned bits (Decimal.text w.toNat).toList = .ok w.toNat := by
    rw [Decimal.text, String.toList_ofList]
    exact Integer.readUnsigned_ofNat hb hw
  show (ofText (.uint bits) (Decimal.text w.toNat)).mapError _ = _
  unfold ofText
  dsimp only
  rw [hread]
  show Except.ok (Value.uint (BitVec.ofNat 256 w.toNat)) = _
  rw [BitVec.ofNat_toNat, BitVec.setWidth_eq]

theorem convert_int {bits : Nat} {w : Word} (hb : bits ≤ 256)
    (hw : Integer.fitsSigned bits w.toInt) : convert (.int bits) (.int w) = .ok (.int w) := by
  have hread : Integer.readSigned bits (Decimal.intText w.toInt).toList = .ok w.toInt := by
    rw [Decimal.intText, String.toList_ofList]
    exact Integer.readSigned_ofInt hb hw
  show (ofText (.int bits) (Decimal.intText w.toInt)).mapError _ = _
  unfold ofText
  dsimp only
  rw [hread]
  show Except.ok (Value.int (BitVec.ofInt 256 w.toInt)) = _
  rw [BitVec.ofInt_toInt]

theorem leftAligned_take {w : Word} {size : Nat} (hs : size ≤ 32)
    (hw : w.bytes.drop size = List.replicate (32 - size) 0) :
    leftAligned (w.bytes.take size) = w := by
  have hlength : (w.bytes.take size).length = size := by
    rw [List.length_take, Word.length_bytes]
    omega
  unfold leftAligned
  rw [hlength, ← hw, List.take_append_drop]
  exact Word.ofBytes_bytes w

theorem encodeAs_fixedBytes {w : Word} {size : Nat} {components : List Param} (hs : size ≤ 32)
    (hw : w.bytes.drop size = List.replicate (32 - size) 0) :
    encodeAs (.fixedBytes size) components (.bytes (w.bytes.take size)) =
      .ok (.fixedBytes w size) := by
  have hlength : (w.bytes.take size).length = size := by
    rw [List.length_take, Word.length_bytes]
    omega
  rw [encodeAs]
  show (if (w.bytes.take size).length = size then _ else _) = _
  rw [if_pos hlength, leftAligned_take hs hw]

theorem mapM_ofAbiItems {components : List Param} {items : List AbiValue}
    {f : Value → Except ConversionError AbiValue}
    (h : ∀ v ∈ items, f (ofAbi components v) = .ok v) :
    (ofAbiItems components items).mapM f = .ok items := by
  induction items with
  | nil => rfl
  | cons v r ih =>
    rw [ofAbiItems, List.mapM_cons, h v List.mem_cons_self]
    rw [ih fun u hu => h u (List.mem_cons_of_mem v hu)]
    rfl

theorem length_ofAbiItems (components : List Param) (items : List AbiValue) :
    (ofAbiItems components items).length = items.length := by
  induction items with
  | nil => rfl
  | cons v r ih => rw [ofAbiItems, List.length_cons, List.length_cons, ih]

theorem length_ofAbiFields (components : List Param) (position : Nat) (items : List AbiValue) :
    (ofAbiFields components position items).length = items.length := by
  induction items generalizing components position with
  | nil => rfl
  | cons v r ih => rw [ofAbiFields, List.length_cons, List.length_cons, ih]

def itemComponents (components : List Param) (position : Nat) : List Param :=
  (components[position]?.map Param.components).getD []

theorem encodePositional_ofAbiFields {types : List AbiType} {components : List Param}
    {position : Nat} {items : List AbiValue} (hlength : items.length = types.length)
    (h : ∀ i t v, types[i]? = some t → items[i]? = some v →
      encodeAs t (itemComponents components i) (ofAbi (itemComponents components i) v) = .ok v) :
    encodePositional types components ((ofAbiFields components position items).map (·.2)) =
      .ok items := by
  induction types generalizing components position items with
  | nil =>
    obtain rfl : items = [] := List.length_eq_zero_iff.1 hlength
    rfl
  | cons t types ih =>
    cases items with
    | nil => simp at hlength
    | cons v items =>
      -- the items behind the first one have the components behind the first one
      have hhead : (components.head?.map Param.components).getD [] = itemComponents components 0 := by
        rw [itemComponents, List.head?_eq_getElem?]
      have htail (i : Nat) : itemComponents components.tail i = itemComponents components (i + 1) := by
        rw [itemComponents, itemComponents, List.getElem?_tail]
      rw [ofAbiFields, List.map_cons, encodePositional, hhead, h 0 t v rfl rfl]
      have hrest : encodePositional types components.tail
          ((ofAbiFields components.tail (position + 1) items).map (·.2)) = .ok items := by
        apply ih
        . simpa using hlength
        . intro i t' v' ht' hv'
          rw [htail]
          exact h (i + 1) t' v' ht' hv'
      rw [hrest]
      rfl

theorem find?_ofAbiFields {components : List Param} {position i : Nat} {items : List AbiValue}
    {p : Param} {v : AbiValue} (hnames : ∀ q ∈ components, q.name ≠ "")
    (hdiffer : (components.map Param.name).Nodup) (hp : components[i]? = some p)
    (hv : items[i]? = some v) :
    Assoc.find? p.name (ofAbiFields components position items) =
      some (ofAbi p.components v) := by
  induction components generalizing position i items with
  | nil => simp at hp
  | cons q components ih =>
    cases items with
    | nil => simp at hv
    | cons u items =>
      have hq : componentName position (some q) = q.name := by
        have := hnames q List.mem_cons_self
        simp [componentName, this]
      rw [List.map_cons, List.nodup_cons] at hdiffer
      rw [ofAbiFields, List.head?_cons, hq, Assoc.find?]
      cases i with
      | zero =>
        cases hp
        cases hv
        rw [if_pos rfl]
        rfl
      | succ i =>
        rw [List.getElem?_cons_succ] at hp hv
        have hmem : p.name ∈ components.map Param.name :=
          List.mem_map_of_mem (List.mem_of_getElem? hp)
        -- no later name is that of the first field, so that it is found behind it
        rw [if_neg]
        . apply ih _ hdiffer.2 hp hv
          intro r hr
          exact hnames r (List.mem_cons_of_mem q hr)
        . intro heq
          rw [heq] at hdiffer
          exact hdiffer.1 hmem

theorem encodeNamed_eq_ok {types : List AbiType} {components : List Param} {items : List AbiValue}
    {fields : Record} (hcomponents : components.length = types.length)
    (hlength : items.length = types.length)
    (h : ∀ (i : Nat) (t : AbiType) (p : Param) (v : AbiValue), types[i]? = some t →
      components[i]? = some p → items[i]? = some v →
      ∃ x, Assoc.find? p.name fields = some x ∧ encodeAs t p.components x = .ok v) :
    encodeNamed types components fields = .ok items := by
  induction types generalizing components items with
  | nil =>
    obtain rfl : items = [] := List.length_eq_zero_iff.1 hlength
    rfl
  | cons t types ih =>
    cases components with
    | nil => simp at hcomponents
    | cons p components =>
      cases items with
      | nil => simp at hlength
      | cons v items =>
        obtain ⟨x, hx, hencode⟩ := h 0 t p v rfl rfl rfl
        have hrest : encodeNamed types components fields = .ok items := by
          apply ih
          . simpa using hcomponents
          . simpa using hlength
          . intro i t' p' v' ht' hp' hv'
            exact h (i + 1) t' p' v' ht' hp' hv'
        rw [encodeNamed, hx]
        dsimp only
        rw [hencode, hrest]
        rfl

end Value

namespace AbiType

theorem isData_of_areData {types : List AbiType} {i : Nat} {t : AbiType} (h : areData types)
    (ht : types[i]? = some t) : t.isData := by
  induction types generalizing i with
  | nil => simp at ht
  | cons u types ih =>
    simp only [areData, Bool.and_eq_true] at h
    cases i with
    | zero =>
      cases ht
      exact h.1
    | succ i => exact ih h.2 ht

theorem namesDiffer_of_itemNamesDiffer {types : List AbiType} {components : List Param} {i : Nat}
    {t : AbiType} (h : itemNamesDiffer types components) (ht : types[i]? = some t) :
    namesDiffer t (Value.itemComponents components i) := by
  induction types generalizing components i with
  | nil => simp at ht
  | cons u types ih =>
    simp only [itemNamesDiffer, Bool.and_eq_true] at h
    cases i with
    | zero =>
      cases ht
      rw [Value.itemComponents, ← List.head?_eq_getElem?]
      exact h.1
    | succ i =>
      have := ih h.2 ht
      rw [Value.itemComponents, List.getElem?_tail] at this
      exact this

end AbiType

namespace AbiValue

theorem hasType_of_allHaveType {items : List AbiValue} {v : AbiValue} {t : AbiType}
    (h : allHaveType items t) (hv : v ∈ items) : v.hasType t := by
  induction items with
  | nil => cases hv
  | cons u items ih =>
    simp only [allHaveType, Bool.and_eq_true] at h
    cases List.mem_cons.1 hv with
    | inl heq =>
      rw [heq]
      exact h.1
    | inr hv => exact ih h.2 hv

theorem length_eq_of_haveTypes {items : List AbiValue} {types : List AbiType}
    (h : haveTypes items types) : items.length = types.length := by
  induction items generalizing types with
  | nil =>
    cases types with
    | nil => rfl
    | cons t types => simp [haveTypes] at h
  | cons v items ih =>
    cases types with
    | nil => simp [haveTypes] at h
    | cons t types =>
      simp only [haveTypes, Bool.and_eq_true] at h
      rw [List.length_cons, List.length_cons, ih h.2]

theorem hasType_of_haveTypes {items : List AbiValue} {types : List AbiType} {i : Nat}
    {v : AbiValue} {t : AbiType} (h : haveTypes items types) (hv : items[i]? = some v)
    (ht : types[i]? = some t) : v.hasType t := by
  induction items generalizing types i with
  | nil => simp at hv
  | cons u items ih =>
    cases types with
    | nil => simp at ht
    | cons s types =>
      simp only [haveTypes, Bool.and_eq_true] at h
      cases i with
      | zero =>
        cases hv
        cases ht
        exact h.1
      | succ i => exact ih h.2 hv ht

end AbiValue

namespace Value

/-- A tuple is encoded as what it was decoded from if its items are, each for its own components. -/
theorem encodeAs_ofAbi_tuple {types : List AbiType} {components : List Param}
    {items : List AbiValue} (hlength : items.length = types.length)
    (hdiffer : isFullyNamed components types.length → (components.map Param.name).Nodup)
    (h : ∀ i t v, types[i]? = some t → items[i]? = some v →
      encodeAs t (itemComponents components i) (ofAbi (itemComponents components i) v) = .ok v) :
    encodeAs (.tuple types) components (ofAbi components (.tuple items)) = .ok (.tuple items) := by
  rw [ofAbi, encodeAs]
  dsimp only [asRecord?]
  split
  . next hnamed =>
    have hdiffer := hdiffer hnamed
    simp only [isFullyNamed, Bool.and_eq_true, decide_eq_true_eq, List.all_eq_true] at hnamed
    obtain ⟨hcomponents, hnames⟩ := hnamed
    have hencode : encodeNamed types components (ofAbiFields components 0 items) = .ok items := by
      apply encodeNamed_eq_ok hcomponents hlength
      intro i t p v ht hp hv
      refine ⟨ofAbi p.components v, ?_, ?_⟩
      . apply find?_ofAbiFields _ hdiffer hp hv
        intro q hq
        simpa using hnames q hq
      . have := h i t v ht hv
        rw [itemComponents, hp] at this
        exact this
    rw [hencode]
    rfl
  . rw [length_ofAbiFields, if_pos hlength, encodePositional_ofAbiFields hlength h]
    rfl

/-- What a contract returned for a type is encoded for that type as what it was, with any components
that, where they name all fields of a tuple, give them different names. -/
theorem encodeAs_ofAbi (v : AbiValue) (t : AbiType) (components : List Param) (ht : t.isData)
    (hv : v.hasType t) (hn : t.namesDiffer components) :
    encodeAs t components (ofAbi components v) = .ok v := by
  -- a value whose form is not that of the type is not of the type
  cases t with
  | bool =>
    cases v with
    | bool b =>
      rw [ofAbi, encodeAs, convert_bool]
      rfl
    | _ => simp [AbiValue.hasType] at hv
  | int bits =>
    cases v with
    | int w n =>
      simp only [AbiValue.hasType, AbiType.isData, Bool.and_eq_true, decide_eq_true_eq] at hv ht
      rw [ofAbi, encodeAs, convert_int ht.2 hv.2, hv.1]
      rfl
    | _ => simp [AbiValue.hasType] at hv
  | uint bits =>
    cases v with
    | uint w n =>
      simp only [AbiValue.hasType, AbiType.isData, Bool.and_eq_true, decide_eq_true_eq] at hv ht
      rw [ofAbi, encodeAs, convert_uint ht.2 hv.2, hv.1]
      rfl
    | _ => simp [AbiValue.hasType] at hv
  | fixedBytes size =>
    cases v with
    | fixedBytes w n =>
      simp only [AbiValue.hasType, AbiType.isData, Bool.and_eq_true, decide_eq_true_eq] at hv ht
      obtain ⟨rfl, hw⟩ := hv
      rw [ofAbi]
      exact encodeAs_fixedBytes ht.2 hw
    | _ => simp [AbiValue.hasType] at hv
  | address =>
    cases v with
    | address a =>
      rw [ofAbi, encodeAs, convert_address]
      rfl
    | _ => simp [AbiValue.hasType] at hv
  | function => simp [AbiType.isData] at ht
  | bytes =>
    cases v with
    | bytes b =>
      rw [ofAbi, encodeAs]
      rfl
    | _ => simp [AbiValue.hasType] at hv
  | string =>
    cases v with
    | string s =>
      rw [ofAbi, encodeAs, convert_string]
      rfl
    | _ => simp [AbiValue.hasType] at hv
  | array item =>
    cases v with
    | array items =>
      rw [AbiValue.hasType] at hv
      rw [AbiType.isData] at ht
      rw [AbiType.namesDiffer] at hn
      rw [ofAbi, encodeAs, mapM_ofAbiItems]
      . rfl
      . intro u hu
        exact encodeAs_ofAbi u item components ht (AbiValue.hasType_of_allHaveType hv hu) hn
    | _ => simp [AbiValue.hasType] at hv
  | fixedArray item length =>
    cases v with
    | fixedArray items =>
      simp only [AbiValue.hasType, Bool.and_eq_true, decide_eq_true_eq] at hv
      rw [AbiType.isData] at ht
      rw [AbiType.namesDiffer] at hn
      rw [ofAbi, encodeAs, length_ofAbiItems, if_pos hv.1, mapM_ofAbiItems]
      . rfl
      . intro u hu
        exact encodeAs_ofAbi u item components ht (AbiValue.hasType_of_allHaveType hv.2 hu) hn
    | _ => simp [AbiValue.hasType] at hv
  | tuple types =>
    cases v with
    | tuple items =>
      rw [AbiValue.hasType] at hv
      rw [AbiType.isData] at ht
      simp only [AbiType.namesDiffer, Bool.and_eq_true, Bool.or_eq_true, Bool.not_eq_true',
        decide_eq_true_eq] at hn
      apply encodeAs_ofAbi_tuple (AbiValue.length_eq_of_haveTypes hv)
      . intro hnamed
        simpa [hnamed] using hn.1
      . intro i u w hu hw
        have hmem : w ∈ items := List.mem_of_getElem? hw
        exact encodeAs_ofAbi w u _ (AbiType.isData_of_areData ht hu)
          (AbiValue.hasType_of_haveTypes hv hw hu) (AbiType.namesDiffer_of_itemNamesDiffer hn.2 hu)
    | _ => simp [AbiValue.hasType] at hv
termination_by v

/-- A structure with the least integer of a narrow and of a wide type, the greatest number of words,
the text of a number, and another structure with names of its own. -/
theorem encodeAs_ofAbi_structure :
    let t := AbiType.tuple
      [.int 8, .int 24, .fixedArray (.uint 256) 2, .fixedBytes 2, .array (.tuple [.bool, .string])]
    let components : List Param :=
      [{ name := "a", type := "int8" }, { name := "b", type := "int24" },
       { name := "c", type := "uint256[2]" }, { name := "d", type := "bytes2" },
       { name := "e", type := "tuple[]",
         components := [{ name := "f", type := "bool" }, { name := "a", type := "string" }] }]
    let v := AbiValue.tuple
      [.int (BitVec.ofInt 256 (-128)) 8, .int (BitVec.ofInt 256 (-8388608)) 24,
       .fixedArray [.uint (BitVec.allOnes 256) 256, .uint 0 256],
       .fixedBytes (BitVec.ofNat 256 (0xabcd * 2 ^ 240)) 2,
       .array [.tuple [.bool true, .string "1"], .tuple [.bool false, .string ""]]]
    t.isData ∧ v.hasType t ∧ t.namesDiffer components ∧
      encodeAs t components (ofAbi components v) = .ok v := by
  intro t components v
  have ht : t.isData := by decide +kernel
  have hv : v.hasType t := by decide +kernel
  have hn : t.namesDiffer components := by decide +kernel
  exact ⟨ht, hv, hn, encodeAs_ofAbi v t components ht hv hn⟩

end Value

end Registrar
