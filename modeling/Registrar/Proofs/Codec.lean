import Registrar.Abi.Codec
import Registrar.Proofs.Arguments
import Registrar.Proofs.Codec.Text
import Registrar.Proofs.Fitting

/-!
This module contains the proof that reading gives back what was written: the parts of a sequence lie
where the heads say, and each of them is read as the value that it was written for. This holds for
the values of all types that have no empty parts and do not nest offsets more deeply than the reader
follows them, and so for the arguments of every call to a method with such inputs.
-/

namespace Registrar

theorem Bytes.append_prefix_iff {a b c : Bytes} :
    a ++ b <+: c ↔ a <+: c ∧ b <+: c.drop a.length := by
  constructor
  . rintro ⟨r, rfl⟩
    rw [List.append_assoc, List.drop_left]
    exact ⟨List.prefix_append a (b ++ r), List.prefix_append b r⟩
  . rintro ⟨⟨r, rfl⟩, h⟩
    rw [List.drop_left] at h
    exact (List.prefix_append_right_inj a).2 h

namespace AbiType

mutual

/-- Whether no part of a type is empty: a fixed array without items or a tuple without components.
Such parts take up no bytes, and the reader refuses an array of more items than there are bytes. -/
def isSolid : AbiType → Bool
  | .array item => isSolid item
  | .fixedArray item length => 0 < length && isSolid item
  | .tuple items => !items.isEmpty && areSolid items
  | _ => true

def areSolid : List AbiType → Bool
  | [] => true
  | t :: r => isSolid t && areSolid r

end

mutual

/-- How many buffers a reader opens inside each other: one for every offset that it follows, and one
for the items of an array. -/
def depth : AbiType → Nat
  | .bytes => 1
  | .string => 1
  | .array item => depth item + 2
  | .fixedArray item _ => depth item + if isDynamic item then 1 else 0
  | .tuple items => depths items + if anyDynamic items then 1 else 0
  | _ => 0

def depths : List AbiType → Nat
  | [] => 0
  | t :: r => max (depth t) (depths r)

end

end AbiType

attribute [local simp] AbiType.isDynamic AbiValue.isDynamic AbiValue.anyDynamic AbiValue.hasShape
  AbiValue.haveShapes Abi.encodeValue Abi.decodeValue

namespace AbiValue

mutual

/-- Values and types of which no part is empty agree on what belongs into the tail. -/
theorem isDynamic_eq (v : AbiValue) (t : AbiType) (hshape : v.hasShape t) (hsolid : t.isSolid) :
    v.isDynamic = t.isDynamic := by
  cases v with
  | fixedArray items =>
    cases t with
    | fixedArray item length =>
      simp only [hasShape, AbiType.isSolid, Bool.and_eq_true, decide_eq_true_eq] at hshape hsolid
      cases items with
      | nil =>
        rw [← hshape.1] at hsolid
        cases hsolid.1
      | cons v items =>
        rw [allHaveShape, Bool.and_eq_true] at hshape
        exact isDynamic_eq v item hshape.2.1 hsolid.2
    | _ => simp at hshape
  | tuple items =>
    cases t with
    | tuple types =>
      rw [hasShape] at hshape
      rw [AbiType.isSolid, Bool.and_eq_true] at hsolid
      exact anyDynamic_eq items types hshape hsolid.2
    | _ => simp at hshape
  | _ =>
    cases t with
    | _ => simp at *

theorem anyDynamic_eq (vs : List AbiValue) (ts : List AbiType) (hshapes : haveShapes vs ts)
    (hsolid : AbiType.areSolid ts) : anyDynamic vs = AbiType.anyDynamic ts := by
  cases vs with
  | nil =>
    cases ts with
    | nil => rfl
    | cons t ts => simp at hshapes
  | cons v vs =>
    cases ts with
    | nil => simp at hshapes
    | cons t ts =>
      rw [haveShapes, Bool.and_eq_true] at hshapes
      rw [AbiType.areSolid, Bool.and_eq_true] at hsolid
      rw [anyDynamic, AbiType.anyDynamic, isDynamic_eq v t hshapes.1 hsolid.1,
        anyDynamic_eq vs ts hshapes.2 hsolid.2]

end

end AbiValue

namespace Abi

theorem toNat_ofNat_of_lt {n : Nat} (h : n < 2 ^ 256) : Bytes.toNat (Bytes.ofNat 32 n) = n := by
  rw [Bytes.toNat_ofNat]
  exact Nat.mod_eq_of_lt h

namespace Part

/-- A part lies where its head begins: its content does, or an offset to the content. -/
def Lies (data : Bytes) (position : Nat) (p : Part) : Prop :=
  if p.isDynamic then
    ∃ offset, offset ≤ data.length ∧ Bytes.ofNat 32 offset <+: data.drop position ∧
      p.content <+: data.drop offset
  else p.content <+: data.drop position

/-- The heads of parts lie one behind the other. -/
def Lie (data : Bytes) : (position : Nat) → List Part → Prop
  | _, [] => True
  | position, p :: r => p.Lies data position ∧ Lie data (position + p.headSize) r

variable {data : Bytes} {position : Nat} {parts : List Part} {p : Part}

theorem length_heads (tail : Nat) (parts : List Part) :
    (heads tail parts).length = headSizes parts := by
  induction parts generalizing tail with
  | nil => rfl
  | cons p r ih =>
    unfold heads headSizes headSize
    split
    . rw [List.length_append, Bytes.length_ofNat, ih]
    . rw [List.length_append, ih]

theorem headSizes_le_length_join (parts : List Part) : headSizes parts ≤ (join parts).length := by
  unfold join
  rw [List.length_append, length_heads]
  omega

theorem lie_of_isPrefix {tail : Nat} (hheads : heads tail parts <+: data.drop position)
    (htails : tails parts <+: data.drop tail) (htail : tail ≤ data.length) :
    Lie data position parts := by
  induction parts generalizing tail position with
  | nil => trivial
  | cons p r ih =>
    unfold heads at hheads
    unfold tails at htails
    unfold Lie Lies headSize
    split at hheads
    . next hp =>
      -- The content begins at the offset, and the tails of the other parts right behind it.
      rw [if_pos hp] at htails
      rw [if_pos hp, if_pos hp]
      rw [Bytes.append_prefix_iff, List.drop_drop] at hheads htails
      rw [Bytes.length_ofNat] at hheads
      have hlength := htails.1.length_le
      rw [List.length_drop] at hlength
      refine ⟨⟨tail, htail, hheads.1, htails.1⟩, ?_⟩
      apply ih hheads.2 htails.2
      omega
    . next hp =>
      rw [if_neg hp] at htails
      rw [if_neg hp, if_neg hp]
      rw [Bytes.append_prefix_iff, List.drop_drop] at hheads
      exact ⟨hheads.1, ih hheads.2 htails htail⟩

/-- What has been joined lies in any data that begins with it. -/
theorem lie_of_join (h : join parts <+: data) : Lie data 0 parts := by
  unfold join at h
  rw [Bytes.append_prefix_iff, length_heads] at h
  apply lie_of_isPrefix h.1 h.2
  rw [← length_heads (headSizes parts) parts]
  exact h.1.length_le

theorem tails_eq_nil (hparts : ∀ p ∈ parts, p.isDynamic = false) : tails parts = [] := by
  induction parts with
  | nil => rfl
  | cons p r ih =>
    rw [List.forall_mem_cons] at hparts
    rw [tails, hparts.1, if_neg Bool.false_ne_true]
    exact ih hparts.2

theorem length_join (hparts : ∀ p ∈ parts, p.isDynamic = false) :
    (join parts).length = headSizes parts := by
  unfold join
  rw [tails_eq_nil hparts, List.append_nil, length_heads]

/-- Parts without a tail may lie anywhere in the data. -/
theorem lie_of_join_static (hparts : ∀ p ∈ parts, p.isDynamic = false)
    (h : join parts <+: data.drop position) : Lie data position parts := by
  have hlength := h.length_le
  rw [length_join hparts, List.length_drop] at hlength
  unfold join at h
  rw [tails_eq_nil hparts, List.append_nil] at h
  apply lie_of_isPrefix h
  . rw [tails_eq_nil hparts]
    exact List.nil_prefix
  . omega

end Part

namespace Buffer

variable {b : Buffer} {i : Nat} {w c : Bytes}

theorem word?_of_isPrefix (hw : w.length = 32) (h : w <+: b.data.drop i) : b.word? i = some w := by
  obtain ⟨r, h⟩ := h
  unfold word?
  dsimp only
  rw [← h, ← hw, List.take_left, if_pos rfl]

theorem word?_zero_of_isPrefix (hw : w.length = 32) (h : w <+: b.data) : b.word? 0 = some w :=
  word?_of_isPrefix hw h

theorem child?_of_le (hdepth : b.depth < depthLimit) (h : i ≤ b.data.length) :
    b.child? i = some ⟨b.data.drop i, b.depth + 1⟩ := by
  unfold child?
  rw [if_neg]
  simp only [Bool.or_eq_true, decide_eq_true_eq]
  omega

theorem bytes?_of_isPrefix (h : encodeBytes c <+: b.data) (hsize : b.data.length < 2 ^ 256) :
    b.bytes? = some c := by
  unfold encodeBytes padRight at h
  rw [Bytes.append_prefix_iff, Bytes.length_ofNat, Bytes.append_prefix_iff] at h
  obtain ⟨hlength, ⟨r, hcontent⟩, -⟩ := h
  have hc := congrArg List.length hcontent
  rw [List.length_append, List.length_drop] at hc
  unfold bytes?
  rw [word?_zero_of_isPrefix (Bytes.length_ofNat 32 c.length) hlength]
  dsimp only [Option.bind_eq_bind, Option.bind_some]
  rw [toNat_ofNat_of_lt (by omega), ← hcontent, List.take_left, if_pos]
  rw [List.length_append]
  omega

end Buffer

/-- The part of a sequence that a value is written as. -/
def partOf (v : AbiValue) : Part :=
  ⟨v.isDynamic, encodeValue v⟩

theorem encodeParts_cons (v : AbiValue) (vs : List AbiValue) :
    encodeParts (v :: vs) = partOf v :: encodeParts vs := by
  rw [encodeParts]
  rfl

theorem headSize_le_of_join {v : AbiValue} {vs : List AbiValue} :
    (partOf v).headSize ≤ (Part.join (encodeParts (v :: vs))).length := by
  apply Nat.le_trans _ (Part.headSizes_le_length_join _)
  rw [encodeParts_cons, Part.headSizes]
  exact Nat.le_add_right _ _

/-- The head of a value takes up room, whatever the value. -/
theorem headSize_pos (v : AbiValue) (t : AbiType) (hshape : v.hasShape t) (hsolid : t.isSolid) :
    0 < (partOf v).headSize := by
  unfold partOf Part.headSize
  split
  . decide
  . dsimp only
    cases v with
    | fixedArray items =>
      cases t with
      | fixedArray item length =>
        simp only [AbiValue.hasShape, AbiType.isSolid, Bool.and_eq_true, decide_eq_true_eq]
          at hshape hsolid
        cases items with
        | nil =>
          rw [← hshape.1] at hsolid
          cases hsolid.1
        | cons v items =>
          rw [AbiValue.allHaveShape, Bool.and_eq_true] at hshape
          rw [encodeValue]
          exact Nat.lt_of_lt_of_le (headSize_pos v item hshape.2.1 hsolid.2) headSize_le_of_join
      | _ => simp at hshape
    | tuple items =>
      cases t with
      | tuple types =>
        rw [AbiValue.hasShape] at hshape
        rw [AbiType.isSolid, Bool.and_eq_true] at hsolid
        cases items with
        | nil =>
          cases types with
          | nil => cases hsolid.1
          | cons t types => simp at hshape
        | cons v items =>
          cases types with
          | nil => cases hsolid.1
          | cons t types =>
            rw [AbiValue.haveShapes, Bool.and_eq_true] at hshape
            rw [AbiType.areSolid, Bool.and_eq_true] at hsolid
            rw [encodeValue]
            exact Nat.lt_of_lt_of_le (headSize_pos v t hshape.1 hsolid.2.1) headSize_le_of_join
      | _ => simp at hshape
    | function c => simp at hshape
    | bytes c => simp at *
    | string c => simp at *
    | array items => simp at *
    | _ => simp

theorem length_le_headSizes {vs : List AbiValue} {t : AbiType}
    (hshapes : AbiValue.allHaveShape vs t) (hsolid : t.isSolid) :
    vs.length ≤ Part.headSizes (encodeParts vs) := by
  induction vs with
  | nil => exact Nat.zero_le _
  | cons v vs ih =>
    rw [AbiValue.allHaveShape, Bool.and_eq_true] at hshapes
    have hv := headSize_pos v t hshapes.1 hsolid
    have hvs := ih hshapes.2
    rw [encodeParts_cons, Part.headSizes, List.length_cons]
    omega

theorem static_of_anyDynamic {vs : List AbiValue} (h : AbiValue.anyDynamic vs = false) :
    ∀ p ∈ encodeParts vs, p.isDynamic = false := by
  induction vs with
  | nil =>
    intro p hp
    cases hp
  | cons v vs ih =>
    rw [AbiValue.anyDynamic, Bool.or_eq_false_iff] at h
    rw [encodeParts_cons]
    exact List.forall_mem_cons.2 ⟨h.1, ih h.2⟩

theorem anyDynamic_of_static_item {vs : List AbiValue} {t : AbiType}
    (hshapes : AbiValue.allHaveShape vs t) (hsolid : t.isSolid) (ht : t.isDynamic = false) :
    AbiValue.anyDynamic vs = false := by
  induction vs with
  | nil => rfl
  | cons v vs ih =>
    rw [AbiValue.allHaveShape, Bool.and_eq_true] at hshapes
    rw [AbiValue.anyDynamic, Bool.or_eq_false_iff]
    exact ⟨(AbiValue.isDynamic_eq v t hshapes.1 hsolid).trans ht, ih hshapes.2⟩

/-- A value is read where its part lies, if the offsets that are met do not go too deep. -/
def Reads (v : AbiValue) (t : AbiType) : Prop :=
  ∀ (b : Buffer) (i : Nat), b.depth + t.depth ≤ depthLimit → b.data.length < 2 ^ 256 →
    (partOf v).Lies b.data i → decodeValue t b i = some (v, i + (partOf v).headSize)

def ReadsItems (vs : List AbiValue) (t : AbiType) : Prop :=
  ∀ (b : Buffer) (i : Nat), b.depth + t.depth ≤ depthLimit → b.data.length < 2 ^ 256 →
    Part.Lie b.data i (encodeParts vs) →
      decodeMany (decodeValue t b) vs.length i = some (vs, i + Part.headSizes (encodeParts vs))

def ReadsSequence (vs : List AbiValue) (ts : List AbiType) : Prop :=
  ∀ (b : Buffer) (i : Nat), b.depth + AbiType.depths ts ≤ depthLimit → b.data.length < 2 ^ 256 →
    Part.Lie b.data i (encodeParts vs) →
      decodeSequence ts b i = some (vs, i + Part.headSizes (encodeParts vs))

variable {v : AbiValue} {vs : List AbiValue} {t : AbiType} {ts : List AbiType}
variable {b : Buffer} {i : Nat}

theorem headSize_of_isDynamic (hv : v.isDynamic = true) : (partOf v).headSize = 32 := by
  unfold partOf Part.headSize
  rw [if_pos hv]

theorem headSize_of_static (hv : v.isDynamic = false) :
    (partOf v).headSize = (encodeValue v).length := by
  unfold partOf Part.headSize
  rw [if_neg (Bool.eq_false_iff.1 hv)]

theorem lies_static_iff {data : Bytes} (hv : v.isDynamic = false) :
    (partOf v).Lies data i ↔ encodeValue v <+: data.drop i := by
  unfold partOf Part.Lies
  rw [if_neg (Bool.eq_false_iff.1 hv)]

theorem word_eq {w : Bytes} {f : Bytes → AbiValue} (hv : v.isDynamic = false)
    (hw : encodeValue v = w) (hlength : w.length = 32) (hf : f w = v)
    (hlies : (partOf v).Lies b.data i) :
    (do
      let w ← b.word? i
      return (f w, i + 32)) = some (v, i + (partOf v).headSize) := by
  rw [lies_static_iff hv, hw] at hlies
  rw [headSize_of_static hv, hw, hlength, Buffer.word?_of_isPrefix hlength hlies, ← hf]
  rfl

theorem reads_bool (c : Bool) : Reads (.bool c) .bool := by
  intro b i _ _ hlies
  have hw : encodeValue (.bool c) = Bytes.ofNat 32 (if c then 1 else 0) := by rw [encodeValue]
  have hf : AbiValue.bool (Bytes.toNat (Bytes.ofNat 32 (if c then 1 else 0)) ≠ 0) = .bool c := by
    rw [toNat_ofNat_of_lt]
    . cases c with
      | false => rfl
      | true => rfl
    . split
      . decide
      . decide
  rw [decodeValue]
  exact word_eq (f := fun w => .bool (Bytes.toNat w ≠ 0)) rfl hw (Bytes.length_ofNat 32 _) hf hlies

theorem reads_word {f : Word → AbiValue} {w : Word} (hv : (f w).isDynamic = false)
    (hw : encodeValue (f w) = w.bytes)
    (ht : ∀ (b : Buffer) (i : Nat), decodeValue t b i = do
      let w ← b.word? i
      return (f (Word.ofBytes w), i + 32)) : Reads (f w) t := by
  intro b i _ _ hlies
  have hf : f (Word.ofBytes w.bytes) = f w := by rw [Word.ofBytes_bytes]
  rw [ht]
  exact word_eq (f := fun w => f (Word.ofBytes w)) hv hw (Word.length_bytes w) hf hlies

theorem reads_int (w : Word) (bits : Nat) : Reads (.int w bits) (.int bits) := by
  apply reads_word (f := fun w => .int w bits) rfl
  . rw [encodeValue]
  . intro b i
    rw [decodeValue]

theorem reads_uint (w : Word) (bits : Nat) : Reads (.uint w bits) (.uint bits) := by
  apply reads_word (f := fun w => .uint w bits) rfl
  . rw [encodeValue]
  . intro b i
    rw [decodeValue]

theorem reads_fixedBytes (w : Word) (size : Nat) :
    Reads (.fixedBytes w size) (.fixedBytes size) := by
  apply reads_word (f := fun w => .fixedBytes w size) rfl
  . rw [encodeValue]
  . intro b i
    rw [decodeValue]

theorem reads_address (a : Address) : Reads (.address a) .address := by
  intro b i _ _ hlies
  have hw : encodeValue (.address a) = Bytes.ofNat 32 a.value.toNat := by rw [encodeValue]
  have hf : AbiValue.address (Address.ofBytes (Bytes.ofNat 32 a.value.toNat)) = .address a := by
    have ha := a.value.isLt
    unfold Address.ofBytes
    rw [toNat_ofNat_of_lt (by omega), BitVec.ofNat_toNat, BitVec.setWidth_eq]
  rw [decodeValue]
  exact word_eq (f := fun w => .address (Address.ofBytes w)) rfl hw (Bytes.length_ofNat 32 _) hf
    hlies

theorem exists_target (hv : v.isDynamic = true) (hlies : (partOf v).Lies b.data i)
    (hdepth : b.depth < depthLimit) (hsize : b.data.length < 2 ^ 256) :
    ∃ data, b.target? i = some ⟨data, b.depth + 1⟩ ∧ encodeValue v <+: data ∧
      data.length < 2 ^ 256 := by
  unfold partOf Part.Lies at hlies
  rw [if_pos hv] at hlies
  obtain ⟨offset, hoffset, hhead, hcontent⟩ := hlies
  refine ⟨_, ?_, hcontent, ?_⟩
  . unfold Buffer.target?
    rw [Buffer.word?_of_isPrefix (Bytes.length_ofNat 32 offset) hhead]
    rw [Option.bind_eq_bind, Option.bind_some, toNat_ofNat_of_lt (by omega)]
    exact Buffer.child?_of_le hdepth hoffset
  . rw [List.length_drop]
    omega

theorem content_eq {c : Bytes} (hv : v.isDynamic = true) (hc : encodeValue v = encodeBytes c)
    (hlies : (partOf v).Lies b.data i) (hdepth : b.depth + 1 ≤ depthLimit)
    (hsize : b.data.length < 2 ^ 256) : b.target? i >>= Buffer.bytes? = some c := by
  obtain ⟨data, htarget, hcontent, hlength⟩ := exists_target hv hlies hdepth hsize
  rw [hc] at hcontent
  rw [htarget, Option.bind_eq_bind, Option.bind_some]
  exact Buffer.bytes?_of_isPrefix hcontent hlength

theorem reads_bytes (c : Bytes) : Reads (.bytes c) .bytes := by
  intro b i hdepth hsize hlies
  have hc : encodeValue (.bytes c) = encodeBytes c := by rw [encodeValue]
  rw [decodeValue, content_eq rfl hc hlies hdepth hsize, headSize_of_isDynamic rfl]
  rfl

theorem reads_string (s : String) : Reads (.string s) .string := by
  intro b i hdepth hsize hlies
  have hc : encodeValue (.string s) = encodeBytes (Bytes.ofString s) := by rw [encodeValue]
  rw [decodeValue, content_eq rfl hc hlies hdepth hsize, headSize_of_isDynamic rfl]
  rw [Option.bind_eq_bind, Option.bind_some]
  unfold Bytes.ofString
  rw [Text.Utf8.decodeLossy_ofText, String.ofList_toList]
  rfl

theorem readsItems_nil : ReadsItems [] t := by
  intro b i _ _ _
  rfl

theorem readsItems_cons (hv : Reads v t) (hvs : ReadsItems vs t) : ReadsItems (v :: vs) t := by
  intro b i hdepth hsize hlie
  rw [encodeParts_cons] at hlie ⊢
  rw [List.length_cons, decodeMany, hv b i hdepth hsize hlie.1]
  rw [Option.bind_eq_bind, Option.bind_some]
  dsimp only
  rw [hvs b _ hdepth hsize hlie.2, Option.bind_eq_bind, Option.bind_some]
  rw [Part.headSizes, Nat.add_assoc]
  rfl

theorem readsSequence_nil : ReadsSequence [] [] := by
  intro b i _ _ _
  rfl

theorem readsSequence_cons (hv : Reads v t) (hvs : ReadsSequence vs ts) :
    ReadsSequence (v :: vs) (t :: ts) := by
  intro b i hdepth hsize hlie
  rw [AbiType.depths] at hdepth
  rw [encodeParts_cons] at hlie ⊢
  rw [decodeSequence, hv b i (by omega) hsize hlie.1]
  rw [Option.bind_eq_bind, Option.bind_some]
  dsimp only
  rw [hvs b _ (by omega) hsize hlie.2, Option.bind_eq_bind, Option.bind_some]
  rw [Part.headSizes, Nat.add_assoc]
  rfl

theorem reads_array (hshape : AbiValue.allHaveShape vs t) (hsolid : t.isSolid)
    (hvs : ReadsItems vs t) : Reads (.array vs) (.array t) := by
  intro b i hdepth hsize hlies
  rw [AbiType.depth] at hdepth
  obtain ⟨data, htarget, hcontent, hlength⟩ := exists_target rfl hlies (by omega) hsize
  rw [encodeValue, Bytes.append_prefix_iff, Bytes.length_ofNat] at hcontent
  obtain ⟨hcount, hitems⟩ := hcontent
  have hword : 32 ≤ data.length := by
    rw [← Bytes.length_ofNat 32 vs.length]
    exact hcount.length_le
  have hroom : vs.length ≤ (data.drop 32).length :=
    calc
      vs.length ≤ Part.headSizes (encodeParts vs) := length_le_headSizes hshape hsolid
      _ ≤ (Part.join (encodeParts vs)).length := Part.headSizes_le_length_join _
      _ ≤ (data.drop 32).length := hitems.length_le
  have hrest : (data.drop 32).length < 2 ^ 256 := by
    rw [List.length_drop]
    omega
  rw [decodeValue, htarget, headSize_of_isDynamic rfl, Option.bind_eq_bind, Option.bind_some]
  rw [Buffer.word?_zero_of_isPrefix (Bytes.length_ofNat 32 vs.length) hcount]
  rw [Option.bind_eq_bind, Option.bind_some]
  dsimp only
  rw [toNat_ofNat_of_lt (Nat.lt_of_le_of_lt hroom hrest)]
  split
  . next hnil =>
    rw [List.eq_nil_of_length_eq_zero hnil]
    rfl
  . rw [Buffer.child?_of_le (i := 32) (by dsimp only; omega) hword]
    rw [Option.bind_eq_bind, Option.bind_some, if_neg (Nat.not_lt.2 hroom)]
    rw [hvs ⟨data.drop 32, b.depth + 1 + 1⟩ 0 (by dsimp only; omega) hrest
      (Part.lie_of_join hitems)]
    rfl

/-- A value that is written as its parts and nothing else is read by what reads these, in the buffer
itself or, if there are offsets among them, in one of its own. -/
theorem joined_eq {d : Bool} {n : Nat} {f : List AbiValue → AbiValue}
    {r : Buffer → Nat → Option (List AbiValue × Nat)} (hd : (f vs).isDynamic = d)
    (hjoin : encodeValue (f vs) = Part.join (encodeParts vs))
    (hstatic : d = false → AbiValue.anyDynamic vs = false)
    (hr : ∀ (b : Buffer) (i : Nat), b.depth + n ≤ depthLimit → b.data.length < 2 ^ 256 →
      Part.Lie b.data i (encodeParts vs) → r b i = some (vs, i + Part.headSizes (encodeParts vs)))
    (hdepth : b.depth + (n + if d then 1 else 0) ≤ depthLimit) (hsize : b.data.length < 2 ^ 256)
    (hlies : (partOf (f vs)).Lies b.data i) :
    (if d then do
      let t ← b.target? i
      let (vs, _) ← r t 0
      return (f vs, i + 32)
    else do
      let (vs, i) ← r b i
      return (f vs, i)) = some (f vs, i + (partOf (f vs)).headSize) := by
  cases d with
  | false =>
    have hparts := static_of_anyDynamic (hstatic rfl)
    rw [lies_static_iff hd, hjoin] at hlies
    rw [headSize_of_static hd, hjoin, Part.length_join hparts]
    rw [if_neg Bool.false_ne_true]
    rw [hr b i hdepth hsize (Part.lie_of_join_static hparts hlies)]
    rfl
  | true =>
    rw [if_pos rfl] at hdepth
    obtain ⟨data, htarget, hcontent, hlength⟩ := exists_target hd hlies (by omega) hsize
    rw [hjoin] at hcontent
    rw [if_pos rfl, htarget, headSize_of_isDynamic hd, Option.bind_eq_bind, Option.bind_some]
    rw [hr ⟨data, b.depth + 1⟩ 0 (by dsimp only; omega) hlength (Part.lie_of_join hcontent)]
    rfl

theorem reads_fixedArray (hshape : AbiValue.allHaveShape vs t) (hsolid : t.isSolid)
    (hdynamic : AbiValue.isDynamic (.fixedArray vs) = t.isDynamic) (hvs : ReadsItems vs t) :
    Reads (.fixedArray vs) (.fixedArray t vs.length) := by
  intro b i hdepth hsize hlies
  have hjoin : encodeValue (.fixedArray vs) = Part.join (encodeParts vs) := by rw [encodeValue]
  rw [AbiType.depth] at hdepth
  rw [decodeValue]
  exact joined_eq (f := .fixedArray) (r := fun b => decodeMany (decodeValue t b) vs.length) hdynamic
    hjoin (anyDynamic_of_static_item hshape hsolid) hvs hdepth hsize hlies

theorem reads_tuple (hdynamic : AbiValue.isDynamic (.tuple vs) = AbiType.anyDynamic ts)
    (hvs : ReadsSequence vs ts) : Reads (.tuple vs) (.tuple ts) := by
  intro b i hdepth hsize hlies
  have hjoin : encodeValue (.tuple vs) = Part.join (encodeParts vs) := by rw [encodeValue]
  rw [AbiType.depth] at hdepth
  rw [decodeValue]
  exact joined_eq (f := .tuple) (r := decodeSequence ts) hdynamic hjoin hdynamic.trans hvs hdepth
    hsize hlies

mutual

theorem reads (v : AbiValue) (t : AbiType) (hshape : v.hasShape t) (hsolid : t.isSolid) :
    Reads v t := by
  cases v with
  | bool c =>
    cases t with
    | bool => exact reads_bool c
    | _ => simp at hshape
  | int w bits =>
    cases t with
    | int bits' =>
      rw [AbiValue.hasShape, Bool.and_eq_true, decide_eq_true_eq] at hshape
      rw [hshape.1]
      exact reads_int w bits'
    | _ => simp at hshape
  | uint w bits =>
    cases t with
    | uint bits' =>
      rw [AbiValue.hasShape, decide_eq_true_eq] at hshape
      rw [hshape]
      exact reads_uint w bits'
    | _ => simp at hshape
  | fixedBytes w size =>
    cases t with
    | fixedBytes size' =>
      rw [AbiValue.hasShape, Bool.and_eq_true, decide_eq_true_eq] at hshape
      rw [hshape.1]
      exact reads_fixedBytes w size'
    | _ => simp at hshape
  | address a =>
    cases t with
    | address => exact reads_address a
    | _ => simp at hshape
  | function c => simp at hshape
  | bytes c =>
    cases t with
    | bytes => exact reads_bytes c
    | _ => simp at hshape
  | string s =>
    cases t with
    | string => exact reads_string s
    | _ => simp at hshape
  | array vs =>
    cases t with
    | array t =>
      rw [AbiValue.hasShape] at hshape
      rw [AbiType.isSolid] at hsolid
      exact reads_array hshape hsolid (readsItems vs t hshape hsolid)
    | _ => simp at hshape
  | fixedArray vs =>
    cases t with
    | fixedArray t length =>
      have hdynamic := AbiValue.isDynamic_eq (.fixedArray vs) (.fixedArray t length) hshape hsolid
      rw [AbiValue.hasShape, Bool.and_eq_true, decide_eq_true_eq] at hshape
      rw [AbiType.isSolid, Bool.and_eq_true] at hsolid
      rw [← hshape.1]
      exact reads_fixedArray hshape.2 hsolid.2 hdynamic (readsItems vs t hshape.2 hsolid.2)
    | _ => simp at hshape
  | tuple vs =>
    cases t with
    | tuple ts =>
      rw [AbiValue.hasShape] at hshape
      rw [AbiType.isSolid, Bool.and_eq_true] at hsolid
      apply reads_tuple (AbiValue.anyDynamic_eq vs ts hshape hsolid.2)
      exact readsSequence vs ts hshape hsolid.2
    | _ => simp at hshape

theorem readsItems (vs : List AbiValue) (t : AbiType) (hshapes : AbiValue.allHaveShape vs t)
    (hsolid : t.isSolid) : ReadsItems vs t := by
  cases vs with
  | nil => exact readsItems_nil
  | cons v vs =>
    rw [AbiValue.allHaveShape, Bool.and_eq_true] at hshapes
    exact readsItems_cons (reads v t hshapes.1 hsolid) (readsItems vs t hshapes.2 hsolid)

theorem readsSequence (vs : List AbiValue) (ts : List AbiType)
    (hshapes : AbiValue.haveShapes vs ts) (hsolid : AbiType.areSolid ts) : ReadsSequence vs ts := by
  cases vs with
  | nil =>
    cases ts with
    | nil => exact readsSequence_nil
    | cons t ts => simp at hshapes
  | cons v vs =>
    cases ts with
    | nil => simp at hshapes
    | cons t ts =>
      rw [AbiValue.haveShapes, Bool.and_eq_true] at hshapes
      rw [AbiType.areSolid, Bool.and_eq_true] at hsolid
      apply readsSequence_cons (reads v t hshapes.1 hsolid.1)
      exact readsSequence vs ts hshapes.2 hsolid.2

end

/-- Values are read back from what they were written as, whatever follows it. -/
theorem decode_encode_append {rest : Bytes} (hshapes : AbiValue.haveShapes vs ts)
    (hsolid : AbiType.areSolid ts) (hdepth : AbiType.depths ts ≤ depthLimit)
    (hsize : (encode vs ++ rest).length < 2 ^ 256) : decode ts (encode vs ++ rest) = some vs := by
  have hlie := Part.lie_of_join (List.prefix_append (encode vs) rest)
  unfold decode
  rw [readsSequence vs ts hshapes hsolid ⟨encode vs ++ rest, 0⟩ 0 (by dsimp only; omega) hsize hlie]
  rfl

theorem decode_encode (hshapes : AbiValue.haveShapes vs ts) (hsolid : AbiType.areSolid ts)
    (hdepth : AbiType.depths ts ≤ depthLimit) (hsize : (encode vs).length < 2 ^ 256) :
    decode ts (encode vs) = some vs := by
  rw [← List.append_nil (encode vs)] at hsize ⊢
  exact decode_encode_append hshapes hsolid hdepth hsize

/-- An array of empty tuples is not read back. -/
example : decode [.array (.tuple [])] (encode [.array [.tuple []]]) = none := by
  cbv

/-- Different values of the same types are written differently. -/
theorem encode_injective {us : List AbiValue} (hvs : AbiValue.haveShapes vs ts)
    (hus : AbiValue.haveShapes us ts) (hsolid : AbiType.areSolid ts)
    (hdepth : AbiType.depths ts ≤ depthLimit) (hsize : (encode vs).length < 2 ^ 256)
    (heq : encode vs = encode us) : vs = us := by
  have hv := decode_encode hvs hsolid hdepth hsize
  rw [heq] at hsize hv
  have hu := decode_encode hus hsolid hdepth hsize
  rw [hv] at hu
  exact Option.some.inj hu

end Abi

namespace Session

variable {α : Type} {load : α → Option Kind → Engine Value} {s s' : Session} {t : Trace}

/-- What has been encoded for parameters has the shapes of their types. -/
theorem Encoded.haveShapes {ps : List Param} {as : List α} {ws : List AbiValue}
    (h : Encoded load ps as s t ws s') :
    ∃ ts, Param.resolveAll ps = some ts ∧ AbiValue.haveShapes ws ts := by
  induction h with
  | nil => exact ⟨[], rfl, rfl⟩
  | @cons p a ps as s s₁ s₂ t u type v w ws hp hv hw hs ih =>
    obtain ⟨ts, hts, hshapes⟩ := ih
    have hshape := (Value.encodeAs_fits type p.components v w hw).1
    refine ⟨type :: ts, ?_, ?_⟩
    . rw [Param.resolveAll, hp, hts]
      rfl
    . rw [AbiValue.haveShapes, hshape, hshapes]
      rfl

/-- The values that the arguments of a call come to are read back behind the selector by the types
of the inputs. -/
theorem decode_calldata {m : Method} {as : List α} {ts : List AbiType} {data : Bytes}
    (hr : Engine.Runs (calldata load m as) s t (.ok data) s')
    (hts : Param.resolveAll m.inputs = some ts) (hsolid : AbiType.areSolid ts)
    (hdepth : AbiType.depths ts ≤ Abi.depthLimit) (hsize : data.length < 2 ^ 256) :
    ∃ ws, Encoded load m.inputs as s t ws s' ∧
      Abi.decode ts (data.drop m.selector.length) = some ws := by
  have hlength : m.inputs.length = as.length := by
    by_contra hne
    unfold calldata at hr
    rw [if_neg hne] at hr
    obtain ⟨-, he, -⟩ := Engine.runs_throw_iff.1 hr
    cases he
  obtain ⟨ws, hws, hdata⟩ := (runs_calldata_ok_iff hlength).1 hr
  obtain ⟨ts', hts', hshapes⟩ := hws.haveShapes
  rw [hts, Option.some.injEq] at hts'
  rw [← hts'] at hshapes
  rw [hdata, List.length_append] at hsize
  rw [hdata, List.drop_left]
  refine ⟨ws, hws, Abi.decode_encode hshapes hsolid hdepth ?_⟩
  omega

end Session

end Registrar
