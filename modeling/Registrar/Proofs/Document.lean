import Registrar.Proofs.Document.Order
import Registrar.Proofs.Document.Text
import Registrar.Proofs.Seeding
import Registrar.Proofs.Validation

/-!
This module contains the proof that a specification is described by its document completely: it is
read back from the document and from its text, in whatever order the members are written, and from
what a session knows of it at the start.
-/

namespace Registrar

open Json Spec

section Reading

theorem Operation.yields_toJson (o : Operation) : Yields ofJson? o.toJson o := by
  intro k hk
  obtain ⟨f, hf, hall⟩ := exists_members?_eq (by simp [Assoc.names]) hk operationMembers
  simp only [List.forall_mem_cons] at hall
  obtain ⟨hmessage, hcallee, hparameters, htransform, -⟩ := hall
  unfold ofJson?
  rw [hf]
  simp only [operationMembers, List.map_cons, List.map_nil, Option.bind_eq_bind, Option.bind_some,
    Yields.optional "" (.string _) hcallee, Yields.optional [] (.texts _) hparameters,
    Yields.optional "" (.string _) hmessage, Yields.optional "" (.string _) htransform]
  rfl

theorem forall₂_yields_operations (os : List Operation) :
    List.Forall₂ (Yields Operation.ofJson?) (os.map Operation.toJson) os := by
  rw [List.forall₂_map_left_iff, List.forall₂_same]
  intro o _
  exact o.yields_toJson

/-- An address that is missing is written as nothing, and nothing is read as a missing address. -/
theorem yields_contractAddress (address : Option String) :
    Yields (nullable asString?)
      (match address with
        | some address => .string address
        | none => .null) address := by
  intro k hk
  cases address with
  | none =>
    cases hk
    rfl
  | some text =>
    cases hk
    rfl

theorem Delegate.yields_toJson (d : Delegate) : Yields ofJson? d.toJson d := by
  intro k hk
  obtain ⟨f, hf, hall⟩ := exists_members?_eq (by simp [Assoc.names]) hk delegateMembers
  simp only [List.forall_mem_cons] at hall
  obtain ⟨habi, haddress, hfunctions, hname, -⟩ := hall
  unfold ofJson?
  rw [hf]
  simp only [delegateMembers, List.map_cons, List.map_nil, Option.bind_eq_bind, Option.bind_some,
    Yields.required (.string _) hname, Yields.required (.string _) habi,
    Yields.optional none (yields_contractAddress d.contractAddress) haddress,
    Yields.optional [] (.list (forall₂_yields_operations _)) hfunctions]
  rfl

theorem yields_operations (m : SortedMap Operation) :
    Yields operations? (.object (m.toList.map fun (name, o) => (name, o.toJson))) m := by
  intro k hk
  cases hk with
  | @object _ others _ h hmade =>
    have hothers : List.Forall₂
        (fun (e : String × Json) (d : String × Operation) =>
          (Operation.ofJson? e.2).map (fun o => (e.1, o)) = some d) others m.toList := by
      rw [List.forall₂_map_left_iff] at h
      apply h.flip.imp
      rintro e ⟨name, o⟩ hm
      cases hm with
      | mk _ hj =>
        rw [o.yields_toJson _ hj]
        rfl
    obtain ⟨entries, hentries, hperm⟩ := List.perm_comp_forall₂ hmade hothers
    unfold operations? asObject?
    rw [Option.bind_eq_bind, Option.bind_some, mapM_eq_some_of_forall₂ hentries]
    rw [Option.bind_eq_bind, Option.bind_some, SortedMap.ofList_of_perm hperm]
    rfl

theorem Specification.yields_toJson (s : Specification) : Yields ofJson? s.toJson s := by
  intro k hk
  obtain ⟨f, hf, hall⟩ := exists_members?_eq (by simp [Assoc.names]) hk specificationMembers
  simp only [List.forall_mem_cons] at hall
  obtain ⟨habi, haddress, hkind, hdelegates, hdescription, hfunctions, hname, hnetwork, hremote,
    -⟩ := hall
  have hlist : List.Forall₂ (Yields Delegate.ofJson?) (s.delegates.map Delegate.toJson)
      s.delegates := by
    rw [List.forall₂_map_left_iff, List.forall₂_same]
    intro d _
    exact d.yields_toJson
  unfold ofJson?
  rw [hf]
  simp only [specificationMembers, List.map_cons, List.map_nil, Option.bind_eq_bind,
    Option.bind_some, Yields.required (.string _) hname, Yields.optional "" (.string _) hdescription,
    Yields.optional "" (.string _) hnetwork, Yields.required (.string _) haddress,
    Yields.optional "" (.string _) hkind, Yields.optional false (.bool _) hremote,
    Yields.required (.string _) habi, Yields.optional {} (yields_operations _) hfunctions,
    Yields.optional [] (.list hlist) hdelegates]
  rfl

end Reading

section Text

theorem Operation.isTextual_toJson (o : Operation) : o.toJson.isTextual := by
  simp [toJson, isTextual, membersAreTextual, areTextual_iff]

theorem Delegate.isTextual_toJson (d : Delegate) : d.toJson.isTextual := by
  cases h : d.contractAddress <;>
    simp [toJson, h, isTextual, membersAreTextual, areTextual_iff, Operation.isTextual_toJson]

theorem Specification.isTextual_toJson (s : Specification) : s.toJson.isTextual := by
  have hfunctions :
      membersAreTextual (s.functions.toList.map fun (name, o) => (name, o.toJson)) := by
    rw [membersAreTextual_iff, List.forall_mem_map]
    intro e _
    exact e.2.isTextual_toJson
  simp [toJson, isTextual, membersAreTextual, areTextual_iff, hfunctions,
    Delegate.isTextual_toJson]

end Text

section Declaration

/-- The document of an operation, with its members in the order of their declaration. -/
def Operation.declared (o : Operation) : Json :=
  .object
    [("name", .string o.callee), ("parameters", .array (o.parameters.map .string)),
     ("message", .string o.message), ("transform", .string o.transform)]

/-- The document of a delegate, with its members in the order of their declaration. -/
def Delegate.declared (d : Delegate) : Json :=
  .object
    [("name", .string d.name), ("abi", .string d.abi),
     ("contractAddress",
       match d.contractAddress with
       | some address => .string address
       | none => .null),
     ("functions", .array (d.functions.map Operation.declared))]

/-- The document of a specification, with its members in the order of their declaration. -/
def Specification.declared (s : Specification) : Json :=
  .object
    [("name", .string s.name), ("description", .string s.description),
     ("network", .string s.network), ("contractAddress", .string s.contractAddress),
     ("coordinatorKind", .string s.coordinatorKind), ("remoteSigning", .bool s.remoteSigning),
     ("abi", .string s.abi),
     ("functions", .object (s.functions.toList.map fun (name, o) => (name, o.declared))),
     ("delegates", .array (s.delegates.map Delegate.declared))]

theorem Operation.reordered_declared (o : Operation) : o.toJson.Reordered o.declared := by
  apply Reordered.object (forall₂_memberReordered _)
  exact Assoc.perm_of_subset (by simp [Assoc.names]) (by simp) (Nat.le_refl _)

theorem forall₂_reordered_operations (os : List Operation) :
    List.Forall₂ Reordered (os.map Operation.toJson) (os.map Operation.declared) := by
  rw [List.forall₂_map_left_iff, List.forall₂_map_right_iff, List.forall₂_same]
  intro o _
  exact o.reordered_declared

theorem Delegate.reordered_declared (d : Delegate) : d.toJson.Reordered d.declared := by
  unfold toJson declared
  refine .object (.cons (.mk _ (.refl _)) (.cons (.mk _ (.refl _)) (.cons
    (.mk _ (.array (forall₂_reordered_operations _))) (.cons (.mk _ (.refl _)) .nil)))) ?_
  refine Assoc.perm_of_subset (by simp [Assoc.names]) ?_ (Nat.le_refl _)
  cases d.contractAddress with
  | none => simp
  | some address => simp

theorem Specification.reordered_declared (s : Specification) : s.toJson.Reordered s.declared := by
  have hfunctions : List.Forall₂ MemberReordered
      (s.functions.toList.map fun (name, o) => (name, o.toJson))
      (s.functions.toList.map fun (name, o) => (name, o.declared)) := by
    rw [List.forall₂_map_left_iff, List.forall₂_map_right_iff, List.forall₂_same]
    intro e _
    exact .mk _ e.2.reordered_declared
  have hdelegates : List.Forall₂ Reordered (s.delegates.map Delegate.toJson)
      (s.delegates.map Delegate.declared) := by
    rw [List.forall₂_map_left_iff, List.forall₂_map_right_iff, List.forall₂_same]
    intro d _
    exact d.reordered_declared
  unfold toJson declared
  refine .object (.cons (.mk _ (.refl _)) (.cons (.mk _ (.refl _)) (.cons (.mk _ (.refl _))
    (.cons (.mk _ (.array hdelegates)) (.cons (.mk _ (.refl _))
    (.cons (.mk _ (.object hfunctions (.refl _))) (.cons (.mk _ (.refl _)) (.cons (.mk _ (.refl _))
    (.cons (.mk _ (.refl _)) .nil))))))))) ?_
  exact Assoc.perm_of_subset (by simp [Assoc.names]) (by simp) (Nat.le_refl _)

end Declaration

section Seeding

open Session (start specificationSpace)

theorem Value.map_string_inj {texts others : List String} :
    texts.map Value.string = others.map .string ↔ texts = others :=
  List.map_inj_right fun _ _ => Value.string.inj

theorem Operation.eq_of_entries_eq {o o' : Operation} {key : String}
    (h : o.entries key = o'.entries key) : o = o' := by
  obtain ⟨callee, parameters, message, transform⟩ := o
  simp only [entries, List.cons.injEq, Prod.mk.injEq, Value.string.injEq, Value.array.injEq,
    Value.map_string_inj, true_and, and_true] at h
  obtain ⟨rfl, rfl, rfl, rfl⟩ := h
  rfl

theorem Operation.eq_of_toValue_eq {o o' : Operation} (h : o.toValue = o'.toValue) : o = o' := by
  obtain ⟨callee, parameters, message, transform⟩ := o
  simp only [toValue, Value.record.injEq, List.cons.injEq, Prod.mk.injEq, Value.string.injEq,
    Value.array.injEq, Value.map_string_inj, true_and, and_true] at h
  obtain ⟨rfl, rfl, rfl, rfl⟩ := h
  rfl

theorem eq_of_getD_eq {α : Type} {a b : Option α} {x : α} (ha : a ≠ some x) (hb : b ≠ some x)
    (h : a.getD x = b.getD x) : a = b := by
  cases a with
  | none =>
    cases b with
    | none => rfl
    | some y => exact absurd (congrArg some h.symm) hb
  | some z =>
    cases b with
    | none => exact absurd (congrArg some h) ha
    | some y => exact congrArg some h

/-- An address that is missing and one that is empty have the same value. -/
theorem Delegate.eq_of_toValue_eq {d e : Delegate} (hd : d.contractAddress ≠ some "")
    (he : e.contractAddress ≠ some "") (h : d.toValue = e.toValue) : d = e := by
  obtain ⟨name, abi, address, functions⟩ := d
  simp only [toValue, Value.record.injEq, List.cons.injEq, Prod.mk.injEq, Value.string.injEq,
    Value.array.injEq, List.map_inj_right fun _ _ => Operation.eq_of_toValue_eq, true_and,
    and_true] at h
  obtain ⟨rfl, haddress, rfl, rfl⟩ := h
  obtain rfl : address = e.contractAddress := eq_of_getD_eq hd he haddress
  rfl

theorem Delegate.WellFormed.contractAddress_ne {d : Delegate} (h : d.WellFormed) :
    d.contractAddress ≠ some "" := by
  intro hempty
  have hnone : parseAddress "" = .error (.invalidAddress "" .wrongLength) := by rfl
  obtain ⟨a, ha⟩ := h.address "" hempty
  rw [hnone] at ha
  cases ha

namespace Specification

theorem entries_subset {s : Specification} {name : String} {o : Operation}
    (h : s.functions.find? name = some o) :
    o.entries (Cache.fieldKey "functions" name) ⊆ s.entries := by
  intro e he
  apply List.mem_append_right
  exact List.mem_flatMap.2 ⟨(name, o), Assoc.mem_of_find?_eq_some h, he⟩

/-- What is known behind the name of an operation is known of that operation. -/
theorem exists_operation_of_mem {s : Specification} {name : String} {v : Value}
    (h : (Cache.fieldKey (Cache.fieldKey "functions" name) "message", v) ∈ s.entries) :
    ∃ o, s.functions.find? name = some o := by
  rcases List.mem_append.1 h with h | h
  . have hdot := s.not_mem_of_mem_ownEntries (Assoc.mem_names_of_mem h)
    simp [Cache.fieldKey] at hdot
  . obtain ⟨⟨other, o⟩, ho, he⟩ := List.mem_flatMap.1 h
    obtain ⟨x, hx, heq⟩ := eq_fieldKey_of_mem_entries (Assoc.mem_names_of_mem he)
    obtain ⟨hbase, -⟩ := (Cache.fieldKey_inj (by decide) hx).1 heq
    unfold Cache.fieldKey at hbase
    rw [String.append_right_inj] at hbase
    subst hbase
    exact ⟨o, (Assoc.find?_eq_some_iff s.functions.nodup_names).2 ho⟩

theorem find?_functions_of_entries {s t : Specification} (h : s.entries ⊆ t.entries)
    {name : String} {o : Operation} (ho : s.functions.find? name = some o) :
    t.functions.find? name = some o := by
  have hsub := entries_subset ho
  obtain ⟨o', ho'⟩ := exists_operation_of_mem (h (hsub List.mem_cons_self))
  rw [ho', Option.some.injEq]
  apply Operation.eq_of_entries_eq
  exact Assoc.eq_of_subset rfl (entries_subset ho') (List.Subset.trans hsub h)
    t.nodup_names_entries

theorem delegates_eq {ds es : List Delegate} (hds : ∀ d ∈ ds, d.WellFormed)
    (hes : ∀ e ∈ es, e.WellFormed) (h : ds.map Delegate.toValue = es.map Delegate.toValue) :
    ds = es := by
  induction ds generalizing es with
  | nil => exact (List.map_eq_nil_iff.1 h.symm).symm
  | cons d ds ih =>
    cases es with
    | nil => cases h
    | cons e es =>
      rw [List.forall_mem_cons] at hds hes
      obtain ⟨hhead, hrest⟩ := List.cons.inj h
      rw [ih hds.2 hes.2 hrest, Delegate.eq_of_toValue_eq hds.1.contractAddress_ne
        hes.1.contractAddress_ne hhead]

/-- Well-formed specifications of which the same is known are the same. -/
theorem eq_of_entries {s t : Specification} (hs : s.WellFormed) (ht : t.WellFormed)
    (hst : s.entries ⊆ t.entries) (hts : t.entries ⊆ s.entries) : s = t := by
  have hfunctions : s.functions = t.functions := by
    apply SortedMap.eq_of_find?_eq
    intro name
    apply Option.ext
    intro o
    exact ⟨find?_functions_of_entries hst, find?_functions_of_entries hts⟩
  have hown : s.ownEntries = t.ownEntries :=
    Assoc.eq_of_subset rfl (List.Subset.trans (List.subset_append_left _ _) hst)
      (List.subset_append_left _ _) t.nodup_names_entries
  have hdelegates := delegates_eq hs.delegates ht.delegates
  obtain ⟨name, description, network, address, kind, remote, abi, functions, delegates⟩ := s
  simp only [ownEntries, List.cons.injEq, Prod.mk.injEq, Value.string.injEq, Value.array.injEq,
    Value.bool.injEq, true_and, and_true] at hown
  obtain ⟨rfl, rfl, rfl, hvalues, rfl, rfl, rfl, rfl⟩ := hown
  obtain rfl := hfunctions
  obtain rfl := hdelegates hvalues
  rfl

theorem eq_of_start {s t : Specification} (hs : s.WellFormed) (ht : t.WellFormed)
    {settings settings' : Settings}
    (h : ∀ key, (start s settings).cache.find? (specificationSpace ++ key) =
      (start t settings').cache.find? (specificationSpace ++ key)) : s = t := by
  have hentries (e : String × Value) : e ∈ s.entries ↔ e ∈ t.entries := by
    rw [← Assoc.find?_eq_some_iff s.nodup_names_entries,
      ← Session.find?_start_specification s settings, h, Session.find?_start_specification,
      Assoc.find?_eq_some_iff t.nodup_names_entries]
  exact eq_of_entries hs ht (fun e => (hentries e).1) fun e => (hentries e).2

end Specification

end Seeding

namespace Specification

theorem read_of_reordered {s : Specification} (h : s.validate = .ok ()) {j : Json}
    (hj : s.toJson.Reordered j) (name : String) : read name j.text = .ok s := by
  have htext : Json.read j.text = .ok j := Json.read_text (hj.isTextual s.isTextual_toJson)
  unfold read
  rw [htext]
  dsimp only
  rw [s.yields_toJson j hj]
  dsimp only
  rw [h]
  rfl

/-- A specification that is accepted is what its document describes, as a document and as a text and
in whatever order the members stand, and is accepted when it is read again. No other specification
that is accepted is known to a session as the same. -/
theorem document_complete {s : Specification} (h : s.validate = .ok ()) :
    ofJson? s.toJson = some s ∧
    (∀ name, read name s.declared.text = .ok s) ∧
    (∀ j, s.toJson.Reordered j → ofJson? j = some s ∧ ∀ name, read name j.text = .ok s) ∧
    ∀ t settings settings', t.validate = .ok () →
      (∀ key, (Session.start t settings').cache.find? (Session.specificationSpace ++ key) =
        (Session.start s settings).cache.find? (Session.specificationSpace ++ key)) → t = s := by
  refine ⟨s.yields_toJson _ (.refl _), read_of_reordered h s.reordered_declared, ?_, ?_⟩
  . intro j hj
    exact ⟨s.yields_toJson j hj, read_of_reordered h hj⟩
  . intro t settings settings' ht hknown
    exact eq_of_start (validate_eq_ok_iff.1 ht) (validate_eq_ok_iff.1 h) hknown

/-- Texts with quotes and line breaks, an address that is missing and one that is not. -/
theorem document_complete_quoting :
    let address := "0x0000000000000000000000000000000000000a11"
    let register : Operation :=
      { callee := "r\"\\\n\x01.opt", parameters := ["", "config:a b"], transform := " \t" }
    let delegate : Delegate :=
      { name := "r\"\\\n\x01", abi := "", functions := [{ callee := "x" }] }
    let s : Specification :=
      { name := "é", contractAddress := address, abi := "a.json",
        functions := .ofList [("register", register), ("", { message := "none" })],
        delegates := [delegate, { name := "b", abi := "b", contractAddress := some address }] }
    let t := { s with delegates := s.delegates.map fun d => { d with contractAddress := none } }
    s.validate = .ok () ∧ read "é" s.declared.text = .ok s ∧
      ¬ ∀ key, (Session.start t {}).cache.find? (Session.specificationSpace ++ key) =
        (Session.start s {}).cache.find? (Session.specificationSpace ++ key) := by
  intro address register delegate s t
  have hs : s.validate = .ok () := by decide
  have ht : t.validate = .ok () := by decide
  obtain ⟨-, hread, -, hknown⟩ := document_complete hs
  refine ⟨hs, hread _, ?_⟩
  intro h
  exact absurd (hknown t {} {} ht h) (by decide)

end Specification

end Registrar
