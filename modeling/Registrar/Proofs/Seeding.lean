import Registrar.Proofs.Leaves
import Registrar.Proofs.Provenance

/-!
This module contains what a session knows before anything has been done: the settings, which are the
same as if their document had been seeded, and the specification, no part of which is lost.
-/

namespace Registrar

namespace Settings

theorem mem_insertAll {made : Settings} {new : List (String × Json)} {e : String × Json}
    (h : e ∈ (made.insertAll new).toList) : e ∈ new ∨ e ∈ made.toList := by
  induction new generalizing made with
  | nil => exact .inr h
  | cons d r ih =>
    cases ih h with
    | inl h => exact .inl (List.mem_cons_of_mem d h)
    | inr h =>
      cases SortedMap.mem_insertEntry h with
      | inl h =>
        rw [h]
        exact .inl List.mem_cons_self
      | inr h => exact .inr h

variable {members : List (String × Json)}

theorem find?_ofJson (h : ∀ m ∈ members, m.1 ≠ "") (key : String) :
    (ofJson (.object members)).find? key = Assoc.find? key (Json.leavesOf members).reverse := by
  rw [ofJson_object h, find?_insertAll]
  exact Option.or_none

/-- No setting is an object. -/
theorem asObject?_eq_none_of_mem_ofJson (h : ∀ m ∈ members, m.1 ≠ "") {e : String × Json}
    (he : e ∈ (ofJson (.object members)).toList) : e.2.asObject? = none := by
  rw [ofJson_object h] at he
  cases mem_insertAll he with
  | inl he => exact Json.asObject?_eq_none_of_mem_leavesOf he
  | inr he => cases he

end Settings

section Specification

open Cache (fieldKey fieldKey_inj)

/-- What is known of an operation, if the operation is known by a key. -/
def Operation.entries (key : String) (o : Operation) : List (String × Value) :=
  [(fieldKey key "message", .string o.message), (fieldKey key "name", .string o.callee),
   (fieldKey key "parameters", .array (o.parameters.map .string)),
   (fieldKey key "transform", .string o.transform)]

def Operation.toValue (o : Operation) : Value :=
  .record
    [("message", .string o.message), ("name", .string o.callee),
     ("parameters", .array (o.parameters.map .string)), ("transform", .string o.transform)]

def Delegate.toValue (d : Delegate) : Value :=
  .record
    [("abi", .string d.abi), ("contractAddress", .string (d.contractAddress.getD "")),
     ("functions", .array (d.functions.map Operation.toValue)), ("name", .string d.name)]

/-- What is known of a specification itself. -/
def Specification.ownEntries (s : Specification) : List (String × Value) :=
  [("abi", .string s.abi), ("contractAddress", .string s.contractAddress),
   ("coordinatorKind", .string s.coordinatorKind),
   ("delegates", .array (s.delegates.map Delegate.toValue)), ("description", .string s.description),
   ("name", .string s.name), ("network", .string s.network),
   ("remoteSigning", .bool s.remoteSigning)]

def Specification.operationEntries (s : Specification) : List (String × Value) :=
  s.functions.toList.flatMap fun (name, o) => o.entries (fieldKey "functions" name)

/-- What is known of a specification. -/
def Specification.entries (s : Specification) : List (String × Value) :=
  s.ownEntries ++ s.operationEntries

theorem Value.ofJsonItems_eq_map (items : List Json) : ofJsonItems items = items.map ofJson := by
  induction items with
  | nil =>
    unfold ofJsonItems
    rfl
  | cons j r ih =>
    unfold ofJsonItems
    rw [ih, List.map_cons]

theorem Value.ofJsonItems_texts (texts : List String) :
    ofJsonItems (texts.map .string) = texts.map .string := by
  rw [ofJsonItems_eq_map, List.map_map]
  congr 1

theorem Operation.ofJson_toJson (o : Operation) : Value.ofJson o.toJson = o.toValue := by
  simp only [toJson, toValue, Value.ofJson, Value.ofJsonMembers, Value.ofJsonItems_texts]

theorem Delegate.ofJson_toJson (d : Delegate) : Value.ofJson d.toJson = d.toValue := by
  have hfunctions : Value.ofJsonItems (d.functions.map Operation.toJson) =
      d.functions.map Operation.toValue := by
    rw [Value.ofJsonItems_eq_map, List.map_map]
    congr 1
    funext o
    exact o.ofJson_toJson
  simp only [toJson, toValue, Value.ofJson, Value.ofJsonMembers, hfunctions]
  cases d.contractAddress <;> simp [Value.ofJson]

theorem Operation.values_leaves (key : String) (o : Operation) :
    (o.toJson.leaves key).map (fun e => (e.1, Value.ofJson e.2)) = o.entries key := by
  simp [toJson, entries, Json.leaves, Json.memberLeaves, Value.ofJson, Value.ofJsonItems_texts]

namespace Specification

def members (s : Specification) : List (String × Json) :=
  s.toJson.asObject?.getD []

theorem toJson_eq_object (s : Specification) : s.toJson = .object s.members := by
  rfl

theorem values_operations (s : Specification) :
    (Json.leaves "functions"
      (.object (s.functions.toList.map fun (name, o) => (name, o.toJson)))).map
        (fun e => (e.1, Value.ofJson e.2)) = s.operationEntries := by
  unfold Json.leaves operationEntries
  rw [Json.memberLeaves_eq_flatMap, List.flatMap_map, List.map_flatMap]
  apply List.flatMap_congr
  rintro ⟨name, o⟩ -
  exact o.values_leaves _

theorem ofJson_delegates (s : Specification) :
    Value.ofJson (.array (s.delegates.map Delegate.toJson)) =
      .array (s.delegates.map Delegate.toValue) := by
  unfold Value.ofJson
  rw [Value.ofJsonItems_eq_map, List.map_map]
  congr 2
  funext d
  exact d.ofJson_toJson

/-- The leaves of the document are the entries, but for their order. -/
theorem perm_entries (s : Specification) :
    ((Json.leavesOf s.members).map fun e => (e.1, Value.ofJson e.2)).Perm s.entries := by
  have hsplit : ((Json.leavesOf s.members).map fun e => (e.1, Value.ofJson e.2)) =
      s.ownEntries.take 5 ++ (s.operationEntries ++ s.ownEntries.drop 5) := by
    -- the operations stand behind the description
    rw [← values_operations]
    simp only [Json.leavesOf, members, toJson, Json.asObject?, Option.getD_some, List.flatMap_cons,
      List.flatMap_nil, List.map_append, Json.leaves, List.map_cons, List.map_nil, ofJson_delegates]
    simp [ownEntries, Value.ofJson]
  rw [hsplit]
  refine (List.perm_append_comm.append_left _).trans ?_
  rw [← List.append_assoc, List.take_append_drop]
  exact .refl _

theorem nodup_names_ownEntries (s : Specification) : (Assoc.names s.ownEntries).Nodup := by
  unfold ownEntries Assoc.names
  simp

theorem not_mem_of_mem_ownEntries (s : Specification) {key : String}
    (h : key ∈ Assoc.names s.ownEntries) : '.' ∉ key.toList := by
  unfold ownEntries Assoc.names at h
  simp only [List.map_cons, List.map_nil, List.mem_cons, List.not_mem_nil, or_false] at h
  rcases h with rfl | rfl | rfl | rfl | rfl | rfl | rfl | rfl <;> decide

theorem eq_fieldKey_of_mem_entries {o : Operation} {base key : String}
    (h : key ∈ Assoc.names (o.entries base)) :
    ∃ name, '.' ∉ name.toList ∧ key = fieldKey base name := by
  unfold Operation.entries Assoc.names at h
  simp only [List.map_cons, List.map_nil, List.mem_cons, List.not_mem_nil, or_false] at h
  rcases h with rfl | rfl | rfl | rfl
  . exact ⟨"message", by decide, rfl⟩
  . exact ⟨"name", by decide, rfl⟩
  . exact ⟨"parameters", by decide, rfl⟩
  . exact ⟨"transform", by decide, rfl⟩

theorem nodup_names_operationEntries (s : Specification) :
    (Assoc.names s.operationEntries).Nodup := by
  unfold Assoc.names operationEntries
  rw [List.map_flatMap, List.nodup_flatMap]
  constructor
  . rintro ⟨name, o⟩ -
    simp [Operation.entries, fieldKey]
  . have hnames := s.functions.nodup_names
    unfold Assoc.names List.Nodup at hnames
    rw [List.pairwise_map] at hnames
    apply hnames.imp
    intro a b hne
    apply List.disjoint_left.2
    intro key ha hb
    obtain ⟨x, hx, rfl⟩ := eq_fieldKey_of_mem_entries ha
    obtain ⟨y, hy, heq⟩ := eq_fieldKey_of_mem_entries hb
    obtain ⟨hbase, -⟩ := (fieldKey_inj hx hy).1 heq
    unfold fieldKey at hbase
    rw [String.append_right_inj] at hbase
    exact hne hbase

/-- No two parts of a specification are known by one key. -/
theorem nodup_names_entries (s : Specification) : (Assoc.names s.entries).Nodup := by
  unfold Assoc.names entries
  rw [List.map_append, List.nodup_append']
  refine ⟨s.nodup_names_ownEntries, s.nodup_names_operationEntries, ?_⟩
  rw [List.disjoint_left]
  intro key hown hoperation
  apply s.not_mem_of_mem_ownEntries hown
  unfold operationEntries at hoperation
  rw [List.map_flatMap] at hoperation
  obtain ⟨o, -, ho⟩ := List.mem_flatMap.1 hoperation
  obtain ⟨name, -, rfl⟩ := eq_fieldKey_of_mem_entries ho
  simp [fieldKey]

end Specification

end Specification

namespace Session

section Settings

theorem seedSettings_eq_insertAll (c : Cache) (entries : List (String × Json)) :
    seedSettings c entries =
      c.insertAll (entries.flatMap fun e => (Value.ofJson e.2).leaves (settingSpace ++ e.1)) := by
  induction entries generalizing c with
  | nil => rfl
  | cons e r ih =>
    obtain ⟨name, j⟩ := e
    unfold seedSettings
    rw [ih, List.flatMap_cons, Cache.insertAll_append, Cache.store_eq_insertAll]

theorem nodup_names_seedSettings {c : Cache} (h : (Assoc.names c.entries).Nodup)
    (entries : List (String × Json)) : (Assoc.names (seedSettings c entries).entries).Nodup := by
  rw [seedSettings_eq_insertAll]
  exact Cache.nodup_names_insertAll h _

theorem nodup_names_seed {c : Cache} (h : (Assoc.names c.entries).Nodup) (space : String)
    (document : Json) : (Assoc.names (c.seed space document).entries).Nodup := by
  unfold Cache.seed
  split
  . rw [Cache.seedFields_eq_insertAll]
    exact Cache.nodup_names_insertAll h _
  . rw [Cache.store_eq_insertAll]
    exact Cache.nodup_names_insertAll h _

variable {members : List (String × Json)}

/-- Settings none of which is an object are known each under its name. -/
theorem find?_seedSettings_of_leaves {settings : Settings}
    (h : ∀ e ∈ settings.toList, e.2.asObject? = none) (c : Cache) (key : String) :
    (seedSettings c settings.toList).find? (settingSpace ++ key) =
      ((settings.find? key).map Value.ofJson).or (c.find? (settingSpace ++ key)) := by
  have hleaves : settings.toList.flatMap
        (fun e => (Value.ofJson e.2).leaves (settingSpace ++ e.1)) =
      Assoc.behind settingSpace Value.ofJson settings.toList := by
    unfold Assoc.behind
    rw [List.map_eq_flatMap]
    apply List.flatMap_congr
    intro e he
    rw [Value.leaves_ofJson, Json.leaves_of_asObject?_eq_none (h e he)]
    rfl
  rw [seedSettings_eq_insertAll, hleaves, Cache.find?_insertAll, Assoc.behind_reverse,
    Assoc.find?_behind, Assoc.find?_reverse (SortedMap.nodup_names _)]
  rfl

theorem find?_seedSettings_ofJson (h : ∀ m ∈ members, m.1 ≠ "") (c : Cache) (key : String) :
    (seedSettings c (Settings.ofJson (.object members)).toList).find? (settingSpace ++ key) =
      (((Settings.ofJson (.object members)).find? key).map Value.ofJson).or
        (c.find? (settingSpace ++ key)) := by
  apply find?_seedSettings_of_leaves
  intro e he
  exact Settings.asObject?_eq_none_of_mem_ofJson h he

theorem find?_seed_settings (h : ∀ m ∈ members, m.1 ≠ "") (c : Cache) (key : String) :
    (c.seed settingSpace (.object members)).find? (settingSpace ++ key) =
      (((Settings.ofJson (.object members)).find? key).map Value.ofJson).or
        (c.find? (settingSpace ++ key)) := by
  rw [Cache.seed_object, Cache.find?_insertAll, Assoc.behind_reverse, Assoc.find?_behind,
    Settings.find?_ofJson h]

/-- To enter a document into the settings and then to remember each of them is to seed the
document. -/
theorem find?_seedSettings_eq_find?_seed (h : ∀ m ∈ members, m.1 ≠ "") (c : Cache) (q : String) :
    (seedSettings c (Settings.ofJson (.object members)).toList).find? q =
      (c.seed settingSpace (.object members)).find? q := by
  by_cases hq : ∃ key, q = settingSpace ++ key
  . obtain ⟨key, rfl⟩ := hq
    rw [find?_seedSettings_ofJson h, find?_seed_settings h]
  . have hne : ∀ key, q ≠ settingSpace ++ key := not_exists.1 hq
    rw [find?_seedSettings c hne, Cache.seed_object, Cache.find?_insertAll, Assoc.behind_reverse,
      Assoc.find?_behind_eq_none Value.ofJson hne]
    rfl

theorem perm_seedSettings_seed (h : ∀ m ∈ members, m.1 ≠ "") {c : Cache}
    (hc : (Assoc.names c.entries).Nodup) :
    (seedSettings c (Settings.ofJson (.object members)).toList).entries.Perm
      (c.seed settingSpace (.object members)).entries := by
  apply Assoc.perm_of_find?_eq
  . exact nodup_names_seedSettings hc _
  . exact nodup_names_seed hc settingSpace _
  . exact find?_seedSettings_eq_find?_seed h c

theorem runs_setting_of_some {name : String} {required : Bool} {j : Json} {s s' : Session}
    {t : Trace} {r : Except OperationError Value}
    (hr : Engine.Runs (setting name required) s
      (⟨.request none (.setting name), some j⟩ :: t) r s') :
    t = [] ∧ r = .ok (.ofJson j) ∧ s' = s := by
  unfold setting at hr
  obtain ⟨x, t', heq, hx⟩ := Engine.runs_ask_bind_iff.1 hr
  cases heq
  exact Engine.runs_pure_iff.1 hx

theorem ne_setting (key x : String) : settingSpace ++ key ≠ "spec" ++ x := by
  intro h
  have hchars := congrArg (fun text => text.toList.head?) h
  simp [settingSpace, String.toList_append] at hchars

theorem find?_start_setting (h : ∀ m ∈ members, m.1 ≠ "") (spec : Specification) (key : String) :
    (start spec (Settings.ofJson (.object members))).cache.find? (settingSpace ++ key) =
      ((Settings.ofJson (.object members)).find? key).map Value.ofJson := by
  unfold start
  dsimp only
  rw [find?_seedSettings_ofJson h, find?_seed _ (ne_setting key)]
  exact Option.or_none

/-- The settings of a document are known as if the document had been seeded, and what is known of a
setting is the value that it has when it is asked for. -/
theorem settings_seeded (h : ∀ m ∈ members, m.1 ≠ "") (spec : Specification) :
    let settings := Settings.ofJson (.object members)
    (∀ c : Cache, (Assoc.names c.entries).Nodup →
      (seedSettings c settings.toList).entries.Perm
        (c.seed settingSpace (.object members)).entries) ∧
    (start spec settings).cache.entries.Perm
      ((Cache.seed {} specificationSpace spec.toJson).seed settingSpace (.object members)).entries ∧
    (∀ key, (start spec settings).cache.find? (settingSpace ++ key) =
      (settings.find? key).map Value.ofJson) ∧
    ∀ key v, (start spec settings).cache.find? (settingSpace ++ key) = some v →
      ∀ required s t r s', Engine.Runs (setting key required) s
        (⟨.request none (.setting key), settings.find? key⟩ :: t) r s' →
          t = [] ∧ r = .ok v ∧ s' = s := by
  refine ⟨fun c hc => perm_seedSettings_seed h hc, ?_, find?_start_setting h spec, ?_⟩
  . apply perm_seedSettings_seed h
    apply nodup_names_seed
    exact List.nodup_nil
  . intro key v hv required s t r s' hr
    rw [find?_start_setting h spec] at hv
    obtain ⟨j, hj, rfl⟩ := Option.map_eq_some_iff.1 hv
    rw [hj] at hr
    exact runs_setting_of_some hr

/-- Two members meet on one path, behind which the last of them is known. -/
theorem settings_seeded_meeting :
    let members : List (String × Json) :=
      [("a", .object [("b.c", .number (.unsigned 1)), ("d", .object [])]),
        ("a.b", .object [("c", .number (.unsigned 2))])]
    let settings := Settings.ofJson (.object members)
    let s := start { name := "s", contractAddress := "", abi := "" } settings
    (∀ m ∈ members, m.1 ≠ "") ∧
    s.cache.entries.Perm ((Cache.seed {} specificationSpace s.spec.toJson).seed settingSpace
      (.object members)).entries ∧
    s.cache.find? "config:a.b.c" = some (.uint 2) ∧
    ∃ t r s', Engine.Runs (setting "a.b.c" true) s
        (⟨.request none (.setting "a.b.c"), settings.find? "a.b.c"⟩ :: t) r s' ∧
      r = .ok (.uint 2) := by
  intro members settings s
  have hm : ∀ m ∈ members, m.1 ≠ "" := by decide
  obtain ⟨-, hperm, hknown, hasked⟩ := settings_seeded hm s.spec
  have hv : s.cache.find? "config:a.b.c" = some (.uint 2) := hknown "a.b.c"
  have hrun : Engine.Runs (setting "a.b.c" true) s
      [⟨.request none (.setting "a.b.c"), settings.find? "a.b.c"⟩] (.ok (.uint 2)) s :=
    Engine.runs_ask_bind_iff.2 ⟨_, [], rfl, Engine.runs_pure_iff.2 ⟨rfl, rfl, rfl⟩⟩
  obtain ⟨-, hr, -⟩ := hasked "a.b.c" (.uint 2) hv true s [] (.ok (.uint 2)) s hrun
  exact ⟨hm, hperm, hv, [], _, s, hrun, hr⟩

end Settings

section Specification

theorem find?_seed_specification (spec : Specification) (key : String) :
    (Cache.seed {} specificationSpace spec.toJson).find? (specificationSpace ++ key) =
      (Assoc.find? key (Json.leavesOf spec.members).reverse).map Value.ofJson := by
  rw [spec.toJson_eq_object, Cache.seed_object, Cache.find?_insertAll, Assoc.behind_reverse,
    Assoc.find?_behind]
  exact Option.or_none

theorem nodup_names_start (spec : Specification) (settings : Settings) :
    (Assoc.names (start spec settings).cache.entries).Nodup := by
  apply nodup_names_seedSettings
  apply nodup_names_seed
  exact List.nodup_nil

theorem find?_start_specification (spec : Specification) (settings : Settings) (key : String) :
    (start spec settings).cache.find? (specificationSpace ++ key) =
      Assoc.find? key spec.entries := by
  have hne (x : String) : specificationSpace ++ key ≠ settingSpace ++ x := by
    intro h
    have hchars := congrArg (fun text => text.toList.head?) h
    simp [settingSpace, specificationSpace, String.toList_append] at hchars
  have hnodup : (Assoc.names (Json.leavesOf spec.members)).Nodup := by
    have hperm := spec.perm_entries.map (·.1)
    rw [List.map_map] at hperm
    exact hperm.nodup_iff.2 spec.nodup_names_entries
  unfold start
  dsimp only
  rw [find?_seedSettings _ hne, find?_seed_specification, Assoc.find?_reverse hnodup]
  apply Option.ext
  intro v
  rw [Assoc.find?_eq_some_iff spec.nodup_names_entries, ← spec.perm_entries.mem_iff,
    Option.map_eq_some_iff]
  simp only [Assoc.find?_eq_some_iff hnodup]
  constructor
  . rintro ⟨j, hj, rfl⟩
    exact List.mem_map.2 ⟨(key, j), hj, rfl⟩
  . intro h
    obtain ⟨⟨k, j⟩, hj, heq⟩ := List.mem_map.1 h
    cases heq
    exact ⟨j, hj, rfl⟩

/-- What begins with the name of the space of the specification. -/
def inSpecificationSpace (e : String × Value) : Bool :=
  specificationSpace.toList.isPrefixOf e.1.toList

theorem inSpecificationSpace_iff {key : String} {v : Value} :
    inSpecificationSpace (key, v) ↔ ∃ name, key = specificationSpace ++ name := by
  unfold inSpecificationSpace
  rw [List.isPrefixOf_iff_prefix]
  constructor
  . rintro ⟨name, hname⟩
    refine ⟨String.ofList name, ?_⟩
    rw [← String.toList_inj, String.toList_append, String.toList_ofList]
    exact hname.symm
  . rintro ⟨name, rfl⟩
    rw [String.toList_append]
    exact List.prefix_append _ _

/-- The specification is known as its entries, each under a key of its own, whatever the operations
are named and whatever the settings are. -/
theorem specification_seeded (spec : Specification) (settings : Settings) :
    (Assoc.names spec.entries).Nodup ∧
    ((start spec settings).cache.entries.filter inSpecificationSpace).Perm
      (spec.entries.map fun e => (specificationSpace ++ e.1, e.2)) ∧
    ∀ key v, (start spec settings).cache.find? (specificationSpace ++ key) = some v ↔
      (key, v) ∈ spec.entries := by
  have hnodup := spec.nodup_names_entries
  have hstart := nodup_names_start spec settings
  have hfind (key : String) (v : Value) :
      (start spec settings).cache.find? (specificationSpace ++ key) = some v ↔
        (key, v) ∈ spec.entries := by
    rw [find?_start_specification, Assoc.find?_eq_some_iff hnodup]
  refine ⟨hnodup, ?_, hfind⟩
  have hinjective : Function.Injective fun e : String × Value =>
      (specificationSpace ++ e.1, e.2) := by
    rintro ⟨key, v⟩ ⟨key', v'⟩ heq
    simpa using heq
  rw [List.perm_ext_iff_of_nodup ((Assoc.nodup_of_nodup_names hstart).filter _)
    ((Assoc.nodup_of_nodup_names hnodup).map hinjective)]
  rintro ⟨q, v⟩
  rw [List.mem_filter, inSpecificationSpace_iff, ← Assoc.find?_eq_some_iff hstart]
  rw [List.mem_map]
  constructor
  . rintro ⟨hv, name, rfl⟩
    exact ⟨(name, v), (hfind name v).1 hv, rfl⟩
  . rintro ⟨⟨name, w⟩, hmem, heq⟩
    cases heq
    exact ⟨(hfind name w).2 hmem, name, rfl⟩

end Specification

end Session

end Registrar
