import Registrar.Proofs.Part
import Registrar.Spec.Document

/-!
This module contains what it means for a specification to be well formed, and the proof that the
check which every document has to pass accepts the well-formed specifications and no others.
-/

namespace Registrar

section Check

variable {ε α β : Type} {e : ε} {y : Except ε β} {b : β}

theorem then_eq_ok_iff {x : Except ε α} :
    (x >>= fun _ => y) = .ok b ↔ (∃ a, x = .ok a) ∧ y = .ok b := by
  cases x with
  | error e => simp [bind, Except.bind]
  | ok a => simp [bind, Except.bind]

theorem check_then_eq_ok_iff {x : Except ε Unit} :
    (x >>= fun _ => y) = .ok b ↔ x = .ok () ∧ y = .ok b := by
  rw [then_eq_ok_iff]
  constructor
  . rintro ⟨⟨⟨⟩, hx⟩, hy⟩
    exact ⟨hx, hy⟩
  . rintro ⟨hx, hy⟩
    exact ⟨⟨(), hx⟩, hy⟩

/-- What stands behind a refusal comes to something only if nothing is refused. -/
theorem refuse_then_eq_ok_iff {c : Prop} [Decidable c] :
    (if c then (throw e : Except ε α) >>= fun _ => y else y) = .ok b ↔ ¬ c ∧ y = .ok b := by
  split
  . next hc => simp [hc, throw, throwThe, MonadExceptOf.throw, bind, Except.bind]
  . next hc => simp [hc]

end Check

namespace Text

theorem cut?_eq_none_iff {sep : Char} {s : List Char} : cut? sep s = none ↔ sep ∉ s := by
  induction s with
  | nil => simp [cut?]
  | cons c r ih =>
    rw [cut?]
    split
    . next hc => simp [hc]
    . next hc => simp [ih, Ne.symm hc]

theorem fields_ne_nil (sep : Char) (s : List Char) : fields sep s ≠ [] := by
  cases s with
  | nil => exact List.cons_ne_nil _ _
  | cons c r =>
    rw [fields]
    split
    . exact List.cons_ne_nil _ _
    . split <;> exact List.cons_ne_nil _ _

theorem fields_cons_eq {sep c : Char} (hc : c ≠ sep) (s : List Char) :
    ∃ f fs, fields sep s = f :: fs ∧ fields sep (c :: s) = (c :: f) :: fs := by
  obtain ⟨f, fs, hs⟩ := List.exists_cons_of_ne_nil (fields_ne_nil sep s)
  refine ⟨f, fs, hs, ?_⟩
  rw [fields, if_neg hc, hs]

theorem fields_of_not_mem {sep : Char} {s : List Char} (h : sep ∉ s) : fields sep s = [s] := by
  induction s with
  | nil => rfl
  | cons c r ih =>
    rw [List.mem_cons, not_or] at h
    rw [fields, if_neg (Ne.symm h.1), ih h.2]

theorem fields_append {sep : Char} {a : List Char} (h : sep ∉ a) (b : List Char) :
    fields sep (a ++ sep :: b) = a :: fields sep b := by
  induction a with
  | nil => rw [List.nil_append, fields, if_pos rfl]
  | cons c r ih =>
    rw [List.mem_cons, not_or] at h
    rw [List.cons_append, fields, if_neg (Ne.symm h.1), ih h.2]

theorem length_fields_le_one_iff {sep : Char} {s : List Char} :
    (fields sep s).length ≤ 1 ↔ sep ∉ s := by
  constructor
  . intro hlength hmem
    cases hcut : cut? sep s with
    | none => exact cut?_eq_none_iff.1 hcut hmem
    | some p =>
      obtain ⟨rfl, hsep⟩ := cut?_eq_some hcut
      rw [fields_append hsep, List.length_cons] at hlength
      have := List.length_pos_iff.2 (fields_ne_nil sep p.2)
      omega
  . intro hmem
    rw [fields_of_not_mem hmem]
    exact Nat.le_refl 1

end Text

namespace Operation

/-- An operation is well formed if it shows a message and has no parameters, or else shows none and
calls a method that is named without a point, of the primary contract or of a delegate. -/
def WellFormed (o : Operation) : Prop :=
  match o.target with
  | .stub => o.message ≠ "" ∧ o.parameters = []
  | .direct method => o.message = "" ∧ method ≠ "" ∧ '.' ∉ method.toList
  | .delegate delegate method =>
    o.message = "" ∧ delegate ≠ "" ∧ method ≠ "" ∧ '.' ∉ method.toList

variable {o : Operation} {label : String}

theorem target_of_empty (h : o.callee = "") : o.target = .stub := by
  unfold target
  rw [if_pos (String.isEmpty_iff.2 h)]

theorem target_of_split {delegate method : String}
    (h : splitCallee? o.callee = some (delegate, method)) :
    o.target = .delegate delegate method := by
  unfold target
  rw [if_neg, h]
  intro hempty
  have hmem := (splitCallee?_eq_some h).1
  rw [String.isEmpty_iff.1 hempty] at hmem
  cases hmem

theorem target_of_whole (hne : o.callee ≠ "") (h : splitCallee? o.callee = none) :
    o.target = .direct o.callee := by
  unfold target
  rw [if_neg (mt String.isEmpty_iff.1 hne), h]

theorem validate_of_empty (h : o.callee = "") :
    o.validate label = .ok () ↔ o.message ≠ "" ∧ o.parameters = [] := by
  unfold validate
  by_cases hmessage : o.message = "" <;> by_cases hparameters : o.parameters = [] <;>
    simp [h, hmessage, hparameters, Text.fields]

theorem validate_of_nonempty (h : o.callee ≠ "") :
    o.validate label = .ok () ↔ o.message = "" ∧ (Text.fields '.' o.callee.toList).length ≤ 2 ∧
      [] ∉ Text.fields '.' o.callee.toList := by
  unfold validate
  by_cases hmessage : o.message = ""
  . simp [h, hmessage]
  . simp [h, hmessage]

theorem validate_eq_ok_iff : o.validate label = .ok () ↔ o.WellFormed := by
  unfold WellFormed
  by_cases hcallee : o.callee = ""
  . rw [target_of_empty hcallee, validate_of_empty hcallee]
  . rw [validate_of_nonempty hcallee]
    cases hsplit : splitCallee? o.callee with
    | none =>
      have hpoint : '.' ∉ o.callee.toList :=
        Text.cut?_eq_none_iff.1 (Option.map_eq_none_iff.1 hsplit)
      rw [target_of_whole hcallee hsplit, Text.fields_of_not_mem hpoint]
      simp [hcallee, hpoint]
    | some p =>
      obtain ⟨delegate, method⟩ := p
      rw [target_of_split hsplit]
      obtain ⟨⟨a, b⟩, hcut, heq⟩ := Option.map_eq_some_iff.1 hsplit
      obtain ⟨rfl, rfl⟩ : String.ofList a = delegate ∧ String.ofList b = method := by
        simpa using heq
      obtain ⟨hlist, hpoint⟩ := Text.cut?_eq_some hcut
      rw [hlist, Text.fields_append hpoint, List.length_cons, Nat.succ_le_succ_iff,
        Text.length_fields_le_one_iff]
      have hne (x : List Char) : String.ofList x ≠ "" ↔ [] ≠ x := by
        rw [ne_eq, String.ofList_eq_empty_iff, ne_comm]
      dsimp only
      rw [hne, hne, String.toList_ofList]
      constructor
      . rintro ⟨hmessage, hb, hparts⟩
        rw [Text.fields_of_not_mem hb, List.mem_cons, List.mem_singleton, not_or] at hparts
        exact ⟨hmessage, hparts.1, hparts.2, hb⟩
      . rintro ⟨hmessage, ha, hmethod, hb⟩
        rw [Text.fields_of_not_mem hb, List.mem_cons, List.mem_singleton, not_or]
        exact ⟨hmessage, hb, ha, hmethod⟩

end Operation

theorem Delegate.validateFunctions_eq_ok_iff {name : String} {functions : List Operation} :
    validateFunctions name functions = .ok () ↔
      ∀ o ∈ functions, o.WellFormed ∧ '.' ∉ o.callee.toList := by
  induction functions with
  | nil => simp [validateFunctions]
  | cons o r ih =>
    unfold validateFunctions
    dsimp only
    rw [check_then_eq_ok_iff, refuse_then_eq_ok_iff, ih, Operation.validate_eq_ok_iff,
      List.contains_iff_mem, List.forall_mem_cons, and_assoc]

/-- A delegate is well formed if it has a name, the address that it is given is one, and its
functions are well formed and call its own methods. -/
structure Delegate.WellFormed (d : Delegate) : Prop where
  name : d.name ≠ ""
  address : ∀ text, d.contractAddress = some text → ∃ a, parseAddress text = .ok a
  functions : ∀ o ∈ d.functions, o.WellFormed ∧ '.' ∉ o.callee.toList

theorem Delegate.wellFormed_iff {d : Delegate} :
    d.WellFormed ↔ d.name ≠ "" ∧
      (∀ text, d.contractAddress = some text → ∃ a, parseAddress text = .ok a) ∧
      ∀ o ∈ d.functions, o.WellFormed ∧ '.' ∉ o.callee.toList :=
  ⟨fun h => ⟨h.name, h.address, h.functions⟩, fun ⟨hn, ha, hf⟩ => ⟨hn, ha, hf⟩⟩

namespace Specification

theorem validateDelegates_eq_ok_iff {position : Nat} {seen : List String} {ds : List Delegate} :
    validateDelegates position seen ds = .ok () ↔
      (∀ d ∈ ds, d.WellFormed ∧ d.name ∉ seen) ∧ (ds.map Delegate.name).Nodup := by
  induction ds generalizing position seen with
  | nil => simp [validateDelegates]
  | cons d r ih =>
    unfold validateDelegates
    dsimp only
    rw [refuse_then_eq_ok_iff, refuse_then_eq_ok_iff]
    have hrest :
        (∀ d' ∈ r, d'.WellFormed ∧ d'.name ∉ d.name :: seen) ∧ (r.map Delegate.name).Nodup ↔
        (∀ d' ∈ r, d'.WellFormed ∧ d'.name ∉ seen) ∧ d.name ∉ r.map Delegate.name ∧
          (r.map Delegate.name).Nodup := by
      rw [List.mem_map]
      grind
    have hchecks : (Delegate.validateFunctions d.name d.functions >>= fun _ =>
        validateDelegates (position + 1) (d.name :: seen) r) = .ok () ↔
        (∀ o ∈ d.functions, o.WellFormed ∧ '.' ∉ o.callee.toList) ∧
          (∀ d' ∈ r, d'.WellFormed ∧ d'.name ∉ seen) ∧ d.name ∉ r.map Delegate.name ∧
          (r.map Delegate.name).Nodup := by
      rw [check_then_eq_ok_iff, Delegate.validateFunctions_eq_ok_iff, ih, hrest]
    rw [List.forall_mem_cons, List.map_cons, List.nodup_cons, Delegate.wellFormed_iff,
      List.contains_iff_mem, String.isEmpty_iff]
    cases d.contractAddress with
    | none =>
      dsimp only
      rw [hchecks]
      simp only [reduceCtorEq, false_implies, implies_true, true_and]
      grind
    | some address =>
      dsimp only
      rw [then_eq_ok_iff, hchecks]
      simp only [Option.some.injEq, forall_eq']
      grind

theorem validateOperations_eq_ok_iff {known : List String} {os : List (String × Operation)} :
    validateOperations known os = .ok () ↔
      ∀ p ∈ os, p.2.WellFormed ∧ ∀ d m, p.2.target = .delegate d m → d ∈ known := by
  induction os with
  | nil => simp [validateOperations]
  | cons p r ih =>
    obtain ⟨name, o⟩ := p
    unfold validateOperations
    dsimp only
    rw [check_then_eq_ok_iff, Operation.validate_eq_ok_iff, List.forall_mem_cons, ← ih, and_assoc]
    apply and_congr_right'
    cases o.target with
    | delegate d m =>
      dsimp only
      rw [refuse_then_eq_ok_iff]
      simp
    | _ => simp

/-- A specification is well formed if its contract has an address, its delegates are well formed and
have different names, and its operations are well formed and call delegates that there are. -/
structure WellFormed (s : Specification) : Prop where
  address : ∃ a, s.address = .ok a
  delegates : ∀ d ∈ s.delegates, d.WellFormed
  names : (s.delegates.map Delegate.name).Nodup
  operations : ∀ p ∈ s.functions.toList, p.2.WellFormed
  declared : ∀ p ∈ s.functions.toList, ∀ d m, p.2.target = .delegate d m →
    d ∈ s.delegates.map Delegate.name

theorem validate_eq_ok_iff {s : Specification} : s.validate = .ok () ↔ s.WellFormed := by
  unfold validate
  rw [then_eq_ok_iff, check_then_eq_ok_iff, validateDelegates_eq_ok_iff,
    validateOperations_eq_ok_iff]
  constructor
  . rintro ⟨haddress, ⟨hdelegates, hnames⟩, hoperations⟩
    exact ⟨haddress, fun d hd => (hdelegates d hd).1, hnames, fun p hp => (hoperations p hp).1,
      fun p hp => (hoperations p hp).2⟩
  . intro h
    exact ⟨h.address, ⟨fun d hd => ⟨h.delegates d hd, List.not_mem_nil⟩, h.names⟩,
      fun p hp => ⟨h.operations p hp, h.declared p hp⟩⟩

theorem wellFormed_of_read {label document : String} {s : Specification}
    (h : read label document = .ok s) : s.WellFormed := by
  unfold read at h
  split at h
  . cases h
  . split at h
    . cases h
    . next s' _ =>
      obtain ⟨hvalid, hs⟩ := check_then_eq_ok_iff.1 h
      cases hs
      exact validate_eq_ok_iff.1 hvalid

namespace WellFormed

variable {s : Specification} {name delegate method : String} {o : Operation}

theorem operation (h : s.WellFormed) (ho : s.functions.find? name = some o) : o.WellFormed :=
  h.operations _ (Assoc.mem_of_find?_eq_some ho)

theorem target_eq_stub_iff (h : s.WellFormed) (ho : s.functions.find? name = some o) :
    o.target = .stub ↔ o.message ≠ "" ∧ o.parameters = [] := by
  have hwf := h.operation ho
  unfold Operation.WellFormed at hwf
  cases htarget : o.target with
  | stub =>
    rw [htarget] at hwf
    simp [hwf]
  | direct method =>
    rw [htarget] at hwf
    simp [hwf.1]
  | delegate delegate method =>
    rw [htarget] at hwf
    simp [hwf.1]

theorem method_of_direct (h : s.WellFormed) (ho : s.functions.find? name = some o)
    (ht : o.target = .direct method) : method ≠ "" ∧ '.' ∉ method.toList := by
  have hwf := h.operation ho
  unfold Operation.WellFormed at hwf
  rw [ht] at hwf
  exact hwf.2

theorem method_of_delegate (h : s.WellFormed) (ho : s.functions.find? name = some o)
    (ht : o.target = .delegate delegate method) : method ≠ "" ∧ '.' ∉ method.toList := by
  have hwf := h.operation ho
  unfold Operation.WellFormed at hwf
  rw [ht] at hwf
  exact hwf.2.2

theorem count_delegate (h : s.WellFormed) (ho : s.functions.find? name = some o)
    (ht : o.target = .delegate delegate method) :
    (s.delegates.map Delegate.name).count delegate = 1 := by
  rw [h.names.count, if_pos]
  exact h.declared _ (Assoc.mem_of_find?_eq_some ho) delegate method ht

theorem exists_delegate (h : s.WellFormed) (ho : s.functions.find? name = some o)
    (ht : o.target = .delegate delegate method) : ∃ d, s.delegate? delegate = some d := by
  have hmem := h.declared _ (Assoc.mem_of_find?_eq_some ho) delegate method ht
  obtain ⟨d, hd, hname⟩ := List.mem_map.1 hmem
  apply Option.isSome_iff_exists.1
  rw [Specification.delegate?, List.find?_isSome]
  exact ⟨d, hd, decide_eq_true hname⟩

end WellFormed

end Specification

end Registrar
