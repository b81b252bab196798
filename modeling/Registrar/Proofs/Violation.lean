import Registrar.Proofs.Nesting
import Registrar.Proofs.Validation

/-!
This module contains the rules that a specification has to keep, in the order in which they are
checked, and the proof that the check reports the first of them that is broken. What a specification
looks like that keeps them all is said without the order.
-/

namespace Registrar

theorem Text.fields_le_two_iff {sep : Char} {s : List Char} (hs : s ≠ []) :
    (fields sep s).length ≤ 2 ∧ [] ∉ fields sep s ↔
      ∀ a b, s = a ++ sep :: b → a ≠ [] ∧ b ≠ [] ∧ sep ∉ b := by
  cases hcut : cut? sep s with
  | none =>
    have hsep := cut?_eq_none_iff.1 hcut
    rw [fields_of_not_mem hsep]
    constructor
    . rintro - a b rfl
      simp at hsep
    . intro _
      simp [Ne.symm hs]
  | some p =>
    obtain ⟨a, b⟩ := p
    obtain ⟨rfl, ha⟩ := cut?_eq_some hcut
    rw [fields_append ha, List.length_cons, Nat.succ_le_succ_iff, length_fields_le_one_iff]
    constructor
    . rintro ⟨hb, hparts⟩ a' b' heq
      -- There is one separator, so that there is one way to part the text.
      have hcount := congrArg (List.count sep) heq
      simp only [List.count_append, List.count_cons_self, List.count_eq_zero.2 ha,
        List.count_eq_zero.2 hb] at hcount
      have ha' : sep ∉ a' := List.count_eq_zero.1 (by omega)
      have hb' : sep ∉ b' := List.count_eq_zero.1 (by omega)
      rw [heq, cut?_append ha'] at hcut
      cases hcut
      rw [fields_of_not_mem hb, List.mem_cons, List.mem_singleton, not_or] at hparts
      exact ⟨Ne.symm hparts.1, Ne.symm hparts.2, hb⟩
    . intro h
      obtain ⟨hane, hbne, hb⟩ := h a b rfl
      rw [fields_of_not_mem hb, List.mem_cons, List.mem_singleton, not_or]
      exact ⟨hb, Ne.symm hane, Ne.symm hbne⟩

/-- A rule for one part of a specification. -/
inductive Rule where
  /-- A contract is given by an address. -/
  | address (text : String)
  /-- The delegate at this position has a name. -/
  | named (position : Nat) (name : String)
  /-- A delegate is not named as one of those before it. -/
  | distinct (earlier : List String) (name : String)
  /-- An operation calls something or shows a message, and not both. -/
  | exclusive (label : String) (o : Operation)
  /-- An operation that calls nothing has no parameters. -/
  | parameters (label : String) (o : Operation)
  /-- A function of a delegate calls a method of the delegate itself. -/
  | own (label : String) (o : Operation)
  /-- The callee of an operation has at most one dot, with text on both sides of it. -/
  | callee (label : String) (o : Operation)
  /-- An operation calls no delegate but the known ones. -/
  | declared (known : List String) (label : String) (o : Operation)

namespace Rule

/-- That a rule is broken, and the error that says so. -/
inductive Broken : Rule → SpecError → Prop where
  | address {text : String} {fault : Hex.Fault} (h : Address.read text.toList = .error fault) :
      Broken (.address text) (.invalidAddress text fault)
  | named {position : Nat} {name : String} (h : name = "") :
      Broken (.named position name) (.unnamedDelegate position)
  | distinct {earlier : List String} {name : String} (h : name ∈ earlier) :
      Broken (.distinct earlier name) (.duplicateDelegate name)
  | both {label : String} {o : Operation} (hc : o.callee ≠ "") (hm : o.message ≠ "") :
      Broken (.exclusive label o) (.ambiguousTarget label)
  | neither {label : String} {o : Operation} (hc : o.callee = "") (hm : o.message = "") :
      Broken (.exclusive label o) (.missingTarget label)
  | parameters {label : String} {o : Operation} (hc : o.callee = "") (hp : o.parameters ≠ []) :
      Broken (.parameters label o) (.parametersWithoutTarget label)
  | own {label : String} {o : Operation} (h : '.' ∈ o.callee.toList) :
      Broken (.own label o) (.invalidFunctionName label o.callee)
  | callee {label : String} {o : Operation} {a b : List Char}
      (h : o.callee.toList = a ++ '.' :: b) (hparts : a = [] ∨ b = [] ∨ '.' ∈ b) :
      Broken (.callee label o) (.invalidFunctionName label o.callee)
  | declared {known : List String} {label : String} {o : Operation} {a b : List Char}
      (h : o.callee.toList = a ++ '.' :: b) (ha : '.' ∉ a) (hknown : String.ofList a ∉ known) :
      Broken (.declared known label o) (.unknownDelegate label (String.ofList a))

def Kept (r : Rule) : Prop := ∀ e, ¬ r.Broken e

/-- The first of these rules that is broken is broken with this error. -/
def FirstBroken (rules : List Rule) (e : SpecError) : Prop :=
  ∃ before rule after, rules = before ++ rule :: after ∧ (∀ r ∈ before, r.Kept) ∧ rule.Broken e

variable {α β : Type} {r : Rule} {rules rules' : List Rule} {e e' : SpecError}
  {x : Except SpecError α} {y : Except SpecError β}

theorem Broken.unique (h : r.Broken e) (h' : r.Broken e') : e = e' := by
  cases h with
  | address h =>
    cases h' with
    | address h' =>
      rw [h] at h'
      cases h'
      rfl
  | both hc =>
    cases h' with
    | both => rfl
    | neither hc' => exact absurd hc' hc
  | neither hc =>
    cases h' with
    | both hc' => exact absurd hc hc'
    | neither => rfl
  | declared h ha =>
    cases h' with
    | declared h' ha' =>
      rename_i a b _ a' b' _
      have hcut : Text.cut? '.' (a ++ '.' :: b) = Text.cut? '.' (a' ++ '.' :: b') := by rw [← h, h']
      rw [Text.cut?_append ha, Text.cut?_append ha'] at hcut
      cases hcut
      rfl
  | _ =>
    cases h'
    rfl

theorem FirstBroken.not_kept (h : FirstBroken rules e) : ¬ ∀ r ∈ rules, r.Kept := by
  obtain ⟨before, rule, after, rfl, -, hbroken⟩ := h
  intro hkept
  exact hkept rule (by simp) e hbroken

theorem firstBroken_cons_iff :
    FirstBroken (r :: rules) e ↔ r.Broken e ∨ r.Kept ∧ FirstBroken rules e := by
  constructor
  . rintro ⟨before, rule, after, heq, hkept, hbroken⟩
    cases before with
    | nil =>
      cases heq
      exact .inl hbroken
    | cons first before =>
      cases heq
      exact .inr ⟨hkept _ List.mem_cons_self, before, rule, after, rfl,
        fun q hq => hkept q (List.mem_cons_of_mem _ hq), hbroken⟩
  . rintro (hbroken | ⟨hr, before, rule, after, rfl, hkept, hbroken⟩)
    . exact ⟨[], r, rules, rfl, fun _ hq => absurd hq List.not_mem_nil, hbroken⟩
    . exact ⟨r :: before, rule, after, rfl, List.forall_mem_cons.2 ⟨hr, hkept⟩, hbroken⟩

theorem not_firstBroken_nil : ¬ FirstBroken [] e := by
  intro h
  exact h.not_kept fun _ hr => absurd hr List.not_mem_nil

theorem FirstBroken.unique (h : FirstBroken rules e) (h' : FirstBroken rules e') : e = e' := by
  induction rules with
  | nil => exact absurd h not_firstBroken_nil
  | cons r rules ih =>
    rw [firstBroken_cons_iff] at h h'
    rcases h with h | ⟨hkept, h⟩ <;> rcases h' with h' | ⟨hkept', h'⟩
    . exact h.unique h'
    . exact absurd h (hkept' e)
    . exact absurd h' (hkept e')
    . exact ih h h'

theorem FirstBroken.append (h : FirstBroken rules e) : FirstBroken (rules ++ rules') e := by
  obtain ⟨before, rule, after, rfl, hrest⟩ := h
  exact ⟨before, rule, after ++ rules', by simp, hrest⟩

theorem FirstBroken.behind (hkept : ∀ r ∈ rules, r.Kept) (h : FirstBroken rules' e) :
    FirstBroken (rules ++ rules') e := by
  obtain ⟨before, rule, after, rfl, hbefore, hbroken⟩ := h
  refine ⟨rules ++ before, rule, after, by simp, ?_, hbroken⟩
  intro q hq
  cases List.mem_append.1 hq with
  | inl hq => exact hkept q hq
  | inr hq => exact hbefore q hq

/-- A check of some rules succeeds if all of them are kept, and comes to the error of the first of
them that is broken otherwise. -/
inductive Checks {α : Type} (rules : List Rule) : Except SpecError α → Prop where
  | kept {a : α} (h : ∀ r ∈ rules, r.Kept) : Checks rules (.ok a)
  | broken {e : SpecError} (h : FirstBroken rules e) : Checks rules (.error e)

namespace Checks

theorem eq_ok_iff {x : Except SpecError Unit} (h : Checks rules x) :
    x = .ok () ↔ ∀ r ∈ rules, r.Kept := by
  cases h with
  | kept h => exact ⟨fun _ => h, fun _ => rfl⟩
  | broken h =>
    constructor
    . intro heq
      cases heq
    . intro hkept
      exact absurd hkept h.not_kept

theorem eq_error_iff (h : Checks rules x) : x = .error e ↔ FirstBroken rules e := by
  cases h with
  | kept h =>
    constructor
    . intro heq
      cases heq
    . intro hbroken
      exact absurd h hbroken.not_kept
  | broken h =>
    constructor
    . intro heq
      cases heq
      exact h
    . intro h'
      rw [h.unique h']

theorem nil {a : α} : Checks [] (.ok a : Except SpecError α) :=
  .kept fun _ hr => absurd hr List.not_mem_nil

theorem append (h : Checks rules x) (h' : Checks rules' y) :
    Checks (rules ++ rules') (x >>= fun _ => y) := by
  cases h with
  | kept h =>
    cases h' with
    | kept h' => exact .kept fun r hr => (List.mem_append.1 hr).elim (h r) (h' r)
    | broken h' => exact .broken (h'.behind h)
  | broken h => exact .broken h.append

/-- A rule that is kept for another reason does not have to be checked. -/
theorem skip (hr : r.Kept) (h : Checks rules x) : Checks (r :: rules) x := by
  cases h with
  | kept h => exact .kept (List.forall_mem_cons.2 ⟨hr, h⟩)
  | broken h => exact .broken (firstBroken_cons_iff.2 (.inr ⟨hr, h⟩))

/-- One rule is checked before the others. -/
theorem cons {c : Prop} [Decidable c] (hbroken : c → r.Broken e) (hkept : ¬ c → r.Kept)
    (h : Checks rules x) : Checks (r :: rules) (if c then .error e else x) := by
  split
  . next hc => exact .broken (firstBroken_cons_iff.2 (.inl (hbroken hc)))
  . next hc => exact h.skip (hkept hc)

end Checks

variable {label : String} {o : Operation}

theorem kept_exclusive_iff :
    (exclusive label o).Kept ↔ (o.callee = "" ↔ o.message ≠ "") := by
  constructor
  . intro h
    constructor
    . intro hc hm
      exact h _ (.neither hc hm)
    . intro hm
      exact Decidable.byContradiction fun hc => h _ (.both hc hm)
  . intro h e hbroken
    cases hbroken with
    | both hc hm => exact hc (h.2 hm)
    | neither hc hm => exact h.1 hc hm

theorem kept_parameters_iff :
    (parameters label o).Kept ↔ (o.callee = "" → o.parameters = []) := by
  constructor
  . intro h hc
    exact Decidable.byContradiction fun hp => h _ (.parameters hc hp)
  . intro h e hbroken
    cases hbroken with
    | parameters hc hp => exact hp (h hc)

theorem kept_callee_iff :
    (callee label o).Kept ↔
      ∀ a b, o.callee.toList = a ++ '.' :: b → a ≠ [] ∧ b ≠ [] ∧ '.' ∉ b := by
  constructor
  . intro h a b hab
    have hparts : ¬ (a = [] ∨ b = [] ∨ '.' ∈ b) := fun hparts => h _ (.callee hab hparts)
    rw [not_or, not_or] at hparts
    exact hparts
  . intro h e hbroken
    cases hbroken with
    | callee hab hparts =>
      obtain ⟨ha, hb, hpoint⟩ := h _ _ hab
      rcases hparts with hparts | hparts | hparts
      . exact ha hparts
      . exact hb hparts
      . exact hpoint hparts

theorem kept_own_iff : (own label o).Kept ↔ '.' ∉ o.callee.toList := by
  constructor
  . intro h hpoint
    exact h _ (.own hpoint)
  . intro h e hbroken
    cases hbroken with
    | own hpoint => exact h hpoint

theorem Broken.own_of_callee (h : (Rule.callee label o).Broken e) :
    (Rule.own label o).Broken e := by
  cases h with
  | callee h =>
    apply Broken.own
    simp [h]

theorem Checks.validate_operation (o : Operation) (label : String) :
    Checks [.exclusive label o, .parameters label o, .callee label o] (o.validate label) := by
  by_cases hc : o.callee = ""
  . have hvalidate : o.validate label =
        if o.message = "" then .error (.missingTarget label)
        else if o.parameters ≠ [] then .error (.parametersWithoutTarget label)
        else .ok () := by
      simp [Operation.validate, hc, Text.fields]
    have hcallee : (Rule.callee label o).Kept := by
      rw [kept_callee_iff, hc]
      intro a b hab
      simp at hab
    rw [hvalidate]
    apply Checks.cons (Broken.neither hc)
    . intro hm
      exact kept_exclusive_iff.2 ⟨fun _ => hm, fun _ => hc⟩
    . apply Checks.cons (Broken.parameters hc)
      . intro hp
        exact kept_parameters_iff.2 fun _ => Decidable.not_not.1 hp
      . exact Checks.nil.skip hcallee
  . have hparts : (Text.fields '.' o.callee.toList).length ≤ 2 ∧
        [] ∉ Text.fields '.' o.callee.toList ↔ (Rule.callee label o).Kept := by
      rw [kept_callee_iff, Text.fields_le_two_iff]
      simpa using hc
    have hvalidate : o.validate label =
        if o.message ≠ "" then .error (.ambiguousTarget label)
        else if (Text.fields '.' o.callee.toList).length ≤ 2 ∧
          [] ∉ Text.fields '.' o.callee.toList then .ok ()
        else .error (.invalidFunctionName label o.callee) := by
      simp [Operation.validate, hc, List.forall_mem_ne']
    rw [hvalidate]
    apply Checks.cons (Broken.both hc)
    . intro hm
      exact kept_exclusive_iff.2 ⟨fun h => absurd h hc, fun h => absurd h hm⟩
    . apply Checks.skip
      . exact kept_parameters_iff.2 fun h => absurd h hc
      . rw [← ite_not]
        apply Checks.cons _ _ Checks.nil
        . intro h
          rw [hparts] at h
          obtain ⟨e, he⟩ := Classical.not_forall_not.1 h
          cases he with
          | callee hab hbroken => exact .callee hab hbroken
        . intro h
          exact hparts.1 (Decidable.not_not.1 h)

/-- The function of a delegate, and then what is checked behind it. -/
theorem Checks.validate_function (o : Operation) (label : String) (h : Checks rules x) :
    Checks (.exclusive label o :: .parameters label o :: .own label o :: rules)
      (o.validate label >>= fun _ =>
        if o.callee.toList.contains '.' then .error (.invalidFunctionName label o.callee)
        else x) := by
  cases hvalidate : o.validate label with
  | ok =>
    have hkept := (Checks.validate_operation o label).eq_ok_iff.1 hvalidate
    simp only [List.forall_mem_cons] at hkept
    apply Checks.skip hkept.1
    apply Checks.skip hkept.2.1
    apply Checks.cons _ _ h
    . intro hpoint
      exact .own (List.contains_iff_mem.1 hpoint)
    . intro hpoint
      exact kept_own_iff.2 fun hmem => hpoint (List.contains_iff_mem.2 hmem)
  | error e =>
    have hbroken := (Checks.validate_operation o label).eq_error_iff.1 hvalidate
    apply Checks.broken
    rw [firstBroken_cons_iff, firstBroken_cons_iff, firstBroken_cons_iff] at *
    obtain hbroken | ⟨hexclusive, hbroken | ⟨hparameters, hbroken | ⟨-, hnil⟩⟩⟩ := hbroken
    . exact .inl hbroken
    . exact .inr ⟨hexclusive, .inl hbroken⟩
    . exact .inr ⟨hexclusive, .inr ⟨hparameters, .inl hbroken.own_of_callee⟩⟩
    . exact absurd hnil not_firstBroken_nil

theorem target_of_not_mem (h : '.' ∉ o.callee.toList) (delegate method : String) :
    o.target ≠ .delegate delegate method := by
  have hsplit : Operation.splitCallee? o.callee = none :=
    Option.map_eq_none_iff.2 (Text.cut?_eq_none_iff.2 h)
  unfold Operation.target
  rw [hsplit]
  split <;> exact Target.noConfusion

theorem target_of_cut {a b : List Char} (h : o.callee.toList = a ++ '.' :: b) (ha : '.' ∉ a) :
    o.target = .delegate (String.ofList a) (String.ofList b) := by
  apply Operation.target_of_split
  unfold Operation.splitCallee?
  rw [h, Text.cut?_append ha]
  rfl

/-- The delegate that an operation calls, and then what is checked behind it. -/
theorem Checks.declared (known : List String) (o : Operation) (label : String)
    (h : Checks rules x) :
    Checks (.declared known label o :: rules)
      (match o.target with
        | .delegate d _ => if !known.contains d then .error (.unknownDelegate label d) else x
        | _ => x) := by
  cases hcut : Text.cut? '.' o.callee.toList with
  | none =>
    have hpoint := Text.cut?_eq_none_iff.1 hcut
    split
    . next htarget => exact absurd htarget (target_of_not_mem hpoint _ _)
    . apply h.skip
      intro e hbroken
      cases hbroken with
      | declared hab =>
        rw [hab] at hpoint
        simp at hpoint
  | some p =>
    obtain ⟨a, b⟩ := p
    obtain ⟨hab, ha⟩ := Text.cut?_eq_some hcut
    rw [target_of_cut hab ha]
    apply Checks.cons _ _ h
    . intro hknown
      apply Broken.declared hab ha
      simpa using hknown
    . intro hknown e hbroken
      cases hbroken with
      | declared hab' ha' hunknown =>
        rw [hab', Text.cut?_append ha'] at hcut
        cases hcut
        simp [hunknown] at hknown

end Rule

open Rule

namespace Delegate

/-- The rules for functions of the named delegate. -/
def functionRules (name : String) (functions : List Operation) : List Rule :=
  functions.flatMap fun o =>
    let label := name ++ "." ++ o.callee
    [.exclusive label o, .parameters label o, .own label o]

/-- The rules for delegates behind others. -/
def rules (earlier : List String) : List Delegate → List Rule
  | [] => []
  | d :: r =>
    .named earlier.length d.name :: .distinct earlier d.name ::
      (d.contractAddress.toList.map .address ++ functionRules d.name d.functions ++
        rules (earlier ++ [d.name]) r)

theorem validateFunctions_checks (name : String) (functions : List Operation) :
    Checks (functionRules name functions) (validateFunctions name functions) := by
  induction functions with
  | nil => exact .nil
  | cons o r ih => exact ih.validate_function o (name ++ "." ++ o.callee)

end Delegate

theorem parseAddress_checks (text : String) :
    Checks [.address text] (parseAddress text) := by
  unfold parseAddress
  cases hread : Address.read text.toList with
  | ok a =>
    apply Checks.kept
    rw [List.forall_mem_singleton]
    intro e hbroken
    cases hbroken with
    | address h =>
      rw [hread] at h
      cases h
  | error fault =>
    apply Checks.broken
    rw [firstBroken_cons_iff]
    exact .inl (.address hread)

namespace Specification

theorem validateDelegates_checks {seen earlier : List String} (hseen : ∀ n, n ∈ seen ↔ n ∈ earlier)
    (ds : List Delegate) :
    Checks (Delegate.rules earlier ds) (validateDelegates earlier.length seen ds) := by
  induction ds generalizing seen earlier with
  | nil => exact .nil
  | cons d r ih =>
    have hrest : Checks (Delegate.rules (earlier ++ [d.name]) r)
        (validateDelegates (earlier.length + 1) (d.name :: seen) r) := by
      have hseen' : ∀ n, n ∈ d.name :: seen ↔ n ∈ earlier ++ [d.name] := by
        simp [hseen, or_comm]
      have hchecks := ih hseen'
      rw [List.length_append] at hchecks
      exact hchecks
    unfold Delegate.rules
    unfold validateDelegates
    apply Checks.cons
    . intro hname
      exact .named (String.isEmpty_iff.1 hname)
    . intro hname e hbroken
      cases hbroken with
      | named h => exact hname (String.isEmpty_iff.2 h)
    . apply Checks.cons
      . intro hmem
        exact .distinct ((hseen _).1 (List.contains_iff_mem.1 hmem))
      . intro hmem e hbroken
        cases hbroken with
        | distinct h => exact hmem (List.contains_iff_mem.2 ((hseen _).2 h))
      . have hfunctions := (Delegate.validateFunctions_checks d.name d.functions).append hrest
        cases d.contractAddress with
        | none => exact hfunctions
        | some text => exact (parseAddress_checks text).append hfunctions

/-- The rules for operations that may call the delegates with these names. -/
def operationRules (known : List String) (os : List (String × Operation)) : List Rule :=
  os.flatMap fun (label, o) =>
    [.exclusive label o, .parameters label o, .callee label o, .declared known label o]

theorem validateOperations_checks (known : List String) (os : List (String × Operation)) :
    Checks (operationRules known os) (validateOperations known os) := by
  induction os with
  | nil => exact .nil
  | cons p r ih =>
    exact (Checks.validate_operation p.2 p.1).append (ih.declared known p.2 p.1)

/-- The rules for a specification: for the address of the primary contract, for the delegates in
their order, each with its functions, and for the operations in the order of their names. -/
def rules (s : Specification) : List Rule :=
  .address s.contractAddress :: (Delegate.rules [] s.delegates ++
    operationRules (s.delegates.map Delegate.name) s.functions.toList)

theorem validate_checks (s : Specification) : Checks s.rules s.validate :=
  (parseAddress_checks s.contractAddress).append
    ((validateDelegates_checks (fun _ => Iff.rfl) s.delegates).append
      (validateOperations_checks _ _))

end Specification

/-- An operation calls something or shows a message, and has no parameters but for a call. -/
structure Operation.Consistent (o : Operation) : Prop where
  exclusive : o.callee = "" ↔ o.message ≠ ""
  parameters : o.callee = "" → o.parameters = []

theorem Operation.wellFormed_iff {o : Operation} :
    o.WellFormed ↔ o.Consistent ∧
      ∀ a b, o.callee.toList = a ++ '.' :: b → a ≠ [] ∧ b ≠ [] ∧ '.' ∉ b := by
  have hvalid : o.validate "" = .ok () ↔ o.WellFormed := validate_eq_ok_iff
  rw [← hvalid, (Checks.validate_operation o "").eq_ok_iff]
  simp only [List.forall_mem_cons, kept_exclusive_iff, kept_parameters_iff, kept_callee_iff]
  constructor
  . rintro ⟨hexclusive, hparameters, hcallee, -⟩
    exact ⟨⟨hexclusive, hparameters⟩, hcallee⟩
  . rintro ⟨h, hcallee⟩
    exact ⟨h.exclusive, h.parameters, hcallee, fun _ hr => absurd hr List.not_mem_nil⟩

namespace Specification

/-- What a specification looks like that keeps all the rules. -/
structure Sound (s : Specification) : Prop where
  address : ∃ a, parseAddress s.contractAddress = .ok a
  delegateAddresses : ∀ d ∈ s.delegates, ∀ text, d.contractAddress = some text →
    ∃ a, parseAddress text = .ok a
  named : ∀ d ∈ s.delegates, d.name ≠ ""
  distinct : (s.delegates.map Delegate.name).Nodup
  functions : ∀ d ∈ s.delegates, ∀ o ∈ d.functions, o.Consistent ∧ '.' ∉ o.callee.toList
  operations : ∀ p ∈ s.functions.toList, p.2.Consistent
  /-- The callee of an operation has at most one dot, with text on both sides of it, and what is
  before the dot is the name of a delegate. -/
  callees : ∀ p ∈ s.functions.toList, ∀ a b, p.2.callee.toList = a ++ '.' :: b →
    a ≠ [] ∧ b ≠ [] ∧ '.' ∉ b ∧ String.ofList a ∈ s.delegates.map Delegate.name

theorem sound_iff_wellFormed {s : Specification} : s.Sound ↔ s.WellFormed := by
  constructor
  . intro h
    constructor
    case address => exact h.address
    case delegates =>
      intro d hd
      refine ⟨h.named d hd, h.delegateAddresses d hd, fun o ho => ?_⟩
      obtain ⟨hconsistent, hpoint⟩ := h.functions d hd o ho
      refine ⟨Operation.wellFormed_iff.2 ⟨hconsistent, fun a b hab => ?_⟩, hpoint⟩
      simp [hab] at hpoint
    case names => exact h.distinct
    case operations =>
      intro p hp
      apply Operation.wellFormed_iff.2
      refine ⟨h.operations p hp, fun a b hab => ?_⟩
      obtain ⟨ha, hb, hpoint, -⟩ := h.callees p hp a b hab
      exact ⟨ha, hb, hpoint⟩
    case declared =>
      intro p hp d m htarget
      cases hcut : Text.cut? '.' p.2.callee.toList with
      | none => exact absurd htarget (target_of_not_mem (Text.cut?_eq_none_iff.1 hcut) d m)
      | some q =>
        obtain ⟨hab, ha⟩ := Text.cut?_eq_some hcut
        rw [target_of_cut hab ha] at htarget
        cases htarget
        exact (h.callees p hp _ _ hab).2.2.2
  . intro h
    constructor
    case address => exact h.address
    case delegateAddresses => exact fun d hd => (h.delegates d hd).address
    case named => exact fun d hd => (h.delegates d hd).name
    case distinct => exact h.names
    case functions =>
      intro d hd o ho
      obtain ⟨hwf, hpoint⟩ := (h.delegates d hd).functions o ho
      exact ⟨(Operation.wellFormed_iff.1 hwf).1, hpoint⟩
    case operations => exact fun p hp => (Operation.wellFormed_iff.1 (h.operations p hp)).1
    case callees =>
      intro p hp a b hab
      have hsplits := (Operation.wellFormed_iff.1 (h.operations p hp)).2
      obtain ⟨hane, hbne, hb⟩ := hsplits a b hab
      refine ⟨hane, hbne, hb, ?_⟩
      have ha : '.' ∉ a := by
        intro hmem
        obtain ⟨a', b', rfl⟩ := List.append_of_mem hmem
        have hrest := (hsplits a' (b' ++ '.' :: b) (by simp [hab])).2.2
        simp at hrest
      exact h.declared p hp _ _ (target_of_cut hab ha)

/-- A specification is accepted if and only if it is sound. Otherwise the error is that of the first
rule that is broken: the address comes first, then the delegates in their order, and then the
operations, which have their names in ascending order. -/
theorem validate_sound_or_first_broken (s : Specification) :
    (s.validate = .ok () ↔ s.Sound) ∧
    (∀ e, s.validate = .error e ↔ FirstBroken s.rules e) ∧
    s.functions.toList.Pairwise fun p q => p.1 < q.1 := by
  refine ⟨?_, fun e => s.validate_checks.eq_error_iff, s.functions.sorted⟩
  rw [sound_iff_wellFormed]
  exact validate_eq_ok_iff

end Specification

end Registrar
