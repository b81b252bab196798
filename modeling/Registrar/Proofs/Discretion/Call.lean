import Registrar.Proofs.Discretion
import Registrar.Session.Call

/-!
This module contains what becomes of hidden answers where contracts are bound and called. An answer
that is an argument for a text is encoded as it is; it is passed on in the data of a read, and nothing
else depends on it.
-/

namespace Registrar.Session

open Engine

variable {spec : Specification} {I : Interfaces}

theorem ask_resource_veils (resource : String) :
    Veils spec I
      (fun x x' => x = x' ∧ ∀ text i, x = .ok text → Interface.read text = .ok i →
        ∀ role, spec.resource? role = some resource → I role i)
      (ask (.resource spec.name resource)) (ask (.resource spec.name resource)) := by
  apply paired_ask _ _ (comparable_self _)
  rintro x x' ⟨halike, hwithin⟩
  refine ⟨halike.reply_eq rfl, ?_⟩
  rintro text i rfl hi role hr
  exact hwithin role resource text i rfl hr hi

theorem alike_known {resource : String} {i : Interface} {s s' : Session} (h : Alike spec I s s')
    (hi : ∀ role, spec.resource? role = some resource → I role i) :
    Alike spec I { s with interfaces := Assoc.insert resource i s.interfaces }
      { s' with interfaces := Assoc.insert resource i s'.interfaces } := by
  obtain ⟨hspec, hI, hc⟩ := h
  refine .intro hspec ⟨hI.bound, ?_⟩ hc
  intro role r j hr hj
  rw [Assoc.find?_insert] at hj
  split at hj
  . next heq =>
    cases hj
    subst hspec heq
    exact hi role hr
  . exact hI.known role r j hr hj

theorem interface_veils (resource : String) :
    Veils spec I (fun i j => i = j ∧ ∀ role, spec.resource? role = some resource → I role i)
      (interface resource) (interface resource) := by
  unfold interface
  apply paired_get.bind
  rintro _ _ ⟨hspec, hI, -⟩
  dsimp only
  split
  . next i hi =>
    apply paired_pure
    subst hspec
    exact ⟨rfl, fun role hr => hI.known role resource i hr hi⟩
  . apply paired_get.bind
    rintro _ _ ⟨rfl, -, -⟩
    apply (ask_resource_veils resource).bind
    rintro document _ ⟨rfl, hdocument⟩
    apply (paired_ofExcept_self _ document).bind
    rintro text _ ⟨rfl, htext⟩
    apply (paired_ofExcept_self _ (Interface.read text)).bind
    rintro i _ ⟨rfl, hi⟩
    have hroles := hdocument text i htext hi
    apply (paired_modify fun s s' hs => alike_known hs hroles).bind
    rintro - - -
    exact paired_pure ⟨rfl, hroles⟩

theorem bind_veils (role : Role) (name : String) (address : Address) (i : Interface) :
    Veils spec I (fun c c' => c = c' ∧ c.interface = i) (bind role name address i)
      (bind role name address i) := by
  unfold bind
  apply (askAbout_veils (r := .hasCode address) rfl).answer
  intro hasCode
  split
  . exact paired_pure ⟨rfl, rfl⟩
  . exact paired_throw _

theorem alike_bindTo {c : Contract} {s s' : Session} (role : Role) (h : Alike spec I s s')
    (hi : I role c.interface) : Alike spec I (s.bindTo c role) (s'.bindTo c role) := by
  obtain ⟨hspec, hI, hc⟩ := h
  have hwithin : (s.bindTo c role).Within I := by
    constructor
    . intro r d hd
      rw [bound?_bindTo] at hd
      split at hd
      . next heq =>
        cases hd
        rw [heq]
        exact hi
      . exact hI.bound r d hd
    . rw [spec_bindTo]
      cases role with
      | primary => exact hI.known
      | delegate name => exact hI.known
  cases role with
  | primary => exact .intro hspec hwithin hc
  | delegate name => exact .intro hspec hwithin hc

/-- The contract of a role is bound as the same one, whose interface is one that it may have. -/
abbrev BoundAlike (I : Interfaces) (role : Role) (c c' : Contract) : Prop :=
  c = c' ∧ I role c.interface

theorem bindPrimary_veils : Veils spec I (BoundAlike I .primary) bindPrimary bindPrimary := by
  unfold bindPrimary
  apply paired_get.bind
  rintro _ _ ⟨-, hI, -⟩
  dsimp only
  split
  . next c hc => exact paired_pure ⟨rfl, hI.bound .primary c hc⟩
  . apply paired_get.bind
    rintro _ _ ⟨rfl, -, -⟩
    dsimp only
    apply (paired_ofExcept_eq _ _).bind_eq
    intro address
    apply (interface_veils _).bind
    rintro i _ ⟨rfl, hi⟩
    apply (bind_veils .primary _ address i).bind
    rintro c _ ⟨rfl, rfl⟩
    have hc : I .primary c.interface := hi .primary rfl
    apply (paired_modify fun s s' hs => alike_bindTo .primary hs hc).bind
    rintro - - -
    exact paired_pure ⟨rfl, hc⟩

theorem delegateAddress_veils (d : Delegate) {getter getter' : Engine Value}
    (hg : Veils spec I Eq getter getter') :
    Veils spec I Eq (delegateAddress d getter) (delegateAddress d getter') := by
  unfold delegateAddress
  split
  . exact paired_ofExcept_eq _ _
  . apply hg.bind_eq
    intro v
    split
    . exact paired_pure rfl
    . exact paired_throw _

theorem bindDelegate_veils (name : String) {getter getter' : Engine Value}
    (hg : Veils spec I Eq getter getter') :
    Veils spec I (BoundAlike I (.delegate name)) (bindDelegate name getter)
      (bindDelegate name getter') := by
  unfold bindDelegate
  apply paired_get.bind
  rintro _ _ ⟨-, hI, -⟩
  dsimp only
  split
  . next c hc => exact paired_pure ⟨rfl, hI.bound (.delegate name) c hc⟩
  . apply paired_get.bind
    rintro _ _ ⟨rfl, -, -⟩
    dsimp only
    split
    . exact paired_throw _
    . next d hd =>
      apply ((delegateAddress_veils d hg).within _).bind_eq
      intro address
      apply (interface_veils d.abi).bind
      rintro i _ ⟨rfl, hi⟩
      apply (bind_veils (.delegate name) name address i).bind
      rintro c _ ⟨rfl, rfl⟩
      have hc : I (.delegate name) c.interface := by
        apply hi
        exact Option.map_eq_some_iff.2 ⟨d, hd, rfl⟩
      apply (paired_modify fun s s' hs => alike_bindTo (.delegate name) hs hc).bind
      rintro - - -
      exact paired_pure ⟨rfl, hc⟩

theorem sameEnd_encodeAs {type : AbiType} {components : List Param} {v v' : Value}
    (h : Value.Veiled (type = .string) v v') :
    SameEnd (fun _ _ => True) (v.encodeAs type components) (v'.encodeAs type components) := by
  cases h with
  | same => exact (sameEnd_self _).mono fun _ _ _ => trivial
  | @texts a a' h =>
    subst h
    have hencode (a : String) :
        (Value.string a).encodeAs .string components = .ok (.string a) := by
      rw [Value.encodeAs]
      rfl
    rw [hencode, hencode]
    exact .ok trivial

section Arguments

variable {α : Type} {load load' : α → Option Kind → Engine Value} {args : List α}

/-- The arguments for parameters are loaded alike, and as the same values but for texts. -/
def LoadedAlike (spec : Specification) (I : Interfaces) (load load' : α → Option Kind → Engine Value)
    (params : List Param) (args : List α) : Prop :=
  ∀ (i : Nat) (p : Param) (a : α) (type : AbiType), params[i]? = some p → args[i]? = some a →
    p.resolve = some type →
      Veils spec I (Value.Veiled (type = .string)) (load a type.kind?) (load' a type.kind?)

theorem arguments_veils {params : List Param} (h : LoadedAlike spec I load load' params args)
    (method : String) (position : Nat) :
    Veils spec I (fun _ _ => True) (arguments load method position params args)
      (arguments load' method position params args) := by
  induction params generalizing args position with
  | nil =>
    unfold arguments
    exact paired_pure trivial
  | cons p params ih =>
    cases args with
    | nil =>
      unfold arguments
      exact paired_pure trivial
    | cons a args =>
      have hargument : Veils spec I (fun _ _ => True) (argument load p a) (argument load' p a) := by
        unfold argument
        cases hp : p.resolve with
        | none => exact paired_throw _
        | some type =>
          apply (h 0 p a type rfl rfl hp).bind
          intro v v' hv
          exact paired_ofExcept (sameEnd_encodeAs hv)
      have hrest : LoadedAlike spec I load load' params args :=
        fun i p' a' type hp' ha' => h (i + 1) p' a' type hp' ha'
      unfold arguments
      apply (hargument.within _).bind
      rintro w w' -
      apply (ih hrest (position + 1)).bind
      rintro ws ws' -
      exact paired_pure trivial

theorem calldata_veils {m : Method} (h : LoadedAlike spec I load load' m.inputs args) :
    Veils spec I (fun _ _ => True) (calldata load m args) (calldata load' m args) := by
  unfold calldata
  split
  . apply (arguments_veils h m.signature 0).bind
    rintro ws ws' -
    exact paired_pure trivial
  . exact paired_throw _

/-- The data of a read may depend on hidden answers; what it is answered with counts alone. -/
theorem ask_call_veils (role : Role) (target : Address) (data data' : Bytes) :
    Veils spec I Eq (askAbout role (.call target data)) (askAbout role (.call target data')) := by
  apply paired_askAbout role (.call target data) (.call target data')
    (R := fun x x' : Except ChainError Bytes => x = x')
  . exact comparable_of_alike (.call (.error .missingBlock)) (within_of_ne nofun)
  . rintro x x' ⟨halike, -⟩
    cases halike with
    | same => rfl
    | call => rfl

theorem readMethod_veils {role : Role} {c : Contract} {name : String}
    (h : ∀ m, c.method name (some args.length) = .ok m →
      LoadedAlike spec I load load' m.inputs args) :
    Veils spec I Eq (readMethod load role c name args) (readMethod load' role c name args) := by
  unfold readMethod
  apply (paired_ofExcept_self _ _).bind
  rintro m _ ⟨rfl, hm⟩
  apply (calldata_veils (h m hm)).bind
  rintro data data' -
  apply (ask_call_veils role c.address data data').answer
  intro output
  exact paired_ofExcept_eq _ _

end Arguments

end Registrar.Session
