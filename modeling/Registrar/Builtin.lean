import Registrar.Error
import Registrar.Key.Invocation

/-!
This module contains the names of the built-in functions and their calls, `name(parameter=key, ...)`.
Of parameters with one name the last counts.
-/

namespace Registrar

inductive Builtin where
  | arrayUint8
  | chainId
  | expiry
  | salt
  | ecdsaPublicKey
  | blsPublicKey
  | ecdsaSign
  | blsSign
  | blsCurveSign
  | g1Zero
  | g2Zero
deriving Repr, DecidableEq, Inhabited

namespace Builtin

def name : Builtin → String
  | .arrayUint8 => "array_uint8"
  | .chainId => "chain_id"
  | .expiry => "expiry"
  | .salt => "salt"
  | .ecdsaPublicKey => "ecdsa_public_key"
  | .blsPublicKey => "bls_public_key"
  | .ecdsaSign => "ecdsa_sign"
  | .blsSign => "bls_sign"
  | .blsCurveSign => "bls_curve_sign"
  | .g1Zero => "g1_zero"
  | .g2Zero => "g2_zero"

def all : List Builtin :=
  [.arrayUint8, .chainId, .expiry, .salt, .ecdsaPublicKey, .blsPublicKey, .ecdsaSign, .blsSign,
   .blsCurveSign, .g1Zero, .g2Zero]

def ofName? (name : String) : Option Builtin :=
  all.find? fun b => b.name = name

theorem ofName?_name (b : Builtin) : ofName? b.name = some b := by
  cases b <;> rfl

end Builtin

/-- A call of a built-in function, with the key expressions of its parameters. -/
structure BuiltinCall where
  builtin : Builtin
  parameters : List (String × String) := []
deriving Repr, DecidableEq, Inhabited

namespace BuiltinCall

def parameter? (text : String) : Option (String × String) :=
  match Text.cut? '=' text.toList with
  | none => none
  | some (name, key) =>
    let name := Text.trim name
    if name.isEmpty then none
    else some (String.ofList name, String.ofList (Text.trim key))

def enter (made : List (String × String)) : List String →
    Except ResolutionError (List (String × String))
  | [] => .ok made
  | text :: r =>
    match parameter? text with
    | none => .error (.malformedFunctionParameter text)
    | some (name, key) => enter (Assoc.insert name key made) r

def read (payload : String) : Except ResolutionError BuiltinCall :=
  let i := Invocation.read payload
  match Builtin.ofName? i.callee with
  | none => .error (.invalidFunction i.callee)
  | some builtin => (enter [] i.arguments).map fun parameters => ⟨builtin, parameters⟩

def parameter (c : BuiltinCall) (name : String) : Option String :=
  Assoc.find? name c.parameters

theorem length_of_parameter? {text name key : String} (h : parameter? text = some (name, key)) :
    key.length ≤ text.length := by
  rw [parameter?] at h
  rw [← String.length_toList (s := text)]
  split at h
  . next => simp at h
  . next a b hcut =>
      have h₁ := Text.length_of_cut? hcut
      have h₂ := Text.length_trim_le b
      simp only at h
      split at h
      . simp at h
      . obtain ⟨-, rfl⟩ : _ ∧ String.ofList (Text.trim b) = key := by simpa using h
        rw [String.length_ofList]
        omega

theorem length_lt_of_enter {bound : Nat} {texts : List String} (ht : ∀ t ∈ texts, t.length < bound)
    {made parameters : List (String × String)} (hm : ∀ p ∈ made, p.2.length < bound)
    (h : enter made texts = .ok parameters) : ∀ p ∈ parameters, p.2.length < bound := by
  induction texts generalizing made with
  | nil =>
    obtain rfl : made = parameters := by simpa [enter] using h
    exact hm
  | cons text r ih =>
    rw [enter] at h
    split at h
    . next => simp at h
    . next name key hp =>
        refine ih (fun t h => ht t (List.mem_cons_of_mem _ h)) (fun p hmem => ?_) h
        have := length_of_parameter? hp
        have := ht text List.mem_cons_self
        rcases Assoc.mem_insert hmem with rfl | hmem
        . simp only
          omega
        . exact hm p hmem

theorem length_lt_of_parameter {payload name key : String} {c : BuiltinCall}
    (hc : read payload = .ok c) (h : c.parameter name = some key) :
    key.length < payload.length := by
  rw [read] at hc
  split at hc
  . next => simp at hc
  . next builtin _ =>
      cases he : enter [] (Invocation.read payload).arguments with
      | error e => simp [he, Except.map] at hc
      | ok parameters =>
        obtain rfl : (⟨builtin, parameters⟩ : BuiltinCall) = c := by simpa [he, Except.map] using hc
        have := length_lt_of_enter (fun _ h => Invocation.length_lt_of_mem_arguments h)
          (by simp) he (name, key) (Assoc.mem_of_find?_eq_some h)
        exact this

end BuiltinCall

end Registrar
