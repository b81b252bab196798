import Registrar.Proofs.Destination
import Registrar.Proofs.Grammar
import Registrar.Proofs.Resolution

/-!
This module contains where the values of expressions come from that read a method of a delegate. Such
a value has been read from the delegate and stays, but for one case: the point that stands between a
delegate and its method also stands between a record and its field, so that the field of a record that
has been read from the primary contract is taken for the value of the expression.
-/

namespace Registrar

namespace Session

open Engine

variable {spec : Specification} {settings : Settings} {h t u : Trace} {s s' s₁ : Session}
  {key : String} {e : KeyExpression} {kind : Option Kind} {required : Bool} {v w : Value}

theorem Yields.readFrom {role : Role} {name : String} (hy : Yields h s e w) (hs : e.source = .call)
    (ht : (Invocation.read e.payload).target = (role, name)) :
    ∃ w₀, ReadFrom h s role name (Invocation.read e.payload).arguments.length w₀ ∧
      e.transformed w₀ = .ok w := by
  obtain ⟨w₀, hg, hw⟩ := hy
  refine ⟨w₀, ?_, hw⟩
  cases hg with
  | literal hsource => simp [hs] at hsource
  | setting hsource => simp [hs] at hsource
  | answer hsource => simp [hs] at hsource
  | read _ hr =>
    rw [ht] at hr
    exact hr

theorem find?_of_load (he : KeyExpression.read? key = some e) (hc : e.isCacheable)
    (hr : Runs (load key kind required) s t (.ok v) s') :
    ∃ w, s'.cache.find? key = some w ∧ w.FinishedAs kind required v := by
  obtain ⟨w, t₁, rfl, hfetch, hv⟩ := runs_load_ok_iff.1 hr
  refine ⟨w, ?_, hv⟩
  cases hf : s.cache.find? key with
  | some w' =>
    obtain ⟨-, heq, rfl⟩ := (runs_fetch_some_iff hf).1 hfetch
    cases heq
    exact hf
  | none =>
    obtain ⟨w₀, s₀, -, -, hs⟩ := (runs_resolve_ok_iff he).1 ((runs_fetch_none_iff hf).1 hfetch)
    rw [hs, if_pos hc, Cache.find?_memoize_self]

/-- What an expression that reads a method of a delegate is loaded as has been read from the delegate,
and it is loaded as the same ever after, if no record that another expression has given has a field
under the expression. -/
theorem load_of_delegate {delegate method : String}
    (hs : Moves .all [] (start spec settings) h s) (he : KeyExpression.read? key = some e)
    (hsource : e.source = .call)
    (htarget : (Invocation.read e.payload).target = (.delegate delegate, method))
    (hr : Runs (load key kind required) s t (.ok v) s') (hu : Moves .all (h ++ t) s' u s₁)
    (hk : ¬ Shared (h ++ t ++ u) s₁ key) :
    ∃ w₀ w, ReadFrom (h ++ t) s' (.delegate delegate) method
        (Invocation.read e.payload).arguments.length w₀ ∧
      e.transformed w₀ = .ok w ∧ w.FinishedAs kind required v ∧
      ∀ kind' required' t' v' s₂, Runs (load key kind' required') s₁ t' (.ok v') s₂ →
        w.FinishedAs kind' required' v' := by
  have hc : e.isCacheable := by simp [KeyExpression.isCacheable, hsource]
  have hn : e.source ≠ .bare := by simp [hsource]
  have hload : Moves .all h s t s' := by
    apply ((load_follows_reading key kind required).mono (Permit.le_all _))
    exact hr
  have hreached : Moves .all [] (start spec settings) (h ++ t) s' := hs.trans hload
  have hk' : ¬ Shared (h ++ t) s' key := by
    intro hshared
    exact hk (hshared.mono (List.subset_append_left _ u) fun _ _ => hu.steps.bound?_eq_some)
  obtain ⟨w, hf, hw⟩ := find?_of_load he hc hr
  -- nothing is remembered under the expression in the beginning
  have hstart : (start spec settings).cache.find? key = none := by
    apply find?_start he hn
    simp [hsource]
  have hyields : Yields (h ++ t) s' e w := by
    apply hreached.yields_of_find? he hc hn hk' _ w hf
    intro w' hw'
    rw [hstart] at hw'
    cases hw'
  obtain ⟨w₀, hread, htransform⟩ := hyields.readFrom hsource htarget
  refine ⟨w₀, w, hread, htransform, hw, ?_⟩
  intro kind' required' t' v' s₂ hr'
  have hkept : s₁.cache.find? key = some w := hu.find?_eq_some he hc hn hk hf
  exact ((runs_load_some_iff hkept).1 hr').2.1

/-- Only a record that the primary contract has returned from a method with the name of the delegate
can have a field under an expression that reads a method of the delegate. -/
theorem Shared.primary_record {delegate : Key.Name} {method : String}
    (hd : '.' ∉ delegate.text) (hm : '.' ∉ method.toList)
    (hk : Shared h s ((KeyTree.method delegate none).text ++ "." ++ method)) :
    ∃ fields v, (method, v) ∈ fields ∧
      ReadFrom h s .primary (String.ofList delegate.text) 0 (.record fields) := by
  obtain ⟨other, e, v, hne, he, hy, hmem⟩ := hk
  have hkey : '.' ∉ (KeyTree.method delegate none).text.toList := by
    rw [KeyTree.text, String.toList_ofList]
    simp [KeyTree.chars, Key.expressionChars, KeyTree.source, KeyTree.payloadChars, KeyTree.ending,
      Key.endingChars, hd]
    decide
  obtain ⟨rfl, fields, w, rfl, hfield⟩ := Cache.field_of_mem_storedKeys hkey hm hne hmem
  rw [KeyTree.read?_text] at he
  cases he
  have htarget : (Invocation.read (KeyTree.method delegate none).payload).target =
      (.primary, String.ofList delegate.text) := by
    rw [KeyTree.read_method]
    unfold Invocation.target Operation.splitCallee?
    rw [String.toList_ofList, Text.cut?_eq_none hd]
    rfl
  obtain ⟨w₀, hread, htransform⟩ := hy.readFrom rfl htarget
  cases htransform
  rw [KeyTree.read_method] at hread
  exact ⟨fields, w, hfield, hread⟩

/-- A service with a delegate that has an address. -/
def addressed : Specification where
  name := "s"
  contractAddress := "0x00000000000000000000000000000000000000a1"
  abi := "primary"
  functions := .ofList []
  delegates := [{ name := "d", abi := "delegate",
                  contractAddress := some "0x00000000000000000000000000000000000000b2" }]

/-- The delegate has a method whose name is also that of a field of what a method of the primary
contract returns. -/
def addressedResource (name : String) : String :=
  if name = "primary" then
    "[\x7b\"type\":\"function\",\"name\":\"d\",\"inputs\":[],\"outputs\":[\x7b\"type\":\"tuple\"," ++
      "\"components\":[\x7b\"name\":\"m\",\"type\":\"uint256\"\x7d]\x7d]\x7d]"
  else methodDocument "m" [] ["bool"]

def addressedDelegate : Key.Name where
  text := "d".toList
  edges := Or.inr (Text.Solid.of_ends rfl rfl)
  no_opening := by decide
  no_closing := by decide
  no_comma := by decide
  no_arrow := by decide
  ne_nil := by decide

/-- What happens when an expression is loaded and every read returns the number one. -/
@[irreducible]
def loading (key : String) (s : Session) : Trace × Except OperationError Value × Session :=
  transcript (compliant addressedResource (Bytes.ofNat 32 1)) (load key none true) s

theorem runs_loading {α : Type} {f : Value → α} {a : α}
    (h : (loading key s).2.1.toOption.map f = some a) :
    ∃ v, f v = a ∧ Runs (load key none true) s (loading key s).1 (.ok v) (loading key s).2.2 := by
  unfold loading at *
  exact exists_runs_of_map_eq_some h

/-- The delegate is read for the value, and the value stays when something else is loaded. -/
theorem load_of_delegate_addressed :
    ∃ t v s' u r s₁, Runs (load "call:d.m" none true) (start addressed {}) t (.ok v) s' ∧
      Runs (load "const:x" none true) s' u r s₁ ∧
      ∃ w, ReadFrom t s' (.delegate "d") "m" 0 w ∧ w.FinishedAs none true v ∧
        ∀ kind required t' v' s₂, Runs (load "call:d.m" kind required) s₁ t' (.ok v') s₂ →
          w.FinishedAs kind required v' := by
  obtain ⟨t, v, s', u, r, s₁, hr, hu, hprimary⟩ : ∃ t v s' u r s₁,
      Runs (load "call:d.m" none true) (start addressed {}) t (.ok v) s' ∧
      Runs (load "const:x" none true) s' u r s₁ ∧ ∀ e ∈ t ++ u, e.about? ≠ some .primary := by
    have hread : (loading "call:d.m" (start addressed {})).2.1.toOption.map Value.text =
        some "true" := by
      decide +kernel
    have hliteral : (loading "const:x" (loading "call:d.m" (start addressed {})).2.2).2.1.toOption.map
        Value.text = some "x" := by
      decide +kernel
    obtain ⟨v, -, hr⟩ := runs_loading hread
    obtain ⟨x, -, hu⟩ := runs_loading hliteral
    refine ⟨_, v, _, _, _, _, hr, hu, ?_⟩
    decide +kernel
  have hmoves : Moves .all ([] ++ t) s' u s₁ := by
    apply ((load_follows_reading "const:x" none true).mono (Permit.le_all _))
    exact hu
  have hk : ¬ Shared ([] ++ t ++ u) s₁ "call:d.m" := by
    intro hk
    have hk : Shared (t ++ u) s₁ ((KeyTree.method addressedDelegate none).text ++ "." ++ "m") := hk
    obtain ⟨fields, w, -, hread⟩ := hk.primary_record (by decide) (by decide)
    obtain ⟨values, -, -, hmem, -⟩ := hread
    exact hprimary _ hmem rfl
  have he : KeyExpression.read? "call:d.m" = some ⟨.call, "d.m", none⟩ := by
    decide +kernel
  have htarget : (Invocation.read "d.m").target = (.delegate "d", "m") := by
    decide +kernel
  obtain ⟨w₀, w, hread, htransform, hw, hlater⟩ := load_of_delegate .refl he rfl htarget hr hmoves hk
  cases htransform
  exact ⟨t, v, s', u, r, s₁, hr, hu, w₀, hread, hw, hlater⟩

/-- Once a record has been read from the primary contract, its field is the value of the expression,
in the place of what the delegate returns or has returned. -/
theorem not_read_from_delegate_addressed :
    addressed.validate.isOk ∧ (addressed.delegate? "d").isSome ∧
    (∃ t₁ v₁ s₁ t₂ v₂ s₂, Runs (load "call:d" none true) (start addressed {}) t₁ (.ok v₁) s₁ ∧
      Runs (load "call:d.m" none true) s₁ t₂ (.ok v₂) s₂ ∧
      ∀ e ∈ t₁ ++ t₂, e.about? ≠ some (.delegate "d")) ∧
    ∃ t₁ v₁ s₁ t₂ v₂ s₂ t₃ v₃ s₃,
      Runs (load "call:d.m" none true) (start addressed {}) t₁ (.ok v₁) s₁ ∧
      Runs (load "call:d" none true) s₁ t₂ (.ok v₂) s₂ ∧
      Runs (load "call:d.m" none true) s₂ t₃ (.ok v₃) s₃ ∧ v₁.text = "true" ∧ v₃.text = "1" := by
  refine ⟨by decide +kernel, by decide +kernel, ?_, ?_⟩
  . have hrecord : (loading "call:d" (start addressed {})).2.1.toOption.map Value.isEmpty =
        some false := by
      decide +kernel
    have hfield : (loading "call:d.m" (loading "call:d" (start addressed {})).2.2).2.1.toOption.map
        Value.text = some "1" := by
      decide +kernel
    obtain ⟨v₁, -, h₁⟩ := runs_loading hrecord
    obtain ⟨v₂, -, h₂⟩ := runs_loading hfield
    refine ⟨_, v₁, _, _, v₂, _, h₁, h₂, ?_⟩
    decide +kernel
  . have hread : (loading "call:d.m" (start addressed {})).2.1.toOption.map Value.text =
        some "true" := by
      decide +kernel
    have hrecord : (loading "call:d" (loading "call:d.m" (start addressed {})).2.2).2.1.toOption.map
        Value.isEmpty = some false := by
      decide +kernel
    have hfield : (loading "call:d.m" (loading "call:d"
        (loading "call:d.m" (start addressed {})).2.2).2.2).2.1.toOption.map Value.text =
        some "1" := by
      decide +kernel
    obtain ⟨v₁, htrue, h₁⟩ := runs_loading hread
    obtain ⟨v₂, -, h₂⟩ := runs_loading hrecord
    obtain ⟨v₃, hone, h₃⟩ := runs_loading hfield
    exact ⟨_, v₁, _, _, v₂, _, _, v₃, _, h₁, h₂, h₃, htrue, hone⟩

end Session

end Registrar
