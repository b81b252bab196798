import Registrar.Proofs.Delegation
import Registrar.Proofs.Retention
import Registrar.Proofs.Separation

/-!
This module contains the proof that a literal is loaded as it is written, in every session that can
be reached and without a request. A session asks its memory first, so that this says about the memory
that nothing but the literal itself ever comes to be remembered under it: neither a setting, nor a
part of the specification, nor a field of a record that another expression has given.
-/

namespace Registrar

namespace KeyExpression

theorem read?_const {x : String} (harrow : ¬ "->".toList <:+: x.toList)
    (hend : ∀ c ∈ x.toList.getLast?, Text.isBlank c = false) :
    read? ("const:" ++ x) = some ⟨.const, x, none⟩ := by
  have htext : ("const:" ++ x).toList = KeySource.const.marker ++ x.toList := by
    rw [String.toList_append]
    rfl
  have hcut : Key.cutTransform? ("const:" ++ x).toList = none := by
    rw [Key.cutTransform?_eq_none_iff, htext]
    rintro a b ⟨heq, -⟩
    exact Key.not_infix_marker .const harrow ⟨a, b, by rw [List.append_assoc]; exact heq.symm⟩
  have hsolid : Text.Solid (KeySource.const.marker ++ x.toList) := by
    apply Text.Solid.of_ends rfl
    rw [List.getLast?_append]
    cases hlast : x.toList.getLast? with
    | none => rfl
    | some c => simp [hend c hlast]
  rw [read?_of_whole hcut, htext, hsolid.trim_eq, if_neg hsolid.ne_nil]
  unfold ofParts
  rw [Key.splitSource_marker .const nofun, String.ofList_toList]
  rfl

/-- An expression that goes on with another one has the same source. -/
theorem source_eq_of_append {key other x : String} {e f : KeyExpression}
    (he : read? key = some e) (hf : read? other = some f) (hne : e.source ≠ .bare)
    (hnf : f.source ≠ .bare) (hkey : key = other ++ x) : f.source = e.source := by
  obtain ⟨a, ha⟩ := trimStart_eq he hne
  obtain ⟨b, hb⟩ := trimStart_eq hf hnf
  have hnil : Text.trimStart other.toList ≠ [] := by
    rw [hb]
    cases hs : f.source with
    | bare => exact absurd hs hnf
    | _ => exact List.cons_ne_nil _ _
  rw [hkey, String.toList_append, Text.trimStart_append hnil, hb, List.append_assoc] at ha
  have hprefixes := List.prefix_or_prefix_of_prefix (List.prefix_append f.source.marker _)
    (ha ▸ List.prefix_append e.source.marker a)
  revert hprefixes hne hnf
  cases f.source <;> cases e.source <;> decide

end KeyExpression

theorem Transform.apply_ne_ok {text : String} {v : Value} (hv : v.asRecord? = none) (w : Value) :
    apply text v ≠ .ok w := by
  unfold apply
  dsimp only
  rw [hv]
  split
  . nofun
  . split
    . nofun
    . split <;> nofun

/-- Only what has fields is transformed. -/
theorem KeyExpression.eq_of_transformed {e : KeyExpression} {v w : Value}
    (hv : v.asRecord? = none) (hw : e.transformed v = .ok w) : e.transform = none ∧ w = v := by
  unfold transformed at hw
  split at hw
  . next ht =>
    cases hw
    exact ⟨ht, rfl⟩
  . exact absurd hw (Transform.apply_ne_ok hv w)

/-- What a value comes to where it is loaded for an expression, or the error that is told then. -/
def Value.finished (w : Value) (key : String) (kind : Option Kind) (required : Bool) :
    Except OperationError Value :=
  if w.isEmpty then
    if required then .error (.resolution key (.key (.requiredValueMissing key))) else .ok w
  else (w.convertIf kind).mapError fun e => .resolution key (.ofConversion e)

namespace Session

open Engine

variable {spec : Specification} {settings : Settings} {h t : Trace} {s s' : Session}
  {key x : String} {e : KeyExpression} {kind : Option Kind} {required : Bool} {v w : Value}

theorem Yields.eq_of_literal (hy : Yields h s e v) (hs : e.source = .const) :
    e.transform = none ∧ v = .string e.payload := by
  obtain ⟨w, hg, hw⟩ := hy
  cases hg with
  | literal => exact KeyExpression.eq_of_transformed rfl hw
  | setting hsource => simp [hs] at hsource
  | answer hsource => simp [hs] at hsource
  | read hsource => simp [hs] at hsource

/-- No record has a field under an expression if no expression with its source gives a record: what the
key of the record would be has the same source. -/
theorem not_shared_of_source (he : KeyExpression.read? key = some e) (hn : e.source ≠ .bare)
    (hv : ∀ f v, f.source = e.source → Yields h s f v → v.asRecord? = none) :
    ¬ Shared h s key := by
  rintro ⟨other, f, v, hne, hf, hy, hmem⟩
  obtain ⟨fields, x, rfl, hx⟩ := Cache.record_of_mem_storedKeys hne hmem
  have hbare : f.source ≠ .bare := by
    obtain ⟨w, hg, -⟩ := hy
    exact hg.source.2
  rw [String.append_assoc] at hx
  cases hv f _ (KeyExpression.source_eq_of_append he hf hn hbare hx) hy

theorem not_shared_literal (he : KeyExpression.read? key = some e) (hs : e.source = .const) :
    ¬ Shared h s key := by
  apply not_shared_of_source he (by simp [hs])
  intro f v hf hy
  rw [(hy.eq_of_literal (hf.trans hs)).2]
  rfl

/-- Under a literal, nothing is remembered but its text. -/
theorem find?_literal (hm : Moves .all [] (start spec settings) h s)
    (he : KeyExpression.read? key = some e) (hs : e.source = .const)
    (hf : s.cache.find? key = some w) : e.transform = none ∧ w = .string e.payload := by
  have hy : Yields ([] ++ h) s e w := by
    apply hm.yields_of_find? he (by simp [KeyExpression.isCacheable, hs]) (by simp [hs])
      (not_shared_literal he hs) _ w hf
    intro w hw
    rw [find?_start he (by simp [hs]) (by simp [hs])] at hw
    cases hw
  exact hy.eq_of_literal hs

/-- What is said of an expression that has been loaded. -/
def saying (key : String) : Except OperationError Value → Trace
  | .ok v => [Event.loaded key v]
  | .error _ => []

theorem silent_saying (key : String) (r : Except OperationError Value) :
    (saying key r).Silent := by
  cases r with
  | ok v => simp [saying, Trace.Silent, Event.isRequest, Event.loaded]
  | error e => simp [saying, Trace.Silent]

theorem finish_eq : finish key kind required w = ofExcept id (w.finished key kind required) := by
  unfold finish Value.finished
  split
  . split <;> rfl
  . cases kind with
    | none => rfl
    | some kind =>
      cases hv : w.convert kind <;> simp [Value.convertIf, hv] <;> rfl

/-- An expression that is fetched without anything being put to the outside is loaded as what has
been fetched, finished. -/
theorem runs_load_fetched_iff {s₁ : Session} {r : Except OperationError Value}
    (hf : ∀ t r s', Runs (fetch key (fun k _ => load k) required) s t r s' ↔
      t = [] ∧ r = .ok w ∧ s' = s₁) :
    Runs (load key kind required) s t r s' ↔
      r = w.finished key kind required ∧ t = saying key r ∧ s' = s₁ := by
  rw [load_eq_loadBy]
  unfold loadBy
  rw [runs_bind_of_ok hf, finish_eq]
  cases w.finished key kind required with
  | ok v =>
    refine runs_pure_bind_iff.trans (runs_put_bind_iff.trans ?_)
    constructor
    . rintro ⟨x, u, rfl, hr⟩
      obtain ⟨rfl, rfl, rfl⟩ := runs_pure_iff.1 hr
      exact ⟨rfl, rfl, rfl⟩
    . rintro ⟨rfl, rfl, rfl⟩
      exact ⟨(), [], rfl, runs_pure_iff.2 ⟨rfl, rfl, rfl⟩⟩
  | error e =>
    refine runs_throw_bind_iff.trans ?_
    constructor
    . rintro ⟨rfl, rfl, rfl⟩
      exact ⟨rfl, rfl, rfl⟩
    . rintro ⟨rfl, rfl, rfl⟩
      exact ⟨rfl, rfl, rfl⟩

/-- A literal under which nothing is remembered resolves to its text, which is remembered. -/
theorem runs_resolve_literal_iff {r : Except OperationError Value} {load : Loader key.length}
    (he : KeyExpression.read? key = some ⟨.const, x, none⟩) :
    Runs (resolve key load required) s t r s' ↔
      t = [] ∧ r = .ok (.string x) ∧
        s' = { s with cache := s.cache.memoize key (.string x) } := by
  unfold resolve
  split
  . next hnone =>
    rw [he] at hnone
    cases hnone
  . next e he' =>
    have heq := he'
    rw [he] at heq
    cases heq
    refine runs_pure_bind_iff.trans (runs_pure_bind_iff.trans ?_)
    refine runs_modify_bind_iff.trans ?_
    exact runs_pure_iff

/-- However a literal is fetched, its text is what comes of it. -/
theorem runs_fetch_literal (hm : Moves .all [] (start spec settings) h s)
    (he : KeyExpression.read? key = some ⟨.const, x, none⟩) (required : Bool) :
    ∃ s₁, ∀ t r s', Runs (fetch key (fun k _ => load k) required) s t r s' ↔
      t = [] ∧ r = .ok (.string x) ∧ s' = s₁ := by
  cases hf : s.cache.find? key with
  | some w =>
    obtain ⟨-, rfl⟩ := find?_literal hm he rfl hf
    exact ⟨s, fun _ _ _ => runs_fetch_some_iff hf⟩
  | none =>
    refine ⟨{ s with cache := s.cache.memoize key (.string x) }, fun t r s' => ?_⟩
    unfold fetch
    rw [runs_get_bind_iff, hf]
    refine runs_within_iff.trans ?_
    constructor
    . rintro ⟨r₀, rfl, hr⟩
      obtain ⟨rfl, rfl, rfl⟩ := (runs_resolve_literal_iff he).1 hr
      exact ⟨rfl, rfl, rfl⟩
    . rintro ⟨rfl, rfl, rfl⟩
      exact ⟨_, rfl, (runs_resolve_literal_iff he).2 ⟨rfl, rfl, rfl⟩⟩

/-- What a literal is loaded as. -/
def literalResult (x : String) (kind : Option Kind) (required : Bool) :
    Except OperationError Value :=
  let key := "const:" ++ x
  if x = "" then
    if required then .error (.resolution key (.key (.requiredValueMissing key)))
    else .ok (.string "")
  else ((Value.string x).convertIf kind).mapError fun e => .resolution key (.ofConversion e)

theorem literalResult_none_false (x : String) : literalResult x none false = .ok (.string x) := by
  unfold literalResult
  split
  . next hx =>
    rw [hx]
    rfl
  . rfl

theorem finished_string (x : String) (kind : Option Kind) (required : Bool) :
    (Value.string x).finished ("const:" ++ x) kind required = literalResult x kind required := by
  unfold Value.finished literalResult
  by_cases hx : x = ""
  . simp [hx, Value.isEmpty]
  . simp [hx, Value.isEmpty]

/-- In every session that tasks can lead to, whatever has been loaded and remembered in it, a text
without an arrow and without a blank at its end is loaded as it is written behind the name of the
source, and nothing is requested. It is converted to the kind it is loaded as, but an empty one is
not, and is an error where a value is required. -/
theorem load_literal_verbatim {tasks : List Task} (hr : Run (start spec settings) tasks h s)
    (harrow : ¬ "->".toList <:+: x.toList)
    (hend : ∀ c ∈ x.toList.getLast?, Text.isBlank c = false) (kind : Option Kind)
    (required : Bool) :
    (∃ t s', Runs (load ("const:" ++ x) kind required) s t (literalResult x kind required) s') ∧
    ∀ t r s', Runs (load ("const:" ++ x) kind required) s t r s' →
      r = literalResult x kind required ∧ t.Silent := by
  obtain ⟨s₁, hfetch⟩ :=
    runs_fetch_literal hr.moves (KeyExpression.read?_const harrow hend) required
  rw [← finished_string]
  constructor
  . exact ⟨_, s₁, (runs_load_fetched_iff hfetch).2 ⟨rfl, rfl, rfl⟩⟩
  . intro t r s' hload
    obtain ⟨rfl, rfl, -⟩ := (runs_load_fetched_iff hfetch).1 hload
    exact ⟨rfl, silent_saying _ _⟩

/-- The field of a record that has been read is remembered under its own key, but a literal with the
text of this key is still the text. -/
theorem load_literal_verbatim_addressed :
    ∃ h s, Run (start addressed {}) [.load "call:d" none true] h s ∧
      (s.cache.find? "call:d.m").map Value.text = some "1" ∧
      (∃ t s', Runs (load "const: call:d.m" none false) s t (.ok (.string " call:d.m")) s') ∧
      ∀ t r s', Runs (load "const: call:d.m" none false) s t r s' →
        r = .ok (.string " call:d.m") ∧ t.Silent := by
  obtain ⟨h, s, hr, hf⟩ : ∃ h s, Run (start addressed {}) [.load "call:d" none true] h s ∧
      (s.cache.find? "call:d.m").map Value.text = some "1" := by
    refine ⟨_, _, run_transcript (compliant addressedResource (Bytes.ofNat 32 1)) _ _, ?_⟩
    decide +kernel
  refine ⟨h, s, hr, hf, ?_⟩
  have harrow : ¬ "->".toList <:+: " call:d.m".toList := by decide +kernel
  have hlast : " call:d.m".toList.getLast? = some 'm' := by decide +kernel
  have hend : ∀ c ∈ " call:d.m".toList.getLast?, Text.isBlank c = false := by
    rw [hlast]
    rintro c ⟨⟩
    rfl
  have hverbatim := load_literal_verbatim hr harrow hend none false
  have hkey : "const:" ++ " call:d.m" = "const: call:d.m" := by decide +kernel
  rw [literalResult_none_false, hkey] at hverbatim
  exact hverbatim

end Session

end Registrar
