import Registrar.Proofs.Coding
import Registrar.Proofs.Resolution

/-!
This module contains what becomes of the salt and of the time of expiry that a session remembers.
Each stays as it is until the session makes another one. Calls of functions are never remembered, so
that a salt or a time that a call asks for is always made anew.
-/

namespace Registrar

theorem Keccak.length_hash (b : Bytes) : (hash b).length = 32 := by
  unfold hash
  dsimp only
  rw [List.length_flatMap]
  simp [Bytes.ofNatLittle, Bytes.length_ofNat, List.map_const']

/-- What is made anew for a signature. A session remembers the latest of each. -/
inductive Latest where
  | salt
  | expiry
deriving DecidableEq

namespace Latest

def key : Latest → String
  | .salt => Builtin.lastSaltKey
  | .expiry => Builtin.lastExpiryKey

def builtin : Latest → Builtin
  | .salt => .salt
  | .expiry => .expiry

def request : Latest → Request
  | .salt => .clock
  | .expiry => .blockTimestamp

def kind : Latest → Option Kind
  | .salt => none
  | .expiry => some (.uint 256)

/-- An expression makes it if it calls the function. -/
def MadeBy (x : Latest) (key : String) : Prop :=
  ∃ payload c, KeyExpression.read? key = some ⟨.func, payload, none⟩ ∧
    BuiltinCall.read payload = .ok c ∧ c.builtin = x.builtin

end Latest

def Trace.Without (t : Trace) (r : Request) : Prop :=
  ∀ e ∈ t, e.1 ≠ .request none r

theorem Trace.without_append {t u : Trace} {r : Request} :
    Trace.Without (t ++ u) r ↔ t.Without r ∧ u.Without r := by
  exact List.forall_mem_append

theorem KeyExpression.front_of_func {key : String} {e : KeyExpression}
    (he : KeyExpression.read? key = some e) (hs : e.source = .func) :
    Text.front key.toList = some 'f' := by
  rw [front_eq he (by rw [hs]; exact nofun), hs]
  rfl

theorem Key.apart_of_func {key : String} {e : KeyExpression}
    (he : KeyExpression.read? key = some e) (hs : e.source = .func) : Apart key := by
  unfold Apart
  rw [KeyExpression.front_of_func he hs]
  decide

theorem Latest.apart_key (x : Latest) : Key.Apart x.key := by
  unfold Key.Apart
  cases x <;> decide

namespace Session

variable {spec : Specification} {settings : Settings} {l : Licence} {h t : Trace} {s s' : Session}
  {q : String}

/-- What is apart from the expressions stays as it is, unless it is the key of what is made anew. -/
theorem Step.find?_eq (hs : Step l h s t s') (hq : Key.Apart q)
    (hl : ∀ x : Latest, q = x.key → t.Without x.request) :
    s'.cache.find? q = s.cache.find? q := by
  cases hs with
  | dated time timeout =>
    have hkey : q ≠ Builtin.lastExpiryKey := by
      intro heq
      exact hl .expiry heq _ List.mem_cons_self rfl
    exact (Cache.find?_insert _ _ _ q).trans (if_neg hkey)
  | salted seed time =>
    have hkey : q ≠ Builtin.lastSaltKey := by
      intro heq
      exact hl .salt heq _ List.mem_cons_self rfl
    exact (Cache.find?_insert _ _ _ q).trans (if_neg hkey)
  | bound role c => rw [cache_bindTo]
  | memoized key e v he hc hn => exact Cache.find?_memoize s.cache (hq.ne_append he hc hn) v
  | _ => rfl

theorem Steps.find?_eq (hs : Steps l h s t s') (hq : Key.Apart q)
    (hl : ∀ x : Latest, q = x.key → t.Without x.request) :
    s'.cache.find? q = s.cache.find? q := by
  induction hs with
  | refl => rfl
  | tail _ hu ih =>
    have hwithout := fun x hx => Trace.without_append.1 (hl x hx)
    rw [hu.find?_eq hq fun x hx => (hwithout x hx).2]
    exact ih fun x hx => (hwithout x hx).1

theorem Steps.find?_latest {x : Latest} (hs : Steps l h s t s') (hx : t.Without x.request) :
    s'.cache.find? x.key = s.cache.find? x.key := by
  apply hs.find?_eq x.apart_key
  intro y heq
  cases x <;> cases y <;> first | exact hx | exact absurd heq (by decide)

theorem find?_func {key : String} {e : KeyExpression} (hs : Steps l h (start spec settings) t s)
    (he : KeyExpression.read? key = some e) (hf : e.source = .func) :
    s.cache.find? key = none := by
  have hfront := KeyExpression.front_of_func he hf
  have hkey (x : Latest) : key ≠ x.key := by
    intro heq
    rw [heq] at hfront
    cases x <;> revert hfront <;> decide
  rw [hs.find?_eq (Key.apart_of_func he hf) fun x hx => absurd hx (hkey x)]
  apply find?_start he
  . rw [hf]
    exact nofun
  . rw [hf]
    exact nofun

open Engine

theorem runSalt_ok {args : Builtin.Arguments} {v : Value}
    (hr : Runs (Builtin.runSalt args) s t (.ok v) s') :
    ∃ b before, v = .bytes b ∧ b.length = 32 ∧ t = before ++ [Event.made .salt v] ∧
      s'.cache.find? Builtin.lastSaltKey = some v := by
  unfold Builtin.runSalt at hr
  obtain ⟨seed, s₁, t₁, t₂, rfl, -, hsalt⟩ := runs_bind_ok_iff.1 hr
  obtain ⟨time, w, rfl, rfl, heq, rfl⟩ := Builtin.runs_saltFrom_iff.1 hsalt
  cases heq
  refine ⟨_, _, rfl, Keccak.length_hash _, List.append_cons _ _ _, ?_⟩
  exact (Cache.find?_insert _ _ _ _).trans (if_pos rfl)

theorem runExpiry_ok {args : Builtin.Arguments} {v : Value}
    (hr : Runs (Builtin.runExpiry args) s t (.ok v) s') :
    ∃ w before, v = .uint w ∧ t = before ++ [Event.made .expiry v] ∧
      s'.cache.find? Builtin.lastExpiryKey = some v := by
  unfold Builtin.runExpiry at hr
  obtain ⟨timeout, s₁, t₁, t₂, rfl, -, htimeout⟩ := runs_bind_ok_iff.1 hr
  split at htimeout
  . split at htimeout
    . obtain ⟨-, heq, -⟩ := runs_throw_iff.1 htimeout
      cases heq
    . obtain ⟨e, -, heq, -⟩ | ⟨time, w, rfl, rfl, heq, rfl⟩ :=
        Builtin.runs_expiryAfter_iff.1 htimeout
      . cases heq
      . cases heq
        refine ⟨_, _, rfl, List.append_cons _ _ _, ?_⟩
        exact (Cache.find?_insert _ _ _ _).trans (if_pos rfl)
  . obtain ⟨-, heq, -⟩ := runs_throw_iff.1 htimeout
    cases heq

/-- What is made is remembered, and its conversion changes nothing. -/
theorem run_latest_ok {x : Latest} {args : Builtin.Arguments} {v : Value}
    (hr : Runs (x.builtin.run args) s t (.ok v) s') :
    s'.cache.find? x.key = some v ∧ ¬ v.isEmpty ∧ v.convertIf x.kind = .ok v := by
  cases x with
  | salt =>
    obtain ⟨b, -, rfl, hb, -, hfind⟩ := runSalt_ok hr
    refine ⟨hfind, ?_, rfl⟩
    cases b with
    | nil => cases hb
    | cons c r => simp [Value.isEmpty]
  | expiry =>
    obtain ⟨w, -, rfl, -, hfind⟩ := runExpiry_ok hr
    refine ⟨hfind, by simp [Value.isEmpty], ?_⟩
    exact Value.convert_uint (Nat.le_refl 256) w.isLt

/-- An expression that makes it gives what is then remembered. -/
theorem load_of_madeBy {x : Latest} {key : String} {v : Value} (hf : s.cache.find? key = none)
    (hm : x.MadeBy key) (hr : Runs (load key x.kind false) s t (.ok v) s') :
    s'.cache.find? x.key = some v ∧ ¬ v.isEmpty := by
  obtain ⟨payload, c, he, hc, hb⟩ := hm
  obtain ⟨w, t₁, rfl, hrun, hv⟩ := (runs_load_func_ok_iff hf he hc).1 hr
  unfold BuiltinCall.run at hrun
  rw [hb] at hrun
  obtain ⟨hfind, hempty, hconvert⟩ := run_latest_ok hrun
  cases hv with
  | inl hv => exact absurd hv.1 hempty
  | inr hv =>
    rw [hconvert] at hv
    cases hv.2
    exact ⟨hfind, hempty⟩

end Session

end Registrar
