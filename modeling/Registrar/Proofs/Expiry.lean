import Registrar.Proofs.Inquiry
import Registrar.Proofs.Namespace
import Registrar.Proofs.Reconversion

/-!
This module contains what a call that makes a time of expiry comes to. Its timeout is loaded as a
number of 64 bits, the time of the latest block is asked for, and their sum with the margin, or the
last time there is, is returned and remembered. Parameters that refer to it get the same number
until another one is made, and a call that fails leaves what has been remembered.
-/

namespace Registrar

namespace Builtin

/-- The seconds that a timeout stands for. -/
def timeoutOf : Value → Except OperationError Nat
  | .uint w =>
    if w.toNat ≥ 2 ^ 64 then
      .error (.key (.invalidParameter Builtin.expiry.name "timeout"
        ReadFault.beyondUnsignedWord.message))
    else .ok w.toNat
  | _ => .error (.key (.parameterType Builtin.expiry.name "timeout" "an unsigned integer"))

theorem timeoutOf_eq_ok_iff {v : Value} {n : Nat} :
    timeoutOf v = .ok n ↔ ∃ d : Word, v = .uint d ∧ d.toNat < 2 ^ 64 ∧ n = d.toNat := by
  cases v with
  | uint w =>
    unfold timeoutOf
    dsimp only
    split
    . next hw => simp [Nat.not_lt.2 hw]
    . next hw => simp [Nat.lt_of_not_le hw, eq_comm]
  | _ => simp [timeoutOf]

theorem runExpiry_eq (args : Arguments) :
    runExpiry args = (required .expiry args "timeout" (some (.uint 64)) >>= fun v =>
      Engine.ofExcept id (timeoutOf v)) >>= expiryAfter := by
  unfold runExpiry
  rw [bind_assoc]
  congr
  funext v
  cases v with
  | uint w =>
    unfold timeoutOf
    dsimp only
    split
    . rfl
    . rfl
  | _ => rfl

theorem expiryTime_eq (timestamp timeout : Nat) :
    expiryTime timestamp timeout = min (timestamp + timeout + 60) (2 ^ 64 - 1) := by
  unfold expiryTime saturatingAdd expiryMargin
  omega

/-- The time of expiry as a word, which no sum exceeds. -/
theorem toNat_expiryTime (timestamp timeout : Nat) :
    (BitVec.ofNat 256 (expiryTime timestamp timeout)).toNat =
      min (timestamp + timeout + 60) (2 ^ 64 - 1) := by
  rw [BitVec.toNat_ofNat, expiryTime_eq]
  apply Nat.mod_eq_of_lt
  omega

end Builtin

/-- The question about how long a signature is to be valid. -/
def Question.timeout : Question :=
  ⟨"timeout", some (.uint 64), true, fun v => (Builtin.timeoutOf v).map fun _ => ()⟩

theorem Value.not_isEmpty_of_convert {bits : Nat} {v : Value} {w : Word}
    (h : v.convert (.uint bits) = .ok (.uint w)) : ¬ v.isEmpty := by
  cases v with
  | string s =>
    intro hempty
    obtain rfl : s = "" := String.isEmpty_iff.1 hempty
    cases h
  | bytes | array | record => cases h
  | _ => simp [isEmpty]

namespace Session

open Engine

variable {spec : Specification} {settings : Settings} {c : BuiltinCall}
  {key payload timeout : String} {required : Bool} {s s' : Session} {h t : Trace}

/-- What a call that makes a time of expiry comes to: its timeout is refused, or there is no time of
the latest block, or the time of expiry is made. -/
inductive Dating (c : BuiltinCall) (s : Session) :
    Trace → Except OperationError Value → Session → Prop where
  | refused {t : Trace} {e : OperationError} {s' : Session} (he : Refused c .timeout s t e s') :
      Dating c s t (.error e) s'
  | undated {t : Trace} {d : Word} {s' : Session}
      (hd : Answered c .timeout s t (some (.uint d)) s') (e : ChainError) :
      Dating c s (t ++ [⟨.request none .blockTimestamp, .error e⟩]) (.error (.chain e)) s'
  | dated {t : Trace} {d : Word} {s' : Session}
      (hd : Answered c .timeout s t (some (.uint d)) s') (time : UInt64) {w : Word}
      (hw : w.toNat = min (time.toNat + d.toNat + 60) (2 ^ 64 - 1)) (hle : time.toNat ≤ w.toNat) :
      Dating c s
        (t ++ [⟨.request none .blockTimestamp, .ok time⟩, Event.made .expiry (.uint w)])
        (.ok (.uint w)) { s' with cache := s'.cache.store Builtin.lastExpiryKey (.uint w) }

theorem timeout_asks (hb : c.builtin = .expiry) :
    Asks c (Builtin.required .expiry c.arguments "timeout" (some (.uint 64)) >>= fun v =>
        Engine.ofExcept id (Builtin.timeoutOf v)) .timeout
      fun v n => ∃ w, v = some w ∧ Builtin.timeoutOf w = .ok n := by
  have hasks := asks_required c .timeout Builtin.timeoutOf rfl fun _ => rfl
  rw [hb] at hasks
  exact hasks

theorem Answered.timeout_eq {v : Option Value} {s' : Session} (ha : Answered c .timeout s t v s') :
    ∃ d : Word, v = some (.uint d) ∧ Builtin.timeoutOf (.uint d) = .ok d.toNat := by
  cases ha with
  | absent _ hq => cases hq
  | empty _ hq => cases hq
  | given _ _ _ hc =>
    obtain ⟨n, hn⟩ := check_eq_ok_iff.1 hc
    obtain ⟨d, rfl, hlt, rfl⟩ := Builtin.timeoutOf_eq_ok_iff.1 hn
    exact ⟨d, rfl, hn⟩

/-- The seconds that are loaded are those of the answer. -/
theorem runs_timeout_ok_iff (hb : c.builtin = .expiry) {n : Nat} :
    Runs (Builtin.required .expiry c.arguments "timeout" (some (.uint 64)) >>= fun v =>
        Engine.ofExcept id (Builtin.timeoutOf v)) s t (.ok n) s' ↔
      ∃ d : Word, Answered c .timeout s t (some (.uint d)) s' ∧ n = d.toNat := by
  rw [(timeout_asks hb).ok_iff]
  constructor
  . rintro ⟨v, hv, w, rfl, hw⟩
    obtain ⟨d, heq, hd⟩ := hv.timeout_eq
    cases heq
    cases hd.symm.trans hw
    exact ⟨d, hv, rfl⟩
  . rintro ⟨d, hd, rfl⟩
    obtain ⟨d', heq, hn⟩ := hd.timeout_eq
    cases heq
    exact ⟨_, hd, _, rfl, hn⟩

theorem runs_expiry_iff (hb : c.builtin = .expiry) {r : Except OperationError Value} :
    Runs c.run s t r s' ↔ Dating c s t r s' := by
  have hrun : c.run = Builtin.runExpiry c.arguments := by
    unfold BuiltinCall.run
    rw [hb]
    rfl
  rw [hrun, Builtin.runExpiry_eq, runs_bind_iff]
  simp only [runs_timeout_ok_iff hb, (timeout_asks hb).error_iff]
  constructor
  . rintro (⟨-, s₁, t₁, t₂, rfl, ⟨d, hd, rfl⟩, hafter⟩ | ⟨e, rfl, he⟩)
    . obtain ⟨e, rfl, rfl, rfl⟩ | ⟨time, v, rfl, rfl, rfl, rfl⟩ :=
        Builtin.runs_expiryAfter_iff.1 hafter
      . exact .undated hd e
      . have htime := Builtin.toNat_expiryTime time.toNat d.toNat
        have hlt := time.toNat_lt
        exact .dated hd time htime (by omega)
    . exact .refused he
  . intro h
    cases h with
    | refused he => exact Or.inr ⟨_, rfl, he⟩
    | @undated _ d _ hd e =>
      refine Or.inl ⟨_, _, _, _, rfl, ⟨d, hd, rfl⟩, ?_⟩
      exact Builtin.runs_expiryAfter_iff.2 (Or.inl ⟨e, rfl, rfl, rfl⟩)
    | @dated _ d _ hd time w hw =>
      refine Or.inl ⟨_, _, _, _, rfl, ⟨d, hd, rfl⟩, ?_⟩
      -- the word of a time of expiry is that time, since it is never beyond the last one
      obtain rfl : w = BitVec.ofNat 256 (Builtin.expiryTime time.toNat d.toNat) := by
        apply BitVec.eq_of_toNat_eq
        rw [hw, Builtin.toNat_expiryTime]
      exact Builtin.runs_expiryAfter_iff.2 (Or.inr ⟨time, _, rfl, rfl, rfl, rfl⟩)

theorem Dating.made {v : Value} (hd : Dating c s t (.ok v) s') :
    ∃ w : Word, v = .uint w ∧ w.toNat < 2 ^ 64 ∧
      s'.cache.find? Builtin.lastExpiryKey = some v := by
  cases hd with
  | dated hd time hw =>
    refine ⟨_, rfl, by omega, ?_⟩
    exact (Cache.find?_insert _ _ _ _).trans (if_pos rfl)

section Load

variable (hf : s.cache.find? key = none)
  (he : KeyExpression.read? key = some ⟨.func, payload, none⟩)
  (hc : BuiltinCall.read payload = .ok c) (hb : c.builtin = .expiry)
include hf he hc hb

theorem runs_load_expiry_ok_iff {v : Value} :
    Runs (load key none required) s t (.ok v) s' ↔
      ∃ t₁, t = t₁ ++ [Event.loaded key v] ∧ Dating c s t₁ (.ok v) s' := by
  rw [runs_load_func_ok_iff hf he hc]
  simp only [runs_expiry_iff hb]
  constructor
  . rintro ⟨x, t₁, rfl, hd, hv⟩
    obtain ⟨w, rfl, -⟩ := hd.made
    obtain ⟨hempty, -⟩ | ⟨-, heq⟩ := hv
    . cases hempty
    . cases heq
      exact ⟨t₁, rfl, hd⟩
  . rintro ⟨t₁, rfl, hd⟩
    obtain ⟨w, rfl, -⟩ := hd.made
    exact ⟨_, t₁, rfl, hd, Or.inr ⟨by simp [Value.isEmpty], rfl⟩⟩

theorem runs_load_expiry_error_iff {e : OperationError} :
    Runs (load key none required) s t (.error e) s' ↔
      ∃ e', e = .resolution key e' ∧ Dating c s t (.error e') s' := by
  simp only [← runs_expiry_iff hb]
  apply runs_load_func_error_iff hf he hc
  intro w hw
  obtain ⟨w, rfl, -⟩ := ((runs_expiry_iff hb).1 hw).made
  simp [Value.isEmpty]

end Load

/-- The timeout is known if what its expression resolves to is converted to a number. -/
theorem answered_timeout_iff (htimeout : c.parameter "timeout" = some timeout) {d : Word} :
    Answered c .timeout s t (some (.uint d)) s' ↔
      ∃ x t₁, t = t₁ ++ [Event.loaded timeout (.uint d)] ∧
        Runs (fetch timeout (fun k _ => load k) true) s t₁ (.ok x) s' ∧
        x.convert (.uint 64) = .ok (.uint d) := by
  constructor
  . intro ha
    cases ha with
    | given hk hv =>
      cases htimeout.symm.trans hk
      obtain ⟨x, t₁, rfl, hfetch, hx⟩ := runs_load_ok_iff.1 hv
      cases hx with
      | inl hempty => cases hempty.2.1
      | inr hx => exact ⟨x, t₁, rfl, hfetch, hx.2⟩
  . rintro ⟨x, t₁, rfl, hfetch, hx⟩
    have hload : Runs (load timeout (some (.uint 64)) true) s _ (.ok (.uint d)) s' :=
      runs_load_ok_iff.2 ⟨x, t₁, rfl, hfetch, Or.inr ⟨Value.not_isEmpty_of_convert hx, hx⟩⟩
    have hd := Builtin.timeoutOf_eq_ok_iff.2 ⟨d, rfl, Value.lt_of_convert hx, rfl⟩
    refine .given htimeout hload ?_ (check_eq_ok_iff.2 ⟨_, hd⟩)
    intro hq
    cases hq

/-- A parameter that refers to a number that is remembered is that number. -/
theorem runs_argument_uint_iff {p : Param} {bits : Nat} {w : Word}
    {r : Except OperationError AbiValue} (hf : s.cache.find? key = some (.uint w))
    (hp : p.resolve = some (.uint bits)) (hw : w.toNat < 2 ^ bits) :
    Runs (argument loadParameter p key) s t r s' ↔
      t = [Event.loaded key (.uint w)] ∧ r = .ok (.uint w bits) ∧ s' = s := by
  have hconvert := Value.convert_uint_word hw
  have hencode : Value.encodeAs (.uint bits) p.components (.uint w) = .ok (.uint w bits) := by
    rw [Value.encodeAs_primitive rfl, hconvert]
    rfl
  have hload (t : Trace) (r : Except OperationError Value) (s' : Session) :
      Runs (loadParameter key (AbiType.uint bits).kind?) s t r s' ↔
        t = [Event.loaded key (.uint w)] ∧ r = .ok (.uint w) ∧ s' = s :=
    runs_load_finished_iff hf (Or.inr ⟨by simp [Value.isEmpty], hconvert⟩)
  unfold argument
  rw [hp]
  dsimp only
  rw [runs_bind_iff]
  simp only [hload]
  constructor
  . rintro (⟨v, s₁, t₁, t₂, rfl, ⟨rfl, heq, rfl⟩, hr⟩ | ⟨e, -, -, heq, -⟩)
    . cases heq
      rw [hencode] at hr
      obtain ⟨rfl, rfl, rfl⟩ := runs_pure_iff.1 hr
      exact ⟨rfl, rfl, rfl⟩
    . cases heq
  . rintro ⟨rfl, rfl, rfl⟩
    refine Or.inl ⟨_, s', _, [], rfl, ⟨rfl, rfl, rfl⟩, ?_⟩
    rw [hencode]
    exact runs_pure_iff.2 ⟨rfl, rfl, rfl⟩

/-- A call that fails has done nothing but to load its timeout. -/
theorem Dating.prefix_of_error {e : OperationError}
    (htimeout : c.parameter "timeout" = some timeout) (hd : Dating c s t (.error e) s') :
    ∃ t₁ r₁, t₁ <+: t ∧ Runs (load timeout (some (.uint 64)) true) s t₁ r₁ s' := by
  cases hd with
  | refused he =>
    cases he with
    | missing hk => cases htimeout.symm.trans hk
    | unloaded hk he =>
      cases htimeout.symm.trans hk
      exact ⟨t, _, List.prefix_rfl, he⟩
    | unfit hk hv =>
      cases htimeout.symm.trans hk
      exact ⟨t, _, List.prefix_rfl, hv⟩
  | undated hd e =>
    cases hd with
    | given hk hv =>
      cases htimeout.symm.trans hk
      exact ⟨_, _, List.prefix_append _ _, hv⟩

/-- A call makes a time of expiry if its timeout is a number of 64 bits and the time of the latest
block is known: the sum of both and the margin, or the last time there is. What it has made is
remembered and what later parameters refer to, until another one is made. A call that fails leaves
what has been remembered as its timeout has left it. -/
theorem load_expiry (hs : Steps .all [] (start spec settings) h s)
    (he : KeyExpression.read? key = some ⟨.func, payload, none⟩)
    (hc : BuiltinCall.read payload = .ok c) (hb : c.builtin = .expiry)
    (htimeout : c.parameter "timeout" = some timeout) (required : Bool) :
    (∀ t v s', Runs (load key none required) s t (.ok v) s' ↔
      ∃ t₁, t = t₁ ++ [Event.loaded key v] ∧ Dating c s t₁ (.ok v) s') ∧
    (∀ t e s', Runs (load key none required) s t (.error e) s' ↔
      ∃ e', e = .resolution key e' ∧ Dating c s t (.error e') s') ∧
    (∀ t (d : Word) s', Answered c .timeout s t (some (.uint d)) s' ↔
      ∃ x t₁, t = t₁ ++ [Event.loaded timeout (.uint d)] ∧
        Runs (fetch timeout (fun k _ => load k) true) s t₁ (.ok x) s' ∧
        x.convert (.uint 64) = .ok (.uint d)) ∧
    (∀ t v s', Runs (load key none required) s t (.ok v) s' →
      ∃ w, v = .uint w ∧ s'.cache.find? Builtin.lastExpiryKey = some v ∧
        ∀ h' u s'', Steps .all h' s' u s'' → u.lastMade? .expiry = none →
          ∀ (p : Param) bits t' r s₃, p.resolve = some (.uint bits) → 64 ≤ bits →
            (Runs (argument loadParameter p Builtin.lastExpiryKey) s'' t' r s₃ ↔
              t' = [Event.loaded Builtin.lastExpiryKey v] ∧ r = .ok (.uint w bits) ∧
                s₃ = s'')) ∧
    ∀ t e s', Runs (load key none required) s t (.error e) s' →
      ∃ (t₁ : Trace) (r₁ : Except OperationError Value), t₁ <+: t ∧
        Runs (load timeout (some (.uint 64)) true) s t₁ r₁ s' ∧
        s'.cache.find? Builtin.lastExpiryKey =
          (t₁.lastMade? .expiry).or (s.cache.find? Builtin.lastExpiryKey) := by
  have hf : s.cache.find? key = none := find?_func hs he rfl
  refine ⟨?_, ?_, ?_, ?_, ?_⟩
  . intro t v s'
    exact runs_load_expiry_ok_iff hf he hc hb
  . intro t e s'
    exact runs_load_expiry_error_iff hf he hc hb
  . intro t d s'
    exact answered_timeout_iff htimeout
  . intro t v s' hr
    obtain ⟨t₁, -, hd⟩ := (runs_load_expiry_ok_iff hf he hc hb).1 hr
    obtain ⟨w, rfl, hlt, hfind⟩ := hd.made
    refine ⟨w, rfl, hfind, ?_⟩
    intro h' u s'' hsteps hnone p bits t' r s₃ hp hbits
    have hkept : s''.cache.find? Builtin.lastExpiryKey =
        (u.lastMade? .expiry).or (s'.cache.find? Builtin.lastExpiryKey) := hsteps.find?_made .expiry
    rw [hnone, Option.none_or, hfind] at hkept
    have hpow : 2 ^ 64 ≤ 2 ^ bits := Nat.pow_le_pow_right (by decide) hbits
    exact runs_argument_uint_iff hkept hp (Nat.lt_of_lt_of_le hlt hpow)
  . intro t e s' hr
    obtain ⟨e', -, hd⟩ := (runs_load_expiry_error_iff hf he hc hb).1 hr
    obtain ⟨t₁, r₁, hprefix, hload⟩ := hd.prefix_of_error htimeout
    have hsteps : Steps .reading [] s t₁ s' := (load_follows_reading _ _ _).steps hload
    exact ⟨t₁, r₁, hprefix, hload, hsteps.find?_made .expiry⟩

/-- The longest timeout there is, which ends at the last time there is. -/
theorem load_expiry_longest :
    ∃ t w s', Runs (load "func:expiry(timeout=const:18446744073709551615)" none true)
        (start registering {}) t (.ok (.uint w)) s' ∧
      w.toNat = 2 ^ 64 - 1 ∧ s'.cache.find? Builtin.lastExpiryKey = some (.uint w) ∧
      Runs (argument loadParameter ⟨"x", "uint64", []⟩ Builtin.lastExpiryKey) s'
        [Event.loaded Builtin.lastExpiryKey (.uint w)] (.ok (.uint w 64)) s' := by
  have hread : KeyExpression.read? "func:expiry(timeout=const:18446744073709551615)" =
      some ⟨.func, "expiry(timeout=const:18446744073709551615)", none⟩ := by
    decide +kernel
  have hcall : BuiltinCall.read "expiry(timeout=const:18446744073709551615)" =
      .ok ⟨.expiry, [("timeout", "const:18446744073709551615")]⟩ := by
    rfl
  have hstart : Steps .all [] (start registering {}) [] (start registering {}) := .refl
  obtain ⟨-, -, -, hmade, -⟩ := load_expiry hstart hread hcall rfl rfl true
  have hnumber : (transcript (compliant (fun _ => "") [])
      (load "func:expiry(timeout=const:18446744073709551615)" none true)
        (start registering {})).2.1.toOption.map Value.number? = some (some (2 ^ 64 - 1)) := by
    decide +kernel
  obtain ⟨v, hv, hr⟩ := exists_runs_of_map_eq_some hnumber
  obtain ⟨w, rfl, hfind, hlater⟩ := hmade _ _ _ hr
  refine ⟨_, w, _, hr, ?_, hfind, ?_⟩
  . have hw : (w.toNat : Int) = 2 ^ 64 - 1 := Option.some.inj hv
    omega
  . exact (hlater [] [] _ .refl rfl _ 64 _ _ _ rfl (Nat.le_refl 64)).2 ⟨rfl, rfl, rfl⟩

end Session

end Registrar
