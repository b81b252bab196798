import Registrar.Builtin.Keys
import Registrar.Proofs.Provenance

/-!
This module contains what the built-in functions are composed of, and the proof that they consist of
moves if the loading of their parameters does. None of them binds a contract or submits a transaction
on its own.
-/

namespace Registrar

namespace Engine

open Session

variable {α β : Type} {l m : Permit} {x : Engine α} {f : α → Engine β}

/-- Whatever is answered, the computation consists of moves that it may make. -/
def Follows (l : Permit) (x : Engine α) : Prop :=
  ∀ (h : Trace) (s : Session) (t : Trace) (r : Except OperationError α) (s' : Session),
    Runs x s t r s' → Moves l h s t s'

theorem Follows.steps (hx : Follows l x) {h t : Trace} {s s' : Session}
    {r : Except OperationError α} (hr : Runs x s t r s') : Steps l.toLicence h s t s' :=
  (hx h s t r s' hr).steps

theorem Follows.mono (hx : Follows l x) (hlm : l.Le m) : Follows m x := by
  intro h s t r s' hr
  apply Moves.mono _ hlm
  exact hx h s t r s' hr

theorem follows_pure (a : α) : Follows l (pure a : Engine α) := by
  intro h s t r s' hr
  obtain ⟨rfl, -, rfl⟩ := runs_pure_iff.1 hr
  exact .refl

theorem follows_throw (e : OperationError) : Follows l (throw e : Engine α) := by
  intro h s t r s' hr
  obtain ⟨rfl, -, rfl⟩ := runs_throw_iff.1 hr
  exact .refl

/-- Two computations in a row make moves if the first does, and the second after the first. -/
theorem moves_bind {h : Trace} {s s' : Session} {t : Trace} {r : Except OperationError β}
    (hx : ∀ t r s₁, Runs x s t r s₁ → Moves l h s t s₁)
    (hf : ∀ a s₁ t₁ t₂, Runs x s t₁ (.ok a) s₁ → Runs (f a) s₁ t₂ r s' →
      Moves l (h ++ t₁) s₁ t₂ s')
    (hr : Runs (x >>= f) s t r s') : Moves l h s t s' := by
  rw [runs_bind_iff] at hr
  cases hr with
  | inl hr =>
    obtain ⟨a, s₁, t₁, t₂, rfl, h₁, h₂⟩ := hr
    apply Moves.trans
    . exact hx _ _ _ h₁
    . exact hf a s₁ t₁ t₂ h₁ h₂
  | inr hr =>
    obtain ⟨e, -, h₁⟩ := hr
    exact hx _ _ _ h₁

theorem moves_bind_ok {h : Trace} {s s' : Session} {t : Trace} {r : Except OperationError β}
    {Q : Trace → β → Session → Prop} (hx : ∀ t r s₁, Runs x s t r s₁ → Moves l h s t s₁)
    (hf : ∀ a s₁ t₁ t₂, Runs x s t₁ (.ok a) s₁ → Runs (f a) s₁ t₂ r s' →
      Moves l (h ++ t₁) s₁ t₂ s' ∧ ∀ b, r = .ok b → Q (t₁ ++ t₂) b s')
    (hr : Runs (x >>= f) s t r s') : Moves l h s t s' ∧ ∀ b, r = .ok b → Q t b s' := by
  constructor
  . apply moves_bind hx _ hr
    intro a s₁ t₁ t₂ h₁ h₂
    exact (hf a s₁ t₁ t₂ h₁ h₂).1
  . intro b hb
    rw [hb] at hr hf
    obtain ⟨a, s₁, t₁, t₂, rfl, h₁, h₂⟩ := runs_bind_ok_iff.1 hr
    exact (hf a s₁ t₁ t₂ h₁ h₂).2 b rfl

theorem follows_bind (hx : Follows l x) (hf : ∀ a, Follows l (f a)) : Follows l (x >>= f) := by
  intro h s t r s' hr
  apply moves_bind _ _ hr
  . intro t r s₁ h₁
    apply hx
    exact h₁
  . intro a s₁ t₁ t₂ h₁ h₂
    apply hf a
    exact h₂

theorem follows_ofExcept {ε : Type} (wrap : ε → OperationError) (x : Except ε α) :
    Follows l (ofExcept wrap x) := by
  cases x with
  | ok a => apply follows_pure
  | error e => apply follows_throw

theorem follows_within (wrap : OperationError → OperationError) (hx : Follows l x) :
    Follows l (within wrap x) := by
  intro h s t r s' hr
  obtain ⟨r₀, -, hr⟩ := runs_within_iff.1 hr
  apply hx
  exact hr

theorem follows_ask {q : Request} (hq : q.isPlain) : Follows l (ask q) := by
  intro h s t r s' hr
  obtain ⟨x, rfl, -, rfl⟩ := runs_ask_iff.1 hr
  exact Moves.step (.asked q x hq) nofun

theorem follows_say (key : String) (v : Value) : Follows l (say (.loaded key v)) := by
  intro h s t r s' hr
  obtain ⟨rfl, -, rfl⟩ := runs_say_iff.1 hr
  exact Moves.step (.said key v) nofun

end Engine

namespace Builtin

open Engine Session

theorem runs_makeLatest_iff {b : Builtin} {key : String} {v : Value} {s s' : Session} {t : Trace}
    {r : Except OperationError Value} :
    Runs (makeLatest b key v) s t r s' ↔
      t = [Event.made b v] ∧ r = .ok v ∧ s' = { s with cache := s.cache.store key v } := by
  unfold makeLatest Engine.store
  rw [runs_modify_bind_iff, runs_bind_iff]
  constructor
  . rintro (⟨x, s₁, t₁, t₂, rfl, hsay, hpure⟩ | ⟨e, -, hsay⟩)
    . obtain ⟨rfl, -, rfl⟩ := runs_say_iff.1 hsay
      obtain ⟨rfl, rfl, rfl⟩ := runs_pure_iff.1 hpure
      exact ⟨rfl, rfl, rfl⟩
    . obtain ⟨-, heq, -⟩ := runs_say_iff.1 hsay
      cases heq
  . rintro ⟨rfl, rfl, rfl⟩
    left
    exact ⟨(), _, _, [], rfl, runs_say_iff.2 ⟨rfl, rfl, rfl⟩, runs_pure_iff.2 ⟨rfl, rfl, rfl⟩⟩

theorem runs_expiryAfter_iff {timeout : Nat} {s s' : Session} {t : Trace}
    {r : Except OperationError Value} :
    Runs (expiryAfter timeout) s t r s' ↔
      (∃ e, t = [⟨.request none .blockTimestamp, .error e⟩] ∧ r = .error (.chain e) ∧ s' = s) ∨
        ∃ (time : UInt64) (v : Value),
          v = .uint (BitVec.ofNat 256 (expiryTime time.toNat timeout)) ∧
          t = [⟨.request none .blockTimestamp, .ok time⟩, Event.made .expiry v] ∧ r = .ok v ∧
          s' = { s with cache := s.cache.store lastExpiryKey v } := by
  unfold expiryAfter
  rw [runs_ask_bind_iff]
  constructor
  . rintro ⟨x, t', rfl, hx⟩
    cases x with
    | error e =>
      obtain ⟨rfl, rfl, rfl⟩ := runs_throw_bind_iff.1 hx
      exact Or.inl ⟨e, rfl, rfl, rfl⟩
    | ok time =>
      obtain ⟨rfl, rfl, rfl⟩ := runs_makeLatest_iff.1 (runs_pure_bind_iff.1 hx)
      exact Or.inr ⟨time, _, rfl, rfl, rfl, rfl⟩
  . rintro (⟨e, rfl, rfl, rfl⟩ | ⟨time, v, rfl, rfl, rfl, rfl⟩)
    . exact ⟨.error e, [], rfl, runs_throw_bind_iff.2 ⟨rfl, rfl, rfl⟩⟩
    . refine ⟨.ok time, _, rfl, runs_pure_bind_iff.2 ?_⟩
      exact runs_makeLatest_iff.2 ⟨rfl, rfl, rfl⟩

theorem runs_saltFrom_iff {seed : Bytes} {s s' : Session} {t : Trace}
    {r : Except OperationError Value} :
    Runs (saltFrom seed) s t r s' ↔
      ∃ (time : UInt64) (v : Value), v = .bytes (saltOf seed time) ∧
        t = [⟨.request none .clock, time⟩, Event.made .salt v] ∧ r = .ok v ∧
        s' = { s with cache := s.cache.store lastSaltKey v } := by
  unfold saltFrom
  refine runs_ask_bind_iff.trans ?_
  constructor
  . rintro ⟨time, t', rfl, hmake⟩
    obtain ⟨rfl, rfl, rfl⟩ := runs_makeLatest_iff.1 hmake
    exact ⟨time, _, rfl, rfl, rfl, rfl⟩
  . rintro ⟨time, v, rfl, rfl, rfl, rfl⟩
    exact ⟨time, _, rfl, runs_makeLatest_iff.2 ⟨rfl, rfl, rfl⟩⟩

variable {α β : Type} {l : Permit} {args : Arguments}

/-- Whether a function fails with the error by itself, and not because of a parameter. -/
def isOwnFailure : OperationError → Bool
  | .key _ | .chain _ | .signer _ => true
  | _ => false

/-- What the functions are composed of: the loading of parameters, plain requests, the making of
salts and times of expiry, and failures of their own. -/
inductive Composed (args : Arguments) : {α : Type} → Engine α → Prop where
  | pure {α : Type} (a : α) : Composed args (Pure.pure a : Engine α)
  | throw {α : Type} (e : OperationError) (he : isOwnFailure e) :
      Composed args (MonadExcept.throw e : Engine α)
  | ask (r : Request) (hr : r.isPlain) : Composed args (Engine.ask r)
  | expiryAfter (timeout : Nat) : Composed args (expiryAfter timeout)
  | saltFrom (seed : Bytes) : Composed args (saltFrom seed)
  | load {name : String} {load : Option Kind → Bool → Engine Value} (h : args name = some load)
      (kind : Option Kind) (required : Bool) : Composed args (load kind required)
  | bind {α β : Type} {x : Engine α} {f : α → Engine β} (hx : Composed args x)
      (hf : ∀ a, Composed args (f a)) : Composed args (x >>= f)

theorem composed_ofExcept {ε : Type} {wrap : ε → OperationError} {x : Except ε α}
    (hx : ∀ e, x = .error e → isOwnFailure (wrap e)) : Composed args (Engine.ofExcept wrap x) := by
  cases x with
  | ok a => exact .pure a
  | error e => exact .throw _ (hx e rfl)

theorem composed_answer {ε : Type} {wrap : ε → OperationError} {r : Request} {f : α → Engine β}
    {answer : Answer r → Except ε α} (hr : r.isPlain) (hw : ∀ e, isOwnFailure (wrap e))
    (hf : ∀ a, Composed args (f a)) :
    Composed args (do
      let x ← Engine.ask r
      let a ← Engine.ofExcept wrap (answer x)
      f a) := by
  apply Composed.bind
  . exact .ask r hr
  . intro x
    apply Composed.bind
    . apply composed_ofExcept
      intro e _
      apply hw
    . exact hf

theorem required_composed (b : Builtin) (name : String) (kind : Option Kind) :
    Composed args (b.required args name kind) := by
  unfold required
  split
  . exact .throw _ rfl
  . next load hload => exact .load hload kind true

theorem optional_composed (name : String) (kind : Option Kind) :
    Composed args (optional args name kind) := by
  unfold Builtin.optional
  split
  . apply Composed.pure
  . next load hload =>
    apply Composed.bind
    . exact .load hload kind false
    . intro v
      apply Composed.pure

theorem asText_composed (b : Builtin) (name : String) (v : Value) :
    Composed args (b.asText name v) := by
  unfold asText
  split
  . apply Composed.pure
  . exact .throw _ rfl

theorem requiredText_composed (b : Builtin) (name : String) :
    Composed args (b.requiredText args name) := by
  unfold requiredText
  apply Composed.bind
  . apply required_composed
  . intro v
    apply asText_composed

theorem optionalText_composed (b : Builtin) (name : String) :
    Composed args (b.optionalText args name) := by
  unfold optionalText
  apply Composed.bind
  . apply optional_composed
  . intro v
    split
    . apply Composed.pure
    . apply Composed.bind
      . apply asText_composed
      . intro text
        apply Composed.pure

theorem runArrayUint8_composed : Composed args (runArrayUint8 args) := by
  unfold runArrayUint8
  apply Composed.bind
  . apply requiredText_composed
  . intro list
    apply Composed.bind
    . apply composed_ofExcept
      intro e _
      rfl
    . intro items
      apply Composed.pure

theorem runChainId_composed : Composed args runChainId := by
  unfold runChainId
  apply composed_answer rfl
  . intro e
    rfl
  . intro id
    apply Composed.pure

theorem runExpiry_composed : Composed args (runExpiry args) := by
  unfold runExpiry
  apply Composed.bind
  . apply required_composed
  . intro v
    split
    . split
      . exact .throw _ rfl
      . apply Composed.expiryAfter
    . exact .throw _ rfl

theorem seed_composed : Composed args (seed args) := by
  unfold seed
  apply Composed.bind
  . apply optional_composed
  . intro v
    split
    . apply composed_ofExcept
      intro e _
      rfl
    . apply Composed.pure

theorem runSalt_composed : Composed args (runSalt args) := by
  unfold runSalt
  apply Composed.bind
  . apply seed_composed
  . intro seed
    apply Composed.saltFrom

theorem keyStorage_composed (b : Builtin) : Composed args (b.keyStorage args) := by
  unfold keyStorage
  apply Composed.bind
  . apply optionalText_composed
  . intro name
    split
    . apply Composed.pure
    . split
      . apply Composed.pure
      . exact .throw _ rfl

theorem keyDescriptor_composed (b : Builtin) (scheme : KeyScheme) :
    Composed args (b.keyDescriptor args scheme) := by
  unfold keyDescriptor
  apply Composed.bind
  . apply keyStorage_composed
  . intro storage
    apply Composed.bind
    . apply requiredText_composed
    . intro file
      apply Composed.bind
      . apply optionalText_composed
      . intro password
        apply Composed.pure

theorem ecdsaKey_composed (key : KeyDescriptor) : Composed args (ecdsaKey key) := by
  unfold ecdsaKey
  apply composed_answer rfl
  . intro e
    rfl
  . intro k
    cases k with
    | ecdsa address => apply Composed.pure
    | bls g1 g2 => exact .throw _ rfl

theorem blsKey_composed (key : KeyDescriptor) : Composed args (blsKey key) := by
  unfold blsKey
  apply composed_answer rfl
  . intro e
    rfl
  . intro k
    cases k with
    | ecdsa address => exact .throw _ rfl
    | bls g1 g2 => apply Composed.pure

theorem ecdsaSignature_composed (key : KeyDescriptor) (digest : SigningDigest) :
    Composed args (ecdsaSignature key digest) := by
  unfold ecdsaSignature
  apply composed_answer rfl
  . intro e
    rfl
  . intro signature
    cases signature with
    | ecdsa b => apply Composed.pure
    | bls p => exact .throw _ rfl

theorem blsSignature_composed (key : KeyDescriptor) (digest : SigningDigest) :
    Composed args (blsSignature key digest) := by
  unfold blsSignature
  apply composed_answer rfl
  . intro e
    rfl
  . intro signature
    cases signature with
    | ecdsa b => exact .throw _ rfl
    | bls p => apply Composed.pure

theorem runEcdsaPublicKey_composed : Composed args (runEcdsaPublicKey args) := by
  unfold runEcdsaPublicKey
  apply Composed.bind
  . apply keyDescriptor_composed
  . intro key
    apply Composed.bind
    . apply optionalText_composed
    . intro format
      apply Composed.bind
      . apply ecdsaKey_composed
      . intro address
        split
        . apply Composed.pure
        . apply Composed.pure
        . apply Composed.pure
        . exact .throw _ rfl

theorem runBlsPublicKey_composed : Composed args (runBlsPublicKey args) := by
  unfold runBlsPublicKey
  apply Composed.bind
  . apply keyDescriptor_composed
  . intro key
    apply Composed.bind
    . apply optionalText_composed
    . intro format
      apply Composed.bind
      . apply blsKey_composed
      . rintro ⟨g1, g2⟩
        dsimp only
        split
        . apply Composed.pure
        . apply Composed.pure
        . apply Composed.pure
        . exact .throw _ rfl

theorem validity_composed : Composed args (validity args) := by
  unfold validity
  apply Composed.bind
  . apply optional_composed
  . intro salt
    apply Composed.bind
    . apply optional_composed
    . intro expiry
      apply Composed.pure

theorem isOwnFailure_of_ecdsaDigest {v : Value} {e : OperationError}
    (h : ecdsaDigest v = .error e) : isOwnFailure e := by
  unfold ecdsaDigest at h
  cases hd : v.toDigest with
  | ok digest =>
    rw [hd] at h
    cases h
  | error e' =>
    rw [hd] at h
    cases h
    rfl

theorem isOwnFailure_of_blsDigest {b : Builtin} {v : Value} {e : OperationError}
    (h : blsDigest b v = .error e) : isOwnFailure e := by
  unfold blsDigest at h
  split at h
  . cases h
  . split at h
    . cases h
    . cases h
      rfl
  . exact isOwnFailure_of_ecdsaDigest h

theorem digest_composed (b : Builtin) {take : Value → Except OperationError SigningDigest}
    (ht : ∀ v e, take v = .error e → isOwnFailure e) : Composed args (b.digest args take) := by
  unfold digest
  apply Composed.bind
  . apply required_composed
  . intro v
    apply composed_ofExcept
    exact ht v

theorem composed_signing (b : Builtin) (scheme : KeyScheme)
    {take : Value → Except OperationError SigningDigest}
    {f : Validity → SigningDigest → KeyDescriptor → Engine α}
    (ht : ∀ v e, take v = .error e → isOwnFailure e)
    (hf : ∀ v digest key, Composed args (f v digest key)) :
    Composed args (do
      let v ← validity args
      let digest ← b.digest args take
      let key ← b.keyDescriptor args scheme
      f v digest key) := by
  apply Composed.bind
  . apply validity_composed
  . intro v
    apply Composed.bind
    . exact digest_composed b ht
    . intro digest
      apply Composed.bind
      . apply keyDescriptor_composed
      . intro key
        apply hf

theorem runEcdsaSign_composed : Composed args (runEcdsaSign args) := by
  unfold runEcdsaSign
  apply composed_signing
  . intro v e
    exact isOwnFailure_of_ecdsaDigest
  . intro v digest key
    apply Composed.bind
    . apply ecdsaSignature_composed
    . intro signature
      apply Composed.pure

theorem runBlsSign_composed : Composed args (runBlsSign args) := by
  unfold runBlsSign
  apply composed_signing
  . intro v e
    exact isOwnFailure_of_blsDigest
  . intro v digest key
    apply Composed.bind
    . apply blsSignature_composed
    . intro signature
      apply Composed.pure

theorem runBlsCurveSign_composed : Composed args (runBlsCurveSign args) := by
  unfold runBlsCurveSign
  apply composed_signing
  . intro v e
    exact isOwnFailure_of_blsDigest
  . intro v digest key
    apply Composed.bind
    . apply blsSignature_composed
    . intro signature
      apply Composed.bind
      . apply blsKey_composed
      . intro k
        apply Composed.pure

theorem run_composed (b : Builtin) : Composed args (b.run args) := by
  cases b with
  | arrayUint8 => exact runArrayUint8_composed
  | chainId => exact runChainId_composed
  | expiry => exact runExpiry_composed
  | salt => exact runSalt_composed
  | ecdsaPublicKey => exact runEcdsaPublicKey_composed
  | blsPublicKey => exact runBlsPublicKey_composed
  | ecdsaSign => exact runEcdsaSign_composed
  | blsSign => exact runBlsSign_composed
  | blsCurveSign => exact runBlsCurveSign_composed
  | g1Zero => apply Composed.pure
  | g2Zero => apply Composed.pure

/-- Whatever is answered, loading a parameter consists of moves that it may make. -/
def Arguments.Follow (l : Permit) (args : Arguments) : Prop :=
  ∀ name load, args name = some load → ∀ kind required, Follows l (load kind required)

/-- A function makes no moves but those of the loading of its parameters and the making of salts and
times. -/
theorem Composed.follows {x : Engine α} (hx : Composed args x) (ha : args.Follow l) :
    Follows l x := by
  induction hx with
  | pure a => apply follows_pure
  | throw e he => apply follows_throw
  | ask r hr => exact follows_ask hr
  | expiryAfter timeout =>
    intro h s t r s' hr
    obtain ⟨e, rfl, -, rfl⟩ | ⟨time, v, rfl, rfl, -, rfl⟩ := runs_expiryAfter_iff.1 hr
    . exact Moves.step (.undated e) nofun
    . exact Moves.step (.dated time timeout) nofun
  | saltFrom seed =>
    intro h s t r s' hr
    obtain ⟨time, v, rfl, rfl, -, rfl⟩ := runs_saltFrom_iff.1 hr
    exact Moves.step (.salted seed time) nofun
  | load h kind required => exact ha _ _ h kind required
  | bind _ _ ihx ihf => exact follows_bind ihx ihf

end Builtin

end Registrar
