import Registrar.Proofs.Message
import Registrar.Proofs.Run
import Registrar.Session.Load

/-!
This module contains what it means that a computation fails candidly: as long as something is shown
of every error that a partner gives, something is shown of what it fails with, but for silent
errors. A computation does if its parts do; the built-in functions do if their arguments do.
-/

namespace Registrar

def failureText {ε α : Type} (message : ε → String) : Except ε α → Option String
  | .ok _ => none
  | .error e => some (message e)

/-- The text of the error with which a request is answered, if it is. -/
def Request.failureText? : (r : Request) → Answer r → Option String
  | .resource _ _, x => failureText RepositoryError.message x
  | .setting _, _ => none
  | .prompt _ _ _, x => failureText ConfigError.message x
  | .chainId, x => failureText ChainError.message x
  | .blockTimestamp, x => failureText ChainError.message x
  | .hasCode _, x => failureText ChainError.message x
  | .call _ _, x => failureText ChainError.message x
  | .submit _, x => failureText TransactionError.message x
  | .publicKey _, x => failureText SignerError.message x
  | .sign _ _, x => failureText SignerError.message x
  | .clock, _ => none

def Event.failureText? : Event → Option String
  | ⟨.request _ r, x⟩ => r.failureText? x
  | ⟨.remark _, _⟩ => none

/-- The texts of the errors that are answered. -/
def Trace.failureTexts (t : Trace) : List String :=
  t.filterMap Event.failureText?

namespace Engine

variable {α β : Type} {x : Engine α} {f : α → Engine β}

/-- As long as something is shown of every error that is answered, the computation fails with candid
errors. -/
def Candid (x : Engine α) : Prop :=
  ∀ s t e s', Runs x s t (.error e) s' → (∀ m ∈ t.failureTexts, ¬ Mute m) → e.Candid

theorem candid_pure (a : α) : Candid (pure a : Engine α) := by
  intro s t e s' hr
  obtain ⟨-, ⟨⟩, -⟩ := runs_pure_iff.1 hr

theorem candid_throw {e : OperationError} (he : e.Candid) : Candid (throw e : Engine α) := by
  intro s t e' s' hr _
  obtain ⟨-, ⟨⟩, -⟩ := runs_throw_iff.1 hr
  exact he

theorem candid_bind (hx : Candid x) (hf : ∀ a, Candid (f a)) : Candid (x >>= f) := by
  intro s t e s' hr ht
  rw [runs_bind_iff] at hr
  cases hr with
  | inl hr =>
    obtain ⟨a, s₁, t₁, t₂, rfl, -, h₂⟩ := hr
    apply hf a _ _ _ _ h₂
    intro m hm
    apply ht
    rw [Trace.failureTexts, List.filterMap_append]
    exact List.mem_append_right _ hm
  | inr hr =>
    obtain ⟨e', ⟨⟩, h₁⟩ := hr
    exact hx _ _ _ _ h₁ ht

theorem candid_ofExcept {ε : Type} {wrap : ε → OperationError} {y : Except ε α}
    (hy : ∀ e, y = .error e → (wrap e).Candid) : Candid (ofExcept wrap y) := by
  cases y with
  | ok a => apply candid_pure
  | error e => exact candid_throw (hy e rfl)

theorem candid_within {wrap : OperationError → OperationError} (hx : Candid x)
    (hw : ∀ e, e.Candid → (wrap e).Candid) : Candid (within wrap x) := by
  intro s t e s' hr ht
  obtain ⟨r, heq, h₀⟩ := runs_within_iff.1 hr
  cases r with
  | ok a => cases heq
  | error e₀ =>
    cases heq
    exact hw e₀ (hx _ _ _ _ h₀ ht)

theorem candid_get_bind {f : Session → Engine β} (hf : ∀ s, Candid (f s)) :
    Candid (get >>= f) := by
  intro s t e s' hr
  exact hf s _ _ _ _ (runs_get_bind_iff.1 hr)

theorem candid_modify (g : Session → Session) : Candid (modify g : Engine Unit) := by
  intro s t e s' hr
  obtain ⟨-, ⟨⟩, -⟩ := runs_modify_iff.1 hr

theorem candid_put_bind {q : Query} {f : q.Reply → Engine β}
    (hf : ∀ y, (∀ m, Event.failureText? ⟨q, y⟩ = some m → ¬ Mute m) → Candid (f y)) :
    Candid (put q >>= f) := by
  intro s t e s' hr ht
  obtain ⟨y, u, rfl, hu⟩ := runs_put_bind_iff.1 hr
  have hy (m : String) (hm : Event.failureText? ⟨q, y⟩ = some m) : ¬ Mute m :=
    ht m (List.mem_filterMap.2 ⟨_, List.mem_cons_self, hm⟩)
  apply hf y hy _ _ _ _ hu
  intro m hm
  obtain ⟨event, hevent, htext⟩ := List.mem_filterMap.1 hm
  exact ht m (List.mem_filterMap.2 ⟨event, List.mem_cons_of_mem _ hevent, htext⟩)

/-- An error that is answered is passed on in one that shows it. -/
theorem candid_answer {ε : Type} {message : ε → String} {wrap : ε → OperationError}
    {about : Option Role} {r : Request} {answer : Answer r → Except ε α}
    (hm : ∀ y, r.failureText? y = failureText message (answer y))
    (hw : ∀ e, ¬ Mute (message e) → (wrap e).Candid) (hf : ∀ a, Candid (f a)) :
    Candid (do
      let y ← put (.request about r)
      let a ← ofExcept wrap (answer y)
      f a) := by
  apply candid_put_bind
  intro y hy
  apply candid_bind _ hf
  apply candid_ofExcept
  intro e he
  apply hw
  apply hy
  exact (hm y).trans (congrArg (failureText message) he)

end Engine

namespace Builtin

open Engine
open OperationError (candid_of_not_mute)

def Arguments.Candid (args : Arguments) : Prop :=
  ∀ name load, args name = some load → ∀ kind required, (load kind required).Candid

variable {args : Arguments} {b : Builtin} {name : String} {kind : Option Kind}

theorem required_candid (ha : args.Candid) (hn : ¬ Mute name) :
    (b.required args name kind).Candid := by
  unfold required
  split
  . apply candid_throw
    exact candid_of_not_mute (not_mute_append hn _) id
  . next load hload => exact ha name load hload kind true

theorem optional_candid (ha : args.Candid) : (optional args name kind).Candid := by
  unfold optional
  split
  . apply candid_pure
  . next load hload =>
    apply candid_bind (ha name load hload kind false)
    intro v
    apply candid_pure

theorem mismatch_candid {α : Type} {expected : String} (he : ¬ Mute expected) :
    (b.mismatch name expected : Engine α).Candid := by
  apply candid_throw
  exact candid_of_not_mute (not_mute_append he _) id

theorem invalid_candid {α : Type} (reason : String) :
    (b.invalid name reason : Engine α).Candid := by
  apply candid_throw
  apply OperationError.candid_invalidParameter

theorem asText_candid (v : Value) : (b.asText name v).Candid := by
  unfold asText
  split
  . apply candid_pure
  . exact mismatch_candid (by decide)

theorem requiredText_candid (ha : args.Candid) (hn : ¬ Mute name) :
    (b.requiredText args name).Candid := by
  unfold requiredText
  apply candid_bind (required_candid ha hn)
  exact asText_candid

theorem optionalText_candid (ha : args.Candid) : (b.optionalText args name).Candid := by
  unfold optionalText
  apply candid_bind (optional_candid ha)
  intro v
  split
  . apply candid_pure
  . apply candid_bind (asText_candid _)
    intro text
    apply candid_pure

theorem candid_of_bytesOfList {items : List (List Char)} {e : ConversionError}
    (h : bytesOfList items = .error e) : e.Candid := by
  induction items generalizing e with
  | nil => cases h
  | cons item items ih =>
    unfold bytesOfList at h
    apply of_bind_eq_error (fun _ => Value.candid_of_convert) _ h
    intro v h
    apply of_bind_eq_error (fun _ => ih) _ h
    nofun

theorem runArrayUint8_candid (ha : args.Candid) : (runArrayUint8 args).Candid := by
  unfold runArrayUint8
  apply candid_bind (requiredText_candid ha (by decide))
  intro list
  apply candid_bind
  . apply candid_ofExcept
    intro e he
    exact candid_of_bytesOfList he
  . intro items
    apply candid_pure

theorem candid_chain (e : ChainError) (he : ¬ Mute e.message) : (OperationError.chain e).Candid :=
  candid_of_not_mute (not_mute_append he _) id

theorem runChainId_candid : runChainId.Candid := by
  unfold runChainId
  apply candid_answer (fun _ => rfl) candid_chain
  intro id
  apply candid_pure

theorem makeLatest_candid (key : String) (v : Value) : (makeLatest b key v).Candid := by
  unfold makeLatest
  apply candid_bind
  . apply candid_modify
  . intro _
    apply candid_put_bind
    intro _ _
    apply candid_pure

theorem expiryAfter_candid (timeout : Nat) : (expiryAfter timeout).Candid := by
  unfold expiryAfter
  apply candid_answer (fun _ => rfl) candid_chain
  intro timestamp
  apply makeLatest_candid

theorem runExpiry_candid (ha : args.Candid) : (runExpiry args).Candid := by
  unfold runExpiry
  apply candid_bind (required_candid ha (by decide))
  intro v
  split
  . split
    . apply invalid_candid
    . apply expiryAfter_candid
  . exact mismatch_candid (by decide)

theorem seed_candid (ha : args.Candid) : (seed args).Candid := by
  unfold seed
  apply candid_bind (optional_candid ha)
  intro v
  split
  . apply candid_ofExcept
    intro e he
    exact Value.candid_of_toBytes he
  . apply candid_pure

theorem saltFrom_candid (seed : Bytes) : (saltFrom seed).Candid := by
  unfold saltFrom
  apply candid_put_bind
  intro time _
  apply makeLatest_candid

theorem runSalt_candid (ha : args.Candid) : (runSalt args).Candid := by
  unfold runSalt
  apply candid_bind (seed_candid ha)
  exact saltFrom_candid

theorem keyStorage_candid (ha : args.Candid) : (b.keyStorage args).Candid := by
  unfold keyStorage
  apply candid_bind (optionalText_candid ha)
  intro name
  split
  . apply candid_pure
  . split
    . apply candid_pure
    . apply invalid_candid

theorem keyDescriptor_candid (ha : args.Candid) (scheme : KeyScheme) :
    (b.keyDescriptor args scheme).Candid := by
  unfold keyDescriptor
  apply candid_bind (keyStorage_candid ha)
  intro storage
  apply candid_bind (requiredText_candid ha (by decide))
  intro file
  apply candid_bind (optionalText_candid ha)
  intro password
  apply candid_pure

section Keys

variable {α : Type}

theorem candid_signer (e : SignerError) (he : ¬ Mute e.message) :
    (OperationError.signer e).Candid :=
  candid_of_not_mute (not_mute_append he _) id

theorem foreignKey_candid (scheme : KeyScheme) : (foreignKey scheme : Engine α).Candid := by
  apply candid_throw
  apply candid_signer
  cases scheme <;> decide

theorem foreignSignature_candid (scheme : KeyScheme) :
    (foreignSignature scheme : Engine α).Candid := by
  apply candid_throw
  apply candid_signer
  cases scheme <;> decide

variable (key : KeyDescriptor) (digest : SigningDigest)

theorem ecdsaKey_candid : (ecdsaKey key).Candid := by
  unfold ecdsaKey
  apply candid_answer (fun _ => rfl) candid_signer
  intro publicKey
  split
  . apply candid_pure
  . apply foreignKey_candid

theorem blsKey_candid : (blsKey key).Candid := by
  unfold blsKey
  apply candid_answer (fun _ => rfl) candid_signer
  intro publicKey
  split
  . apply candid_pure
  . apply foreignKey_candid

theorem ecdsaSignature_candid : (ecdsaSignature key digest).Candid := by
  unfold ecdsaSignature
  apply candid_answer (fun _ => rfl) candid_signer
  intro signature
  split
  . apply candid_pure
  . apply foreignSignature_candid

theorem blsSignature_candid : (blsSignature key digest).Candid := by
  unfold blsSignature
  apply candid_answer (fun _ => rfl) candid_signer
  intro signature
  split
  . apply candid_pure
  . apply foreignSignature_candid

end Keys

theorem runEcdsaPublicKey_candid (ha : args.Candid) : (runEcdsaPublicKey args).Candid := by
  unfold runEcdsaPublicKey
  apply candid_bind (keyDescriptor_candid ha _)
  intro key
  apply candid_bind (optionalText_candid ha)
  intro format
  apply candid_bind (ecdsaKey_candid key)
  intro address
  split
  . apply candid_pure
  . apply candid_pure
  . apply candid_pure
  . apply invalid_candid

theorem runBlsPublicKey_candid (ha : args.Candid) : (runBlsPublicKey args).Candid := by
  unfold runBlsPublicKey
  apply candid_bind (keyDescriptor_candid ha _)
  intro key
  apply candid_bind (optionalText_candid ha)
  intro format
  apply candid_bind (blsKey_candid key)
  rintro ⟨g1, g2⟩
  dsimp only
  split
  . apply candid_pure
  . apply candid_pure
  . apply candid_pure
  . apply invalid_candid

theorem validity_candid (ha : args.Candid) : (validity args).Candid := by
  unfold validity
  apply candid_bind (optional_candid ha)
  intro salt
  apply candid_bind (optional_candid ha)
  intro expiry
  apply candid_pure

theorem candid_of_ecdsaDigest {v : Value} {e : OperationError} (h : ecdsaDigest v = .error e) :
    e.Candid := by
  cases hd : v.toDigest with
  | ok b =>
    rw [ecdsaDigest, hd] at h
    cases h
  | error e' =>
    rw [ecdsaDigest, hd] at h
    cases h
    exact Value.candid_of_toDigest hd

theorem candid_of_blsDigest {v : Value} {e : OperationError} (h : blsDigest b v = .error e) :
    e.Candid := by
  unfold blsDigest at h
  split at h
  . cases h
  . split at h
    . cases h
    . cases h
      exact candid_of_not_mute (not_mute_append (by decide) _) id
  . exact candid_of_ecdsaDigest h

theorem digest_candid {take : Value → Except OperationError SigningDigest} (ha : args.Candid)
    (ht : ∀ v e, take v = .error e → e.Candid) : (b.digest args take).Candid := by
  unfold digest
  apply candid_bind (required_candid ha (by decide))
  intro v
  apply candid_ofExcept
  exact ht v

theorem runEcdsaSign_candid (ha : args.Candid) : (runEcdsaSign args).Candid := by
  unfold runEcdsaSign
  apply candid_bind (validity_candid ha)
  intro v
  apply candid_bind (digest_candid ha fun _ _ => candid_of_ecdsaDigest)
  intro digest
  apply candid_bind (keyDescriptor_candid ha _)
  intro key
  apply candid_bind (ecdsaSignature_candid key digest)
  intro signature
  apply candid_pure

theorem runBlsSign_candid (ha : args.Candid) : (runBlsSign args).Candid := by
  unfold runBlsSign
  apply candid_bind (validity_candid ha)
  intro v
  apply candid_bind (digest_candid ha fun _ _ => candid_of_blsDigest)
  intro digest
  apply candid_bind (keyDescriptor_candid ha _)
  intro key
  apply candid_bind (blsSignature_candid key digest)
  intro signature
  apply candid_pure

theorem runBlsCurveSign_candid (ha : args.Candid) : (runBlsCurveSign args).Candid := by
  unfold runBlsCurveSign
  apply candid_bind (validity_candid ha)
  intro v
  apply candid_bind (digest_candid ha fun _ _ => candid_of_blsDigest)
  intro digest
  apply candid_bind (keyDescriptor_candid ha _)
  intro key
  apply candid_bind (blsSignature_candid key digest)
  intro signature
  apply candid_bind (blsKey_candid key)
  intro points
  apply candid_pure

theorem run_candid (ha : args.Candid) : (b.run args).Candid := by
  cases b with
  | arrayUint8 => exact runArrayUint8_candid ha
  | chainId => exact runChainId_candid
  | expiry => exact runExpiry_candid ha
  | salt => exact runSalt_candid ha
  | ecdsaPublicKey => exact runEcdsaPublicKey_candid ha
  | blsPublicKey => exact runBlsPublicKey_candid ha
  | ecdsaSign => exact runEcdsaSign_candid ha
  | blsSign => exact runBlsSign_candid ha
  | blsCurveSign => exact runBlsCurveSign_candid ha
  | g1Zero => apply candid_pure
  | g2Zero => apply candid_pure

end Builtin

end Registrar
