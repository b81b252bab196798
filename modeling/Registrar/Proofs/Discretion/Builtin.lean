import Registrar.Proofs.Discretion
import Registrar.Session.Load

/-!
This module contains what becomes of hidden answers that are parameters of built-in functions. The
file and the password of a key are passed on to the signer as they are; every other parameter that a
function has is examined, and must not be a hidden answer.
-/

namespace Registrar

namespace Builtin

open Engine

/-- The parameters of a function on which its result or an error can depend. -/
def examined : Builtin → List String
  | .arrayUint8 => ["list"]
  | .expiry => ["timeout"]
  | .salt => ["seed"]
  | .ecdsaPublicKey | .blsPublicKey => ["type", "format"]
  | .ecdsaSign | .blsSign | .blsCurveSign => ["salt", "expiry", "digest", "type"]
  | .chainId | .g1Zero | .g2Zero => []

/-- The parameters are loaded alike, and those with the given names as the same values; the others
are if they are loaded as texts. -/
def Arguments.LoadedAlike (spec : Specification) (I : Interfaces) (names : List String)
    (args : Arguments) : Prop :=
  ∀ name load, args name = some load → ∀ kind required, (name ∉ names → kind = some .string) →
    Veils spec I (Value.Veiled (name ∉ names)) (load kind required) (load kind required)

variable {spec : Specification} {I : Interfaces} {names : List String} {args : Arguments}
  {b : Builtin} {name : String} {kind : Option Kind}

theorem required_veils (ha : args.LoadedAlike spec I names)
    (hk : name ∉ names → kind = some .string) :
    Veils spec I (Value.Veiled (name ∉ names)) (b.required args name kind)
      (b.required args name kind) := by
  unfold required
  split
  . exact paired_throw _
  . next load hload => exact ha name load hload kind true hk

theorem optional_veils (ha : args.LoadedAlike spec I names)
    (hk : name ∉ names → kind = some .string) :
    Veils spec I (Option.Rel (Value.Veiled (name ∉ names))) (optional args name kind)
      (optional args name kind) := by
  unfold optional
  split
  . exact paired_pure .none
  . next load hload =>
    apply (ha name load hload kind false hk).bind
    intro v v' hv
    rw [hv.isEmpty_eq]
    split
    . exact paired_pure .none
    . exact paired_pure (.some hv)

theorem required_examined (ha : args.LoadedAlike spec I names) (hn : name ∈ names)
    (kind : Option Kind) :
    Veils spec I Eq (b.required args name kind) (b.required args name kind) :=
  (required_veils ha fun h => absurd hn h).mono fun _ _ hv => hv.eq (not_not_intro hn)

theorem optional_examined (ha : args.LoadedAlike spec I names) (hn : name ∈ names)
    (kind : Option Kind) : Veils spec I Eq (optional args name kind) (optional args name kind) := by
  apply (optional_veils ha fun h => absurd hn h).mono
  intro _ _ hv
  cases hv with
  | none => rfl
  | some hv => rw [hv.eq (not_not_intro hn)]

theorem asText_veils {P : Prop} {v v' : Value} (hv : Value.Veiled P v v') :
    Veils spec I (fun _ _ => True) (b.asText name v) (b.asText name v') := by
  cases hv with
  | same =>
    unfold asText
    split
    . exact paired_pure trivial
    . exact paired_throw _
  | texts => exact paired_pure trivial

theorem asText_same (v : Value) : Veils spec I Eq (b.asText name v) (b.asText name v) := by
  unfold asText
  split
  . exact paired_pure rfl
  . exact paired_throw _

theorem requiredText_veils (ha : args.LoadedAlike spec I names) :
    Veils spec I (fun _ _ => True) (b.requiredText args name) (b.requiredText args name) := by
  unfold requiredText
  apply (required_veils ha fun _ => rfl).bind
  intro v v' hv
  exact asText_veils hv

theorem optionalText_veils (ha : args.LoadedAlike spec I names) :
    Veils spec I (fun _ _ => True) (b.optionalText args name) (b.optionalText args name) := by
  unfold optionalText
  apply (optional_veils ha fun _ => rfl).bind
  intro v v' hv
  cases hv with
  | none => exact paired_pure trivial
  | some hv =>
    apply (asText_veils hv).bind
    rintro a a' -
    exact paired_pure trivial

theorem requiredText_examined (ha : args.LoadedAlike spec I names) (hn : name ∈ names) :
    Veils spec I Eq (b.requiredText args name) (b.requiredText args name) := by
  unfold requiredText
  apply (required_examined ha hn _).bind_eq
  intro v
  exact asText_same v

theorem optionalText_examined (ha : args.LoadedAlike spec I names) (hn : name ∈ names) :
    Veils spec I Eq (b.optionalText args name) (b.optionalText args name) := by
  unfold optionalText
  apply (optional_examined ha hn _).bind_eq
  intro v
  split
  . exact paired_pure rfl
  . apply (asText_same _).bind_eq
    intro text
    exact paired_pure rfl

theorem keyStorage_veils (ha : args.LoadedAlike spec I names) (hn : "type" ∈ names) :
    Veils spec I Eq (b.keyStorage args) (b.keyStorage args) := by
  unfold keyStorage
  apply (optionalText_examined ha hn).bind_eq
  intro name
  split
  . exact paired_pure rfl
  . split
    . exact paired_pure rfl
    . exact paired_throw _

theorem keyDescriptor_veils (ha : args.LoadedAlike spec I names) (hn : "type" ∈ names)
    (scheme : KeyScheme) :
    Veils spec I KeyDescriptor.Alike (b.keyDescriptor args scheme)
      (b.keyDescriptor args scheme) := by
  unfold keyDescriptor
  apply (keyStorage_veils ha hn).bind_eq
  intro storage
  apply (requiredText_veils ha).bind
  rintro file file' -
  apply (optionalText_veils ha).bind
  rintro password password' -
  exact paired_pure ⟨rfl, rfl⟩

section Keys

variable {key key' : KeyDescriptor}

/-- A signer is told the file and the password; what he answers counts alone. -/
theorem ask_publicKey_veils (hk : key.Alike key') :
    Veils spec I Eq (ask (.publicKey key)) (ask (.publicKey key')) := by
  apply paired_ask (.publicKey key) (.publicKey key')
    (R := fun x x' : Except SignerError PublicKey => x = x')
  . exact comparable_of_alike (.publicKey hk (.error (.signing ""))) (within_of_ne nofun)
  . rintro x x' ⟨halike, -⟩
    cases halike with
    | same => rfl
    | publicKey => rfl

theorem ask_sign_veils (hk : key.Alike key') (digest : SigningDigest) :
    Veils spec I Eq (ask (.sign key digest)) (ask (.sign key' digest)) := by
  apply paired_ask (.sign key digest) (.sign key' digest)
    (R := fun x x' : Except SignerError Signature => x = x')
  . exact comparable_of_alike (.sign hk (.error (.signing ""))) (within_of_ne nofun)
  . rintro x x' ⟨halike, -⟩
    cases halike with
    | same => rfl
    | sign => rfl

theorem ecdsaKey_veils (hk : key.Alike key') : Veils spec I Eq (ecdsaKey key) (ecdsaKey key') := by
  unfold ecdsaKey
  apply (ask_publicKey_veils hk).answer
  intro publicKey
  split
  . exact paired_pure rfl
  . exact paired_throw _

theorem blsKey_veils (hk : key.Alike key') : Veils spec I Eq (blsKey key) (blsKey key') := by
  unfold blsKey
  apply (ask_publicKey_veils hk).answer
  intro publicKey
  split
  . exact paired_pure rfl
  . exact paired_throw _

theorem ecdsaSignature_veils (hk : key.Alike key') (digest : SigningDigest) :
    Veils spec I Eq (ecdsaSignature key digest) (ecdsaSignature key' digest) := by
  unfold ecdsaSignature
  apply (ask_sign_veils hk digest).answer
  intro signature
  split
  . exact paired_pure rfl
  . exact paired_throw _

theorem blsSignature_veils (hk : key.Alike key') (digest : SigningDigest) :
    Veils spec I Eq (blsSignature key digest) (blsSignature key' digest) := by
  unfold blsSignature
  apply (ask_sign_veils hk digest).answer
  intro signature
  split
  . exact paired_pure rfl
  . exact paired_throw _

end Keys

theorem makeLatest_veils (b : Builtin) (key : String) (v : Value) :
    Veils spec I Eq (makeLatest b key v) (makeLatest b key v) := by
  unfold makeLatest
  have hstore : Veils spec I (fun _ _ => True) (store key v) (store key v) := by
    apply paired_modify
    rintro _ _ ⟨hspec, hI, hc⟩
    exact .intro hspec ⟨hI.bound, hI.known⟩ (hc.store key v)
  apply hstore.bind
  rintro - - -
  apply (say_veils (.made b v) (.made b v)).bind
  rintro - - -
  exact paired_pure rfl

theorem runArrayUint8_veils (ha : args.LoadedAlike spec I (examined .arrayUint8)) :
    Veils spec I Eq (runArrayUint8 args) (runArrayUint8 args) := by
  unfold runArrayUint8
  apply (requiredText_examined ha (by decide)).bind_eq
  intro list
  apply (paired_ofExcept_eq _ _).bind_eq
  intro items
  exact paired_pure rfl

theorem runChainId_veils : Veils spec I Eq runChainId runChainId := by
  unfold runChainId
  apply (ask_veils (r := .chainId) rfl).answer
  intro id
  exact paired_pure rfl

theorem runExpiry_veils (ha : args.LoadedAlike spec I (examined .expiry)) :
    Veils spec I Eq (runExpiry args) (runExpiry args) := by
  unfold runExpiry
  apply (required_examined ha (by decide) _).bind_eq
  intro v
  split
  . split
    . exact paired_throw _
    . unfold expiryAfter
      apply (ask_veils (r := .blockTimestamp) rfl).answer
      intro timestamp
      exact makeLatest_veils _ _ _
  . exact paired_throw _

theorem runSalt_veils (ha : args.LoadedAlike spec I (examined .salt)) :
    Veils spec I Eq (runSalt args) (runSalt args) := by
  have hseed : Veils spec I Eq (seed args) (seed args) := by
    unfold seed
    apply (optional_examined ha (by decide) _).bind_eq
    intro v
    split
    . exact paired_ofExcept_eq _ _
    . exact paired_pure rfl
  unfold runSalt
  apply hseed.bind_eq
  intro bytes
  unfold saltFrom
  apply (ask_veils rfl).bind_eq
  intro time
  exact makeLatest_veils _ _ _

theorem runEcdsaPublicKey_veils (ha : args.LoadedAlike spec I (examined .ecdsaPublicKey)) :
    Veils spec I Eq (runEcdsaPublicKey args) (runEcdsaPublicKey args) := by
  unfold runEcdsaPublicKey
  apply (keyDescriptor_veils ha (by decide) .ecdsa).bind
  intro key key' hk
  apply (optionalText_examined ha (by decide)).bind_eq
  intro format
  apply (ecdsaKey_veils hk).bind_eq
  intro address
  split
  . exact paired_pure rfl
  . exact paired_pure rfl
  . exact paired_pure rfl
  . exact paired_throw _

theorem runBlsPublicKey_veils (ha : args.LoadedAlike spec I (examined .blsPublicKey)) :
    Veils spec I Eq (runBlsPublicKey args) (runBlsPublicKey args) := by
  unfold runBlsPublicKey
  apply (keyDescriptor_veils ha (by decide) .bls).bind
  intro key key' hk
  apply (optionalText_examined ha (by decide)).bind_eq
  intro format
  apply (blsKey_veils hk).bind_eq
  rintro ⟨g1, g2⟩
  dsimp only
  split
  . exact paired_pure rfl
  . exact paired_pure rfl
  . exact paired_pure rfl
  . exact paired_throw _

/-- Salt, expiry and digest are the same, and keys that correspond sign the same. -/
theorem signing_veils (b : Builtin) (scheme : KeyScheme)
    (ha : args.LoadedAlike spec I ["salt", "expiry", "digest", "type"])
    {take : Value → Except OperationError SigningDigest}
    {f : Validity → SigningDigest → KeyDescriptor → Engine Value}
    (hf : ∀ v digest key key', key.Alike key' →
      Veils spec I Eq (f v digest key) (f v digest key')) :
    Veils spec I Eq
      (do
        let v ← validity args
        let digest ← b.digest args take
        let key ← b.keyDescriptor args scheme
        f v digest key)
      (do
        let v ← validity args
        let digest ← b.digest args take
        let key ← b.keyDescriptor args scheme
        f v digest key) := by
  have hvalidity : Veils spec I Eq (validity args) (validity args) := by
    unfold validity
    apply (optional_examined ha (by decide) _).bind_eq
    intro salt
    apply (optional_examined ha (by decide) _).bind_eq
    intro expiry
    exact paired_pure rfl
  have hdigest : Veils spec I Eq (b.digest args take) (b.digest args take) := by
    unfold digest
    apply (required_examined ha (by decide) _).bind_eq
    intro v
    exact paired_ofExcept_eq _ _
  apply hvalidity.bind_eq
  intro v
  apply hdigest.bind_eq
  intro digest
  apply (keyDescriptor_veils ha (by decide) scheme).bind
  exact hf v digest

theorem runEcdsaSign_veils (ha : args.LoadedAlike spec I (examined .ecdsaSign)) :
    Veils spec I Eq (runEcdsaSign args) (runEcdsaSign args) := by
  apply signing_veils .ecdsaSign .ecdsa ha
  intro v digest key key' hk
  apply (ecdsaSignature_veils hk digest).bind_eq
  intro signature
  exact paired_pure rfl

theorem runBlsSign_veils (ha : args.LoadedAlike spec I (examined .blsSign)) :
    Veils spec I Eq (runBlsSign args) (runBlsSign args) := by
  apply signing_veils .blsSign .bls ha
  intro v digest key key' hk
  apply (blsSignature_veils hk digest).bind_eq
  intro signature
  exact paired_pure rfl

theorem runBlsCurveSign_veils (ha : args.LoadedAlike spec I (examined .blsCurveSign)) :
    Veils spec I Eq (runBlsCurveSign args) (runBlsCurveSign args) := by
  apply signing_veils .blsCurveSign .bls ha
  intro v digest key key' hk
  apply (blsSignature_veils hk digest).bind_eq
  intro signature
  apply (blsKey_veils hk).bind_eq
  rintro ⟨g1, g2⟩
  exact paired_pure rfl

theorem run_veils (ha : args.LoadedAlike spec I b.examined) :
    Veils spec I Eq (b.run args) (b.run args) := by
  cases b with
  | arrayUint8 => exact runArrayUint8_veils ha
  | chainId => exact runChainId_veils
  | expiry => exact runExpiry_veils ha
  | salt => exact runSalt_veils ha
  | ecdsaPublicKey => exact runEcdsaPublicKey_veils ha
  | blsPublicKey => exact runBlsPublicKey_veils ha
  | ecdsaSign => exact runEcdsaSign_veils ha
  | blsSign => exact runBlsSign_veils ha
  | blsCurveSign => exact runBlsCurveSign_veils ha
  | g1Zero => exact paired_pure rfl
  | g2Zero => exact paired_pure rfl

end Builtin

end Registrar
