import Registrar.Proofs.Inquiry
import Registrar.Proofs.Namespace
import Registrar.Proofs.Numeral
import Registrar.Proofs.Signature

/-!
This module contains what a call that signs comes to. It asks for salt, expiry, digest, and what
describes the key, in this order, and only when all of this is known asks the signer, once, to sign
what the digest stands for. The signature is packaged with the salt and the expiry that have been
given.
-/

namespace Registrar

namespace Builtin

/-- The text of a parameter, which nothing else may be. -/
def textOf (b : Builtin) (parameter : String) : Value → Except OperationError String
  | .string s => .ok s
  | _ => .error (.key (.parameterType b.name parameter "a string"))

/-- The storage that a name stands for. -/
def storageNamed (b : Builtin) (name : String) : Except OperationError KeyStorage :=
  match KeyStorage.ofName? name with
  | some storage => .ok storage
  | none => .error (.key (.invalidParameter b.name "type" name))

def storageOf (b : Builtin) (v : Value) : Except OperationError KeyStorage :=
  (b.textOf "type" v).bind b.storageNamed

end Builtin

namespace Question

def salt : Question := ⟨"salt", none, false, fun _ => .ok ()⟩

def expiry : Question := ⟨"expiry", some (.uint 256), false, fun _ => .ok ()⟩

def digest (b : Builtin) : Question :=
  ⟨"digest", none, true, fun v => (b.digestOf v).map fun _ => ()⟩

def storage (b : Builtin) : Question :=
  ⟨"type", some .string, false, fun v => (b.storageOf v).map fun _ => ()⟩

def file (b : Builtin) : Question :=
  ⟨"file", some .string, true, fun v => (b.textOf "file" v).map fun _ => ()⟩

def password (b : Builtin) : Question :=
  ⟨"password", some .string, false, fun v => (b.textOf "password" v).map fun _ => ()⟩

end Question

/-- The question about what is made anew for a signature. -/
def Latest.question (x : Latest) : Question :=
  ⟨x.parameter, x.kind, false, fun _ => .ok ()⟩

/-- What a call that signs asks for, in this order. -/
def Builtin.questions (b : Builtin) : List Question :=
  [.salt, .expiry, .digest b, .storage b, .file b, .password b]

/-- What is known when all questions have been answered. -/
structure Order (b : Builtin) where
  salt : Option Value
  expiry : Option Value
  value : Value
  digest : SigningDigest
  digest_eq : b.digestOf value = .ok digest
  storageName : Option String
  storage : KeyStorage
  storage_eq : storageName.elim (some .keystore) KeyStorage.ofName? = some storage
  file : String
  password : Option String

namespace Builtin

/-- The kind of keys that a function signs with. -/
def scheme : Builtin → KeyScheme
  | .ecdsaSign => .ecdsa
  | _ => .bls

/-- What a function packages of a signature, if it is one of its kind. -/
def signatureOf : Builtin → Signature → Option Value
  | .ecdsaSign, .ecdsa signature => some (.bytes signature)
  | .blsSign, .bls p => some (.bytes p.bytes)
  | .blsCurveSign, .bls p => some (.g1 p)
  | _, _ => none

end Builtin

namespace Order

variable {b : Builtin} (o : Order b)

/-- The answers that it is known from. -/
def answers : List (Option Value) :=
  [o.salt, o.expiry, some o.value, o.storageName.map .string, some (.string o.file),
   o.password.map .string]

def descriptor : KeyDescriptor where
  scheme := b.scheme
  storage := o.storage
  file := o.file
  password := o.password.getD ""

def validity : Builtin.Validity where
  salt := o.salt
  expiry := o.expiry

/-- The record that a signature is packaged in. -/
def record (signature : Value) (more : Record) : Record :=
  ("signature", signature) ::
    ((o.salt.map ("salt", ·)).toList ++ ((o.expiry.map ("expiry", ·)).toList ++ more))

theorem signatureRecord_append (signature : Value) (more : Record) :
    Builtin.signatureRecord signature o.validity ++ more = o.record signature more := by
  unfold Builtin.signatureRecord record
  rw [List.cons_append, List.append_assoc]
  rfl

theorem signatureRecord_eq (signature : Value) :
    Builtin.signatureRecord signature o.validity = o.record signature [] := by
  rw [← o.signatureRecord_append, List.append_nil]

def signing (x : Except SignerError Signature) : Event :=
  ⟨.request none (.sign o.descriptor o.digest), x⟩

def naming (x : Except SignerError PublicKey) : Event :=
  ⟨.request none (.publicKey o.descriptor), x⟩

end Order

namespace Builtin

variable {α β : Type}

/-- All that is loaded for a signature. -/
def inquire (b : Builtin) (args : Arguments) :
    Engine (Validity × SigningDigest × KeyDescriptor) := do
  let salt ← optional args "salt" none
  let expiry ← optional args "expiry" (some (.uint 256))
  let digest ← b.digest args b.digestOf
  let storage ← b.keyStorage args
  let file ← b.requiredText args "file"
  let password ← b.optionalText args "password"
  return (⟨salt, expiry⟩, digest, ⟨b.scheme, storage, file, password.getD ""⟩)

/-- Ask the signer for a signature, and go on with it. -/
def signed (key : KeyDescriptor) (digest : SigningDigest) (use : Signature → Engine α) :
    Engine α := do
  let answer ← Engine.ask (.sign key digest)
  let x ← Engine.ofExcept .signer answer
  use x

/-- Package a signature, if there is one of the right kind. -/
def package (b : Builtin) (v : Validity) (key : KeyDescriptor) : Option Value → Engine Value
  | none => foreignSignature b.scheme
  | some signature =>
    if b = .blsCurveSign then do
      let (g1, g2) ← blsKey key
      return .record
        (signatureRecord signature v ++ [("pubkeyG1", .g1 g1), ("pubkeyG2", .g2 g2)])
    else return .record (signatureRecord signature v)

/-- What a function does when all has been loaded. -/
def conclude (b : Builtin) (v : Validity) (digest : SigningDigest) (key : KeyDescriptor) :
    Engine Value :=
  signed key digest fun x => b.package v key (b.signatureOf x)

theorem signed_bind (key : KeyDescriptor) (digest : SigningDigest) (use : Signature → Engine α)
    (f : α → Engine β) : signed key digest use >>= f = signed key digest fun x => use x >>= f := by
  unfold signed
  simp only [bind_assoc]

theorem ecdsaSignature_eq (key : KeyDescriptor) (digest : SigningDigest) :
    ecdsaSignature key digest = signed key digest fun
      | .ecdsa b => return b
      | .bls _ => foreignSignature .ecdsa :=
  rfl

theorem blsSignature_eq (key : KeyDescriptor) (digest : SigningDigest) :
    blsSignature key digest = signed key digest fun
      | .bls p => return p
      | .ecdsa _ => foreignSignature .bls :=
  rfl

theorem conclude_ecdsaSign (v : Validity) (digest : SigningDigest) (key : KeyDescriptor) :
    conclude .ecdsaSign v digest key = (do
      let signature ← ecdsaSignature key digest
      return .record (signatureRecord (.bytes signature) v)) := by
  unfold conclude
  rw [ecdsaSignature_eq, signed_bind]
  congr
  funext x
  cases x <;> rfl

theorem conclude_blsSign (v : Validity) (digest : SigningDigest) (key : KeyDescriptor) :
    conclude .blsSign v digest key = (do
      let signature ← blsSignature key digest
      return .record (signatureRecord (.bytes signature.bytes) v)) := by
  unfold conclude
  rw [blsSignature_eq, signed_bind]
  congr
  funext x
  cases x <;> rfl

theorem conclude_blsCurveSign (v : Validity) (digest : SigningDigest) (key : KeyDescriptor) :
    conclude .blsCurveSign v digest key = (do
      let signature ← blsSignature key digest
      let (g1, g2) ← blsKey key
      return .record
        (signatureRecord (.g1 signature) v ++ [("pubkeyG1", .g1 g1), ("pubkeyG2", .g2 g2)])) := by
  unfold conclude
  rw [blsSignature_eq, signed_bind]
  congr
  funext x
  cases x <;> rfl

/-- A call that signs asks for all that it needs first. -/
theorem run_eq_inquire {b : Builtin} (hb : b.isSigning) (args : Arguments) :
    b.run args = b.inquire args >>= fun (v, digest, key) => b.conclude v digest key := by
  cases b with
  | ecdsaSign =>
    unfold run runEcdsaSign inquire validity keyDescriptor
    simp only [bind_assoc, pure_bind, conclude_ecdsaSign]
    rfl
  | blsSign =>
    unfold run runBlsSign inquire validity keyDescriptor
    simp only [bind_assoc, pure_bind, conclude_blsSign]
    rfl
  | blsCurveSign =>
    unfold run runBlsCurveSign inquire validity keyDescriptor
    simp only [bind_assoc, pure_bind, conclude_blsCurveSign]
    rfl
  | _ => cases hb

theorem asText_eq (b : Builtin) (name : String) (v : Value) :
    b.asText name v = Engine.ofExcept id (b.textOf name v) := by
  cases v <;> rfl

theorem requiredText_eq (b : Builtin) (args : Arguments) (name : String) :
    b.requiredText args name =
      b.required args name (some .string) >>= fun v => Engine.ofExcept id (b.textOf name v) := by
  unfold requiredText
  simp only [asText_eq]

theorem optionalText_eq (b : Builtin) (args : Arguments) (name : String) :
    b.optionalText args name = optional args name (some .string) >>= fun v =>
      Engine.ofExcept id (v.elim (.ok none) fun v => (b.textOf name v).map some) := by
  unfold optionalText
  congr
  funext v
  cases v with
  | none => rfl
  | some v => cases v <;> rfl

theorem ofExcept_storageNamed (b : Builtin) (name : String) :
    Engine.ofExcept id (b.storageNamed name) =
      match KeyStorage.ofName? name with
      | some storage => pure storage
      | none => b.invalid "type" name := by
  unfold storageNamed
  cases KeyStorage.ofName? name with
  | none => rfl
  | some storage => rfl

theorem keyStorage_eq (b : Builtin) (args : Arguments) :
    b.keyStorage args = optional args "type" (some .string) >>= fun v =>
      Engine.ofExcept id (v.elim (.ok .keystore) b.storageOf) := by
  unfold keyStorage
  rw [optionalText_eq, bind_assoc]
  congr
  funext v
  cases v with
  | none => rfl
  | some v =>
    cases v with
    | string name => exact (ofExcept_storageNamed b name).symm
    | _ => rfl

end Builtin

namespace Session

open Engine

variable {c : BuiltinCall} {s s' : Session} {t : Trace}

theorem digest_asks (c : BuiltinCall) :
    Asks c (c.builtin.digest c.arguments c.builtin.digestOf) (.digest c.builtin)
      fun v digest => ∃ w, v = some w ∧ c.builtin.digestOf w = .ok digest :=
  asks_required c (.digest c.builtin) c.builtin.digestOf rfl fun _ => rfl

theorem keyStorage_asks (c : BuiltinCall) :
    Asks c (c.builtin.keyStorage c.arguments) (.storage c.builtin)
      fun v storage => v.elim (.ok .keystore) c.builtin.storageOf = .ok storage := by
  rw [Builtin.keyStorage_eq]
  exact asks_optional c (.storage c.builtin) (fun v => v.elim (.ok .keystore) c.builtin.storageOf)
    rfl rfl fun _ => rfl

theorem file_asks (c : BuiltinCall) :
    Asks c (c.builtin.requiredText c.arguments "file") (.file c.builtin)
      fun v file => ∃ w, v = some w ∧ c.builtin.textOf "file" w = .ok file := by
  rw [Builtin.requiredText_eq]
  exact asks_required c (.file c.builtin) (c.builtin.textOf "file") rfl fun _ => rfl

theorem password_asks (c : BuiltinCall) :
    Asks c (c.builtin.optionalText c.arguments "password") (.password c.builtin)
      fun v password =>
        (v.elim (.ok none) fun v => (c.builtin.textOf "password" v).map some) = .ok password := by
  rw [Builtin.optionalText_eq]
  apply asks_optional c (.password c.builtin)
    (fun v => v.elim (.ok none) fun v => (c.builtin.textOf "password" v).map some) rfl rfl
  intro v
  show (c.builtin.textOf "password" v).map (fun _ => ()) =
    ((c.builtin.textOf "password" v).map some).map fun _ => ()
  cases c.builtin.textOf "password" v with
  | error e => rfl
  | ok s => rfl

theorem textOf_eq_ok_iff {b : Builtin} {name text : String} {v : Value} :
    b.textOf name v = .ok text ↔ v = .string text := by
  cases v <;> simp [Builtin.textOf]

theorem storageNamed_eq_ok_iff {b : Builtin} {name : String} {storage : KeyStorage} :
    b.storageNamed name = .ok storage ↔ KeyStorage.ofName? name = some storage := by
  unfold Builtin.storageNamed
  cases KeyStorage.ofName? name <;> simp

theorem storage_eq_ok_iff {b : Builtin} {v : Option Value} {storage : KeyStorage} :
    v.elim (.ok .keystore) b.storageOf = .ok storage ↔
      ∃ name : Option String, v = name.map .string ∧
        name.elim (some .keystore) KeyStorage.ofName? = some storage := by
  constructor
  . intro h
    cases v with
    | none =>
      cases h
      exact ⟨none, rfl, rfl⟩
    | some v =>
      cases v with
      | string name => exact ⟨some name, rfl, storageNamed_eq_ok_iff.1 h⟩
      | _ => cases h
  . rintro ⟨name, rfl, h⟩
    cases name with
    | none =>
      cases h
      rfl
    | some name => exact storageNamed_eq_ok_iff.2 h

theorem password_eq_ok_iff {b : Builtin} {v : Option Value} {password : Option String} :
    (v.elim (.ok none) fun v => (b.textOf "password" v).map some) = .ok password ↔
      v = password.map .string := by
  constructor
  . intro h
    cases v with
    | none =>
      cases h
      rfl
    | some v =>
      cases v with
      | string text =>
        cases h
        rfl
      | _ => cases h
  . rintro rfl
    cases password with
    | none => rfl
    | some text => rfl

theorem inquire_poses (c : BuiltinCall) :
    Poses c (c.builtin.inquire c.arguments) c.builtin.questions fun vs r =>
      ∃ o : Order c.builtin, vs = o.answers ∧ r = (o.validity, o.digest, o.descriptor) := by
  have hposes := poses_bind (asks_any c .salt rfl fun _ => rfl) fun salt =>
    poses_bind (asks_any c .expiry rfl fun _ => rfl) fun expiry =>
    poses_bind (digest_asks c) fun digest =>
    poses_bind (keyStorage_asks c) fun storage =>
    poses_bind (file_asks c) fun file =>
    poses_bind (password_asks c) fun password =>
    poses_pure (c := c) ((⟨salt, expiry⟩ : Builtin.Validity), digest,
      (⟨c.builtin.scheme, storage, file, password.getD ""⟩ : KeyDescriptor))
  apply hposes.congr
  intro vs r
  constructor
  . rintro ⟨-, -, salt, rfl, rfl, -, -, expiry, rfl, rfl, -, -, digest, rfl, ⟨value, rfl, hdigest⟩,
      storage?, -, storage, rfl, hstorage, -, -, file, rfl, ⟨w, rfl, hfile⟩, password?, -, password,
      rfl, hpassword, rfl, rfl⟩
    obtain ⟨name, rfl, hname⟩ := storage_eq_ok_iff.1 hstorage
    obtain rfl := password_eq_ok_iff.1 hpassword
    obtain rfl := textOf_eq_ok_iff.1 hfile
    exact ⟨⟨salt, expiry, value, digest, hdigest, name, storage, hname, file, password⟩, rfl, rfl⟩
  . rintro ⟨o, rfl, rfl⟩
    refine ⟨_, _, o.salt, rfl, rfl, _, _, o.expiry, rfl, rfl, _, _, o.digest, rfl,
      ⟨o.value, rfl, o.digest_eq⟩, _, _, o.storage, rfl, ?_, _, _, o.file, rfl, ⟨_, rfl, rfl⟩, _, _,
      o.password, rfl, ?_, rfl, rfl⟩
    . exact storage_eq_ok_iff.2 ⟨o.storageName, rfl, o.storage_eq⟩
    . exact password_eq_ok_iff.2 rfl

/-- What a call that signs comes to when all is known: the signer is asked for a signature, and
where it is packaged as a point also for the public key. -/
inductive Concluded {b : Builtin} (o : Order b) : Trace → Except OperationError Value → Prop where
  | unsigned (e : SignerError) : Concluded o [o.signing (.error e)] (.error (.signer e))
  | foreign (x : Signature) (hx : b.signatureOf x = none) :
      Concluded o [o.signing (.ok x)] (.error (.signer (.signing
        ("signer returned a signature that is not " ++ b.scheme.name))))
  | signed (x : Signature) (v : Value) (hb : b ≠ .blsCurveSign) (hx : b.signatureOf x = some v) :
      Concluded o [o.signing (.ok x)] (.ok (.record (o.record v [])))
  | keyless (x : Signature) (v : Value) (e : SignerError) (hb : b = .blsCurveSign)
      (hx : b.signatureOf x = some v) :
      Concluded o [o.signing (.ok x), o.naming (.error e)] (.error (.signer e))
  | foreignKey (x : Signature) (v : Value) (a : Address) (hb : b = .blsCurveSign)
      (hx : b.signatureOf x = some v) :
      Concluded o [o.signing (.ok x), o.naming (.ok (.ecdsa a))] (.error (.signer (.signing
        ("signer returned a public key that is not " ++ KeyScheme.bls.name))))
  | keyed (x : Signature) (v : Value) (g1 : G1Point) (g2 : G2Point) (hb : b = .blsCurveSign)
      (hx : b.signatureOf x = some v) :
      Concluded o [o.signing (.ok x), o.naming (.ok (.bls g1 g2))]
        (.ok (.record (o.record v [("pubkeyG1", .g1 g1), ("pubkeyG2", .g2 g2)])))

theorem runs_signed_iff {α : Type} {key : KeyDescriptor} {digest : SigningDigest}
    {use : Signature → Engine α} {r : Except OperationError α} :
    Runs (Builtin.signed key digest use) s t r s' ↔
      ∃ (x : Except SignerError Signature) (u : Trace),
        t = ⟨.request none (.sign key digest), x⟩ :: u ∧
          match x with
          | .error e => u = [] ∧ r = .error (.signer e) ∧ s' = s
          | .ok x => Runs (use x) s u r s' := by
  unfold Builtin.signed
  rw [runs_ask_bind_iff]
  apply exists_congr
  intro x
  apply exists_congr
  intro u
  apply and_congr_right
  intro _
  cases x with
  | error e => exact runs_throw_bind_iff
  | ok x => exact runs_pure_bind_iff

theorem runs_blsKey_bind_iff {α : Type} {key : KeyDescriptor} {f : G1Point × G2Point → Engine α}
    {r : Except OperationError α} :
    Runs (Builtin.blsKey key >>= f) s t r s' ↔
      ∃ (x : Except SignerError PublicKey) (u : Trace),
        t = ⟨.request none (.publicKey key), x⟩ :: u ∧
          match x with
          | .error e => u = [] ∧ r = .error (.signer e) ∧ s' = s
          | .ok (.ecdsa _) => u = [] ∧ r = .error (.signer (.signing
              ("signer returned a public key that is not " ++ KeyScheme.bls.name))) ∧ s' = s
          | .ok (.bls g1 g2) => Runs (f (g1, g2)) s u r s' := by
  unfold Builtin.blsKey
  rw [bind_assoc, runs_ask_bind_iff]
  apply exists_congr
  intro x
  apply exists_congr
  intro u
  apply and_congr_right
  intro _
  rw [bind_assoc]
  cases x with
  | error e => exact runs_throw_bind_iff
  | ok k =>
    cases k with
    | bls g1 g2 => exact runs_pure_bind_iff.trans runs_pure_bind_iff
    | ecdsa a => exact runs_pure_bind_iff.trans runs_throw_bind_iff

section Conclusion

variable {b : Builtin} {o : Order b} {r : Except OperationError Value}

theorem concluded_of_runs (hr : Runs (b.conclude o.validity o.digest o.descriptor) s t r s') :
    Concluded o t r ∧ s' = s := by
  obtain ⟨x, u, rfl, h⟩ := runs_signed_iff.1 hr
  cases x with
  | error e =>
    obtain ⟨rfl, rfl, rfl⟩ := h
    exact ⟨.unsigned e, rfl⟩
  | ok x =>
    dsimp only at h
    cases hx : b.signatureOf x with
    | none =>
      rw [hx] at h
      obtain ⟨rfl, rfl, rfl⟩ := runs_throw_iff.1 h
      exact ⟨.foreign x hx, rfl⟩
    | some v =>
      rw [hx] at h
      unfold Builtin.package at h
      dsimp only at h
      split at h
      . next hb =>
        -- a point is packaged together with the public key
        obtain ⟨y, u, rfl, hkey⟩ := runs_blsKey_bind_iff.1 h
        cases y with
        | error e =>
          obtain ⟨rfl, rfl, rfl⟩ := hkey
          exact ⟨.keyless x v e hb hx, rfl⟩
        | ok y =>
          cases y with
          | ecdsa a =>
            obtain ⟨rfl, rfl, rfl⟩ := hkey
            exact ⟨.foreignKey x v a hb hx, rfl⟩
          | bls g1 g2 =>
            obtain ⟨rfl, rfl, rfl⟩ := runs_pure_iff.1 hkey
            rw [o.signatureRecord_append]
            exact ⟨.keyed x v g1 g2 hb hx, rfl⟩
      . next hb =>
        obtain ⟨rfl, rfl, rfl⟩ := runs_pure_iff.1 h
        rw [o.signatureRecord_eq]
        exact ⟨.signed x v hb hx, rfl⟩

theorem runs_package_of_ne {v : Value} (hb : b ≠ .blsCurveSign) :
    Runs (b.package o.validity o.descriptor (some v)) s [] (.ok (.record (o.record v []))) s := by
  unfold Builtin.package
  dsimp only
  rw [if_neg hb, o.signatureRecord_eq]
  exact runs_pure_iff.2 ⟨rfl, rfl, rfl⟩

theorem runs_package_blsCurveSign {o : Order .blsCurveSign} {v : Value}
    (x : Except SignerError PublicKey) :
    Runs (Builtin.package .blsCurveSign o.validity o.descriptor (some v)) s [o.naming x]
      (match x with
        | .error e => .error (.signer e)
        | .ok (.ecdsa _) => .error (.signer (.signing
            ("signer returned a public key that is not " ++ KeyScheme.bls.name)))
        | .ok (.bls g1 g2) =>
          .ok (.record (o.record v [("pubkeyG1", .g1 g1), ("pubkeyG2", .g2 g2)]))) s := by
  unfold Builtin.package
  dsimp only
  rw [if_pos rfl, runs_blsKey_bind_iff]
  refine ⟨x, [], rfl, ?_⟩
  cases x with
  | error e => exact ⟨rfl, rfl, rfl⟩
  | ok k =>
    cases k with
    | ecdsa a => exact ⟨rfl, rfl, rfl⟩
    | bls g1 g2 =>
      dsimp only
      rw [o.signatureRecord_append]
      exact runs_pure_iff.2 ⟨rfl, rfl, rfl⟩

theorem runs_of_concluded (h : Concluded o t r) :
    Runs (b.conclude o.validity o.digest o.descriptor) s t r s := by
  apply runs_signed_iff.2
  cases h with
  | unsigned e => exact ⟨.error e, [], rfl, rfl, rfl, rfl⟩
  | foreign x hx =>
    refine ⟨.ok x, [], rfl, ?_⟩
    dsimp only
    rw [hx]
    exact runs_throw_iff.2 ⟨rfl, rfl, rfl⟩
  | signed x v hb hx =>
    refine ⟨.ok x, [], rfl, ?_⟩
    dsimp only
    rw [hx]
    exact runs_package_of_ne hb
  | keyless x v e hb hx =>
    cases hb
    refine ⟨.ok x, _, rfl, ?_⟩
    dsimp only
    rw [hx]
    exact runs_package_blsCurveSign (.error e)
  | foreignKey x v a hb hx =>
    cases hb
    refine ⟨.ok x, _, rfl, ?_⟩
    dsimp only
    rw [hx]
    exact runs_package_blsCurveSign (.ok (.ecdsa a))
  | keyed x v g1 g2 hb hx =>
    cases hb
    refine ⟨.ok x, _, rfl, ?_⟩
    dsimp only
    rw [hx]
    exact runs_package_blsCurveSign (.ok (.bls g1 g2))

end Conclusion

/-- What a call that signs comes to, by the point that it reaches. -/
inductive Course (c : BuiltinCall) (s : Session) :
    Trace → Except OperationError Value → Session → Prop where
  | refused {t : Trace} {e : OperationError} {s' : Session}
      (he : Refuses c c.builtin.questions s t e s') : Course c s t (.error e) s'
  | concluded {o : Order c.builtin} {t u : Trace} {r : Except OperationError Value} {s' : Session}
      (ho : Answers c c.builtin.questions s t o.answers s') (hr : Concluded o u r) :
      Course c s (t ++ u) r s'

theorem runs_signing_iff (hb : c.builtin.isSigning) {r : Except OperationError Value} :
    Runs c.run s t r s' ↔ Course c s t r s' := by
  unfold BuiltinCall.run
  rw [Builtin.run_eq_inquire hb, runs_bind_iff]
  constructor
  . rintro (⟨⟨v, digest, key⟩, s₁, t₁, t₂, rfl, hinquire, hconclude⟩ | ⟨e, rfl, he⟩)
    . obtain ⟨vs, hvs, o, rfl, heq⟩ := (inquire_poses c).ok_iff.1 hinquire
      cases heq
      obtain ⟨hr, rfl⟩ := concluded_of_runs hconclude
      exact .concluded hvs hr
    . exact .refused ((inquire_poses c).error_iff.1 he)
  . intro h
    cases h with
    | refused he => exact Or.inr ⟨_, rfl, (inquire_poses c).error_iff.2 he⟩
    | @concluded o _ _ _ _ ho hr =>
      left
      have hinquire := (inquire_poses c).ok_iff.2 ⟨_, ho, o, rfl, rfl⟩
      exact ⟨_, s', _, _, rfl, hinquire, runs_of_concluded hr⟩

theorem Concluded.exists_signing {b : Builtin} {o : Order b} {r : Except OperationError Value}
    (h : Concluded o t r) :
    ∃ x u, t = o.signing x :: u ∧ ∀ e ∈ u, ¬ e.isSigning := by
  cases h with
  | unsigned e => exact ⟨_, [], rfl, by simp⟩
  | foreign x hx => exact ⟨_, [], rfl, by simp⟩
  | signed x v hb hx => exact ⟨_, [], rfl, by simp⟩
  | keyless x v e hb hx => exact ⟨_, _, rfl, by simp [Order.naming, Event.isSigning]⟩
  | foreignKey x v a hb hx => exact ⟨_, _, rfl, by simp [Order.naming, Event.isSigning]⟩
  | keyed x v g1 g2 hb hx => exact ⟨_, _, rfl, by simp [Order.naming, Event.isSigning]⟩

theorem toDigest_eq_ok_iff {v : Value} {d : Bytes} :
    v.toDigest = .ok d ↔ v.toBytes = .ok d ∧ d.length = 32 := by
  unfold Value.toDigest
  rw [bind_eq_ok_iff]
  constructor
  . rintro ⟨b, hb, h⟩
    split at h
    . next hlength =>
      cases h
      exact ⟨hb, hlength⟩
    . cases h
  . rintro ⟨hb, hlength⟩
    refine ⟨d, hb, ?_⟩
    rw [if_pos hlength]

theorem ecdsaDigest_eq_ok_iff {v : Value} {digest : SigningDigest} :
    Builtin.ecdsaDigest v = .ok digest ↔
      ∃ d, v.toBytes = .ok d ∧ d.length = 32 ∧ digest = .hash d := by
  unfold Builtin.ecdsaDigest
  rw [Value.mapError_eq_ok_iff, Value.map_eq_ok_iff]
  simp only [toDigest_eq_ok_iff, and_assoc]

theorem blsDigest_record_eq_ok_iff {b : Builtin} {fields : Record} {digest : SigningDigest} :
    Builtin.blsDigest b (.record fields) = .ok digest ↔
      ∃ x y, Assoc.find? "X" fields = some (.uint x) ∧ Assoc.find? "Y" fields = some (.uint y) ∧
        digest = .point ⟨x, y⟩ := by
  unfold Builtin.blsDigest
  dsimp only
  constructor
  . intro h
    split at h
    . next x y hx hy =>
      cases h
      exact ⟨x, y, hx, hy, rfl⟩
    . cases h
  . rintro ⟨x, y, hx, hy, rfl⟩
    rw [hx, hy]

/-- A BLS key signs a point that is one, or that a record has the coordinates of, and of anything
else 32 bytes. -/
theorem blsDigest_eq_ok_iff {b : Builtin} {v : Value} {digest : SigningDigest} :
    Builtin.blsDigest b v = .ok digest ↔
      (∃ p, digest = .point p ∧ (v = .g1 p ∨ ∃ fields, v = .record fields ∧
        Assoc.find? "X" fields = some (.uint p.x) ∧ Assoc.find? "Y" fields = some (.uint p.y))) ∨
      ∃ d, v.toBytes = .ok d ∧ d.length = 32 ∧ digest = .hash d := by
  cases v with
  | g1 p => simp [Builtin.blsDigest, Value.toBytes, eq_comm]
  | record fields =>
    rw [blsDigest_record_eq_ok_iff]
    constructor
    . rintro ⟨x, y, hx, hy, rfl⟩
      exact Or.inl ⟨⟨x, y⟩, rfl, Or.inr ⟨fields, rfl, hx, hy⟩⟩
    . rintro (⟨p, rfl, heq | ⟨_, heq, hx, hy⟩⟩ | ⟨d, hd, -⟩)
      . cases heq
      . cases heq
        exact ⟨p.x, p.y, hx, hy, rfl⟩
      . cases hd
  | _ =>
    simp only [reduceCtorEq, false_and, and_false, exists_false, or_self, false_or]
    exact ecdsaDigest_eq_ok_iff

theorem digestOf_eq_ok_iff {b : Builtin} (hb : b.isSigning) {v : Value} {digest : SigningDigest} :
    b.digestOf v = .ok digest ↔
      (∃ p, digest = .point p ∧ b ≠ .ecdsaSign ∧ (v = .g1 p ∨ ∃ fields, v = .record fields ∧
        Assoc.find? "X" fields = some (.uint p.x) ∧ Assoc.find? "Y" fields = some (.uint p.y))) ∨
      ∃ d, v.toBytes = .ok d ∧ d.length = 32 ∧ digest = .hash d := by
  cases b with
  | ecdsaSign =>
    simp only [ne_eq, not_true_eq_false, false_and, and_false, exists_false, false_or]
    exact ecdsaDigest_eq_ok_iff
  | blsSign =>
    simp only [ne_eq, reduceCtorEq, not_false_eq_true, true_and]
    exact blsDigest_eq_ok_iff
  | blsCurveSign =>
    simp only [ne_eq, reduceCtorEq, not_false_eq_true, true_and]
    exact blsDigest_eq_ok_iff
  | _ => cases hb

/-- What an expression makes anew for a question is the answer, and is remembered. -/
theorem Answered.latest {spec : Specification} {settings : Settings} {h : Trace} {x : Latest}
    {v : Option Value} {k : String} (hs : Steps .all [] (start spec settings) h s)
    (ha : Answered c x.question s t v s')
    (hk : c.parameter x.parameter = some k) (hm : x.MadeBy k) :
    ∃ p, v = some p ∧ s'.cache.find? x.key = some p := by
  obtain ⟨payload, c', he, hc⟩ := hm
  have hmade {w : Value} (hw : Runs (load k x.kind false) s t (.ok w) s') :=
    load_of_madeBy (find?_func hs he rfl) ⟨payload, c', he, hc⟩ hw
  cases ha with
  | absent hk' => cases hk.symm.trans hk'
  | empty hk' _ hw hempty =>
    cases hk.symm.trans hk'
    exact absurd hempty (hmade hw).2
  | given hk' hw =>
    cases hk.symm.trans hk'
    exact ⟨_, rfl, (hmade hw).1⟩

/-- A call that signs asks for its parameters in order until one fails. Only when all are known it
asks the signer, once, to sign what the digest stands for, and packages the signature with them.
What it has made anew for the salt and the expiry is the latest when the digest is asked for, unless
another salt has been made for the expiry. -/
theorem run_signing (hb : c.builtin.isSigning) :
    (∀ s t r s', Runs c.run s t r s' ↔ Course c s t r s') ∧
    (∀ (o : Order c.builtin) t r, Concluded o t r →
      ∃ x u, t = o.signing x :: u ∧ ∀ e ∈ u, ¬ e.isSigning) ∧
    (∀ v digest, c.builtin.digestOf v = .ok digest ↔
      (∃ p, digest = .point p ∧ c.builtin ≠ .ecdsaSign ∧
        (v = .g1 p ∨ ∃ fields, v = .record fields ∧
          Assoc.find? "X" fields = some (.uint p.x) ∧
          Assoc.find? "Y" fields = some (.uint p.y))) ∨
      ∃ d, v.toBytes = .ok d ∧ d.length = 32 ∧ digest = .hash d) ∧
    ∀ spec settings h s t₁ salt s₁ t₂ expiry s₂,
      Steps .all [] (start spec settings) h s →
      Answered c .salt s t₁ salt s₁ → Answered c .expiry s₁ t₂ expiry s₂ →
      (∀ k, c.parameter "salt" = some k → Latest.MadeBy .salt k →
        ∃ v, salt = some v ∧
          (t₂.lastMade? .salt = none → s₂.cache.find? Builtin.lastSaltKey = some v)) ∧
      ∀ k, c.parameter "expiry" = some k → Latest.MadeBy .expiry k →
        ∃ v, expiry = some v ∧ s₂.cache.find? Builtin.lastExpiryKey = some v := by
  refine ⟨?_, ?_, ?_, ?_⟩
  . exact fun s t r s' => runs_signing_iff hb
  . exact fun o t r hr => hr.exists_signing
  . exact fun v digest => digestOf_eq_ok_iff hb
  . intro spec settings h s t₁ salt s₁ t₂ expiry s₂ hs hsalt hexpiry
    refine ⟨?_, ?_⟩
    . intro k hk hm
      obtain ⟨v, hv, hfind⟩ := Answered.latest (x := .salt) hs hsalt hk hm
      refine ⟨v, hv, ?_⟩
      intro hnone
      have hsteps : Steps .reading [] s₁ t₂ s₂ := hexpiry.steps ⟨fun _ => id, id⟩
      have hmade : s₂.cache.find? Builtin.lastSaltKey =
          (t₂.lastMade? .salt).or (s₁.cache.find? Builtin.lastSaltKey) := hsteps.find?_made .salt
      rw [hnone, Option.none_or] at hmade
      exact hmade.trans hfind
    . intro k hk hm
      have hreached := hs.trans (hsalt.steps (Licence.le_all _))
      exact Answered.latest (x := .expiry) hreached hexpiry hk hm

/-- What happens when an expression is loaded for a question about what is made anew. -/
@[irreducible]
def latest (x : Latest) (key : String) (s : Session) :
    Trace × Except OperationError Value × Session :=
  transcript (digester []) (load key x.kind false) s

theorem answered_latest {x : Latest} {key : String} (hk : c.parameter x.parameter = some key)
    (h : (latest x key s).2.1.toOption.map Value.isEmpty = some false) :
    ∃ v, Answered c x.question s (latest x key s).1 (some v) (latest x key s).2.2 := by
  unfold latest at h ⊢
  obtain ⟨v, hempty, hr⟩ := exists_runs_of_map_eq_some h
  refine ⟨v, .given hk hr ?_ rfl⟩
  simp [hempty]

/-- A salt and an expiry are made and remembered, and packaged with a signature. -/
theorem run_signing_stamping :
    (∃ t v s', Course (stamping "1" "last:salt,last:expiry") (start digesting {}) t (.ok v) s' ∧
      v.asRecord?.map Assoc.names = some ["signature", "salt", "expiry"]) ∧
    ∃ t v s₁ u w s₂,
      Answered (stamping "1" "last:salt,last:expiry") .salt (start digesting {}) t (some v) s₁ ∧
      Answered (stamping "1" "last:salt,last:expiry") .expiry s₁ u (some w) s₂ ∧
      s₂.cache.find? Builtin.lastSaltKey = some v ∧
      s₂.cache.find? Builtin.lastExpiryKey = some w := by
  have hsigning := run_signing (c := stamping "1" "last:salt,last:expiry") rfl
  constructor
  . have hnames : (transcript (digester ["bytes32", "uint256"])
        (stamping "1" "last:salt,last:expiry").run (start digesting {})).2.1.toOption.map
          (fun v => v.asRecord?.map Assoc.names) = some (some ["signature", "salt", "expiry"]) := by
      decide +kernel
    obtain ⟨v, hv, hr⟩ := exists_runs_of_map_eq_some hnames
    exact ⟨_, v, _, (hsigning.1 _ _ _ _).1 hr, hv⟩
  . have hsaltKey : (stamping "1" "last:salt,last:expiry").parameter "salt" =
        some "func:salt()" := by
      decide +kernel
    have hexpiryKey : (stamping "1" "last:salt,last:expiry").parameter "expiry" =
        some "func:expiry(timeout=const:1)" := by
      decide +kernel
    obtain ⟨v, hsalt⟩ := answered_latest (x := .salt) (s := start digesting {}) hsaltKey
      (by decide +kernel)
    obtain ⟨w, hexpiry⟩ := answered_latest (x := .expiry)
      (s := (latest .salt "func:salt()" (start digesting {})).2.2) hexpiryKey (by decide +kernel)
    obtain ⟨hlastSalt, hlastExpiry⟩ := hsigning.2.2.2 _ _ _ _ _ _ _ _ _ _ .refl hsalt hexpiry
    obtain ⟨v', hv, hv'⟩ := hlastSalt _ hsaltKey
      ⟨"salt()", ⟨.salt, []⟩, by decide +kernel, by rfl, rfl⟩
    obtain ⟨w', hw, hw'⟩ := hlastExpiry _ hexpiryKey
      ⟨"expiry(timeout=const:1)", ⟨.expiry, [("timeout", "const:1")]⟩, by decide +kernel, by rfl,
        rfl⟩
    cases hv
    cases hw
    refine ⟨_, v, _, _, w, _, hsalt, hexpiry, hv' ?_, hw'⟩
    rw [← Option.isNone_iff_eq_none]
    decide +kernel

end Session

end Registrar
