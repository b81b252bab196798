import Registrar.Proofs.Latest

/-!
This module contains what a signature is made for. The salt and the time of expiry are made before
the digest is loaded, and are packaged with the signature. A digest that is read from a contract is
read with the latest of both, which are the packaged ones unless others have been made since. A
digest whose expression has been resolved before in the session is not read again.
-/

namespace Registrar

namespace Event

def calldata? (e : Event) : Option Bytes :=
  match e.1 with
  | .request _ (.call _ data) => some data
  | _ => none

def isSigning (e : Event) : Bool :=
  match e.1 with
  | .request _ (.sign _ _) => true
  | _ => false

end Event

namespace Builtin

def isSigning : Builtin → Bool
  | .ecdsaSign | .blsSign | .blsCurveSign => true
  | _ => false

/-- What a function signs of the value of its digest. -/
def digestOf : Builtin → Value → Except OperationError SigningDigest
  | .ecdsaSign, v => ecdsaDigest v
  | b, v => blsDigest b v

end Builtin

namespace Latest

/-- The parameter of a signature that it is for, and the field in which it is packaged. -/
def parameter : Latest → String
  | .salt => "salt"
  | .expiry => "expiry"

def of (v : Builtin.Validity) : Latest → Option Value
  | .salt => v.salt
  | .expiry => v.expiry

/-- What has been put to the outside since it was loaded, if salt and expiry have been loaded and
this has been put to the outside for the expiry. -/
def since (expiry : Trace) : Latest → Trace
  | .salt => expiry
  | .expiry => []

end Latest

namespace Builtin

theorem find?_signatureRecord (signature : Value) (v : Validity) {more : Record}
    (hm : ∀ x : Latest, Assoc.find? x.parameter more = none) (x : Latest) :
    Assoc.find? x.parameter (signatureRecord signature v ++ more) = x.of v := by
  have hm := hm x
  unfold signatureRecord
  rcases v with ⟨salt, expiry⟩
  cases x <;> cases salt <;> cases expiry <;> simp_all [Assoc.find?, Latest.parameter, Latest.of]

end Builtin

namespace Session

open Engine

variable {args : Builtin.Arguments} {c : BuiltinCall} {key payload : String} {s s' : Session}
  {t : Trace} {v : Value}

theorem optional_ok {name : String} {kind : Option Kind} {r : Option Value}
    {load : Option Kind → Bool → Engine Value} (hload : args name = some load)
    (hr : Runs (Builtin.optional args name kind) s t (.ok r) s') :
    ∃ v, Runs (load kind false) s t (.ok v) s' ∧ r = if v.isEmpty then none else some v := by
  unfold Builtin.optional at hr
  rw [hload] at hr
  obtain ⟨v, s₁, t₁, t₂, rfl, hv, hpure⟩ := runs_bind_ok_iff.1 hr
  obtain ⟨rfl, heq, rfl⟩ := runs_pure_iff.1 hpure
  cases heq
  rw [List.append_nil]
  exact ⟨v, hv, rfl⟩

theorem validity_ok {valid : Builtin.Validity}
    (hr : Runs (Builtin.validity args) s t (.ok valid) s') :
    ∃ s₁ t₁ t₂, t = t₁ ++ t₂ ∧
      Runs (Builtin.optional args "salt" none) s t₁ (.ok valid.salt) s₁ ∧
      Runs (Builtin.optional args "expiry" (some (.uint 256))) s₁ t₂ (.ok valid.expiry) s' := by
  unfold Builtin.validity at hr
  obtain ⟨salt, s₁, t₁, t₂, rfl, hsalt, hrest⟩ := runs_bind_ok_iff.1 hr
  obtain ⟨expiry, s₂, t₃, t₄, rfl, hexpiry, hpure⟩ := runs_bind_ok_iff.1 hrest
  obtain ⟨rfl, heq, rfl⟩ := runs_pure_iff.1 hpure
  cases heq
  rw [List.append_nil]
  exact ⟨s₁, t₁, t₃, rfl, hsalt, hexpiry⟩

theorem digest_ok {b : Builtin} {take : Value → Except OperationError SigningDigest}
    {digest : SigningDigest} (hkey : c.parameter "digest" = some key)
    (hr : Runs (b.digest c.arguments take) s t (.ok digest) s') :
    ∃ w, Runs (load key none true) s t (.ok w) s' ∧ take w = .ok digest := by
  unfold Builtin.digest Builtin.required BuiltinCall.arguments at hr
  rw [hkey] at hr
  obtain ⟨w, s₁, t₁, t₂, rfl, hw, hdigest⟩ := runs_bind_ok_iff.1 hr
  obtain ⟨rfl, htake, rfl⟩ := runs_ofExcept_ok_iff.1 hdigest
  rw [List.append_nil]
  exact ⟨w, hw, htake⟩

/-- What comes before a signature: salt and expiry, the digest, and the key. -/
theorem signing_ok {α : Type} {b : Builtin} {scheme : KeyScheme}
    {take : Value → Except OperationError SigningDigest}
    {f : Builtin.Validity → SigningDigest → KeyDescriptor → Engine α} {a : α}
    (hr : Runs (do
      let v ← Builtin.validity args
      let digest ← b.digest args take
      let key ← b.keyDescriptor args scheme
      f v digest key) s t (.ok a) s') :
    ∃ valid digest key s₁ s₂ s₃ t₁ t₂ t₃ t₄, t = t₁ ++ (t₂ ++ (t₃ ++ t₄)) ∧
      Runs (Builtin.validity args) s t₁ (.ok valid) s₁ ∧
      Runs (b.digest args take) s₁ t₂ (.ok digest) s₂ ∧
      Runs (f valid digest key) s₃ t₄ (.ok a) s' := by
  obtain ⟨valid, s₁, t₁, t₂, rfl, hvalid, hrest⟩ := runs_bind_ok_iff.1 hr
  obtain ⟨digest, s₂, t₃, t₄, rfl, hdigest, hrest⟩ := runs_bind_ok_iff.1 hrest
  obtain ⟨key, s₃, t₅, t₆, rfl, -, hrest⟩ := runs_bind_ok_iff.1 hrest
  exact ⟨valid, digest, key, s₁, s₂, s₃, t₁, t₃, t₅, t₆, rfl, hvalid, hdigest, hrest⟩

theorem ecdsaSignature_ok {descriptor : KeyDescriptor} {digest : SigningDigest} {b : Bytes}
    (hr : Runs (Builtin.ecdsaSignature descriptor digest) s t (.ok b) s') :
    t = [⟨.request none (.sign descriptor digest), .ok (.ecdsa b)⟩] := by
  unfold Builtin.ecdsaSignature at hr
  obtain ⟨x, t₁, rfl, hanswer⟩ := runs_ask_bind_iff.1 hr
  obtain ⟨signature, s₁, t₂, t₃, rfl, hx, hsignature⟩ := runs_bind_ok_iff.1 hanswer
  obtain ⟨rfl, rfl, rfl⟩ := runs_ofExcept_ok_iff.1 hx
  cases signature with
  | ecdsa b' =>
    obtain ⟨rfl, heq, -⟩ := runs_pure_iff.1 hsignature
    cases heq
    rfl
  | bls p =>
    obtain ⟨-, heq, -⟩ := runs_throw_iff.1 hsignature
    cases heq

theorem blsSignature_ok {descriptor : KeyDescriptor} {digest : SigningDigest} {p : G1Point}
    (hr : Runs (Builtin.blsSignature descriptor digest) s t (.ok p) s') :
    t = [⟨.request none (.sign descriptor digest), .ok (.bls p)⟩] := by
  unfold Builtin.blsSignature at hr
  obtain ⟨x, t₁, rfl, hanswer⟩ := runs_ask_bind_iff.1 hr
  obtain ⟨signature, s₁, t₂, t₃, rfl, hx, hsignature⟩ := runs_bind_ok_iff.1 hanswer
  obtain ⟨rfl, rfl, rfl⟩ := runs_ofExcept_ok_iff.1 hx
  cases signature with
  | ecdsa b =>
    obtain ⟨-, heq, -⟩ := runs_throw_iff.1 hsignature
    cases heq
  | bls q =>
    obtain ⟨rfl, heq, -⟩ := runs_pure_iff.1 hsignature
    cases heq
    rfl

/-- A call that signs loads salt and expiry, and then the digest, which it signs, and packages the
signature with salt and expiry. -/
theorem run_signing_ok {b : Builtin} (hb : b.isSigning)
    (hr : Runs (b.run args) s t (.ok v) s') :
    ∃ fields valid digest descriptor x s₁ s₂ t₁ t₂ t₃ t₄, v = .record fields ∧
      t = t₁ ++ (t₂ ++ (t₃ ++ ⟨.request none (.sign descriptor digest), .ok x⟩ :: t₄)) ∧
      Runs (Builtin.validity args) s t₁ (.ok valid) s₁ ∧
      Runs (b.digest args b.digestOf) s₁ t₂ (.ok digest) s₂ ∧
      ∀ y : Latest, Assoc.find? y.parameter fields = y.of valid := by
  cases b with
  | ecdsaSign =>
    obtain ⟨valid, digest, descriptor, s₁, s₂, s₃, t₁, t₂, t₃, t₄, rfl, hvalid, hdigest, hrest⟩ :=
      signing_ok hr
    obtain ⟨signature, s₄, t₅, t₆, rfl, hsign, hpure⟩ := runs_bind_ok_iff.1 hrest
    obtain ⟨rfl, heq, rfl⟩ := runs_pure_iff.1 hpure
    cases heq
    rw [ecdsaSignature_ok hsign]
    refine ⟨_, valid, digest, descriptor, _, s₁, s₂, t₁, t₂, t₃, [], rfl, rfl, hvalid, hdigest, ?_⟩
    intro y
    rw [← List.append_nil (Builtin.signatureRecord _ _)]
    exact Builtin.find?_signatureRecord _ _ (fun _ => rfl) y
  | blsSign =>
    obtain ⟨valid, digest, descriptor, s₁, s₂, s₃, t₁, t₂, t₃, t₄, rfl, hvalid, hdigest, hrest⟩ :=
      signing_ok hr
    obtain ⟨signature, s₄, t₅, t₆, rfl, hsign, hpure⟩ := runs_bind_ok_iff.1 hrest
    obtain ⟨rfl, heq, rfl⟩ := runs_pure_iff.1 hpure
    cases heq
    rw [blsSignature_ok hsign]
    refine ⟨_, valid, digest, descriptor, _, s₁, s₂, t₁, t₂, t₃, [], rfl, rfl, hvalid, hdigest, ?_⟩
    intro y
    rw [← List.append_nil (Builtin.signatureRecord _ _)]
    exact Builtin.find?_signatureRecord _ _ (fun _ => rfl) y
  | blsCurveSign =>
    obtain ⟨valid, digest, descriptor, s₁, s₂, s₃, t₁, t₂, t₃, t₄, rfl, hvalid, hdigest, hrest⟩ :=
      signing_ok hr
    obtain ⟨signature, s₄, t₅, t₆, rfl, hsign, hkey⟩ := runs_bind_ok_iff.1 hrest
    obtain ⟨⟨g1, g2⟩, s₅, t₇, t₈, rfl, -, hpure⟩ := runs_bind_ok_iff.1 hkey
    obtain ⟨rfl, heq, rfl⟩ := runs_pure_iff.1 hpure
    cases heq
    rw [blsSignature_ok hsign]
    refine ⟨_, valid, digest, descriptor, _, s₁, s₂, t₁, t₂, t₃, _, rfl, rfl, hvalid, hdigest, ?_⟩
    intro y
    -- the public key is packaged under other names
    apply Builtin.find?_signatureRecord
    intro x
    cases x <;> rfl
  | _ => cases hb

/-- Salt and expiry are loaded one after the other. What an expression makes for one of them is what
is remembered then, and still is when the digest is loaded unless another has been made. -/
theorem validity_latest {spec : Specification} {settings : Settings} {h : Trace} {k : String}
    {x : Latest} {valid : Builtin.Validity} {s₁ s₂ : Session} {t₁ t₂ : Trace}
    (hs : Steps .all [] (start spec settings) h s) (hk : c.parameter x.parameter = some k)
    (hm : x.MadeBy k)
    (hsalt : Runs (Builtin.optional c.arguments "salt" none) s t₁ (.ok valid.salt) s₁)
    (hexpiry : Runs (Builtin.optional c.arguments "expiry" (some (.uint 256))) s₁ t₂
      (.ok valid.expiry) s₂) :
    ∃ p, x.of valid = some p ∧
      ((x.since t₂).Without x.request → s₂.cache.find? x.key = some p) := by
  have hload : c.arguments x.parameter = some (load k) := by
    unfold BuiltinCall.arguments
    rw [hk]
    rfl
  obtain ⟨payload, c', he, hc⟩ := hm
  have hfollow (name : String) (kind : Option Kind) :
      Follows .reading (Builtin.optional c.arguments name kind) :=
    (Builtin.optional_composed name kind).follows (arguments_follow c)
  cases x with
  | salt =>
    obtain ⟨p, hp, heq⟩ := optional_ok hload hsalt
    obtain ⟨hfind, hempty⟩ := load_of_madeBy (find?_func hs he rfl) ⟨payload, c', he, hc⟩ hp
    rw [if_neg hempty] at heq
    refine ⟨p, heq, ?_⟩
    intro hx
    -- loading the expiry leaves the salt alone unless it makes another
    have hsteps : Steps .reading [] s₁ t₂ s₂ := (hfollow _ _).steps hexpiry
    rw [hsteps.find?_latest hx, hfind]
  | expiry =>
    have hsteps : Steps .reading ([] ++ h) s t₁ s₁ := (hfollow _ _).steps hsalt
    have hreached := hs.trans (hsteps.mono (Licence.le_all _))
    obtain ⟨p, hp, heq⟩ := optional_ok hload hexpiry
    obtain ⟨hfind, hempty⟩ := load_of_madeBy (find?_func hreached he rfl) ⟨payload, c', he, hc⟩ hp
    rw [if_neg hempty] at heq
    refine ⟨p, heq, ?_⟩
    intro hx
    exact hfind

/-- A value is what a parameter takes after it has been converted to the kind of its type. -/
def Takes (q : Param) (p : Value) (w : AbiValue) : Prop :=
  ∃ type u, q.resolve = some type ∧ p.convertIf type.kind? = .ok u ∧
    u.encodeAs type q.components = .ok w

/-- The argument at a position is the value `p` of what is made anew, unless another has been made
in the course of `since` or of the reading, before the argument is loaded. -/
def Reading.Passes (r : Reading payload s t v) (x : Latest) (p : Value) (since : Trace) (i : Nat) :
    Prop :=
  ∃ before s' q w, before <+: r.loading ∧
    Encoded loadParameter (r.method.inputs.take i) ((Invocation.read payload).arguments.take i)
      r.bound before (r.values.take i) s' ∧
    r.method.inputs[i]? = some q ∧ r.values[i]? = some w ∧
    (Trace.Without (since ++ (r.binding ++ before)) x.request → Takes q p w)

theorem Reading.passes (r : Reading payload s t v) {x : Latest} {p : Value} {since : Trace} {i : Nat}
    (hi : (Invocation.read payload).arguments[i]? = some x.key)
    (hp : since.Without x.request → s.cache.find? x.key = some p) : r.Passes x p since i := by
  obtain ⟨q, type, w, u, s₁, s₂, t₁, t₂, t₃, hq, hw, htype, hloading, hencoded, hload, hencode⟩ :=
    r.values_encoded.get hi
  refine ⟨t₁, s₁, q, w, ⟨_, hloading.symm⟩, hencoded, hq, hw, ?_⟩
  intro hx
  obtain ⟨hsince, hx⟩ := Trace.without_append.1 hx
  obtain ⟨hbinding, hbefore⟩ := Trace.without_append.1 hx
  have hsteps : Steps .reading [] r.bound t₁ s₁ := hencoded.moves.steps
  -- neither binding the contract nor loading the arguments before this one makes another
  have hfind : s₁.cache.find? x.key = some p := by
    rw [hsteps.find?_latest hbefore, r.binding_steps.find?_latest hbinding, hp hsince]
  obtain ⟨-, hconvert⟩ := load_of_find?_eq_some hfind hload
  exact ⟨type, u, htype, hconvert, hencode⟩

/-- How a call that signs comes to its record: the salt and the expiry are loaded, then the digest
and what describes the key, and then the digest is signed. -/
structure Signing (c : BuiltinCall) (key payload : String) (s : Session) (t : Trace) (v : Value) where
  fields : Record
  validity : Builtin.Validity
  /-- What the digest is loaded as, and what is signed of it. -/
  value : Value
  digest : SigningDigest
  descriptor : KeyDescriptor
  signature : Signature
  /-- The session in which the digest is loaded. -/
  ready : Session
  /-- What is put to the outside for the salt, for the expiry, for the digest, for the key, and after
  the digest has been signed. -/
  salting : Trace
  dating : Trace
  digesting : Trace
  keying : Trace
  rest : Trace
  record_eq : v = .record fields
  fields_eq : ∀ x : Latest, Assoc.find? x.parameter fields = x.of validity
  trace_eq : t = (salting ++ dating) ++ (digesting ++
    (keying ++ ⟨.request none (.sign descriptor digest), .ok signature⟩ :: rest))
  validity_runs : Runs (Builtin.validity c.arguments) s (salting ++ dating) (.ok validity) ready
  digest_eq : c.builtin.digestOf value = .ok digest
  /-- A digest whose expression is remembered is not read. -/
  remembered : ∀ w, ready.cache.find? key = some w →
    value = w ∧ digesting = [Event.loaded key w]
  /-- Any other is what a read has just returned, whose arguments are what has been packaged. -/
  read : ready.cache.find? key = none →
    ∃ (u : Trace) (r : Reading payload ready u value), digesting = u ++ [Event.loaded key value] ∧
      ∀ (x : Latest) (k : String), c.parameter x.parameter = some k → x.MadeBy k →
        ∃ p, Assoc.find? x.parameter fields = some p ∧
          ∀ i, (Invocation.read payload).arguments[i]? = some x.key →
            r.Passes x p (x.since dating) i

/-- Whenever a call signs in the course of a session, what it packages with the signature is what the
signed digest has been read with, unless the digest has not been read anew or another salt or expiry
has been made in between. -/
theorem signing_with_packaged_of_runs {spec : Specification} {settings : Settings} {h : Trace}
    (hs : Steps .all [] (start spec settings) h s) (hb : c.builtin.isSigning)
    (hkey : c.parameter "digest" = some key)
    (he : KeyExpression.read? key = some ⟨.call, payload, none⟩)
    (hr : Runs c.run s t (.ok v) s') :
    Nonempty (Signing c key payload s t v) := by
  obtain ⟨fields, valid, digest, descriptor, signature, s₁, s₂, t₁, t₂, t₃, t₄, rfl, rfl, hvalid,
    hdigest, hfields⟩ := run_signing_ok hb hr
  obtain ⟨w, hw, htake⟩ := digest_ok hkey hdigest
  have hvalidity := hvalid
  obtain ⟨s₃, t₅, t₆, rfl, hsalt, hexpiry⟩ := validity_ok hvalid
  refine ⟨⟨fields, valid, w, digest, descriptor, signature, s₁, t₅, t₆, t₂, t₃, t₄, rfl, hfields, rfl,
    hvalidity, htake, ?_, ?_⟩⟩
  . intro u hu
    obtain ⟨rfl, heq⟩ := load_of_find?_eq_some hu hw
    cases heq
    exact ⟨rfl, rfl⟩
  . intro hnone
    obtain ⟨u, rfl, ⟨r⟩⟩ := load_of_call hnone he hw
    refine ⟨u, r, rfl, ?_⟩
    intro x k hk hm
    obtain ⟨p, hp, hlatest⟩ := validity_latest hs hk hm hsalt hexpiry
    refine ⟨p, ?_, ?_⟩
    . rw [hfields, hp]
    . intro i hi
      exact r.passes hi hlatest

def expiryOf? : Except OperationError Value → Option Word
  | .ok (.record fields) =>
    match Assoc.find? "expiry" fields with
    | some (.uint w) => some w
    | _ => none
  | _ => none

theorem expiryOf?_eq_some {r : Except OperationError Value} {w : Word} (h : expiryOf? r = some w) :
    ∃ fields, r = .ok (.record fields) ∧ Assoc.find? "expiry" fields = some (.uint w) := by
  unfold expiryOf? at h
  split at h
  . next fields =>
    split at h
    . next w' hfind =>
      cases h
      exact ⟨fields, rfl, hfind⟩
    . cases h
  . cases h

def digesting : Specification where
  name := "s"
  contractAddress := "0x00000000000000000000000000000000000000a1"
  abi := "primary"
  functions := .ofList []

/-- A partner whose contract gives digests for arguments of the given types. -/
def digester (inputs : List String) : (q : Query) → q.Reply :=
  compliant (fun _ => methodDocument "d" inputs ["bytes32"]) (List.replicate 32 0)

/-- A call that signs the digest for the given arguments, and packages a salt and an expiry with
it. -/
def stamping (timeout arguments : String) : BuiltinCall where
  builtin := .ecdsaSign
  parameters := [("file", "const:k"), ("salt", "func:salt()"),
    ("expiry", "func:expiry(timeout=const:" ++ timeout ++ ")"),
    ("digest", "call:d(" ++ arguments ++ ")")]

/-- What happens when a stamp is made in a session. -/
@[irreducible]
def stamped (inputs : List String) (timeout arguments : String) (s : Session) :
    Trace × Except OperationError Value × Session :=
  transcript (digester inputs) (stamping timeout arguments).run s

theorem runs_stamped {inputs : List String} {timeout arguments : String} {s : Session} {w : Word}
    (h : expiryOf? (stamped inputs timeout arguments s).2.1 = some w) :
    ∃ fields, Assoc.find? "expiry" fields = some (.uint w) ∧
      Runs (stamping timeout arguments).run s (stamped inputs timeout arguments s).1
        (.ok (.record fields)) (stamped inputs timeout arguments s).2.2 := by
  obtain ⟨fields, heq, hexpiry⟩ := expiryOf?_eq_some h
  refine ⟨fields, hexpiry, ?_⟩
  rw [← heq]
  unfold stamped
  exact runs_transcript _ _ _

/-- A digest is read with the salt and the expiry that are packaged. -/
theorem signing_with_packaged_stamping :
    ∃ t fields s', Runs (stamping "1" "last:salt,last:expiry").run (start digesting {}) t
        (.ok (.record fields)) s' ∧
      Nonempty (Signing (stamping "1" "last:salt,last:expiry") "call:d(last:salt,last:expiry)"
        "d(last:salt,last:expiry)" (start digesting {}) t (.record fields)) ∧
      Assoc.find? "expiry" fields = some (.uint 1061) ∧
      (t.filterMap Event.calldata?).map (List.drop 36) = [Abi.encode [.uint 1061 256]] := by
  have hrun : expiryOf? (stamped ["bytes32", "uint256"] "1" "last:salt,last:expiry"
      (start digesting {})).2.1 = some 1061 := by
    decide +kernel
  obtain ⟨fields, hexpiry, hr⟩ := runs_stamped hrun
  refine ⟨_, fields, _, hr, ?_, hexpiry, ?_⟩
  . exact signing_with_packaged_of_runs .refl rfl rfl (by decide +kernel) hr
  . decide +kernel

/-- No read is given the packaged expiry where the digest has been resolved before in the session, nor
where its expression makes another expiry before it refers to the latest. -/
theorem not_read_with_packaged_stamping :
    (∃ t₁ v s₁ t₂ fields s₂,
      Runs (stamping "1" "last:expiry").run (start digesting {}) t₁ (.ok v) s₁ ∧
      Runs (stamping "2" "last:expiry").run s₁ t₂ (.ok (.record fields)) s₂ ∧
      Assoc.find? "expiry" fields = some (.uint 1062) ∧ t₂.any Event.isSigning ∧
      ∀ data ∈ t₁.filterMap Event.calldata? ++ t₂.filterMap Event.calldata?,
        data.drop 4 ≠ Abi.encode [.uint 1062 256]) ∧
    ∃ t fields s',
      Runs (stamping "2" "func:expiry(timeout=const:1),last:expiry").run (start digesting {}) t
        (.ok (.record fields)) s' ∧
      Assoc.find? "expiry" fields = some (.uint 1062) ∧ t.any Event.isSigning ∧
      ∀ data ∈ t.filterMap Event.calldata?, data.drop 36 ≠ Abi.encode [.uint 1062 256] := by
  constructor
  -- the second stamp finds the digest of the first one and reads nothing
  . have hfirst : expiryOf? (stamped ["uint256"] "1" "last:expiry" (start digesting {})).2.1 =
        some 1061 := by
      decide +kernel
    have hsecond : expiryOf? (stamped ["uint256"] "2" "last:expiry"
        (stamped ["uint256"] "1" "last:expiry" (start digesting {})).2.2).2.1 = some 1062 := by
      decide +kernel
    obtain ⟨first, -, h₁⟩ := runs_stamped hfirst
    obtain ⟨fields, hexpiry, h₂⟩ := runs_stamped hsecond
    refine ⟨_, _, _, _, fields, _, h₁, h₂, hexpiry, ?_⟩
    decide +kernel
  -- the first argument of the digest makes an expiry of its own, which is then the latest
  . have hrun : expiryOf? (stamped ["uint256", "uint256"] "2"
        "func:expiry(timeout=const:1),last:expiry" (start digesting {})).2.1 = some 1062 := by
      decide +kernel
    obtain ⟨fields, hexpiry, hr⟩ := runs_stamped hrun
    refine ⟨_, fields, _, hr, hexpiry, ?_⟩
    decide +kernel

end Session

end Registrar
