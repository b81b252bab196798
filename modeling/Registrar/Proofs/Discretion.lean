import Mathlib.Data.Option.Basic
import Registrar.Proofs.Conduct
import Registrar.Proofs.Memory
import Registrar.Proofs.Pairing

/-!
This module contains what it means that two runs differ only in hidden answers: the answers
themselves, what is remembered of them, and the requests that pass them on. The interfaces that the
contracts of a service may have are left open; they say where an answer is passed on as it is.
-/

namespace Registrar

/-- The expression asks the operator for an answer that is not shown. -/
def KeyExpression.IsHidden (key : String) : Prop :=
  ∃ e, read? key = some e ∧ e.source = .passwd

/-- The values are the same, or, where they may differ, they are texts neither of which is empty. -/
inductive Value.Veiled (mayDiffer : Prop) : Value → Value → Prop where
  | same (v : Value) : Veiled mayDiffer v v
  | texts {a a' : String} (h : mayDiffer) (ha : a ≠ "") (ha' : a' ≠ "") :
      Veiled mayDiffer (.string a) (.string a')

namespace Value.Veiled

variable {P Q : Prop} {v v' : Value}

theorem mono (h : Veiled P v v') (hPQ : P → Q) : Veiled Q v v' := by
  cases h with
  | same => exact .same v
  | texts h ha ha' => exact .texts (hPQ h) ha ha'

theorem eq (h : Veiled P v v') (hP : ¬ P) : v = v' := by
  cases h with
  | same => rfl
  | texts h => exact absurd h hP

theorem isEmpty_eq (h : Veiled P v v') : v.isEmpty = v'.isEmpty := by
  cases h with
  | same => rfl
  | texts _ ha ha' =>
    have hempty {a : String} (ha : a ≠ "") : (Value.string a).isEmpty = false := by
      simpa [isEmpty] using ha
    rw [hempty ha, hempty ha']

end Value.Veiled

/-- The same is remembered for every expression but hidden ones, for which two answers may be. -/
def Cache.Alike (c c' : Cache) : Prop :=
  ∀ key, Option.Rel (Value.Veiled (KeyExpression.IsHidden key)) (c.find? key) (c'.find? key)

namespace Cache

variable {c c' : Cache} {v v' : Value}

theorem alike_refl (c : Cache) : c.Alike c := by
  intro key
  cases c.find? key with
  | none => exact .none
  | some v => exact .some (.same v)

theorem Alike.insert (h : c.Alike c') {key : String}
    (hv : Value.Veiled (KeyExpression.IsHidden key) v v') :
    (c.insert key v).Alike (c'.insert key v') := by
  intro q
  rw [find?_insert, find?_insert]
  split
  . next heq =>
    subst heq
    exact .some hv
  . exact h q

mutual

theorem Alike.store {c c' : Cache} (h : c.Alike c') :
    (key : String) → (v : Value) → (c.store key v).Alike (c'.store key v)
  | key, .record fields => by
    unfold Cache.store
    exact h.storeFields key fields
  | key, .bool _ | key, .int _ | key, .uint _ | key, .string _ | key, .bytes _ | key, .address _
  | key, .array _ | key, .g1 _ | key, .g2 _ => by
    unfold Cache.store
    exact h.insert (.same _)

theorem Alike.storeFields {c c' : Cache} (h : c.Alike c') (key : String) :
    (fields : List (String × Value)) → (c.storeFields key fields).Alike (c'.storeFields key fields)
  | [] => by
    unfold Cache.storeFields
    exact h
  | (name, v) :: r => by
    unfold Cache.storeFields
    exact (h.store (fieldKey key name) v).storeFields key r

end

theorem Alike.memoize (h : c.Alike c') {key : String}
    (hv : Value.Veiled (KeyExpression.IsHidden key) v v') :
    (c.memoize key v).Alike (c'.memoize key v') := by
  cases hv with
  | same =>
    unfold Cache.memoize
    split
    . exact (h.storeFields _ _).insert (.same _)
    . exact h.insert (.same _)
  | texts hk ha ha' => exact h.insert (.texts hk ha ha')

end Cache

/-- The interfaces that the contract of a role may have. -/
abbrev Interfaces := Role → Interface → Prop

/-- The resource of a service in which the interface of a contract is. -/
def Specification.resource? (spec : Specification) : Role → Option String
  | .primary => some spec.abi
  | .delegate name => (spec.delegate? name).map Delegate.abi

/-- An interface of a contract of the service is read as one that the contract may have. -/
def Event.Within (spec : Specification) (I : Interfaces) (e : Event) : Prop :=
  ∀ role resource text i, e = ⟨.request none (.resource spec.name resource), .ok text⟩ →
    spec.resource? role = some resource → Interface.read text = .ok i → I role i

/-- The contracts that are bound have interfaces that they may have, and so have those that will be
bound with an interface that is already known. -/
structure Session.Within (I : Interfaces) (s : Session) : Prop where
  bound : ∀ role c, s.bound? role = some c → I role c.interface
  known : ∀ role resource i, s.spec.resource? role = some resource →
    Assoc.find? resource s.interfaces = some i → I role i

/-- The sessions differ only in the hidden answers that they remember. -/
inductive Session.Alike (spec : Specification) (I : Interfaces) : Session → Session → Prop where
  | intro {s : Session} {cache : Cache} (hspec : s.spec = spec) (hI : s.Within I)
      (hc : s.cache.Alike cache) : Alike spec I s { s with cache := cache }

/-- Of two keys only the files and their passwords differ. -/
structure KeyDescriptor.Alike (key key' : KeyDescriptor) : Prop where
  scheme_eq : key.scheme = key'.scheme
  storage_eq : key.storage = key'.storage

/-- The events differ only in a hidden answer, or in what a hidden answer is passed on with: the data
of a read, or the file and the password of a key. -/
inductive Event.Alike : Event → Event → Prop where
  | same (e : Event) : Alike e e
  | hidden {about : Option Role} {key a a' : String} {required : Bool} (ha : a ≠ "") (ha' : a' ≠ "") :
      Alike ⟨.request about (.prompt key required true), .ok a⟩
        ⟨.request about (.prompt key required true), .ok a'⟩
  | remark (m m' : Remark) : Alike ⟨.remark m, ()⟩ ⟨.remark m', ()⟩
  | call {about : Option Role} {target : Address} {data data' : Bytes}
      (x : Except ChainError Bytes) :
      Alike ⟨.request about (.call target data), x⟩ ⟨.request about (.call target data'), x⟩
  | publicKey {about : Option Role} {key key' : KeyDescriptor} (hk : key.Alike key')
      (x : Except SignerError PublicKey) :
      Alike ⟨.request about (.publicKey key), x⟩ ⟨.request about (.publicKey key'), x⟩
  | sign {about : Option Role} {key key' : KeyDescriptor} {digest : SigningDigest}
      (hk : key.Alike key') (x : Except SignerError Signature) :
      Alike ⟨.request about (.sign key digest), x⟩ ⟨.request about (.sign key' digest), x⟩

/-- Of two runs with these traces, everything is answered alike but hidden questions, as far as both
ask alike. -/
def Trace.Alike (t t' : Trace) : Prop :=
  Interaction.AnsweredAlike Event.Alike t t'

/-- Whether a query asks for an answer that is not shown. -/
def Query.isHidden : Query → Bool
  | .request _ (.prompt _ _ hidden) => hidden
  | _ => false

theorem Event.Alike.reply_eq {q : Query} {x x' : q.Reply} (h : Event.Alike ⟨q, x⟩ ⟨q, x'⟩)
    (hq : q.isHidden = false) : x = x' := by
  cases h with
  | same => rfl
  | hidden => cases hq
  | remark => rfl
  | call => rfl
  | publicKey => rfl
  | sign => rfl

/-- The events correspond where contracts have the interfaces that they may have. -/
def Event.AlikeWithin (spec : Specification) (I : Interfaces) (e e' : Event) : Prop :=
  Event.Alike e e' ∧ e.Within spec I

namespace Engine

variable {α β : Type} {spec : Specification} {I : Interfaces} {R : α → β → Prop}

/-- The computations go alike as long as only hidden questions are answered in different ways. -/
abbrev Veils (spec : Specification) (I : Interfaces) (R : α → β → Prop) (x : Engine α)
    (y : Engine β) : Prop :=
  Paired (Session.Alike spec I) (Event.AlikeWithin spec I) R x y

theorem within_of_ne {q : Query} {x : q.Reply}
    (hq : ∀ resource, q ≠ .request none (.resource spec.name resource)) :
    Event.Within spec I ⟨q, x⟩ := by
  intro role resource text i he
  cases he
  exact absurd rfl (hq resource)

theorem comparable_of_alike {e e' : Event} (h : e.Alike e') (hw : e.Within spec I) :
    Interaction.Comparable (Event.AlikeWithin spec I) e.1 e'.1 :=
  ⟨e.2, e'.2, h, hw⟩

theorem exists_within (spec : Specification) (I : Interfaces) (q : Query) :
    ∃ x, Event.Within spec I ⟨q, x⟩ := by
  cases q with
  | remark m => exact ⟨(), within_of_ne nofun⟩
  | request about r =>
    cases r with
    | resource name resource =>
      refine ⟨.error (.notFound name resource), ?_⟩
      intro role _ _ i he
      injection he with hq hx
      cases hq
      cases hx
    | setting => exact ⟨(none : Option Json), within_of_ne nofun⟩
    | prompt key => exact ⟨(.error (.empty key) : Except ConfigError String), within_of_ne nofun⟩
    | chainId => exact ⟨(.error .missingBlock : Except ChainError UInt64), within_of_ne nofun⟩
    | blockTimestamp =>
      exact ⟨(.error .missingBlock : Except ChainError UInt64), within_of_ne nofun⟩
    | hasCode => exact ⟨(.error .missingBlock : Except ChainError Bool), within_of_ne nofun⟩
    | call => exact ⟨(.error .missingBlock : Except ChainError Bytes), within_of_ne nofun⟩
    | submit =>
      exact ⟨(.error (.unsigned "") : Except TransactionError TransactionOutcome), within_of_ne nofun⟩
    | publicKey =>
      exact ⟨(.error (.signing "") : Except SignerError PublicKey), within_of_ne nofun⟩
    | sign => exact ⟨(.error (.signing "") : Except SignerError Signature), within_of_ne nofun⟩
    | clock => exact ⟨(0 : UInt64), within_of_ne nofun⟩

theorem comparable_self (q : Query) : Interaction.Comparable (Event.AlikeWithin spec I) q q := by
  obtain ⟨x, hx⟩ := exists_within spec I q
  exact comparable_of_alike (.same ⟨q, x⟩) hx

theorem ask_veils {r : Request} (hr : (Query.request none r).isHidden = false) :
    Veils spec I Eq (ask r) (ask r) := by
  apply paired_ask _ _ (comparable_self _)
  intro x x' hx
  exact hx.1.reply_eq hr

theorem askAbout_veils {role : Role} {r : Request}
    (hr : (Query.request (some role) r).isHidden = false) :
    Veils spec I Eq (askAbout role r) (askAbout role r) := by
  apply paired_askAbout _ _ _ (comparable_self _)
  intro x x' hx
  exact hx.1.reply_eq hr

theorem say_veils (m m' : Remark) : Veils spec I (fun _ _ => True) (say m) (say m') := by
  show Paired _ _ (fun _ _ => True) (put (.remark m)) (put (.remark m'))
  apply paired_put
  . exact comparable_of_alike (.remark m m') (within_of_ne nofun)
  . exact fun _ _ _ => trivial

end Engine

end Registrar
