import Registrar.Builtin.Chain
import Registrar.Proofs.Run
import Registrar.Session.Binding

/-!
This module contains what a session does step by step: each step puts at most one query to the
outside and changes the session in one of a few ways. Every fact about all runs of a session is
shown for a single step and carried to sequences of steps. A step may depend on what has been put to
the outside before it, its history.
-/

namespace Registrar

namespace Event

def about? (e : Event) : Option Role :=
  match e.1 with
  | .request about _ => about
  | .remark _ => none

/-- Where a read or a transaction goes. -/
def target? (e : Event) : Option Address :=
  match e.1 with
  | .request _ (.call a _) => some a
  | .request _ (.submit t) => some t.target
  | _ => none

def isSubmission (e : Event) : Bool :=
  match e.1 with
  | .request _ (.submit _) => true
  | _ => false

def loaded (key : String) (v : Value) : Event :=
  ⟨.remark (.loaded key v), ()⟩

def made (b : Builtin) (v : Value) : Event :=
  ⟨.remark (.made b v), ()⟩

end Event

/-- Where the contract of a role is, after what has been put to the outside: the primary contract and
a delegate that has an address are where the specification says, and any other delegate is where its
getter said. -/
inductive Specification.Locates (spec : Specification) (h : Trace) (a : Address) : Role → Prop where
  | primary (ha : spec.address = .ok a) : Locates spec h a .primary
  | configured {name : String} {d : Delegate} {text : String} (hd : spec.delegate? name = some d)
      (ht : d.contractAddress = some text) (ha : parseAddress text = .ok a) :
      Locates spec h a (.delegate name)
  | resolved {name : String} {d : Delegate} (hd : spec.delegate? name = some d)
      (ht : d.contractAddress = none)
      (ha : Event.loaded (Session.getterKey name) (.address a) ∈ h) :
      Locates spec h a (.delegate name)

theorem Specification.Locates.mono {spec : Specification} {h h' : Trace} {a : Address} {role : Role}
    (hl : spec.Locates h a role) (hh : h ⊆ h') : spec.Locates h' a role := by
  cases hl with
  | primary ha => exact .primary ha
  | configured hd ht ha => exact .configured hd ht ha
  | resolved hd ht ha => exact .resolved hd ht (hh ha)

/-- Whether a request is about no contract and its answer is not remembered. -/
def Request.isPlain : Request → Bool
  | .setting _ | .prompt _ _ _ | .chainId | .publicKey _ | .sign _ _ => true
  | _ => false

namespace Session

variable {s s' s'' : Session}

def bound? (s : Session) : Role → Option Contract
  | .primary => s.primary
  | .delegate name => Assoc.find? name s.delegates

def bindTo (s : Session) (c : Contract) : Role → Session
  | .primary => { s with primary := some c }
  | .delegate name => { s with delegates := Assoc.insert name c s.delegates }

theorem spec_bindTo (c : Contract) (role : Role) : (s.bindTo c role).spec = s.spec := by
  cases role <;> rfl

theorem cache_bindTo (c : Contract) (role : Role) : (s.bindTo c role).cache = s.cache := by
  cases role <;> rfl

theorem bound?_bindTo (c : Contract) (role r : Role) :
    (s.bindTo c role).bound? r = if r = role then some c else s.bound? r := by
  cases role with
  | primary => cases r <;> simp [bindTo, bound?]
  | delegate name =>
    cases r with
    | primary => simp [bindTo, bound?]
    | delegate n => simp [bindTo, bound?, Assoc.find?_insert]

/-- What a computation may do. -/
structure Licence where
  binds : Role → Prop
  submits : Prop

def Licence.none : Licence where
  binds _ := False
  submits := False

structure Licence.Le (l m : Licence) : Prop where
  binds : ∀ role, l.binds role → m.binds role
  submits : l.submits → m.submits

variable {l m : Licence} {h : Trace} {t u : Trace}

/-- A step of a session with the history `h`, what it puts to the outside, and the session after
it. -/
inductive Step (l : Licence) (h : Trace) (s : Session) : Trace → Session → Prop where
  | asked (r : Request) (x : Answer r) (hr : r.isPlain) : Step l h s [⟨.request none r, x⟩] s
  | said (key : String) (v : Value) : Step l h s [Event.loaded key v] s
  | undated (e : ChainError) : Step l h s [⟨.request none .blockTimestamp, .error e⟩] s
  | dated (time : UInt64) (timeout : Nat) :
      Step l h s
        [⟨.request none .blockTimestamp, .ok time⟩,
          Event.made .expiry (.uint (BitVec.ofNat 256 (Builtin.expiryTime time.toNat timeout)))]
        { s with
          cache := s.cache.store Builtin.lastExpiryKey
            (.uint (BitVec.ofNat 256 (Builtin.expiryTime time.toNat timeout))) }
  | salted (seed : Bytes) (time : UInt64) :
      Step l h s
        [⟨.request none .clock, time⟩, Event.made .salt (.bytes (Builtin.saltOf seed time))]
        { s with
          cache := s.cache.store Builtin.lastSaltKey (.bytes (Builtin.saltOf seed time)) }
  | unread (resource : String) (x : Except RepositoryError String)
      (hi : Assoc.find? resource s.interfaces = none) :
      Step l h s [⟨.request none (.resource s.spec.name resource), x⟩] s
  | read (resource text : String) (i : Interface) (hi : Assoc.find? resource s.interfaces = none)
      (hr : Interface.read text = .ok i) :
      Step l h s [⟨.request none (.resource s.spec.name resource), .ok text⟩]
        { s with interfaces := Assoc.insert resource i s.interfaces }
  | unbound (role : Role) (a : Address) (x : Except ChainError Bool) (hb : s.bound? role = none)
      (hx : x ≠ .ok true) : Step l h s [⟨.request (some role) (.hasCode a), x⟩] s
  | bound (role : Role) (c : Contract) (hb : s.bound? role = none)
      (hl : s.spec.Locates h c.address role) (hm : l.binds role) :
      Step l h s [⟨.request (some role) (.hasCode c.address), .ok true⟩] (s.bindTo c role)
  | called (role : Role) (c : Contract) (data : Bytes) (x : Except ChainError Bytes)
      (hb : s.bound? role = some c) :
      Step l h s [⟨.request (some role) (.call c.address data), x⟩] s
  | submitted (role : Role) (c : Contract) (tx : Transaction)
      (x : Except TransactionError TransactionOutcome) (hb : s.bound? role = some c)
      (ht : tx.target = c.address) (hm : l.submits) :
      Step l h s [⟨.request (some role) (.submit tx), x⟩] s
  | memoized (key : String) (e : KeyExpression) (v : Value) (he : KeyExpression.read? key = some e)
      (hc : e.isCacheable) (hn : e.source ≠ .bare) :
      Step l h s [] { s with cache := s.cache.memoize key v }

inductive Steps (l : Licence) (h : Trace) (s : Session) : Trace → Session → Prop where
  | refl : Steps l h s [] s
  | tail {t u : Trace} {s₁ s₂ : Session} (hs : Steps l h s t s₁) (hu : Step l (h ++ t) s₁ u s₂) :
      Steps l h s (t ++ u) s₂

theorem Step.mono (hs : Step l h s t s') (hlm : l.Le m) : Step m h s t s' := by
  cases hs with
  | bound role c hb hl hm => exact .bound role c hb hl (hlm.binds role hm)
  | submitted role c tx x hb ht hm => exact .submitted role c tx x hb ht (hlm.submits hm)
  | asked r x hr => exact .asked r x hr
  | said key v => exact .said key v
  | undated e => exact .undated e
  | dated time timeout => exact .dated time timeout
  | salted seed time => exact .salted seed time
  | unread resource x hi => exact .unread resource x hi
  | read resource text i hi hr => exact .read resource text i hi hr
  | unbound role a x hb hx => exact .unbound role a x hb hx
  | called role c data x hb => exact .called role c data x hb
  | memoized key e v he hc hn => exact .memoized key e v he hc hn

theorem Step.spec_eq (hs : Step l h s t s') : s'.spec = s.spec := by
  cases hs with
  | bound role c => exact spec_bindTo c role
  | _ => rfl

theorem Step.bound?_eq_some {role : Role} {c : Contract} (hs : Step l h s t s')
    (hc : s.bound? role = some c) : s'.bound? role = some c := by
  cases hs with
  | bound r c' hb =>
    rw [bound?_bindTo]
    split
    . next heq =>
      rw [← heq, hc] at hb
      cases hb
    . exact hc
  | _ =>
    cases role <;> exact hc

theorem Step.bound?_eq {role : Role} (hs : Step l h s t s') (hl : ¬ l.binds role) :
    s'.bound? role = s.bound? role := by
  cases hs with
  | bound r c hb hloc hm =>
    rw [bound?_bindTo]
    split
    . next heq =>
      rw [heq] at hl
      exact absurd hm hl
    . rfl
  | _ => cases role <;> rfl

theorem Step.not_isSubmission (hs : Step l h s t s') (hl : ¬ l.submits) :
    ∀ e ∈ t, ¬ e.isSubmission := by
  cases hs with
  | submitted role c tx x hb ht hm => exact absurd hm hl
  | asked r x hr =>
    intro e he
    rw [List.mem_singleton] at he
    rw [he]
    cases r <;> simp_all [Event.isSubmission, Request.isPlain]
  | memoized => simp
  | _ => simp [Event.isSubmission, Event.loaded, Event.made]

namespace Steps

theorem trans (h₁ : Steps l h s t s') (h₂ : Steps l (h ++ t) s' u s'') :
    Steps l h s (t ++ u) s'' := by
  induction h₂ with
  | refl =>
    rw [List.append_nil]
    exact h₁
  | tail _ hu ih =>
    rw [← List.append_assoc]
    apply Steps.tail ih
    rw [← List.append_assoc]
    exact hu

theorem mono (hs : Steps l h s t s') (hlm : l.Le m) : Steps m h s t s' := by
  induction hs with
  | refl => exact .refl
  | tail _ hu ih => exact .tail ih (hu.mono hlm)

theorem spec_eq (hs : Steps l h s t s') : s'.spec = s.spec := by
  induction hs with
  | refl => rfl
  | tail _ hu ih => rw [hu.spec_eq, ih]

theorem bound?_eq_some {role : Role} {c : Contract} (hs : Steps l h s t s')
    (hc : s.bound? role = some c) : s'.bound? role = some c := by
  induction hs with
  | refl => exact hc
  | tail _ hu ih => exact hu.bound?_eq_some ih

theorem bound?_eq {role : Role} (hs : Steps l h s t s') (hl : ¬ l.binds role) :
    s'.bound? role = s.bound? role := by
  induction hs with
  | refl => rfl
  | tail _ hu ih => rw [hu.bound?_eq hl, ih]

theorem not_isSubmission (hs : Steps l h s t s') (hl : ¬ l.submits) :
    ∀ e ∈ t, ¬ e.isSubmission := by
  induction hs with
  | refl => simp
  | tail _ hu ih =>
    intro e he
    cases List.mem_append.1 he with
    | inl he => exact ih e he
    | inr he => exact hu.not_isSubmission hl e he

end Steps

end Session

end Registrar
