import Registrar.Text.Cut
import Registrar.Value.Document

/-!
This module contains the values a session remembers, by the texts of their keys. A record is taken
apart when it is stored, so that each of its fields can be asked for by its own key.
-/

namespace Registrar

structure Cache where
  entries : List (String × Value) := []
deriving Repr, BEq, Inhabited

namespace Cache

def find? (c : Cache) (key : String) : Option Value :=
  Assoc.find? key c.entries

def size (c : Cache) : Nat :=
  c.entries.length

def isEmpty (c : Cache) : Bool :=
  c.entries.isEmpty

def insert (c : Cache) (key : String) (v : Value) : Cache :=
  ⟨Assoc.insert key v c.entries⟩

def fieldKey (key name : String) : String :=
  key ++ "." ++ name

mutual

/-- Remember a value, and of a record only its fields, under their own keys. -/
def store : Cache → (key : String) → Value → Cache
  | c, key, .record fields => storeFields c key fields
  | c, key, v => c.insert key v

def storeFields : Cache → (key : String) → List (String × Value) → Cache
  | c, _, [] => c
  | c, key, (name, v) :: r => storeFields (store c (fieldKey key name) v) key r

end

/-- Remember what a key resolved to; of a record also its fields. -/
def memoize (c : Cache) (key : String) (v : Value) : Cache :=
  match v with
  | .record fields => (c.storeFields key fields).insert key v
  | v => c.insert key v

/-- Store every field of a record under its name behind `space`. -/
def seedFields (space : String) : Cache → List (String × Value) → Cache
  | c, [] => c
  | c, (name, v) :: r => seedFields space (c.store (space ++ name) v) r

/-- Store the members of a document under their names behind `space`. A document that is no object
is stored under `space` without the colons at its end. -/
def seed (c : Cache) (space : String) (document : Json) : Cache :=
  match Value.ofJson document with
  | .record fields => seedFields space c fields
  | v => c.store (String.ofList (Text.dropLastWhile ':' space.toList)) v

@[simp]
theorem find?_insert (c : Cache) (key : String) (v : Value) (q : String) :
    (c.insert key v).find? q = if q = key then some v else c.find? q :=
  Assoc.find?_insert key v c.entries q

theorem find?_memoize_self (c : Cache) (key : String) (v : Value) :
    (c.memoize key v).find? key = some v := by
  cases v <;> simp [memoize]

end Cache

end Registrar
