import Registrar.Crypto.Sha256

/-!
This module contains the keyed hash HMAC with SHA-256. The two states behind the key are computed
once for a key.
-/

namespace Registrar

/-- A key, as the states in front of the inner and the outer message. -/
structure Hmac where
  inner : Sha256.State
  outer : Sha256.State

namespace Hmac

def block (key : Bytes) : Bytes :=
  Bytes.window 64 (if key.length > 64 then Sha256.hash key else key)

def ofKey (key : Bytes) : Hmac :=
  let b := block key
  { inner := Sha256.compress Sha256.initial (b.map (· ^^^ 0x36))
    outer := Sha256.compress Sha256.initial (b.map (· ^^^ 0x5c)) }

def close (h : Hmac) (inner : Sha256.State) : Sha256.State :=
  Sha256.compressWords h.outer
    ((inner.words ++ [0x80000000, 0, 0, 0, 0, 0, 0, 8 * 96]).toArray)

def state (h : Hmac) (message : Bytes) : Sha256.State :=
  h.close (Sha256.finish h.inner 64 message)

def hash (h : Hmac) (message : Bytes) : Bytes :=
  (h.state message).bytes

def next (h : Hmac) (s : Sha256.State) : Sha256.State :=
  h.close <| Sha256.compressWords h.inner
    ((s.words ++ [0x80000000, 0, 0, 0, 0, 0, 0, 8 * 96]).toArray)

end Hmac

end Registrar
