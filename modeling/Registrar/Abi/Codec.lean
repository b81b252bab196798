import Registrar.Abi.Value
import Registrar.Text.Utf8

/-!
This module contains the binary form of parameter values. A sequence of values is written as a head
of fixed size, in which an offset stands for every dynamic value, and a tail that holds these.
Reading follows the types and accepts more than writing produces: it ignores bytes that no value
needs, and takes the low or high bytes of a word without looking at the others.
-/

namespace Registrar.Abi

/-- The binary form of one value of a sequence, and whether it belongs into the tail. -/
structure Part where
  isDynamic : Bool
  content : Bytes

namespace Part

def headSize (p : Part) : Nat :=
  if p.isDynamic then 32 else p.content.length

def headSizes : List Part → Nat
  | [] => 0
  | p :: r => p.headSize + headSizes r

/-- The heads of parts whose tails begin at the offset `tail`. -/
def heads (tail : Nat) : List Part → Bytes
  | [] => []
  | p :: r =>
    if p.isDynamic then Bytes.ofNat 32 tail ++ heads (tail + p.content.length) r
    else p.content ++ heads tail r

def tails : List Part → Bytes
  | [] => []
  | p :: r => if p.isDynamic then p.content ++ tails r else tails r

def join (parts : List Part) : Bytes :=
  heads (headSizes parts) parts ++ tails parts

end Part

def padRight (b : Bytes) : Bytes :=
  b ++ List.replicate ((32 - b.length % 32) % 32) 0

/-- The binary form of a byte string: its length and its content. -/
def encodeBytes (b : Bytes) : Bytes :=
  Bytes.ofNat 32 b.length ++ padRight b

mutual

def encodeValue : AbiValue → Bytes
  | .bool b => Bytes.ofNat 32 (if b then 1 else 0)
  | .int w _ => w.bytes
  | .uint w _ => w.bytes
  | .fixedBytes w _ => w.bytes
  | .address a => Bytes.ofNat 32 a.value.toNat
  | .function b => padRight b
  | .bytes b => encodeBytes b
  | .string s => encodeBytes (Bytes.ofString s)
  | .array items => Bytes.ofNat 32 items.length ++ Part.join (encodeParts items)
  | .fixedArray items => Part.join (encodeParts items)
  | .tuple items => Part.join (encodeParts items)

def encodeParts : List AbiValue → List Part
  | [] => []
  | v :: r => ⟨v.isDynamic, encodeValue v⟩ :: encodeParts r

end

def encode (values : List AbiValue) : Bytes :=
  Part.join (encodeParts values)

def depthLimit : Nat := 16

/-- Data that offsets refer to, and how deep it lies in the whole. -/
structure Buffer where
  data : Bytes
  depth : Nat := 0

namespace Buffer

def word? (b : Buffer) (position : Nat) : Option Bytes :=
  let w := (b.data.drop position).take 32
  if w.length = 32 then some w else none

/-- The data from a position on, as a buffer of its own. -/
def child? (b : Buffer) (position : Nat) : Option Buffer :=
  if b.depth ≥ depthLimit || position > b.data.length then none
  else some ⟨b.data.drop position, b.depth + 1⟩

def target? (b : Buffer) (position : Nat) : Option Buffer := do
  let offset ← b.word? position
  b.child? (Bytes.toNat offset)

/-- A byte string, which begins with its length. -/
def bytes? (b : Buffer) : Option Bytes := do
  let length ← b.word? 0
  let n := Bytes.toNat length
  let content := b.data.drop 32
  if n ≤ content.length then some (content.take n) else none

end Buffer

/-- Read `n` values one behind the other. -/
def decodeMany (read : Nat → Option (AbiValue × Nat)) :
    (n : Nat) → (position : Nat) → Option (List AbiValue × Nat)
  | 0, position => some ([], position)
  | n + 1, position => do
    let (v, position) ← read position
    let (r, position) ← decodeMany read n position
    return (v :: r, position)

mutual

/-- Read a value whose head stands at a position of a buffer; gives the position behind the
head. -/
def decodeValue : AbiType → Buffer → Nat → Option (AbiValue × Nat)
  | .bool, b, i => do
    let w ← b.word? i
    return (.bool (Bytes.toNat w ≠ 0), i + 32)
  | .int bits, b, i => do
    let w ← b.word? i
    return (.int (Word.ofBytes w) bits, i + 32)
  | .uint bits, b, i => do
    let w ← b.word? i
    return (.uint (Word.ofBytes w) bits, i + 32)
  | .fixedBytes size, b, i => do
    let w ← b.word? i
    return (.fixedBytes (Word.ofBytes w) size, i + 32)
  | .address, b, i => do
    let w ← b.word? i
    return (.address (Address.ofBytes w), i + 32)
  | .function, b, i => do
    let w ← b.word? i
    return (.function (w.take 24), i + 32)
  | .bytes, b, i => do
    let content ← b.target? i >>= Buffer.bytes?
    return (.bytes content, i + 32)
  | .string, b, i => do
    let content ← b.target? i >>= Buffer.bytes?
    return (.string (String.ofList (Text.Utf8.decodeLossy content)), i + 32)
  | .array item, b, i => do
    let t ← b.target? i
    let length ← t.word? 0
    let n := Bytes.toNat length
    if n = 0 then return (.array [], i + 32)
    let items ← t.child? 32
    if n > items.data.length then none
    let (vs, _) ← decodeMany (decodeValue item items) n 0
    return (.array vs, i + 32)
  | .fixedArray item n, b, i =>
    if item.isDynamic then do
      let t ← b.target? i
      let (vs, _) ← decodeMany (decodeValue item t) n 0
      return (.fixedArray vs, i + 32)
    else do
      let (vs, i) ← decodeMany (decodeValue item b) n i
      return (.fixedArray vs, i)
  | .tuple items, b, i =>
    if AbiType.anyDynamic items then do
      let t ← b.target? i
      let (vs, _) ← decodeSequence items t 0
      return (.tuple vs, i + 32)
    else do
      let (vs, i) ← decodeSequence items b i
      return (.tuple vs, i)

def decodeSequence : List AbiType → Buffer → Nat → Option (List AbiValue × Nat)
  | [], _, i => some ([], i)
  | t :: r, b, i => do
    let (v, i) ← decodeValue t b i
    let (vs, i) ← decodeSequence r b i
    return (v :: vs, i)

end

def decode (types : List AbiType) (data : Bytes) : Option (List AbiValue) :=
  (decodeSequence types ⟨data, 0⟩ 0).map (·.1)

end Registrar.Abi
