import GameAtlas.Data.Located
import GameAtlas.Image.Source
import GameAtlas.Image.Value
import GameAtlas.Schema.Game
import GameAtlas.Schema.Size

/-!
Values read from sources. The sizes of a struct's members and of an array's elements may depend on
the bytes that the struct or array has had so far.
-/

namespace GameAtlas.Image

open Schema (Attributes Field Game Kind SizeError)
open Expression (Bindings)

/-- Failures that happen at a field. -/
inductive DecodeCause where
  | size (e : SizeError)
  | pastEnd (p : PastEnd)
  | lengthMismatch (expected consumed elementSize : Nat)

def DecodeCause.message : DecodeCause → String
  | .size e => e.message
  | .pastEnd p => p.message
  | .lengthMismatch expected consumed elementSize =>
    s!"Array element of {elementSize} bytes does not fit: " ++
      s!"{consumed} of {expected} bytes consumed"

/-- Faults of decoding. The last three have no place: sizes beyond what a source can be asked for,
faults of a size that are no findings about it, and an array of nothing. -/
inductive DecodeFault where
  | failure (e : Located DecodeCause)
  | refused (r : Refusal)
  | bare (fault : Expression.BareFault)
  | noItemType

namespace DecodeFault

def message : DecodeFault → String
  | .failure e => e.text DecodeCause.message
  | .refused r => r.message
  | .bare fault => fault.message
  | .noItemType => "'NoneType' object has no attribute 'kind'"

/-- A fault seen from the field around it. -/
def within (name : String) : DecodeFault → DecodeFault
  | .failure e => .failure (e.within name)
  | fault => fault

def ofRead : ReadFault → DecodeFault
  | .pastEnd p => .failure { cause := .pastEnd p }
  | .refused r => .refused r

end DecodeFault

variable [Host]

/-- Reading from a source. -/
abbrev Decoder := ExceptT DecodeFault (StateM Source)

namespace Decoder

/-- Does what a source offers. -/
def ofSource {α : Type} (call : Source → Except ReadFault α × Source) : Decoder α := fun s =>
  match call s with
  | (.ok a, after) => (.ok a, after)
  | (.error e, after) => (.error (.ofRead e), after)

def read (n : Int) : Decoder (List UInt8) := ofSource fun s => s.read n

def readUntil (terminator : List UInt8) : Decoder (List UInt8) :=
  ofSource fun s => s.readUntil terminator

/-- Names the field in which a fault happens. -/
def within {α : Type} (name : String) (d : Decoder α) : Decoder α := fun s =>
  match d s with
  | (.ok a, after) => (.ok a, after)
  | (.error e, after) => (.error (e.within name), after)

/-- The size that a field states. -/
def sizeOf (a : Attributes) (bindings : Bindings) : Decoder Nat :=
  match a.resolvedSize bindings with
  | .ok n => pure n
  | .error e =>
    match e.bare? with
    | some fault => throw (.bare fault)
    | none => throw (.failure { cause := .size e })

/-- A run of bytes: up to the terminator if there is one and no size. -/
def rawBytes (a : Attributes) (bindings : Bindings) : Decoder (List UInt8) :=
  if a.size.isNone && !a.terminator.isEmpty then readUntil a.terminator
  else do read (← sizeOf a bindings)

/-- Reads elements until they fill `total` bytes. `run` are the bytes of the `count` elements
before. Every element has a byte at least, so that `total` rounds are enough. -/
def elements (element : Bindings → Decoder Value) (total : Nat) :
    Nat → Nat → List UInt8 → Decoder (List Value)
  | 0, _, _ => pure []
  | fuel + 1, count, run =>
    if run.length < total then do
      let v ← within (Located.index count) (element (Expression.bindBytes run))
      if v.consumed = 0 || total < run.length + v.consumed then
        throw (.failure { cause := .lengthMismatch total run.length v.consumed })
      return v :: (← elements element total fuel (count + 1) (run ++ v.encode))
    else pure []

end Decoder

mutual

/-- Reads a field. -/
def decodeField (f : Field) (bindings : Bindings) : Decoder Value :=
  match f with
  | ⟨attributes, members, itemType⟩ =>
    Decoder.within attributes.name <|
      match attributes.kind.form with
      | .members => do
        let parts ← decodeMembers members []
        return .members ⟨attributes, members, itemType⟩ (Value.encodeAll parts).length parts
      | .number => do
        let size ← Decoder.sizeOf attributes bindings
        let bytes ← Decoder.read size
        return .number ⟨attributes, members, itemType⟩ size (Value.numberOf bytes)
      | .raw => do
        let bytes ← Decoder.rawBytes attributes bindings
        return .raw ⟨attributes, members, itemType⟩ bytes.length bytes
      | .elements => do
        let total ← Decoder.sizeOf attributes bindings
        let items ← Decoder.elements (decodeItem itemType) total total 0 []
        return .elements ⟨attributes, members, itemType⟩ (Value.encodeAll items).length items
termination_by structural f

/-- Reads an element of an array. -/
def decodeItem (f : Option Field) (bindings : Bindings) : Decoder Value :=
  match f with
  | none => throw .noItemType
  | some f => decodeField f bindings
termination_by structural f

/-- Reads members behind the bytes of those before. -/
def decodeMembers (fs : List Field) (run : List UInt8) : Decoder (List Value) :=
  match fs with
  | [] => pure []
  | f :: rest => do
    let v ← decodeField f (Expression.bindBytes run)
    return v :: (← decodeMembers rest (run ++ v.encode))
termination_by structural fs

end

/-- Reads a field behind its address, which is counted from where the source is. -/
def decode (f : Field) (bindings : Bindings) : Decoder Value := do
  match f.address with
  | some address => discard <| Decoder.within f.name (Decoder.read address)
  | none => pure ()
  decodeField f bindings

/-- Reads a field from the start of an image that is kept in a file. -/
def decodeFile (image : List UInt8) (f : Field) (bindings : Bindings) :
    Except DecodeFault Value :=
  (decode f bindings (Source.ofFile image)).1

end GameAtlas.Image
