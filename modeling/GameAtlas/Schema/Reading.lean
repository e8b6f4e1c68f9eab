import GameAtlas.Data.Keyed
import GameAtlas.Expression.Basic
import GameAtlas.Yaml.Content

/-!
Values of attributes read from nodes. A value that does not fit its key is a complaint; other faults
of conversion end the reading of the schema.
-/

namespace GameAtlas.Schema

open Yaml (Node Misfit Conversion ConversionFault)

/-- Why a value does not fit its key. -/
inductive Complaint where
  | misfit (m : Misfit)
  | notMapping
  | notSequence
  | notNameSequence
  | unnamedPlace
  | byteRange (values : List Int)
  | negativeOffset (offset : Int)
  | notSize
  | emptySize
  | numberBase
  | endianness
  | notCollection
  | stateWithoutOffset
  | bare (fault : Expression.BareFault)
deriving DecidableEq, Repr

def Complaint.message : Complaint → String
  | .misfit m => m.message
  | .notMapping => "must be a mapping"
  | .notSequence => "must be a sequence"
  | .notNameSequence => "must be a sequence of Offset/Name mappings"
  | .unnamedPlace => "every item needs Offset and Name"
  | .byteRange values =>
    "byte values must be 0-255: " ++ Text.bracketed (values.map toString)
  | .negativeOffset offset => s!"negative offset {offset}"
  | .notSize => "must be a number or a size expression"
  | .emptySize => "size is empty"
  | .numberBase => "number base must be one of (2, 8, 10, 16)"
  | .endianness => "must be Little or Big"
  | .notCollection => "must be a mapping or a sequence"
  | .stateWithoutOffset => "every label state needs an Offset"
  | .bare fault => fault.message

/-- Why no field can be made of a node: a value that cannot be converted, or a fault of a size that
is no finding about it. -/
inductive FieldFault where
  | conversion (f : ConversionFault)
  | bare (fault : Expression.BareFault)

def FieldFault.message : FieldFault → String
  | .conversion f => f.message
  | .bare fault => fault.message

/-- Fields on the way from nodes. -/
abbrev Construction := Except FieldFault

/-- What keeps a value from being read: a complaint, which becomes an issue, or a fault. -/
inductive Obstacle where
  | complaint (c : Complaint)
  | fault (f : ConversionFault)

/-- Values on the way from nodes. -/
abbrev Reading := Except Obstacle

variable [Host]

namespace Reading

def refuse {α : Type} (c : Complaint) : Reading α := .error (.complaint c)

/-- A misfit is a complaint about the value. -/
def ofConversion {α : Type} : Conversion α → Reading α
  | .ok a => .ok a
  | .error (.misfit m) => refuse (.misfit m)
  | .error fault => .error (.fault fault)

/-- A field within a field. What its own check refuses is a complaint about the value. -/
def ofConstruction {α : Type} : Construction α → Reading α
  | .ok a => .ok a
  | .error (.conversion f) => ofConversion (.error f)
  | .error (.bare fault) => refuse (.bare fault)

def text (n : Node) : Reading String := ofConversion n.scalarText

def integer (n : Node) : Reading Int := ofConversion n.integer

def bool (n : Node) : Reading Bool := ofConversion n.bool

/-- Sets keys of a map to the texts of values. -/
def textPairs : List (Node × Node) → Keyed String String → Conversion (Keyed String String)
  | [], m => .ok m
  | (k, v) :: rest, m => do textPairs rest (Keyed.put k.keyText (← v.valueText) m)

/-- A mapping from texts to texts. -/
def textMap : Node → Reading (Keyed String String)
  | .mapping _ pairs _ _ => ofConversion (textPairs pairs [])
  | _ => refuse .notMapping

/-- A named place. The name is looked at first. -/
def place : Node → Reading (Int × String)
  | .mapping _ pairs _ _ =>
    match Node.get? "Offset" pairs, Node.get? "Name" pairs with
    | some offset, some name => do
      let name ← text name
      return (← integer offset, name)
    | _, _ => refuse .unnamedPlace
  | _ => refuse .unnamedPlace

/-- Named places: a sequence of mappings with an offset and a name. -/
def places : Node → Reading (Keyed Int String)
  | .sequence _ items _ _ => do return Keyed.ofPairs (← items.mapM place)
  | _ => refuse .notNameSequence

/-- One byte or a sequence of bytes. -/
def bytes (n : Node) : Reading (List UInt8) := do
  let items := match n with
    | .sequence _ items _ _ => items
    | n => [n]
  let values ← items.mapM integer
  if values.all fun v => 0 ≤ v && v ≤ 0xFF then return values.map fun v => UInt8.ofNat v.toNat
  else refuse (.byteRange values)

def offset (n : Node) : Reading Int := do
  let offset ← integer n
  if offset < 0 then refuse (.negativeOffset offset) else return offset

/-- The text of a size; numbers are written in decimal digits. -/
def size : Node → Reading String
  | .scalar tag text _ _ => do
    let d ← ofConversion (Yaml.scalarValue tag text)
    match d with
    | .null => refuse .emptySize
    | d => do
      let s ← ofConversion d.written
      if Text.trim s = "" then refuse .emptySize else return s
  | _ => refuse .notSize

/-- The bases that integers are shown in. -/
def numberBases : List Int := [2, 8, 10, 16]

def numberBase (n : Node) : Reading Int := do
  let base ← integer n
  if numberBases.contains base then return base else refuse .numberBase

def valuePair : Node × Node → Reading (Int × String)
  | (k, v) => do return (← integer k, ← text v)

/-- Names of values: a mapping, or a sequence of the names from zero on. -/
def values : Node → Reading (Keyed Int String)
  | .mapping _ pairs _ _ => do return Keyed.ofPairs (← pairs.mapM valuePair)
  | .sequence _ items _ _ => do
    return ((← items.mapM text).zipIdx).map fun (name, i) => ((i : Int), name)
  | .scalar .. => refuse .notCollection

def texts : Node → Reading (List String)
  | .sequence _ items _ _ => items.mapM text
  | _ => refuse .notSequence

/-- The state at a label: its place, and the rest of the mapping. -/
def labelState (n : Node) : Reading (String × Keyed String String) := do
  let states ← textMap n
  match Keyed.get? "Offset" states with
  | some offset => return (offset, Keyed.erase "Offset" states)
  | none => refuse .stateWithoutOffset

/-- Sets the states at labels up to the first that does not fit, and says what is wrong with it. -/
def labelStates : List Node → Keyed String (Keyed String String) →
    Keyed String (Keyed String String) × Option Obstacle
  | [], m => (m, none)
  | n :: rest, m =>
    match labelState n with
    | .ok (offset, states) => labelStates rest (Keyed.put offset states m)
    | .error obstacle => (m, some obstacle)

end Reading

end GameAtlas.Schema
