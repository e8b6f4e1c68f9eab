import GameAtlas.Schema.Game
import GameAtlas.Schema.Size
import GameAtlas.Text.Numeral

/-!
Addresses: the root fields that they belong to, and labels that say where in a field they lie.
-/

namespace GameAtlas.Schema

open Expression (BareFault)

variable [Host]

namespace Field

/-- The offset of an address within a field of a known size, if the field holds it. The size is
looked at only if the field does not start behind the address. -/
def offsetOf? (f : Field) (address : Int) : Except BareFault (Option Int) :=
  match f.address with
  | none => .ok none
  | some start =>
    if address < start then .ok none
    else do
      match ← SizeError.optional f.staticSize with
      | some size => return if address < start + size then some (address - start) else none
      | none => return none

end Field

namespace Game

/-- The name of the first entry that starts at an address. -/
def nameAt? (g : Game) (address : Int) : Option String :=
  (g.entries.find? fun f => f.address == some address).map fun f => f.name

/-- The first of the fields that holds an address, with the offset there. -/
def firstHolding (address : Int) : List Field → Except BareFault (Option (Field × Int))
  | [] => .ok none
  | f :: rest => do
    match ← f.offsetOf? address with
    | some offset => return some (f, offset)
    | none => firstHolding address rest

/-- The first entry that holds an address. -/
def containing? (g : Game) (address : Int) : Except BareFault (Option Field) :=
  (firstHolding address g.entries).map fun found => found.map Prod.fst

end Game

/-- Why a place has no label: an array of nothing has no elements to count, and a size may have a
fault that is no finding about it. -/
inductive LabelFault where
  | noItemType
  | bare (fault : BareFault)
deriving DecidableEq, Repr

def LabelFault.message : LabelFault → String
  | .noItemType => "'NoneType' object has no attribute 'size'"
  | .bare fault => fault.message

namespace Field

/-- The label of a place in an array: its own label, the index of its element, or the offset where
elements have no size. -/
def elementLabel (f : Field) (offset : Int) : Except LabelFault String :=
  match Keyed.get? offset f.labels with
  | some label => .ok s!"{f.name}[{label}]"
  | none =>
    match f.itemType.map fun item => SizeError.optional item.staticSize with
    | none => .error .noItemType
    | some (.error fault) => .error (.bare fault)
    | some (.ok size) =>
      let index := if size.getD 0 = 0 then offset else offset.fdiv (size.getD 0)
      .ok s!"{f.name}[{index}]"

/-- The label of a place in a field. -/
def label (f : Field) (offset : Int) : Except LabelFault String :=
  if f.kind = .array then f.elementLabel offset
  else if offset = 0 then .ok f.name
  else
    match Keyed.get? offset f.labels with
    | some label => .ok s!"{f.name}#{label}"
    | none => .ok s!"{f.name}+{offset}"

end Field

/-- The label of an address: in hexadecimal digits if no entry holds it. -/
def Game.label (g : Game) (address : Int) : Except LabelFault String :=
  match Game.firstHolding address g.entries with
  | .error fault => .error (.bare fault)
  | .ok none => .ok (Text.signedUpperHex address)
  | .ok (some (f, offset)) => f.label offset

end GameAtlas.Schema
