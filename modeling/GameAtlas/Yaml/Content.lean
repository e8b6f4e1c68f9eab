import GameAtlas.Yaml.Scalar
import GameAtlas.Yaml.Writer

/-!
What nodes hold, asked for as a value, a text, an integer, a truth value or a key. A scalar with a
local tag holds its text.
-/

namespace GameAtlas.Yaml

namespace Node

/-- The kind of a node as messages name it. -/
def kindName : Node → String
  | .scalar .. => "scalar"
  | .sequence .. => "sequence"
  | .mapping .. => "mapping"

/-! ### Nodes in messages -/

mutual

/-- How messages show a node. -/
def shown (n : Node) : String :=
  match n with
  | .scalar tag text _ _ => s!"ScalarNode(tag={Text.quoted tag}, value={Text.quoted text})"
  | .sequence tag items _ _ =>
    s!"SequenceNode(tag={Text.quoted tag}, value={Text.bracketed (shownItems items)})"
  | .mapping tag pairs _ _ =>
    s!"MappingNode(tag={Text.quoted tag}, value={Text.bracketed (shownPairs pairs)})"
termination_by structural n

def shownItems (ns : List Node) : List String :=
  match ns with
  | [] => []
  | n :: rest => shown n :: shownItems rest
termination_by structural ns

def shownPairs (ps : List (Node × Node)) : List String :=
  match ps with
  | [] => []
  | (k, v) :: rest => s!"({shown k}, {shown v})" :: shownPairs rest
termination_by structural ps

end

/-- How messages show what a node is made of, without its tag. -/
def shownContent : Node → String
  | .scalar _ text _ _ => Text.quoted text
  | .sequence _ items _ _ => Text.bracketed (shownItems items)
  | .mapping _ pairs _ _ => Text.bracketed (shownPairs pairs)

/-! ### Values -/

end Node

/-- A key of a mapping; collections are none. -/
def Datum.checkKey : Datum → Conversion Unit
  | .list _ => .error (.unhashable "list")
  | .dict _ => .error (.unhashable "dict")
  | _ => .ok ()

variable [Host]

/-- The text of a value, if the host writes its integers. -/
def Datum.written (d : Datum) : Conversion String :=
  match d.digitFault? with
  | some fault => misfit (.digits fault)
  | none => .ok d.toText

/-- The value of a scalar by its tag. -/
def scalarValue (tag text : String) : Conversion Datum :=
  if (Tag.local? tag).isSome then .ok (.text text) else scalarDatum tag text

namespace Node

mutual

/-- The value of a node. -/
def datum (n : Node) : Conversion Datum :=
  match n with
  | .scalar tag text _ _ => scalarValue tag text
  | .sequence _ items _ _ => do return .list (← itemData items)
  | .mapping _ pairs _ _ => do return .dict (← pairData [] pairs)
termination_by structural n

def itemData (ns : List Node) : Conversion (List Datum) :=
  match ns with
  | [] => .ok []
  | n :: rest => do
    let d ← datum n
    return d :: (← itemData rest)
termination_by structural ns

/-- Adds pairs to those that stand before them. A key is looked at after its value. -/
def pairData (before : List (Datum × Datum)) (ps : List (Node × Node)) :
    Conversion (List (Datum × Datum)) :=
  match ps with
  | [] => .ok before
  | (k, v) :: rest => do
    let key ← datum k
    let value ← datum v
    key.checkKey
    pairData (Datum.put key value before) rest
termination_by structural ps

end

/-- The text of the value of a node. -/
def valueText (n : Node) : Conversion String := do (← n.datum).written

/-- The text of a scalar as it stands. -/
def scalarText : Node → Conversion String
  | .scalar _ text _ _ => .ok text
  | n => misfit (.notScalar n.kindName)

/-- The value of a node as far as it is a scalar. -/
def scalarDatum? : Node → Conversion (Option Datum)
  | .scalar tag text _ _ => (scalarValue tag text).map some
  | _ => .ok none

/-- The integer in a scalar: an integer by its tag, or a text that spells one with a base mark. -/
def integer (n : Node) : Conversion Int := do
  match ← n.scalarDatum? with
  | none | some .null | some (.bool _) => misfit (.notInteger n.shownContent)
  | some (.integer i) => return i
  | some d =>
    match Text.readMarkedInteger? (Text.trim d.toText) with
    | some i => return i
    | none => misfit (.notInteger d.shown)

/-- The truth value in a scalar; the letters `y` and `n` count as well. -/
def bool (n : Node) : Conversion Bool := do
  match ← n.scalarDatum? with
  | some (.bool b) => return b
  | some (.text s) =>
    if Text.toLower s = "y" then return true
    else if Text.toLower s = "n" then return false
    else misfit (.notBool n.shownContent)
  | _ => misfit (.notBool n.shownContent)

/-- Keys that are no scalars are written without characters beyond ASCII. -/
def keyStyle : Style := { unicode := false, marked := false }

/-- A key as a text; a collection as it is written. -/
def keyText : Node → String
  | .scalar _ text _ _ => text
  | n => Text.trim (write keyStyle [n])

end Node

end GameAtlas.Yaml
