/-!
Kinds of fields, the tags that name them, and the groups that share a form of value.
-/

namespace GameAtlas.Schema

inductive Kind where
  | integer
  | pointer
  | struct
  | array
  | bitfield
  | tile
  | color
  | assembly
  | script
  | null
  | undefined
deriving DecidableEq, Repr

namespace Kind

/-- The name of a kind in messages. -/
def name : Kind → String
  | .integer => "integer"
  | .pointer => "pointer"
  | .struct => "struct"
  | .array => "array"
  | .bitfield => "bitfield"
  | .tile => "tile"
  | .color => "color"
  | .assembly => "assembly"
  | .script => "script"
  | .null => "null"
  | .undefined => "undefined"

/-- The tag that schemas are written with. -/
def tag : Kind → String
  | .integer => "int"
  | k => k.name

/-- Every name that a schema may give a kind by. -/
def tags : List (String × Kind) :=
  [("int", .integer), ("integer", .integer), ("pointer", .pointer), ("struct", .struct),
   ("array", .array), ("bitfield", .bitfield), ("tile", .tile), ("color", .color),
   ("assembly", .assembly), ("script", .script), ("null", .null), ("undefined", .undefined),
   ("unknown", .undefined), ("empty", .undefined)]

def ofTag? (tag : String) : Option Kind := tags.lookup tag

/-- The forms that values take. -/
inductive Form where
  | number
  | raw
  | elements
  | members
deriving DecidableEq, Repr

def form : Kind → Form
  | .integer | .pointer | .bitfield => .number
  | .array => .elements
  | .struct => .members
  | .tile | .color | .assembly | .script | .null | .undefined => .raw

end Kind

end GameAtlas.Schema
