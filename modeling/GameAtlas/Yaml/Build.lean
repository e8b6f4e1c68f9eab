import GameAtlas.Text.Numeral
import GameAtlas.Yaml.Node

/-!
Nodes that are made to be written: scalars that hold a text or a number, and collections in blocks,
with the tags that go without saying.
-/

namespace GameAtlas.Yaml.Node

/-- A scalar that holds a text. -/
def ofText (s : String) : Node := text Tag.str s

/-- A scalar that holds a number in decimal digits. -/
def ofInt (n : Int) : Node := text Tag.int (toString n)

/-- A scalar that holds a number in hexadecimal digits, with the sign behind the mark. -/
def ofHex (n : Int) : Node := text Tag.int ("0x" ++ Text.signedUpperHex n)

/-- A scalar that holds a truth value. -/
def ofBool (b : Bool) : Node := text Tag.bool (if b then "true" else "false")

def ofItems (items : List Node) : Node := .sequence Tag.seq items false none

def ofPairs (pairs : List (Node × Node)) : Node := .mapping Tag.map pairs false none

end GameAtlas.Yaml.Node
