import GameAtlas.Schema.Kind
import GameAtlas.Text.CaseMapping

/-!
The keys of an entry: their canonical spellings, the older spellings that stand for them, and the
kinds that have a use for them.
-/

namespace GameAtlas.Schema

inductive Key where
  | type
  | name
  | prettyName
  | description
  | notes
  | offset
  | size
  | signed
  | base
  | endianness
  | values
  | bitValues
  | charset
  | format
  | terminator
  | references
  | labels
  | locals
  | entries
  | itemType
  | arguments
  | initialState
  | finalState
  | returnValues
  | labelStates
deriving DecidableEq, Repr

namespace Key

/-- The canonical spelling. -/
def text : Key → String
  | .type => "Type"
  | .name => "Name"
  | .prettyName => "Pretty Name"
  | .description => "Description"
  | .notes => "Notes"
  | .offset => "Offset"
  | .size => "Size"
  | .signed => "Signed"
  | .base => "Base"
  | .endianness => "Endianness"
  | .values => "Values"
  | .bitValues => "Bit Values"
  | .charset => "Charset"
  | .format => "Format"
  | .terminator => "Terminator"
  | .references => "References"
  | .labels => "Labels"
  | .locals => "Locals"
  | .entries => "Entries"
  | .itemType => "Item Type"
  | .arguments => "Arguments"
  | .initialState => "Initial State"
  | .finalState => "Final State"
  | .returnValues => "Return Values"
  | .labelStates => "Label States"

def all : List Key :=
  [.type, .name, .prettyName, .description, .notes, .offset, .size, .signed, .base, .endianness,
   .values, .bitValues, .charset, .format, .terminator, .references, .labels, .locals, .entries,
   .itemType, .arguments, .initialState, .finalState, .returnValues, .labelStates]

/-- The key of a canonical spelling. -/
def ofText? (s : String) : Option Key := all.find? fun k => k.text == s

/-- Older names in small letters. -/
def aliases : List (String × Key) :=
  [("address", .offset), ("character set", .charset), ("local variables", .locals),
   ("endian", .endianness)]

/-- The key of a spelling in small letters. -/
def ofSmall? (s : String) : Option Key :=
  match aliases.lookup s with
  | some k => some k
  | none => all.find? fun k => Text.toLower k.text == s

/-- The canonical form of a key, whatever its capitals; an unknown one stays as it is. -/
def canonical (s : String) : String :=
  match ofSmall? (Text.toLower s) with
  | some k => k.text
  | none => s

/-- Keys of every kind. -/
def isCommon : Key → Bool
  | .name | .prettyName | .description | .notes | .offset | .size | .terminator | .references
  | .labels => true
  | _ => false

/-- Keys that hold whole fields. -/
def isStructural : Key → Bool
  | .entries | .itemType => true
  | _ => false

end Key

/-- The keys that one kind has beyond the common ones. -/
def Kind.keys : Kind → List Key
  | .integer => [.signed, .base, .endianness, .values, .bitValues]
  | .pointer => [.signed, .base, .endianness]
  | .bitfield => [.endianness, .bitValues]
  | .struct => [.entries]
  | .array => [.itemType]
  | .tile | .color => [.format]
  | .assembly => [.locals, .arguments, .initialState, .finalState, .returnValues, .labelStates]
  | .script => [.charset]
  | .null | .undefined => []

/-- Whether a kind has a use for a key. -/
def Kind.admits (kind : Kind) (key : Key) : Bool := key.isCommon || kind.keys.contains key

end GameAtlas.Schema
