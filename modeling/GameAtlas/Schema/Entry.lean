import GameAtlas.Schema.Reading
import GameAtlas.Schema.Size
import GameAtlas.Schema.View

/-!
Fields from the nodes that describe them. A node names its kind by a tag, or in the older way under
a key. What a description lacks or has wrong becomes an issue of the field; a key whose value does
not fit leaves the field as it is.
-/

namespace GameAtlas.Schema

open Yaml (Node)

variable [Host]

/-- What stands under a key: a plain value, or the fields that it describes. -/
inductive Part where
  | value (n : Node)
  | members (fields : Reading (List Field))
  | item (field : Construction Field)

/-- A value as the text of a scalar, empty for all else. -/
def Part.scalarText : Part → String
  | .value (.scalar _ text _ _) => text
  | _ => ""

/-! ### Attributes -/

namespace Field

/-- The field after a value was read, and what kept the value from being taken. -/
abbrev Outcome := Field × Option Obstacle

/-- Takes a value; a field without it stays as it is. -/
def take {α : Type} (f : Field) (reading : Reading α) (set : α → Field) : Outcome :=
  match reading with
  | .ok a => (set a, none)
  | .error obstacle => (f, some obstacle)

/-- Reads the byte order: one of two words, whatever the capitals. -/
def endiannessOf (n : Node) : Reading Endianness := do
  let word := Text.toLower (Text.trim (← Reading.text n))
  if word = "little" then return .little
  else if word = "big" then return .big
  else Reading.refuse .endianness

/-- Reads the value of a key that holds no fields. -/
def setValue (f : Field) (key : Key) (n : Node) : Outcome :=
  match key with
  | .name => f.take (Reading.text n) fun s => { f with name := s }
  | .prettyName => f.take (Reading.text n) fun s => { f with prettyName := s }
  | .description => f.take (Reading.text n) fun s => { f with description := s }
  | .notes => f.take (Reading.text n) fun s => { f with notes := s }
  | .offset => f.take (Reading.offset n) fun a => { f with address := some a }
  | .size => f.take (Reading.size n) fun s => { f with size := some s }
  | .signed => f.take (Reading.bool n) fun b => { f with signed := b }
  | .base =>
    if f.kind = .pointer then f.take (Reading.integer n) fun b => { f with pointerBase := b }
    else f.take (Reading.numberBase n) fun b => { f with numberBase := b }
  | .endianness => f.take (endiannessOf n) fun e => { f with endianness := e }
  | .values => f.take (Reading.values n) fun m => { f with values := m }
  | .bitValues => f.take (Reading.texts n) fun names => { f with bitValues := names }
  | .charset => f.take (Reading.text n) fun s => { f with charset := s }
  | .format => f.take (Reading.text n) fun s => { f with format := s }
  | .terminator => f.take (Reading.bytes n) fun bs => { f with terminator := bs }
  | .references => f.take (Reading.text n) fun s => { f with references := s }
  | .labels => f.take (Reading.places n) fun m => { f with labels := m }
  | .locals => f.take (Reading.places n) fun m => { f with locals := m }
  | .arguments => f.take (Reading.textMap n) fun m => { f with arguments := m }
  | .initialState => f.take (Reading.textMap n) fun m => { f with initialState := m }
  | .finalState => f.take (Reading.textMap n) fun m => { f with finalState := m }
  | .returnValues => f.take (Reading.textMap n) fun m => { f with returnValues := m }
  | .labelStates =>
    match n with
    | .sequence _ items _ _ =>
      let (states, obstacle) := Reading.labelStates items f.labelStates
      ({ f with labelStates := states }, obstacle)
    | _ => (f, some (.complaint .notSequence))
  | .type | .entries | .itemType => (f, none)

/-- The elements of an array are placed by the array. -/
def checkItem (item : Field) : Field :=
  if item.address.isSome then
    item.addIssue (.severe "Array item type has an offset"
      "Remove Offset; elements are positioned by the array")
  else item

/-- Reads what stands under a key. -/
def set (f : Field) (key : Key) (part : Part) : Outcome :=
  match part with
  | .value n => f.setValue key n
  | .members fields => f.take fields fun members => { f with members := members }
  | .item field =>
    f.take (Reading.ofConstruction field) fun item => { f with itemType := some (checkItem item) }

/-! ### Checks of whole fields -/

/-- Canonical names are made of capitals, digits and underscores. A line feed at the end is not
looked at. -/
def isCanonicalName (name : String) : Bool :=
  let cs := Text.withoutLastLineFeed name.toList
  !cs.isEmpty && cs.all fun c => c.isUpper || c.isDigit || c == '_'

/-- The issues of a member of a struct. `seen` are the names of the members before. -/
def memberIssues (seen : List String) (member : Field) : List Issue :=
  (if member.address.isSome then
    [.severe s!"Nested entry '{member.name}' has an offset"
      "Remove Offset; members are positioned by the struct"] else []) ++
  (if member.name = "" then [.incomplete "Struct member has no name" "Add a Name"]
   else
    (if seen.contains member.name then
      [.severe s!"Duplicate entry name '{member.name}'" "Rename one of the entries"] else []) ++
    (if isCanonicalName member.name then []
     else
      [.incomplete s!"Entry name '{member.name}' is not uppercase"
        "Use an uppercase name and move the display name to Pretty Name"]))

def checkMembers (seen : List String) : List Field → List Field
  | [] => []
  | member :: rest =>
    { member with issues := member.issues ++ memberIssues seen member } ::
      checkMembers (member.name :: seen) rest

/-- The most bytes that a pointer may have. -/
def maxPointerSize : Nat := 8

/-- What is wrong with the size of a pointer. -/
def pointerIssues (f : Field) : Construction (List Issue) :=
  if f.size.isNone then .ok []
  else
    match f.resolvedSize [] with
    | .error e =>
      match e.bare? with
      | some fault => .error (.bare fault)
      | none => .ok [.severe s!"Unable to resolve pointer size: {e.message}" "Fix the Size"]
    | .ok size =>
      if maxPointerSize < size then
        match Host.writingFault? size with
        | some fault => .error (.bare (.digits fault))
        | none => .ok [.severe s!"Pointer size {size} exceeds {maxPointerSize} bytes"
            "Use an integer or array for larger data"]
      else .ok []

/-- What an array repeats if its definition does not say. -/
def defaultItem : Field := { kind := .undefined, size := some "1" }

/-- Looks at a field as a whole when its keys are read. -/
def check (f : Field) : Construction Field :=
  match f.kind with
  | .struct => .ok { f with members := checkMembers [] f.members }
  | .array =>
    .ok <| if f.itemType.isSome then f
    else
      { f with itemType := some defaultItem }.addIssue
        (.incomplete "Array has no item type" "Add an Item Type; one-byte elements assumed")
  | .pointer => do return { f with issues := f.issues ++ (← f.pointerIssues) }
  | _ => .ok f

/-! ### Fields from views -/

def meaningless (key : Key) (kind : Kind) : Issue :=
  let reason := s!"'{key.text}' is meaningless in this context ({kind.name})"
  let fix := s!"Remove '{key.text}'"
  if key.isStructural then .severe reason fix else .incomplete reason fix

/-- Reads one pair of a view. -/
def read (f : Field) (text : String) (part : Part) : Construction Field :=
  match Key.ofText? text with
  | none => .ok (f.addIssue (.incomplete s!"Unknown key '{text}'" "Remove or correct the key"))
  | some .type =>
    .ok (f.addIssue
      (.incomplete "Type key is redundant on a tagged entry" "Remove the Type key"))
  | some key =>
    if f.kind.admits key then
      match f.set key part with
      | (f, none) => .ok f
      | (f, some (.complaint c)) =>
        .ok (f.addIssue (.severe s!"Invalid {key.text}: {c.message}" s!"Fix the {key.text} value"))
      | (_, some (.fault fault)) => .error (.conversion fault)
    else .ok (f.addIssue (meaningless key f.kind))

def readAll (f : Field) : Keyed String Part → Construction Field
  | [] => .ok f
  | (text, part) :: rest => do readAll (← f.read text part) rest

/-- A field of a kind from its view. -/
def ofView (kind : Kind) (pairs : Keyed String Part) (issues : List Issue) :
    Construction Field := do
  let f ← readAll { kind := kind, issues := issues } pairs
  f.check

/-- What stands in for a description that cannot be read. -/
def undefined (issue : Issue) : Field := { kind := .undefined, issues := [issue] }

/-- A field of a tagged node. `pairs` is what the node holds if it is a mapping; a tag alone counts
as an empty one. -/
def ofTagged (tag : String) (pairs : Option (List (String × Part))) : Construction Field :=
  match Kind.ofTag? tag, pairs with
  | none, _ =>
    let known := ", ".intercalate (Kind.tags.map fun p => "!" ++ p.1)
    .ok (undefined (.severe s!"Unknown tag '!{tag}'" s!"Use one of: {known}"))
  | some _, none =>
    .ok (undefined (.severe s!"Entry tagged '!{tag}' must be a mapping"
      "Describe the entry as a mapping"))
  | some kind, some pairs =>
    let view := View.ofPairs pairs
    ofView kind view.pairs view.issues

/-- A field of a node without a tag, which names its kind under a key. -/
def ofUntagged (pairs : Option (List (String × Part))) : Construction Field :=
  match pairs with
  | none =>
    .ok (undefined (.severe "Entry must be a mapping" "Describe the entry as a mapping"))
  | some pairs =>
    let view := View.ofPairs pairs
    match Keyed.get? Key.type.text view.pairs with
    | none => .ok (undefined (.severe "Missing Type" "Tag the entry with its kind, e.g. !int"))
    | some part =>
      let name := part.scalarText
      match Kind.ofTag? name with
      | none => .ok (undefined (.severe s!"Invalid type: {name}" "Use a known type"))
      | some kind =>
        let issue := Issue.incomplete "Untagged legacy entry"
          s!"Replace 'Type: {name}' with a !{kind.tag} tag"
        ofView kind (Keyed.erase Key.type.text view.pairs) (view.issues ++ [issue])

/-- A field from a tag and the pairs of a mapping, none for another node. -/
def ofParts (tag : String) (pairs : Option (List (String × Part))) : Construction Field :=
  match Yaml.Tag.local? tag with
  | some name => ofTagged name pairs
  | none => ofUntagged pairs

/-! ### Fields from nodes -/

/-- A struct's members under their keys, which are their names. -/
def named (name : String) (f : Field) : Field := { f with name := name }

mutual

/-- The field that a node describes. -/
def ofNode (n : Node) : Construction Field :=
  match n with
  | .mapping tag pairs _ _ => ofParts tag (some (partsOf pairs))
  | .scalar tag text _ _ =>
    ofParts tag (if text = "" && (Yaml.Tag.local? tag).isSome then some [] else none)
  | .sequence tag _ _ _ => ofParts tag none
termination_by structural n

/-- What stands under the keys of a description. -/
def partsOf (pairs : List (Node × Node)) : List (String × Part) :=
  match pairs with
  | [] => []
  | (k, v) :: rest =>
    let part :=
      match Key.ofText? (Key.canonical k.keyText) with
      | some .entries => .members (membersOf v)
      | some .itemType => .item (ofNode v)
      | _ => .value v
    (k.keyText, part) :: partsOf rest
termination_by structural pairs

/-- Members of a struct: a mapping from names, or a sequence of fields that may have names. -/
def membersOf (n : Node) : Reading (List Field) :=
  match n with
  | .mapping _ pairs _ _ => Reading.ofConstruction (namedMembers pairs)
  | .sequence _ items _ _ => Reading.ofConstruction (plainMembers items)
  | .scalar .. => Reading.refuse .notCollection
termination_by structural n

def namedMembers (pairs : List (Node × Node)) : Construction (List Field) :=
  match pairs with
  | [] => .ok []
  | (k, v) :: rest => do
    let f ← ofNode v
    return f.named k.keyText :: (← namedMembers rest)
termination_by structural pairs

def plainMembers (items : List Node) : Construction (List Field) :=
  match items with
  | [] => .ok []
  | n :: rest => do
    let f ← ofNode n
    return f :: (← plainMembers rest)
termination_by structural items

end

/-- A root field; it needs an address, and a size unless it is a struct. -/
def rootOfNode (name : String) (n : Node) : Construction Field := do
  let f := (← ofNode n).named name
  let f := if f.address.isNone then
      f.addIssue (.severe "Required offset key missing" "Add an Offset") else f
  return if f.size.isNone && f.kind != .struct then
      f.addIssue (.incomplete "Missing size" "Add a Size") else f

end Field

end GameAtlas.Schema
