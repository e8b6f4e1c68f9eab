import GameAtlas.Schema.Game
import GameAtlas.Schema.Key
import GameAtlas.Script.Description
import GameAtlas.Text.DecimalDigit
import GameAtlas.Yaml.Writer

/-!
Schemas written as nodes and as text: every kind by its tag, every key in its canonical spelling,
and nothing that is as it would be without mention.
-/

namespace GameAtlas.Schema

open Yaml (Node)

/-- A pair of a description. -/
abbrev Pair := Node × Node

namespace Describe

def pair (key : Key) (value : Node) : Pair := (.ofText key.text, value)

def pairIf (present : Bool) (key : Key) (value : Node) : List Pair :=
  if present then [pair key value] else []

def textPair (key : Key) (s : String) : List Pair := pairIf (s != "") key (.ofText s)

def textMap (m : Keyed String String) : Node :=
  .ofPairs (m.map fun (k, v) => (.ofText k, .ofText v))

def mapPair (key : Key) (m : Keyed String String) : List Pair :=
  pairIf (!m.isEmpty) key (textMap m)

/-- Named places. -/
def places (m : Keyed Int String) : Node :=
  .ofItems (m.map fun (offset, name) =>
    .ofPairs [(.ofText "Offset", .ofHex offset), (.ofText "Name", .ofText name)])

/-- The number of a size that is nothing but decimal digits. A line feed at the end is not looked
at. -/
def plainSize? (size : String) : Option Nat :=
  let cs := Text.withoutLastLineFeed size.toList
  if !cs.isEmpty && cs.all Text.isDecimalDigit then
    some (cs.foldl (fun n c => n * 10 + (Text.decimalDigit? c).getD 0) 0)
  else none

def sizeNode (size : String) : Node :=
  match plainSize? size with
  | some n => .ofInt n
  | none => .ofText size

/-- What a number is shown or counted from. -/
def basePairs (a : Attributes) : List Pair :=
  match a.kind with
  | .integer => pairIf (a.numberBase != 10) .base (.ofInt a.numberBase)
  | .pointer => pairIf (a.pointerBase != 0) .base (.ofHex a.pointerBase)
  | _ => []

def signedPairs (a : Attributes) : List Pair :=
  pairIf (a.signed && (a.kind == .integer || a.kind == .pointer)) .signed (.ofBool true)

def optionPair {α : Type} (key : Key) (a : Option α) (node : α → Node) : List Pair :=
  match a with
  | some a => [pair key (node a)]
  | none => []

def labelStates (m : Keyed String (Keyed String String)) : Node :=
  .ofItems (m.map fun (offset, states) =>
    .ofPairs ((.ofText "Offset", .ofText offset) ::
      states.map fun (k, v) => (.ofText k, .ofText v)))

/-- The pairs of a field but for its name and the fields within it. -/
def attributePairs (a : Attributes) : List Pair :=
  textPair .prettyName a.prettyName ++
    textPair .description a.description ++
    textPair .notes a.notes ++
    optionPair .offset a.address .ofHex ++
    optionPair .size a.size sizeNode ++
    signedPairs a ++
    basePairs a ++
    pairIf (a.endianness == .big) .endianness (.ofText "Big") ++
    pairIf (!a.values.isEmpty) .values
      (.ofPairs (a.values.map fun (n, name) => (.ofInt n, .ofText name))) ++
    pairIf (!a.bitValues.isEmpty) .bitValues (.ofItems (a.bitValues.map .ofText)) ++
    textPair .charset a.charset ++
    textPair .format a.format ++
    pairIf (!a.terminator.isEmpty) .terminator (.ofItems (a.terminator.map Script.byteNode)) ++
    textPair .references a.references ++
    pairIf (!a.labels.isEmpty) .labels (places a.labels) ++
    pairIf (!a.locals.isEmpty) .locals (places a.locals) ++
    mapPair .arguments a.arguments ++
    mapPair .initialState a.initialState ++
    mapPair .finalState a.finalState ++
    mapPair .returnValues a.returnValues ++
    pairIf (!a.labelStates.isEmpty) .labelStates (labelStates a.labelStates)

/-- What keeps the numbers of a description from being written. A size is read for that. -/
def numberFault? [Host] (a : Attributes) : Option DigitFault :=
  (a.size.bind fun size => (plainSize? size).bind fun _ =>
      Host.readingFault? (Text.withoutLastLineFeed size.toList).length) <|>
    (if a.kind = .integer then Host.writingFault? a.numberBase else none) <|>
    a.values.findSome? fun (n, _) => Host.writingFault? n

end Describe

namespace Field

open Describe

mutual

/-- The node of a field, with its name among the pairs or without. -/
def toNode (withName : Bool) (f : Field) : Node :=
  match f with
  | ⟨attributes, members, itemType⟩ =>
    let pairs :=
      (if withName then textPair .name attributes.name else []) ++
        attributePairs attributes ++
        (if attributes.kind = .struct && !members.isEmpty then
          let entries :=
            if members.all fun m => m.name != "" then .ofPairs (namedNodes members)
            else .ofItems (memberNodes members)
          [pair .entries entries]
        else []) ++
        (if attributes.kind = .array then itemPairs itemType else [])
    .mapping ("!" ++ attributes.kind.tag) pairs false none
termination_by structural f

/-- Members under their names. -/
def namedNodes (fs : List Field) : List Pair :=
  match fs with
  | [] => []
  | f :: rest => (.ofText f.name, toNode false f) :: namedNodes rest
termination_by structural fs

/-- Members some of which have no name. -/
def memberNodes (fs : List Field) : List Node :=
  match fs with
  | [] => []
  | f :: rest => toNode true f :: memberNodes rest
termination_by structural fs

def itemPairs (f : Option Field) : List Pair :=
  match f with
  | none => []
  | some f => [pair .itemType (toNode true f)]
termination_by structural f

end

/-- The text of a field. -/
def yaml (f : Field) : String := Yaml.write { unicode := true, marked := false } [f.toNode false]

variable [Host]

/-- What keeps a field from being written: a number with too many decimal digits. -/
def digitFault? (f : Field) : Option DigitFault :=
  f.walk.findSome? fun g => numberFault? g.toAttributes

/-- The text of a field, if the host writes its numbers. -/
def written (f : Field) : Except DigitFault String :=
  match f.digitFault? with
  | some fault => .error fault
  | none => .ok f.yaml

end Field

namespace Game

def processorPairs (p : Processor) : List Pair :=
  let architecture :=
    if p.architecture = "" then [] else [("Architecture", p.architecture)]
  let settings := Keyed.ofPairs (architecture ++ p.settings)
  if settings.isEmpty then [] else [(.ofText "Processor", Describe.textMap settings)]

def tablePairs (tables : Keyed String Script.Table) : List Pair :=
  if tables.isEmpty then []
  else
    [(.ofText "Script Tables", .ofPairs (tables.map fun (name, t) => (.ofText name, t.toNode)))]

/-- The metadata document. -/
def metadataNode (g : Game) : Node :=
  let optionalTexts :=
    [("Platform", g.platform), ("Version", g.version), ("Clean Hash", g.cleanHash),
     ("Default Script", g.defaultScript)].filter fun p => p.2 != ""
  .ofPairs
    ((([("Title", g.title), ("Country", g.country)] ++ optionalTexts).map fun (k, v) =>
        (.ofText k, .ofText v)) ++
      processorPairs g.processor ++ tablePairs g.tables)

/-- The document of entries. -/
def entriesNode (g : Game) : Node :=
  .ofPairs (g.entries.map fun f => (.ofText f.name, f.toNode false))

/-- Both documents as one text. -/
def yaml (g : Game) : String :=
  Yaml.write { unicode := true, marked := true } [g.metadataNode, g.entriesNode]

/-- Both documents as one text, if the host writes their numbers. -/
def written [Host] (g : Game) : Except DigitFault String :=
  match g.entries.findSome? Field.digitFault? with
  | some fault => .error fault
  | none => .ok g.yaml

end Game

end GameAtlas.Schema
