import GameAtlas.Schema.Entry
import GameAtlas.Schema.Metadata
import GameAtlas.Schema.Placement
import GameAtlas.Yaml.Compose

/-!
Schemas: a metadata document and a document of entries, in one text or in two. Only what makes a
schema unusable as a whole is a fault; what is wrong with an entry is an issue of that entry.
-/

namespace GameAtlas.Schema

open Yaml (Node)

variable [Host]

/-- Reads entry after entry. `seen` are the names before, and `before` is the last range. -/
def entriesOf (seen : List String) (before : Option Range) :
    List (Node × Node) → Construction (List Field)
  | [] => .ok []
  | (k, v) :: rest => do
    let name := k.keyText
    let f ← Field.rootOfNode name v
    let repeated :=
      if seen.contains name then
        [Issue.severe s!"Duplicate entry name '{name}'" "Rename one of the entries"]
      else []
    let (size, sizeIssues) ← f.placedSize.mapError FieldFault.bare
    let range := Range.of? f size
    let f := { f with issues := f.issues ++ repeated ++ sizeIssues ++ Range.issues before range }
    return f :: (← entriesOf (name :: seen) (range <|> before) rest)

namespace Game

/-- The game that a metadata node and a node of entries describe. -/
def ofNodes (metadata definitions : Option Node) : Except LoadFault Game := do
  let game ← ofMetadata metadata
  match definitions with
  | none => throw (.malformed .noEntryDocument)
  | some (.scalar tag ..) =>
    if tag.endsWith ":null" then return game else throw (.malformed .entries)
  | some (.mapping _ pairs _ _) =>
    return { game with entries := ← (entriesOf [] none pairs).mapError LoadFault.field }
  | some (.sequence ..) => throw (.malformed .entries)

/-- The documents of a stream that messages call `label`. -/
def documents (stream : Yaml.Stream) (label : String) : Except LoadFault (List Node) :=
  match Yaml.composeAll stream with
  | .ok ns => .ok ns
  | .error .malformed => .error (.malformed (.yaml label))
  | .error f => .error (.unreadable f)

/-- The game of a stream that holds both documents. -/
def ofStream (stream : Yaml.Stream) : Except LoadFault Game := do
  let ns ← documents stream "schema"
  match ns with
  | [metadata, definitions] => ofNodes metadata definitions
  | _ :: _ :: _ => throw (.malformed (.tooManyDocuments ns.length))
  | _ => throw (.malformed (.tooFewDocuments ns.length))

/-- Loads a schema from one text. -/
def load (text : String) : Except LoadFault Game := ofStream (.ofText text)

/-- What is said of a pair of texts: its names, and that the first holds nothing. -/
structure PairLabels where
  first : String
  second : String
  empty : Missing

/-- Texts that are not files. -/
def textLabels : PairLabels := ⟨"Metadata", "definitions", .document⟩

/-- Files in a directory. -/
def fileLabels : PairLabels := ⟨"metadata.yml", "the entry file", .content "metadata.yml"⟩

/-- The game of a pair of texts, each of which has to be one document. -/
def ofDocuments (labels : PairLabels) (metadata definitions : List Node) :
    Except LoadFault Game :=
  match metadata, definitions with
  | [], _ => .error (.missing labels.empty)
  | [m], [d] => ofNodes m d
  | _, _ => .error (.malformed (.notOneEach labels.first labels.second))

/-- Loads a schema from two texts. -/
def loadPair (metadata definitions : String) : Except LoadFault Game := do
  let m ← documents (.ofText metadata) "metadata"
  let d ← documents (.ofText definitions) "definitions"
  ofDocuments textLabels m d

end Game

end GameAtlas.Schema
