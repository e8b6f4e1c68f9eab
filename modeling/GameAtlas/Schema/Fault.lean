import GameAtlas.Schema.Reading
import GameAtlas.Script.Loading
import GameAtlas.Yaml.Token

/-!
Why a schema as a whole cannot be loaded.
-/

namespace GameAtlas.Schema

/-- What is missing in the metadata. -/
inductive Missing where
  | document
  | title
  | country
  | content (file : String)
deriving DecidableEq, Repr

def Missing.message : Missing → String
  | .document => "Missing metadata document"
  | .title => "Missing title!"
  | .country => "Missing country!"
  | .content file => s!"{file} is empty"

/-- How a document differs from what a schema has to be. -/
inductive Malformed where
  | yaml (label : String)
  | metadata
  | notScalar (key : String)
  | cleanHash (hash : String)
  | processor
  | tables
  | table (name : String) (d : Script.Defect)
  | noEntryDocument
  | entries
  | tooFewDocuments (found : Nat)
  | tooManyDocuments (found : Nat)
  | notOneEach (first second : String)
  | entryFiles (directory : String) (found : Nat)
deriving DecidableEq, Repr

def Malformed.message : Malformed → String
  | .yaml label => s!"Invalid YAML in {label}: {Yaml.Fault.malformed.message}"
  | .metadata => "Invalid format for game metadata"
  | .notScalar key => s!"Metadata key {key} must be a scalar"
  | .cleanHash hash => s!"Clean Hash must be 40 hex characters: {hash}"
  | .processor => "Processor must be a mapping"
  | .tables => "Script Tables must be a mapping"
  | .table name d => d.message name
  | .noEntryDocument => "Missing entry document"
  | .entries => "Entry document must be a mapping of names to entries"
  | .tooFewDocuments found =>
    s!"Expected a metadata document and an entry document, found {found}"
  | .tooManyDocuments found => s!"Expected exactly two documents, found {found}"
  | .notOneEach first second => s!"{first} and {second} must be one document each"
  | .entryFiles directory found =>
    s!"{directory}: expected one entry file besides metadata.yml, found {found}"

/-- Faults of loading. The last two are not looked for: a value that no field can be made of, and
characters that cannot be read. -/
inductive LoadFault where
  | missing (m : Missing)
  | malformed (m : Malformed)
  | field (f : FieldFault)
  | unreadable (f : Yaml.Fault)

def LoadFault.message : LoadFault → String
  | .missing m => m.message
  | .malformed m => m.message
  | .field f => f.message
  | .unreadable f => f.message

end GameAtlas.Schema
