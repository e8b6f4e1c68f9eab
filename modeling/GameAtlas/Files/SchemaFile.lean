import GameAtlas.Files.Disk
import GameAtlas.Schema.Document

/-!
Schemas in files: one file with both documents, or a directory with a metadata file and one file of
entries.
-/

namespace GameAtlas.Files

open Schema (Game LoadFault)

/-- Why a schema cannot be loaded from files. -/
inductive SchemaFault where
  | file (path : String) (f : FileFault)
  | load (f : LoadFault)

def SchemaFault.message : SchemaFault → String
  | .file path f => f.message path
  | .load f => f.message

variable [Host] {m : Type → Type} [Monad m]

/-- The bytes of a file. -/
def readFile (disk : Disk m) (path : String) : ExceptT SchemaFault m (List UInt8) := do
  match ← disk.read path with
  | .ok bytes => return bytes
  | .error f => throw (.file path f)

def ofLoad {α : Type} : Except LoadFault α → Except SchemaFault α
  | .ok a => .ok a
  | .error f => .error (.load f)

/-- Loads a file with both documents. -/
def loadFile (disk : Disk m) (path : String) : ExceptT SchemaFault m Game := do
  let bytes ← readFile disk path
  ofLoad (Game.ofStream (.ofFile bytes))

def metadataName : String := "metadata.yml"

def schemaSuffix : String := ".yml"

/-- What lies in a directory; nothing if there is none. Only a path that is too long is a fault. -/
def entriesOf (disk : Disk m) (path : String) : ExceptT SchemaFault m (List DirectoryEntry) := do
  match ← disk.list path with
  | .ok entries => return entries
  | .error .nameTooLong => throw (.file path .nameTooLong)
  | .error _ => return []

/-- Loads a directory. Both files are opened before either is read. -/
def loadDirectory (disk : Disk m) (directory : String) : ExceptT SchemaFault m Game := do
  let path := Path.ofText directory
  let names := ((← entriesOf disk path.text).map fun e => e.name).filter fun name =>
    name.endsWith schemaSuffix && name != metadataName
  match names with
  | [name] =>
    let metadataBytes ← readFile disk (path.child metadataName).text
    let entryBytes ← readFile disk (path.child name).text
    let metadata ← ofLoad (Game.documents (.ofFile metadataBytes) metadataName)
    let entries ← ofLoad (Game.documents (.ofFile entryBytes) name)
    ofLoad (Game.ofDocuments Game.fileLabels metadata entries)
  | _ => throw (.load (.malformed (.entryFiles path.text names.length)))

end GameAtlas.Files
