import GameAtlas.Files.SchemaFile
import GameAtlas.Json.Tree

/-!
Reports on schema files: the issues of every root field, as a list to read or as JSON.
-/

namespace GameAtlas.Report

open Files (Disk SchemaFault)
open Schema (Field Game)

/-- The issues of a root field and of all fields within it. -/
structure EntryReport where
  name : String
  address : Option Int
  errors : List String
deriving DecidableEq, Repr

/-- What was found in a file. A file that cannot be loaded has an error and no entries. -/
structure FileReport where
  path : String
  loadError : String := ""
  entries : List EntryReport := []
deriving DecidableEq, Repr

namespace EntryReport

/-- The report on a field: all issues, or the severe ones. -/
def ofField (all : Bool) (f : Field) : EntryReport :=
  { name := f.name
    address := f.address
    errors := (f.problems.filter fun i => all || i.level == .severe).map fun i => i.text }

def tree (e : EntryReport) : Json.Tree :=
  .object
    [("name", .text e.name),
     ("address", match e.address with
      | some a => .number a
      | none => .null),
     ("errors", .list (e.errors.map .text))]

end EntryReport

namespace FileReport

def loaded (r : FileReport) : Bool := r.loadError == ""

def totalProblems (r : FileReport) : Nat := (r.entries.flatMap EntryReport.errors).length

def clean (r : FileReport) : Bool := r.loaded && r.totalProblems == 0

/-- The entries of a game that have something to report. -/
def ofGame (path : String) (all : Bool) (g : Game) : FileReport :=
  { path := path
    entries := (g.entries.map (EntryReport.ofField all)).filter fun e => !e.errors.isEmpty }

def tree (r : FileReport) : Json.Tree :=
  .object
    [("path", .text r.path),
     ("loaded", .bool r.loaded),
     ("load_error", .text r.loadError),
     ("total_problems", .number r.totalProblems),
     ("entries", .list (r.entries.map EntryReport.tree))]

end FileReport

/-- Whether a fault is reported. Faults that nobody looks for end the whole run. -/
def isReported : SchemaFault → Bool
  | .file _ .nullByte => false
  | .file .. => true
  | .load (.missing _) | .load (.malformed _) => true
  | _ => false

variable [Host] {m : Type → Type} [Monad m]

/-- The report on a file. -/
def validateFile (disk : Disk m) (all : Bool) (path : String) :
    ExceptT SchemaFault m FileReport := do
  match ← ExceptT.lift (Files.loadFile disk path).run with
  | .ok g => return .ofGame path all g
  | .error f =>
    if isReported f then return { path := path, loadError := f.message } else throw f

/-- Whether there is something at a path. Only a path that is too long is a fault. -/
def isThere (disk : Disk m) (path : String) : ExceptT SchemaFault m Bool := do
  match ← disk.read path with
  | .ok _ | .error .isDirectory => return true
  | .error .nameTooLong => throw (.file path .nameTooLong)
  | .error _ => return false

/-- The schemas in the directories at hand: each has the name of its directory. -/
def findSchemas (disk : Disk m) : ExceptT SchemaFault m (List String) := do
  let names := ((← Files.entriesOf disk ".").filter fun e => e.isDirectory).map fun e => e.name
  let sorted := names.mergeSort fun a b => decide (a ≤ b)
  let candidates := sorted.map fun name => name ++ "/" ++ name ++ Files.schemaSuffix
  candidates.filterM (isThere disk)

/-! ### Lists to read -/

/-- Messages in order, each once; behind a repeated one stands how often it is there. -/
def countUnique (messages : List String) : List String :=
  let sorted := messages.mergeSort fun a b => decide (a ≤ b)
  sorted.eraseDups.map fun message =>
    let n := messages.count message
    if 1 < n then s!"{message} ({n})" else message

/-- What entries are sorted by: those without an address come first. -/
def EntryReport.place (e : EntryReport) : Int := e.address.getD (-1)

/-- Entries by address, upward or downward. -/
def sortedEntries (downward : Bool) (es : List EntryReport) : List EntryReport :=
  es.mergeSort fun a b =>
    if downward then decide (b.place ≤ a.place) else decide (a.place ≤ b.place)

def EntryReport.text (e : EntryReport) : String :=
  s!"\t{e.name}:\n\t\t" ++ "\n\t\t".intercalate (countUnique e.errors) ++ "\n"

namespace FileReport

def text (downward : Bool) (r : FileReport) : String :=
  let stem := (Files.Path.ofText r.path).stem
  s!"{stem}:\n\n" ++
    if r.loaded then String.join ((sortedEntries downward r.entries).map EntryReport.text)
    else s!"\tFailure loading {r.path}: {r.loadError}\n"

end FileReport

/-- What is said behind all reports. -/
def conclusion (rs : List FileReport) : String :=
  let bad := (rs.flatMap FileReport.entries).length
  let total := (rs.flatMap fun r => r.entries.flatMap EntryReport.errors).length
  if 0 < bad then s!"Erroneous entries found: {bad}\nTotal errors found: {total}\n"
  else if rs.all FileReport.loaded then "No problems found!\n"
  else ""

/-- Reports as a text; files without problems are passed over. -/
def text (downward : Bool) (rs : List FileReport) : String :=
  String.join ((rs.filter fun r => !r.clean).map (FileReport.text downward)) ++ conclusion rs

/-- Reports as JSON in ASCII. -/
def json (rs : List FileReport) : String :=
  (Json.Tree.list (rs.map FileReport.tree)).render true 0 ++ "\n"

end GameAtlas.Report
