import GameAtlas.Files.Path
import GameAtlas.Text.Quoted

/-!
Access to files: a record of what a disk offers, in any monad, and the disk that is a list of files
in memory.
-/

namespace GameAtlas.Files

/-- Why a file cannot be opened. -/
inductive FileFault where
  | missing
  | isDirectory
  | notDirectory
  | nameTooLong
  | nullByte
deriving DecidableEq, Repr

/-- The message about a path. -/
def FileFault.message (path : String) : FileFault → String
  | .missing => s!"[Errno 2] No such file or directory: {Text.quoted path}"
  | .isDirectory => s!"[Errno 21] Is a directory: {Text.quoted path}"
  | .notDirectory => s!"[Errno 20] Not a directory: {Text.quoted path}"
  | .nameTooLong => s!"[Errno 36] File name too long: {Text.quoted path}"
  | .nullByte => "embedded null byte"

/-- What lies in a directory. -/
structure DirectoryEntry where
  name : String
  isDirectory : Bool
deriving DecidableEq, Repr

/-- A disk: what it answers to the path of a file and to that of a directory. -/
structure Disk (m : Type → Type) where
  read : String → m (Except FileFault (List UInt8))
  list : String → m (Except FileFault (List DirectoryEntry))

/-! ### Files in memory -/

/-- Files by their names from the directory at hand on. -/
abbrev Snapshot := List (List String × List UInt8)

/-- Where a path leads. -/
inductive Place where
  /-- Names from the directory at hand on. -/
  | below (names : List String)
  /-- A directory that the one at hand lies in. Nothing else is known to lie in it. -/
  | above
deriving DecidableEq, Repr

/-- The most bytes that a path may have. -/
def pathLimit : Nat := 4095

/-- The most bytes that a name in a path may have. -/
def nameLimit : Nat := 255

namespace Snapshot

def isFile (s : Snapshot) (names : List String) : Bool := s.any fun f => f.1 == names

/-- A directory is what files lie in; the one at hand is always there. -/
def isDirectory (s : Snapshot) (names : List String) : Bool :=
  names.isEmpty || s.any fun f => names.length < f.1.length && names.isPrefixOf f.1

/-- Follows a name from a place. Whether it is there is asked only when a further name follows. -/
def step (s : Snapshot) : Place → String → Except FileFault Place
  | .below names, name =>
    if s.isFile names then .error .notDirectory
    else if !s.isDirectory names then .error .missing
    else if name = "" || name = "." then .ok (.below names)
    else if name = ".." then .ok (if names.isEmpty then .above else .below names.dropLast)
    else if nameLimit < name.utf8ByteSize then .error .nameTooLong
    else .ok (.below (names ++ [name]))
  | .above, name =>
    if name = "" || name = "." || name = ".." then .ok .above
    else if nameLimit < name.utf8ByteSize then .error .nameTooLong
    else .error .missing

def names (path : String) : List String := (path.toList.splitOn '/').map String.ofList

/-- The place of a path. One that starts with a slash is followed from above. -/
def place (s : Snapshot) (path : String) : Except FileFault Place :=
  if path.toList.contains '\x00' then .error .nullByte
  else if path = "" then .error .missing
  else if pathLimit < path.utf8ByteSize then .error .nameTooLong
  else (names path).foldlM s.step (if path.toList.head? == some '/' then .above else .below [])

def read (s : Snapshot) (path : String) : Except FileFault (List UInt8) := do
  match ← s.place path with
  | .above => throw .isDirectory
  | .below names =>
    match s.lookup names with
    | some bytes => return bytes
    | none => throw (if s.isDirectory names then .isDirectory else .missing)

/-- The names right below a directory. -/
def entries (s : Snapshot) (directory : List String) : List DirectoryEntry :=
  (s.filterMap fun (names, _) =>
    if directory.isPrefixOf names then
      match names.drop directory.length with
      | [] => none
      | [name] => some ⟨name, false⟩
      | name :: _ => some ⟨name, true⟩
    else none).eraseDups

def list (s : Snapshot) (path : String) : Except FileFault (List DirectoryEntry) := do
  match ← s.place path with
  | .above => return []
  | .below names =>
    if s.isFile names then throw .notDirectory
    else if s.isDirectory names then return s.entries names
    else throw .missing

def disk (s : Snapshot) : Disk Id := ⟨s.read, s.list⟩

end Snapshot

end GameAtlas.Files
