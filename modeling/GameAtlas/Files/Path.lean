/-!
Paths of files: names between slashes. The plain form of a path leaves out what says nothing: double
slashes, single dots and a slash at the end.
-/

namespace GameAtlas.Files

/-- A path in its plain form. Two slashes in front, and no more, stay two. -/
structure Path where
  root : String
  names : List String
deriving DecidableEq, Repr

namespace Path

/-- The slashes that a path starts with, as far as they count. -/
def rootOf (cs : List Char) : String :=
  match (cs.takeWhile (· == '/')).length with
  | 0 => ""
  | 2 => "//"
  | _ => "/"

def ofText (s : String) : Path :=
  let names := (s.toList.splitOn '/').map String.ofList
  ⟨rootOf s.toList, names.filter fun name => name != "" && name != "."⟩

def text (p : Path) : String :=
  if p.root = "" && p.names.isEmpty then "." else p.root ++ "/".intercalate p.names

/-- A name within a directory. -/
def child (p : Path) (name : String) : Path := { p with names := p.names ++ [name] }

/-- The last name. -/
def name (p : Path) : String := p.names.getLast?.getD ""

/-- The last name without what follows its last dot, unless the dot stands at either end. -/
def stem (p : Path) : String :=
  let cs := p.name.toList
  let suffix := cs.reverse.takeWhile (· != '.')
  let front := cs.length - suffix.length - 1
  if cs.contains '.' && !suffix.isEmpty && front != 0 then String.ofList (cs.take front)
  else p.name

end Path

end GameAtlas.Files
