import GameAtlas.Json.Tree
import GameAtlas.Projection.Document
import GameAtlas.Yaml.Build
import GameAtlas.Yaml.Writer

/-!
Documents written as YAML or JSON, and values rendered in a format of a name.
-/

namespace GameAtlas.Projection

open Image (Value)
open Schema (Game)
open Yaml (Node)

namespace Doc

mutual

/-- The YAML node of a document. -/
def toNode (d : Doc) : Node :=
  match d with
  | .text s => .ofText s
  | .number n => .ofInt n
  | .list items => .ofItems (itemNodes items)
  | .map pairs => .ofPairs (pairNodes pairs)
termination_by structural d

def itemNodes (ds : List Doc) : List Node :=
  match ds with
  | [] => []
  | d :: rest => toNode d :: itemNodes rest
termination_by structural ds

def pairNodes (ps : List (String × Doc)) : List (Node × Node) :=
  match ps with
  | [] => []
  | (key, d) :: rest => (.ofText key, toNode d) :: pairNodes rest
termination_by structural ps

end

/-- Documents are written with all characters as they are. -/
def yamlStyle : Yaml.Style := { unicode := true, marked := false }

def yaml (d : Doc) : String := Yaml.write yamlStyle [d.toNode]

mutual

/-- The JSON tree of a document. -/
def toTree (d : Doc) : Json.Tree :=
  match d with
  | .text s => .text s
  | .number n => .number n
  | .list items => .list (itemTrees items)
  | .map pairs => .object (pairTrees pairs)
termination_by structural d

def itemTrees (ds : List Doc) : List Json.Tree :=
  match ds with
  | [] => []
  | d :: rest => toTree d :: itemTrees rest
termination_by structural ds

def pairTrees (ps : List (String × Doc)) : List (String × Json.Tree) :=
  match ps with
  | [] => []
  | (key, d) :: rest => (key, toTree d) :: pairTrees rest
termination_by structural ps

end

def json (d : Doc) : String := d.toTree.render false 0

end Doc

variable [Host]

namespace Doc

mutual

/-- What keeps a document from being written: a number that is in it. -/
def digitFault? (d : Doc) : Option DigitFault :=
  match d with
  | .text _ => none
  | .number n => Host.writingFault? n
  | .list items => itemDigitFault? items
  | .map pairs => pairDigitFault? pairs
termination_by structural d

def itemDigitFault? (ds : List Doc) : Option DigitFault :=
  match ds with
  | [] => none
  | d :: rest => digitFault? d <|> itemDigitFault? rest
termination_by structural ds

def pairDigitFault? (ps : List (String × Doc)) : Option DigitFault :=
  match ps with
  | [] => none
  | (_, d) :: rest => digitFault? d <|> pairDigitFault? rest
termination_by structural ps

end

/-- A document as a text, if the host writes its numbers. -/
def written (write : Doc → String) (d : Doc) : Except Fault String :=
  match d.digitFault? with
  | some fault => .error (.digits fault)
  | none => .ok (write d)

end Doc

/-! ### Formats -/

inductive Format where
  | yaml
  | json
  | text
  | hex
deriving DecidableEq, Repr

namespace Format

def name : Format → String
  | .yaml => "yaml"
  | .json => "json"
  | .text => "text"
  | .hex => "hex"

def all : List Format := [.yaml, .json, .text, .hex]

def ofName? (name : String) : Option Format := all.find? fun f => f.name == name

/-- What is said of a name that no format has. -/
def unknownMessage (name : String) : String := s!"Unknown output format: {name}"

end Format

/-- Leaves the line feeds at the end out. -/
def withoutLastLines (s : String) : String :=
  String.ofList (s.toList.reverse.dropWhile (· == '\n')).reverse

/-- Bytes as pairs of capital hexadecimal digits. -/
def hexPairs (bytes : List UInt8) : String :=
  " ".intercalate (bytes.map fun b => Text.padLeft 2 '0' (Text.upperHex b.toNat))

/-- A value in a format. -/
def render (game : Option Game) (v : Value) : Format → Except Fault String
  | .yaml => do (← toDocument game v).written fun d => withoutLastLines d.yaml
  | .json => do (← toJson game v).written Doc.json
  | .text => toText game v
  | .hex => .ok (hexPairs v.encode)

end GameAtlas.Projection
