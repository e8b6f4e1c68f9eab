import GameAtlas.Data.Keyed
import GameAtlas.Schema.Issue
import GameAtlas.Schema.Kind

/-!
Fields: definitions of contiguous pieces of game data. Root fields have an address; what lies within
a field is placed by what comes before it. Every field carries the issues that its definition has.
-/

namespace GameAtlas.Schema

inductive Endianness where
  | little
  | big
deriving DecidableEq, Repr

/-- What a field says about itself. A kind uses some of the attributes; the others keep their
defaults. -/
structure Attributes where
  kind : Kind
  name : String := ""
  prettyName : String := ""
  description : String := ""
  notes : String := ""
  address : Option Int := none
  /-- A numeral or an expression over the bytes before. -/
  size : Option String := none
  charset : String := ""
  numberBase : Int := 10
  signed : Bool := false
  endianness : Endianness := .little
  /-- Names of single values. -/
  values : Keyed Int String := []
  /-- Names of bits, the lowest first. -/
  bitValues : List String := []
  /-- What is added to a pointer's value. -/
  pointerBase : Int := 0
  format : String := ""
  terminator : List UInt8 := []
  references : String := ""
  /-- Names of places within the field. -/
  labels : Keyed Int String := []
  locals : Keyed Int String := []
  arguments : Keyed String String := []
  initialState : Keyed String String := []
  finalState : Keyed String String := []
  returnValues : Keyed String String := []
  labelStates : Keyed String (Keyed String String) := []
  issues : List Issue := []
deriving DecidableEq

/-- A field: attributes, the members of a struct and the item type of an array. -/
structure Field extends Attributes where
  members : List Field := []
  itemType : Option Field := none

namespace Field

instance : Inhabited Field := ⟨{ kind := .undefined }⟩

/-- The fields right below: the item type of an array, the members of the others. -/
def children (f : Field) : List Field :=
  if f.kind = .array then f.itemType.toList else f.members

def isRoot (f : Field) : Bool := f.address.isSome

def displayName (f : Field) : String := if f.prettyName = "" then f.name else f.prettyName

def addIssue (f : Field) (i : Issue) : Field := { f with issues := f.issues ++ [i] }

/-- A field stays of the kind that it was made with. -/
inductive KindFault where
  | settled
deriving DecidableEq, Repr

def KindFault.message : KindFault → String
  | .settled => "Field kind cannot be changed after construction"

/-- No field takes another kind, nor its own once more. -/
def setKind (_ : Field) (_ : Kind) : Except KindFault Field := .error .settled

/-- One line with the name, the address and the size. -/
def summary (f : Field) : String :=
  let address := (f.address.map toString).getD "None"
  let size := f.size.getD "None"
  s!"{f.name}: {address},{size}"

mutual

/-- A field and all fields below it, each before those below it. -/
def walk (f : Field) : List Field :=
  match f with
  | ⟨attributes, members, itemType⟩ =>
    ⟨attributes, members, itemType⟩ ::
      (if attributes.kind = .array then walkItem itemType else walkAll members)
termination_by structural f

def walkItem (f : Option Field) : List Field :=
  match f with
  | none => []
  | some f => walk f
termination_by structural f

def walkAll (fs : List Field) : List Field :=
  match fs with
  | [] => []
  | f :: rest => walk f ++ walkAll rest
termination_by structural fs

end

/-- All issues of a field and of what lies below it. -/
def problems (f : Field) : List Issue := f.walk.flatMap fun g => g.issues

end Field

end GameAtlas.Schema
