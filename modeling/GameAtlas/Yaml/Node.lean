/-!
YAML nodes: tagged scalars, sequences and mappings, with the presentation that they were read in.
A node that was read once and referred to again carries a number, so that writing can tell it from
an equal one.
-/

namespace GameAtlas.Yaml

inductive ScalarStyle where
  | plain
  | singleQuoted
  | doubleQuoted
  | literal
  | folded
deriving DecidableEq, Repr

/-- A node. Mappings keep their pairs in order, repeated keys included. -/
inductive Node where
  | scalar (tag text : String) (style : ScalarStyle) (share : Option Nat)
  | sequence (tag : String) (items : List Node) (flow : Bool) (share : Option Nat)
  | mapping (tag : String) (pairs : List (Node × Node)) (flow : Bool) (share : Option Nat)
deriving Inhabited

namespace Tag

/-- What the tags of the standard kinds start with. -/
def core : String := "tag:yaml.org,2002:"

def str : String := "tag:yaml.org,2002:str"
def int : String := "tag:yaml.org,2002:int"
def float : String := "tag:yaml.org,2002:float"
def bool : String := "tag:yaml.org,2002:bool"
def null : String := "tag:yaml.org,2002:null"
def binary : String := "tag:yaml.org,2002:binary"
def timestamp : String := "tag:yaml.org,2002:timestamp"
def merge : String := "tag:yaml.org,2002:merge"
def value : String := "tag:yaml.org,2002:value"
def yaml : String := "tag:yaml.org,2002:yaml"
def seq : String := "tag:yaml.org,2002:seq"
def map : String := "tag:yaml.org,2002:map"

/-- The name behind the exclamation mark of a local tag. -/
def local? (tag : String) : Option String :=
  match tag.toList with
  | '!' :: name => some (String.ofList name)
  | _ => none

end Tag

namespace Node

def tag : Node → String
  | .scalar tag .. | .sequence tag .. | .mapping tag .. => tag

def share : Node → Option Nat
  | .scalar _ _ _ share | .sequence _ _ _ share | .mapping _ _ _ share => share

def isScalar : Node → Bool
  | .scalar .. => true
  | _ => false

def isMapping : Node → Bool
  | .mapping .. => true
  | _ => false

def localTag? (n : Node) : Option String := Tag.local? n.tag

/-- A plain scalar that nothing else refers to. -/
def text (tag text : String) : Node := .scalar tag text .plain none

/-- The first value under a scalar key of this text. -/
def get? (key : String) : List (Node × Node) → Option Node
  | [] => none
  | (.scalar _ text _ _, v) :: rest => if text = key then some v else get? key rest
  | _ :: rest => get? key rest

end Node

end GameAtlas.Yaml
