import GameAtlas.Script.Loading
import GameAtlas.Yaml.Build

/-!
Nodes that describe script tables. Every level states its size; texts stand in a mapping of their
own, which leaves out what has none.
-/

namespace GameAtlas.Script

open Yaml (Node)

/-- The key under which a level speaks of itself. -/
def ownKey : String := "="

def byteNode (b : UInt8) : Node := .ofHex b.toNat

namespace Trie

mutual

/-- The sizes of the levels below. -/
def lengthPairs (t : Trie) : List (Node × Node) :=
  match t with
  | .node _ _ children => childLengths children
termination_by structural t

def childLengths (children : List (UInt8 × Trie)) : List (Node × Node) :=
  match children with
  | [] => []
  | (b, child) :: rest =>
    let size := Node.ofText child.size
    let own :=
      if child.children.isEmpty then size
      else .ofPairs ((.ofText ownKey, size) :: lengthPairs child)
    (byteNode b, own) :: childLengths rest
termination_by structural children

end

/-- A level's own text as a pair. -/
def ownReplacement (t : Trie) : List (Node × Node) :=
  match t.replacement with
  | some s => [(.ofText ownKey, .ofText s)]
  | none => []

mutual

/-- The texts of the levels below. -/
def replacementPairs (t : Trie) : List (Node × Node) :=
  match t with
  | .node _ _ children => childReplacements children
termination_by structural t

def childReplacements (children : List (UInt8 × Trie)) : List (Node × Node) :=
  match children with
  | [] => []
  | (b, child) :: rest =>
    let own :=
      if child.children.isEmpty then
        match child.replacement with
        | some s => [(byteNode b, .ofText s)]
        | none => []
      else [(byteNode b, .ofPairs (child.ownReplacement ++ replacementPairs child))]
    own ++ childReplacements rest
termination_by structural children

end

end Trie

def Pattern.toNode (p : Pattern) : Node :=
  let byteOrWildcard := fun (b : Option UInt8) =>
    match b with
    | some b => byteNode b
    | none => .ofText Loading.wildcard
  .ofPairs
    ([(.ofText "Sequence", .ofItems (p.bytes.map byteOrWildcard))] ++
      match p.replacement with
      | some s => [(.ofText "Replacement", .ofText s)]
      | none => [])

def Table.toNode (t : Table) : Node :=
  if t.patterns.isEmpty then
    .ofPairs
      [(.ofText "Lengths", .ofPairs ((.ofText ownKey, .ofText t.root.size) :: t.root.lengthPairs)),
       (.ofText "Replacements", .ofPairs t.root.replacementPairs)]
  else .ofItems (t.patterns.map Pattern.toNode)

end GameAtlas.Script
