import GameAtlas.Script.Table
import GameAtlas.Yaml.Content

/-!
Script tables from the nodes that describe them: mappings of sizes and of texts by byte, which may
be nested, or a sequence of patterns.
-/

namespace GameAtlas.Script

open Yaml (Node Misfit ConversionFault)

/-- What is wrong with the description of a table. -/
inductive Defect where
  | invalidByte (m : Misfit)
  | byteRange (value : Int)
  | sizeNotScalar
  | lengthsNotMapping
  | replacementsNotMapping
  | lengthNotSize (key : String)
  | replacementNotText (key : String)
  | noSequence
  | openStart
  | unknownKey (key : String)
  | notTable
deriving DecidableEq, Repr

/-- The message about a table of a name. -/
def Defect.message (table : String) : Defect → String
  | .invalidByte m => s!"Script table {table}: invalid byte {m.message}"
  | .byteRange value => s!"Script table {table}: byte out of range: {value}"
  | .sizeNotScalar => s!"Script table {table}: lengths must be sizes"
  | .lengthsNotMapping => s!"Script table {table}: Lengths must be a mapping"
  | .replacementsNotMapping => s!"Script table {table}: Replacements must be a mapping"
  | .lengthNotSize key => s!"Script table {table}: length of {key} must be a size"
  | .replacementNotText key => s!"Script table {table}: replacement of {key} must be text"
  | .noSequence => s!"Script table {table}: entries need a Sequence"
  | .openStart => s!"Script table {table}: sequence must start with a byte"
  | .unknownKey key => s!"Script table {table}: unknown key {key}"
  | .notTable => s!"Script table {table} must be a mapping or a sequence"

/-- What keeps a table from being read. -/
inductive Obstacle where
  | defect (d : Defect)
  | conversion (f : ConversionFault)

abbrev Loading := Except Obstacle

variable [Host]

namespace Loading

def refuse {α : Type} (d : Defect) : Loading α := .error (.defect d)

def ofConversion {α : Type} : Yaml.Conversion α → Loading α
  | .ok a => .ok a
  | .error fault => .error (.conversion fault)

/-- A byte as a key or in a pattern. -/
def byte (n : Node) : Loading UInt8 :=
  match n.integer with
  | .ok value =>
    if 0 ≤ value ∧ value ≤ 0xFF then .ok (UInt8.ofNat value.toNat)
    else
      match Host.writingFault? value with
      | some fault => .error (.conversion (.misfit (.digits fault)))
      | none => refuse (.byteRange value)
  | .error (.misfit m) => refuse (.invalidByte m)
  | .error fault => .error (.conversion fault)

def sizeText (n : Node) : Loading String :=
  if n.isScalar then ofConversion n.valueText else refuse .sizeNotScalar

/-- The keys that speak of a level itself. -/
def levelKeys : List String := ["=", "default"]

/-- A level with the size that its mapping gives it; the second key counts if both are there. -/
def levelSize (t : Trie) (pairs : List (Node × Node)) : List String → Loading Trie
  | [] => .ok t
  | key :: rest =>
    match Node.get? key pairs with
    | some n => do levelSize (t.withSize (← sizeText n)) pairs rest
    | none => levelSize t pairs rest

mutual

/-- Reads the sizes of a level and of what lies below it. -/
def lengths (t : Trie) (n : Node) : Loading Trie :=
  match n with
  | .mapping _ pairs _ _ => do lengthPairs (← levelSize t pairs levelKeys) pairs
  | _ => refuse .lengthsNotMapping
termination_by structural n

def lengthPairs (t : Trie) (pairs : List (Node × Node)) : Loading Trie :=
  match pairs with
  | [] => .ok t
  | (k, v) :: rest =>
    if levelKeys.contains k.keyText then lengthPairs t rest
    else do
      let b ← byte k
      let child := t.childOrNew b
      let child ←
        if v.isMapping then lengths child v
        else if v.isScalar then child.withSize <$> sizeText v
        else refuse (.lengthNotSize k.keyText)
      lengthPairs (t.setChild b child) rest
termination_by structural pairs

end

mutual

/-- Reads the texts of a level and of what lies below it. -/
def replacements (t : Trie) (n : Node) : Loading Trie :=
  match n with
  | .mapping _ pairs _ _ => replacementPairs t pairs
  | _ => refuse .replacementsNotMapping
termination_by structural n

def replacementPairs (t : Trie) (pairs : List (Node × Node)) : Loading Trie :=
  match pairs with
  | [] => .ok t
  | (k, v) :: rest =>
    if levelKeys.contains k.keyText then do
      replacementPairs (t.withReplacement (← ofConversion v.scalarText)) rest
    else do
      let b ← byte k
      let child := t.childOrNew b
      let child ←
        if v.isMapping then replacements child v
        else if v.isScalar then child.withReplacement <$> ofConversion v.scalarText
        else refuse (.replacementNotText k.keyText)
      replacementPairs (t.setChild b child) rest
termination_by structural pairs

end

/-! ### Patterns -/

/-- What stands in a pattern for any byte, in capitals. -/
def wildcard : String := "XX"

def patternByte (n : Node) : Loading (Option UInt8) :=
  match n with
  | .scalar _ text _ _ => if Text.toUpper text = wildcard then .ok none else some <$> byte n
  | _ => some <$> byte n

/-- Checks a pattern: it starts with a byte. -/
def checked (p : Pattern) : Loading Pattern :=
  match p.bytes with
  | some _ :: _ => .ok p
  | _ => refuse .openStart

/-- A pattern from a mapping. -/
def pattern : Node → Loading Pattern
  | .mapping _ pairs _ _ =>
    match Node.get? "Sequence" pairs with
    | none => refuse .noSequence
    | some n => do
      let items := match n with
        | .sequence _ items _ _ => items
        | n => [n]
      let bytes ← items.mapM patternByte
      let replacement ←
        match Node.get? "Replacement" pairs with
        | some n => some <$> ofConversion n.scalarText
        | none => pure none
      checked ⟨bytes, replacement⟩
  | _ => refuse .noSequence

/-! ### Tables -/

/-- The keys that the description of a table may have. -/
def tableKeys : List String := ["Lengths", "Replacements"]

/-- Reads the tree of a table: the sizes first, so that levels take them from the levels above. -/
def trie (pairs : List (Node × Node)) : Loading Trie := do
  match pairs.find? fun p => !tableKeys.contains p.1.keyText with
  | some (k, _) => refuse (.unknownKey k.keyText)
  | none => pure ()
  let t ←
    match Node.get? "Lengths" pairs with
    | some n => lengths .empty n
    | none => pure .empty
  match Node.get? "Replacements" pairs with
  | some n => replacements t n
  | none => pure t

end Loading

namespace Table

/-- The table that a node describes. -/
def ofNode (name : String) : Node → Loading Table
  | .sequence _ items _ _ => do return { name := name, patterns := ← items.mapM Loading.pattern }
  | .mapping _ pairs _ _ => do return { name := name, root := ← Loading.trie pairs }
  | .scalar .. => Loading.refuse .notTable

/-- Adds a pattern behind the others. -/
def add (t : Table) (p : Pattern) : Loading Table := do
  return { t with patterns := t.patterns ++ [← Loading.checked p] }

end Table

end GameAtlas.Script
