import GameAtlas.Data.Keyed
import GameAtlas.Schema.Issue
import GameAtlas.Schema.Key

/-!
The canonical view of an entry: each key once, under its canonical spelling, with an issue for every
pair that had to be renamed or left out.
-/

namespace GameAtlas.Schema

/-- A view under construction. `renamed` are the keys that an older spelling was taken for so far,
with that spelling. -/
structure View (α : Type) where
  pairs : Keyed String α := []
  renamed : Keyed String String := []
  issues : List Issue := []

namespace View

variable {α : Type}

def note (v : View α) (i : Issue) : View α := { v with issues := v.issues ++ [i] }

def ignored (old canonical : String) : Issue :=
  .incomplete s!"Deprecated key '{old}' ignored in favour of '{canonical}'"
    "Remove the deprecated key"

def duplicate (key : String) : Issue :=
  .incomplete s!"Duplicate key '{key}'" "Remove one of the duplicate keys"

def respelled (old canonical : String) : Issue :=
  .incomplete s!"Deprecated key '{old}' renamed to '{canonical}'"
    s!"Rename '{old}' to '{canonical}'"

/-- Adds a pair. The first canonical spelling wins, then the first older one. -/
def add (v : View α) (key : String) (value : α) : View α :=
  let canonical := Key.canonical key
  if canonical = key then
    match Keyed.get? key v.pairs, Keyed.get? key v.renamed with
    | none, _ => { v with pairs := Keyed.put key value v.pairs }
    | some _, some old =>
      { v with
        pairs := Keyed.put key value v.pairs
        renamed := Keyed.erase key v.renamed
        issues := v.issues ++ [ignored old key] }
    | some _, none => v.note (duplicate key)
  else if Keyed.has canonical v.pairs then v.note (ignored key canonical)
  else
    { v with
      pairs := Keyed.put canonical value v.pairs
      renamed := Keyed.put canonical key v.renamed
      issues := v.issues ++ [respelled key canonical] }

/-- The view of pairs in document order. -/
def ofPairs (pairs : List (String × α)) : View α := pairs.foldl (fun v p => v.add p.1 p.2) {}

end View

end GameAtlas.Schema
