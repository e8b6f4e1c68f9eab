import GameAtlas.Schema.Fault
import GameAtlas.Schema.Game
import GameAtlas.Schema.Reading

/-!
The metadata document: what a game is called, what it runs on, and its script tables. Of a repeated
key the last value counts.
-/

namespace GameAtlas.Schema

open Yaml (Node Conversion)

variable [Host]

namespace Metadata

def ofConversion {α : Type} : Conversion α → Except LoadFault α
  | .ok a => .ok a
  | .error f => .error (.field (.conversion f))

/-- The text under a key, empty if the key is missing. -/
def text (keys : Keyed String Node) (key : String) : Except LoadFault String :=
  match Keyed.get? key keys with
  | none => .ok ""
  | some n =>
    if n.isScalar then ofConversion n.valueText else .error (.malformed (.notScalar key))

/-- Forty hexadecimal digits. A line feed at the end is not looked at. -/
def isHash (s : String) : Bool :=
  let cs := Text.withoutLastLineFeed s.toList
  cs.length == 40 && cs.all fun c => (Text.digitOf? 16 c).isSome

def cleanHash (keys : Keyed String Node) : Except LoadFault String := do
  let hash ← text keys "Clean Hash"
  if hash = "" || isHash hash then return hash else throw (.malformed (.cleanHash hash))

def processor (keys : Keyed String Node) : Except LoadFault Processor :=
  match Keyed.get? "Processor" keys with
  | none => .ok {}
  | some (.mapping _ pairs _ _) => do
    let settings ← ofConversion (Reading.textPairs pairs [])
    return {
      architecture := (Keyed.get? "Architecture" settings).getD ""
      settings := Keyed.erase "Architecture" settings }
  | some _ => .error (.malformed .processor)

def table (name : String) (n : Node) : Except LoadFault Script.Table :=
  match Script.Table.ofNode name n with
  | .ok t => .ok t
  | .error (.defect d) => .error (.malformed (.table name d))
  | .error (.conversion f) => .error (.field (.conversion f))

/-- Reads table after table. -/
def tablesOf : List (Node × Node) → Keyed String Script.Table →
    Except LoadFault (Keyed String Script.Table)
  | [], tables => .ok tables
  | (k, v) :: rest, tables => do
    tablesOf rest (Keyed.put k.keyText (← table k.keyText v) tables)

def tables (keys : Keyed String Node) : Except LoadFault (Keyed String Script.Table) :=
  match Keyed.get? "Script Tables" keys with
  | none => .ok []
  | some (.mapping _ pairs _ _) => tablesOf pairs []
  | some _ => .error (.malformed .tables)

end Metadata

/-- The game that a metadata document describes, without entries. -/
def Game.ofMetadata : Option Node → Except LoadFault Game
  | none => .error (.missing .document)
  | some (.mapping _ pairs _ _) => do
    let keys := Keyed.ofPairs (pairs.map fun (k, v) => (k.keyText, v))
    if !Keyed.has "Title" keys then throw (.missing .title)
    if !Keyed.has "Country" keys then throw (.missing .country)
    let title ← Metadata.text keys "Title"
    let country ← Metadata.text keys "Country"
    let platform ← Metadata.text keys "Platform"
    let version ← Metadata.text keys "Version"
    let defaultScript ← Metadata.text keys "Default Script"
    let cleanHash ← Metadata.cleanHash keys
    let processor ← Metadata.processor keys
    let tables ← Metadata.tables keys
    return { title, country, platform, version, defaultScript, cleanHash, processor, tables }
  | some _ => .error (.malformed .metadata)

end GameAtlas.Schema
