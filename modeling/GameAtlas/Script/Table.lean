import GameAtlas.Data.Keyed
import GameAtlas.Data.Located
import GameAtlas.Schema.Size
import GameAtlas.Text.Numeral

/-!
Script tables: texts for runs of bytes. A table is a tree that is descended byte by byte, where
every level says how long the run is, or a list of patterns, of which the longest that fits is
taken. Bytes that no entry fits are written as escapes, and so are the bytes of a run that its entry
leaves open.
-/

namespace GameAtlas.Script

open Schema (SizeError)

/-- Bytes as escapes in brackets. -/
def escapes (bs : List UInt8) : String :=
  String.join (bs.map fun b => "[" ++ Text.padLeft 2 '0' (Text.upperHex b.toNat) ++ "]")

/-! ### Runs -/

/-- A piece of the input: how many bytes it has, the text of its entry, and the bytes that are
written as escapes behind it. -/
structure Run where
  length : Nat
  replacement : String
  escaped : List UInt8
deriving DecidableEq, Repr

namespace Run

def text (r : Run) : String := r.replacement ++ escapes r.escaped

/-- A run whose entry fixes its first bytes; without a text all of them are escaped. -/
def ofEntry (replacement : Option String) (bytes fixed : List UInt8) : Run :=
  match replacement with
  | some s => ⟨bytes.length, s, fixed⟩
  | none => ⟨bytes.length, "", bytes⟩

/-- A byte that no entry fits. -/
def single (b : UInt8) : Run := ⟨1, "", [b]⟩

end Run

/-- Cuts the input into runs. `skip` bytes belong to the run before; `at?` gives the run at a
position, where a byte and the rest of the input are seen. -/
def runsFrom {ε : Type} (at? : Nat → UInt8 → List UInt8 → Except ε Run) (skip position : Nat) :
    List UInt8 → Except ε (List Run)
  | [] => .ok []
  | b :: rest =>
    match skip with
    | k + 1 => runsFrom at? k (position + 1) rest
    | 0 => do
      let run ← at? position b rest
      return run :: (← runsFrom at? (run.length - 1) (position + 1) rest)

/-! ### Trees -/

/-- A level of a tree: the size of a run that ends here, its text, and the levels below by the next
byte. -/
inductive Trie where
  | node (size : String) (replacement : Option String) (children : List (UInt8 × Trie))

namespace Trie

/-- Runs have one byte where nothing is said. -/
def defaultSize : String := "1"

def empty : Trie := .node defaultSize none []

instance : Inhabited Trie := ⟨empty⟩

def size : Trie → String
  | .node size _ _ => size

def replacement : Trie → Option String
  | .node _ replacement _ => replacement

def children : Trie → Keyed UInt8 Trie
  | .node _ _ children => children

def withSize (size : String) : Trie → Trie
  | .node _ replacement children => .node size replacement children

def withReplacement (replacement : String) : Trie → Trie
  | .node size _ children => .node size (some replacement) children

def child? (t : Trie) (b : UInt8) : Option Trie := Keyed.get? b t.children

/-- The level below, new ones with the size of this one. -/
def childOrNew (t : Trie) (b : UInt8) : Trie := (t.child? b).getD (.node t.size none [])

def setChild (t : Trie) (b : UInt8) (child : Trie) : Trie :=
  .node t.size t.replacement (Keyed.put b child t.children)

variable [Host]

/-- The size of the run that starts `input`. A size that lacks bytes at the end of the input is the
whole rest. -/
def runSize (t : Trie) (input : List UInt8) : Except SizeError Nat :=
  let window := input.take Expression.maxArguments
  match Schema.sizeOf t.size (Expression.bindBytes window) with
  | .ok n => .ok n
  | .error e =>
    if e.isUnbound && window.length < Expression.maxArguments then .ok window.length else .error e

/-- Descends as far as the input leads and the run reaches. Returns the last level, the number of
bytes that led to it and the size of its run. -/
def descend (input : List UInt8) (t : Trie) (depth : Nat) :
    List UInt8 → Except SizeError (Trie × Nat × Nat)
  | [] => do return (t, depth, ← t.runSize input)
  | b :: rest => do
    let size ← t.runSize input
    if depth < size then
      match t.child? b with
      | some next => descend input next (depth + 1) rest
      | none => return (t, depth, size)
    else return (t, depth, size)

/-- The run at a byte. -/
def runAt (t : Trie) (b : UInt8) (rest : List UInt8) : Except SizeError Run :=
  match t.child? b with
  | none => .ok (.single b)
  | some first => do
    let input := b :: rest
    let (last, depth, size) ← first.descend input 1 rest
    let bytes := input.take (max depth size)
    return .ofEntry last.replacement bytes (bytes.drop depth)

end Trie

/-! ### Patterns -/

/-- Bytes and places that any byte fits, with the text for them. -/
structure Pattern where
  bytes : List (Option UInt8)
  replacement : Option String
deriving DecidableEq, Repr

namespace Pattern

def length (p : Pattern) : Nat := p.bytes.length

/-- Whether the input starts with bytes that fit. -/
def fits : List (Option UInt8) → List UInt8 → Bool
  | [], _ => true
  | _ :: _, [] => false
  | expected :: more, b :: rest => (expected.isNone || expected == some b) && fits more rest

/-- The bytes at the open places. -/
def openBytes : List (Option UInt8) → List UInt8 → List UInt8
  | none :: more, b :: rest => b :: openBytes more rest
  | some _ :: more, _ :: rest => openBytes more rest
  | _, _ => []

def run (p : Pattern) (input : List UInt8) : Run :=
  let bytes := input.take p.length
  .ofEntry p.replacement bytes (openBytes p.bytes bytes)

/-- The longer of two patterns, the first of equally long ones. -/
def longer (best : Option Pattern) (p : Pattern) : Option Pattern :=
  match best with
  | none => some p
  | some q => if q.length < p.length then some p else some q

/-- The longest pattern that fits, the first of equally long ones. -/
def longest? (ps : List Pattern) (input : List UInt8) : Option Pattern :=
  (ps.filter fun p => fits p.bytes input).foldl longer none

/-- The run at a byte. -/
def runAt (ps : List Pattern) (b : UInt8) (rest : List UInt8) : Run :=
  match longest? ps (b :: rest) with
  | some p => p.run (b :: rest)
  | none => .single b

end Pattern

/-! ### Tables -/

structure Table where
  name : String
  root : Trie := .empty
  patterns : List Pattern := []
deriving Inhabited

namespace Table

/-- The place of a failure: the table and the position. What is no finding about a size has none. -/
def place (t : Table) (position : Nat) (e : SizeError) : List String :=
  if e.bare?.isSome then [] else [t.name ++ Located.index position]

variable [Host]

/-- The run at a position. A table with patterns has no use for its tree. -/
def runAt (t : Table) (position : Nat) (b : UInt8) (rest : List UInt8) :
    Except (Located SizeError) Run :=
  if t.patterns.isEmpty then
    match t.root.runAt b rest with
    | .ok run => .ok run
    | .error e => .error ⟨e, t.place position e⟩
  else .ok (Pattern.runAt t.patterns b rest)

def runs (t : Table) (input : List UInt8) : Except (Located SizeError) (List Run) :=
  runsFrom t.runAt 0 0 input

/-- The text of bytes. -/
def decode (t : Table) (input : List UInt8) : Except (Located SizeError) String := do
  return String.join ((← t.runs input).map Run.text)

/-- Tables are read in one direction only. -/
inductive EncodeFault where
  | unsupported
deriving DecidableEq, Repr

def EncodeFault.message : EncodeFault → String
  | .unsupported => "Script table text encoding is not supported"

/-- No text is turned back into bytes. -/
def encode (_ : Table) (_ : String) : Except EncodeFault (List UInt8) := .error .unsupported

end Table

end GameAtlas.Script
