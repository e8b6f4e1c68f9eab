import GameAtlas.Data.Located
import GameAtlas.Image.Value
import GameAtlas.Projection.Color
import GameAtlas.Projection.Number
import GameAtlas.Projection.Tile
import GameAtlas.Schema.Game
import GameAtlas.Text.Utf8

/-!
Values as documents and texts. The two sorts of documents differ in colors only: as triples of
numbers, or as hexadecimal texts. Scripts take the tables and the default of a game, if there is
one.
-/

namespace GameAtlas.Projection

open Image (Value)
open Schema (Field Game Kind SizeError)

/-- Trees of texts and numbers. -/
inductive Doc where
  | text (s : String)
  | number (n : Int)
  | list (items : List Doc)
  | map (pairs : List (String × Doc))
deriving Inhabited

/-- Why a value cannot be shown. -/
inductive Fault where
  | encoding (charset : String)
  | script (e : Located SizeError)
  | tile (e : TileFault)
  | color (e : ColorFault)
  | digits (e : DigitFault)
  | noText (kind : Kind)

def Fault.message : Fault → String
  | .encoding charset =>
    "Unsupported character encoding: " ++ (if charset = "" then "(none)" else charset)
  | .script e => e.text SizeError.message
  | .tile e => e.message
  | .color e => e.message
  | .digits e => e.message
  | .noText kind => s!"{kind.name} values have no text form"

/-! ### Scripts -/

/-- Character sets that need no table, by their names in capitals. -/
def builtinText? (charset : String) (bytes : List UInt8) : Option String :=
  let name := Text.toUpper charset
  if name = "ASCII" then some (Text.asciiLossy bytes)
  else if name = "UTF-8" then some (Text.utf8Lossy bytes)
  else none

/-- The table of a game for a character set. -/
def table? (game : Option Game) (charset : String) : Option Script.Table :=
  game.bind fun g => Keyed.get? charset g.tables

variable [Host]

/-- The text of a script: by a table, or by a character set that needs none. A field without a
character set takes the game's. -/
def scriptText (game : Option Game) (f : Field) (bytes : List UInt8) : Except Fault String :=
  let charset := if f.charset = "" then (game.map Game.defaultScript).getD "" else f.charset
  match table? game charset with
  | some table =>
    match table.decode bytes with
    | .ok s => .ok s
    | .error e => .error (.script e)
  | none =>
    match builtinText? charset bytes with
    | some s => .ok s
    | none => .error (.encoding charset)

/-- The text of a number in a base. What is in decimal digits has to be written by the host. -/
def numberText (n base : Int) : Except Fault String :=
  match baseMark? base, Host.writingFault? n with
  | none, some fault => .error (.digits fault)
  | _, _ => .ok (formatNumber n base)

/-- The text of a value; scripts and integers have one. -/
def toText (game : Option Game) (v : Value) : Except Fault String :=
  match v with
  | .raw f _ bytes =>
    if f.kind = .script then scriptText game f bytes else .error (.noText v.kind)
  | .number f width n =>
    if f.kind = .integer then
      numberText (signedNumber f.endianness f.signed width n) f.numberBase
    else .error (.noText v.kind)
  | v => .error (.noText v.kind)

/-! ### Documents -/

/-- How colors stand in a document. -/
inductive ColorForm where
  | triples
  | hex
deriving DecidableEq, Repr

def natDoc (n : Nat) : Doc := .number n

def ColorForm.doc (form : ColorForm) (c : Rgb) : Doc :=
  match form with
  | .triples => .list (c.toList.map natDoc)
  | .hex => .text c.hex

/-- A number by its name, by the names of its bits or as it is. -/
def numberDoc (f : Field) (n : Int) : Doc :=
  match f.kind with
  | .pointer => .number (f.pointerBase + n)
  | .integer =>
    match Keyed.get? n f.values with
    | some name => .text name
    | none => bitsDoc f n
  | _ => bitsDoc f n
where
  /-- The names of the bits, if bits have names. -/
  bitsDoc (f : Field) (n : Int) : Doc :=
    if f.bitValues.isEmpty then .number n else .list ((bitNames n f.bitValues).map .text)

/-- Bytes by their kind. -/
def rawDoc (game : Option Game) (form : ColorForm) (f : Field) (bytes : List UInt8) :
    Except Fault Doc :=
  match f.kind with
  | .script => (scriptText game f bytes).map .text
  | .tile =>
    match tilePixels bytes f.format with
    | .ok rows => .ok (.list (rows.map fun row => .list (row.map natDoc)))
    | .error e => .error (.tile e)
  | .color =>
    match colorValues bytes f.format with
    | .ok colors => .ok (.list (colors.map form.doc))
    | .error e => .error (.color e)
  | _ => .ok (.list (bytes.map fun b => natDoc b.toNat))

mutual

/-- The document of a value. -/
def document (game : Option Game) (form : ColorForm) (v : Value) : Except Fault Doc :=
  match v with
  | .number f width n => .ok (numberDoc f (signedNumber f.endianness f.signed width n))
  | .raw f _ bytes => rawDoc game form f bytes
  | .elements _ _ items => do return .list (← documents game form items)
  | .members _ _ parts => do return .map (← memberDocs game form [] parts)
termination_by structural v

def documents (game : Option Game) (form : ColorForm) (vs : List Value) :
    Except Fault (List Doc) :=
  match vs with
  | [] => .ok []
  | v :: rest => do
    let d ← document game form v
    return d :: (← documents game form rest)
termination_by structural vs

/-- The members of a struct, the first of each name. `seen` are the names before. -/
def memberDocs (game : Option Game) (form : ColorForm) (seen : List String) (vs : List Value) :
    Except Fault (List (String × Doc)) :=
  match vs with
  | [] => .ok []
  | v :: rest =>
    if seen.contains v.name then memberDocs game form seen rest
    else do
      let d ← document game form v
      return (v.name, d) :: (← memberDocs game form (v.name :: seen) rest)
termination_by structural vs

end

/-- The document that is written as YAML. -/
def toDocument (game : Option Game) (v : Value) : Except Fault Doc := document game .triples v

/-- The document that is written as JSON. -/
def toJson (game : Option Game) (v : Value) : Except Fault Doc := document game .hex v

end GameAtlas.Projection
