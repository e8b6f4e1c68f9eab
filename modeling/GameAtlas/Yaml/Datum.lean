import GameAtlas.Decimal.Layout
import GameAtlas.Host
import GameAtlas.Text.Quoted
import GameAtlas.Yaml.Calendar

/-!
What YAML nodes stand for, and the texts of it. Lists and mappings show what they hold as messages
show values.
-/

namespace GameAtlas.Yaml

inductive Datum where
  | null
  | bool (b : Bool)
  | integer (n : Int)
  | real (x : Float)
  /-- What `.nan` stands for: one value, equal to itself as a key. -/
  | notANumber
  | text (s : String)
  | bytes (bs : List UInt8)
  | date (d : Date)
  | moment (m : Moment)
  | list (items : List Datum)
  | dict (pairs : List (Datum × Datum))
deriving Inhabited

namespace Datum

variable [Host]

mutual

/-- How messages show a value. -/
def shown : Datum → String
  | .null => "None"
  | .bool true => "True"
  | .bool false => "False"
  | .integer n => toString n
  | .real x => Decimal.Layout.plain.text x
  | .notANumber => Decimal.Layout.plain.text Binary64.notANumber
  | .text s => Text.quoted s
  | .bytes bs => Text.quotedBytes bs
  | .date d => d.shown
  | .moment m => m.shown
  | .list items => Text.bracketed (shownItems items)
  | .dict pairs => "\x7b" ++ ", ".intercalate (shownPairs pairs) ++ "\x7d"

def shownItems : List Datum → List String
  | [] => []
  | d :: rest => shown d :: shownItems rest

def shownPairs : List (Datum × Datum) → List String
  | [] => []
  | (k, v) :: rest => (shown k ++ ": " ++ shown v) :: shownPairs rest

end

/-- The text of a value: texts, dates and moments stand without marks. -/
def toText : Datum → String
  | .text s => s
  | .date d => d.text
  | .moment m => m.text
  | d => d.shown

mutual

/-- What keeps a value from being written: an integer that is in it. -/
def digitFault? : Datum → Option DigitFault
  | .integer n => Host.writingFault? n
  | .list items => itemDigitFault? items
  | .dict pairs => pairDigitFault? pairs
  | _ => none

def itemDigitFault? : List Datum → Option DigitFault
  | [] => none
  | d :: rest => digitFault? d <|> itemDigitFault? rest

def pairDigitFault? : List (Datum × Datum) → Option DigitFault
  | [] => none
  | (k, v) :: rest => digitFault? k <|> digitFault? v <|> pairDigitFault? rest

end

/-- The number that a value counts as when keys are compared; truth values are one and zero. -/
def integer? : Datum → Option Int
  | .bool b => some (if b then 1 else 0)
  | .integer n => some n
  | _ => none

/-- Whether a double is exactly an integer. -/
def realIsInteger (x : Float) (n : Int) : Bool :=
  match Binary64.ofFloat x with
  | .finite negative significand exponent =>
    (Binary64.finite negative significand exponent).isWhole &&
      Binary64.truncate negative significand exponent == n
  | _ => false

/-- Whether two values are one key. Numbers are compared by value whatever their kind; what a
numeral gives that is no number differs from every key. -/
def sameKey (a b : Datum) : Bool :=
  match a, b with
  | .null, .null => true
  | .text s, .text t => s == t
  | .bytes s, .bytes t => s == t
  | .date d, .date e => d == e
  | .moment m, .moment n => m.same n
  | .notANumber, .notANumber => true
  | .real x, .real y => x == y
  | .real x, d | d, .real x =>
    match d.integer? with
    | some n => realIsInteger x n
    | none => false
  | _, _ =>
    match a.integer?, b.integer? with
    | some m, some n => m == n
    | _, _ => false

/-- Sets a key. A key that is there keeps its place and its first form. -/
def put (key value : Datum) : List (Datum × Datum) → List (Datum × Datum)
  | [] => [(key, value)]
  | (k, v) :: rest =>
    if k.sameKey key then (k, value) :: rest else (k, v) :: put key value rest

end Datum

end GameAtlas.Yaml
