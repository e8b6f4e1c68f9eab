import GameAtlas.Text.Utf8
import GameAtlas.Yaml.Node

/-!
Tokens of YAML texts, and the state of the scan that finds them: the place in the text, the
indentations of the open block collections, and the places where a key without a mark may have
begun.
-/

namespace GameAtlas.Yaml

/-- Why a text is not YAML. Code points that do not exist and bytes that are no text are told apart
from the rest. The last two are no faults of the text, but documents that are left out: a text may
hold half of a pair of surrogates, and a node may lie within itself, and neither is had here. -/
inductive Fault where
  | malformed
  | noSuchCodePoint
  | codePointTooLarge
  | encoding (f : Text.Utf8Fault)
  | loneSurrogate
  | selfReference
deriving DecidableEq, Repr

def Fault.message : Fault → String
  | .malformed => "bad yaml"
  | .noSuchCodePoint => "chr() arg not in range(0x110000)"
  | .codePointTooLarge => "Python int too large to convert to C int"
  | .encoding f => f.message
  | .loneSurrogate => "surrogates are left out"
  | .selfReference => "nodes within themselves are left out"

/-- Whether a document is left out rather than faulty. -/
def Fault.isLeftOut : Fault → Bool
  | .loneSurrogate | .selfReference => true
  | _ => false

inductive Token where
  | versionDirective (major : Nat)
  | tagDirective (handle start : String)
  | otherDirective
  | documentStart
  | documentEnd
  | blockSequenceStart
  | blockMappingStart
  | blockEnd
  | flowSequenceStart
  | flowSequenceEnd
  | flowMappingStart
  | flowMappingEnd
  | blockEntry
  | flowEntry
  | key
  | value
  | alias (name : String)
  | anchor (name : String)
  | tag (handle : Option String) (suffix : String)
  | scalar (text : String) (style : ScalarStyle)
deriving DecidableEq, Repr

/-! ### Characters -/

def isBreak (c : Char) : Bool :=
  c == '\r' || c == '\n' || c == '\x85' || c == '\u2028' || c == '\u2029'

/-- The end of a text shows as a null character, which no text holds. -/
def endMark : Char := '\x00'

def isBreakOrEnd (c : Char) : Bool := isBreak c || c == endMark

def isSpaceOrEnd (c : Char) : Bool := c == ' ' || isBreakOrEnd c

def isBlankOrEnd (c : Char) : Bool := c == '\t' || isSpaceOrEnd c

/-- Characters of anchors, handles and directives. -/
def isNameChar (c : Char) : Bool := c.isAlphanum || c == '-' || c == '_'

def isHexDigit (c : Char) : Bool :=
  c.isDigit || ('a' ≤ c && c ≤ 'f') || ('A' ≤ c && c ≤ 'F')

/-- Characters that a text may hold. -/
def isPrintable (c : Char) : Bool :=
  c == '\t' || c == '\n' || c == '\r' || (' ' ≤ c && c ≤ '~') || c == '\x85' ||
    ('\xA0' ≤ c && c ≤ '\uFFFD') || 0x10000 ≤ c.toNat

def byteOrderMark : Char := '\uFEFF'

/-! ### The state of a scan -/

/-- A place where a key may have begun: the number of the token there, and whether a key has to
begin there. -/
structure KeyPlace where
  token : Nat
  required : Bool
  index : Nat
  line : Nat
  column : Nat

structure Scanner where
  rest : List Char
  /-- The fault that is met behind the rest, if that is not the end. -/
  behind : Option Fault := none
  /-- The number of characters of the whole text, and that of those passed. -/
  size : Nat := rest.length
  index : Nat := 0
  line : Nat := 0
  column : Nat := 0
  flowDepth : Nat := 0
  indent : Int := -1
  indents : List Int := []
  keyAllowed : Bool := true
  /-- Possible keys by flow depth. -/
  keys : List (Nat × KeyPlace) := []
  tokens : Array Token := #[]

abbrev Scan := StateT Scanner (Except Fault)

namespace Scan

def malformed : Scan α := throw .malformed

/-- The character `k` places ahead. -/
def peekAt (k : Nat) : Scan Char := do
  let s ← get
  match s.rest[k]?, s.behind with
  | some c, _ => return c
  | none, some fault => throw fault
  | none, none => return endMark

def peek : Scan Char := peekAt 0

/-- The next `n` characters, fewer at the end. -/
def ahead (n : Nat) : Scan (List Char) := do
  let s ← get
  let cs := s.rest.take n
  match s.behind with
  | some fault => if cs.length < n then throw fault else return cs
  | none => return cs

/-- Looks for something only where `needed` says so. -/
def whenever (needed : Bool) (look : Scan Bool) : Scan Bool :=
  if needed then look else return false

/-- Moves over one character. A line end of two characters counts at its second one; the byte order
mark has no width. -/
def stepOver (s : Scanner) : Scanner :=
  match s.rest with
  | [] => s
  | c :: rest =>
    let s := { s with rest := rest, index := s.index + 1 }
    if (isBreak c && c != '\r') || (c == '\r' && rest.head? != some '\n') then
      { s with line := s.line + 1, column := 0 }
    else if c == byteOrderMark then s
    else { s with column := s.column + 1 }

/-- Moves over `n` characters. The one behind them has to be seen. -/
def forward (n : Nat) : Scan Unit := do
  discard <| peekAt n
  modify fun s => n.repeat stepOver s

/-- Takes the longest run of characters of a class. -/
def takeWhile (p : Char → Bool) : Scan (List Char) := do
  let run := (← get).rest.takeWhile p
  forward run.length
  return run

def skipSpaces : Scan Unit := discard <| takeWhile (· == ' ')

/-- The number of characters left, as a bound for loops. -/
def bound : Scan Nat := return (← get).size - (← get).index + 1

/-- A run of hexadecimal digits that begins `k` places ahead. -/
def hexDigits (k : Nat) : Nat → Scan (List Char)
  | 0 => return []
  | n + 1 => do
    let c ← peekAt k
    if !isHexDigit c then malformed
    return c :: (← hexDigits (k + 1) n)

/-- Takes a line end, which reads as a line feed or as the separator that it is. -/
def lineBreak : Scan (List Char) := do
  let c ← peek
  if ← whenever (c == '\r') (return (← peekAt 1) == '\n') then forward 2; return ['\n']
  else if c == '\r' || c == '\n' || c == '\x85' then forward 1; return ['\n']
  else if c == '\u2028' || c == '\u2029' then forward 1; return [c]
  else return []

/-- Whether a document mark of three equal characters stands here. -/
def atMark (c : Char) : Scan Bool := do
  whenever ((← ahead 3) == [c, c, c]) (return isBlankOrEnd (← peekAt 3))

def atDocumentMark : Scan Bool := do
  return (← atMark '-') || (← atMark '.')

/-- The rest of a line that may hold blanks and a comment only. -/
def ignoredLine : Scan Unit := do
  skipSpaces
  if (← peek) == '#' then discard <| takeWhile fun c => !isBreakOrEnd c
  if !isBreakOrEnd (← peek) then malformed
  discard lineBreak

end Scan

end GameAtlas.Yaml
