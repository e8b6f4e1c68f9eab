import GameAtlas.Decimal.Reading
import GameAtlas.Yaml.Token

/-!
Texts of scalars as they stand in a document: quoted, in blocks, and plain. Line ends within a
scalar fold to spaces, except where a block keeps them.
-/

namespace GameAtlas.Yaml.Scan

/-! ### Quoted scalars -/

/-- The character that an escape letter stands for. -/
def escape? (c : Char) : Option Char :=
  [('0', '\x00'), ('a', '\x07'), ('b', '\x08'), ('t', '\t'), ('\t', '\t'), ('n', '\n'),
   ('v', '\x0B'), ('f', '\x0C'), ('r', '\r'), ('e', '\x1B'), (' ', ' '), ('"', '"'), ('\\', '\\'),
   ('/', '/'), ('N', '\x85'), ('_', '\xA0'), ('L', '\u2028'), ('P', '\u2029')].lookup c

/-- The number of hexadecimal digits behind an escape letter. -/
def codeLength? (c : Char) : Option Nat := [('x', 2), ('u', 4), ('U', 8)].lookup c

def hexValue (cs : List Char) : Nat :=
  cs.foldl (fun n c => n * 16 + (Text.digitValue? c).getD 0) 0

/-- The character of a code point. Surrogates stand for none. -/
def codePoint (n : Nat) : Scan Char :=
  if 0x80000000 ≤ n then throw .codePointTooLarge
  else if 0x110000 ≤ n then throw .noSuchCodePoint
  else if 0xD800 ≤ n && n ≤ 0xDFFF then throw .loneSurrogate
  else return Char.ofNat n

/-- Line ends behind a first one, with the blanks around them. -/
def quotedBreaks : Nat → Scan (List Char)
  | 0 => malformed
  | fuel + 1 => do
    if ← atDocumentMark then malformed
    discard <| takeWhile fun c => c == ' ' || c == '\t'
    if isBreak (← peek) then
      let first ← lineBreak
      return first ++ (← quotedBreaks fuel)
    else return []

/-- Characters up to a blank, a line end or the closing quote. -/
def quotedRun (double : Bool) : Nat → Scan (List Char)
  | 0 => malformed
  | fuel + 1 => do
    let run ← takeWhile fun c => !(isBlankOrEnd c || c == '\'' || c == '"' || c == '\\')
    let c ← peek
    if ← whenever (!double && c == '\'') (return (← peekAt 1) == '\'') then
      forward 2
      return run ++ '\'' :: (← quotedRun double fuel)
    else if (double && c == '\'') || (!double && (c == '"' || c == '\\')) then
      forward 1
      return run ++ c :: (← quotedRun double fuel)
    else if double && c == '\\' then
      forward 1
      let mark ← peek
      match escape? mark, codeLength? mark with
      | some e, _ =>
        forward 1
        return run ++ e :: (← quotedRun double fuel)
      | none, some length =>
        forward 1
        let e ← codePoint (hexValue (← hexDigits 0 length))
        forward length
        return run ++ e :: (← quotedRun double fuel)
      | none, none =>
        if isBreak mark then
          discard lineBreak
          let breaks ← quotedBreaks fuel
          return run ++ breaks ++ (← quotedRun double fuel)
        else malformed
    else return run

/-- Blanks within a quoted scalar; a single line end folds to a space. -/
def quotedBlanks (fuel : Nat) : Scan (List Char) := do
  let blanks ← takeWhile fun c => c == ' ' || c == '\t'
  let c ← peek
  if c == endMark then malformed
  else if isBreak c then
    let first ← lineBreak
    let breaks ← quotedBreaks fuel
    return (if first != ['\n'] then first else if breaks.isEmpty then [' '] else []) ++ breaks
  else return blanks

/-- The rest of a quoted scalar behind its first run. -/
def quotedRest (double : Bool) (quote : Char) : Nat → Scan (List Char)
  | 0 => malformed
  | fuel + 1 => do
    if (← peek) == quote then
      forward 1
      return []
    else
      let blanks ← quotedBlanks fuel
      let run ← quotedRun double fuel
      return blanks ++ run ++ (← quotedRest double quote fuel)

def quotedScalar (double : Bool) : Scan Token := do
  let quote ← peek
  forward 1
  let fuel ← bound
  let run ← quotedRun double (fuel + 1)
  let rest ← quotedRest double quote (fuel + 1)
  return .scalar (String.ofList (run ++ rest)) (if double then .doubleQuoted else .singleQuoted)

/-! ### Block scalars -/

/-- What a block does with the line ends behind its text. -/
inductive Chomping where
  | clip
  | strip
  | keep
deriving DecidableEq

def chomping? (c : Char) : Option Chomping :=
  if c == '+' then some .keep else if c == '-' then some .strip else none

/-- The digit that gives a block's indentation. -/
def indentation? (c : Char) : Scan (Option Nat) := do
  if c.isDigit then
    if c == '0' then malformed
    forward 1
    return some (c.toNat - '0'.toNat)
  else return none

/-- A chomping mark and an indentation, in either order. -/
def blockHeader : Scan (Chomping × Option Nat) := do
  let c ← peek
  let header ←
    match chomping? c with
    | some chomping => do
      forward 1
      pure (chomping, ← indentation? (← peek))
    | none => do
      match ← indentation? c with
      | some n =>
        match chomping? (← peek) with
        | some chomping => do
          forward 1
          pure (chomping, some n)
        | none => pure (.clip, some n)
      | none => pure (.clip, none)
  if !isSpaceOrEnd (← peek) then malformed
  return header

/-- Empty lines before a block's text, and the greatest indentation among them. -/
def leadingBreaks (greatest : Nat) : Nat → Scan (List Char × Nat)
  | 0 => malformed
  | fuel + 1 => do
    let c ← peek
    if c == ' ' then
      forward 1
      leadingBreaks (max greatest (← get).column) fuel
    else if isBreak c then
      let first ← lineBreak
      let (breaks, greatest) ← leadingBreaks greatest fuel
      return (first ++ breaks, greatest)
    else return ([], greatest)

/-- Moves to a column, over spaces only. -/
def indentTo (indent : Nat) : Scan Unit := do
  let spaces := ((← get).rest.takeWhile (· == ' ')).length
  forward (min spaces (indent - (← get).column))

/-- Empty lines within a block. -/
def blockBreaks (indent : Nat) : Nat → Scan (List Char)
  | 0 => malformed
  | fuel + 1 => do
    indentTo indent
    if isBreak (← peek) then
      let first ← lineBreak
      return first ++ (← blockBreaks indent fuel)
    else return []

/-- The lines of a block. `breaks` are the empty lines before the next one. Returns the text, the
last line end and the empty lines behind it. -/
def blockLines (folded : Bool) (indent : Nat) (breaks : List Char) :
    Nat → Scan (List Char × List Char × List Char)
  | 0 => malformed
  | fuel + 1 => do
    let here := (← get).column == indent && (← peek) != endMark
    if !here then return ([], [], breaks)
    else
      let flush := !((← peek) == ' ' || (← peek) == '\t')
      let line ← takeWhile fun c => !isBreakOrEnd c
      let lineEnd ← lineBreak
      let nextBreaks ← blockBreaks indent (← bound)
      let c ← peek
      if (← get).column == indent && c != endMark then
        let joint :=
          if folded && lineEnd == ['\n'] && flush && !(c == ' ' || c == '\t') then
            (if nextBreaks.isEmpty then [' '] else [])
          else lineEnd
        let (text, last, behind) ← blockLines folded indent nextBreaks fuel
        return (breaks ++ line ++ joint ++ text, last, behind)
      else return (breaks ++ line, lineEnd, nextBreaks)

def blockScalar (folded : Bool) : Scan Token := do
  forward 1
  let (chomping, increment) ← blockHeader
  ignoredLine
  let least := ((← get).indent + 1).toNat.max 1
  let fuel ← bound
  let (breaks, indent) ←
    match increment with
    | none => do
      let (breaks, greatest) ← leadingBreaks 0 (fuel + 1)
      pure (breaks, max least greatest)
    | some n => do
      let indent := least + n - 1
      pure (← blockBreaks indent (fuel + 1), indent)
  let (text, last, behind) ← blockLines folded indent breaks (fuel + 1)
  let tail :=
    match chomping with
    | .clip => last
    | .strip => []
    | .keep => last ++ behind
  return .scalar (String.ofList (text ++ tail)) (if folded then .folded else .literal)

/-! ### Plain scalars -/

/-- The length of a run of a plain scalar. In flow collections their marks end it too. -/
def plainRun (flow : Bool) : List Char → Nat
  | [] => 0
  | c :: rest =>
    let next := rest.head?.getD endMark
    let stops := isBlankOrEnd c ||
      (c == ':' && (isBlankOrEnd next || (flow && ",[]\x7b\x7d".toList.contains next))) ||
      (flow && ",?[]\x7b\x7d".toList.contains c)
    if stops then 0 else plainRun flow rest + 1

/-- Empty lines and spaces between the lines of a plain scalar; `none` before a document mark. -/
def plainBreaks : Nat → Scan (Option (List Char))
  | 0 => malformed
  | fuel + 1 => do
    let c ← peek
    if c == ' ' then
      forward 1
      plainBreaks fuel
    else if isBreak c then
      let first ← lineBreak
      if ← atDocumentMark then return none
      else return (← plainBreaks fuel).map (first ++ ·)
    else return some []

/-- What stands between two runs of a plain scalar; empty where the scalar ends. -/
def plainSpaces : Scan (List Char) := do
  let spaces ← takeWhile (· == ' ')
  if isBreak (← peek) then
    let first ← lineBreak
    modify fun s => { s with keyAllowed := true }
    if ← atDocumentMark then return []
    match ← plainBreaks (← bound) with
    | none => return []
    | some breaks =>
      return (if first != ['\n'] then first else if breaks.isEmpty then [' '] else []) ++ breaks
  else return spaces

/-- The runs of a plain scalar. -/
def plainRuns (indent : Nat) (spaces : List Char) : Nat → Scan (List Char)
  | 0 => malformed
  | fuel + 1 => do
    let s ← get
    let flow := s.flowDepth != 0
    let length := if (← peek) == '#' then 0 else plainRun flow s.rest
    discard <| whenever ((← peekAt length) == ':') (return isBlankOrEnd (← peekAt (length + 1)))
    if length = 0 then return []
    else
      modify fun s => { s with keyAllowed := false }
      let run := s.rest.take length
      forward length
      let between ← plainSpaces
      if between.isEmpty || (← peek) == '#' || (!flow && (← get).column < indent) then
        return spaces ++ run
      else return spaces ++ run ++ (← plainRuns indent between fuel)

def plainScalar : Scan Token := do
  let indent := ((← get).indent + 1).toNat
  return .scalar (String.ofList (← plainRuns indent [] (← bound))) .plain

end GameAtlas.Yaml.Scan
