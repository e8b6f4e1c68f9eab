import GameAtlas.Text.Numeral
import GameAtlas.Yaml.ScalarForm

/-!
Written text with the place where it ends, and scalars written onto it. Lines longer than eighty
columns are broken at single spaces.
-/

namespace GameAtlas.Yaml

/-- Text written so far. `blank` says that it ends in a blank or break, `indenting` that only
indentation stands on its last line, `openEnded` that its last scalar may go on. -/
structure Output where
  text : String := ""
  column : Nat := 0
  blank : Bool := true
  indenting : Bool := true
  openEnded : Bool := false
  /-- The shared nodes that were written. -/
  written : List Nat := []

namespace Output

/-- Lines are broken behind this column. -/
def width : Nat := 80

/-- Appends text within a line. -/
def put (o : Output) (s : String) : Output :=
  { o with text := o.text ++ s, column := o.column + s.length }

def putChars (o : Output) (cs : List Char) : Output := o.put (String.ofList cs)

/-- A mark that opens, closes or separates. `spaced` ones need a blank before them. -/
def indicator (o : Output) (s : String) (spaced : Bool) (blank : Bool := false)
    (indenting : Bool := false) : Output :=
  let o' := o.put (if o.blank || !spaced then s else " " ++ s)
  { o' with blank := blank, indenting := o.indenting && indenting, openEnded := false }

def lineBreak (o : Output) (c : Char) : Output :=
  { o with text := o.text.push c, column := 0, blank := true, indenting := true }

/-- Goes to an indentation, on a new line unless only indentation stands on this one. -/
def indent (o : Output) (indentation : Nat) : Output :=
  let o :=
    if !o.indenting || indentation < o.column || (o.column == indentation && !o.blank) then
      o.lineBreak '\n'
    else o
  if o.column < indentation then
    { o.put (String.ofList (List.replicate (indentation - o.column) ' ')) with blank := true }
  else o

/-- Goes on within a scalar. -/
def continued (o : Output) : Output := { o with blank := false, indenting := false }

end Output

/-- A run of characters of one kind. -/
inductive Segment where
  | spaces (count : Nat)
  | breaks (cs : List Char)
  | word (cs : List Char)

/-- Adds a character in front of the first run if it is of that kind. -/
def Segment.cons (c : Char) (rest : List Segment) : List Segment :=
  if c == ' ' then
    match rest with
    | .spaces n :: more => .spaces (n + 1) :: more
    | _ => .spaces 1 :: rest
  else if isWrittenBreak c then
    match rest with
    | .breaks cs :: more => .breaks (c :: cs) :: more
    | _ => .breaks [c] :: rest
  else
    match rest with
    | .word cs :: more => .word (c :: cs) :: more
    | _ => .word [c] :: rest

/-- A text as runs of spaces, line ends and other characters. -/
def segments (cs : List Char) : List Segment := cs.foldr Segment.cons []

namespace Output

def spacesText (n : Nat) : String := String.ofList (List.replicate n ' ')

/-- Line ends within a quoted scalar: one more than there are, since one of them folds. -/
def foldedBreaks (o : Output) (cs : List Char) : Output :=
  let o := if cs.head? == some '\n' then o.lineBreak '\n' else o
  cs.foldl lineBreak o

/-! ### Plain and quoted scalars -/

def plainSegments (split : Bool) (indentation : Nat) (o : Output) : List Segment → Output
  | [] => o
  | .spaces n :: rest =>
    let o :=
      if n = 1 && width < o.column && split then (o.indent indentation).continued
      else o.put (spacesText n)
    plainSegments split indentation o rest
  | .breaks cs :: rest =>
    plainSegments split indentation (((o.foldedBreaks cs).indent indentation).continued) rest
  | .word cs :: rest => plainSegments split indentation (o.putChars cs) rest

/-- A plain scalar; as the root of a document it has no visible end. -/
def plain (o : Output) (cs : List Char) (split root : Bool) (indentation : Nat) : Output :=
  let o := if root then { o with openEnded := true } else o
  if cs.isEmpty then o
  else
    let o := if o.blank then o else o.put " "
    plainSegments split indentation o.continued (segments cs)

/-- The runs of a single quoted scalar. A space at either end stays. -/
def singleSegments (split : Bool) (indentation : Nat) (first : Bool) (o : Output) :
    List Segment → Output
  | [] => o
  | .spaces n :: rest =>
    let o :=
      if n = 1 && width < o.column && split && !first && !rest.isEmpty then o.indent indentation
      else o.put (spacesText n)
    singleSegments split indentation false o rest
  | .breaks cs :: rest =>
    singleSegments split indentation false ((o.foldedBreaks cs).indent indentation) rest
  | .word cs :: rest =>
    let doubled := cs.flatMap fun c => if c == '\'' then ['\'', '\''] else [c]
    singleSegments split indentation false (o.putChars doubled) rest

def singleQuoted (o : Output) (cs : List Char) (split : Bool) (indentation : Nat) : Output :=
  (singleSegments split indentation true (o.indicator "'" true) (segments cs)).indicator "'" false

/-- The letter of an escape. -/
def escapeLetter? (c : Char) : Option Char :=
  [('\x00', '0'), ('\x07', 'a'), ('\x08', 'b'), ('\t', 't'), ('\n', 'n'), ('\x0B', 'v'),
   ('\x0C', 'f'), ('\r', 'r'), ('\x1B', 'e'), ('"', '"'), ('\\', '\\'), ('\x85', 'N'),
   ('\xA0', '_'), ('\u2028', 'L'), ('\u2029', 'P')].lookup c

def escaped (c : Char) : String :=
  match escapeLetter? c with
  | some letter => String.ofList ['\\', letter]
  | none =>
    let wide (width : Nat) : String := Text.padLeft width '0' (Text.upperHex c.toNat)
    if c.toNat ≤ 0xFF then "\\x" ++ wide 2
    else if c.toNat ≤ 0xFFFF then "\\u" ++ wide 4
    else "\\U" ++ wide 8

def needsEscape (unicode : Bool) (c : Char) : Bool :=
  "\"\\\x85\u2028\u2029\uFEFF".toList.contains c ||
    !((' ' ≤ c && c ≤ '~') || (unicode && '\xA0' ≤ c && c ≤ '\uFFFD'))

/-- The characters of a double quoted scalar. `pending` are the last ones, the latest first, that
are not written yet; `first` says that none came before. A line is broken before a space or behind
what was written, but not next to either end. -/
def doubleFrom (unicode split : Bool) (indentation : Nat) (first : Bool) (pending : List Char)
    (o : Output) : List Char → Output
  | [] => o.putChars pending.reverse
  | c :: rest =>
    let escape := needsEscape unicode c
    let o := if escape then (o.putChars pending.reverse).put (escaped c) else o
    let pending := if escape then [] else pending
    let long :=
      if escape then width + 1 < o.column else width < o.column + pending.length
    if !first && !rest.isEmpty && (c == ' ' || pending.isEmpty) && long && split then
      let o := (((o.putChars pending.reverse).put "\\").indent indentation).continued
      let next := if escape then rest.head? else some c
      let o := if next == some ' ' then o.put "\\" else o
      doubleFrom unicode split indentation false (if escape then [] else [c]) o rest
    else
      doubleFrom unicode split indentation false (if escape then [] else c :: pending) o rest

def doubleQuoted (o : Output) (cs : List Char) (unicode split : Bool) (indentation : Nat) :
    Output :=
  (doubleFrom unicode split indentation true [] (o.indicator "\"" true) cs).indicator "\"" false

/-! ### Block scalars -/

/-- The marks behind the sign of a block: an indentation if the text starts with a blank, and what
to do with the line ends at its end. -/
def blockHints (cs : List Char) : String :=
  let indentation := if cs.head?.any fun c => c == ' ' || isWrittenBreak c then "2" else ""
  let chomping :=
    match cs.reverse with
    | [] => ""
    | last :: before =>
      if !isWrittenBreak last then "-"
      else if before.head?.all isWrittenBreak then "+"
      else ""
  indentation ++ chomping

def blockStart (o : Output) (sign : String) (cs : List Char) : Output :=
  let hints := blockHints cs
  let o := o.indicator (sign ++ hints) true
  let o := if hints.endsWith "+" then { o with openEnded := true } else o
  o.lineBreak '\n'

/-- A block begins with line ends, of which there may be none. -/
def fromBreaks (ss : List Segment) : List Segment :=
  match ss with
  | .breaks _ :: _ => ss
  | _ => .breaks [] :: ss

def literalSegments (indentation : Nat) (o : Output) : List Segment → Output
  | [] => o
  | .breaks cs :: rest =>
    let o := cs.foldl lineBreak o
    literalSegments indentation (if rest.isEmpty then o else o.indent indentation) rest
  | segment :: rest =>
    let cs := match segment with
      | .word cs => cs
      | .spaces n => List.replicate n ' '
      | .breaks _ => []
    let o := { o with text := o.text ++ String.ofList cs }
    literalSegments indentation (if rest.isEmpty then o.lineBreak '\n' else o) rest

def literal (o : Output) (cs : List Char) (indentation : Nat) : Output :=
  literalSegments indentation (o.blockStart "|" cs) (fromBreaks (segments cs))

/-- The lines of a folded block. `spaced` says that the line before starts with a space, or is the
first. -/
def foldedSegments (indentation : Nat) (spaced : Bool) (o : Output) : List Segment → Output
  | [] => o
  | .breaks cs :: rest =>
    let startsWithSpace := match rest with
      | .spaces _ :: _ => true
      | _ => false
    let o :=
      if !spaced && !rest.isEmpty && !startsWithSpace && cs.head? == some '\n' then
        o.lineBreak '\n'
      else o
    let o := cs.foldl lineBreak o
    foldedSegments indentation startsWithSpace (if rest.isEmpty then o else o.indent indentation)
      rest
  | .spaces n :: rest =>
    let o := if n = 1 && width < o.column then o.indent indentation else o.put (spacesText n)
    foldedSegments indentation spaced o rest
  | .word cs :: rest =>
    let o := o.putChars cs
    foldedSegments indentation spaced (if rest.isEmpty then o.lineBreak '\n' else o) rest

def folded (o : Output) (cs : List Char) (indentation : Nat) : Output :=
  foldedSegments indentation true (o.blockStart ">" cs) (fromBreaks (segments cs))

end Output

end GameAtlas.Yaml
