import GameAtlas.Yaml.Resolution
import GameAtlas.Yaml.Token

/-!
In which styles a text may be written, and which one it is written in. A plain scalar must read back
as the same text with the same tag.
-/

namespace GameAtlas.Yaml

/-- The line ends that a written text keeps. -/
def isWrittenBreak (c : Char) : Bool :=
  c == '\n' || c == '\x85' || c == '\u2028' || c == '\u2029'

/-- Characters that stand as they are only if all of Unicode may. -/
def isWideCharacter (c : Char) : Bool :=
  (c == '\x85' || ('\xA0' ≤ c && c ≤ '\uFFFD') || (0x10000 ≤ c.toNat && c.toNat < 0x10FFFF)) &&
    c != byteOrderMark

/-- A character between its neighbours, the end mark outside the text. -/
structure Neighbours where
  before : Char
  here : Char
  behind : Char

/-- Every character with its neighbours. -/
def neighbours (before : Char) : List Char → List Neighbours
  | [] => []
  | c :: rest => ⟨before, c, rest.head?.getD endMark⟩ :: neighbours c rest

/-- What a text holds that keeps it from some style. -/
structure Findings where
  blockMarks : Bool
  flowMarks : Bool
  breaks : Bool
  special : Bool
  outerBlanks : Bool
  trailingSpace : Bool
  spaceAfterBreak : Bool
  breakAfterSpace : Bool

/-- A first character that begins something else than plain text in blocks. -/
def leadingBlockMark (n : Neighbours) : Bool :=
  "#,[]\x7b\x7d&*!|>'\"%@\x60".toList.contains n.here ||
    ("?:-".toList.contains n.here && isBlankOrEnd n.behind)

def leadingFlowMark (n : Neighbours) : Bool :=
  leadingBlockMark n || n.here == '?' || n.here == ':'

/-- A later character that ends plain text in blocks: a colon before a blank, a number sign behind
one. -/
def innerBlockMark (n : Neighbours) : Bool :=
  (n.here == ':' && isBlankOrEnd n.behind) || (n.here == '#' && isBlankOrEnd n.before)

def innerFlowMark (n : Neighbours) : Bool :=
  innerBlockMark n || ",?[]\x7b\x7d:".toList.contains n.here

def isSpecial (unicode : Bool) (c : Char) : Bool :=
  !(c == '\n' || (' ' ≤ c && c ≤ '~') || (unicode && isWideCharacter c))

def startsLikeMark (cs : List Char) : Bool :=
  "---".toList.isPrefixOf cs || "...".toList.isPrefixOf cs

def findings (unicode : Bool) (cs : List Char) : Findings :=
  let all := neighbours endMark cs
  let first := all.head?
  let inner := all.drop 1
  let outer (c : Option Char) : Bool := c.any fun c => c == ' ' || isWrittenBreak c
  { blockMarks := startsLikeMark cs || first.any leadingBlockMark || inner.any innerBlockMark
    flowMarks := startsLikeMark cs || first.any leadingFlowMark || inner.any innerFlowMark
    breaks := cs.any isWrittenBreak
    special := cs.any (isSpecial unicode)
    outerBlanks := outer cs.head? || outer cs.getLast?
    trailingSpace := cs.getLast? == some ' '
    spaceAfterBreak := all.any fun n => isWrittenBreak n.before && n.here == ' '
    breakAfterSpace := all.any fun n => n.before == ' ' && isWrittenBreak n.here }

/-- The styles in which a text may be written; double quotes take every text. -/
structure Admitted where
  empty : Bool
  multiline : Bool
  flowPlain : Bool
  blockPlain : Bool
  singleQuoted : Bool
  block : Bool

def admitted (unicode : Bool) (cs : List Char) : Admitted :=
  if cs.isEmpty then ⟨true, false, false, true, true, false⟩
  else
    let f := findings unicode cs
    let onlyDoubleQuoted := f.breakAfterSpace || f.special
    let plain := !(f.outerBlanks || f.spaceAfterBreak || onlyDoubleQuoted || f.breaks)
    { empty := false
      multiline := f.breaks
      flowPlain := plain && !f.flowMarks
      blockPlain := plain && !f.blockMarks
      singleQuoted := !(f.spaceAfterBreak || onlyDoubleQuoted)
      block := !(f.trailingSpace || onlyDoubleQuoted) }

/-- The style in which a scalar is written. `wanted` is the style it was read in, `plainReads` says
that a plain scalar of this text has its tag. -/
def chooseStyle (a : Admitted) (wanted : ScalarStyle) (plainReads flow simpleKey : Bool) :
    ScalarStyle :=
  let single :=
    if a.singleQuoted && !(simpleKey && a.multiline) then ScalarStyle.singleQuoted
    else .doubleQuoted
  match wanted with
  | .doubleQuoted => .doubleQuoted
  | .plain =>
    if plainReads && !(simpleKey && (a.empty || a.multiline)) &&
        (if flow then a.flowPlain else a.blockPlain) then .plain
    else single
  | .singleQuoted => single
  | style => if !flow && !simpleKey && a.block then style else .doubleQuoted

end GameAtlas.Yaml
