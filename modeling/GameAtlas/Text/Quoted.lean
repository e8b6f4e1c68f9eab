import GameAtlas.Text.Numeral
import GameAtlas.Text.Printable

/-!
Quoted literals of texts and byte strings, as messages show them: single quotes unless the content
has single and no double ones, a backslash escape for what is not printable.
-/

namespace GameAtlas.Text

/-- Small hexadecimal digits, padded with zeros. -/
def lowerHexWide (width n : Nat) : String :=
  padLeft width '0' (String.ofList (Nat.toDigits 16 n))

/-- The quote that encloses the content. -/
def quoteFor (cs : List Char) : Char :=
  if cs.contains '\'' && !cs.contains '"' then '"' else '\''

/-- The escapes that texts and byte strings share. -/
def commonEscape? (quote c : Char) : Option String :=
  if c == quote || c == '\\' then some (String.ofList ['\\', c])
  else if c == '\t' then some "\\t"
  else if c == '\n' then some "\\n"
  else if c == '\r' then some "\\r"
  else none

def escapeChar (quote c : Char) : String :=
  match commonEscape? quote c with
  | some s => s
  | none =>
    if isPrintable c then c.toString
    else if c.toNat < 0x100 then "\\x" ++ lowerHexWide 2 c.toNat
    else if c.toNat < 0x10000 then "\\u" ++ lowerHexWide 4 c.toNat
    else "\\U" ++ lowerHexWide 8 c.toNat

/-- A text as a quoted literal. -/
def quoted (s : String) : String :=
  let quote := quoteFor s.toList
  quote.toString ++ String.join (s.toList.map (escapeChar quote)) ++ quote.toString

def escapeByte (quote : Char) (b : UInt8) : String :=
  let c := Char.ofNat b.toNat
  match commonEscape? quote c with
  | some s => s
  | none => if 0x20 ≤ b && b < 0x7F then c.toString else "\\x" ++ lowerHexWide 2 b.toNat

/-- A byte string as a quoted literal with a `b` in front. -/
def quotedBytes (bs : List UInt8) : String :=
  let quote := quoteFor (bs.map fun b => Char.ofNat b.toNat)
  "b" ++ quote.toString ++ String.join (bs.map (escapeByte quote)) ++ quote.toString

/-- Texts as a list, as messages show it. -/
def bracketed (items : List String) : String := "[" ++ ", ".intercalate items ++ "]"

end GameAtlas.Text
