import GameAtlas.Text.CharClass

/-!
Blank characters: the separators of every width, the line and paragraph breaks and the control
characters that act as such.
-/

namespace GameAtlas.Text

def blank : CharClass := ⟨
  [0x9, 0xE, 0x1C, 0x21, 0x85, 0x86, 0xA0, 0xA1, 0x1680, 0x1681, 0x2000, 0x200B, 0x2028, 0x202A,
   0x202F, 0x2030, 0x205F, 0x2060, 0x3000, 0x3001]⟩

def isBlank (c : Char) : Bool := blank.contains c

/-- Around a numeral the four information separators do not count as blank. -/
def isNumeralBlank (c : Char) : Bool :=
  isBlank c && !(0x1C ≤ c.toNat && c.toNat ≤ 0x1F)

/-- The blanks of ASCII without the information separators. -/
def isAsciiBlank (c : Char) : Bool := isNumeralBlank c && c.toNat < 0x80

/-- Drops the characters of a class from both ends. -/
def trimWith (drop : Char → Bool) (cs : List Char) : List Char :=
  ((cs.dropWhile drop).reverse.dropWhile drop).reverse

/-- Patterns that reach to the end of a text pass over one line feed there. -/
def withoutLastLineFeed (cs : List Char) : List Char :=
  if cs.getLast? = some '\n' then cs.dropLast else cs

def trim (s : String) : String := String.ofList (trimWith isBlank s.toList)

end GameAtlas.Text
