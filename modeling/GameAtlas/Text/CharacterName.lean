import GameAtlas.Text.NameTable
import GameAtlas.Text.Numeral

/-!
Names of characters. Most stand in a table, and capitals do not matter there. Ideographs are named
after their code points, and syllables of the Korean script after their letters; these names are
written in capitals only.
-/

namespace GameAtlas.Text

/-! ### The table -/

def isSmallLetter (c : Char) : Bool := 'a' ≤ c && c ≤ 'z'

/-- A number in small letters. -/
def smallLetterNumber (cs : List Char) : Nat :=
  cs.foldl (fun n c => n * 26 + (c.toNat - 'a'.toNat)) 0

/-- The names that runs of small letters and other characters spell in turn. -/
def namesFrom (before : List Char) : List (List Char) → List (List Char)
  | shared :: rest :: more =>
    let name := before.take (smallLetterNumber shared) ++ rest
    name :: namesFrom name more
  | _ => []

def tableNames (rows : List String) : List (List Char) :=
  namesFrom [] ((String.join rows).toList.splitBy fun a b => isSmallLetter a == isSmallLetter b)

/-! ### Names by rule -/

def ideographStart : List Char := "CJK UNIFIED IDEOGRAPH-".toList

/-- The code points of ideographs that are named after them: the first and the last of each run. -/
def ideographRuns : List (Nat × Nat) :=
  [(0x3400, 0x4DBF), (0x4E00, 0x9FFF), (0x20000, 0x2A6DF), (0x2A700, 0x2B738), (0x2B740, 0x2B81D),
   (0x2B820, 0x2CEA1), (0x2CEB0, 0x2EBE0), (0x30000, 0x3134A)]

def isCapitalHexDigit (c : Char) : Bool := c.isDigit || ('A' ≤ c && c ≤ 'F')

/-- A code point of four or five digits. -/
def isIdeographNumber (cs : List Char) : Bool :=
  (cs.length == 4 || cs.length == 5) && cs.all isCapitalHexDigit &&
    let n := cs.foldl (fun n c => n * 16 + (digitValue? c).getD 0) 0
    ideographRuns.any fun (first, last) => first ≤ n && n ≤ last

def syllableStart : List Char := "HANGUL SYLLABLE ".toList

/-- What a syllable starts with. -/
def syllableInitials : List String :=
  ["G", "GG", "N", "D", "DD", "R", "M", "B", "BB", "S", "SS", "", "J", "JJ", "C", "K", "T", "P",
   "H"]

def syllableVowels : List String :=
  ["A", "AE", "YA", "YAE", "EO", "E", "YEO", "YE", "O", "WA", "WAE", "OE", "YO", "U", "WEO", "WE",
   "WI", "YU", "EU", "YI", "I"]

/-- What a syllable ends with. -/
def syllableFinals : List String :=
  ["", "G", "GG", "GS", "N", "NJ", "NH", "D", "L", "LG", "LM", "LB", "LS", "LT", "LP", "LH", "M",
   "B", "BS", "S", "SS", "NG", "J", "C", "K", "T", "P", "H"]

/-- What is left of a text behind each of some words that it starts with. -/
def restsBehind (words : List String) (cs : List Char) : List (List Char) :=
  (words.filter fun word => word.toList.isPrefixOf cs).map fun word => cs.drop word.length

/-- An initial, a vowel and a final. -/
def isSyllable (cs : List Char) : Bool :=
  ((restsBehind syllableInitials cs).flatMap (restsBehind syllableVowels)).any fun rest =>
    syllableFinals.contains (String.ofList rest)

/-- Whether a text is the name of a character. -/
def isCharacterName (cs : List Char) : Bool :=
  if syllableStart.isPrefixOf cs then isSyllable (cs.drop syllableStart.length)
  else if ideographStart.isPrefixOf cs then isIdeographNumber (cs.drop ideographStart.length)
  else (tableNames nameRows).contains (cs.map Char.toUpper)

end GameAtlas.Text
