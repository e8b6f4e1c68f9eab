import GameAtlas.Host
import GameAtlas.Text.Blank
import GameAtlas.Text.DecimalDigit

/-!
Integer numerals: digits in a base, zero padding, and the reader of signed numerals with base
marks and underscores between digits.
-/

namespace GameAtlas.Text

/-- Capital hexadecimal digits. -/
def upperHex (n : Nat) : String := String.ofList ((Nat.toDigits 16 n).map Char.toUpper)

/-- Pads on the left to at least `width` characters. -/
def padLeft (width : Nat) (fill : Char) (s : String) : String :=
  String.ofList (List.replicate (width - s.length) fill) ++ s

/-- A sign, then capital hexadecimal digits. -/
def signedUpperHex (n : Int) : String :=
  (if n < 0 then "-" else "") ++ upperHex n.natAbs

/-- The Western digit of the same value; other characters stay. -/
def westernDigit (c : Char) : Char :=
  match decimalDigit? c with
  | some d => Nat.digitChar d
  | none => c

/-- The value of a digit in bases up to 36. -/
def digitValue? (c : Char) : Option Nat :=
  if '0' ≤ c ∧ c ≤ '9' then some (c.toNat - '0'.toNat)
  else if 'a' ≤ c ∧ c ≤ 'z' then some (c.toNat - 'a'.toNat + 10)
  else if 'A' ≤ c ∧ c ≤ 'Z' then some (c.toNat - 'A'.toNat + 10)
  else none

/-- The value of a digit that the base has. -/
def digitOf? (base : Nat) (c : Char) : Option Nat :=
  (digitValue? c).bind fun d => if d < base then some d else none

/-- Reads digits onto `acc`. An underscore may stand between two digits; `joinable` says that the
character before was a digit. -/
def readDigits? (base : Nat) (acc : Nat) (joinable : Bool) : List Char → Option Nat
  | [] => if joinable then some acc else none
  | '_' :: rest => if joinable then readDigits? base acc false rest else none
  | c :: rest => (digitOf? base c).bind fun d => readDigits? base (acc * base + d) true rest

/-- The base that the letter after a leading zero marks. -/
def markedBase? (c : Char) : Option Nat :=
  if c == 'x' || c == 'X' then some 16
  else if c == 'o' || c == 'O' then some 8
  else if c == 'b' || c == 'B' then some 2
  else none

/-- One underscore may follow a base mark. -/
def afterMark : List Char → List Char
  | '_' :: rest => rest
  | cs => cs

/-- An unsigned numeral in a known base; the base's own mark may stand in front. -/
def readMagnitude? (base : Nat) : List Char → Option Nat
  | '0' :: c :: rest =>
    if markedBase? c = some base then readDigits? base 0 false (afterMark rest)
    else readDigits? base 0 false ('0' :: c :: rest)
  | cs => readDigits? base 0 false cs

/-- An unsigned numeral whose mark decides its base. Without a mark it is decimal, and zero is the
only value that a leading zero may have. -/
def readMarkedMagnitude? : List Char → Option Nat
  | '0' :: c :: rest =>
    match markedBase? c with
    | some base => readDigits? base 0 false (afterMark rest)
    | none => (readDigits? 10 0 true (c :: rest)).bind fun n => if n = 0 then some 0 else none
  | cs => readDigits? 10 0 false cs

/-- Splits a sign off; the first part says whether it is a minus. -/
def splitSign : List Char → Bool × List Char
  | '-' :: rest => (true, rest)
  | '+' :: rest => (false, rest)
  | cs => (false, cs)

def applySign (negative : Bool) (n : Nat) : Int := if negative then -(n : Int) else n

/-- Reads a sign and a magnitude with blanks around them; digits of every script count. -/
def readSigned? (magnitude? : List Char → Option Nat) (cs : List Char) : Option Int :=
  let (negative, digits) := splitSign ((trimWith isNumeralBlank cs).map westernDigit)
  (magnitude? digits).map (applySign negative)

/-- How many decimal digits a numeral starts with. Underscores between them do not count. -/
def digitCount (cs : List Char) : Nat :=
  ((cs.takeWhile fun c => c.isDigit || c == '_').filter Char.isDigit).length

/-- The same with a sign, and with blanks around the numeral. -/
def signedDigitCount (cs : List Char) : Nat :=
  digitCount (splitSign ((trimWith isNumeralBlank cs).map westernDigit)).2

variable [Host]

/-- An unsigned numeral whose mark decides its base, unless it has too many decimal digits. -/
def readBoundedMagnitude? (cs : List Char) : Option Nat :=
  if (Host.readingFault? (digitCount cs)).isSome then none else readMarkedMagnitude? cs

/-- A signed numeral that carries its own base mark. -/
def readMarkedInteger? (s : String) : Option Int :=
  readSigned? readBoundedMagnitude? s.toList

end GameAtlas.Text
