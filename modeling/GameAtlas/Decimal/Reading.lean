import GameAtlas.Decimal.Binary64
import GameAtlas.Text.Numeral

/-!
Decimal numerals read as the nearest double.
-/

namespace GameAtlas.Decimal

/-- The double nearest to `digits * 10 ^ exponent`. Far outside the range it is infinite or zero
without any arithmetic. -/
def nearest (negative : Bool) (digits : Nat) (exponent : Int) : Float :=
  let size := (Nat.toDigits 10 digits).length + exponent
  if digits = 0 || size < -330 then Binary64.signedZero negative
  else if 310 < size then Binary64.infinity negative
  else if 0 ≤ exponent then Binary64.ofRatio negative (digits * Nat.pow 10 exponent.toNat) 1
  else Binary64.ofRatio negative digits (Nat.pow 10 (-exponent).toNat)

def digitsValue (cs : List Char) : Nat :=
  cs.foldl (fun n c => n * 10 + (c.toNat - '0'.toNat)) 0

/-- Digits with an optional point and an optional exponent; at least one digit must stand before
the exponent. -/
def readUnsigned? (negative : Bool) (cs : List Char) : Option Float :=
  let whole := cs.takeWhile Char.isDigit
  let afterWhole := cs.dropWhile Char.isDigit
  let (fraction, rest) :=
    match afterWhole with
    | '.' :: more => (more.takeWhile Char.isDigit, more.dropWhile Char.isDigit)
    | _ => ([], afterWhole)
  let number (exponent : Int) : Float :=
    nearest negative (digitsValue (whole ++ fraction)) (exponent - fraction.length)
  if whole.isEmpty && fraction.isEmpty then none
  else
    match rest with
    | [] => some (number 0)
    | c :: more =>
      if c == 'e' || c == 'E' then
        let (below, digits) := Text.splitSign more
        if digits.isEmpty || !digits.all Char.isDigit then none
        else some (number (Text.applySign below (digitsValue digits)))
      else none

/-- A signed decimal, `inf`, `infinity` or `nan` in any case, with blanks around it. -/
def readFloat? (s : String) : Option Float :=
  let (negative, cs) :=
    Text.splitSign ((Text.trimWith Text.isNumeralBlank s.toList).map Text.westernDigit)
  let word := String.ofList (cs.map Char.toLower)
  if word == "inf" || word == "infinity" then some (Binary64.infinity negative)
  else if word == "nan" then some Binary64.notANumber
  else readUnsigned? negative cs

end GameAtlas.Decimal
