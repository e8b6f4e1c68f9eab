/-!
Double precision numbers as exact values. Each finite one is a whole significand times a power of
two; a quotient of integers is rounded to the nearest, of two equally near ones to the even.
-/

namespace GameAtlas

/-- The exact value of a double: `significand * 2 ^ exponent` with a sign, or one of the others. -/
inductive Binary64 where
  | finite (negative : Bool) (significand : Nat) (exponent : Int)
  | infinite (negative : Bool)
  | nan
deriving DecidableEq, Repr

namespace Binary64

/-- The number of bits below the leading one. -/
def fractionBits : Nat := 52

/-- The exponent of the smallest numbers. -/
def leastExponent : Int := -1074

def ofFloat (x : Float) : Binary64 :=
  let bits := x.toBits.toNat
  let negative := bits / Nat.pow 2 63 == 1
  let exponent : Nat := bits / Nat.pow 2 fractionBits % Nat.pow 2 11
  let fraction : Nat := bits % Nat.pow 2 fractionBits
  if exponent = 2047 then (if fraction = 0 then .infinite negative else .nan)
  else if exponent = 0 then .finite negative fraction leastExponent
  else .finite negative (Nat.pow 2 fractionBits + fraction) ((exponent : Int) + leastExponent - 1)

/-- The bits of a number without its sign. The exponent is that of the significand's last bit; a
significand that carried over reads as the next power of two. -/
def magnitudeBits (significand : Nat) (exponent : Int) : Nat :=
  min ((exponent - leastExponent).toNat * Nat.pow 2 fractionBits + significand)
    (2047 * Nat.pow 2 fractionBits)

/-- The quotient rounded to the nearest whole number, a half to the even one. -/
def roundedQuotient (num den : Nat) : Nat :=
  let quotient := num / den
  let twice := 2 * (num % den)
  if twice < den then quotient
  else if den < twice then quotient + 1
  else quotient + quotient % 2

/-- The double nearest to `num / den`; infinite beyond the greatest. -/
def ofRatio (negative : Bool) (num den : Nat) : Float :=
  let scaled (exponent : Int) : Nat × Nat :=
    if 0 ≤ exponent then (num, den * Nat.pow 2 exponent.toNat)
    else (num * Nat.pow 2 (-exponent).toNat, den)
  let first := max ((num.log2 : Int) - den.log2 - fractionBits - 1) leastExponent
  let exponent :=
    let (n, d) := scaled first
    if Nat.pow 2 (fractionBits + 1) ≤ n / d then first + 1 else first
  let (n, d) := scaled exponent
  let bits := if num = 0 then 0 else magnitudeBits (roundedQuotient n d) exponent
  Float.ofBits (UInt64.ofNat (bits + if negative then Nat.pow 2 63 else 0))

/-- The double of a significand and an exponent of two. -/
def toFloatOf (negative : Bool) (significand : Nat) (exponent : Int) : Float :=
  if 0 ≤ exponent then ofRatio negative (significand * Nat.pow 2 exponent.toNat) 1
  else ofRatio negative significand (Nat.pow 2 (-exponent).toNat)

/-- The sign bit. -/
def isNegative (x : Float) : Bool := x.toBits.toNat / Nat.pow 2 63 == 1

def signedZero (negative : Bool) : Float := if negative then -0.0 else 0.0

def infinity (negative : Bool) : Float := if negative then -1.0 / 0.0 else 1.0 / 0.0

def notANumber : Float := 0.0 / 0.0

/-- The nearest double of an integer, none if it is beyond the greatest. -/
def ofInt? (n : Int) : Option Float :=
  let x := ofRatio (n < 0) n.natAbs 1
  if x.isInf then none else some x

/-- The integer part, toward zero. -/
def truncate (negative : Bool) (significand : Nat) (exponent : Int) : Int :=
  let magnitude : Nat :=
    if 0 ≤ exponent then significand * Nat.pow 2 exponent.toNat
    else significand / Nat.pow 2 (-exponent).toNat
  if negative then -(magnitude : Int) else magnitude

/-- Whether a value has no fractional part. -/
def isWhole : Binary64 → Bool
  | .finite _ significand exponent => 0 ≤ exponent || significand % Nat.pow 2 (-exponent).toNat == 0
  | _ => true

/-- Whether a value is an odd integer. -/
def isOddWhole : Binary64 → Bool
  | .finite _ significand exponent =>
    let value := Binary64.finite false significand exponent
    value.isWhole && truncate false significand exponent % 2 == 1
  | _ => false

/-- The greatest integer not above, as a double. -/
def floor (x : Float) : Float :=
  match ofFloat x with
  | .finite negative significand exponent =>
    if 0 ≤ exponent then x
    else
      let den := Nat.pow 2 (-exponent).toNat
      if negative then ofRatio true ((significand + den - 1) / den) 1
      else ofRatio false (significand / den) 1
  | _ => x

/-- The remainder of the division that rounds toward zero: exact, with the sign of `x`. -/
def remainder (x y : Float) : Float :=
  match ofFloat x, ofFloat y with
  | .finite negative m e, .finite _ n f =>
    if n = 0 then notANumber
    else
      let common := min e f
      let left := m * Nat.pow 2 (e - common).toNat
      let right := n * Nat.pow 2 (f - common).toNat
      toFloatOf negative (left % right) common
  | .finite .., .infinite _ => x
  | _, _ => notANumber

end Binary64

end GameAtlas
