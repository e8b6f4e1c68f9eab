import GameAtlas.Decimal.Layout

/-!
Complex numbers, which a fractional power of a negative number yields. No operation leads back from
them to the reals.
-/

namespace GameAtlas.Expression

structure Complex where
  re : Float
  im : Float

namespace Complex

def ofReal (x : Float) : Complex := ⟨x, 0⟩

def one : Complex := ⟨1, 0⟩

def add (a b : Complex) : Complex := ⟨a.re + b.re, a.im + b.im⟩

def sub (a b : Complex) : Complex := ⟨a.re - b.re, a.im - b.im⟩

def neg (a : Complex) : Complex := ⟨-a.re, -a.im⟩

def mul (a b : Complex) : Complex := ⟨a.re * b.re - a.im * b.im, a.re * b.im + a.im * b.re⟩

def isZero (a : Complex) : Bool := a.re == 0 && a.im == 0

/-- Division by the larger component of the divisor; `none` by zero. -/
def div? (a b : Complex) : Option Complex :=
  if b.isZero then none
  else if b.im.abs ≤ b.re.abs then
    let ratio := b.im / b.re
    let scale := b.re + b.im * ratio
    some ⟨(a.re + a.im * ratio) / scale, (a.im - a.re * ratio) / scale⟩
  else if b.re.abs ≤ b.im.abs then
    let ratio := b.re / b.im
    let scale := b.re * ratio + b.im
    some ⟨(a.re * ratio + a.im) / scale, (a.im * ratio - a.re) / scale⟩
  else some ⟨Binary64.notANumber, Binary64.notANumber⟩

/-- Repeated squaring over the bits of the exponent; `fuel` bounds their number. -/
def powNat (result base : Complex) : Nat → Nat → Complex
  | 0, _ => result
  | fuel + 1, n =>
    if n = 0 then result
    else powNat (if n % 2 = 1 then result.mul base else result) (base.mul base) fuel (n / 2)

/-- The root of the sum of two squares, with the error of rounding the root taken off. The squares
are in range, and the first number is not the smaller one. -/
def correctedRoot (large small : Float) : Float :=
  let root := Float.sqrt (large * large + small * small)
  let error :=
    if root ≤ 2 * small then
      let excess := root - small
      large * (2 * excess - large) + (excess - 2 * (large - small)) * excess
    else
      let excess := root - large
      2 * excess * (large - 2 * small) + ((4 * excess - small) * small + excess * excess)
  root - error / (2 * root)

/-- The power of two that brings numbers out of range of squares into it. -/
def modulusScale : Int := 600

/-- The distance from zero, computed without leaving the range of doubles on the way. -/
def modulus (a : Complex) : Float :=
  let (small, large) := if a.re.abs < a.im.abs then (a.re.abs, a.im.abs) else (a.im.abs, a.re.abs)
  if a.re.isInf || a.im.isInf then Binary64.infinity false
  else if small ≤ large.scaleB (-54) then large + small
  else if Float.scaleB 1 511 < large then
    (correctedRoot (large.scaleB (-modulusScale)) (small.scaleB (-modulusScale))).scaleB
      modulusScale
  else if small < Float.scaleB 1 (-459) then
    (correctedRoot (large.scaleB modulusScale) (small.scaleB modulusScale)).scaleB (-modulusScale)
  else correctedRoot large small

/-- Why a power has no value. -/
inductive PowerFault where
  | undefined
  | overflow

/-- Powers through the polar form. -/
def polarPower (a b : Complex) : Except PowerFault Complex :=
  if b.isZero then .ok one
  else if a.isZero then
    if b.im != 0 || b.re < 0 then .error .undefined else .ok ⟨0, 0⟩
  else
    let modulus := a.modulus
    let angle := Float.atan2 a.im a.re
    let (length, phase) :=
      if b.im != 0 then
        (modulus.pow b.re * Float.exp (-angle * b.im), angle * b.re + b.im * modulus.log)
      else (modulus.pow b.re, angle * b.re)
    if phase.isInf then .error .undefined else .ok ⟨length * phase.cos, length * phase.sin⟩

/-- A small whole exponent is computed by multiplication, any other through the polar form. -/
def pow (a b : Complex) : Except PowerFault Complex := do
  let small := b.im == 0 && Binary64.floor b.re == b.re && b.re.abs ≤ 100
  let result ←
    if small then
      let n := b.re.abs.toUInt64.toNat
      let power := powNat one a 7 n
      if 0 < b.re then pure power
      else
        match one.div? power with
        | some inverse => pure inverse
        | none => .error .undefined
    else polarPower a b
  if result.re.isInf || result.im.isInf then .error .overflow else .ok result

/-- `(re+imj)`, or the imaginary part alone when the real one is a positive zero. -/
def text (a : Complex) : String :=
  let im := Decimal.Layout.bare.text a.im
  if a.re == 0 && !Binary64.isNegative a.re then im ++ "j"
  else
    let sign := if im.startsWith "-" then "" else "+"
    "(" ++ Decimal.Layout.bare.text a.re ++ sign ++ im ++ "j)"

end Complex

end GameAtlas.Expression
