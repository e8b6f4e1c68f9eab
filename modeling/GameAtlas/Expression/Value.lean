import GameAtlas.Expression.Basic
import GameAtlas.Expression.Complex

/-!
What expressions evaluate to, and the arithmetic on it. Integers are unbounded; a quotient is a
double; powers and left shifts are refused before they grow past `maxResultBits`.
-/

namespace GameAtlas.Expression

/-- The largest power or left shift, in bits. -/
def maxResultBits : Nat := 256

/-- A value. Besides numbers the reserved names stand for some: the truth value, the two guarded
operators and an empty record. -/
inductive Value where
  | integer (n : Int)
  | truth
  | real (x : Float)
  | complex (z : Complex)
  | operator
  | record

/-- Why an evaluation has no value. -/
inductive Fault where
  | unbound (name : String)
  | notCallable
  | badOperands (symbol left right : String)
  | badOperand (symbol operand : String)
  | notComparable (left : String)
  | divisionByZero
  | floorDivisionByZero
  | moduloByZero
  | realDivisionByZero
  | realFloorDivisionByZero
  | realModuloByZero
  | complexDivisionByZero
  | zeroToNegativePower
  | zeroToComplexPower
  | complexOverflow
  | rangeExceeded
  | quotientTooLarge
  | integerTooLarge
  | negativeShift
  | powerTooLarge (base exponent : String)
  | shiftTooLarge (value count : String)
deriving DecidableEq, Repr

namespace Value

def typeName : Value → String
  | .integer _ => "int"
  | .truth => "bool"
  | .real _ => "float"
  | .complex _ => "complex"
  | .operator => "function"
  | .record => "dict"

/-- How messages show a value. -/
def text : Value → String
  | .integer n => toString n
  | .truth => "True"
  | .real x => Decimal.Layout.plain.text x
  | .complex z => z.text
  | .operator => "<function>"
  | .record => "\x7b\x7d"

/-- The truth value counts as one. -/
def integer? : Value → Option Int
  | .integer n => some n
  | .truth => some 1
  | _ => none

/-- Anything but a zero and the empty record. -/
def isNonzero : Value → Bool
  | .integer n => n != 0
  | .truth => true
  | .real x => x != 0
  | .complex z => !z.isZero
  | .operator => true
  | .record => false

end Value

/-- Two numbers of one kind. -/
inductive Operands where
  | integers (a b : Int)
  | reals (a b : Float)
  | complexes (a b : Complex)

def realOfInt (n : Int) : Except Fault Float :=
  match Binary64.ofInt? n with
  | some x => .ok x
  | none => .error .integerTooLarge

def toReal? : Value → Except Fault (Option Float)
  | .integer n => (realOfInt n).map some
  | .truth => .ok (some 1)
  | .real x => .ok (some x)
  | _ => .ok none

def toComplex? : Value → Except Fault (Option Complex)
  | .complex z => .ok (some z)
  | v => (toReal? v).map (·.map Complex.ofReal)

/-- Brings two numbers to the wider of their kinds: integer, real, complex. -/
def align? (a b : Value) : Except Fault (Option Operands) :=
  match a.integer?, b.integer? with
  | some m, some n => .ok (some (.integers m n))
  | _, _ =>
    match a, b with
    | .operator, _ | .record, _ | _, .operator | _, .record => .ok none
    | .complex _, _ | _, .complex _ => do
      match ← toComplex? a, ← toComplex? b with
      | some x, some y => return some (.complexes x y)
      | _, _ => return none
    | _, _ => do
      match ← toReal? a, ← toReal? b with
      | some x, some y => return some (.reals x y)
      | _, _ => return none

def badOperands (symbol : String) (a b : Value) : Except Fault Value :=
  .error (.badOperands symbol a.typeName b.typeName)

def add (a b : Value) : Except Fault Value := do
  match ← align? a b with
  | some (.integers m n) => return .integer (m + n)
  | some (.reals x y) => return .real (x + y)
  | some (.complexes x y) => return .complex (x.add y)
  | none => badOperands "+" a b

def subtract (a b : Value) : Except Fault Value := do
  match ← align? a b with
  | some (.integers m n) => return .integer (m - n)
  | some (.reals x y) => return .real (x - y)
  | some (.complexes x y) => return .complex (x.sub y)
  | none => badOperands "-" a b

def multiply (a b : Value) : Except Fault Value := do
  match ← align? a b with
  | some (.integers m n) => return .integer (m * n)
  | some (.reals x y) => return .real (x * y)
  | some (.complexes x y) => return .complex (x.mul y)
  | none => badOperands "*" a b

/-- The quotient of two integers as the nearest double. -/
def integerQuotient (m n : Int) : Except Fault Value :=
  if n = 0 then .error .divisionByZero
  else
    let x := Binary64.ofRatio (decide (m < 0) != decide (n < 0)) m.natAbs n.natAbs
    if x.isInf then .error .quotientTooLarge else .ok (.real x)

def divide (a b : Value) : Except Fault Value := do
  match ← align? a b with
  | some (.integers m n) => integerQuotient m n
  | some (.reals x y) => if y == 0 then .error .realDivisionByZero else return .real (x / y)
  | some (.complexes x y) =>
    match x.div? y with
    | some z => return .complex z
    | none => .error .complexDivisionByZero
  | none => badOperands "/" a b

/-- The remainder with the sign of the divisor. -/
def realModulo (x y : Float) : Float :=
  let r := Binary64.remainder x y
  if r != 0 then (if (y < 0) != (r < 0) then r + y else r)
  else Binary64.signedZero (Binary64.isNegative y)

/-- The whole number that the quotient less its remainder is nearest to. -/
def realFloorQuotient (x y : Float) : Float :=
  let r := Binary64.remainder x y
  let quotient := (x - r) / y
  let quotient := if r != 0 && ((y < 0) != (r < 0)) then quotient - 1 else quotient
  if quotient != 0 then
    let whole := Binary64.floor quotient
    if 0.5 < quotient - whole then whole + 1 else whole
  else Binary64.signedZero (Binary64.isNegative (x / y))

def isComplex : Value → Bool
  | .complex _ => true
  | _ => false

/-- Brings two numbers to one kind for an operation that complex numbers do not have. -/
def alignReal? (a b : Value) : Except Fault (Option Operands) :=
  if isComplex a || isComplex b then .ok none else align? a b

def floorDivide (a b : Value) : Except Fault Value := do
  match ← alignReal? a b with
  | some (.integers m n) =>
    if n = 0 then .error .floorDivisionByZero else return .integer (Int.fdiv m n)
  | some (.reals x y) =>
    if y == 0 then .error .realFloorDivisionByZero else return .real (realFloorQuotient x y)
  | _ => badOperands "//" a b

def modulo (a b : Value) : Except Fault Value := do
  match ← alignReal? a b with
  | some (.integers m n) =>
    if n = 0 then .error .moduloByZero else return .integer (Int.fmod m n)
  | some (.reals x y) =>
    if y == 0 then .error .realModuloByZero else return .real (realModulo x y)
  | _ => badOperands "%" a b

/-! ### Powers -/

def complexPower (x y : Complex) : Except Fault Value :=
  match x.pow y with
  | .ok z => .ok (.complex z)
  | .error .undefined => .error .zeroToComplexPower
  | .error .overflow => .error .complexOverflow

/-- A power of doubles. A negative base with a fractional exponent gives a complex number. -/
def realPower (x y : Float) : Except Fault Value :=
  let odd := (Binary64.ofFloat y).isOddWhole
  if y == 0 then .ok (.real 1)
  else if x.isNaN then .ok (.real x)
  else if y.isNaN then .ok (.real (if x == 1 then 1 else y))
  else if y.isInf then
    .ok (.real (if x.abs == 1 then 1 else if (0 < y) == (1 < x.abs) then y.abs else 0))
  else if x.isInf then
    if 0 < y then .ok (.real (if odd then x else x.abs))
    else .ok (.real (if odd then Binary64.signedZero (Binary64.isNegative x) else 0))
  else if x == 0 then
    if y < 0 then .error .zeroToNegativePower else .ok (.real (if odd then x else 0))
  else if x < 0 && !(Binary64.ofFloat y).isWhole then
    complexPower (.ofReal x) (.ofReal y)
  else
    let negated := x < 0 && odd
    let magnitude := if x.abs == 1 then 1 else x.abs.pow y
    if magnitude.isInf then .error .rangeExceeded
    else .ok (.real (if negated then -magnitude else magnitude))

/-- An integer power without the cap. The bases that never grow need no multiplication. -/
def integerPower (base : Int) (exponent : Nat) : Int :=
  if base.natAbs ≤ 1 then
    if exponent = 0 then 1
    else if base = -1 ∧ exponent % 2 = 0 then 1
    else base
  else Int.pow base exponent

/-- The number of bits of a magnitude. -/
def bitLength (n : Nat) : Nat := if n = 0 then 0 else n.log2 + 1

/-- Whether a power is refused: the bits below the base's leading one, times the exponent, exceed
the cap. -/
def powerExceeds (base exponent : Int) : Bool :=
  1 < base.natAbs && (maxResultBits : Int) < ((bitLength base.natAbs : Int) - 1) * exponent

def power (a b : Value) : Except Fault Value := do
  match a.integer?, b.integer? with
  | some m, some n =>
    if powerExceeds m n then .error (.powerTooLarge a.text b.text)
    else if 0 ≤ n then return .integer (integerPower m n.toNat)
    else realPower (← realOfInt m) (← realOfInt n)
  | _, _ =>
    match ← align? a b with
    | some (.reals x y) => realPower x y
    | some (.complexes x y) => complexPower x y
    | _ => badOperands "** or pow()" a b

/-! ### Bits -/

/-- The common bits of two integers in two's complement. -/
def commonBits : Int → Int → Int
  | .ofNat m, .ofNat n => .ofNat (m &&& n)
  | .ofNat m, .negSucc n => .ofNat (m - (m &&& n))
  | .negSucc m, .ofNat n => .ofNat (n - (m &&& n))
  | .negSucc m, .negSucc n => .negSucc (m ||| n)

/-- The bits of either of two integers in two's complement. -/
def joinedBits : Int → Int → Int
  | .ofNat m, .ofNat n => .ofNat (m ||| n)
  | .ofNat m, .negSucc n => .negSucc (n - (m &&& n))
  | .negSucc m, .ofNat n => .negSucc (m - (m &&& n))
  | .negSucc m, .negSucc n => .negSucc (m &&& n)

def bitAnd (a b : Value) : Except Fault Value :=
  match a, b with
  | .truth, .truth => .ok .truth
  | _, _ =>
    match a.integer?, b.integer? with
    | some m, some n => .ok (.integer (commonBits m n))
    | _, _ => badOperands "&" a b

def bitOr (a b : Value) : Except Fault Value :=
  match a, b with
  | .truth, .truth => .ok .truth
  | .record, .record => .ok .record
  | _, _ =>
    match a.integer?, b.integer? with
    | some m, some n => .ok (.integer (joinedBits m n))
    | _, _ => badOperands "|" a b

/-- A left shift without the cap. -/
def plainShiftLeft (a b : Value) : Except Fault Value :=
  match a.integer?, b.integer? with
  | some m, some n =>
    if n < 0 then .error .negativeShift
    else .ok (.integer (if m = 0 then 0 else m * Nat.pow 2 n.toNat))
  | _, _ => badOperands "<<" a b

/-- Whether a shift count is above the cap. -/
def exceedsCap (count : Value) : Except Fault Bool :=
  match count with
  | .integer n => .ok ((maxResultBits : Int) < n)
  | .truth => .ok false
  | .real x => .ok (Float.ofNat maxResultBits < x)
  | v => .error (.notComparable v.typeName)

/-- The count is looked at only if there is something to shift. -/
def shiftLeft (a b : Value) : Except Fault Value := do
  let refused ← if a.isNonzero then exceedsCap b else pure false
  if refused then .error (.shiftTooLarge a.text b.text) else plainShiftLeft a b

def shiftRight (a b : Value) : Except Fault Value :=
  match a.integer?, b.integer? with
  | some m, some n =>
    if n < 0 then .error .negativeShift
    else if (bitLength m.natAbs : Int) < n then .ok (.integer (if m < 0 then -1 else 0))
    else .ok (.integer (Int.fdiv m (Nat.pow 2 n.toNat)))
  | _, _ => badOperands ">>" a b

/-! ### Signs -/

def negate : Value → Except Fault Value
  | .integer n => .ok (.integer (-n))
  | .truth => .ok (.integer (-1))
  | .real x => .ok (.real (-x))
  | .complex z => .ok (.complex z.neg)
  | v => .error (.badOperand "-" v.typeName)

def plus : Value → Except Fault Value
  | .truth => .ok (.integer 1)
  | .operator => .error (.badOperand "+" Value.operator.typeName)
  | .record => .error (.badOperand "+" Value.record.typeName)
  | v => .ok v

def invert (v : Value) : Except Fault Value :=
  match v.integer? with
  | some n => .ok (.integer (-n - 1))
  | none => .error (.badOperand "~" v.typeName)

def UnaryOp.apply : UnaryOp → Value → Except Fault Value
  | .negate => Expression.negate
  | .plus => Expression.plus
  | .invert => Expression.invert

def BinaryOp.apply : BinaryOp → Value → Value → Except Fault Value
  | .add => Expression.add
  | .subtract => Expression.subtract
  | .multiply => Expression.multiply
  | .divide => Expression.divide
  | .floorDivide => Expression.floorDivide
  | .modulo => Expression.modulo
  | .power => Expression.power
  | .shiftLeft => Expression.shiftLeft
  | .shiftRight => Expression.shiftRight
  | .bitAnd => Expression.bitAnd
  | .bitOr => Expression.bitOr

end GameAtlas.Expression
