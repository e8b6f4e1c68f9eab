import GameAtlas.Expression.Grammar
import GameAtlas.Expression.Value

/-!
Evaluation of size expressions. Names are looked up among the bindings first and then among the
reserved names; operands are evaluated from left to right.
-/

namespace GameAtlas.Expression

/-- The integers that names stand for; of two pairs of one name the first counts. -/
abbrev Bindings := List (String × Int)

/-- The name under which the guarded operator of a power or a left shift is looked up. -/
def BinaryOp.guard? : BinaryOp → Option String
  | .power => some "_pow"
  | .shiftLeft => some "_lshift"
  | _ => none

/-- A name that is always true, whatever is bound. -/
def truthName : String := "__debug__"

def reserved? (name : String) : Option Value :=
  if name = "_pow" || name = "_lshift" then some .operator
  else if name = "__builtins__" then some .record
  else none

def nameValue (bindings : Bindings) (name : String) : Except Fault Value :=
  if name = truthName then .ok .truth
  else
    match bindings.lookup name with
    | some n => .ok (.integer n)
    | none =>
      match reserved? name with
      | some v => .ok v
      | none => .error (.unbound name)

/-- A guarded operator whose name is bound to a number cannot be applied. -/
def applicable (bindings : Bindings) (op : BinaryOp) : Bool :=
  match op.guard? with
  | some guard => (bindings.lookup guard).isNone
  | none => true

def Expr.evaluate (bindings : Bindings) : Expr → Except Fault Value
  | .integer n => .ok (.integer n)
  | .real x => .ok (.real x)
  | .name text => nameValue bindings text
  | .unary op operand => do op.apply (← operand.evaluate bindings)
  | .binary op left right => do
    let a ← left.evaluate bindings
    let b ← right.evaluate bindings
    if applicable bindings op then op.apply a b else .error .notCallable

/-- A name longer than this many bytes is cut in messages. -/
def shownNameBytes : Nat := 200

def shownName (name : String) : String :=
  Text.utf8Lossy (name.toUTF8.toList.take shownNameBytes)

def Fault.message : Fault → String
  | .unbound name => s!"name '{shownName name}' is not defined"
  | .notCallable => "'int' object is not callable"
  | .badOperands symbol left right =>
    s!"unsupported operand type(s) for {symbol}: '{left}' and '{right}'"
  | .badOperand symbol operand => s!"bad operand type for unary {symbol}: '{operand}'"
  | .notComparable left => s!"'>' not supported between instances of '{left}' and 'int'"
  | .divisionByZero => "division by zero"
  | .floorDivisionByZero => "integer division or modulo by zero"
  | .moduloByZero => "integer modulo by zero"
  | .realDivisionByZero => "float division by zero"
  | .realFloorDivisionByZero => "float floor division by zero"
  | .realModuloByZero => "float modulo"
  | .complexDivisionByZero => "complex division by zero"
  | .zeroToNegativePower => "0.0 cannot be raised to a negative power"
  | .zeroToComplexPower => "0.0 to a negative or complex power"
  | .complexOverflow => "complex exponentiation"
  | .rangeExceeded => "(34, 'Numerical result out of range')"
  | .quotientTooLarge => "integer division result too large for a float"
  | .integerTooLarge => "int too large to convert to float"
  | .negativeShift => "negative shift count"
  | .powerTooLarge base exponent => s!"{base} ^ {exponent} is too large"
  | .shiftTooLarge value count => s!"{value} << {count} is too large"

/-- Why a text is not a size. -/
inductive SizeFault where
  | unreadable
  | refused (refusal : Refusal)
  | bare (fault : BareFault)
  | failed (fault : Fault)
  | notNumber
  | notFinite
  | negative (size : Int)
deriving DecidableEq, Repr

def Refusal.message : Refusal → String
  | .unsupported construct => s!"unsupported construct {construct}"
  | .notNumeric => "only numeric literals allowed"

/-- Texts that are no expressions are not told apart: how the grammar words what it misses is left
out. -/
def SizeFault.message : SizeFault → String
  | .unreadable => "syntax error: invalid syntax"
  | .refused refusal => refusal.message
  | .bare fault => fault.message
  | .failed (.unbound name) => s!"unbound variable: {(Fault.unbound name).message}"
  | .failed fault => fault.message
  | .notNumber => "result is not a number"
  | .notFinite => "result is not finite"
  | .negative size => s!"negative size {size}"

/-- A caret stands for a power, like two asterisks. -/
def spellPowers : List Char → List Char
  | [] => []
  | c :: rest => (if c == '^' then ['*', '*'] else [c]) ++ spellPowers rest

variable [Host]

/-- The size expression that a text spells. -/
def Expr.read (text : String) : Except SizeFault Expr :=
  match Phrase.read? (Text.trimWith Text.isBlank (spellPowers text.toList)) with
  | none => .error .unreadable
  | some phrase =>
    match phrase.refusal? with
    | some refusal => .error (.refused refusal)
    | none =>
      match phrase.toExpr? with
      | some e =>
        match e.constantName? with
        | some text => .error (.bare (.constantName text))
        | none => .ok e
      | none => .error .unreadable

/-- A number: the values that a size can come from. -/
def Value.isNumber : Value → Bool
  | .integer _ | .truth | .real _ => true
  | _ => false

/-- The number that a text evaluates to. -/
def evaluate (text : String) (bindings : Bindings) : Except SizeFault Value := do
  let e ← Expr.read text
  match e.evaluate bindings with
  | .error fault => .error (.failed fault)
  | .ok v => if v.isNumber then .ok v else .error .notNumber

/-- A numeral with nothing around it but blanks: hexadecimal behind `0x`, or decimal digits of any
script, leading zeros allowed. -/
def literalSize? (text : String) : Option Nat :=
  let cs := Text.trimWith Text.isBlank text.toList
  match cs with
  | '0' :: 'x' :: c :: rest | '0' :: 'X' :: c :: rest =>
    if (c :: rest).all fun c => (Text.digitOf? 16 c).isSome then
      some ((c :: rest).foldl (fun n c => n * 16 + (Text.digitValue? c).getD 0) 0)
    else none
  | c :: rest =>
    if (c :: rest).all Text.isDecimalDigit then
      some ((c :: rest).foldl (fun n c => n * 10 + (Text.decimalDigit? c).getD 0) 0)
    else none
  | [] => none

/-- How many decimal digits a text is made of, but for blanks around them. -/
def literalDigits (text : String) : Nat :=
  let cs := Text.trimWith Text.isBlank text.toList
  if cs.all Text.isDecimalDigit then cs.length else 0

/-- What is said of a size below zero, which has to be written for that. -/
def SizeFault.ofNegative (size : Int) : SizeFault :=
  match Host.writingFault? size with
  | some fault => .bare (.digits fault)
  | none => .negative size

/-- A value as a whole number of bytes, rounded toward zero. -/
def Value.toSize : Value → Except SizeFault Nat
  | .integer n => if n < 0 then .error (.ofNegative n) else .ok n.toNat
  | .truth => .ok 1
  | .real x =>
    match Binary64.ofFloat x with
    | .finite negative significand exponent =>
      let n := Binary64.truncate negative significand exponent
      if n < 0 then .error (.ofNegative n) else .ok n.toNat
    | _ => .error .notFinite
  | _ => .error .notNumber

/-- The size that a text spells: a numeral, or an expression with a value that is not negative. -/
def evaluateSize (text : String) (bindings : Bindings) : Except SizeFault Nat :=
  match literalSize? text with
  | some n =>
    match Host.readingFault? (literalDigits text) with
    | some fault => .error (.bare (.digits fault))
    | none => .ok n
  | none => do (← evaluate text bindings).toSize

/-! ### Bytes as bindings -/

/-- The most bytes that have names. -/
def maxArguments : Nat := 100

/-- The name of the byte at a place of a run: at least two digits. -/
def argumentName (index : Nat) : String := "ARG_" ++ Text.padLeft 2 '0' (toString index)

/-- Binds the first bytes of a run to their names. -/
def bindBytes (run : List UInt8) : Bindings :=
  ((run.take maxArguments).zipIdx).map fun (b, i) => (argumentName i, (b.toNat : Int))

end GameAtlas.Expression
