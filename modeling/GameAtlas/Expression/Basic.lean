import GameAtlas.Host

/-!
Size expressions. A `Phrase` is whatever the expression grammar admits; an `Expr` is the part of it
that sizes may use: numbers, names and arithmetic. A phrase with anything else in it is refused for
its first such part, the outermost first and at one depth from left to right.
-/

namespace GameAtlas.Expression

inductive UnaryOp where
  | negate
  | plus
  | invert
deriving DecidableEq, Repr

inductive BinaryOp where
  | add
  | subtract
  | multiply
  | divide
  | floorDivide
  | modulo
  | power
  | shiftLeft
  | shiftRight
  | bitAnd
  | bitOr
deriving DecidableEq, Repr

/-- A size expression. -/
inductive Expr where
  | integer (n : Nat)
  | real (x : Float)
  | name (text : String)
  | unary (op : UnaryOp) (operand : Expr)
  | binary (op : BinaryOp) (left right : Expr)

/-- A fault that is told without the expression, and is none of a size. -/
inductive BareFault where
  /-- A name spells a constant: its characters are compatible with the constant's letters, but not
  the same. No expression has such a name. -/
  | constantName (text : String)
  | digits (f : DigitFault)
deriving DecidableEq, Repr

def BareFault.message : BareFault → String
  | .constantName text => s!"identifier field can't represent '{text}' constant"
  | .digits f => f.message

/-- The words that stand for constants. -/
def constantWords : List String := ["None", "True", "False"]

/-- The first name from left to right that spells a constant. -/
def Expr.constantName? : Expr → Option String
  | .integer _ | .real _ => none
  | .name text => if constantWords.contains text then some text else none
  | .unary _ operand => operand.constantName?
  | .binary _ left right => left.constantName? <|> right.constantName?

/-- Anything that reads as an expression. `other` is a construct that sizes do not have; whether it
may be assigned to decides where it may stand. -/
inductive Phrase where
  | integer (n : Nat)
  | real (x : Float)
  | constant
  | name (text : String)
  | unary (op : UnaryOp) (operand : Phrase)
  | not (operand : Phrase)
  | binary (op : BinaryOp) (left right : Phrase)
  | matrixProduct (left right : Phrase)
  | other (construct : String) (assignable : Bool)

/-- Why a phrase is not a size expression. -/
inductive Refusal where
  | unsupported (construct : String)
  | notNumeric
deriving DecidableEq, Repr

namespace Phrase

def isAssignable : Phrase → Bool
  | .name _ => true
  | .other _ assignable => assignable
  | _ => false

/-- The first refused part at a depth. An operator stands one below its operation. -/
def refusalAt? : Nat → Phrase → Option Refusal
  | 0, .constant => some .notNumeric
  | 0, .other construct _ => some (.unsupported construct)
  | depth + 1, .unary _ operand => operand.refusalAt? depth
  | depth + 1, .not operand =>
    (if depth = 0 then some (.unsupported "Not") else none) <|> operand.refusalAt? depth
  | depth + 1, .binary _ left right => left.refusalAt? depth <|> right.refusalAt? depth
  | depth + 1, .matrixProduct left right =>
    left.refusalAt? depth <|> (if depth = 0 then some (.unsupported "MatMult") else none)
      <|> right.refusalAt? depth
  | _, _ => none

def height : Phrase → Nat
  | .unary _ operand | .not operand => operand.height + 1
  | .binary _ left right | .matrixProduct left right => max left.height right.height + 1
  | _ => 0

/-- The refused part that is reported. -/
def refusal? (p : Phrase) : Option Refusal :=
  (List.range (p.height + 2)).findSome? fun depth => p.refusalAt? depth

/-- The size expression that a phrase spells, if every part of it is one. -/
def toExpr? : Phrase → Option Expr
  | .integer n => some (.integer n)
  | .real x => some (.real x)
  | .name text => some (.name text)
  | .unary op operand => operand.toExpr?.map (.unary op)
  | .binary op left right =>
    left.toExpr?.bind fun l => right.toExpr?.map fun r => .binary op l r
  | .constant | .not _ | .matrixProduct .. | .other .. => none

end Phrase

end GameAtlas.Expression
