import GameAtlas.Expression.Evaluation
import GameAtlas.Schema.Field

/-!
Sizes of fields in bytes: as an expression over given bytes says, or without any bytes, where
structs are measured by their members.
-/

namespace GameAtlas.Schema

/-- Why a field has no size. -/
inductive SizeError where
  | unresolved
  | invalid (expression : String) (fault : Expression.SizeFault)

namespace SizeError

/-- A fault that is no finding about the size: whoever can do without a size is not spared it. -/
def bare? : SizeError → Option Expression.BareFault
  | .invalid _ (.bare fault) => some fault
  | _ => none

def message : SizeError → String
  | .unresolved => "Unable to parse undefined size"
  | .invalid _ (.bare fault) => fault.message
  | .invalid expression fault => s!"Unable to parse size: {expression} ({fault.message})"

/-- Whether the expression mentions a name that stands for nothing. -/
def isUnbound : SizeError → Bool
  | .invalid _ (.failed (.unbound _)) => true
  | _ => false

/-- A size that one can do without: none if it is not to be found. -/
def optional : Except SizeError Nat → Except Expression.BareFault (Option Nat)
  | .ok n => .ok (some n)
  | .error e =>
    match e.bare? with
    | some fault => .error fault
    | none => .ok none

end SizeError

variable [Host]

/-- The size that a text gives. -/
def sizeOf (text : String) (bindings : Expression.Bindings) : Except SizeError Nat :=
  match Expression.evaluateSize text bindings with
  | .ok n => .ok n
  | .error fault => .error (.invalid text fault)

namespace Attributes

/-- The size that a field states. A blank one is none. -/
def resolvedSize (a : Attributes) (bindings : Expression.Bindings) : Except SizeError Nat :=
  match a.size with
  | none => .error .unresolved
  | some text => if Text.trim text = "" then .error .unresolved else sizeOf text bindings

end Attributes

namespace Field

mutual

/-- The size of a field of which no bytes are known. A struct without a size of its own has the
sizes of its members together. -/
def staticSize (f : Field) : Except SizeError Nat :=
  match f with
  | ⟨attributes, members, _⟩ =>
    if attributes.size.isNone && attributes.kind == .struct && !members.isEmpty then
      staticSizes members
    else attributes.resolvedSize []
termination_by structural f

def staticSizes (fs : List Field) : Except SizeError Nat :=
  match fs with
  | [] => .ok 0
  | f :: rest => do
    let n ← staticSize f
    return n + (← staticSizes rest)
termination_by structural fs

end

end Field

end GameAtlas.Schema
