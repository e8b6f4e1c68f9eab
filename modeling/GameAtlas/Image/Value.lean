import GameAtlas.Schema.Field
import GameAtlas.Text.Quoted

/-!
Values: what was read for a field, with the number of bytes that it took. Numbers are kept as their
bytes read from the lowest one on; byte order and sign are applied when a value is shown.
-/

namespace GameAtlas.Image

open Schema (Field Kind)

inductive Value where
  | number (field : Field) (consumed n : Nat)
  | raw (field : Field) (consumed : Nat) (bytes : List UInt8)
  | elements (field : Field) (consumed : Nat) (items : List Value)
  /-- A struct's parts in the order of reading, those of a repeated name included. -/
  | members (field : Field) (consumed : Nat) (parts : List Value)
deriving Inhabited

namespace Value

def field : Value → Field
  | .number f _ _ | .raw f _ _ | .elements f _ _ | .members f _ _ => f

def consumed : Value → Nat
  | .number _ n _ | .raw _ n _ | .elements _ n _ | .members _ n _ => n

def kind (v : Value) : Kind := v.field.kind

def name (v : Value) : String := v.field.name

/-! ### Numbers as bytes -/

/-- The number that bytes spell, the lowest first. -/
def numberOf : List UInt8 → Nat
  | [] => 0
  | b :: rest => b.toNat + 256 * numberOf rest

/-- The lowest `width` bytes of a number, the lowest first. -/
def bytesOf : Nat → Nat → List UInt8
  | 0, _ => []
  | width + 1, n => UInt8.ofNat (n % 256) :: bytesOf width (n / 256)

/-! ### Encoding -/

mutual

/-- The bytes of a value. -/
def encode (v : Value) : List UInt8 :=
  match v with
  | .number _ width n => bytesOf width n
  | .raw _ _ bytes => bytes
  | .elements _ _ items => encodeAll items
  | .members _ _ parts => encodeAll parts
termination_by structural v

/-- The bytes of values end to end. -/
def encodeAll (vs : List Value) : List UInt8 :=
  match vs with
  | [] => []
  | v :: rest => encode v ++ encodeAll rest
termination_by structural vs

end

/-! ### Access -/

/-- The members of a struct by name, the first of a repeated name. -/
def named (parts : List Value) : Keyed String Value :=
  parts.foldl (fun m v => Keyed.putNew v.name v m) []

/-- What a value is indexed by. -/
inductive Index where
  | name (s : String)
  | place (n : Int)
  /-- A truth value counts as the place one or zero. -/
  | truth (b : Bool)
  /-- What indexes nothing, as messages show it. -/
  | other (shown : String)
deriving DecidableEq, Repr

def Index.shown : Index → String
  | .name s => Text.quoted s
  | .place n => toString n
  | .truth b => if b then "True" else "False"
  | .other shown => shown

inductive IndexFault where
  | noMember (name : String)
  | outOfRange
  | tooLarge
  | notIndexed (kind : Kind) (index : Index)
  | noLength (kind : Kind)
deriving DecidableEq, Repr

def IndexFault.message : IndexFault → String
  | .noMember name => name
  | .outOfRange => "list index out of range"
  | .tooLarge => "cannot fit 'int' into an index-sized integer"
  | .notIndexed kind index => s!"{kind.name} value cannot be indexed by {index.shown}"
  | .noLength kind => s!"{kind.name} value has no length"

/-- Places are below this one, and not below its negative. -/
def placeLimit : Nat := Nat.pow 2 63

/-- The item at a place; a negative place counts from the end. -/
def itemAt (items : List Value) (n : Int) : Except IndexFault Value :=
  if (placeLimit : Int) ≤ n || n < -(placeLimit : Int) then .error .tooLarge
  else
    let place := if n < 0 then n + items.length else n
    if place < 0 then .error .outOfRange
    else
      match items[place.toNat]? with
      | some v => .ok v
      | none => .error .outOfRange

/-- A member of a struct or an element of an array. -/
def get (v : Value) (index : Index) : Except IndexFault Value :=
  match v, index with
  | .members _ _ parts, .name s =>
    match parts.find? fun p => p.name == s with
    | some part => .ok part
    | none => .error (.noMember s)
  | .elements _ _ items, .place n => itemAt items n
  | .elements _ _ items, .truth b => itemAt items (if b then 1 else 0)
  | v, index => .error (.notIndexed v.kind index)

/-- The number of names of a struct, or of elements of an array. -/
def length (v : Value) : Except IndexFault Nat :=
  match v with
  | .members _ _ parts => .ok (named parts).length
  | .elements _ _ items => .ok items.length
  | v => .error (.noLength v.kind)

end Value

end GameAtlas.Image
