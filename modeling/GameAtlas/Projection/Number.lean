import GameAtlas.Image.Value
import GameAtlas.Text.Numeral

/-!
Numbers of values: byte order and sign applied, written in a base, or as the names of their bits.
-/

namespace GameAtlas.Projection

open Image (Value)

/-- The number that a value's bytes spell in the byte order of its field, below zero if the field is
signed and the highest bit is set. -/
def signedNumber (endianness : Schema.Endianness) (signed : Bool) (width n : Nat) : Int :=
  let n := match endianness with
    | .little => n
    | .big => Value.numberOf (Value.bytesOf width n).reverse
  if signed && width != 0 && Nat.pow 2 (8 * width - 1) ≤ n then (n : Int) - Nat.pow 2 (8 * width)
  else n

/-- The number of a value of a kind that has numbers. -/
def number? : Value → Option Int
  | .number f width n => some (signedNumber f.endianness f.signed width n)
  | _ => none

/-- The mark of a base other than ten. -/
def baseMark? (base : Int) : Option (Nat × String) :=
  if base = 16 then some (16, "0x")
  else if base = 8 then some (8, "0o")
  else if base = 2 then some (2, "0b")
  else none

/-- A number in a base: a sign, the base's mark and capital digits; decimal in all other bases. -/
def formatNumber (n base : Int) : String :=
  match baseMark? base with
  | some (radix, mark) =>
    let digits := String.ofList ((Nat.toDigits radix n.natAbs).map Char.toUpper)
    (if n < 0 then "-" else "") ++ mark ++ digits
  | none => toString n

/-- A bit of a number; numbers below zero go on with ones. -/
def hasBit (n : Int) (i : Nat) : Bool := n.fdiv (Nat.pow 2 i) % 2 == 1

/-- The names of the bits that are set, the lowest bit first. -/
def bitNames (n : Int) (names : List String) : List String :=
  (names.zipIdx.filter fun p => hasBit n p.2).map fun p => p.1

end GameAtlas.Projection
