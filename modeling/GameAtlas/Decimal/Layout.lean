import GameAtlas.Decimal.Shortest

/-!
Texts of doubles. `Layout` collects the decisions that a format leaves open; `plain` is the one
in which messages and sizes show a number.
-/

namespace GameAtlas.Decimal

/-- How digits are laid out. -/
structure Layout where
  /-- Positional from this place of the point on. -/
  leastPoint : Int
  /-- Positional up to this place of the point. -/
  greatestPoint : Int
  /-- What follows a whole number. -/
  wholeSuffix : String
  /-- The least number of digits of an exponent. -/
  exponentWidth : Nat
  infinity : String
  nan : String

/-- A number is positional from 0.0001 up to sixteen places before the point, and shows a zero
after it when it is whole; beyond that it has an exponent of at least two digits. -/
def Layout.plain : Layout := ⟨-3, 16, ".0", 2, "inf", "nan"⟩

/-- The same without the zero of whole numbers. -/
def Layout.bare : Layout := { Layout.plain with wholeSuffix := "" }

def digitText (ds : List Nat) : String := String.ofList (ds.map Nat.digitChar)

def Layout.exponentText (layout : Layout) (e : Int) : String :=
  let digits := toString e.natAbs
  let zeros := String.ofList (List.replicate (layout.exponentWidth - digits.length) '0')
  (if e < 0 then "e-" else "e+") ++ zeros ++ digits

/-- The text of a positive number. -/
def Layout.magnitude (layout : Layout) (d : Digits) : String :=
  if layout.leastPoint ≤ d.point ∧ d.point ≤ layout.greatestPoint then
    if d.point ≤ 0 then
      "0." ++ digitText (List.replicate (-d.point).toNat 0 ++ d.digits)
    else
      let whole := d.digits.take d.point.toNat
      let rest := d.digits.drop d.point.toNat
      digitText (whole ++ List.replicate (d.point.toNat - whole.length) 0) ++
        (if rest.isEmpty then layout.wholeSuffix else "." ++ digitText rest)
  else
    digitText (d.digits.take 1) ++
      (if d.digits.length ≤ 1 then "" else "." ++ digitText (d.digits.drop 1)) ++
      layout.exponentText (d.point - 1)

def Layout.text (layout : Layout) (x : Float) : String :=
  match Binary64.ofFloat x with
  | .nan => layout.nan
  | .infinite negative => (if negative then "-" else "") ++ layout.infinity
  | .finite negative significand exponent =>
    (if negative then "-" else "") ++
      if significand = 0 then "0" ++ layout.wholeSuffix
      else layout.magnitude (shortest significand exponent)

end GameAtlas.Decimal
