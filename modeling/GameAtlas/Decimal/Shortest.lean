import GameAtlas.Decimal.Binary64

/-!
The shortest decimal that reads back as a given double, and of the shortest ones the nearest.
-/

namespace GameAtlas.Decimal

/-- The digits `d₁d₂…dₙ`, the first not zero, stand for `0.d₁d₂…dₙ * 10 ^ point`. -/
structure Digits where
  digits : List Nat
  point : Int
deriving DecidableEq, Repr

/-- The comparison of `a * 2 ^ e` with `b * 10 ^ f`. -/
def compareScaled (a : Nat) (e : Int) (b : Nat) (f : Int) : Ordering :=
  compare (a * Nat.pow 2 e.toNat * Nat.pow 10 (-f).toNat)
    (b * Nat.pow 10 f.toNat * Nat.pow 2 (-e).toNat)

/-- The numbers that round to `significand * 2 ^ exponent` lie between `low` and `high` quarters of
the last bit. The ends round to it iff the significand is even. -/
structure Interval where
  low : Nat
  high : Nat
  exponent : Int
  closed : Bool

/-- Below a power of two the gap is half as wide. -/
def Interval.of (significand : Nat) (exponent : Int) : Interval where
  low :=
    if significand = Nat.pow 2 Binary64.fractionBits ∧ exponent ≠ Binary64.leastExponent then
      4 * significand - 1
    else 4 * significand - 2
  high := 4 * significand + 2
  exponent := exponent - 2
  closed := significand % 2 == 0

def Interval.contains (i : Interval) (b : Nat) (f : Int) : Bool :=
  let atLow := compareScaled i.low i.exponent b f
  let atHigh := compareScaled i.high i.exponent b f
  (atLow == .lt || (i.closed && atLow == .eq)) && (atHigh == .gt || (i.closed && atHigh == .eq))

/-- The greatest `k` with `10 ^ k ≤ significand * 2 ^ exponent`, searched downward from `k`. -/
def decimalExponent (significand : Nat) (exponent : Int) : Nat → Int → Int
  | 0, k => k
  | fuel + 1, k =>
    if compareScaled significand exponent 1 k == .lt then
      decimalExponent significand exponent fuel (k - 1)
    else k

/-- The floor of `significand * 2 ^ exponent / 10 ^ f`. -/
def gridFloor (significand : Nat) (exponent f : Int) : Nat :=
  significand * Nat.pow 2 exponent.toNat * Nat.pow 10 (-f).toNat /
    (Nat.pow 10 f.toNat * Nat.pow 2 (-exponent).toNat)

/-- Of the two neighbours on the grid of step `10 ^ f` the one to take: the one that reads back, of
two the nearer, of two equally near the even one. -/
def gridChoice? (significand : Nat) (exponent f : Int) : Option Nat :=
  let interval := Interval.of significand exponent
  let below := gridFloor significand exponent f
  match interval.contains below f, interval.contains (below + 1) f with
  | true, true =>
    match compareScaled (2 * significand) exponent (2 * below + 1) f with
    | .lt => some below
    | .gt => some (below + 1)
    | .eq => some (below + below % 2)
  | true, false => some below
  | false, true => some (below + 1)
  | false, false => none

/-- Tries grids of `count`, `count + 1`, … digits. -/
def searchGrids (significand : Nat) (exponent top : Int) : Nat → Nat → Nat × Int
  | 0, count => (gridFloor significand exponent (top + 1 - count), top + 1 - count)
  | fuel + 1, count =>
    match gridChoice? significand exponent (top + 1 - count) with
    | some n => (n, top + 1 - count)
    | none => searchGrids significand exponent top fuel (count + 1)

/-- Drops the zeros at the end. -/
def dropZeros (ds : List Nat) : List Nat := (ds.reverse.dropWhile (· == 0)).reverse

/-- The shortest digits of a positive double. -/
def shortest (significand : Nat) (exponent : Int) : Digits :=
  let start := ((significand.log2 : Int) + exponent) * 30103 / 100000 + 1
  let top := decimalExponent significand exponent 4 start
  let (n, f) := searchGrids significand exponent top 17 1
  let ds := (Nat.toDigits 10 n).map fun c => c.toNat - '0'.toNat
  ⟨dropZeros ds, ds.length + f⟩

end GameAtlas.Decimal
