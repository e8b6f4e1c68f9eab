import GameAtlas.Schema.Size
import GameAtlas.Text.Numeral

/-!
Placement of root fields: each is compared with the one before it that has an address.
-/

namespace GameAtlas.Schema

/-- The range of a field: its name, where it starts and, if its size is known, where it ends. -/
structure Range where
  name : String
  start : Int
  stop : Option Int
deriving DecidableEq, Repr

namespace Range

/-- The range of a field of a known or unknown size, if it has an address. -/
def of? (f : Field) (size : Option Nat) : Option Range :=
  f.address.map fun a => ⟨f.name, a, size.map fun n => a + n⟩

/-- Whether a range reaches into the one before it. -/
def overlaps (before r : Range) : Bool :=
  match before.stop with
  | none => false
  | some stop =>
    r.start < stop &&
      match r.stop with
      | some own => before.start < own
      | none => before.start ≤ r.start

def overlapIssue (before : Range) : Issue :=
  let start := Text.signedUpperHex before.start
  let stop := Text.signedUpperHex (before.stop.getD before.start)
  .severe s!"Overlaps with previous entry {before.name} ({start}-{stop})"
    "Correct the Offset or Size of one of the entries"

def orderIssue (before r : Range) : Issue :=
  let own := Text.signedUpperHex r.start
  let start := Text.signedUpperHex before.start
  .incomplete s!"Out of order: {own} comes before previous entry {before.name} ({start})"
    "Sort entries by offset"

/-- What is wrong with a range behind another. -/
def issues (before : Option Range) (r : Option Range) : List Issue :=
  match before, r with
  | some before, some r =>
    (if before.overlaps r then [before.overlapIssue] else []) ++
      (if r.start < before.start then [orderIssue before r] else [])
  | _, _ => []

end Range

namespace Field

/-- The issue of a size that cannot be found. -/
def sizeIssues : Except SizeError Nat → List Issue
  | .ok _ => []
  | .error e => [.severe s!"Unable to resolve size: {e.message}" "Fix the Size"]

variable [Host]

/-- The size that a root field is placed with, and the issue of one that is stated and cannot be
found. -/
def placedSize (f : Field) : Except Expression.BareFault (Option Nat × List Issue) := do
  if f.size.isSome then
    let size := f.resolvedSize []
    return (← SizeError.optional size, sizeIssues size)
  else return (← SizeError.optional f.staticSize, [])

end Field

end GameAtlas.Schema
