/-!
Lists of pairs as maps in the order of their keys' first mention. A key that is set again keeps its
place and takes the new value.
-/

namespace GameAtlas

/-- Pairs of keys and values in order. -/
abbrev Keyed (κ : Type) (α : Type) := List (κ × α)

namespace Keyed

variable {κ α β : Type} [DecidableEq κ]

/-- The value of a key. -/
def get? (key : κ) : Keyed κ α → Option α
  | [] => none
  | (k, v) :: rest => if k = key then some v else get? key rest

def has (key : κ) (m : Keyed κ α) : Bool := (get? key m).isSome

/-- Sets a key: in place if it is there, else behind the others. -/
def put (key : κ) (value : α) : Keyed κ α → Keyed κ α
  | [] => [(key, value)]
  | (k, v) :: rest => if k = key then (k, value) :: rest else (k, v) :: put key value rest

/-- Sets a key unless it is there. -/
def putNew (key : κ) (value : α) (m : Keyed κ α) : Keyed κ α :=
  if has key m then m else m ++ [(key, value)]

/-- Leaves a key out. -/
def erase (key : κ) (m : Keyed κ α) : Keyed κ α := m.filter fun p => p.1 ≠ key

/-- Sets pair after pair. -/
def ofPairs (pairs : List (κ × α)) : Keyed κ α := pairs.foldl (fun m p => put p.1 p.2 m) []

end Keyed

end GameAtlas
