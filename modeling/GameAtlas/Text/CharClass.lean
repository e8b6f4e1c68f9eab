/-!
Sets of characters stored as edges. Looking a character up counts the edges up to it: an odd
number means inside.
-/

namespace GameAtlas.Text

/-- A set of characters: the ascending code points at which membership changes, outside first. -/
structure CharClass where
  edges : List Nat

def CharClass.contains (cls : CharClass) (c : Char) : Bool :=
  (cls.edges.takeWhile (· ≤ c.toNat)).length % 2 == 1

end GameAtlas.Text
