/-!
Failures with the place where they happened: the names of the fields around it, the outermost first.
The element of an array is written as its index in brackets.
-/

namespace GameAtlas

structure Located (ε : Type) where
  cause : ε
  path : List String := []

namespace Located

variable {ε : Type}

/-- A failure seen from the field around it. A field without a name leaves no trace. -/
def within (name : String) (failure : Located ε) : Located ε :=
  if name = "" then failure else { failure with path := name :: failure.path }

/-- An element's place in its array. -/
def index (n : Nat) : String := s!"[{n}]"

/-- Adds a part to a place. Only names need a dot before them. -/
def joinPart (place part : String) : String :=
  if part.startsWith "[" || place = "" then place ++ part else place ++ "." ++ part

/-- The place as one text. -/
def location (failure : Located ε) : String := failure.path.foldl joinPart ""

/-- The message with the place in front, if there is one. -/
def text (message : ε → String) (failure : Located ε) : String :=
  if failure.path.isEmpty then message failure.cause
  else s!"Error in {failure.location}: {message failure.cause}"

end Located

end GameAtlas
