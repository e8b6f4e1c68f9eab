/-!
Issues: what is wrong with an entry of a schema and how to mend it. They are collected, and no
issue ends the reading of a schema.
-/

namespace GameAtlas.Schema

inductive Level where
  /-- The entry cannot be used as it is meant. -/
  | severe
  /-- The entry can be used; style or information is lacking. -/
  | incomplete
deriving DecidableEq, Repr

def Level.text : Level → String
  | .severe => "severe"
  | .incomplete => "incomplete"

structure Issue where
  reason : String
  fix : String
  level : Level
deriving DecidableEq, Repr

namespace Issue

def severe (reason fix : String) : Issue := ⟨reason, fix, .severe⟩

def incomplete (reason fix : String) : Issue := ⟨reason, fix, .incomplete⟩

/-- The reason, with the remedy in brackets if there is one. -/
def text (i : Issue) : String := if i.fix = "" then i.reason else s!"{i.reason} ({i.fix})"

end Issue

end GameAtlas.Schema
