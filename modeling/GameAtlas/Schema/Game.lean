import GameAtlas.Schema.Field
import GameAtlas.Script.Table

/-!
Games: what is known of one, its script tables and its root fields in the order of the schema.
-/

namespace GameAtlas.Schema

structure Processor where
  architecture : String := ""
  settings : Keyed String String := []

structure Game where
  title : String
  country : String
  platform : String := ""
  version : String := ""
  cleanHash : String := ""
  defaultScript : String := ""
  processor : Processor := {}
  tables : Keyed String Script.Table := []
  entries : List Field := []

namespace Game

/-- The first entry of a name. -/
def entry? (g : Game) (name : String) : Option Field := g.entries.find? fun f => f.name == name

def names (g : Game) : List String := g.entries.map fun f => f.name

/-- All issues of a schema, entry by entry. -/
def problems (g : Game) : List Issue := g.entries.flatMap Field.problems

/-- A few lines about a game. -/
def summary (g : Game) : String :=
  let names := ", ".intercalate g.names
  let lines :=
    [s!"Game: {g.title} ({g.country})"] ++
    (if g.processor.architecture = "" then [] else [s!"CPU: {g.processor.architecture}"]) ++
    (if g.defaultScript = "" then [] else [s!"Default Script Format: {g.defaultScript}"]) ++
    [s!"Entries: {names}"]
  "\n\t".intercalate lines

end Game

end GameAtlas.Schema
