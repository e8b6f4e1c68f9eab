import GameAtlas.Command.Validate
import GameAtlas.Projection.Rendering

/-!
The command that reads one entry of an image and shows it.
-/

namespace GameAtlas.Command

open Files (Disk SchemaFault)
open Schema (LoadFault)

namespace Extract

def switches : List Switch :=
  [{ names := ["-f", "--format"], takesValue := true,
     choices := some (Projection.Format.all.map Projection.Format.name) },
   { names := ["-v", "--verbose"] }]

/-- The ending with an error message. -/
def failed (code : Nat) (message : String) : Ending :=
  { code := code, err := s!"Error: {message}\n" }

/-- How the command ends when a schema cannot be loaded. Some faults are not looked for, and of
documents that are left out no ending is told. -/
def schemaEnding (f : SchemaFault) : Except Interruption Ending :=
  match f with
  | .load (.field (.conversion (.unhashable _))) => .ok (failed 2 f.message)
  | .load (.field (.conversion (.misfit _))) => .ok (failed 1 f.message)
  | .load (.field (.conversion _)) => .error (.schema f)
  | .load (.unreadable .codePointTooLarge) => .error (.schema f)
  | .load (.unreadable .loneSurrogate) | .load (.unreadable .selfReference) => .error (.schema f)
  | _ => .ok (failed 1 f.message)

/-- How the command ends when an entry cannot be read. -/
def decodeEnding (f : Image.DecodeFault) : Except Interruption Ending :=
  match f with
  | .refused .negative => .ok (failed 1 f.message)
  | .refused _ | .noItemType => .error (.decoding f)
  | f => .ok (failed 1 f.message)

/-- How the command ends when a value cannot be shown. -/
def projectionEnding (f : Projection.Fault) : Ending :=
  match f with
  | .noText _ => failed 2 f.message
  | f => failed 1 f.message

/-- The format that was asked for; none if the switch has no value. -/
def format? (a : Arguments) : Option Projection.Format :=
  match a.setting? "--format" with
  | none => some .yaml
  | some value => value.bind Projection.Format.ofName?

variable [Host]

/-- Reads an entry of an image and shows it. -/
def showEntry (game : Schema.Game) (f : Schema.Field) (image : List UInt8)
    (format? : Option Projection.Format) : Except Interruption Ending :=
  match Image.decodeFile image f [], format? with
  | .error fault, _ => decodeEnding fault
  | .ok _, none => .ok (failed 1 "Unknown output format: []")
  | .ok v, some format =>
    match Projection.render (some game) v format with
    | .error fault => .ok (projectionEnding fault)
    | .ok s => .ok { code := 0, out := s ++ "\n" }

variable {m : Type → Type} [Monad m]

def extract (disk : Disk m) (schema image entry : String) (format? : Option Projection.Format) :
    ExceptT Interruption m Ending := do
  match ← ExceptT.lift (Files.loadFile disk schema).run with
  | .error f => schemaEnding f
  | .ok game =>
    match game.entry? entry with
    | none => return { code := 1, err := s!"Error: no entry named {entry} in {schema}\n" }
    | some f =>
      match ← ExceptT.lift (Files.readFile disk image).run with
      | .error fault => return failed 1 fault.message
      | .ok bytes => showEntry game f bytes format?

def run (disk : Disk m) (args : List String) : ExceptT Interruption m Ending := do
  match readArguments switches 3 3 args with
  | .error u => throw (.usage u)
  | .ok a =>
    match a.plain with
    | [schema, image, entry] => extract disk schema image entry (format? a)
    | _ => throw (.usage .invalid)

end Extract

end GameAtlas.Command
