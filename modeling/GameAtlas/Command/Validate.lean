import GameAtlas.Command.Arguments
import GameAtlas.Image.Decode
import GameAtlas.Report.Validation

/-!
The command that reports on schema files: the one that is named, or all in the directories at hand.
-/

namespace GameAtlas.Command

open Files (Disk SchemaFault)

/-- How a command ended. -/
structure Ending where
  code : Nat
  out : String := ""
  err : String := ""
deriving DecidableEq, Repr

/-- Why a command did not end by itself. -/
inductive Interruption where
  | usage (u : Usage)
  | schema (f : SchemaFault)
  | decoding (f : Image.DecodeFault)

namespace Validate

def switches : List Switch :=
  [{ names := ["-a", "--all"] }, { names := ["-r", "--reverse"] }, { names := ["--json"] },
   { names := ["-v", "--verbose"] }]

variable [Host] {m : Type → Type} [Monad m]

/-- The files to report on. -/
def paths (disk : Disk m) (a : Arguments) : ExceptT SchemaFault m (List String) :=
  match a.plain with
  | path :: _ =>
    if path = "" then Report.findSchemas disk else pure [(Files.Path.ofText path).text]
  | [] => Report.findSchemas disk

def run (disk : Disk m) (args : List String) : ExceptT Interruption m Ending := do
  match readArguments switches 0 1 args with
  | .error u => throw (.usage u)
  | .ok a =>
    let reports ← ExceptT.adapt .schema do
      (← paths disk a).mapM (Report.validateFile disk (a.has "--all"))
    let out :=
      if a.has "--json" then Report.json reports else Report.text (a.has "--reverse") reports
    return { code := if reports.all Report.FileReport.clean then 0 else 1, out := out }

end Validate

end GameAtlas.Command
