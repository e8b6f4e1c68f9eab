import GameAtlas.Command.Extract

/-!
The command line: `validate` reports on schema files, `extract` shows an entry of an image.
-/

namespace GameAtlas.Main

open Files (Disk DirectoryEntry FileFault)
open Command (Ending Interruption)

/-- The fault that an error of the system stands for. -/
def faultOf : IO.Error → FileFault
  | .inappropriateType _ code _ =>
    if code = 20 || code = 0 - 20 then .notDirectory else .isDirectory
  | .invalidArgument _ code _ => if code = 36 || code = 0 - 36 then .nameTooLong else .missing
  | _ => .missing

def readBytes (path : String) : IO (Except FileFault (List UInt8)) := do
  try return .ok (← IO.FS.readBinFile path).toList
  catch e => return .error (faultOf e)

def listNames (path : String) : IO (Except FileFault (List DirectoryEntry)) := do
  try
    let entries ← ((← IO.currentDir) / path).readDir
    return .ok (← entries.toList.mapM fun e => do return ⟨e.fileName, ← e.path.isDir⟩)
  catch e => return .error (faultOf e)

/-- The files of this machine. -/
def disk : Disk IO := ⟨readBytes, listNames⟩

def interruptionEnding : Interruption → Ending
  | .usage u => { code := u.code, err := "usage: validate [SCHEMA] | extract SCHEMA IMAGE ENTRY\n" }
  | .schema f => { code := 1, err := f.message ++ "\n" }
  | .decoding f => { code := 1, err := f.message ++ "\n" }

/-- The command of a name. -/
def command (args : List String) : ExceptT Interruption IO Ending :=
  match args with
  | "validate" :: rest => Command.Validate.run disk rest
  | "extract" :: rest => Command.Extract.run disk rest
  | _ => throw (.usage .invalid)

end GameAtlas.Main

def main (args : List String) : IO UInt32 := do
  let ending ←
    match ← (GameAtlas.Main.command args).run with
    | .ok ending => pure ending
    | .error interruption => pure (GameAtlas.Main.interruptionEnding interruption)
  IO.print ending.out
  IO.eprint ending.err
  return UInt32.ofNat ending.code
