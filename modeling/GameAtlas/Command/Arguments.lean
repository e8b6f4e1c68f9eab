import GameAtlas.Text.Blank
import GameAtlas.Text.DecimalDigit

/-!
Arguments of commands: switches with short and long names, some of which take a value, and plain
arguments in between. Long names may be cut short where that is unambiguous, and short ones may be
run together. Behind two hyphens all arguments are plain.
-/

namespace GameAtlas.Command

structure Switch where
  /-- The names, the last of which is the one that settings are kept under. -/
  names : List String
  takesValue : Bool := false
  /-- The values that are taken, if not all are. -/
  choices : Option (List String) := none
deriving DecidableEq, Repr

namespace Switch

def key (sw : Switch) : String := sw.names.getLast?.getD ""

def help : Switch := { names := ["-h", "--help"] }

def admits (sw : Switch) (value : String) : Bool :=
  match sw.choices with
  | some choices => choices.contains value
  | none => true

end Switch

/-- Why a command ends with its arguments. -/
inductive Usage where
  | help
  | invalid
deriving DecidableEq, Repr

/-- The exit code of a command that was not run. -/
def Usage.code : Usage → Nat
  | .help => 0
  | .invalid => 2

/-- An argument for what it looks like. -/
inductive Piece where
  | plain (s : String)
  | separator
  /-- A switch as it is spelled, and the text that stands with it, behind an equals sign or right
  behind its letter. -/
  | switch (sw : Switch) (short : Bool) (attached : Option String)
  | unknown
deriving DecidableEq, Repr

/-- Arguments as they are understood so far. -/
structure Arguments where
  /-- The switches that were given, with their values. -/
  settings : List (String × Option String) := []
  plain : List String := []
  surplus : Bool := false
  /-- Whether a plain argument was taken last. -/
  adjacent : Bool := false
deriving DecidableEq, Repr

namespace Arguments

def has (a : Arguments) (key : String) : Bool := a.settings.any fun p => p.1 == key

/-- What a switch was given with last, if it was given. -/
def setting? (a : Arguments) (key : String) : Option (Option String) :=
  a.settings.reverse.lookup key

end Arguments

/-! ### Looking at arguments one by one -/

/-- The mark in front of arguments that are all plain. As an attached value it is none. -/
def separator : String := "--"

/-- Splits at the first equals sign. -/
def splitValue (s : String) : String × Option String :=
  let cs := s.toList
  let name := cs.takeWhile (· != '=')
  match cs.drop name.length with
  | [] => (s, none)
  | _ :: value => (String.ofList name, some (String.ofList value))

/-- A number below zero is a plain argument. -/
def isNegativeNumber (cs : List Char) : Bool :=
  match cs with
  | '-' :: rest =>
    let rest := Text.withoutLastLineFeed rest
    let whole := rest.takeWhile Text.isDecimalDigit
    match rest.drop whole.length with
    | [] => !whole.isEmpty
    | '.' :: fraction => !fraction.isEmpty && fraction.all Text.isDecimalDigit
    | _ => false
  | _ => false

/-- Names that an argument may stand for, with what is attached to them: long names that it is the
start of, or the short name that it starts with. -/
def candidates (switches : List Switch) (s : String) : List Piece :=
  match s.toList with
  | '-' :: '-' :: _ =>
    let (start, attached) := splitValue s
    switches.flatMap fun sw =>
      (sw.names.filter fun name => name.startsWith start).map fun _ => .switch sw false attached
  | '-' :: letter :: attached =>
    (switches.filter fun sw => sw.names.contains (String.ofList ['-', letter])).map fun sw =>
      .switch sw true (some (String.ofList attached))
  | _ => []

def named? (switches : List Switch) (name : String) : Option Switch :=
  switches.find? fun sw => sw.names.contains name

def isShort (name : String) : Bool := !name.startsWith "--"

/-- What an argument in front of a separator is. -/
def piece (switches : List Switch) (s : String) : Except Usage Piece :=
  let cs := s.toList
  if cs.head? != some '-' then .ok (.plain s)
  else
    match named? switches s with
    | some sw => .ok (.switch sw (isShort s) none)
    | none =>
      if cs.length = 1 then .ok (.plain s)
      else
        let (name, attached) := splitValue s
        match attached, named? switches name with
        | some attached, some sw => .ok (.switch sw (isShort name) (some attached))
        | _, _ =>
          match candidates switches s with
          | [p] => .ok p
          | _ :: _ => .error .invalid
          | [] =>
            if isNegativeNumber cs || cs.contains ' ' then .ok (.plain s) else .ok .unknown

/-- All arguments for what they look like. -/
def pieces (switches : List Switch) : List String → Except Usage (List Piece)
  | [] => .ok []
  | s :: rest =>
    if s = separator then .ok (.separator :: rest.map .plain)
    else do
      let p ← piece switches s
      return p :: (← pieces switches rest)

/-! ### Taking arguments -/

/-- The switches in one argument: all that stand for themselves, and the value of the last one, if
it has one attached. -/
structure Cluster where
  flags : List Switch
  last : Switch
  attached : Option String := none

/-- Reads switches that are run together: what is attached to a short name that takes no value
begins with the letter of the next switch. -/
def cluster (switches : List Switch) (flags : List Switch) (sw : Switch) (short : Bool)
    (attached : List Char) : Except Usage Cluster :=
  if sw.takesValue then
    .ok { flags := flags, last := sw, attached := some (String.ofList attached) }
  else if !short then .error .invalid
  else
    match attached with
    | [] => .error .invalid
    | letter :: rest =>
      match named? switches (String.ofList ['-', letter]), rest with
      | none, _ => .error .invalid
      | some next, [] => .ok { flags := flags ++ [sw], last := next }
      | some next, rest => cluster switches (flags ++ [sw]) next short rest

/-- Does what a switch says; help ends everything. -/
def set (a : Arguments) (sw : Switch) (value : Option String) : Except Usage Arguments :=
  if sw.key = Switch.help.key then .error .help
  else if !value.all sw.admits then .error .invalid
  else .ok { a with settings := a.settings ++ [(sw.key, value)], adjacent := false }

def setAll (a : Arguments) : List Switch → Except Usage Arguments
  | [] => .ok a
  | sw :: rest => do setAll (← set a sw none) rest

/-- Does what a cluster says, with the value of its last switch. -/
def setCluster (a : Arguments) (c : Cluster) (value : Option String) : Except Usage Arguments := do
  set (← setAll a c.flags) c.last value

/-- Takes what stands in one argument. A switch that still needs a value is left over. -/
def takePiece (switches : List Switch) (wanted : Nat) (a : Arguments) :
    Piece → Except Usage (Arguments × Option Cluster)
  | .plain s =>
    if a.plain.length < wanted then
      .ok ({ a with plain := a.plain ++ [s], adjacent := true }, none)
    else .ok ({ a with surplus := true, adjacent := false }, none)
  | .separator =>
    let used := a.plain.length < wanted || a.adjacent
    .ok ({ a with surplus := a.surplus || !used }, none)
  | .unknown => .ok ({ a with surplus := true, adjacent := false }, none)
  | .switch sw short attached => do
    let c ←
      match attached with
      | some text => cluster switches [] sw short text.toList
      | none => .ok { flags := [], last := sw }
    if c.last.takesValue && c.attached.isNone then return (a, some c)
    else return (← setCluster a c (c.attached.filter (· != separator)), none)

/-- Takes arguments in order, `wanted` plain ones at most. `open?` is what needs the next one. -/
def takePieces (switches : List Switch) (wanted : Nat) (a : Arguments) (open? : Option Cluster) :
    List Piece → Except Usage Arguments
  | [] => if open?.isSome then .error .invalid else .ok a
  | p :: rest => do
    match open?, p with
    | some c, .plain value => takePieces switches wanted (← setCluster a c (some value)) none rest
    | some _, _ => .error .invalid
    | none, p =>
      let (a, open?) ← takePiece switches wanted a p
      takePieces switches wanted a open? rest

/-- Reads arguments: at least `required` plain ones and `wanted` at most. -/
def readArguments (switches : List Switch) (required wanted : Nat) (args : List String) :
    Except Usage Arguments := do
  let switches := Switch.help :: switches
  let a ← takePieces switches wanted {} none (← pieces switches args)
  if a.surplus || a.plain.length < required then throw .invalid
  return a

end GameAtlas.Command
