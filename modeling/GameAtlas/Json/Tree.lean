import GameAtlas.Text.Quoted

/-!
JSON trees and their text: one item a line, indented by two columns.
-/

namespace GameAtlas.Json

inductive Tree where
  | null
  | bool (b : Bool)
  | number (n : Int)
  | text (s : String)
  | list (items : List Tree)
  | object (pairs : List (String × Tree))
deriving Inhabited

/-- The escapes of a letter. -/
def shortEscape? (c : Char) : Option String :=
  if c == '"' then some "\\\""
  else if c == '\\' then some "\\\\"
  else if c == '\n' then some "\\n"
  else if c == '\r' then some "\\r"
  else if c == '\t' then some "\\t"
  else if c == '\x08' then some "\\b"
  else if c == '\x0C' then some "\\f"
  else none

def unitEscape (n : Nat) : String := "\\u" ++ Text.lowerHexWide 4 n

/-- The escape of a code point, above U+FFFF as a pair of surrogates. -/
def codeEscape (n : Nat) : String :=
  if n < 0x10000 then unitEscape n
  else
    let rest := n - 0x10000
    unitEscape (0xD800 + rest / 0x400) ++ unitEscape (0xDC00 + rest % 0x400)

/-- A character within a text. In `ascii` texts all that is not printable ASCII is escaped. -/
def charText (ascii : Bool) (c : Char) : String :=
  match shortEscape? c with
  | some s => s
  | none =>
    if c.toNat < 0x20 || (ascii && 0x7F ≤ c.toNat) then codeEscape c.toNat else c.toString

def quoted (ascii : Bool) (s : String) : String :=
  "\"" ++ String.join (s.toList.map (charText ascii)) ++ "\""

/-- A line break and the indentation of a depth. -/
def newline (depth : Nat) : String := "\n" ++ String.ofList (List.replicate (2 * depth) ' ')

/-- Items between brackets, each on a line of its own. -/
def enclosed (first last : String) (depth : Nat) (items : List String) : String :=
  if items.isEmpty then first ++ last
  else
    first ++ ",".intercalate (items.map fun s => newline (depth + 1) ++ s) ++ newline depth ++ last

namespace Tree

mutual

/-- The text of a tree at a depth. -/
def render (ascii : Bool) (depth : Nat) (t : Tree) : String :=
  match t with
  | .null => "null"
  | .bool b => if b then "true" else "false"
  | .number n => toString n
  | .text s => quoted ascii s
  | .list items => enclosed "[" "]" depth (renderItems ascii (depth + 1) items)
  | .object pairs => enclosed "\x7b" "\x7d" depth (renderPairs ascii (depth + 1) pairs)
termination_by structural t

def renderItems (ascii : Bool) (depth : Nat) (ts : List Tree) : List String :=
  match ts with
  | [] => []
  | t :: rest => render ascii depth t :: renderItems ascii depth rest
termination_by structural ts

def renderPairs (ascii : Bool) (depth : Nat) (ps : List (String × Tree)) : List String :=
  match ps with
  | [] => []
  | (key, t) :: rest =>
    (quoted ascii key ++ ": " ++ render ascii depth t) :: renderPairs ascii depth rest
termination_by structural ps

end

end Tree

end GameAtlas.Json
