import GameAtlas.Text.CaseMapping
import GameAtlas.Text.Numeral

/-!
Colors: red, green and blue from words of five bits each or from bytes.
-/

namespace GameAtlas.Projection

structure Rgb where
  red : Nat
  green : Nat
  blue : Nat
deriving DecidableEq, Repr

inductive ColorFault where
  | unsupported (format : String)
  | oddLength
  | partialTriple
deriving DecidableEq, Repr

def ColorFault.message : ColorFault → String
  | .unsupported format => s!"Unsupported color format: {format}"
  | .oddLength => "BGR555 colors need an even number of bytes"
  | .partialTriple => "RGB888 colors need a multiple of 3 bytes"

/-- Five bits widened to eight: the highest three are repeated below. -/
def expand5 (channel : Nat) : Nat := channel * 8 + channel / 4

/-- The color of a word, red in the lowest bits. -/
def colorOfWord (word : Nat) : Rgb :=
  ⟨expand5 (word % 32), expand5 (word / 32 % 32), expand5 (word / 1024 % 32)⟩

/-- Colors from words, the lower byte first. -/
def wordColors : List UInt8 → Except ColorFault (List Rgb)
  | [] => .ok []
  | [_] => .error .oddLength
  | low :: high :: rest => do
    return colorOfWord (low.toNat + 256 * high.toNat) :: (← wordColors rest)

/-- Colors from triples of bytes. -/
def byteColors : List UInt8 → Except ColorFault (List Rgb)
  | [] => .ok []
  | r :: g :: b :: rest => do return ⟨r.toNat, g.toNat, b.toNat⟩ :: (← byteColors rest)
  | _ => .error .partialTriple

/-- What colors are read as if nothing else is said. -/
def defaultColorFormat : String := "BGR555"

/-- The colors of bytes in a format of a name. -/
def colorValues (data : List UInt8) (format : String) : Except ColorFault (List Rgb) :=
  let name := Text.toUpper (if format = "" then defaultColorFormat else format)
  if name = "BGR555" then wordColors data
  else if name = "RGB888" then byteColors data
  else .error (.unsupported name)

namespace Rgb

def toList (c : Rgb) : List Nat := [c.red, c.green, c.blue]

/-- Two capital hexadecimal digits for each part. -/
def hex (c : Rgb) : String :=
  "#" ++ String.join (c.toList.map fun n => Text.padLeft 2 '0' (Text.upperHex n))

end Rgb

end GameAtlas.Projection
