import GameAtlas.Text.Portion
import GameAtlas.Yaml.Token

/-!
Streams of characters that documents are read from. A stream is read in pieces, each as a whole, and
ends before the piece in which there is a fault. The fault is met by who looks behind that end.
-/

namespace GameAtlas.Yaml

/-- Characters up to the end or to a fault. -/
structure Stream where
  chars : List Char
  fault : Option Fault := none

namespace Stream

/-- A stream of pieces with a fault behind them. Characters that no text may hold are a fault of
their piece. -/
def ofPieces (pieces : List (List Char)) (fault : Option Fault) : Stream :=
  let sound := pieces.takeWhile fun piece => piece.all isPrintable
  ⟨sound.flatten, if sound.length < pieces.length then some .malformed else fault⟩

/-- A text at hand is one piece. -/
def ofText (text : String) : Stream := ofPieces [text.toList] none

/-- The number of characters in a portion of a file. -/
def portionSize : Nat := 4096

/-- The text of a file. Its first two portions are one piece, the others one each. -/
def ofFile (bytes : List UInt8) : Stream :=
  match Text.portions portionSize bytes with
  | (first :: second :: rest, fault) =>
    ofPieces ((first ++ second) :: rest) (fault.map Fault.encoding)
  | (portions, none) => ofPieces portions none
  | (_, some fault) => ⟨[], some (.encoding fault)⟩

end Stream

end GameAtlas.Yaml
