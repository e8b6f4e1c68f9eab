import GameAtlas.Text.CaseMapping

/-!
Tiles: squares of eight by eight pixels. In the planar formats every bit of a pixel lies in a plane
of its own; in the packed one a pixel is a byte.
-/

namespace GameAtlas.Projection

/-- Formats of tiles by the number of bits of a pixel. -/
inductive TileFormat where
  | bits1
  | bits2
  | bits4
  | bits8
deriving DecidableEq, Repr

inductive TileFault where
  | unsupported (format : String)
  | partialTile (length : Nat) (format : String)
deriving DecidableEq, Repr

def TileFault.message : TileFault → String
  | .unsupported format => s!"Unsupported tile format: {format}"
  | .partialTile length format => s!"{length} bytes is not a whole number of {format} tiles"

namespace TileFormat

def bits : TileFormat → Nat
  | .bits1 => 1
  | .bits2 => 2
  | .bits4 => 4
  | .bits8 => 8

def name (f : TileFormat) : String := s!"{f.bits}bpp"

def ofName? (name : String) : Option TileFormat :=
  [bits1, bits2, bits4, bits8].find? fun f => f.name == name

/-- The bytes of a tile. -/
def size (f : TileFormat) : Nat := 8 * f.bits

/-- The places of the planes of a row within a tile, the lowest bit first. Planes come in pairs, row
by row; a second pair stands behind the first one's rows. -/
def planes (f : TileFormat) (y : Nat) : List Nat :=
  match f with
  | .bits1 => [y]
  | .bits2 => [2 * y, 2 * y + 1]
  | .bits4 => [2 * y, 2 * y + 1, 16 + 2 * y, 17 + 2 * y]
  | .bits8 => []

end TileFormat

/-- The pixel at a column: one bit of each plane, the leftmost pixel in the highest one. -/
def pixel (x : Nat) : List UInt8 → Nat
  | [] => 0
  | plane :: rest => plane.toNat / Nat.pow 2 (7 - x) % 2 + 2 * pixel x rest

/-- A row of pixels from its planes. -/
def planarRow (planes : List UInt8) : List Nat := (List.range 8).map fun x => pixel x planes

/-- A row of a tile. -/
def tileRow (f : TileFormat) (tile : List UInt8) (y : Nat) : List Nat :=
  match f with
  | .bits8 => ((tile.drop (8 * y)).take 8).map UInt8.toNat
  | f => planarRow ((f.planes y).map fun i => tile.getD i 0)

def tileRows (f : TileFormat) (tile : List UInt8) : List (List Nat) :=
  (List.range 8).map (tileRow f tile)

/-- The rows of `count` tiles, tile below tile. -/
def stackedRows (f : TileFormat) : Nat → List UInt8 → List (List Nat)
  | 0, _ => []
  | count + 1, data => tileRows f (data.take f.size) ++ stackedRows f count (data.drop f.size)

/-- What tiles are read as if nothing else is said. -/
def defaultTileFormat : String := "2bpp"

/-- The rows of pixels of whole tiles in a format of a name. -/
def tilePixels (data : List UInt8) (format : String) : Except TileFault (List (List Nat)) :=
  let name := Text.toLower (if format = "" then defaultTileFormat else format)
  match TileFormat.ofName? name with
  | none => .error (.unsupported name)
  | some f =>
    if data.length % f.size ≠ 0 then .error (.partialTile data.length name)
    else .ok (stackedRows f (data.length / f.size) data)

end GameAtlas.Projection
