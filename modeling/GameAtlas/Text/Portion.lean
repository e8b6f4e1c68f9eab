import GameAtlas.Text.Utf8

/-!
Text files that are read in portions: strict UTF-8 with unified line ends. Bytes are decoded in
chunks, one whenever characters are missing, so that a fault shows only when its chunk is needed.
The places of faults count within a chunk, from the start of what the chunk before left over.
-/

namespace GameAtlas.Text

/-- A text file that is being read. -/
structure FileReader where
  /-- The bytes that were not taken. -/
  bytes : List UInt8
  /-- An unfinished sequence at the end of the last chunk. -/
  pending : List UInt8 := []
  /-- Whether the last chunk ended with a carriage return, which may be half of a line end. -/
  carriage : Bool := false
  /-- Characters that were not handed out. -/
  decoded : List Char := []
  /-- Bytes for each character of the last chunk. -/
  density : Float := 0.0

namespace FileReader

/-- The least number of bytes in a chunk. -/
def chunkSize : Nat := 8192

/-- The number of bytes that are taken where `wanted` characters are missing. -/
def chunkLength (density : Float) (wanted : Nat) : Nat :=
  let estimate := (if 1.0 < density then density else 1.0) * Float.ofNat wanted
  max chunkSize estimate.toUInt64.toNat

/-- Unifies the line ends of a chunk. A carriage return at its end is kept for the next one, unless
the chunk is the last. -/
def unifyChunk (carriage last : Bool) (cs : List Char) : List Char × Bool :=
  let cs := if carriage then '\r' :: cs else cs
  if !last && cs.getLast? == some '\r' then (unifyLineEnds cs.dropLast, true)
  else (unifyLineEnds cs, false)

/-- Decodes the next chunk. An empty one is the last. -/
def fill (r : FileReader) (wanted : Nat) : Except Utf8Fault FileReader := do
  let size := chunkLength r.density wanted
  let chunk := r.bytes.take size
  let (reversed, pending) ← readChunk 0 0 [] (r.pending ++ chunk)
  if chunk.isEmpty && !pending.isEmpty then throw ⟨0, pending, .unexpectedEnd⟩
  let (cs, carriage) := unifyChunk r.carriage chunk.isEmpty reversed.reverse
  let density :=
    if cs.isEmpty then 0.0 else Float.ofNat chunk.length / Float.ofNat cs.length
  return ⟨r.bytes.drop size, pending, carriage, cs, density⟩

/-- Hands out `n` characters, fewer only at the end. Chunks are not empty before the end, so that
fuel beyond their number of bytes is enough. -/
def take (r : FileReader) (n : Nat) : Nat → Except Utf8Fault (List Char × FileReader)
  | 0 => .ok ([], r)
  | fuel + 1 => do
    let front := r.decoded.take n
    let r := { r with decoded := r.decoded.drop n }
    if front.length = n then return (front, r)
    let after ← r.fill (n - front.length)
    if r.bytes.isEmpty && after.decoded.isEmpty then return (front, after)
    let (more, after) ← after.take (n - front.length) fuel
    return (front ++ more, after)

/-- All that is handed out in portions of `size` characters, up to the end or a fault. -/
def portionsFrom (size : Nat) (r : FileReader) : Nat → List (List Char) × Option Utf8Fault
  | 0 => ([], none)
  | fuel + 1 =>
    match r.take size (r.bytes.length + 3) with
    | .error fault => ([], some fault)
    | .ok ([], _) => ([], none)
    | .ok (portion, r) =>
      let (rest, fault) := portionsFrom size r fuel
      (portion :: rest, fault)

end FileReader

/-- The portions of a file's text, and the fault in the one behind them if there is one. -/
def portions (size : Nat) (bytes : List UInt8) : List (List Char) × Option Utf8Fault :=
  FileReader.portionsFrom size { bytes := bytes } (bytes.length + 1)

end GameAtlas.Text
