import GameAtlas.Image.Value
import GameAtlas.Text.Numeral

/-!
Values written into images.
-/

namespace GameAtlas.Image

/-- Why a value cannot be written. -/
inductive PatchFault where
  | noAddress (name : String)
  | tooLong (name : String) (length : Nat) (offset : Int) (imageSize : Nat)
deriving DecidableEq, Repr

def PatchFault.message : PatchFault → String
  | .noAddress name => s!"{name} has no address; pass an offset"
  | .tooLong name length offset imageSize =>
    let place := Text.signedUpperHex offset
    let size := Text.upperHex imageSize
    s!"{name}: {length} bytes at {place} exceed image size {size}"

/-- A place in a list, counted from the end if it is negative and moved to the next end if it is
outside. -/
def boundary (length : Nat) (n : Int) : Nat :=
  if n < 0 then (n + length).toNat else min n.toNat length

/-- Puts bytes in place of those from `start` up to `stop`. -/
def splice (image bytes : List UInt8) (start stop : Int) : List UInt8 :=
  let start := boundary image.length start
  let stop := boundary image.length stop
  image.take start ++ bytes ++ image.drop (max start stop)

/-- Writes a value at an offset, or else at the address of its field. -/
def patch (image : List UInt8) (v : Value) (offset : Option Int) :
    Except PatchFault (List UInt8) :=
  match offset <|> v.field.address with
  | none => .error (.noAddress v.name)
  | some offset =>
    let bytes := v.encode
    if offset + bytes.length > image.length then
      .error (.tooLong v.name bytes.length offset image.length)
    else .ok (splice image bytes offset (offset + bytes.length))

end GameAtlas.Image
