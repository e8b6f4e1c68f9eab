import Mathlib.Tactic
import GameAtlas.Image.Patch
import GameAtlas.Proofs.Image.RoundTrip
import GameAtlas.Proofs.Schema.Reload

/-!
Values written into images. A value that is written at the address of its entry leaves all other
bytes of the image as they were, and is what the entry then decodes to, whatever else the image
holds. Writing it back into the image that it came from changes nothing.
-/

namespace GameAtlas.Image

open Schema (Field Game)
open Expression (Bindings)
open Yaml (Node)

/-! ### Overwritten bytes -/

/-- An image with bytes in place of as many of its own. -/
def overwrite (image : List UInt8) (start : Nat) (bytes : List UInt8) : List UInt8 :=
  image.take start ++ (bytes ++ image.drop (start + bytes.length))

section

variable {image bytes : List UInt8} {start : Nat}

theorem length_overwrite (h : start + bytes.length ≤ image.length) :
    (overwrite image start bytes).length = image.length := by
  simp only [overwrite, List.length_append, List.length_take, List.length_drop]
  omega

theorem getElem?_overwrite (h : start + bytes.length ≤ image.length) {k : Nat}
    (hk : k < start ∨ start + bytes.length ≤ k) :
    (overwrite image start bytes)[k]? = image[k]? := by
  have hlength : (image.take start).length = start := by
    rw [List.length_take]
    omega
  rw [overwrite]
  rcases hk with hbefore | hbehind
  · rw [List.getElem?_append_left (by omega), List.getElem?_take_of_lt hbefore]
  · have hplace : start + bytes.length + (k - start - bytes.length) = k := by omega
    rw [List.getElem?_append_right (by omega), List.getElem?_append_right (by omega), hlength,
      List.getElem?_drop, hplace]

/-- Bytes that are there already are overwritten without a trace. -/
theorem overwrite_self (h : (image.drop start).take bytes.length = bytes) :
    overwrite image start bytes = image := by
  have hbehind : bytes ++ image.drop (start + bytes.length) = image.drop start := by
    calc
      bytes ++ image.drop (start + bytes.length) =
          (image.drop start).take bytes.length ++ (image.drop start).drop bytes.length := by
        rw [h, List.drop_drop]
      _ = image.drop start := List.take_append_drop _ _
  rw [overwrite, hbehind, List.take_append_drop]

theorem boundary_of_le {length n : Nat} (h : n ≤ length) : boundary length n = n := by
  have hsign : ¬ ((n : Int) < 0) := by omega
  rw [boundary, if_neg hsign, Int.toNat_natCast, Nat.min_eq_left h]

theorem splice_eq_overwrite (h : start + bytes.length ≤ image.length) :
    splice image bytes start (start + bytes.length) = overwrite image start bytes := by
  have hstart : boundary image.length start = start := boundary_of_le (by omega)
  have hstop : boundary image.length ((start : Int) + bytes.length) = start + bytes.length := by
    rw [← Nat.cast_add]
    exact boundary_of_le h
  have hmax : max start (start + bytes.length) = start + bytes.length := by omega
  simp only [splice, hstart, hstop, hmax, overwrite, List.append_assoc]

end

/-- A value is written at its address if the image reaches behind it. -/
theorem patch_eq_ok_iff {image patched : List UInt8} {v : Value} {a : Nat}
    (hroot : v.field.address = some (a : Int)) :
    patch image v none = .ok patched ↔
      a + v.encode.length ≤ image.length ∧ patched = overwrite image a v.encode := by
  have hpatch : patch image v none =
      if (a : Int) + v.encode.length > image.length then
        .error (.tooLong v.name v.encode.length a image.length)
      else .ok (splice image v.encode a (a + v.encode.length)) := by
    rw [patch, hroot]
    rfl
  rw [hpatch]
  by_cases hroom : a + v.encode.length ≤ image.length
  · have hfits : ¬ ((a : Int) + v.encode.length > image.length) := by omega
    rw [if_neg hfits, splice_eq_overwrite hroom, Except.ok.injEq]
    constructor
    · intro h
      exact ⟨hroom, h.symm⟩
    · rintro ⟨_, rfl⟩
      rfl
  · have hlong : (a : Int) + v.encode.length > image.length := by omega
    rw [if_pos hlong]
    constructor
    · intro h
      cases h
    · rintro ⟨h, _⟩
      exact absurd h hroom

/-! ### Values behind other bytes -/

/-- The bytes up to the address of a field may be any others: its value is decided by what stands
behind them. -/
theorem decode_behind [Host] {f : Field} {bindings : Bindings} {a : Nat}
    (hroot : f.address = some (a : Int))
    {s after : Source} {v : Value} (h : decode f bindings s = (.ok v, after))
    (skipped : List UInt8) (hskipped : skipped.length = a) :
    (decode f bindings).Gives (skipped ++ v.encode) v ∧ v.field = f := by
  have hdecode : decode f bindings =
      (Decoder.within f.name (Decoder.read a) >>= fun _ => decodeField f bindings) := by
    unfold decode
    simp only [hroot, Decoder.discard_eq_bind, bind_assoc, pure_bind]
  rw [hdecode] at h ⊢
  obtain ⟨_, middle, hskip, hvalue⟩ := Decoder.bind_ok h
  obtain ⟨used, _, hgives, rfl, _, hfield⟩ := decodeField_takes f bindings middle v after hvalue
  have hsize : a < Source.sizeLimit := by
    obtain ⟨hsize, _⟩ := Source.read_ok s middle a _ (Decoder.ofSource_ok (Decoder.within_ok hskip))
    exact hsize
  have hread := (Decoder.gives_read skipped (hskipped ▸ hsize)).within f.name
  rw [hskipped] at hread
  exact ⟨hread.bind hgives, hfield⟩

/-- An entry of a loaded game that has an address does not start before the image does. -/
theorem entry_address_nonneg [Host] {metadata definitions : Option Node} {g : Game} {name : String}
    {f : Field} {a : Int} (hload : Game.ofNodes metadata definitions = .ok g)
    (hentry : g.entry? name = some f) (hroot : f.address = some a) : 0 ≤ a := by
  have hmem : f ∈ g.entries := List.mem_of_find?_eq_some hentry
  obtain ⟨_, hentries⟩ := Game.placed_of_ofNodes hload
  obtain ⟨hsound, _⟩ := hentries f hmem
  obtain ⟨here, _, _⟩ := hsound
  exact here.attributes.fits .offset a hroot

/-- A value of an entry that is patched into an image leaves the length of the image and all bytes
outside of the entry's own as they were, and the entry decodes to just this value there, whatever
the image holds besides. Patched into the image that it was decoded from it changes nothing. -/
theorem decode_patched_entry [Host] {metadata definitions : Option Node} {g : Game} {name : String}
    {f : Field} {a : Int} (hload : Game.ofNodes metadata definitions = .ok g)
    (hentry : g.entry? name = some f) (hroot : f.address = some a)
    {image other patched : List UInt8} {buffered : Bool} {v : Value} {after : Source}
    (hdecode : decode f [] { rest := image, buffered := buffered } = (.ok v, after))
    (hpatch : patch other v none = .ok patched) :
    patched.length = other.length ∧
      (∀ k : Nat, (k : Int) < a ∨ a + v.consumed ≤ k → patched[k]? = other[k]?) ∧
      (∀ buffered', (decode f [] { rest := patched, buffered := buffered' }).1 = .ok v) ∧
      patch image v none = .ok image := by
  have hnonneg := entry_address_nonneg hload hentry hroot
  obtain ⟨n, rfl⟩ := Int.eq_ofNat_of_zero_le hnonneg
  have haddress : 0 ≤ f.address.getD 0 := by
    rw [hroot]
    exact hnonneg
  obtain ⟨hend, hencode, _, hexact⟩ := decode_encode_image f [] image buffered v after haddress
    hdecode
  have hplace : (f.address.getD 0).toNat = n := by
    rw [hroot]
    exact Int.toNat_natCast n
  rw [hplace, hexact.consumed] at hend hencode
  obtain ⟨_, hfield⟩ := decode_behind hroot hdecode (List.replicate n 0) List.length_replicate
  have hvalue : v.field.address = some (n : Int) := by
    rw [hfield, hroot]
  obtain ⟨hroom, rfl⟩ := (patch_eq_ok_iff hvalue).mp hpatch
  refine ⟨length_overwrite hroom, ?_, ?_, ?_⟩
  · intro k hk
    rw [hexact.consumed] at hk
    exact getElem?_overwrite hroom (by omega)
  · intro buffered'
    have hskipped : (other.take n).length = n := by
      rw [List.length_take]
      omega
    obtain ⟨hgives, _⟩ := decode_behind hroot hdecode (other.take n) hskipped
    have hsplit : overwrite other n v.encode =
        (other.take n ++ v.encode) ++ other.drop (n + v.encode.length) :=
      (List.append_assoc ..).symm
    rw [hgives _ _ hsplit]
  · exact (patch_eq_ok_iff hvalue).mpr ⟨hend, (overwrite_self hencode.symm).symm⟩

/-- A text that ends with a zero. -/
def sampleTitle : Field :=
  { kind := .script, name := "TITLE", address := some 2, terminator := [0]
    issues := [.incomplete "Missing size" "Add a Size"] }

def sampleTitleNode : Node :=
  .ofPairs [(.ofText "TITLE",
    .mapping "!script" [(.ofText "Offset", .ofHex 2), (.ofText "Terminator", .ofInt 0)] false none)]

theorem sampleTitleNode_loads :
    Game.ofNodes (some Schema.sampleMetadata) (some sampleTitleNode) =
      .ok { title := "Sample", country := "Nowhere", entries := [sampleTitle] } := rfl

/-- A text of two characters in place of a longer one, whose end stays behind it. -/
theorem sampleTitle_patched :
    let game : Game := { title := "Sample", country := "Nowhere", entries := [sampleTitle] }
    let value := Value.raw sampleTitle 3 [72, 105, 0]
    Game.ofNodes (some Schema.sampleMetadata) (some sampleTitleNode) = .ok game ∧
      game.entry? "TITLE" = some sampleTitle ∧
      decode sampleTitle [] (.ofBytes [1, 2, 72, 105, 0, 3]) = (.ok value, ⟨[3], 5, false⟩) ∧
      patch [7, 7, 66, 121, 101, 33, 0] value none = .ok [7, 7, 72, 105, 0, 33, 0] ∧
      (decode sampleTitle [] (.ofBytes [7, 7, 72, 105, 0, 33, 0])).1 = .ok value ∧
      patch [1, 2, 72, 105, 0, 3] value none = .ok [1, 2, 72, 105, 0, 3] := by
  intro game value
  have hload : Game.ofNodes (some Schema.sampleMetadata) (some sampleTitleNode) = .ok game :=
    sampleTitleNode_loads
  have hentry : game.entry? "TITLE" = some sampleTitle := rfl
  have hdecode : decode sampleTitle [] (.ofBytes [1, 2, 72, 105, 0, 3]) =
      (.ok value, ⟨[3], 5, false⟩) := rfl
  have hpatch : patch [7, 7, 66, 121, 101, 33, 0] value none = .ok [7, 7, 72, 105, 0, 33, 0] := rfl
  obtain ⟨_, _, hagain, hself⟩ := decode_patched_entry hload hentry rfl hdecode hpatch
  exact ⟨hload, hentry, hdecode, hpatch, hagain false, hself⟩

end GameAtlas.Image
