import Mathlib.Tactic
import GameAtlas.Yaml.Stream

/-!
Files that are read at once. A file that is no longer than a chunk and shorter than a portion is one
portion, whatever the density is that the sizes of later chunks are guessed from; its stream is that
of its text.
-/

namespace GameAtlas.Text

namespace FileReader

variable {r : FileReader} {reversed : List Char} {wanted size fuel : Nat}

/-- A reader that has taken all bytes and has only whole characters left, which are `cs`. -/
structure Finished (r : FileReader) (cs : List Char) : Prop where
  bytes : r.bytes = []
  pending : r.pending = []
  carriage : r.carriage = false
  decoded : r.decoded = cs

theorem chunkSize_le_chunkLength (density : Float) (wanted : Nat) :
    chunkSize ≤ chunkLength density wanted :=
  le_max_left _ _

/-- A chunk that all bytes fit in takes them all. -/
theorem fill_all (hfits : r.bytes.length ≤ chunkSize)
    (hread : readChunk 0 0 [] (r.pending ++ r.bytes) = .ok (reversed, []))
    (hline : reversed.head? ≠ some '\r') (hcarriage : r.carriage = false) :
    ∃ after, r.fill wanted = .ok after ∧ after.Finished (unifyLineEnds reversed.reverse) := by
  have hlength : r.bytes.length ≤ chunkLength r.density wanted :=
    hfits.trans (chunkSize_le_chunkLength _ _)
  have hchunk : r.bytes.take (chunkLength r.density wanted) = r.bytes :=
    List.take_of_length_le hlength
  have hrest : r.bytes.drop (chunkLength r.density wanted) = [] :=
    List.drop_of_length_le hlength
  have hunify (last : Bool) :
      unifyChunk r.carriage last reversed.reverse = (unifyLineEnds reversed.reverse, false) := by
    simp [unifyChunk, hcarriage, hline]
  rw [fill]
  simp only [hchunk, hrest, hread, hunify, bind, Except.bind, List.isEmpty_nil, Bool.not_true,
    Bool.and_false, Bool.false_eq_true, if_false]
  exact ⟨_, rfl, rfl, rfl, rfl, rfl⟩

theorem Finished.fill {cs : List Char} (h : r.Finished cs) :
    ∃ after, r.fill wanted = .ok after ∧ after.Finished [] := by
  have hread : readChunk 0 0 [] (r.pending ++ r.bytes) = .ok ([], []) := by
    rw [h.bytes, h.pending]
    rfl
  have hfits : r.bytes.length ≤ chunkSize := by
    rw [h.bytes]
    exact Nat.zero_le _
  exact fill_all hfits hread nofun h.carriage

/-- What is left is handed out if less of it is there than is asked for. -/
theorem Finished.take {cs : List Char} (h : r.Finished cs) (hsize : cs.length < size) :
    ∃ after, r.take size (fuel + 1) = .ok (cs, after) ∧ after.Finished [] := by
  have hfront : r.decoded.take size = cs := by
    rw [h.decoded, List.take_of_length_le hsize.le]
  have hrest : { r with decoded := r.decoded.drop size }.Finished [] :=
    ⟨h.bytes, h.pending, h.carriage, by rw [h.decoded, List.drop_of_length_le hsize.le]⟩
  obtain ⟨after, hfill, hafter⟩ : ∃ after, FileReader.fill _ (size - cs.length) = .ok after ∧ _ :=
    hrest.fill
  refine ⟨after, ?_, hafter⟩
  rw [FileReader.take]
  simp only [hfront, hsize.ne, if_false, bind, Except.bind, hfill]
  simp [h.bytes, hafter.decoded, pure, Except.pure]

/-- A short file is handed out whole, and nothing behind it. -/
theorem take_all (hfits : r.bytes.length ≤ chunkSize) (hbytes : r.bytes ≠ [])
    (hread : readChunk 0 0 [] (r.pending ++ r.bytes) = .ok (reversed, []))
    (hline : reversed.head? ≠ some '\r') (hcarriage : r.carriage = false)
    (hdecoded : r.decoded = [])
    (hsize : (unifyLineEnds reversed.reverse).length < size) :
    ∃ after, r.take size (fuel + 2) = .ok (unifyLineEnds reversed.reverse, after) ∧
      after.Finished [] := by
  obtain ⟨filled, hfill, hfilled⟩ : ∃ filled, r.fill size = .ok filled ∧ _ :=
    fill_all hfits hread hline hcarriage
  obtain ⟨after, htake, hafter⟩ : ∃ after, filled.take size (fuel + 1) = .ok (_, after) ∧ _ :=
    hfilled.take hsize
  refine ⟨after, ?_, hafter⟩
  have hempty : r.bytes.isEmpty = false := by simp [hbytes]
  have hpositive : 0 ≠ size := by omega
  have hr : { r with decoded := [] } = r := by
    cases r
    cases hdecoded
    rfl
  rw [FileReader.take]
  simp only [hdecoded, List.take_nil, List.drop_nil, List.length_nil, hpositive, if_false,
    Nat.sub_zero, hr, bind, Except.bind, hfill, hempty, Bool.false_and, Bool.false_eq_true, htake,
    List.nil_append]
  rfl

end FileReader

theorem FileReader.Finished.portionsFrom {r : FileReader} {size fuel : Nat} (h : r.Finished [])
    (hsize : 0 < size) : portionsFrom size r fuel = ([], none) := by
  cases fuel with
  | zero => rfl
  | succ fuel =>
    obtain ⟨after, htake, -⟩ : ∃ after, r.take size (r.bytes.length + 3) = .ok ([], after) ∧ _ :=
      h.take hsize
    rw [FileReader.portionsFrom, htake]

/-- A file that is no longer than a chunk and shorter than a portion is one portion. -/
theorem portions_short {bytes : List UInt8} {reversed : List Char} {size : Nat}
    (hfits : bytes.length ≤ FileReader.chunkSize)
    (hread : readChunk 0 0 [] bytes = .ok (reversed, [])) (hline : reversed.head? ≠ some '\r')
    (htext : unifyLineEnds reversed.reverse ≠ [])
    (hsize : (unifyLineEnds reversed.reverse).length < size) :
    portions size bytes = ([unifyLineEnds reversed.reverse], none) := by
  have hbytes : bytes ≠ [] := by
    rintro rfl
    cases hread
    exact htext rfl
  have hstart : ∃ after, FileReader.take { bytes := bytes } size (bytes.length + 3) =
      .ok (unifyLineEnds reversed.reverse, after) ∧ after.Finished [] :=
    FileReader.take_all hfits hbytes hread hline rfl rfl hsize
  obtain ⟨after, htake, hafter⟩ := hstart
  rw [portions, FileReader.portionsFrom, htake]
  cases htaken : unifyLineEnds reversed.reverse with
  | nil => exact absurd htaken htext
  | cons c cs =>
    dsimp only
    rw [hafter.portionsFrom (by omega)]

/-! ### ASCII -/

/-- The bytes of a text that is ASCII. -/
def asciiBytes (cs : List Char) : List UInt8 := cs.map fun c => UInt8.ofNat c.toNat

/-- A character that takes one byte. -/
theorem readSequence_ascii {c : Char} (h : c.toNat < 0x80) (rest : List UInt8) :
    readSequence (UInt8.ofNat c.toNat) rest = .char c 1 := by
  have hbyte : (UInt8.ofNat c.toNat).toNat = c.toNat := by
    rw [UInt8.toNat_ofNat']
    omega
  have hlow : UInt8.ofNat c.toNat < 0x80 := by
    rw [UInt8.lt_iff_toNat_lt, hbyte]
    exact h
  simp [readSequence, sequenceLength?, hlow, hbyte]

theorem readChunk_ascii {cs : List Char} (h : ∀ c ∈ cs, c.toNat < 0x80) (position : Nat)
    (acc : List Char) : readChunk position 0 acc (asciiBytes cs) = .ok (cs.reverse ++ acc, []) := by
  induction cs generalizing position acc with
  | nil => rfl
  | cons c rest ih =>
    obtain ⟨hc, hrest⟩ := List.forall_mem_cons.mp h
    have hmore := ih hrest (position + 1) (c :: acc)
    rw [asciiBytes, List.map_cons, readChunk, readSequence_ascii hc]
    rw [List.reverse_cons, List.append_assoc]
    exact hmore

theorem unifyLineEnds_of_not_mem {cs : List Char} (h : '\r' ∉ cs) : unifyLineEnds cs = cs := by
  induction cs with
  | nil => rfl
  | cons c rest ih =>
    obtain ⟨hc, hrest⟩ := not_or.mp (mt List.mem_cons.mpr h)
    rw [unifyLineEnds, ih hrest]
    · rintro _ rfl
      exact absurd rfl hc
    · rintro rfl
      exact absurd rfl hc

end GameAtlas.Text

namespace GameAtlas.Yaml

/-- The stream of such a file is that of its text. -/
theorem Stream.ofFile_short {bytes : List UInt8} {reversed : List Char}
    (hfits : bytes.length ≤ Text.FileReader.chunkSize)
    (hread : Text.readChunk 0 0 [] bytes = .ok (reversed, [])) (hline : reversed.head? ≠ some '\r')
    (htext : Text.unifyLineEnds reversed.reverse ≠ [])
    (hsize : (Text.unifyLineEnds reversed.reverse).length < portionSize) :
    ofFile bytes = .ofText (String.ofList (Text.unifyLineEnds reversed.reverse)) := by
  rw [ofFile, Text.portions_short hfits hread hline htext hsize, ofText, String.toList_ofList]

/-- A short ASCII file with unified line ends is read as its text. -/
theorem Stream.ofFile_ascii {text : String} (hascii : ∀ c ∈ text.toList, c.toNat < 0x80)
    (hlines : '\r' ∉ text.toList) (htext : text.toList ≠ [])
    (hsize : text.toList.length < portionSize) :
    ofFile (Text.asciiBytes text.toList) = .ofText text := by
  have hread :
      Text.readChunk 0 0 [] (Text.asciiBytes text.toList) = .ok (text.toList.reverse, []) := by
    rw [Text.readChunk_ascii hascii, List.append_nil]
  have hunified : Text.unifyLineEnds text.toList.reverse.reverse = text.toList := by
    rw [List.reverse_reverse, Text.unifyLineEnds_of_not_mem hlines]
  have hlast : text.toList.reverse.head? ≠ some '\r' := by
    intro h
    exact hlines (List.mem_reverse.mp (List.mem_of_mem_head? h))
  have hfits : (Text.asciiBytes text.toList).length ≤ Text.FileReader.chunkSize := by
    have hportion : portionSize ≤ Text.FileReader.chunkSize := by decide
    rw [Text.asciiBytes, List.length_map]
    omega
  rw [ofFile_short hfits hread hlast (by rwa [hunified]) (by rwa [hunified]), hunified,
    String.ofList_toList]

end GameAtlas.Yaml
