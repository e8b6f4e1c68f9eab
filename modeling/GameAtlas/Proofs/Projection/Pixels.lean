import Mathlib.Tactic
import GameAtlas.Projection.Tile

/-!
Tiles and their pixels. Every bit of a tile is a bit of one pixel, and every bit of a pixel lies in
one place of the tile; which one, is all in which the formats differ. So the rows of whole tiles are
all grids of pixels of the format's depth, each from one run of bytes.
-/

namespace GameAtlas.Projection

/-! ### Grids -/

/-- Rows of eight pixels of `depth` bits each, as many as `count` tiles have. -/
structure IsGrid (depth count : Nat) (rows : List (List Nat)) : Prop where
  height : rows.length = 8 * count
  width : ∀ row ∈ rows, row.length = 8
  depth : ∀ row ∈ rows, ∀ pixel ∈ row, pixel < 2 ^ depth

/-- A bit of the pixel in a row and column. -/
def pixelBit (rows : List (List Nat)) (y x j : Nat) : Bool := ((rows.getD y []).getD x 0).testBit j

/-- A bit of a byte. -/
def byteBit (bytes : List UInt8) (i c : Nat) : Bool := (bytes.getD i 0).toNat.testBit c

/-- A number below a power of two has no bit from there on. -/
theorem testBit_of_lt {n k i : Nat} (h : n < 2 ^ k) (hi : k ≤ i) : n.testBit i = false :=
  Nat.testBit_lt_two_pow (h.trans_le (Nat.pow_le_pow_right (by decide) hi))

section

variable {depth j k : Nat} {rows first second : List (List Nat)}

theorem isGrid_nil (depth : Nat) : IsGrid depth 0 [] := ⟨rfl, nofun, nofun⟩

theorem IsGrid.append (hfirst : IsGrid depth j first) (hsecond : IsGrid depth k second) :
    IsGrid depth (j + k) (first ++ second) where
  height := by rw [List.length_append, hfirst.height, hsecond.height, Nat.mul_add]
  width := by
    intro row hrow
    exact (List.mem_append.mp hrow).elim (hfirst.width row) (hsecond.width row)
  depth := by
    intro row hrow
    exact (List.mem_append.mp hrow).elim (hfirst.depth row) (hsecond.depth row)

theorem IsGrid.take (h : IsGrid depth (k + 1) rows) : IsGrid depth 1 (rows.take 8) where
  height := by
    rw [List.length_take, h.height]
    omega
  width row hrow := h.width row (List.mem_of_mem_take hrow)
  depth row hrow := h.depth row (List.mem_of_mem_take hrow)

theorem IsGrid.drop (h : IsGrid depth (k + 1) rows) : IsGrid depth k (rows.drop 8) where
  height := by
    rw [List.length_drop, h.height]
    omega
  width row hrow := h.width row (List.mem_of_mem_drop hrow)
  depth row hrow := h.depth row (List.mem_of_mem_drop hrow)

/-- Grids are the same if their pixels have the same bits. -/
theorem IsGrid.ext (hfirst : IsGrid depth k first) (hsecond : IsGrid depth k second)
    (h : ∀ y < 8 * k, ∀ x < 8, ∀ j < depth, pixelBit first y x j = pixelBit second y x j) :
    first = second := by
  refine List.ext_getElem (hfirst.height.trans hsecond.height.symm) fun y hy hy' => ?_
  have hrow : first[y] ∈ first := List.getElem_mem hy
  have hrow' : second[y] ∈ second := List.getElem_mem hy'
  have hlength := hfirst.width _ hrow
  have hlength' := hsecond.width _ hrow'
  refine List.ext_getElem (hlength.trans hlength'.symm) fun x hx hx' => ?_
  refine Nat.eq_of_testBit_eq fun j => ?_
  by_cases hj : j < depth
  · have hbit := h y (by rw [← hfirst.height]; exact hy) x (by omega) j hj
    simpa [pixelBit, hy, hy', hx, hx'] using hbit
  · have hdepth := hfirst.depth _ hrow _ (List.getElem_mem hx)
    have hdepth' := hsecond.depth _ hrow' _ (List.getElem_mem hx')
    rw [testBit_of_lt hdepth (not_lt.mp hj), testBit_of_lt hdepth' (not_lt.mp hj)]

theorem bytes_ext {first second : List UInt8} (hlength : first.length = second.length)
    (h : ∀ i < first.length, ∀ c < 8, byteBit first i c = byteBit second i c) : first = second := by
  refine List.ext_getElem hlength fun i hi hi' => ?_
  refine UInt8.toNat_inj.mp (Nat.eq_of_testBit_eq fun c => ?_)
  by_cases hc : c < 8
  · simpa [byteBit, hi, hi'] using h i hi c hc
  · rw [testBit_of_lt first[i].toNat_lt (not_lt.mp hc),
      testBit_of_lt second[i].toNat_lt (not_lt.mp hc)]

end

/-! ### Places of bits -/

namespace TileFormat

/-- The byte of a tile, and the bit of that byte, that a bit of a pixel lies in. -/
def bitPlace (f : TileFormat) (y x j : Nat) : Nat × Nat :=
  match f with
  | .bits8 => (8 * y + x, j)
  | f => ((f.planes y).getD j 0, 7 - x)

/-- The row, the column and the bit of the pixel that a bit of a byte belongs to. -/
def pixelPlace (f : TileFormat) (i c : Nat) : Nat × Nat × Nat :=
  match f with
  | .bits1 => (i, 7 - c, 0)
  | .bits2 => (i / 2, 7 - c, i % 2)
  | .bits4 => (i % 16 / 2, 7 - c, 2 * (i / 16) + i % 2)
  | .bits8 => (i / 8, i % 8, c)

/-- The bytes of one tile from its rows. -/
def tileBytes (f : TileFormat) (rows : List (List Nat)) : List UInt8 :=
  (List.range f.size).map fun i =>
    UInt8.ofNat (Nat.ofBits fun c : Fin 8 =>
      let (y, x, j) := f.pixelPlace i c
      pixelBit rows y x j)

/-- The bytes of `count` tiles from their rows, tile below tile. -/
def stackedBytes (f : TileFormat) : Nat → List (List Nat) → List UInt8
  | 0, _ => []
  | count + 1, rows => f.tileBytes (rows.take 8) ++ stackedBytes f count (rows.drop 8)

variable {f : TileFormat}

-- A tile has at most 512 bits, so the two maps are compared bit by bit. It is the layout of the
-- format alone that is decided here: neither bytes nor pixels are in it.

theorem pixelPlace_bitPlace (f : TileFormat) : ∀ y < 8, ∀ x < 8, ∀ j < f.bits,
    (f.bitPlace y x j).1 < f.size ∧ (f.bitPlace y x j).2 < 8 ∧
      f.pixelPlace (f.bitPlace y x j).1 (f.bitPlace y x j).2 = (y, x, j) := by
  cases f <;> decide +kernel

theorem bitPlace_pixelPlace (f : TileFormat) : ∀ i < f.size, ∀ c < 8,
    (f.pixelPlace i c).1 < 8 ∧ (f.pixelPlace i c).2.1 < 8 ∧ (f.pixelPlace i c).2.2 < f.bits ∧
      f.bitPlace (f.pixelPlace i c).1 (f.pixelPlace i c).2.1 (f.pixelPlace i c).2.2 = (i, c) := by
  cases f <;> decide +kernel

/-! ### One tile -/

theorem length_tileBytes (f : TileFormat) (rows : List (List Nat)) :
    (f.tileBytes rows).length = f.size := by
  rw [tileBytes, List.length_map, List.length_range]

theorem byteBit_tileBytes (rows : List (List Nat)) {i c : Nat} (hi : i < f.size) (hc : c < 8) :
    byteBit (f.tileBytes rows) i c =
      pixelBit rows (f.pixelPlace i c).1 (f.pixelPlace i c).2.1 (f.pixelPlace i c).2.2 := by
  have hsmall (g : Fin 8 → Bool) : (UInt8.ofNat (Nat.ofBits g)).toNat = Nat.ofBits g :=
    UInt8.toNat_ofNat_of_lt (Nat.ofBits_lt_two_pow g)
  have hbyte : i < (List.range f.size).length := by rwa [List.length_range]
  rw [byteBit, tileBytes, List.getD_eq_getElem?_getD, List.getElem?_map,
    List.getElem?_eq_getElem hbyte, List.getElem_range, Option.map_some, Option.getD_some, hsmall,
    Nat.testBit_ofBits_lt _ c hc]

end TileFormat

theorem testBit_pixel (x : Nat) (planes : List UInt8) (j : Nat) :
    (pixel x planes).testBit j = byteBit planes j (7 - x) := by
  induction planes generalizing j with
  | nil => simp [pixel, byteBit]
  | cons plane rest ih =>
    have hbit : plane.toNat / Nat.pow 2 (7 - x) % 2 < 2 := Nat.mod_lt _ (by decide)
    cases j with
    | zero =>
      have hlow : (plane.toNat / Nat.pow 2 (7 - x) % 2 + 2 * pixel x rest) % 2 =
          plane.toNat / 2 ^ (7 - x) % 2 := by
        rw [Nat.add_mul_mod_self_left]
        exact Nat.mod_mod _ 2
      rw [pixel, Nat.testBit_zero, hlow, byteBit, List.getD_cons_zero,
        Nat.testBit_eq_decide_div_mod_eq]
    | succ j =>
      have hrest : (plane.toNat / Nat.pow 2 (7 - x) % 2 + 2 * pixel x rest) / 2 = pixel x rest := by
        omega
      rw [pixel, byteBit, Nat.testBit_add_one, hrest, ih, byteBit, List.getD_cons_succ]

theorem pixel_lt (x : Nat) (planes : List UInt8) : pixel x planes < 2 ^ planes.length := by
  induction planes with
  | nil => simp [pixel]
  | cons plane rest ih =>
    have hbit : plane.toNat / Nat.pow 2 (7 - x) % 2 < 2 := Nat.mod_lt _ (by decide)
    rw [pixel, List.length_cons, pow_succ]
    omega

/-! #### Rows of a tile -/

variable {f : TileFormat} {tile : List UInt8}

theorem length_planes (hf : f ≠ .bits8) (y : Nat) : (f.planes y).length = f.bits := by
  cases f with
  | bits8 => exact absurd rfl hf
  | _ => rfl

theorem tileRow_planar (hf : f ≠ .bits8) (tile : List UInt8) (y : Nat) :
    tileRow f tile y = planarRow ((f.planes y).map fun i => tile.getD i 0) := by
  cases f with
  | bits8 => exact absurd rfl hf
  | _ => rfl

theorem bitPlace_planar (hf : f ≠ .bits8) (y x j : Nat) :
    f.bitPlace y x j = ((f.planes y).getD j 0, 7 - x) := by
  cases f with
  | bits8 => exact absurd rfl hf
  | _ => rfl

theorem getD_tileRows (f : TileFormat) (tile : List UInt8) {y : Nat} (hy : y < 8) :
    (tileRows f tile).getD y [] = tileRow f tile y := by
  simp [tileRows, hy]

theorem length_tileRow (h : tile.length = f.size) {y : Nat} (hy : y < 8) :
    (tileRow f tile y).length = 8 := by
  by_cases hf : f = .bits8
  · subst hf
    have hsize : tile.length = 64 := h
    rw [tileRow, List.length_map, List.length_take, List.length_drop]
    omega
  · rw [tileRow_planar hf, planarRow, List.length_map, List.length_range]

theorem tileRow_lt (f : TileFormat) (tile : List UInt8) (y : Nat) :
    ∀ p ∈ tileRow f tile y, p < 2 ^ f.bits := by
  intro p hp
  by_cases hf : f = .bits8
  · subst hf
    obtain ⟨b, _, rfl⟩ := List.mem_map.mp hp
    exact b.toNat_lt
  · rw [tileRow_planar hf] at hp
    obtain ⟨x, _, rfl⟩ := List.mem_map.mp hp
    have hpixel := pixel_lt x ((f.planes y).map fun i => tile.getD i 0)
    rwa [List.length_map, length_planes hf] at hpixel

theorem isGrid_tileRows (h : tile.length = f.size) : IsGrid f.bits 1 (tileRows f tile) where
  height := by rw [tileRows, List.length_map, List.length_range]
  width := by
    intro row hrow
    obtain ⟨y, hy, rfl⟩ := List.mem_map.mp hrow
    exact length_tileRow h (List.mem_range.mp hy)
  depth := by
    intro row hrow
    obtain ⟨y, _, rfl⟩ := List.mem_map.mp hrow
    exact tileRow_lt f tile y

theorem pixelBit_tileRows (h : tile.length = f.size) {y x j : Nat} (hy : y < 8) (hx : x < 8)
    (hj : j < f.bits) :
    pixelBit (tileRows f tile) y x j = byteBit tile (f.bitPlace y x j).1 (f.bitPlace y x j).2 := by
  rw [pixelBit, getD_tileRows f tile hy]
  by_cases hf : f = .bits8
  · subst hf
    have hsize : tile.length = 64 := h
    have hplace : 8 * y + x < tile.length := by omega
    simp [tileRow, byteBit, TileFormat.bitPlace, hx, hplace]
  · have hcolumn : x < (List.range 8).length := by rwa [List.length_range]
    have hplane : j < (f.planes y).length := by rwa [length_planes hf]
    rw [tileRow_planar hf, planarRow, List.getD_eq_getElem?_getD, List.getElem?_map,
      List.getElem?_eq_getElem hcolumn, List.getElem_range, Option.map_some, Option.getD_some,
      testBit_pixel, bitPlace_planar hf]
    simp [byteBit, hplane]

theorem tileRows_tileBytes {rows : List (List Nat)} (h : IsGrid f.bits 1 rows) :
    tileRows f (f.tileBytes rows) = rows := by
  have hlength := f.length_tileBytes rows
  refine (isGrid_tileRows hlength).ext h fun y hy x hx j hj => ?_
  obtain ⟨hi, hc, hback⟩ := f.pixelPlace_bitPlace y hy x hx j hj
  rw [pixelBit_tileRows hlength hy hx hj, TileFormat.byteBit_tileBytes rows hi hc, hback]

theorem tileBytes_tileRows (h : tile.length = f.size) : f.tileBytes (tileRows f tile) = tile := by
  have hlength := f.length_tileBytes (tileRows f tile)
  refine bytes_ext (hlength.trans h.symm) fun i hi c hc => ?_
  rw [hlength] at hi
  obtain ⟨hy, hx, hj, hback⟩ := f.bitPlace_pixelPlace i hi c hc
  rw [TileFormat.byteBit_tileBytes _ hi hc, pixelBit_tileRows h hy hx hj, hback]

/-! ### Tiles below tiles -/

theorem length_of_tiles {k : Nat} {data : List UInt8} (h : data.length = (k + 1) * f.size) :
    (data.take f.size).length = f.size ∧ (data.drop f.size).length = k * f.size := by
  rw [Nat.succ_mul] at h
  rw [List.length_take, List.length_drop]
  omega

theorem isGrid_stackedRows (k : Nat) {data : List UInt8} (h : data.length = k * f.size) :
    IsGrid f.bits k (stackedRows f k data) := by
  induction k generalizing data with
  | zero => exact isGrid_nil f.bits
  | succ k ih =>
    obtain ⟨hfirst, hrest⟩ := length_of_tiles h
    rw [stackedRows, Nat.add_comm]
    exact (isGrid_tileRows hfirst).append (ih hrest)

theorem length_stackedBytes (f : TileFormat) (k : Nat) (rows : List (List Nat)) :
    (f.stackedBytes k rows).length = k * f.size := by
  induction k generalizing rows with
  | zero => rw [TileFormat.stackedBytes, List.length_nil, Nat.zero_mul]
  | succ k ih =>
    rw [TileFormat.stackedBytes, List.length_append, f.length_tileBytes, ih, Nat.succ_mul,
      Nat.add_comm]

theorem stackedRows_stackedBytes (k : Nat) {rows : List (List Nat)} (h : IsGrid f.bits k rows) :
    stackedRows f k (f.stackedBytes k rows) = rows := by
  induction k generalizing rows with
  | zero => exact (List.eq_nil_of_length_eq_zero h.height).symm
  | succ k ih =>
    have hlength := f.length_tileBytes (rows.take 8)
    rw [TileFormat.stackedBytes, stackedRows, List.take_left' hlength, List.drop_left' hlength,
      tileRows_tileBytes h.take, ih h.drop, List.take_append_drop]

theorem stackedBytes_stackedRows (k : Nat) {data : List UInt8} (h : data.length = k * f.size) :
    f.stackedBytes k (stackedRows f k data) = data := by
  induction k generalizing data with
  | zero =>
    rw [Nat.zero_mul] at h
    exact (List.eq_nil_of_length_eq_zero h).symm
  | succ k ih =>
    obtain ⟨hfirst, hrest⟩ := length_of_tiles h
    have hrows : (tileRows f (data.take f.size)).length = 8 := (isGrid_tileRows hfirst).height
    rw [stackedRows, TileFormat.stackedBytes, List.take_left' hrows, List.drop_left' hrows,
      tileBytes_tileRows hfirst, ih hrest, List.take_append_drop]

theorem stackedRows_append (j k : Nat) {first : List UInt8} (second : List UInt8)
    (h : first.length = j * f.size) :
    stackedRows f (j + k) (first ++ second) = stackedRows f j first ++ stackedRows f k second := by
  induction j generalizing first with
  | zero =>
    rw [Nat.zero_mul] at h
    rw [List.eq_nil_of_length_eq_zero h, Nat.zero_add, List.nil_append]
    rfl
  | succ j ih =>
    rw [Nat.succ_mul] at h
    have hrest : (first.drop f.size).length = j * f.size := by
      rw [List.length_drop]
      omega
    rw [Nat.add_right_comm, stackedRows, stackedRows, List.append_assoc,
      List.take_append_of_le_length (by omega), List.drop_append_of_le_length (by omega), ih hrest]

/-! ### Formats -/

/-- The format that tiles are read in, by what a field calls it. -/
def tileFormat? (format : String) : Option TileFormat :=
  TileFormat.ofName? (Text.toLower (if format = "" then defaultTileFormat else format))

theorem tileFormat?_name (f : TileFormat) : tileFormat? f.name = some f := by
  cases f <;> rfl

section

variable {format : String} {data first second : List UInt8} {firstRows secondRows : List (List Nat)}

theorem name_of_tileFormat? (h : tileFormat? format = some f) :
    Text.toLower (if format = "" then defaultTileFormat else format) = f.name := by
  have hname := List.find?_some h
  exact (beq_iff_eq.mp hname).symm

theorem tilePixels_eq_ite (h : tileFormat? format = some f) (data : List UInt8) :
    tilePixels data format =
      if data.length % f.size ≠ 0 then .error (.partialTile data.length f.name)
      else .ok (stackedRows f (data.length / f.size) data) := by
  rw [← name_of_tileFormat? h]
  unfold tileFormat? at h
  unfold tilePixels
  dsimp only
  rw [h]

theorem size_pos (f : TileFormat) : 0 < f.size := by
  cases f <;> decide

theorem tilePixels_tiles (h : tileFormat? format = some f) {k : Nat}
    (hdata : data.length = k * f.size) :
    tilePixels data format = .ok (stackedRows f k data) := by
  rw [tilePixels_eq_ite h, if_neg, hdata, Nat.mul_div_cancel k (size_pos f)]
  rw [hdata, Nat.mul_mod_left]
  exact fun h => h rfl

theorem tiles_of_tilePixels (h : tileFormat? format = some f)
    {rows : List (List Nat)} (hrows : tilePixels data format = .ok rows) :
    ∃ k, data.length = k * f.size ∧ rows = stackedRows f k data := by
  rw [tilePixels_eq_ite h] at hrows
  split at hrows
  · cases hrows
  next hwhole =>
    refine ⟨data.length / f.size, ?_, (Except.ok.inj hrows).symm⟩
    exact (Nat.div_mul_cancel (Nat.dvd_of_mod_eq_zero (not_not.mp hwhole))).symm

end

/-- The runs of bytes of `k` whole tiles and the grids of `k` tiles are each other's pixels, one for
one; tiles behind others are rows below theirs, and what is not made of whole tiles is refused. -/
theorem tilePixels_lossless {format : String} {f : TileFormat} (h : tileFormat? format = some f) :
    (∀ k data, data.length = k * (8 * f.bits) →
      ∃ rows, tilePixels data format = .ok rows ∧ IsGrid f.bits k rows) ∧
    (∀ k rows, IsGrid f.bits k rows →
      ∃! data, data.length = k * (8 * f.bits) ∧ tilePixels data format = .ok rows) ∧
    (∀ first second firstRows secondRows, tilePixels first format = .ok firstRows →
      tilePixels second format = .ok secondRows →
        tilePixels (first ++ second) format = .ok (firstRows ++ secondRows)) ∧
    ∀ data, (∀ k, data.length ≠ k * (8 * f.bits)) →
      tilePixels data format = .error (.partialTile data.length f.name) := by
  refine ⟨?_, ?_, ?_, ?_⟩
  · intro k data hdata
    exact ⟨_, tilePixels_tiles h hdata, isGrid_stackedRows k hdata⟩
  · intro k rows hrows
    have hlength := length_stackedBytes f k rows
    refine ⟨f.stackedBytes k rows, ⟨hlength, ?_⟩, ?_⟩
    · rw [tilePixels_tiles h hlength, stackedRows_stackedBytes k hrows]
    · rintro data ⟨hdata, hpixels⟩
      rw [tilePixels_tiles h hdata] at hpixels
      rw [← Except.ok.inj hpixels, stackedBytes_stackedRows k hdata]
  · intro first second firstRows secondRows hfirst hsecond
    obtain ⟨j, hj, rfl⟩ := tiles_of_tilePixels h hfirst
    obtain ⟨k, hk, rfl⟩ := tiles_of_tilePixels h hsecond
    have hboth : (first ++ second).length = (j + k) * f.size := by
      rw [List.length_append, hj, hk, Nat.add_mul]
    rw [tilePixels_tiles h hboth, stackedRows_append j k second hj]
  · intro data hdata
    rw [tilePixels_eq_ite h]
    refine if_pos fun hwhole => ?_
    exact hdata _ (Nat.div_mul_cancel (Nat.dvd_of_mod_eq_zero hwhole)).symm

/-- A tile of four planes with only its first pixel set, in the third plane and the fourth. -/
def sampleTile : List UInt8 := List.replicate 16 0 ++ 0x80 :: 0x80 :: List.replicate 14 0

/-- Two tiles, the one below the other, and one that a byte is missing of. -/
theorem sampleTile_lossless :
    tileFormat? "4BPP" = some .bits4 ∧
      (∃ rows, tilePixels (sampleTile ++ sampleTile) "4BPP" = .ok rows ∧ IsGrid 4 2 rows ∧
        rows.map List.sum = [12, 0, 0, 0, 0, 0, 0, 0, 12, 0, 0, 0, 0, 0, 0, 0]) ∧
      tilePixels (sampleTile.drop 1) "4BPP" = .error (.partialTile 31 "4bpp") := by
  have hformat : tileFormat? "4BPP" = some .bits4 := rfl
  obtain ⟨hpixels, _, _, hrefused⟩ := tilePixels_lossless hformat
  obtain ⟨rows, hrows, hgrid⟩ := hpixels 2 (sampleTile ++ sampleTile) rfl
  have htorn : ∀ k, (sampleTile.drop 1).length ≠ k * (8 * TileFormat.bits4.bits) := by
    intro k hk
    have hk : 31 = k * 32 := hk
    omega
  have hcomputed : tilePixels (sampleTile ++ sampleTile) "4BPP" =
      .ok (stackedRows .bits4 2 (sampleTile ++ sampleTile)) := rfl
  refine ⟨hformat, ⟨rows, hrows, hgrid, ?_⟩, hrefused _ htorn⟩
  rw [hcomputed] at hrows
  rw [← Except.ok.inj hrows]
  decide

end GameAtlas.Projection
