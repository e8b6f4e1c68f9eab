import Mathlib.Tactic
import GameAtlas.Proofs.Image.Patched

/-!
Values written at any offset. The bytes of a value go over as many of the image, and no other byte
of it changes, unless the offset is negative: what is counted from the end of the image stays in
place only if it also ends before the end. Everywhere else the value is put between the bytes of the
image, which gets longer.
-/

namespace GameAtlas.Image

/-! ### Places -/

/-- The place that an index names; a negative index counts from the end. -/
def placeOf (length : Nat) (index : Int) : Option Nat :=
  let place := if index < 0 then index + length else index
  if 0 ≤ place ∧ place < length then some place.toNat else none

/-- Bytes that were written from an index on, and nothing else. -/
structure WritesAt (image bytes : List UInt8) (offset : Int) (patched : List UInt8) : Prop where
  length : patched.length = image.length
  there : ∀ (i : Nat) (b : UInt8), bytes[i]? = some b →
    ∃ k, placeOf image.length (offset + i) = some k ∧ patched[k]? = some b
  elsewhere : ∀ k : Nat, (∀ i < bytes.length, placeOf image.length (offset + i) ≠ some k) →
    patched[k]? = image[k]?

/-- Where bytes go over as many others: from a place on that is counted from the start, or from one
that is counted from the end to another before the end. -/
def GoesOver (length : Nat) (offset : Int) (count : Nat) : Prop :=
  0 ≤ offset ∨ count = 0 ∨ -(length : Int) ≤ offset ∧ offset + count < 0

section

variable {image bytes : List UInt8} {offset : Int} {start : Nat}

theorem placeOf_of_nonneg {length : Nat} {index : Int} (hlow : 0 ≤ index) (hhigh : index < length) :
    placeOf length index = some index.toNat := by
  have hsign : ¬ index < 0 := by omega
  simp [placeOf, hsign, hlow, hhigh]

theorem placeOf_of_neg {length : Nat} {index : Int} (hlow : -(length : Int) ≤ index)
    (hhigh : index < 0) : placeOf length index = some (index + length).toNat := by
  have hplace : 0 ≤ index + length ∧ index + length < length := by omega
  simp [placeOf, hhigh, hplace]

theorem getElem?_overwrite_inside (h : start + bytes.length ≤ image.length) {i : Nat}
    (hi : i < bytes.length) : (overwrite image start bytes)[start + i]? = bytes[i]? := by
  have hlength : (image.take start).length = start := by
    rw [List.length_take]
    omega
  rw [overwrite, List.getElem?_append_right (by omega), hlength, Nat.add_sub_cancel_left,
    List.getElem?_append_left hi]

theorem writesAt_overwrite (hroom : start + bytes.length ≤ image.length)
    (hplace : ∀ i < bytes.length, placeOf image.length (offset + i) = some (start + i)) :
    WritesAt image bytes offset (overwrite image start bytes) where
  length := length_overwrite hroom
  there i b hb := by
    obtain ⟨hi, _⟩ := List.getElem?_eq_some_iff.mp hb
    exact ⟨start + i, hplace i hi, by rw [getElem?_overwrite_inside hroom hi, hb]⟩
  elsewhere k hk := by
    refine getElem?_overwrite hroom ?_
    by_contra hinside
    have hnamed := hplace (k - start) (by omega)
    have hback : start + (k - start) = k := by omega
    rw [hback] at hnamed
    exact hk (k - start) (by omega) hnamed

theorem writesAt_nil (image : List UInt8) (offset : Int) : WritesAt image [] offset image where
  length := rfl
  there := nofun
  elsewhere _ _ := rfl

/-! ### Splicing -/

theorem boundary_of_neg {length : Nat} {n : Int} (h : n < 0) :
    boundary length n = (n + length).toNat :=
  if_pos h

theorem splice_nil (image : List UInt8) (offset : Int) : splice image [] offset offset = image := by
  simp only [splice, List.append_nil, max_self, List.take_append_drop]

theorem writesAt_splice (hroom : offset + bytes.length ≤ image.length)
    (h : GoesOver image.length offset bytes.length) :
    WritesAt image bytes offset (splice image bytes offset (offset + bytes.length)) := by
  rcases h with hsign | hnone | ⟨hlow, hhigh⟩
  · obtain ⟨start, rfl⟩ := Int.eq_ofNat_of_zero_le hsign
    have hroom : start + bytes.length ≤ image.length := by omega
    rw [splice_eq_overwrite hroom]
    refine writesAt_overwrite hroom ?_
    intro i hi
    rw [placeOf_of_nonneg (by omega) (by omega)]
    congr 1
  · have hnil : bytes = [] := List.eq_nil_of_length_eq_zero hnone
    subst hnil
    rw [List.length_nil, Nat.cast_zero, Int.add_zero, splice_nil]
    exact writesAt_nil image offset
  · obtain ⟨start, hstart⟩ : ∃ start : Nat, offset + image.length = start :=
      ⟨(offset + image.length).toNat, by omega⟩
    have hroom : start + bytes.length ≤ image.length := by omega
    have hbefore : boundary image.length offset = boundary image.length start := by
      rw [boundary_of_neg (by omega), boundary_of_le (by omega)]
      omega
    have hbehind : boundary image.length (offset + bytes.length) =
        boundary image.length ((start : Int) + bytes.length) := by
      rw [boundary_of_neg hhigh, ← Nat.cast_add, boundary_of_le hroom]
      omega
    have hsame : splice image bytes offset (offset + bytes.length) =
        splice image bytes start (start + bytes.length) := by
      rw [splice, splice, hbefore, hbehind]
    rw [hsame, splice_eq_overwrite hroom]
    refine writesAt_overwrite hroom ?_
    intro i hi
    rw [placeOf_of_neg (by omega) (by omega)]
    congr 1
    omega

/-- Everywhere else fewer bytes are taken out than are put in. -/
theorem length_lt_length_splice (hroom : offset + bytes.length ≤ image.length)
    (h : ¬ GoesOver image.length offset bytes.length) :
    image.length < (splice image bytes offset (offset + bytes.length)).length := by
  simp only [GoesOver, not_or, not_and, not_le, not_lt] at h
  obtain ⟨hsign, hsome, hout⟩ := h
  simp only [splice, List.length_append, List.length_take, List.length_drop,
    boundary_of_neg hsign]
  by_cases hlow : -(image.length : Int) ≤ offset
  · have hend := hout hlow
    have hstop : boundary image.length (offset + bytes.length) = (offset + bytes.length).toNat := by
      rw [boundary, if_neg (by omega)]
      omega
    rw [hstop]
    omega
  · by_cases hend : offset + bytes.length < 0
    · rw [boundary_of_neg hend]
      omega
    · rw [boundary, if_neg hend]
      omega

end

/-- Without an offset and an address, or where the bytes of a value would end behind the image, a
value is refused. All others are written. From an offset that is not negative, and so at the address
of an entry, the bytes of the value go over as many of the image and over no others; from a negative
one that is so exactly if there are no bytes to write, or if they start within the image and end
before its end when both are counted from its end. All else makes the image longer. -/
theorem patch_goes_over (image : List UInt8) (v : Value) (given : Option Int) :
    ((given <|> v.field.address) = none → patch image v given = .error (.noAddress v.name)) ∧
    ∀ offset, (given <|> v.field.address) = some offset →
      ((image.length : Int) < offset + v.encode.length →
        patch image v given =
          .error (.tooLong v.name v.encode.length offset image.length)) ∧
      (offset + v.encode.length ≤ image.length →
        ∃ patched, patch image v given = .ok patched ∧
          (WritesAt image v.encode offset patched ↔
            GoesOver image.length offset v.encode.length) ∧
          (¬ GoesOver image.length offset v.encode.length → image.length < patched.length)) := by
  constructor
  · intro hnone
    rw [patch, hnone]
  · intro offset hoffset
    rw [patch, hoffset]
    constructor
    · intro hlong
      exact if_pos hlong
    · intro hroom
      refine ⟨_, if_neg (not_lt.mpr hroom), ⟨?_, writesAt_splice hroom⟩,
        length_lt_length_splice hroom⟩
      intro hwrites
      by_contra hout
      have hlonger := length_lt_length_splice hroom hout
      rw [hwrites.length] at hlonger
      exact lt_irrefl _ hlonger

/-- A text that is written two bytes before the end of an image. -/
theorem sampleTitle_goes_over :
    let image : List UInt8 := [7, 7, 66, 121, 101, 33, 0]
    let value := Value.raw sampleTitle 3 [72, 105, 0]
    (some (-5) <|> value.field.address) = some (-5) ∧
      -5 + (value.encode.length : Int) ≤ image.length ∧
      GoesOver image.length (-5) value.encode.length ∧
      ∃ patched, patch image value (some (-5)) = .ok patched ∧
        WritesAt image value.encode (-5) patched := by
  intro image value
  have hroom : -5 + (value.encode.length : Int) ≤ image.length := by decide
  have hover : GoesOver image.length (-5) value.encode.length := .inr (.inr (by decide))
  obtain ⟨_, hwritten⟩ := (patch_goes_over image value (some (-5))).2 (-5) rfl
  obtain ⟨patched, hpatch, hiff, _⟩ := hwritten hroom
  exact ⟨rfl, hroom, hover, patched, hpatch, hiff.mpr hover⟩

/-- From the last place of an image, and from one before its start, a byte is put between others. -/
theorem sampleCount_put_between :
    let image : List UInt8 := [9, 2, 3, 4]
    let value := Value.number sampleCount 1 9
    decode sampleCount [] (.ofBytes image) = (.ok value, ⟨[2, 3, 4], 1, false⟩) ∧
      patch image value (some (-1)) = .ok [9, 2, 3, 9, 4] ∧
      ¬ WritesAt image value.encode (-1) [9, 2, 3, 9, 4] ∧
      patch image value (some (-5)) = .ok [9, 9, 2, 3, 4] ∧
      ¬ WritesAt image value.encode (-5) [9, 9, 2, 3, 4] := by
  intro image value
  refine ⟨rfl, rfl, ?_, rfl, ?_⟩
  · intro h
    exact absurd h.length (by decide)
  · intro h
    exact absurd h.length (by decide)

end GameAtlas.Image
