import Mathlib.Tactic
import GameAtlas.Projection.Number
import GameAtlas.Proofs.Yaml.Written

/-!
Numbers as texts. A number is shown with its sign before the mark of its base, and is written into
a description with the sign behind the mark. A text is read with the sign first, and an integer by
its tag with the sign on either side, so that each form comes back as the number that it was made
of.
-/

namespace GameAtlas

namespace Text

/-! ### Marked numerals -/

/-- The marks of the bases that a reader can tell by the mark alone. -/
inductive Marks : List Char → Nat → Prop where
  | decimal : Marks [] 10
  | hexadecimal : Marks ['0', 'x'] 16
  | octal : Marks ['0', 'o'] 8
  | binary : Marks ['0', 'b'] 2

variable {mark : List Char} {b : Nat}

theorem Marks.base_bounds (h : Marks mark b) : 1 < b ∧ b ≤ 16 := by
  cases h <;> decide

theorem Marks.plain (h : Marks mark b) :
    ∀ c ∈ mark, isBlank c = false ∧ westernDigit c = c ∧ c ≠ '-' ∧ c ≠ '+' := by
  cases h with
  | decimal => nofun
  | hexadecimal | octal | binary =>
    exact List.forall_mem_cons.mpr ⟨by decide, List.forall_mem_singleton.mpr (by decide)⟩

/-- A numeral does not start with an underscore that the mark could take along. -/
theorem afterMark_capitalDigits (hb : 1 < b) (hb' : b ≤ 16) (n : Nat) :
    afterMark (capitalDigits b n) = capitalDigits b n := by
  rw [afterMark.eq_def]
  split
  · next rest heq =>
    have hmem : '_' ∈ capitalDigits b n := heq ▸ List.mem_cons_self
    obtain ⟨d, hd, hbar⟩ := mem_capitalDigits hb hmem
    exact absurd hbar.symm (capitalDigit_ne_mark (by omega) '_' (by simp))
  · rfl

theorem readMarkedMagnitude?_marked {c : Char} (hb : 1 < b) (hb' : b ≤ 16)
    (hc : markedBase? c = some b) (n : Nat) :
    readMarkedMagnitude? ('0' :: c :: capitalDigits b n) = some n := by
  rw [readMarkedMagnitude?, hc]
  dsimp only
  rw [afterMark_capitalDigits hb hb', readDigits?_capitalDigits hb hb']

/-- Without a mark a number is decimal: only zero starts with a zero, and nothing follows it. -/
theorem readMarkedMagnitude?_decimal (n : Nat) :
    readMarkedMagnitude? (capitalDigits 10 n) = some n := by
  have hdigits := readDigits?_capitalDigits (b := 10) (by omega) (by omega) n
  rcases Nat.eq_zero_or_pos n with rfl | hpos
  · rfl
  · obtain ⟨d, rest, hd, hlt, heq⟩ := capitalDigits_cons (b := 10) (by omega) hpos
    have hfirst : capitalDigit d ≠ '0' := fun hzero =>
      hd.ne' (capitalDigit_eq_zero d (by omega) hzero)
    rw [heq] at hdigits ⊢
    rw [readMarkedMagnitude?]
    · exact hdigits
    · exact fun _ _ hcons => hfirst (List.cons.inj hcons).1

theorem Marks.readMarkedMagnitude? (h : Marks mark b) (n : Nat) :
    Text.readMarkedMagnitude? (mark ++ capitalDigits b n) = some n := by
  cases h with
  | decimal => exact readMarkedMagnitude?_decimal n
  | hexadecimal => exact readMarkedMagnitude?_marked (by omega) (by omega) rfl n
  | octal => exact readMarkedMagnitude?_marked (by omega) (by omega) rfl n
  | binary => exact readMarkedMagnitude?_marked (by omega) (by omega) rfl n

/-- In front of the letter of a mark one digit is counted. -/
theorem Marks.digitCount_le (h : Marks mark b) (n : Nat) :
    digitCount (mark ++ capitalDigits b n) ≤ (Nat.toDigits 10 n).length := by
  have hpos : 1 ≤ (Nat.toDigits 10 n).length := List.length_pos_iff.mpr Nat.toDigits_ne_nil
  cases h with
  | decimal => exact (digitCount_capitalDigits n).le
  | hexadecimal => exact hpos
  | octal => exact hpos
  | binary => exact hpos

/-- A text that spells a number behind a sign and a mark is read as the number, if the host reads
its decimal digits. -/
theorem Marks.readMarkedInteger? [Host] (h : Marks mark b) {s : String} {n : Int}
    (hdigits : Host.readingFault? (Nat.toDigits 10 n.natAbs).length = none)
    (hs : s.toList = signed n (mark ++ capitalDigits b n.natAbs)) :
    Text.readMarkedInteger? (trim s) = some n := by
  obtain ⟨hb, hb'⟩ := h.base_bounds
  have htrim : (trim s).toList = s.toList := by
    rw [trim, String.toList_ofList, hs]
    exact trimWith_eq_self fun c hc => (mem_signed hb hb' n h.plain hc).1
  have hbounded : readBoundedMagnitude? (mark ++ capitalDigits b n.natAbs) = some n.natAbs := by
    rw [readBoundedMagnitude?, Host.readingFault?_of_le (h.digitCount_le n.natAbs) hdigits]
    exact h.readMarkedMagnitude? n.natAbs
  rw [Text.readMarkedInteger?, htrim, hs]
  exact readSigned?_signed hb hb' n h.plain hbounded

end Text

namespace Projection

open Text (Marks capitalDigits signed)
open Yaml (Node)

/-! ### Shown numbers -/

/-- However a number is shown, it is a sign, a mark and digits in the base of the mark. -/
theorem formatNumber_toList (n base : Int) :
    ∃ mark b, Marks mark b ∧
      (formatNumber n base).toList = signed n (mark ++ capitalDigits b n.natAbs) := by
  have hmarked (mark : String) (b : Nat) (hmark : Marks mark.toList b)
      (hbase : baseMark? base = some (b, mark)) :
      ∃ mark b, Marks mark b ∧
        (formatNumber n base).toList = signed n (mark ++ capitalDigits b n.natAbs) := by
    refine ⟨mark.toList, b, hmark, ?_⟩
    rw [formatNumber, hbase]
    dsimp only
    rw [String.toList_append, String.toList_append, String.toList_ofList, signed,
      List.append_assoc]
    split <;> rfl
  by_cases hsixteen : base = 16
  · exact hmarked "0x" 16 .hexadecimal (by rw [baseMark?, if_pos hsixteen])
  by_cases height : base = 8
  · exact hmarked "0o" 8 .octal (by rw [baseMark?, if_neg hsixteen, if_pos height])
  by_cases htwo : base = 2
  · exact hmarked "0b" 2 .binary (by rw [baseMark?, if_neg hsixteen, if_neg height, if_pos htwo])
  · refine ⟨[], 10, .decimal, ?_⟩
    rw [formatNumber, baseMark?, if_neg hsixteen, if_neg height, if_neg htwo]
    exact Text.toString_toList n

/-- A number of which the host reads the decimal digits is read back from a scalar that holds its
text in any base, however the scalar is quoted. Written into a description it is read back from its
scalar, in decimal digits as well as in hexadecimal ones, where the sign stands behind the mark. -/
theorem integer_numberText [Host] (n : Int)
    (hdigits : Host.readingFault? (Nat.toDigits 10 n.natAbs).length = none) :
    (∀ base style share,
      (Node.scalar Yaml.Tag.str (formatNumber n base) style share).integer = .ok n) ∧
    (Node.ofInt n).integer = .ok n ∧ (Node.ofHex n).integer = .ok n := by
  refine ⟨fun base style share => ?_, Node.integer_ofInt n hdigits, Node.integer_ofHex n⟩
  obtain ⟨mark, b, hmarks, hspelled⟩ := formatNumber_toList n base
  have hread := hmarks.readMarkedInteger? hdigits hspelled
  rw [Node.integer, Node.scalarDatum?, Yaml.scalarValue_str]
  dsimp only [Except.map, bind, Except.bind, Yaml.Datum.toText]
  rw [hread]
  rfl

theorem sampleNegative_numberText :
    Host.readingFault? (Nat.toDigits 10 (-255 : Int).natAbs).length = none ∧
      formatNumber (-255) 16 = "-0xFF" ∧
      Node.integer (.scalar Yaml.Tag.str "-0xFF" .plain none) = .ok (-255) ∧
      Node.integer (.ofInt (-255)) = .ok (-255) ∧
      Node.integer (.ofHex (-255)) = .ok (-255) := by
  have hdigits : Host.readingFault? (Nat.toDigits 10 (-255 : Int).natAbs).length = none := by
    decide
  have htext : formatNumber (-255) 16 = "-0xFF" := by decide
  obtain ⟨htexts, hdecimal, hhexadecimal⟩ := integer_numberText (-255) hdigits
  have hread := htexts 16 .plain none
  rw [htext] at hread
  exact ⟨hdigits, htext, hread, hdecimal, hhexadecimal⟩

end Projection

end GameAtlas
