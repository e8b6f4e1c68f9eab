import Mathlib.Tactic
import GameAtlas.Proofs.Text.Numeral
import GameAtlas.Yaml.Build
import GameAtlas.Yaml.Content

/-!
Nodes that are made to be written hold what they were made of: readers of texts, of numbers and of
truth values give it back.
-/

namespace GameAtlas.Yaml

open Text (capitalDigits capitalDigit signed)

/-! ### Integers -/

theorem withoutBars_eq {s : String} (h : ∀ c ∈ s.toList, c ≠ '_') : withoutBars s = s.toList := by
  refine List.filter_eq_self.mpr fun c hc => ?_
  simpa using h c hc

theorem numeral_capitalDigits {b : Nat} (hb : 1 < b) (hb' : b ≤ 16) (n : Int) :
    numeral b (signed n (capitalDigits b n.natAbs)) = .ok n := by
  have hread : Text.readSigned? (Text.readMagnitude? b)
      (signed n ([] ++ capitalDigits b n.natAbs)) = some n :=
    Text.readSigned?_signed hb hb' n (by simp) (Text.readMagnitude?_capitalDigits hb hb' n.natAbs)
  rw [List.nil_append] at hread
  rw [numeral, hread]

theorem signed_ne_bar {b : Nat} (hb : 1 < b) (hb' : b ≤ 16) (n : Int) :
    ∀ c ∈ signed n (capitalDigits b n.natAbs), c ≠ '_' := by
  intro c hc
  rcases List.mem_append.mp hc with hc | hc
  · split at hc
    · rw [List.mem_singleton.mp hc]
      decide
    · cases hc
  · obtain ⟨d, hd, rfl⟩ := Text.mem_capitalDigits hb hc
    exact Text.capitalDigit_ne_mark (by omega) '_' (by simp)

/-- The reader of hexadecimal digits takes a sign behind the mark. -/
theorem integerOf_hex [Host] (n : Int) : integerOf ("0x" ++ Text.signedUpperHex n) = .ok n := by
  have hchars : ("0x" ++ Text.signedUpperHex n).toList =
      '0' :: 'x' :: signed n (capitalDigits 16 n.natAbs) := by
    rw [String.toList_append, Text.signedUpperHex_toList]
    rfl
  have hbars := withoutBars_eq (s := "0x" ++ Text.signedUpperHex n) (by
    intro c hc
    rw [hchars] at hc
    simp only [List.mem_cons] at hc
    rcases hc with rfl | rfl | hc
    · decide
    · decide
    · exact signed_ne_bar (by omega) (by omega) n c hc)
  have hdigits := numeral_capitalDigits (b := 16) (by omega) (by omega) n
  rw [integerOf, hbars, hchars]
  simp [hdigits]

theorem decimalNumeral_capitalDigits [Host] (n : Int)
    (hdigits : Host.readingFault? (Nat.toDigits 10 n.natAbs).length = none) :
    decimalNumeral (signed n (capitalDigits 10 n.natAbs)) = .ok n := by
  rw [decimalNumeral, Text.signedDigitCount_decimal, hdigits]
  exact numeral_capitalDigits (by omega) (by omega) n

/-- A first digit of more than zero is no mark, and no colon is left to count sixtieths by. -/
theorem integerOf_unmarked [Host] {s : String} {negative : Bool} {c : Char} {rest : List Char}
    {n : Int}
    (hs : withoutBars s = (if negative then ['-'] else []) ++ c :: rest)
    (hc : c ≠ '0' ∧ c ≠ '-' ∧ c ≠ '+') (hcolon : ':' ∉ c :: rest)
    (hread : decimalNumeral (c :: rest) = .ok n) :
    integerOf s = .ok (if negative then -n else n) := by
  obtain ⟨hzero, hminus, hplus⟩ := hc
  have hdecimal : (c :: rest).contains ':' = false := by
    simpa using hcolon
  have hsign : (c == '-') = false ∧ (c == '+') = false := by
    simp [hminus, hplus]
  cases negative with
  | true =>
    rw [integerOf, hs]
    simp only [if_true, List.singleton_append, beq_self_eq_true, Bool.true_or]
    split
    case h_6 => rw [hdecimal, hread]; rfl
    case h_5 heq => cases heq
    all_goals next heq => exact absurd (List.cons_eq_cons.mp heq).1 hzero
  | false =>
    rw [integerOf, hs]
    simp only [Bool.false_eq_true, if_false, List.nil_append, hsign.1, hsign.2, Bool.or_self]
    split
    case h_6 => rw [hdecimal, hread]; rfl
    case h_5 heq => cases heq
    all_goals next heq => exact absurd (List.cons_eq_cons.mp heq).1 hzero

theorem integerOf_decimal [Host] (n : Int)
    (hdigits : Host.readingFault? (Nat.toDigits 10 n.natAbs).length = none) :
    integerOf (toString n) = .ok n := by
  have hbars := withoutBars_eq (s := toString n) (by
    rw [Text.toString_toList]
    exact signed_ne_bar (by omega) (by omega) n)
  rcases Nat.eq_zero_or_pos n.natAbs with habs | habs
  · have hn : n = 0 := by omega
    subst hn
    rfl
  · obtain ⟨d, rest, hpos, hd, hspelled⟩ := Text.capitalDigits_cons (b := 10) (by omega) habs
    have hread := decimalNumeral_capitalDigits n.natAbs (by rwa [Int.natAbs_natCast])
    rw [Int.natAbs_natCast, signed, if_neg (by omega), List.nil_append, hspelled] at hread
    have hmark := Text.capitalDigit_ne_mark (d := d) (by omega)
    have hfirst : capitalDigit d ≠ '0' := by
      intro h
      have := Text.capitalDigit_eq_zero d (by omega) h
      omega
    have hcolon : ':' ∉ capitalDigit d :: rest := by
      rw [← hspelled]
      intro hmem
      obtain ⟨e, he, heq⟩ := Text.mem_capitalDigits (by omega) hmem
      exact Text.capitalDigit_ne_mark (by omega) ':' (by simp) heq.symm
    have hs : withoutBars (toString n) =
        (if decide (n < 0) then ['-'] else []) ++ capitalDigit d :: rest := by
      rw [hbars, Text.toString_toList, signed, hspelled]
      simp only [decide_eq_true_eq]
    rw [integerOf_unmarked hs ⟨hfirst, hmark '-' (by simp), hmark '+' (by simp)⟩ hcolon hread]
    congr 1
    simp only [decide_eq_true_eq]
    split <;> omega

/-! ### Values of written nodes -/

theorem scalarValue_str [Host] (s : String) : scalarValue Tag.str s = .ok (.text s) := by
  have hplain : Tag.local? Tag.str = none := by decide
  rw [scalarValue, hplain]
  rfl

theorem scalarValue_int [Host] (s : String) : scalarValue Tag.int s =
    (integerOf s).map .integer := by
  have hplain : Tag.local? Tag.int = none := by decide
  rw [scalarValue, hplain]
  rfl

theorem scalarValue_bool [Host] (s : String) : scalarValue Tag.bool s = (boolOf s).map .bool := by
  have hplain : Tag.local? Tag.bool = none := by decide
  rw [scalarValue, hplain]
  rfl

namespace Node

variable [Host]

theorem datum_ofText (s : String) : (ofText s).datum = .ok (.text s) :=
  scalarValue_str s

theorem valueText_ofText (s : String) : (ofText s).valueText = .ok s := by
  rw [valueText, datum_ofText]
  rfl

theorem integer_ofHex (n : Int) : (ofHex n).integer = .ok n := by
  rw [integer, ofHex, text, scalarDatum?, scalarValue_int, integerOf_hex]
  rfl

theorem integer_ofInt (n : Int)
    (hdigits : Host.readingFault? (Nat.toDigits 10 n.natAbs).length = none) :
    (ofInt n).integer = .ok n := by
  rw [integer, ofInt, text, scalarDatum?, scalarValue_int, integerOf_decimal n hdigits]
  rfl

theorem bool_ofBool (b : Bool) : (ofBool b).bool = .ok b := by
  rw [bool, ofBool, text, scalarDatum?, scalarValue_bool]
  cases b <;> decide

end Node

end GameAtlas.Yaml
