import Mathlib.Tactic
import GameAtlas.Expression.Evaluation
import GameAtlas.Proofs.Text.Numeral

/-!
Texts that are sizes without being evaluated: a numeral with nothing around it but blanks,
hexadecimal behind its mark, or decimal in the digits of any script. Zeros before the digits count
for nothing, and a hexadecimal digit may be a letter of either case.
-/

namespace GameAtlas.Expression

open Text

variable {cs : List Char} {n : Nat} {text : String} {c : Char}

/-! ### Numerals -/

/-- The numerals that are sizes by themselves, and what they stand for. -/
inductive IsNumeral : List Char → Nat → Prop where
  | hexadecimal {mark : Char} {ds : List Char} :
      mark ∈ ['x', 'X'] → ds ≠ [] → (∀ d ∈ ds, (digitOf? 16 d).isSome) →
      IsNumeral ('0' :: mark :: ds) (ds.foldl (fun n c => n * 16 + (digitValue? c).getD 0) 0)
  | decimal {ds : List Char} :
      ds ≠ [] → (∀ d ∈ ds, isDecimalDigit d) → IsNumeral ds (decimalValue ds)

/-- A text is a numeral and what stands around it is blank. -/
structure IsLiteral (text : String) (cs : List Char) (n : Nat) : Prop where
  numeral : IsNumeral cs n
  surrounded : ∃ before after, text.toList = before ++ cs ++ after ∧
    (∀ c ∈ before, isBlank c) ∧ ∀ c ∈ after, isBlank c

theorem IsNumeral.ne_nil (h : IsNumeral cs n) : cs ≠ [] := by
  cases h with
  | hexadecimal => exact List.cons_ne_nil _ _
  | decimal hne => exact hne

theorem IsNumeral.not_blank (h : IsNumeral cs n) : ∀ c ∈ cs, isBlank c = false := by
  cases h with
  | hexadecimal hmark _ hdigits =>
    refine List.forall_mem_cons.mpr ⟨by decide, List.forall_mem_cons.mpr ⟨?_, ?_⟩⟩
    · rcases List.mem_pair.mp hmark with rfl | rfl <;> decide
    · exact fun d hd => isBlank_of_digitOf? (hdigits d hd)
  | decimal _ hdigits => exact fun d hd => isBlank_of_isDecimalDigit (hdigits d hd)

/-! ### The size of a literal -/

theorem IsLiteral.trim (h : IsLiteral text cs n) : trimWith isBlank text.toList = cs := by
  obtain ⟨before, after, htext, hbefore, hafter⟩ := h.surrounded
  rw [htext]
  exact trimWith_surrounded hbefore hafter h.numeral.not_blank

/-- What is left of a text without the blanks around it is a numeral, if the text has a size. -/
theorem isNumeral_of_literalSize? (h : literalSize? text = some n) :
    IsNumeral (trimWith isBlank text.toList) n := by
  unfold literalSize? at h
  dsimp only at h
  generalize trimWith isBlank text.toList = cs at h ⊢
  split at h
  · split at h
    · next hall =>
      cases h
      exact .hexadecimal (by decide) (by simp) (List.all_eq_true.mp hall)
    · cases h
  · split at h
    · next hall =>
      cases h
      exact .hexadecimal (by decide) (by simp) (List.all_eq_true.mp hall)
    · cases h
  · split at h
    · next hall =>
      cases h
      exact .decimal (by simp) (List.all_eq_true.mp hall)
    · cases h
  · cases h

theorem isDecimalDigit_mark : isDecimalDigit 'x' = false ∧ isDecimalDigit 'X' = false := by
  decide

theorem IsLiteral.literalSize? (h : IsLiteral text cs n) :
    Expression.literalSize? text = some n := by
  rw [Expression.literalSize?, h.trim]
  cases h.numeral with
  | @hexadecimal mark ds hmark hne hdigits =>
    obtain ⟨d, rest, rfl⟩ := List.exists_cons_of_ne_nil hne
    have hall : (d :: rest).all (fun c => (digitOf? 16 c).isSome) = true :=
      List.all_eq_true.mpr hdigits
    rcases List.mem_pair.mp hmark with rfl | rfl <;> exact if_pos hall
  | decimal hne hdigits =>
    have hall : cs.all isDecimalDigit = true := List.all_eq_true.mpr hdigits
    have hmarks := isDecimalDigit_mark
    split
    · simp [hmarks.1] at hall
    · simp [hmarks.2] at hall
    · exact if_pos hall
    · exact absurd rfl hne

/-- A text is a size by itself exactly if it is a numeral with blanks around it. -/
theorem literalSize?_eq_some_iff :
    literalSize? text = some n ↔ ∃ cs, IsLiteral text cs n := by
  constructor
  · intro h
    obtain ⟨before, after, htext, hbefore, hafter⟩ := exists_trimWith isBlank text.toList
    exact ⟨_, isNumeral_of_literalSize? h, before, after, htext, hbefore, hafter⟩
  · rintro ⟨cs, h⟩
    exact h.literalSize?

theorem IsLiteral.literalDigits (h : IsLiteral text cs n) :
    Expression.literalDigits text = if cs.all isDecimalDigit then cs.length else 0 := by
  rw [Expression.literalDigits, h.trim]

/-- A numeral is the size that it stands for, if the host reads its decimal digits. -/
theorem IsLiteral.evaluateSize [Host] (h : IsLiteral text cs n)
    (hdigits : Host.readingFault? (Expression.literalDigits text) = none) (bindings : Bindings) :
    Expression.evaluateSize text bindings = .ok n := by
  rw [Expression.evaluateSize, h.literalSize?, hdigits]

/-- Decimal digits that the host does not read are a numeral, and so no expression. -/
theorem evaluateSize_of_readingFault? [Host] {fault : DigitFault}
    (h : Host.readingFault? (Expression.literalDigits text) = some fault) (bindings : Bindings) :
    Expression.evaluateSize text bindings = .error (.bare (.digits fault)) := by
  have hdigits : Expression.literalDigits text ≠ 0 := by
    intro hzero
    rw [hzero, Host.readingFault?_zero] at h
    cases h
  obtain ⟨before, after, htext, hbefore, hafter⟩ := exists_trimWith isBlank text.toList
  have hliteral : IsLiteral text (trimWith isBlank text.toList)
      (decimalValue (trimWith isBlank text.toList)) := by
    rw [Expression.literalDigits] at hdigits
    split at hdigits
    · next hall =>
      have hne := List.length_pos_iff.mp (Nat.pos_of_ne_zero hdigits)
      exact ⟨.decimal hne (List.all_eq_true.mp hall), before, after, htext, hbefore, hafter⟩
    · exact absurd rfl hdigits
  rw [Expression.evaluateSize, hliteral.literalSize?, h]

/-! ### The numerals of a number -/

/-- The decimal digits of a number are a numeral of it, with any zeros before them. -/
theorem isNumeral_decimal (n zeros : Nat) :
    IsNumeral (List.replicate zeros '0' ++ Nat.toDigits 10 n) n := by
  have hdigits : Nat.toDigits 10 n = capitalDigits 10 n := by
    rw [capitalDigits_ten, Nat.toList_repr]
  have hvalue : decimalValue (List.replicate zeros '0' ++ capitalDigits 10 n) = n :=
    (foldl_zeros rfl zeros _).trans (decimalValue_capitalDigits n)
  have hall : ∀ d ∈ List.replicate zeros '0' ++ capitalDigits 10 n, isDecimalDigit d := by
    intro d hd
    rcases List.mem_append.mp hd with hd | hd
    · rw [List.eq_of_mem_replicate hd]
      rfl
    · exact List.all_eq_true.mp (all_isDecimalDigit_capitalDigits n) d hd
  have hnumeral := IsNumeral.decimal (List.append_ne_nil_of_right_ne_nil _ (capitalDigits_ne_nil n))
    hall
  rwa [hvalue, ← hdigits] at hnumeral

/-- So are its hexadecimal digits behind a mark, each letter in either case. -/
theorem isNumeral_hexadecimal {n : Nat} (zeros : Nat) {mark : Char} {ds : List Char}
    (hmark : mark ∈ ['x', 'X']) (hds : ds.map Char.toUpper = capitalDigits 16 n) :
    IsNumeral ('0' :: mark :: (List.replicate zeros '0' ++ ds)) n := by
  have hvalue : (List.replicate zeros '0' ++ ds).foldl
      (fun n c => n * 16 + (digitValue? c).getD 0) 0 = n := by
    have hcapital := foldl_capitalDigits (b := 16) (fun c => (digitValue? c).getD 0)
      (by omega) (fun d hd => by rw [digitValue?_capitalDigit d hd, Option.getD_some]) n
    rw [← hds, List.foldl_map] at hcapital
    simp only [digitValue?_toUpper] at hcapital
    exact (foldl_zeros rfl zeros ds).trans hcapital
  have hne : ds ≠ [] := by
    rintro rfl
    exact capitalDigits_ne_nil n hds.symm
  have hall : ∀ d ∈ List.replicate zeros '0' ++ ds, (digitOf? 16 d).isSome := by
    intro d hd
    rcases List.mem_append.mp hd with hd | hd
    · rw [List.eq_of_mem_replicate hd]
      rfl
    · obtain ⟨k, hk, hd⟩ := mem_capitalDigits (b := 16) (n := n) (by omega)
        (hds ▸ List.mem_map_of_mem hd)
      rw [digitOf?, ← digitValue?_toUpper, hd, ← digitOf?, digitOf?_capitalDigit (le_refl 16) hk]
      rfl
  have hnumeral := IsNumeral.hexadecimal hmark (List.append_ne_nil_of_right_ne_nil _ hne) hall
  rwa [hvalue] at hnumeral

end GameAtlas.Expression
