import Mathlib.Tactic
import GameAtlas.Proofs.Expression.Literal
import GameAtlas.Schema.Description

/-!
Sizes that are nothing but decimal digits. They are written as numbers, which measure the same; a
line feed behind the digits is lost on the way.
-/

namespace GameAtlas.Schema

open Expression (IsLiteral)
open Text (decimalValue isDecimalDigit)

/-! ### What is written -/

/-- The text that a size is read back as. -/
def writtenSize (size : String) : String :=
  match Describe.plainSize? size with
  | some n => toString (n : Int)
  | none => size

/-- A size made only of digits as its plain decimal numeral; any other as it is. -/
def normalSize (size : String) : String :=
  if size.toList ≠ [] ∧ size.toList.all isDecimalDigit then
    toString (decimalValue size.toList : Int)
  else size

/-- The host reads the digits of a size that is written as a number. -/
def IsCounted [Host] (size : String) : Prop :=
  ∀ n, Describe.plainSize? size = some n →
    Host.readingFault? (Text.withoutLastLineFeed size.toList).length = none

/-- Digits and one line feed behind them. -/
def IsDigitLine (size : String) : Prop :=
  ∃ digits, digits ≠ [] ∧ digits.all isDecimalDigit ∧ size.toList = digits ++ ['\n']

theorem plainSize?_eq_some_iff {size : String} {n : Nat} :
    Describe.plainSize? size = some n ↔
      Text.withoutLastLineFeed size.toList ≠ [] ∧
        (Text.withoutLastLineFeed size.toList).all isDecimalDigit ∧
        decimalValue (Text.withoutLastLineFeed size.toList) = n := by
  simp only [Describe.plainSize?, decimalValue]
  split
  · next h =>
    simp only [Bool.and_eq_true, Bool.not_eq_true', List.isEmpty_eq_false_iff] at h
    simp [h]
  · next h =>
    simp only [Bool.and_eq_true, Bool.not_eq_true', List.isEmpty_eq_false_iff, not_and] at h
    constructor
    · intro hnone
      cases hnone
    · rintro ⟨hne, hall, -⟩
      exact absurd hall (h hne)

theorem isDecimalDigit_lineFeed : isDecimalDigit '\n' = false := by
  decide

/-- A size is written as a number in two cases: digits, and digits with a line feed behind them. -/
theorem withoutLastLineFeed_cases (cs : List Char) :
    Text.withoutLastLineFeed cs = cs ∧ cs.getLast? ≠ some '\n' ∨
      cs = Text.withoutLastLineFeed cs ++ ['\n'] := by
  rw [Text.withoutLastLineFeed]
  split
  · next h =>
    exact .inr (List.dropLast_append_getLast? '\n' h).symm
  · next h => exact .inl ⟨rfl, h⟩

theorem withoutLastLineFeed_of_digits {cs : List Char} (h : cs.all isDecimalDigit) :
    Text.withoutLastLineFeed cs = cs := by
  rw [Text.withoutLastLineFeed, if_neg]
  intro hlast
  have hfeed := List.all_eq_true.mp h '\n' (List.mem_of_getLast? hlast)
  rw [isDecimalDigit_lineFeed] at hfeed
  cases hfeed

theorem toString_natCast_toList (n : Nat) :
    (toString (n : Int)).toList = Text.capitalDigits 10 n := by
  rw [Text.toString_toList, Text.signed, if_neg (by omega), List.nil_append, Int.natAbs_natCast]

theorem plainSize?_toString (n : Nat) : Describe.plainSize? (toString (n : Int)) = some n := by
  have hdigits := Text.all_isDecimalDigit_capitalDigits n
  rw [plainSize?_eq_some_iff, toString_natCast_toList, withoutLastLineFeed_of_digits hdigits]
  exact ⟨Text.capitalDigits_ne_nil n, hdigits, Text.decimalValue_capitalDigits n⟩

section

variable [Host] {size : String} {n : Nat}

/-- The plain numeral of a size that is counted is read, since it is not longer than the size. -/
theorem IsCounted.readingFault? (h : IsCounted size) (hplain : Describe.plainSize? size = some n) :
    Host.readingFault? (Nat.toDigits 10 n).length = none := by
  obtain ⟨hne, -, rfl⟩ := plainSize?_eq_some_iff.mp hplain
  exact Text.readingFault?_toDigits_decimalValue hne (h _ hplain)

theorem isCounted_toString (h : Host.readingFault? (Nat.toDigits 10 n).length = none) :
    IsCounted (toString (n : Int)) := by
  intro _ _
  rw [toString_natCast_toList,
    withoutLastLineFeed_of_digits (Text.all_isDecimalDigit_capitalDigits n), Text.capitalDigits_ten,
    Nat.toList_repr]
  exact h

end

/-! ### What is measured -/

/-- What is blank around a size of digits is its line feed. -/
theorem isLiteral_of_plainSize? {size : String} {n : Nat}
    (h : Describe.plainSize? size = some n) :
    IsLiteral size (Text.withoutLastLineFeed size.toList) n := by
  obtain ⟨hne, hall, hvalue⟩ := plainSize?_eq_some_iff.mp h
  refine ⟨hvalue ▸ .decimal hne (List.all_eq_true.mp hall), [], ?_⟩
  rcases withoutLastLineFeed_cases size.toList with ⟨hsame, -⟩ | hfeed
  · exact ⟨[], by rw [hsame, List.nil_append, List.append_nil], nofun, nofun⟩
  · exact ⟨['\n'], hfeed, nofun, List.forall_mem_singleton.mpr rfl⟩

theorem sizeOf_of_plainSize? [Host] {size : String} {n : Nat}
    (h : Describe.plainSize? size = some n) (hcounted : IsCounted size)
    (bindings : Expression.Bindings) : sizeOf size bindings = .ok n := by
  have hliteral := isLiteral_of_plainSize? h
  obtain ⟨-, hall, -⟩ := plainSize?_eq_some_iff.mp h
  have hdigits : Host.readingFault? (Expression.literalDigits size) = none := by
    rw [hliteral.literalDigits, if_pos hall]
    exact hcounted n h
  rw [sizeOf, hliteral.evaluateSize hdigits]

theorem trim_ne_empty_of_plainSize? {size : String} {n : Nat}
    (h : Describe.plainSize? size = some n) : Text.trim size ≠ "" := by
  obtain ⟨hne, -, -⟩ := plainSize?_eq_some_iff.mp h
  rw [Text.trim, (isLiteral_of_plainSize? h).trim]
  intro hempty
  exact hne (by simpa using congrArg String.toList hempty)

/-- A size measures the same before and behind the dump. -/
theorem resolvedSize_writtenSize [Host] {a : Attributes} (h : ∀ size ∈ a.size, IsCounted size)
    (bindings : Expression.Bindings) :
    Attributes.resolvedSize { a with size := a.size.map writtenSize } bindings =
      a.resolvedSize bindings := by
  cases hsize : a.size with
  | none => simp [Attributes.resolvedSize, hsize]
  | some size =>
    simp only [Attributes.resolvedSize, hsize, Option.map_some, writtenSize]
    cases hplain : Describe.plainSize? size with
    | none => rfl
    | some n =>
      have hwritten := plainSize?_toString n
      have hcounted := h size hsize
      have hagain := isCounted_toString (hcounted.readingFault? hplain)
      simp only [if_neg (trim_ne_empty_of_plainSize? hplain),
        if_neg (trim_ne_empty_of_plainSize? hwritten), sizeOf_of_plainSize? hplain hcounted,
        sizeOf_of_plainSize? hwritten hagain]

/-! ### What is lost -/

theorem writtenSize_of_digits {size : String} (hne : size.toList ≠ [])
    (hall : size.toList.all isDecimalDigit) :
    writtenSize size = toString (decimalValue size.toList : Int) := by
  have hplain : Describe.plainSize? size = some (decimalValue size.toList) := by
    rw [plainSize?_eq_some_iff, withoutLastLineFeed_of_digits hall]
    exact ⟨hne, hall, rfl⟩
  rw [writtenSize, hplain]

/-- Only a line feed behind digits is lost in a size. -/
theorem writtenSize_eq_normalSize_iff (size : String) :
    writtenSize size = normalSize size ↔ ¬ IsDigitLine size := by
  constructor
  · rintro heq ⟨digits, hne, hall, hsize⟩
    have hfeed : Text.withoutLastLineFeed size.toList = digits := by
      simp [Text.withoutLastLineFeed, hsize]
    have hplain : Describe.plainSize? size = some (decimalValue digits) := by
      rw [plainSize?_eq_some_iff, hfeed]
      exact ⟨hne, hall, rfl⟩
    have hmixed : ¬ (size.toList ≠ [] ∧ size.toList.all isDecimalDigit) := by
      rw [hsize]
      simp [isDecimalDigit_lineFeed]
    rw [writtenSize, hplain, normalSize, if_neg hmixed] at heq
    replace heq : toString (decimalValue digits : Int) = size := heq
    -- The numeral has no line feed, so it is not the size.
    have hmem : '\n' ∈ (toString (decimalValue digits : Int)).toList := by
      rw [heq, hsize]
      simp
    rw [Text.toString_toList, Text.signed, if_neg (by omega), List.nil_append] at hmem
    have hdigit := List.all_eq_true.mp (Text.all_isDecimalDigit_capitalDigits _) _ hmem
    rw [isDecimalDigit_lineFeed] at hdigit
    cases hdigit
  · intro hline
    by_cases hdigits : size.toList ≠ [] ∧ size.toList.all isDecimalDigit
    · rw [normalSize, if_pos hdigits, writtenSize_of_digits hdigits.1 hdigits.2]
    · rw [normalSize, if_neg hdigits, writtenSize]
      cases hplain : Describe.plainSize? size with
      | none => rfl
      | some n =>
        obtain ⟨hne, hall, -⟩ := plainSize?_eq_some_iff.mp hplain
        rcases withoutLastLineFeed_cases size.toList with ⟨hsame, -⟩ | hfeed
        · rw [hsame] at hne hall
          exact absurd ⟨hne, hall⟩ hdigits
        · exact absurd ⟨_, hne, hall, hfeed⟩ hline

end GameAtlas.Schema
