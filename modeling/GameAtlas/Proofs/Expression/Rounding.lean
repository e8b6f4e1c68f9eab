import Mathlib.Data.Rat.Floor
import Mathlib.Tactic
import GameAtlas.Proofs.Expression.Numerals

/-!
How values become sizes. A value is rounded toward zero before its sign is looked at. From zero on
that is rounding down, and a value of minus one or less is refused; a value between minus one and
zero is no size, but is rounded to zero and so is taken for one.
-/

namespace GameAtlas

/-- The rational number with a sign, a significand and an exponent of two. -/
def Binary64.rational (negative : Bool) (significand : Nat) (exponent : Int) : ℚ :=
  (if negative then -1 else 1) * (significand * 2 ^ exponent)

/-- The rational number that a double is, if it is finite. -/
def Binary64.rational? : Binary64 → Option ℚ
  | .finite negative significand exponent => some (rational negative significand exponent)
  | .infinite _ | .nan => none

/-- A rational number rounded toward zero. -/
def towardZero (q : ℚ) : ℤ := if q < 0 then ⌈q⌉ else ⌊q⌋

theorem towardZero_intCast (n : Int) : towardZero n = n := by
  rw [towardZero, Int.ceil_intCast, Int.floor_intCast, ite_self]

theorem towardZero_neg {q : ℚ} (h : 0 ≤ q) : towardZero (-q) = -⌊q⌋ := by
  rw [towardZero]
  split
  · exact Int.ceil_neg
  · next hzero =>
    have hq : q = 0 := le_antisymm (by linarith) h
    rw [hq]
    simp

/-- The whole part of a significand times a power of two. -/
theorem floor_mul_two_zpow (significand : Nat) (exponent : Int) :
    ⌊(significand : ℚ) * 2 ^ exponent⌋ =
      ((if 0 ≤ exponent then significand * Nat.pow 2 exponent.toNat
        else significand / Nat.pow 2 (-exponent).toNat : Nat) : Int) := by
  split
  · next hnonneg =>
    obtain ⟨k, rfl⟩ := Int.eq_ofNat_of_zero_le hnonneg
    rw [Int.toNat_natCast, zpow_natCast, Nat.pow_eq, ← Int.floor_natCast (R := ℚ)]
    push_cast
    rfl
  · next hneg =>
    obtain ⟨k, hk⟩ := Int.eq_ofNat_of_zero_le (show 0 ≤ -exponent by omega)
    rw [hk, Int.toNat_natCast, Nat.pow_eq, ← neg_neg exponent, hk, zpow_neg, zpow_natCast,
      ← div_eq_mul_inv, Int.natCast_ediv, ← Rat.floor_natCast_div_natCast]
    push_cast
    rfl

theorem Binary64.truncate_eq (negative : Bool) (significand : Nat) (exponent : Int) :
    truncate negative significand exponent =
      towardZero (rational negative significand exponent) := by
  have hnonneg : (0 : ℚ) ≤ significand * 2 ^ exponent := by positivity
  rw [truncate, rational, ← floor_mul_two_zpow]
  cases negative with
  | true => rw [if_pos rfl, if_pos rfl, neg_one_mul, towardZero_neg hnonneg]
  | false => rw [if_neg Bool.false_ne_true, if_neg Bool.false_ne_true, one_mul, towardZero,
      if_neg (not_lt.mpr hnonneg)]

namespace Expression

/-- The number that a value is, if it is a finite one. -/
def Value.rational? : Value → Option ℚ
  | .real x => (Binary64.ofFloat x).rational?
  | v => v.integer?.map fun n : Int => (n : ℚ)

theorem Value.rational?_real {x : Float} {negative : Bool} {significand : Nat} {exponent : Int}
    (h : Binary64.ofFloat x = .finite negative significand exponent) :
    (Value.real x).rational? = some (Binary64.rational negative significand exponent) := by
  rw [rational?, h, Binary64.rational?]

section

variable [Host]

/-- The size that a number is rounded to. -/
def roundedSize (q : ℚ) : Except SizeFault Nat :=
  if q ≤ -1 then .error (.ofNegative ⌈q⌉) else .ok ⌊q⌋₊

/-- The outcome that a number has as a size, if negative numbers are errors and others are rounded
down. -/
def RoundsDown (q : ℚ) (outcome : Except SizeFault Nat) : Prop :=
  if q < 0 then ∃ fault, outcome = .error fault else outcome = .ok ⌊q⌋₊

/-- To look at the sign of what is rounded toward zero is to ask for minus one or less. -/
theorem size_towardZero (q : ℚ) :
    (if towardZero q < 0 then .error (.ofNegative (towardZero q)) else .ok (towardZero q).toNat :
      Except SizeFault Nat) = roundedSize q := by
  rw [roundedSize, towardZero]
  by_cases hneg : q < 0
  · rw [if_pos hneg]
    have hsign : ⌈q⌉ < 0 ↔ q ≤ -1 := by
      rw [Int.lt_iff_add_one_le, ← le_sub_iff_add_le, Int.ceil_le]
      norm_num
    by_cases hone : q ≤ -1
    · rw [if_pos (hsign.mpr hone), if_pos hone]
    · have hceil : ⌈q⌉ = 0 := by
        have hle : ⌈q⌉ ≤ 0 := Int.ceil_le.mpr (by exact_mod_cast hneg.le)
        have hge := mt hsign.mp hone
        omega
      rw [if_neg (mt hsign.mp hone), if_neg hone, hceil, Nat.floor_of_nonpos hneg.le]
      rfl
  · have hnonneg : 0 ≤ q := not_lt.mp hneg
    rw [if_neg hneg, if_neg (not_lt.mpr (Int.floor_nonneg.mpr hnonneg)), if_neg (by linarith),
      Int.floor_toNat]

theorem Value.toSize_eq {v : Value} (hv : v.isNumber = true) :
    v.toSize = match v.rational? with
      | some q => roundedSize q
      | none => .error .notFinite := by
  cases v with
  | integer n =>
    change (if n < 0 then .error (.ofNegative n) else .ok n.toNat) = roundedSize n
    rw [← size_towardZero, towardZero_intCast]
  | truth =>
    change .ok 1 = roundedSize ((1 : Int) : ℚ)
    rw [← size_towardZero, towardZero_intCast]
    rfl
  | real x =>
    rw [toSize, rational?]
    cases Binary64.ofFloat x with
    | finite negative significand exponent =>
      dsimp only [Binary64.rational?]
      rw [Binary64.truncate_eq, size_towardZero]
    | infinite | nan => rfl
  | _ => cases hv

/-- What a text is evaluated to is a number. -/
theorem isNumber_of_evaluate {text : String} {bindings : Bindings} {v : Value}
    (hv : evaluate text bindings = .ok v) : v.isNumber = true := by
  obtain ⟨e, -, hv⟩ := bind_eq_ok_iff.mp hv
  split at hv
  · cases hv
  · split at hv
    · next hnumber =>
      cases hv
      exact hnumber
    · cases hv

theorem roundsDown_roundedSize_iff {q : ℚ} : RoundsDown q (roundedSize q) ↔ ¬(-1 < q ∧ q < 0) := by
  rw [RoundsDown, roundedSize]
  by_cases hneg : q < 0
  · rw [if_pos hneg]
    by_cases hone : q ≤ -1
    · rw [if_pos hone]
      exact iff_of_true ⟨_, rfl⟩ fun h => absurd h.1 (not_lt.mpr hone)
    · rw [if_neg hone]
      exact iff_of_false (fun ⟨_, h⟩ => nomatch h) fun h => h ⟨not_le.mp hone, hneg⟩
  · rw [if_neg hneg, if_neg fun hone => hneg (by linarith)]
    exact iff_of_true rfl fun h => hneg h.2

end

/-- The size of a text that has a value. There is none if the text is nothing but more decimal
digits than the host reads. Otherwise a value that is not finite is no size, and one of minus one or
less is refused; any other is rounded to the greatest natural number that is not above it, or to
zero. So negative values are refused and others are rounded down exactly if the value does not lie
between minus one and zero. -/
theorem evaluateSize_rounds [Host] {text : String} {bindings : Bindings} {v : Value}
    (hv : evaluate text bindings = .ok v) :
    (∀ fault, Host.readingFault? (literalDigits text) = some fault →
      evaluateSize text bindings = .error (.bare (.digits fault))) ∧
    (Host.readingFault? (literalDigits text) = none →
      (v.rational? = none → evaluateSize text bindings = .error .notFinite) ∧
      ∀ q, v.rational? = some q →
        (evaluateSize text bindings = if q ≤ -1 then .error (.ofNegative ⌈q⌉) else .ok ⌊q⌋₊) ∧
        (RoundsDown q (evaluateSize text bindings) ↔ ¬(-1 < q ∧ q < 0))) := by
  refine ⟨fun fault h => evaluateSize_of_readingFault? h bindings, fun hdigits => ?_⟩
  have hsize := evaluateSize_of_evaluate hdigits hv
  rw [Value.toSize_eq (isNumber_of_evaluate hv)] at hsize
  rw [hsize]
  refine ⟨fun hnone => by rw [hnone], fun q hq => ?_⟩
  rw [hq]
  exact ⟨rfl, roundsDown_roundedSize_iff⟩

/-- A quotient of seven halves is rounded down, and one of minus three halves is refused. -/
theorem sampleHalves_rounds :
    (evaluate "7 / 2" [] = .ok (.real (Binary64.ofRatio false 7 2)) ∧
      (Value.real (Binary64.ofRatio false 7 2)).rational? = some (7 / 2) ∧
      evaluateSize "7 / 2" [] = .ok 3) ∧
    evaluate "-3/2" [] = .ok (.real (Binary64.ofRatio true 3 2)) ∧
      (Value.real (Binary64.ofRatio true 3 2)).rational? = some (-3 / 2) ∧
      evaluateSize "-3/2" [] = .error (.negative (-1)) := by
  have hseven : evaluate "7 / 2" [] = .ok (.real (Binary64.ofRatio false 7 2)) := rfl
  have hthree : evaluate "-3/2" [] = .ok (.real (Binary64.ofRatio true 3 2)) := rfl
  have hdown : (Value.real (Binary64.ofRatio false 7 2)).rational? = some (7 / 2) := by
    rw [Value.rational?_real (show _ = Binary64.finite false (7 * 2 ^ 50) (-51) by decide +kernel),
      Binary64.rational]
    norm_num
  have hbelow : (Value.real (Binary64.ofRatio true 3 2)).rational? = some (-3 / 2) := by
    rw [Value.rational?_real (show _ = Binary64.finite true (3 * 2 ^ 51) (-52) by decide +kernel),
      Binary64.rational]
    norm_num
  refine ⟨⟨hseven, hdown, ?_⟩, hthree, hbelow, ?_⟩
  · rw [(((evaluateSize_rounds hseven).2 rfl).2 _ hdown).1, if_neg (by norm_num)]
    have hfloor : ⌊(7 / 2 : ℚ)⌋₊ = 3 := by
      rw [Nat.floor_eq_iff (by norm_num)]
      norm_num
    rw [hfloor]
  · rw [(((evaluateSize_rounds hthree).2 rfl).2 _ hbelow).1, if_pos (by norm_num)]
    have hceil : ⌈(-3 / 2 : ℚ)⌉ = -1 := by norm_num
    rw [hceil]
    rfl

/-- Minus one half is below zero, and its size is zero. -/
theorem sampleHalf_not_refused :
    evaluate "-1/2" [] = .ok (.real (Binary64.ofRatio true 1 2)) ∧
      (Value.real (Binary64.ofRatio true 1 2)).rational? = some (-1 / 2) ∧
      evaluateSize "-1/2" [] = .ok 0 ∧ ¬RoundsDown (-1 / 2) (evaluateSize "-1/2" []) := by
  have hvalue : (Value.real (Binary64.ofRatio true 1 2)).rational? = some (-1 / 2) := by
    rw [Value.rational?_real (show _ = Binary64.finite true (2 ^ 52) (-53) by decide +kernel),
      Binary64.rational]
    norm_num
  have hsize : evaluateSize "-1/2" [] = .ok 0 := by decide +kernel
  refine ⟨rfl, hvalue, hsize, ?_⟩
  rw [hsize, RoundsDown, if_pos (by norm_num)]
  exact fun ⟨_, h⟩ => nomatch h

end Expression

end GameAtlas
