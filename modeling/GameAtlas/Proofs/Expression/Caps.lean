import Mathlib.Tactic
import GameAtlas.Proofs.Expression.Growth

/-!
What the caps on powers and left shifts let through. Whether a result is refused is decided before
it is computed, by bits that it is known to have: those below the leading one of the base, as often
as the exponent says, or as many as the count of the shift. Where there are any, the result has at
least one more and often many; so nothing is refused that fits, and some of what does not fit is
given.
-/

namespace GameAtlas.Expression

/-- The operators whose results are capped. -/
inductive CappedOp where
  | power
  | shiftLeft
deriving DecidableEq, Repr

namespace CappedOp

/-- The operator as one of size expressions. -/
def binary : CappedOp → BinaryOp
  | .power => .power
  | .shiftLeft => .shiftLeft

/-- The result as it is without a cap. -/
def exact : CappedOp → Int → Nat → Int
  | .power, m, n => m ^ n
  | .shiftLeft, m, n => m * 2 ^ n

/-- The bits that the result is known to have before it is computed. -/
def foreseen : CappedOp → Int → Nat → Nat
  | .power, m, n => Nat.log 2 m.natAbs * n
  | .shiftLeft, m, n => if m = 0 then 0 else n

def tooLarge : CappedOp → Value → Value → Fault
  | .power, a, c => .powerTooLarge a.text c.text
  | .shiftLeft, a, c => .shiftTooLarge a.text c.text

/-- The outcome is the one of an exact cap: a result that fits, or an error in place of one that
does not. -/
def CapsExactly (op : CappedOp) (m : Int) (n : Nat) (outcome : Except SizeFault Value) : Prop :=
  if maxResultBits < bitLength (op.exact m n).natAbs then ∃ fault, outcome = .error fault
  else outcome = .ok (.integer (op.exact m n))

end CappedOp

variable {a c : Value} {m : Int} {n : Nat}

/-! ### What is known of a result -/

/-- Any magnitude but zero is at least the power of two of its leading bit, and so is its power;
a shift multiplies by the power of two itself. -/
theorem CappedOp.two_pow_foreseen_le {op : CappedOp} (h : 0 < op.foreseen m n) :
    2 ^ op.foreseen m n ≤ (op.exact m n).natAbs := by
  cases op with
  | power =>
    have hbase : m.natAbs ≠ 0 := by
      intro hzero
      rw [foreseen, hzero, Nat.log_zero_right, Nat.zero_mul] at h
      exact lt_irrefl 0 h
    calc 2 ^ (Nat.log 2 m.natAbs * n) = (2 ^ Nat.log 2 m.natAbs) ^ n := pow_mul _ _ _
      _ ≤ m.natAbs ^ n := Nat.pow_le_pow_left (Nat.pow_log_le_self 2 hbase) n
      _ = (m ^ n).natAbs := (Int.natAbs_pow m n).symm
  | shiftLeft =>
    rw [foreseen] at h ⊢
    split at h
    · exact absurd h (lt_irrefl 0)
    · next hne =>
      rw [if_neg hne, exact, Int.natAbs_mul, Int.natAbs_pow]
      exact Nat.le_mul_of_pos_left _ (Int.natAbs_pos.mpr hne)

/-- A result is wider than what is foreseen of it. -/
theorem CappedOp.foreseen_lt_bitLength {op : CappedOp} (h : 0 < op.foreseen m n) :
    op.foreseen m n < bitLength (op.exact m n).natAbs := by
  rw [← not_le, bitLength_le_iff, not_lt]
  exact two_pow_foreseen_le h

theorem CappedOp.too_wide_of_foreseen {op : CappedOp} (h : maxResultBits < op.foreseen m n) :
    maxResultBits < bitLength (op.exact m n).natAbs :=
  h.trans (foreseen_lt_bitLength (Nat.zero_lt_of_lt h))

/-- To give the result is right exactly if it fits. -/
theorem CappedOp.capsExactly_ok_iff {op : CappedOp} :
    op.CapsExactly m n (.ok (.integer (op.exact m n))) ↔
      bitLength (op.exact m n).natAbs ≤ maxResultBits := by
  rw [CapsExactly, ← not_lt]
  split
  · next hwide => exact ⟨fun ⟨fault, h⟩ => (nomatch h), fun h => absurd hwide h⟩
  · next hfits => exact ⟨fun _ => hfits, fun _ => rfl⟩

theorem CappedOp.capsExactly_error_iff {op : CappedOp} {fault : SizeFault} :
    op.CapsExactly m n (.error fault) ↔ maxResultBits < bitLength (op.exact m n).natAbs := by
  rw [CapsExactly]
  split
  · next hwide => exact ⟨fun _ => hwide, fun _ => ⟨fault, rfl⟩⟩
  · next hfits => exact ⟨fun h => (nomatch h), fun h => absurd h hfits⟩

/-! ### The operators -/

theorem isNonzero_of_integer? (h : a.integer? = some m) : a.isNonzero = (m != 0) := by
  cases a with
  | integer k =>
    cases h
    rfl
  | truth =>
    cases h
    rfl
  | _ => cases h

theorem exceedsCap_of_integer? {k : Int} (h : c.integer? = some k) :
    exceedsCap c = .ok ((maxResultBits : Int) < k) := by
  cases c with
  | integer k' =>
    cases h
    rfl
  | truth =>
    cases h
    rfl
  | _ => cases h

theorem powerExceeds_iff_foreseen :
    powerExceeds m n = true ↔ maxResultBits < CappedOp.power.foreseen m n := by
  rw [powerExceeds_iff, CappedOp.foreseen]
  constructor
  · rintro ⟨-, h⟩
    exact_mod_cast h
  · intro h
    refine ⟨?_, by exact_mod_cast h⟩
    -- A base below two has no bits below its leading one.
    by_contra hsmall
    rw [Nat.log_of_lt (by omega), Nat.zero_mul] at h
    exact absurd h (Nat.not_lt_zero _)

/-- On integers a capped operator refuses by what is foreseen, and otherwise is exact. -/
theorem CappedOp.apply_eq (op : CappedOp) (ha : a.integer? = some m)
    (hc : c.integer? = some (n : Int)) :
    op.binary.apply a c =
      if maxResultBits < op.foreseen m n then .error (op.tooLarge a c)
      else .ok (.integer (op.exact m n)) := by
  cases op with
  | power =>
    change Expression.power a c = _
    rw [Expression.power, ha, hc]
    dsimp only
    simp only [powerExceeds_iff_foreseen, if_pos (Int.natCast_nonneg n), Int.toNat_natCast,
      integerPower_eq]
    rfl
  | shiftLeft =>
    change Expression.shiftLeft a c = _
    rw [Expression.shiftLeft, isNonzero_of_integer? ha, exceedsCap_of_integer? hc, plainShiftLeft,
      ha, hc]
    dsimp only
    rw [if_neg (by omega : ¬(n : Int) < 0), Int.toNat_natCast]
    by_cases hzero : m = 0
    · have hforeseen : CappedOp.shiftLeft.foreseen m n = 0 := if_pos hzero
      rw [hforeseen]
      simp [hzero, exact]
    · have hforeseen : CappedOp.shiftLeft.foreseen m n = n := if_neg hzero
      rw [hforeseen]
      by_cases hcap : maxResultBits < n
      · simp [bind, Except.bind, hzero, hcap, tooLarge]
      · simp [bind, Except.bind, hzero, hcap, exact]

/-! ### Texts -/

variable {bindings : Bindings} {text : String} {left right : Expr}

/-- What a text comes to that is read as an operation on two values. -/
theorem evaluate_binary [Host] {op : BinaryOp}
    (hread : Expr.read text = .ok (.binary op left right))
    (hleft : left.evaluate bindings = .ok a) (hright : right.evaluate bindings = .ok c) :
    evaluate text bindings =
      match if applicable bindings op then op.apply a c else .error .notCallable with
      | .error fault => .error (.failed fault)
      | .ok v => if v.isNumber then .ok v else .error .notNumber := by
  rw [evaluate, hread]
  dsimp only [bind, Except.bind]
  rw [Expr.evaluate, hleft, hright]
  rfl

section

variable [Host] {op : CappedOp} (hread : Expr.read text = .ok (.binary op.binary left right))
  (hleft : left.evaluate bindings = .ok a) (hright : right.evaluate bindings = .ok c)
  (ha : a.integer? = some m) (hc : c.integer? = some (n : Int))

include hread hleft hright ha hc

theorem CappedOp.evaluate_eq :
    evaluate text bindings =
      if applicable bindings op.binary then
        if maxResultBits < op.foreseen m n then .error (.failed (op.tooLarge a c))
        else .ok (.integer (op.exact m n))
      else .error (.failed .notCallable) := by
  rw [evaluate_binary hread hleft hright, op.apply_eq ha hc]
  split_ifs <;> rfl

/-- What is not foreseen to be too wide is given, however wide it is. -/
theorem CappedOp.evaluate_given (happlicable : applicable bindings op.binary = true)
    (hforeseen : op.foreseen m n ≤ maxResultBits) :
    evaluate text bindings = .ok (.integer (op.exact m n)) := by
  rw [op.evaluate_eq hread hleft hright ha hc, if_pos happlicable, if_neg (not_lt.mpr hforeseen)]

/-- A text that is read as a power or a left shift of integers. The outcome depends on what is
foreseen of the result alone. What fits is given whenever the operator can be applied. The outcome
is that of an exact cap exactly if nothing is given that is too wide without being foreseen to be;
or, where the operator cannot be applied, if the result would be too wide anyway. -/
theorem evaluate_capped :
    (evaluate text bindings =
      if applicable bindings op.binary then
        if maxResultBits < op.foreseen m n then .error (.failed (op.tooLarge a c))
        else .ok (.integer (op.exact m n))
      else .error (.failed .notCallable)) ∧
    (applicable bindings op.binary → bitLength (op.exact m n).natAbs ≤ maxResultBits →
      evaluate text bindings = .ok (.integer (op.exact m n))) ∧
    (op.CapsExactly m n (evaluate text bindings) ↔
      if applicable bindings op.binary then
        ¬(op.foreseen m n ≤ maxResultBits ∧ maxResultBits < bitLength (op.exact m n).natAbs)
      else maxResultBits < bitLength (op.exact m n).natAbs) := by
  have houtcome := op.evaluate_eq hread hleft hright ha hc
  have hwide := @CappedOp.too_wide_of_foreseen m n op
  refine ⟨houtcome, fun happlicable hfits => ?_, ?_⟩
  · refine op.evaluate_given hread hleft hright ha hc happlicable (not_lt.mp fun h => ?_)
    exact absurd (hwide h) (not_lt.mpr hfits)
  · rw [houtcome]
    split
    · split
      · next hforeseen =>
        rw [CappedOp.capsExactly_error_iff, ← not_lt, not_and]
        exact ⟨fun _ h => absurd hforeseen h, fun _ => hwide hforeseen⟩
      · next hgiven =>
        rw [CappedOp.capsExactly_ok_iff, not_and, not_lt]
        exact (imp_iff_right (not_lt.mp hgiven)).symm
    · exact CappedOp.capsExactly_error_iff

end

/-- The power of minus three with 256 bits, of which 161 are foreseen. -/
theorem sampleFit_capped :
    let text := "(-3) ^ 161"
    Expr.read text = .ok (.binary .power (.unary .negate (.integer 3)) (.integer 161)) ∧
      bitLength ((-3 : Int) ^ 161).natAbs = maxResultBits ∧
      CappedOp.power.foreseen (-3) 161 = 161 ∧
      evaluate text [] = .ok (.integer ((-3) ^ 161)) ∧
      CappedOp.power.CapsExactly (-3) 161 (evaluate text []) := by
  intro text
  have hspells : Spells (Arithmetic.binary .power (.unary .negate (.literal 3))
      (.literal 161)).lexemes "(-3) ^ 161".toList := by
    have hlexemes : (Arithmetic.binary .power (.unary .negate (.literal 3))
        (.literal 161)).lexemes = [.opening, .sign .negate, .numeral 3, .closing,
          .operator .power, .numeral 161] := by decide
    rw [hlexemes]
    refine .lexeme (l := .opening) (s := "(") (by decide) ?_
    refine .lexeme (l := .sign .negate) (s := "-") (by decide) ?_
    refine .lexeme (l := .numeral 3) (s := "3") (by decide) ?_
    refine .lexeme (l := .closing) (s := ")") (by decide) (.blank ?_)
    refine .lexeme (l := .operator .power) (s := "^") (by decide) (.blank ?_)
    exact .lexeme (l := .numeral 161) (s := "161") (by decide) .done
  have hread : Expr.read text =
      .ok (.binary CappedOp.power.binary (.unary .negate (.integer 3)) (.integer 161)) :=
    read_spells ⟨by decide, by decide⟩ hspells
  have hbits : bitLength ((-3 : Int) ^ 161).natAbs = maxResultBits := by decide +kernel
  have hleft : (Expr.unary .negate (.integer 3)).evaluate [] = .ok (.integer (-3)) := rfl
  have hright : (Expr.integer 161).evaluate [] = .ok (.integer 161) := rfl
  have hcapped := evaluate_capped (n := 161) hread hleft hright rfl rfl
  have hfine : ¬(CappedOp.power.foreseen (-3) 161 ≤ maxResultBits ∧
      maxResultBits < bitLength ((-3 : Int) ^ 161).natAbs) :=
    fun h => absurd h.2 (not_lt.mpr hbits.le)
  exact ⟨hread, hbits, by decide +kernel, hcapped.2.1 rfl hbits.le, hcapped.2.2.mpr hfine⟩

/-- Of the 406 bits of a power of three only 256 are foreseen, so that it is given; and so is the
left shift of one by 256, which has 257 bits. -/
theorem sampleWide_given :
    (evaluate "3 ^ 256" [] = .ok (.integer (3 ^ 256)) ∧
      bitLength ((3 : Int) ^ 256).natAbs = 406 ∧
      ¬CappedOp.power.CapsExactly 3 256 (evaluate "3 ^ 256" [])) ∧
    evaluate "1 << 256" [] = .ok (.integer (2 ^ 256)) ∧
      bitLength ((2 : Int) ^ 256).natAbs = 257 ∧
      ¬CappedOp.shiftLeft.CapsExactly 1 256 (evaluate "1 << 256" []) := by
  have hpower : Spells (Arithmetic.binary .power (.literal 3) (.literal 256)).lexemes
      "3 ^ 256".toList := by
    refine .lexeme (l := .numeral 3) (s := "3") (by decide) (.blank ?_)
    refine .lexeme (l := .operator .power) (s := "^") (by decide) (.blank ?_)
    exact .lexeme (l := .numeral 256) (s := "256") (by decide) .done
  have hshift : Spells (Arithmetic.binary .shiftLeft (.literal 1) (.literal 256)).lexemes
      "1 << 256".toList := by
    refine .lexeme (l := .numeral 1) (s := "1") (by decide) (.blank ?_)
    refine .lexeme (l := .operator .shiftLeft) (s := "<<") (by decide) (.blank ?_)
    exact .lexeme (l := .numeral 256) (s := "256") (by decide) .done
  have hpowerBits : bitLength (CappedOp.power.exact 3 256).natAbs = 406 := by decide +kernel
  have hshiftBits : bitLength (CappedOp.shiftLeft.exact 1 256).natAbs = 257 := by decide +kernel
  have hpowerRead := read_spells ⟨by decide, by decide⟩ hpower
  have hshiftRead := read_spells ⟨by decide, by decide⟩ hshift
  have hpowerGiven : evaluate "3 ^ 256" [] = .ok (.integer (CappedOp.power.exact 3 256)) :=
    CappedOp.power.evaluate_given hpowerRead rfl rfl rfl rfl rfl (by decide +kernel)
  have hshiftGiven : evaluate "1 << 256" [] = .ok (.integer (CappedOp.shiftLeft.exact 1 256)) :=
    CappedOp.shiftLeft.evaluate_given hshiftRead rfl rfl rfl rfl rfl (by decide +kernel)
  refine ⟨⟨hpowerGiven, hpowerBits, ?_⟩, hshiftGiven, hshiftBits, ?_⟩
  · rw [hpowerGiven, CappedOp.capsExactly_ok_iff, hpowerBits]
    decide
  · rw [hshiftGiven, CappedOp.capsExactly_ok_iff, hshiftBits]
    decide

end GameAtlas.Expression
