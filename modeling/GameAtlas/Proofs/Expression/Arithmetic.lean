import Mathlib.Tactic
import Mathlib.Data.Int.Bitwise
import Mathlib.Data.Nat.Log
import GameAtlas.Proofs.Expression.Names

/-!
Arithmetic on integers: expressions of literals, names of bytes and the operators that lead from
integers to integers, and the unbounded integer that such an expression denotes.
-/

namespace GameAtlas.Expression

/-- The binary operators that take integers to integers. -/
inductive IntegerOp where
  | bitOr
  | bitAnd
  | shiftLeft
  | shiftRight
  | add
  | subtract
  | multiply
  | floorDivide
  | modulo
  | power
deriving DecidableEq, Repr

/-- The operator as one of size expressions. -/
def IntegerOp.binary : IntegerOp → BinaryOp
  | .bitOr => .bitOr
  | .bitAnd => .bitAnd
  | .shiftLeft => .shiftLeft
  | .shiftRight => .shiftRight
  | .add => .add
  | .subtract => .subtract
  | .multiply => .multiply
  | .floorDivide => .floorDivide
  | .modulo => .modulo
  | .power => .power

/-- An expression of integers. -/
inductive Arithmetic where
  | literal (n : Nat)
  | argument (index : Nat)
  | unary (op : UnaryOp) (operand : Arithmetic)
  | binary (op : IntegerOp) (left right : Arithmetic)
deriving Repr

/-! ### What it denotes -/

/-- A sign or the complement of every bit. -/
def UnaryOp.onInteger : UnaryOp → Int → Int
  | .negate, n => -n
  | .plus, n => n
  | .invert, n => ~~~n

/-- Quotients and remainders round toward minus infinity, bits are those of two's complement. A
power is refused if the whole part of the base's logarithm, times the exponent, is above the cap,
and a left shift of anything but zero if its count is. -/
def IntegerOp.onIntegers : IntegerOp → Int → Int → Except Fault Int
  | .bitOr, m, n => .ok (m.lor n)
  | .bitAnd, m, n => .ok (m.land n)
  | .shiftLeft, m, n =>
    if m ≠ 0 ∧ (maxResultBits : Int) < n then .error (.shiftTooLarge (toString m) (toString n))
    else if n < 0 then .error .negativeShift
    else .ok (m * 2 ^ n.toNat)
  | .shiftRight, m, n => if n < 0 then .error .negativeShift else .ok (m / 2 ^ n.toNat)
  | .add, m, n => .ok (m + n)
  | .subtract, m, n => .ok (m - n)
  | .multiply, m, n => .ok (m * n)
  | .floorDivide, m, n => if n = 0 then .error .floorDivisionByZero else .ok (m.fdiv n)
  | .modulo, m, n => if n = 0 then .error .moduloByZero else .ok (m.fmod n)
  | .power, m, n =>
    if 1 < m.natAbs ∧ (maxResultBits : Int) < Nat.log 2 m.natAbs * n then
      .error (.powerTooLarge (toString m) (toString n))
    else .ok (m ^ n.toNat)

/-- The integer that an expression denotes, or the first thing from left to right that it has none
for. -/
def Arithmetic.value (bindings : Bindings) : Arithmetic → Except Fault Int
  | .literal n => .ok n
  | .argument index =>
    match bindings.lookup (argumentName index) with
    | some n => .ok n
    | none => .error (.unbound (argumentName index))
  | .unary op operand => do return op.onInteger (← operand.value bindings)
  | .binary op left right => do
    let m ← left.value bindings
    let n ← right.value bindings
    op.onIntegers m n

/-- Every exponent that has a value is a whole number: with a negative one a power is none. -/
def Arithmetic.HasWholePowers (bindings : Bindings) : Arithmetic → Prop
  | .literal _ | .argument _ => True
  | .unary _ operand => operand.HasWholePowers bindings
  | .binary op left right =>
    left.HasWholePowers bindings ∧ right.HasWholePowers bindings ∧
      (op = .power → ∀ n, right.value bindings = .ok n → 0 ≤ n)

/-! ### Operations -/

/-- A number is made of the bits that another one lacks and of those in common. -/
theorem ldiff_add_land (m n : Nat) : m.ldiff n + (m &&& n) = m := by
  induction m using Nat.binaryRec generalizing n with
  | zero =>
    rw [Nat.zero_and]
    exact Nat.eq_of_testBit_eq fun i => by simp [Nat.testBit_ldiff]
  | bit b m ih =>
    rw [← Nat.bit_bodd_div2 n, Nat.ldiff_bit, Nat.land_bit]
    have hrest := ih n.div2
    simp only [Nat.bit_val]
    cases b <;> cases n.bodd <;> simp only [Bool.and_true, Bool.and_false, Bool.not_true,
      Bool.not_false, Bool.toNat_true, Bool.toNat_false] <;> omega

theorem sub_land_eq_ldiff (m n : Nat) : m - (m &&& n) = m.ldiff n := by
  have hparts := ldiff_add_land m n
  omega

theorem commonBits_eq_land (m n : Int) : commonBits m n = m.land n := by
  cases m with
  | ofNat m =>
    cases n with
    | ofNat n => rfl
    | negSucc n => exact congrArg Int.ofNat (sub_land_eq_ldiff m n)
  | negSucc m =>
    cases n with
    | ofNat n =>
      rw [commonBits, Nat.and_comm, sub_land_eq_ldiff]
      rfl
    | negSucc n => rfl

theorem joinedBits_eq_lor (m n : Int) : joinedBits m n = m.lor n := by
  cases m with
  | ofNat m =>
    cases n with
    | ofNat n => rfl
    | negSucc n =>
      rw [joinedBits, Nat.and_comm, sub_land_eq_ldiff]
      rfl
  | negSucc m =>
    cases n with
    | ofNat n =>
      rw [joinedBits, sub_land_eq_ldiff]
      rfl
    | negSucc n => rfl

theorem integerPower_eq (base : Int) (exponent : Nat) :
    integerPower base exponent = base ^ exponent := by
  unfold integerPower
  split
  · next hsmall =>
    have hbase : base = 0 ∨ base = 1 ∨ base = -1 := by omega
    rcases hbase with rfl | rfl | rfl
    · split
      · next hzero => rw [hzero, pow_zero]
      · next hzero => simp [zero_pow hzero]
    · simp
    · rcases Nat.even_or_odd exponent with heven | hodd
      · rw [heven.neg_one_pow, if_pos (⟨rfl, Nat.even_iff.mp heven⟩ : _ ∧ _), ite_self]
      · have hodd' := Nat.odd_iff.mp hodd
        rw [hodd.neg_one_pow, if_neg (by omega), if_neg (by omega)]
  · rfl

theorem powerExceeds_iff (base exponent : Int) :
    powerExceeds base exponent = true ↔
      1 < base.natAbs ∧ (maxResultBits : Int) < Nat.log 2 base.natAbs * exponent := by
  rw [powerExceeds, Bool.and_eq_true, decide_eq_true_iff, decide_eq_true_iff]
  refine and_congr_right fun hbase => ?_
  rw [bitLength, if_neg (by omega), Nat.log2_eq_log_two]
  push_cast
  rw [add_sub_cancel_right]

/-- Behind the last bit of a number there is only its sign. -/
theorem ediv_two_pow_of_bitLength_lt {m : Int} {k : Nat} (h : bitLength m.natAbs < k) :
    m / 2 ^ k = if m < 0 then -1 else 0 := by
  have hsize : m.natAbs < 2 ^ k := by
    by_cases hzero : m.natAbs = 0
    · rw [hzero]
      positivity
    · rw [bitLength, if_neg hzero] at h
      exact (Nat.log2_lt hzero).mp (by omega)
  have hsize' : |m| < 2 ^ k := by
    rw [Int.abs_eq_natAbs]
    exact_mod_cast hsize
  rw [abs_lt] at hsize'
  split
  · next hneg => exact Int.ediv_eq_neg_one_of_neg_of_le hneg (by omega)
  · next hneg => exact Int.ediv_eq_zero_of_lt (by omega) hsize'.2

theorem negate_eq_complement (n : Int) : -n - 1 = ~~~n := by
  cases n with
  | ofNat n =>
    change -(n : Int) - 1 = Int.negSucc n
    omega
  | negSucc n =>
    change -Int.negSucc n - 1 = (n : Int)
    omega

theorem shiftLeft_integers (m n : Int) :
    shiftLeft (.integer m) (.integer n) = (IntegerOp.shiftLeft.onIntegers m n).map .integer := by
  by_cases hm : m = 0
  · have hzero : (Value.integer m).isNonzero = false := by simp [Value.isNonzero, hm]
    rw [shiftLeft, hzero, IntegerOp.onIntegers, if_neg (by simp)]
    change plainShiftLeft (.integer m) (.integer n) = _
    rw [plainShiftLeft]
    simp only [Value.integer?, hm, if_true, zero_mul]
    split <;> rfl
  · have hnonzero : (Value.integer m).isNonzero = true := by simp [Value.isNonzero, hm]
    rw [shiftLeft, hnonzero, IntegerOp.onIntegers]
    change (if decide ((maxResultBits : Int) < n) = true then _
      else plainShiftLeft (.integer m) (.integer n)) = _
    by_cases hcap : (maxResultBits : Int) < n
    · rw [if_pos (by simpa using hcap), if_pos ⟨hm, hcap⟩]
      rfl
    · rw [if_neg (by simpa using hcap), if_neg (by simp [hcap]), plainShiftLeft]
      simp only [Value.integer?, if_neg hm]
      split
      · rfl
      · simp [Except.map]

theorem shiftRight_integers (m n : Int) :
    shiftRight (.integer m) (.integer n) = (IntegerOp.shiftRight.onIntegers m n).map .integer := by
  rw [shiftRight, IntegerOp.onIntegers]
  simp only [Value.integer?]
  by_cases hn : n < 0
  · rw [if_pos hn, if_pos hn]
    rfl
  · rw [if_neg hn, if_neg hn]
    split
    · next hlong =>
      rw [ediv_two_pow_of_bitLength_lt (by omega)]
      rfl
    · rw [Int.fdiv_eq_ediv_of_nonneg _ (by positivity)]
      simp [Except.map]

theorem power_integers {m n : Int} (h : 0 ≤ n) :
    power (.integer m) (.integer n) = (IntegerOp.power.onIntegers m n).map .integer := by
  rw [power, IntegerOp.onIntegers]
  simp only [Value.integer?, Value.text, powerExceeds_iff, if_pos h]
  split
  · rfl
  · rw [integerPower_eq]
    rfl

/-- A sign makes an integer of an integer. -/
theorem UnaryOp.apply_integer (op : UnaryOp) (n : Int) :
    op.apply (.integer n) = .ok (.integer (op.onInteger n)) := by
  cases op with
  | negate => rfl
  | plus => rfl
  | invert => rw [onInteger, ← negate_eq_complement]; rfl

/-- On integers the operators do what they denote. -/
theorem IntegerOp.apply_integers (op : IntegerOp) {m n : Int} (h : op = .power → 0 ≤ n) :
    op.binary.apply (.integer m) (.integer n) = (op.onIntegers m n).map .integer := by
  cases op with
  | add | subtract | multiply => rfl
  | floorDivide | modulo =>
    rw [onIntegers, apply_ite (Except.map Value.integer)]
    rfl
  | bitAnd =>
    rw [onIntegers, ← commonBits_eq_land]
    rfl
  | bitOr =>
    rw [onIntegers, ← joinedBits_eq_lor]
    rfl
  | shiftLeft => exact shiftLeft_integers m n
  | shiftRight => exact shiftRight_integers m n
  | power => exact power_integers (h rfl)

/-! ### Evaluation -/

/-- The size expression that is meant. -/
def Arithmetic.toExpr : Arithmetic → Expr
  | .literal n => .integer n
  | .argument index => .name (argumentName index)
  | .unary op operand => .unary op operand.toExpr
  | .binary op left right => .binary op.binary left.toExpr right.toExpr

variable {bindings : Bindings}

theorem nameValue_argumentName (index : Nat) :
    nameValue bindings (argumentName index) =
      ((Arithmetic.argument index).value bindings).map .integer := by
  have htruth : argumentName index ≠ truthName := by
    intro h
    have hfirst := head?_argumentName index
    rw [h] at hfirst
    exact absurd hfirst (by decide)
  rw [nameValue, if_neg htruth, Arithmetic.value]
  cases bindings.lookup (argumentName index) with
  | some n => rfl
  | none =>
    have hreserved : reserved? (argumentName index) = none := by
      cases h : reserved? (argumentName index) with
      | none => rfl
      | some v => exact absurd rfl (argumentName_ne (by rw [h]; rfl) index)
    rw [hreserved]
    rfl

/-- Evaluation comes to what an expression denotes, the failures included, if nothing is bound to
the names of the guarded operators. The induction is on the expression; what an operand fails with
is what the operation fails with. -/
theorem Arithmetic.evaluate_toExpr (hguards : ∀ op, applicable bindings op = true) (e : Arithmetic)
    (hpowers : e.HasWholePowers bindings) :
    e.toExpr.evaluate bindings = (e.value bindings).map .integer := by
  induction e with
  | literal n => rfl
  | argument index => exact nameValue_argumentName index
  | unary op operand ih =>
    rw [toExpr, Expr.evaluate, ih hpowers, value]
    cases operand.value bindings with
    | error fault => rfl
    | ok n => exact op.apply_integer n
  | binary op left right ihLeft ihRight =>
    obtain ⟨hleft, hright, hpower⟩ := hpowers
    rw [toExpr, Expr.evaluate, ihLeft hleft, ihRight hright, value]
    cases left.value bindings with
    | error fault => rfl
    | ok m =>
      cases hn : right.value bindings with
      | error fault => rfl
      | ok n =>
        simp only [Except.map, bind, Except.bind, hguards, if_true]
        exact op.apply_integers fun hop => hpower hop n hn

end GameAtlas.Expression
