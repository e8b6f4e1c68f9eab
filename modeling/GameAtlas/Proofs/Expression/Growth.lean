import Mathlib.Tactic
import GameAtlas.Proofs.Expression.Meaning

/-!
How large the integers of an expression become. What an operator adds to the bits of its operands is
bounded whatever they are, since powers and left shifts are refused above the cap; so the bits that
come with literals and names, and a constant for every operator, bound whatever is computed.
-/

namespace GameAtlas.Expression

/-! ### Bits -/

theorem bitLength_le_iff {n k : Nat} : bitLength n ≤ k ↔ n < 2 ^ k := by
  rw [bitLength]
  split
  · next hzero =>
    rw [hzero]
    simp
  · next hne => exact Nat.log2_lt hne

theorem lt_two_pow_bitLength (n : Nat) : n < 2 ^ bitLength n :=
  bitLength_le_iff.mp (le_refl _)

theorem bitLength_mono {m n : Nat} (h : m ≤ n) : bitLength m ≤ bitLength n :=
  bitLength_le_iff.mpr (h.trans_lt (lt_two_pow_bitLength n))

/-- A number has no more bits than it counts. -/
theorem bitLength_le_self (n : Nat) : bitLength n ≤ n :=
  bitLength_le_iff.mpr Nat.lt_two_pow_self

theorem bitLength_add_le (m n : Nat) : bitLength (m + n) ≤ bitLength m + bitLength n + 1 := by
  rw [bitLength_le_iff, pow_succ]
  have hm : m < 2 ^ (bitLength m + bitLength n) :=
    bitLength_le_iff.mp (Nat.le_add_right _ _)
  have hn : n < 2 ^ (bitLength m + bitLength n) := bitLength_le_iff.mp (Nat.le_add_left _ _)
  omega

theorem bitLength_mul_le (m n : Nat) : bitLength (m * n) ≤ bitLength m + bitLength n := by
  rw [bitLength_le_iff, pow_add]
  exact Nat.mul_lt_mul'' (lt_two_pow_bitLength m) (lt_two_pow_bitLength n)

theorem bitLength_pow_le (m : Nat) {n : Nat} (hn : n ≠ 0) :
    bitLength (m ^ n) ≤ bitLength m * n := by
  rw [bitLength_le_iff, pow_mul]
  exact Nat.pow_lt_pow_left (lt_two_pow_bitLength m) hn

/-! ### Integers -/

theorem natAbs_fdiv_le (m n : Int) : (m.fdiv n).natAbs ≤ m.natAbs := by
  rcases le_total 0 n with hn | hn
  · rw [Int.fdiv_eq_ediv_of_nonneg m hn]
    exact Int.natAbs_ediv_le_natAbs m n
  · rw [← Int.neg_fdiv_neg, Int.fdiv_eq_ediv_of_nonneg (-m) (by omega), ← Int.natAbs_neg m]
    exact Int.natAbs_ediv_le_natAbs (-m) (-n)

theorem natAbs_fmod_le (m : Int) {n : Int} (hn : n ≠ 0) : (m.fmod n).natAbs ≤ n.natAbs := by
  have hpositive (m : Int) {n : Int} (hn : 0 < n) : (m.fmod n).natAbs ≤ n.natAbs := by
    have hlow := Int.fmod_nonneg_of_pos m hn
    have hhigh := Int.fmod_lt_of_pos m hn
    omega
  rcases lt_or_gt_of_ne hn with hneg | hpos
  · have hflip := hpositive (-m) (n := -n) (by omega)
    rwa [Int.neg_fmod_neg, Int.natAbs_neg, Int.natAbs_neg] at hflip
  · exact hpositive m hpos

/-- The bits that two numbers have in all, with one more. -/
theorem bitLength_or_succ_le (m n : Nat) :
    bitLength ((m ||| n) + 1) ≤ bitLength (m + 1) + bitLength (n + 1) + 1 := by
  rw [bitLength_le_iff, pow_succ]
  have hm : m + 1 < 2 ^ (bitLength (m + 1) + bitLength (n + 1)) :=
    bitLength_le_iff.mp (Nat.le_add_right _ _)
  have hn : n + 1 < 2 ^ (bitLength (m + 1) + bitLength (n + 1)) :=
    bitLength_le_iff.mp (Nat.le_add_left _ _)
  have hor := Nat.or_lt_two_pow (Nat.lt_of_succ_lt hm) (Nat.lt_of_succ_lt hn)
  omega

theorem bitLength_or_le (m n : Nat) : bitLength (m ||| n) ≤ bitLength m + bitLength n := by
  rw [bitLength_le_iff]
  exact Nat.or_lt_two_pow (bitLength_le_iff.mp (Nat.le_add_right _ _))
    (bitLength_le_iff.mp (Nat.le_add_left _ _))

theorem bitLength_le_of_le_left {k m : Nat} (h : k ≤ m) (n : Nat) :
    bitLength k ≤ bitLength m + bitLength n + 1 :=
  (bitLength_mono h).trans (by omega)

theorem bitLength_le_of_le_right {k n : Nat} (m : Nat) (h : k ≤ n) :
    bitLength k ≤ bitLength m + bitLength n + 1 :=
  (bitLength_mono h).trans (by omega)

/-- In two's complement the bits in common are those of one of the numbers, unless both are
negative. -/
theorem bitLength_commonBits_le (m n : Int) :
    bitLength (commonBits m n).natAbs ≤ bitLength m.natAbs + bitLength n.natAbs + 1 := by
  cases m with
  | ofNat m =>
    cases n with
    | ofNat n => exact bitLength_le_of_le_left Nat.and_le_left n
    | negSucc n => exact bitLength_le_of_le_left (Nat.sub_le _ _) (n + 1)
  | negSucc m =>
    cases n with
    | ofNat n => exact bitLength_le_of_le_right (m + 1) (Nat.sub_le _ _)
    | negSucc n => exact bitLength_or_succ_le m n

theorem bitLength_joinedBits_le (m n : Int) :
    bitLength (joinedBits m n).natAbs ≤ bitLength m.natAbs + bitLength n.natAbs + 1 := by
  cases m with
  | ofNat m =>
    cases n with
    | ofNat n => exact (bitLength_or_le m n).trans (Nat.le_succ _)
    | negSucc n => exact bitLength_le_of_le_right m (Nat.succ_le_succ (Nat.sub_le _ _))
  | negSucc m =>
    cases n with
    | ofNat n => exact bitLength_le_of_le_left (Nat.succ_le_succ (Nat.sub_le _ _)) n
    | negSucc n => exact bitLength_le_of_le_left (Nat.succ_le_succ Nat.and_le_left) (n + 1)

/-- The most bits that an operator adds to those of its operands. -/
def maxAddedBits : Nat := 2 * maxResultBits - 2

/-- The cap is on the bits below the leading one, times the exponent. The leading bit adds the
exponent once, which is no more than that; and a base that grows has two bits itself. -/
theorem bitLength_power_le {m n : Int} (hn : 0 ≤ n) (h : powerExceeds m n = false) :
    bitLength (integerPower m n.toNat).natAbs ≤ bitLength m.natAbs + maxAddedBits := by
  rw [integerPower_eq, Int.natAbs_pow]
  by_cases hbase : 1 < m.natAbs
  · have hbits : 2 ≤ bitLength m.natAbs := by
      rw [← not_lt, Nat.lt_succ_iff, bitLength_le_iff]
      omega
    simp only [powerExceeds, hbase, decide_true, Bool.true_and, decide_eq_false_iff_not,
      not_lt] at h
    obtain ⟨k, rfl⟩ := Int.eq_ofNat_of_zero_le hn
    obtain ⟨below, hbelow⟩ := Nat.exists_eq_add_of_le' hbits
    have hcap : (below + 1) * k ≤ maxResultBits := by
      rw [hbelow] at h
      push_cast at h
      have hcap' : ((below : Int) + 1) * k ≤ maxResultBits := by linarith
      exact_mod_cast hcap'
    rcases Nat.eq_zero_or_pos k with rfl | hk
    · exact (bitLength_le_self _).trans (by simp [maxAddedBits, maxResultBits])
    · calc bitLength (m.natAbs ^ k) ≤ bitLength m.natAbs * k := bitLength_pow_le _ hk.ne'
        _ = (below + 1) * k + k := by rw [hbelow]; ring
        _ ≤ maxResultBits + maxResultBits :=
          Nat.add_le_add hcap ((Nat.le_mul_of_pos_left k (Nat.succ_pos below)).trans hcap)
        _ = 2 + maxAddedBits := rfl
        _ ≤ bitLength m.natAbs + maxAddedBits := Nat.add_le_add_right hbits _
  · have hsmall : m.natAbs ^ n.toNat ≤ 1 := pow_le_one' (not_lt.mp hbase) _
    have hbit : bitLength 1 ≤ maxAddedBits := by decide
    exact (bitLength_mono hsmall).trans (hbit.trans (Nat.le_add_left _ _))

/-! ### Values -/

/-- The bits of an integer; what is no integer has none. The truth value counts as one. -/
def Value.bits (v : Value) : Nat :=
  match v.integer? with
  | some n => bitLength n.natAbs
  | none => 0

theorem Value.bits_of_integer? {v : Value} {n : Int} (h : v.integer? = some n) :
    v.bits = bitLength n.natAbs := by
  rw [bits, h]

/-- If there is a value, it has no more than so many bits. -/
def Narrow (k : Nat) (r : Except Fault Value) : Prop := ∀ v, r = .ok v → v.bits ≤ k

variable {k : Nat} {a b v : Value} {m n : Int}

theorem narrow_error (fault : Fault) : Narrow k (.error fault) := nofun

theorem narrow_ok (h : v.bits ≤ k) : Narrow k (.ok v) := by
  rintro _ ⟨⟩
  exact h

theorem narrow_integer (h : bitLength n.natAbs ≤ k) : Narrow k (.ok (.integer n)) :=
  narrow_ok h

theorem narrow_real (x : Float) : Narrow k (.ok (.real x)) := narrow_ok (Nat.zero_le k)

theorem narrow_complex (z : Complex) : Narrow k (.ok (.complex z)) := narrow_ok (Nat.zero_le k)

theorem Narrow.bind {α : Type} {r : Except Fault α} {f : α → Except Fault Value}
    (h : ∀ x, r = .ok x → Narrow k (f x)) : Narrow k (r >>= f) := by
  intro v hv
  obtain ⟨x, hx, hf⟩ := bind_eq_ok_iff.mp hv
  exact h x hx v hf

theorem Narrow.ite {c : Prop} [Decidable c] {r r' : Except Fault Value} (h : c → Narrow k r)
    (h' : ¬c → Narrow k r') : Narrow k (if c then r else r') := by
  split
  · next hc => exact h hc
  · next hc => exact h' hc

/-- Two values that are brought to integers are ones. -/
theorem integers_of_align? (h : align? a b = .ok (some (.integers m n))) :
    a.integer? = some m ∧ b.integer? = some n := by
  unfold align? at h
  split at h
  · next hm hn =>
    cases h
    exact ⟨hm, hn⟩
  · -- No other pair of numbers is brought to integers.
    split at h
    · cases h
    · cases h
    · cases h
    · cases h
    all_goals
      obtain ⟨x, _, h⟩ := bind_eq_ok_iff.mp h
      obtain ⟨y, _, h⟩ := bind_eq_ok_iff.mp h
      split at h <;> cases h

theorem integers_of_alignReal? (h : alignReal? a b = .ok (some (.integers m n))) :
    a.integer? = some m ∧ b.integer? = some n := by
  unfold alignReal? at h
  split at h
  · cases h
  · exact integers_of_align? h

theorem narrow_complexPower (x y : Complex) : Narrow k (complexPower x y) := by
  unfold complexPower
  split
  · exact narrow_complex _
  · exact narrow_error _
  · exact narrow_error _

/-- A power of doubles is no integer. -/
theorem narrow_realPower (x y : Float) : Narrow k (realPower x y) := by
  unfold realPower
  dsimp only
  refine .ite (fun _ => narrow_real _) fun _ => .ite (fun _ => narrow_real _) fun _ =>
    .ite (fun _ => narrow_real _) fun _ => .ite (fun _ => narrow_real _) fun _ =>
    .ite (fun _ => ?_) fun _ => .ite (fun _ => ?_) fun _ => ?_
  · exact .ite (fun _ => narrow_real _) fun _ => narrow_real _
  · exact .ite (fun _ => narrow_error _) fun _ => narrow_real _
  · exact .ite (fun _ => narrow_complexPower _ _) fun _ =>
      .ite (fun _ => narrow_error _) fun _ => narrow_real _

theorem narrow_integerQuotient (m n : Int) : Narrow k (integerQuotient m n) := by
  unfold integerQuotient
  refine .ite (fun _ => narrow_error _) fun _ => ?_
  exact .ite (fun _ => narrow_error _) fun _ => narrow_real _

theorem narrow_divide (a b : Value) : Narrow k (divide a b) := by
  refine .bind fun o _ => ?_
  split
  · exact narrow_integerQuotient _ _
  · exact .ite (fun _ => narrow_error _) fun _ => narrow_real _
  · split
    · exact narrow_complex _
    · exact narrow_error _
  · exact narrow_error _

theorem narrow_add (a b : Value) : Narrow (a.bits + b.bits + 1) (add a b) := by
  refine .bind fun o ho => ?_
  split
  · obtain ⟨hm, hn⟩ := integers_of_align? ho
    rw [Value.bits_of_integer? hm, Value.bits_of_integer? hn]
    exact narrow_integer ((bitLength_mono (Int.natAbs_add_le _ _)).trans (bitLength_add_le _ _))
  · exact narrow_real _
  · exact narrow_complex _
  · exact narrow_error _

theorem narrow_subtract (a b : Value) : Narrow (a.bits + b.bits + 1) (subtract a b) := by
  refine .bind fun o ho => ?_
  split
  · obtain ⟨hm, hn⟩ := integers_of_align? ho
    rw [Value.bits_of_integer? hm, Value.bits_of_integer? hn]
    exact narrow_integer ((bitLength_mono (Int.natAbs_sub_le _ _)).trans (bitLength_add_le _ _))
  · exact narrow_real _
  · exact narrow_complex _
  · exact narrow_error _

theorem narrow_multiply (a b : Value) : Narrow (a.bits + b.bits) (multiply a b) := by
  refine .bind fun o ho => ?_
  split
  · next m n =>
    obtain ⟨hm, hn⟩ := integers_of_align? ho
    rw [Value.bits_of_integer? hm, Value.bits_of_integer? hn]
    refine narrow_integer ?_
    rw [Int.natAbs_mul]
    exact bitLength_mul_le m.natAbs n.natAbs
  · exact narrow_real _
  · exact narrow_complex _
  · exact narrow_error _

theorem narrow_floorDivide (a b : Value) : Narrow a.bits (floorDivide a b) := by
  refine .bind fun o ho => ?_
  split
  · next m n =>
    rw [Value.bits_of_integer? (integers_of_alignReal? ho).1]
    exact .ite (fun _ => narrow_error _) fun _ =>
      narrow_integer (bitLength_mono (natAbs_fdiv_le m n))
  · exact .ite (fun _ => narrow_error _) fun _ => narrow_real _
  · exact narrow_error _

theorem narrow_modulo (a b : Value) : Narrow b.bits (modulo a b) := by
  refine .bind fun o ho => ?_
  split
  · next m n =>
    rw [Value.bits_of_integer? (integers_of_alignReal? ho).2]
    exact .ite (fun _ => narrow_error _) fun hn =>
      narrow_integer (bitLength_mono (natAbs_fmod_le m hn))
  · exact .ite (fun _ => narrow_error _) fun _ => narrow_real _
  · exact narrow_error _

theorem narrow_power (a b : Value) : Narrow (a.bits + maxAddedBits) (power a b) := by
  unfold power
  split
  · next m n hm hn =>
    rw [Value.bits_of_integer? hm]
    refine .ite (fun _ => narrow_error _) fun hcap => .ite (fun hnonneg => ?_) fun _ => ?_
    · exact narrow_integer (bitLength_power_le hnonneg (by simpa using hcap))
    · exact .bind fun x _ => .bind fun y _ => narrow_realPower x y
  · refine .bind fun o _ => ?_
    split
    · exact narrow_realPower _ _
    · exact narrow_complexPower _ _
    · exact narrow_error _

theorem narrow_bitAnd (a b : Value) : Narrow (a.bits + b.bits + 1) (bitAnd a b) := by
  unfold bitAnd
  split
  · exact narrow_ok (by decide)
  · split
    · next m n hm hn =>
      rw [Value.bits_of_integer? hm, Value.bits_of_integer? hn]
      exact narrow_integer (bitLength_commonBits_le m n)
    · exact narrow_error _

theorem narrow_bitOr (a b : Value) : Narrow (a.bits + b.bits + 1) (bitOr a b) := by
  unfold bitOr
  split
  · exact narrow_ok (by decide)
  · exact narrow_ok (by decide)
  · split
    · next m n hm hn =>
      rw [Value.bits_of_integer? hm, Value.bits_of_integer? hn]
      exact narrow_integer (bitLength_joinedBits_le m n)
    · exact narrow_error _

theorem narrow_plainShiftLeft (hcount : ∀ m n, a.integer? = some m → b.integer? = some n →
    m ≠ 0 → n ≤ maxResultBits) :
    Narrow (a.bits + (maxResultBits + 1)) (plainShiftLeft a b) := by
  unfold plainShiftLeft
  split
  · next m n hm hn =>
    rw [Value.bits_of_integer? hm]
    refine .ite (fun _ => narrow_error _) fun _ => narrow_integer ?_
    split
    · exact Nat.zero_le _
    · next hzero =>
      have hle : n.toNat ≤ maxResultBits := by
        have hbound := hcount m n hm hn hzero
        omega
      have hpower : bitLength (2 ^ n.toNat) ≤ maxResultBits + 1 :=
        bitLength_le_iff.mpr (Nat.pow_lt_pow_right (by decide) (Nat.lt_succ_of_le hle))
      rw [Int.natAbs_mul]
      exact (bitLength_mul_le _ _).trans (Nat.add_le_add_left hpower _)
  · exact narrow_error _

/-- A shift of zero is zero whatever the count is; any other count is capped. -/
theorem narrow_shiftLeft (a b : Value) : Narrow (a.bits + (maxResultBits + 1)) (shiftLeft a b) := by
  unfold shiftLeft
  refine .ite (fun _ => .bind fun refused hrefused => ?_) fun hzero => .bind fun refused _ => ?_
  · refine .ite (fun _ => narrow_error _) fun hnot =>
      narrow_plainShiftLeft fun m n _ hn _ => ?_
    cases b with
    | integer count =>
      cases hn
      cases hrefused
      simpa using hnot
    | truth =>
      cases hn
      decide
    | _ => cases hn
  · refine .ite (fun _ => narrow_error _) fun _ => narrow_plainShiftLeft fun m n hm _ hne => ?_
    cases a with
    | integer k =>
      cases hm
      exact absurd (bne_iff_ne.mpr hne) hzero
    | truth => exact absurd rfl hzero
    | _ => cases hm

theorem narrow_shiftRight (a b : Value) : Narrow (a.bits + 1) (shiftRight a b) := by
  unfold shiftRight
  split
  · next m n hm hn =>
    rw [Value.bits_of_integer? hm]
    refine .ite (fun _ => narrow_error _) fun _ => .ite (fun _ => narrow_integer ?_) fun _ =>
      narrow_integer ?_
    · split
      · exact Nat.le_add_left _ _
      · exact Nat.zero_le _
    · exact (bitLength_mono (natAbs_fdiv_le _ _)).trans (Nat.le_succ _)
  · exact narrow_error _

theorem Narrow.mono {k' : Nat} {r : Except Fault Value} (h : Narrow k r) (hle : k ≤ k') :
    Narrow k' r :=
  fun v hv => (h v hv).trans hle

theorem narrow_binary (op : BinaryOp) (a b : Value) :
    Narrow (a.bits + b.bits + maxAddedBits) (op.apply a b) := by
  have hadded : maxResultBits + 1 ≤ maxAddedBits := by decide
  cases op with
  | add => exact (narrow_add a b).mono (by omega)
  | subtract => exact (narrow_subtract a b).mono (by omega)
  | multiply => exact (narrow_multiply a b).mono (by omega)
  | divide => exact narrow_divide a b
  | floorDivide => exact (narrow_floorDivide a b).mono (by omega)
  | modulo => exact (narrow_modulo a b).mono (by omega)
  | power => exact (narrow_power a b).mono (by omega)
  | shiftLeft => exact (narrow_shiftLeft a b).mono (by omega)
  | shiftRight => exact (narrow_shiftRight a b).mono (by omega)
  | bitAnd => exact (narrow_bitAnd a b).mono (by omega)
  | bitOr => exact (narrow_bitOr a b).mono (by omega)

theorem narrow_negate (a : Value) : Narrow a.bits (negate a) := by
  cases a with
  | integer n =>
    refine narrow_integer ?_
    rw [Int.natAbs_neg]
    exact le_refl _
  | truth => exact narrow_integer (by decide)
  | real x => exact narrow_real _
  | complex z => exact narrow_complex _
  | operator => exact narrow_error _
  | record => exact narrow_error _

theorem narrow_plus (a : Value) : Narrow a.bits (plus a) := by
  cases a with
  | truth => exact narrow_integer (by decide)
  | operator => exact narrow_error _
  | record => exact narrow_error _
  | _ => exact narrow_ok (le_refl _)

theorem narrow_invert (a : Value) : Narrow (a.bits + 2) (invert a) := by
  unfold invert
  split
  · next n hn =>
    rw [Value.bits_of_integer? hn]
    have hone : (-n - 1).natAbs ≤ n.natAbs + 1 := by omega
    exact narrow_integer ((bitLength_mono hone).trans (bitLength_add_le _ _))
  · exact narrow_error _

theorem narrow_unary (op : UnaryOp) (a : Value) :
    Narrow (a.bits + maxAddedBits) (op.apply a) := by
  have hadded : 2 ≤ maxAddedBits := by decide
  cases op with
  | negate => exact (narrow_negate a).mono (by omega)
  | plus => exact (narrow_plus a).mono (by omega)
  | invert => exact (narrow_invert a).mono (by omega)

/-! ### Expressions -/

/-- The bits that literals and names bring into an expression, each as often as it occurs. -/
def Expr.givenBits (bindings : Bindings) : Expr → Nat
  | .integer n => bitLength n
  | .real _ => 0
  | .name text =>
    match bindings.lookup text with
    | some n => bitLength n.natAbs
    | none => 0
  | .unary _ operand => operand.givenBits bindings
  | .binary _ left right => left.givenBits bindings + right.givenBits bindings

def Expr.operators : Expr → Nat
  | .integer _ | .real _ | .name _ => 0
  | .unary _ operand => operand.operators + 1
  | .binary _ left right => left.operators + right.operators + 1

/-- What the operator of an expression is applied to, if it has one. -/
def Expr.operands : Expr → List Expr
  | .integer _ | .real _ | .name _ => []
  | .unary _ operand => [operand]
  | .binary _ left right => [left, right]

/-- The bits that are given, and a constant for every operator. -/
def Expr.maxBits (bindings : Bindings) (e : Expr) : Nat :=
  e.givenBits bindings + 2 * maxResultBits * e.operators

section

variable {bindings : Bindings} {text : String} {e : Expr}

theorem Expr.maxBits_unary (op : UnaryOp) (operand : Expr) :
    (Expr.unary op operand).maxBits bindings = operand.maxBits bindings + 2 * maxResultBits := by
  simp only [maxBits, givenBits, operators]
  ring

theorem Expr.maxBits_binary (op : BinaryOp) (left right : Expr) :
    (Expr.binary op left right).maxBits bindings =
      left.maxBits bindings + right.maxBits bindings + 2 * maxResultBits := by
  simp only [maxBits, givenBits, operators]
  ring

theorem Expr.maxBits_operand {part : Expr} (h : part ∈ e.operands) :
    part.maxBits bindings + 2 * maxResultBits ≤ e.maxBits bindings := by
  cases e with
  | integer n => cases h
  | real x => cases h
  | name text => cases h
  | unary op operand =>
    obtain rfl := List.mem_singleton.mp h
    rw [maxBits_unary]
  | binary op left right =>
    rw [maxBits_binary]
    rcases List.mem_pair.mp h with rfl | rfl <;> omega

/-- The truth value has a bit that nothing gives. -/
theorem bits_le_succ (h : v.bits ≤ k ∨ v = .truth) : v.bits ≤ k + 1 := by
  rcases h with hle | rfl
  · exact Nat.le_succ_of_le hle
  · exact Nat.le_add_left 1 k

theorem bits_nameValue (h : nameValue bindings text = .ok v) :
    v.bits ≤ (Expr.name text).givenBits bindings ∨ v = .truth := by
  rw [nameValue] at h
  split at h
  · cases h
    exact .inr rfl
  · rw [Expr.givenBits]
    cases hlookup : bindings.lookup text with
    | some n =>
      rw [hlookup] at h
      cases h
      exact .inl (le_refl _)
    | none =>
      -- What is reserved is no number.
      rw [hlookup] at h
      have hbits : v.bits = 0 := by
        simp only [reserved?] at h
        split_ifs at h <;> cases h <;> rfl
      exact .inl (hbits.trans_le (Nat.zero_le _))

/-- The induction is on the expression. Of what an operator may add, two bits are left over for
operands that are the truth value. -/
theorem Expr.bits_evaluate (h : e.evaluate bindings = .ok v) :
    v.bits ≤ e.maxBits bindings ∨ v = .truth := by
  have hspare : maxAddedBits + 2 = 2 * maxResultBits := rfl
  induction e generalizing v with
  | integer n =>
    cases h
    exact .inl (le_refl _)
  | real x =>
    cases h
    exact .inl (Nat.zero_le _)
  | name text => exact bits_nameValue h
  | unary op operand ih =>
    obtain ⟨a, ha, h⟩ := bind_eq_ok_iff.mp h
    have hadded := narrow_unary op a v h
    have hoperand := bits_le_succ (ih ha)
    rw [maxBits_unary]
    exact .inl (by omega)
  | binary op left right ihLeft ihRight =>
    obtain ⟨a, ha, h⟩ := bind_eq_ok_iff.mp h
    obtain ⟨b, hb, h⟩ := bind_eq_ok_iff.mp h
    split at h
    · have hadded := narrow_binary op a b v h
      have hleft := bits_le_succ (ihLeft ha)
      have hright := bits_le_succ (ihRight hb)
      rw [maxBits_binary]
      exact .inl (by omega)
    · cases h

/-! ### Everything that comes up -/

/-- The numbers that an integer power is measured by before it is computed: the magnitude of the
base and, where that grows, its bits, those below the leading one, and their product with the
exponent. -/
def powerMeasures (base exponent : Int) : List Int :=
  let bits : Int := bitLength base.natAbs
  if 1 < base.natAbs then [base.natAbs, bits, bits - 1, (bits - 1) * exponent] else [base.natAbs]

/-- The integers that come up while an expression is evaluated: those that it comes to, that its
parts come to, and that its powers are measured by. A part counts whether or not the evaluation gets
as far. The truth value is an integer as well. -/
inductive Expr.Produces (bindings : Bindings) : Expr → Int → Prop where
  | value {e : Expr} {v : Value} {n : Int} :
      e.evaluate bindings = .ok v → v.integer? = some n → Produces bindings e n
  | measure {left right : Expr} {a b : Value} {base exponent n : Int} :
      left.evaluate bindings = .ok a → right.evaluate bindings = .ok b →
      a.integer? = some base → b.integer? = some exponent → n ∈ powerMeasures base exponent →
      Produces bindings (.binary .power left right) n
  | within {e part : Expr} {n : Int} :
      part ∈ e.operands → Produces bindings part n → Produces bindings e n

/-- The name of the truth value on its own, without a bit that is bound to it. -/
def Expr.IsBareTruth (bindings : Bindings) (e : Expr) : Prop :=
  e = .name truthName ∧ e.givenBits bindings = 0

/-- Measures only multiply bits, so that they are as short as their operands. -/
theorem bitLength_measure_le {base exponent : Int} (h : n ∈ powerMeasures base exponent) :
    bitLength n.natAbs ≤ bitLength base.natAbs + bitLength exponent.natAbs := by
  have hbase {k : Nat} (hk : k ≤ base.natAbs) :
      bitLength k ≤ bitLength base.natAbs + bitLength exponent.natAbs :=
    (bitLength_mono hk).trans (Nat.le_add_right _ _)
  have hbits := bitLength_le_self base.natAbs
  rw [powerMeasures] at h
  split at h
  · next hgrows =>
    have hpositive : 0 < bitLength base.natAbs := by
      rw [← not_le, bitLength_le_iff]
      omega
    simp only [List.mem_cons, List.not_mem_nil, or_false] at h
    rcases h with rfl | rfl | rfl | rfl
    · exact hbase (le_refl _)
    · exact hbase hbits
    · exact hbase (by omega)
    · rw [Int.natAbs_mul]
      refine (bitLength_mul_le _ _).trans (Nat.add_le_add_right (bitLength_mono ?_) _)
      omega
  · rw [List.mem_singleton.mp h]
    exact hbase (le_refl _)

theorem Expr.Produces.bitLength_le_succ (h : e.Produces bindings n) :
    bitLength n.natAbs ≤ e.maxBits bindings + 1 := by
  have hspare : 2 ≤ 2 * maxResultBits := by decide
  induction h with
  | value hvalue hn =>
    have hbits := bits_le_succ (bits_evaluate hvalue)
    rwa [Value.bits_of_integer? hn] at hbits
  | measure ha hb hbase hexponent hmem =>
    have hleft := bits_le_succ (bits_evaluate ha)
    have hright := bits_le_succ (bits_evaluate hb)
    rw [Value.bits_of_integer? hbase] at hleft
    rw [Value.bits_of_integer? hexponent] at hright
    have hmeasure := bitLength_measure_le hmem
    rw [maxBits_binary]
    omega
  | within hpart _ ih =>
    have hwhole := @maxBits_operand bindings _ _ hpart
    omega

/-- Where nothing is applied, only the name of the truth value comes to it. -/
theorem Expr.eq_truthName (h : e.evaluate bindings = .ok .truth) (hoperators : e.operators = 0) :
    e = .name truthName := by
  cases e with
  | integer n => cases h
  | real x => cases h
  | name text =>
    by_contra hne
    change nameValue bindings text = .ok .truth at h
    rw [nameValue, if_neg fun htext => hne (by rw [htext])] at h
    cases hlookup : bindings.lookup text with
    | some n =>
      rw [hlookup] at h
      cases h
    | none =>
      rw [hlookup] at h
      simp only [reserved?] at h
      split_ifs at h <;> cases h
  | unary op operand => cases hoperators
  | binary op left right => cases hoperators

/-- The bit of the truth value is accounted for by an operator, or by what is bound to its name. -/
theorem Expr.Produces.bitLength_le (h : e.Produces bindings n) (hbare : ¬e.IsBareTruth bindings) :
    bitLength n.natAbs ≤ e.maxBits bindings := by
  have hspare : 2 ≤ 2 * maxResultBits := by decide
  cases h with
  | value hvalue hn =>
    rcases bits_evaluate hvalue with hle | rfl
    · rwa [Value.bits_of_integer? hn] at hle
    · cases hn
      change 1 ≤ e.givenBits bindings + 2 * maxResultBits * e.operators
      by_cases hoperators : e.operators = 0
      · have hgiven : e.givenBits bindings ≠ 0 := fun hzero =>
          hbare ⟨eq_truthName hvalue hoperators, hzero⟩
        omega
      · have hadded := Nat.mul_le_mul_left (2 * maxResultBits) (Nat.pos_of_ne_zero hoperators)
        omega
  | measure ha hb hbase hexponent hmem =>
    have hleft := Produces.bitLength_le_succ (.value ha hbase)
    have hright := Produces.bitLength_le_succ (.value hb hexponent)
    have hmeasure := bitLength_measure_le hmem
    rw [maxBits_binary]
    omega
  | within hpart h =>
    have hwhole := @maxBits_operand bindings _ _ hpart
    have hsucc := h.bitLength_le_succ
    omega

theorem Expr.IsBareTruth.evaluate (h : e.IsBareTruth bindings) :
    e.evaluate bindings = .ok .truth := by
  rw [h.1]
  rfl

/-- Whatever an expression is evaluated with, no integer that comes up, the result included, has
more bits than its literals and the values of its names have together, and 512 for each of its
operators. Only the truth value on its own has a bit that nothing accounts for. -/
theorem evaluate_bits_le_iff [Host] (hread : Expr.read text = .ok e) :
    ((∀ v n, evaluate text bindings = .ok v → v.integer? = some n →
        bitLength n.natAbs ≤ e.givenBits bindings + 512 * e.operators) ∧
      ∀ n, e.Produces bindings n →
        bitLength n.natAbs ≤ e.givenBits bindings + 512 * e.operators) ↔
    ¬e.IsBareTruth bindings := by
  refine ⟨fun ⟨_, hproduced⟩ hbare => ?_, fun hbare => ⟨fun v n hv hn => ?_, fun n hn => ?_⟩⟩
  · have hbit := hproduced 1 (.value hbare.evaluate rfl)
    rw [hbare.2, hbare.1] at hbit
    exact absurd hbit (by decide)
  · rw [evaluate, hread] at hv
    dsimp only [bind, Except.bind] at hv
    split at hv
    · cases hv
    · next v' hvalue =>
      split at hv
      · cases hv
        exact (Expr.Produces.value hvalue hn).bitLength_le hbare
      · cases hv
  · exact hn.bitLength_le hbare

/-- The square of five comes up in a quotient, with four as its measure. -/
theorem sampleQuotient_bits_le :
    let text := " -ARG_00 ^ 2//(3 - ARG_01)"
    let e := sampleQuotient.toExpr
    Expr.read text = .ok e ∧ evaluate text (bindBytes [5, 7]) = .ok (.integer 6) ∧
      e.Produces (bindBytes [5, 7]) 25 ∧ e.Produces (bindBytes [5, 7]) 4 ∧
      e.givenBits (bindBytes [5, 7]) = 10 ∧ e.operators = 4 ∧
      bitLength 6 ≤ 10 + 512 * 4 ∧ bitLength 25 ≤ 10 + 512 * 4 := by
  intro text e
  have hread : Expr.read text = .ok e :=
    read_spells isReadable_sampleQuotient spells_sampleQuotient
  have hvalue : evaluate text (bindBytes [5, 7]) = .ok (.integer 6) := by
    rw [evaluate, hread]
    rfl
  have hsquare : e.Produces (bindBytes [5, 7]) 25 :=
    .within (.head _) (.within (.head _) (.value rfl rfl))
  have hmeasure : e.Produces (bindBytes [5, 7]) 4 := by
    refine .within (.head _) (.within (.head _) ?_)
    exact .measure (a := .integer 5) (b := .integer 2) rfl rfl rfl rfl (by decide)
  have hbare : ¬e.IsBareTruth (bindBytes [5, 7]) := by
    rintro ⟨hname, -⟩
    change sampleQuotient.toExpr = _ at hname
    cases hname
  obtain ⟨hresult, hproduced⟩ := (evaluate_bits_le_iff hread).mpr hbare
  exact ⟨hread, hvalue, hsquare, hmeasure, rfl, rfl, hresult _ 6 hvalue rfl, hproduced 25 hsquare⟩

/-- The truth value has one bit where neither a literal nor a name nor an operator gives any. -/
theorem bareTruth_has_a_bit :
    let e := Expr.name "__debug__"
    Expr.read "__debug__" = .ok e ∧ evaluate "__debug__" [] = .ok .truth ∧
      Value.truth.integer? = some 1 ∧ e.givenBits [] = 0 ∧ e.operators = 0 ∧
      ¬bitLength (1 : Int).natAbs ≤ e.givenBits [] + 512 * e.operators := by
  intro e
  have hnamed : (match Expr.read "__debug__" with
    | .ok (.name text) => text == "__debug__"
    | _ => false) = true := by decide +kernel
  have hread : Expr.read "__debug__" = .ok e := by
    split at hnamed
    · next text hread => rw [hread, beq_iff_eq.mp hnamed]
    · cases hnamed
  refine ⟨hread, ?_, rfl, rfl, rfl, by decide⟩
  rw [evaluate, hread]
  rfl

end

end GameAtlas.Expression
