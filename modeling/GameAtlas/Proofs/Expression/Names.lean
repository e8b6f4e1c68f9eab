import Mathlib.Tactic
import GameAtlas.Proofs.Expression.Arguments

/-!
The names of expressions. Operations are not told names, so that a missing name is always one that
the expression itself looks up, and that stands for nothing.
-/

namespace GameAtlas.Expression

variable {bindings : Bindings} {text name : String}

/-- Nothing fails because of a name: none is missing, and none stands for what cannot be applied. -/
def NamesNothing {α : Type} (r : Except Fault α) : Prop :=
  (∀ name, r ≠ .error (.unbound name)) ∧ r ≠ .error .notCallable

section

variable {α β : Type}

theorem namesNothing_ok (a : α) : NamesNothing (.ok a) := ⟨nofun, nofun⟩

theorem NamesNothing.ite {c : Prop} [Decidable c] {r r' : Except Fault α} (h : NamesNothing r)
    (h' : NamesNothing r') : NamesNothing (if c then r else r') := by
  split
  · exact h
  · exact h'

theorem NamesNothing.bind {r : Except Fault α} {f : α → Except Fault β} (hr : NamesNothing r)
    (hf : ∀ a, NamesNothing (f a)) : NamesNothing (r >>= f) := by
  constructor
  · intro name hname
    rcases bind_eq_error_iff.mp hname with h | ⟨a, _, h⟩
    · exact hr.1 name h
    · exact (hf a).1 name h
  · intro hcall
    rcases bind_eq_error_iff.mp hcall with h | ⟨a, _, h⟩
    · exact hr.2 h
    · exact (hf a).2 h

theorem NamesNothing.map {r : Except Fault α} (h : NamesNothing r) (f : α → β) :
    NamesNothing (f <$> r) where
  left name hname := h.1 name (map_eq_error_iff.mp hname)
  right hcall := h.2 (map_eq_error_iff.mp hcall)

end

theorem namesNothing_realOfInt (n : Int) : NamesNothing (realOfInt n) := by
  unfold realOfInt
  split <;> exact ⟨nofun, nofun⟩

theorem namesNothing_toReal? (v : Value) : NamesNothing (toReal? v) := by
  cases v with
  | integer n => exact (namesNothing_realOfInt n).map some
  | _ => exact ⟨nofun, nofun⟩

theorem namesNothing_toComplex? (v : Value) : NamesNothing (toComplex? v) := by
  unfold toComplex?
  split
  · exact ⟨nofun, nofun⟩
  · exact (namesNothing_toReal? v).map _

theorem namesNothing_align? (a b : Value) : NamesNothing (align? a b) := by
  unfold align?
  split
  · exact ⟨nofun, nofun⟩
  · split
    · exact ⟨nofun, nofun⟩
    · exact ⟨nofun, nofun⟩
    · exact ⟨nofun, nofun⟩
    · exact ⟨nofun, nofun⟩
    · refine (namesNothing_toComplex? _).bind fun x => (namesNothing_toComplex? b).bind fun y => ?_
      split <;> exact ⟨nofun, nofun⟩
    · refine (namesNothing_toComplex? a).bind fun x => (namesNothing_toComplex? _).bind fun y => ?_
      split <;> exact ⟨nofun, nofun⟩
    · refine (namesNothing_toReal? a).bind fun x => (namesNothing_toReal? b).bind fun y => ?_
      split <;> exact ⟨nofun, nofun⟩

theorem namesNothing_alignReal? (a b : Value) : NamesNothing (alignReal? a b) := by
  unfold alignReal?
  split
  · exact ⟨nofun, nofun⟩
  · exact namesNothing_align? a b

theorem namesNothing_complexPower (x y : Complex) : NamesNothing (complexPower x y) := by
  unfold complexPower
  split <;> exact ⟨nofun, nofun⟩

theorem namesNothing_realPower (x y : Float) : NamesNothing (realPower x y) := by
  unfold realPower
  dsimp only
  refine .ite (namesNothing_ok _) (.ite (namesNothing_ok _) (.ite (namesNothing_ok _)
    (.ite (namesNothing_ok _) (.ite ?_ (.ite ?_ ?_)))))
  · exact .ite (namesNothing_ok _) (namesNothing_ok _)
  · exact .ite ⟨nofun, nofun⟩ (namesNothing_ok _)
  · exact .ite (namesNothing_complexPower _ _) (.ite ⟨nofun, nofun⟩ (namesNothing_ok _))

theorem namesNothing_power (a b : Value) : NamesNothing (power a b) := by
  unfold power
  split
  · split
    · exact ⟨nofun, nofun⟩
    · split
      · exact ⟨nofun, nofun⟩
      · exact (namesNothing_realOfInt _).bind fun x =>
          (namesNothing_realOfInt _).bind fun y => namesNothing_realPower x y
  · refine (namesNothing_align? a b).bind fun o => ?_
    split
    · exact namesNothing_realPower _ _
    · exact namesNothing_complexPower _ _
    · exact ⟨nofun, nofun⟩

theorem namesNothing_integerQuotient (m n : Int) : NamesNothing (integerQuotient m n) := by
  unfold integerQuotient
  split
  · exact ⟨nofun, nofun⟩
  · dsimp only
    split <;> exact ⟨nofun, nofun⟩

theorem namesNothing_divide (a b : Value) : NamesNothing (divide a b) := by
  refine (namesNothing_align? a b).bind fun o => ?_
  split
  · exact namesNothing_integerQuotient _ _
  · split <;> exact ⟨nofun, nofun⟩
  · split <;> exact ⟨nofun, nofun⟩
  · exact ⟨nofun, nofun⟩

theorem namesNothing_shiftLeft (a b : Value) : NamesNothing (shiftLeft a b) := by
  have hcap : NamesNothing (exceedsCap b) := by
    unfold exceedsCap
    split <;> exact ⟨nofun, nofun⟩
  have hplain : NamesNothing (plainShiftLeft a b) := by
    unfold plainShiftLeft
    repeat' split
    all_goals exact ⟨nofun, nofun⟩
  have hshift (refused : Bool) : NamesNothing
      (if refused then .error (.shiftTooLarge a.text b.text) else plainShiftLeft a b) := by
    split
    · exact ⟨nofun, nofun⟩
    · exact hplain
  unfold shiftLeft
  split
  · exact hcap.bind hshift
  · exact hshift false

theorem namesNothing_shiftRight (a b : Value) : NamesNothing (shiftRight a b) := by
  unfold shiftRight
  repeat' split
  all_goals exact ⟨nofun, nofun⟩

/-- Operations are not told names. -/
theorem namesNothing_unary (op : UnaryOp) (a : Value) : NamesNothing (op.apply a) := by
  cases op with
  | negate => cases a <;> exact ⟨nofun, nofun⟩
  | plus => cases a <;> exact ⟨nofun, nofun⟩
  | invert =>
    change NamesNothing (invert a)
    unfold invert
    split <;> exact ⟨nofun, nofun⟩

theorem namesNothing_binary (op : BinaryOp) (a b : Value) : NamesNothing (op.apply a b) := by
  cases op with
  | add | subtract | multiply =>
    refine (namesNothing_align? a b).bind fun o => ?_
    split <;> exact ⟨nofun, nofun⟩
  | divide => exact namesNothing_divide a b
  | floorDivide | modulo =>
    refine (namesNothing_alignReal? a b).bind fun o => ?_
    repeat' split
    all_goals exact ⟨nofun, nofun⟩
  | power => exact namesNothing_power a b
  | shiftLeft => exact namesNothing_shiftLeft a b
  | shiftRight => exact namesNothing_shiftRight a b
  | bitAnd =>
    change NamesNothing (bitAnd a b)
    unfold bitAnd
    repeat' split
    all_goals exact ⟨nofun, nofun⟩
  | bitOr =>
    change NamesNothing (bitOr a b)
    unfold bitOr
    repeat' split
    all_goals exact ⟨nofun, nofun⟩

/-! ### Names -/

/-- The names that an expression looks up, from left to right. -/
def Expr.names : Expr → List String
  | .integer _ | .real _ => []
  | .name text => [text]
  | .unary _ operand => operand.names
  | .binary _ left right => left.names ++ right.names

theorem nameValue_unbound {x : String} (h : nameValue bindings name = .error (.unbound x)) :
    x = name ∧ bindings.lookup x = none := by
  unfold nameValue at h
  split at h
  · cases h
  · split at h
    · cases h
    · next hlookup =>
      split at h
      · cases h
      · cases h
        exact ⟨rfl, hlookup⟩

/-- A name that is missing is one that the expression looks up and that stands for nothing. -/
theorem Expr.evaluate_unbound {e : Expr} {x : String}
    (h : e.evaluate bindings = .error (.unbound x)) : x ∈ e.names ∧ bindings.lookup x = none := by
  induction e with
  | integer n => cases h
  | real r => cases h
  | name text =>
    obtain ⟨rfl, hlookup⟩ := nameValue_unbound h
    exact ⟨List.mem_singleton_self x, hlookup⟩
  | unary op operand ih =>
    rcases bind_eq_error_iff.mp h with h | ⟨a, _, h⟩
    · exact ih h
    · exact absurd h ((namesNothing_unary op a).1 x)
  | binary op left right ihLeft ihRight =>
    rcases bind_eq_error_iff.mp h with h | ⟨a, _, h⟩
    · obtain ⟨hmem, hlookup⟩ := ihLeft h
      exact ⟨List.mem_append_left _ hmem, hlookup⟩
    · rcases bind_eq_error_iff.mp h with h | ⟨b, _, h⟩
      · obtain ⟨hmem, hlookup⟩ := ihRight h
        exact ⟨List.mem_append_right _ hmem, hlookup⟩
      · split at h
        · exact absurd h ((namesNothing_binary op a b).1 x)
        · cases h

theorem read_not_failed [Host] {fault : Fault} : Expr.read text ≠ .error (.failed fault) := by
  unfold Expr.read
  repeat' split
  all_goals nofun

theorem ofNegative_ne_failed [Host] {size : Int} {fault : Fault} :
    SizeFault.ofNegative size ≠ .failed fault := by
  unfold SizeFault.ofNegative
  split <;> nofun

theorem toSize_not_failed [Host] {v : Value} {fault : Fault} :
    v.toSize ≠ .error (.failed fault) := by
  cases v with
  | integer n =>
    rw [Value.toSize]
    split
    · exact fun h => ofNegative_ne_failed (Except.error.inj h)
    · nofun
  | real r =>
    rw [Value.toSize]
    split
    · dsimp only
      split
      · exact fun h => ofNegative_ne_failed (Except.error.inj h)
      · nofun
    · nofun
  | truth | complex | operator | record =>
    intro h
    cases h

/-- A size for which a name is missing spells an expression that looks the name up. -/
theorem evaluateSize_unbound [Host] {x : String}
    (h : evaluateSize text bindings = .error (.failed (.unbound x))) :
    ∃ e, Expr.read text = .ok e ∧ x ∈ e.names ∧ bindings.lookup x = none := by
  unfold evaluateSize at h
  split at h
  · split at h <;> cases h
  · rcases bind_eq_error_iff.mp h with h | ⟨v, _, h⟩
    · unfold evaluate at h
      rcases bind_eq_error_iff.mp h with h | ⟨e, hread, h⟩
      · exact absurd h read_not_failed
      · refine ⟨e, hread, e.evaluate_unbound ?_⟩
        split at h
        · next hfault =>
          cases h
          exact hfault
        · split at h <;> cases h
    · exact absurd h toSize_not_failed

end GameAtlas.Expression
