import Mathlib.Tactic
import GameAtlas.Proofs.Expression.Meaning

/-!
What bindings do to an expression. Of all names that are bound, those count that the expression
itself looks up, and the two that powers and left shifts are looked up under: where an expression
comes to such an operator while its name is bound to a number, there is nothing to apply.
-/

namespace GameAtlas.Expression

variable {bindings b b' : Bindings} {text : String} {e : Expr}

/-- Bindings that say the same of some names: which of them are bound, and to what. -/
def AgreeOn (names : List String) (b b' : Bindings) : Prop :=
  ∀ name ∈ names, b.lookup name = b'.lookup name

theorem AgreeOn.left {names more : List String} (h : AgreeOn (names ++ more) b b') :
    AgreeOn names b b' :=
  fun name hname => h name (List.mem_append_left more hname)

theorem AgreeOn.right {names more : List String} (h : AgreeOn (names ++ more) b b') :
    AgreeOn more b b' :=
  fun name hname => h name (List.mem_append_right names hname)

/-- An evaluation comes to an operator that cannot be applied, since its name is bound to a number:
both operands have values, and nothing before them fails. -/
inductive Expr.Captured (bindings : Bindings) : Expr → Prop where
  | operator {op : BinaryOp} {left right : Expr} {a c : Value} :
      left.evaluate bindings = .ok a → right.evaluate bindings = .ok c →
      applicable bindings op = false → Captured bindings (.binary op left right)
  | operand {op : UnaryOp} {operand : Expr} :
      Captured bindings operand → Captured bindings (.unary op operand)
  | left {op : BinaryOp} {left right : Expr} :
      Captured bindings left → Captured bindings (.binary op left right)
  | right {op : BinaryOp} {left right : Expr} {a : Value} :
      left.evaluate bindings = .ok a → Captured bindings right →
      Captured bindings (.binary op left right)

theorem Expr.Captured.evaluate (h : e.Captured bindings) :
    e.evaluate bindings = .error .notCallable := by
  induction h with
  | operator hleft hright happlicable =>
    rw [Expr.evaluate, hleft, hright]
    simp [bind, Except.bind, happlicable]
  | operand _ ih =>
    rw [Expr.evaluate, ih]
    rfl
  | left _ ih =>
    rw [Expr.evaluate, ih]
    rfl
  | right hleft _ ih =>
    rw [Expr.evaluate, hleft, ih]
    rfl

/-- Operations never say that something cannot be applied. -/
theorem Expr.captured_of_evaluate (h : e.evaluate bindings = .error .notCallable) :
    e.Captured bindings := by
  induction e with
  | integer n => cases h
  | real x => cases h
  | name text =>
    rw [Expr.evaluate, nameValue] at h
    repeat' split at h
    all_goals cases h
  | unary op operand ih =>
    rcases bind_eq_error_iff.mp h with h | ⟨a, _, h⟩
    · exact .operand (ih h)
    · exact absurd h (namesNothing_unary op a).2
  | binary op left right ihLeft ihRight =>
    rcases bind_eq_error_iff.mp h with h | ⟨a, hleft, h⟩
    · exact .left (ihLeft h)
    · rcases bind_eq_error_iff.mp h with h | ⟨c, hright, h⟩
      · exact .right hleft (ihRight h)
      · split at h
        · exact absurd h (namesNothing_binary op a c).2
        · next happlicable => exact .operator hleft hright (by simpa using happlicable)

theorem Expr.evaluate_notCallable_iff :
    e.evaluate bindings = .error .notCallable ↔ e.Captured bindings :=
  ⟨captured_of_evaluate, Captured.evaluate⟩

/-! ### Two bindings -/

theorem nameValue_agree {name : String} (h : b.lookup name = b'.lookup name) :
    nameValue b name = nameValue b' name := by
  rw [nameValue, nameValue, h]

/-- Where bindings agree on the names of an expression, and on the operators that can be applied,
the expression comes to the same. -/
theorem Expr.evaluate_agree (hnames : AgreeOn e.names b b')
    (hguards : ∀ op, applicable b op = applicable b' op) : e.evaluate b = e.evaluate b' := by
  induction e with
  | integer n => rfl
  | real x => rfl
  | name text => exact nameValue_agree (hnames text (List.mem_singleton_self text))
  | unary op operand ih => rw [Expr.evaluate, Expr.evaluate, ih hnames]
  | binary op left right ihLeft ihRight =>
    rw [Expr.evaluate, Expr.evaluate, ihLeft hnames.left, ihRight hnames.right, hguards op]

/-- Where bindings agree on the names of an expression, it comes to the same, or under one of them
to an operator that cannot be applied. The induction is on the expression: as long as operands come
to the same, only the operator between them can make a difference. -/
theorem Expr.evaluate_agree_or_captured (h : AgreeOn e.names b b') :
    e.evaluate b = e.evaluate b' ∨ e.Captured b ∨ e.Captured b' := by
  induction e with
  | integer n => exact .inl rfl
  | real x => exact .inl rfl
  | name text => exact .inl (nameValue_agree (h text (List.mem_singleton_self text)))
  | unary op operand ih =>
    rcases ih h with hsame | hcaptured | hcaptured
    · rw [Expr.evaluate, Expr.evaluate, hsame]
      exact .inl rfl
    · exact .inr (.inl (.operand hcaptured))
    · exact .inr (.inr (.operand hcaptured))
  | binary op left right ihLeft ihRight =>
    rcases ihLeft h.left with hleft | hcaptured | hcaptured
    · cases ha : left.evaluate b with
      | error fault =>
        rw [Expr.evaluate, Expr.evaluate, ← hleft, ha]
        exact .inl rfl
      | ok a =>
        have ha' : left.evaluate b' = .ok a := hleft.symm.trans ha
        rcases ihRight h.right with hright | hcaptured | hcaptured
        · cases hc : right.evaluate b with
          | error fault =>
            rw [Expr.evaluate, Expr.evaluate, ha, ha', ← hright, hc]
            exact .inl rfl
          | ok c =>
            have hc' : right.evaluate b' = .ok c := hright.symm.trans hc
            by_cases hguard : applicable b op = applicable b' op
            · rw [Expr.evaluate, Expr.evaluate, ha, ha', hc, hc', hguard]
              exact .inl rfl
            · -- One of two truth values that differ is false.
              cases happlicable : applicable b op with
              | false => exact .inr (.inl (.operator ha hc happlicable))
              | true =>
                rw [happlicable] at hguard
                exact .inr (.inr (.operator ha' hc' (by simpa using Ne.symm hguard)))
        · exact .inr (.inl (.right ha hcaptured))
        · exact .inr (.inr (.right ha' hcaptured))
    · exact .inr (.inl (.left hcaptured))
    · exact .inr (.inr (.left hcaptured))

theorem Expr.evaluate_eq_iff (h : AgreeOn e.names b b') :
    e.evaluate b = e.evaluate b' ↔ (e.Captured b ↔ e.Captured b') := by
  constructor
  · intro hsame
    rw [← evaluate_notCallable_iff, ← evaluate_notCallable_iff, hsame]
  · intro hboth
    rcases evaluate_agree_or_captured h with hsame | hcaptured | hcaptured
    · exact hsame
    · rw [hcaptured.evaluate, (hboth.mp hcaptured).evaluate]
    · rw [hcaptured.evaluate, (hboth.mpr hcaptured).evaluate]

/-! ### Texts -/

/-- What an expression fails with is what its text fails with. -/
theorem evaluate_eq_failed_iff [Host] (hread : Expr.read text = .ok e) {fault : Fault} :
    evaluate text bindings = .error (.failed fault) ↔ e.evaluate bindings = .error fault := by
  rw [evaluate, hread]
  dsimp only [bind, Except.bind]
  constructor
  · intro h
    split at h
    · next hfault =>
      cases h
      exact hfault
    · split at h <;> cases h
  · intro h
    rw [h]

theorem evaluate_congr [Host] (hread : Expr.read text = .ok e) (h : e.evaluate b = e.evaluate b') :
    evaluate text b = evaluate text b' := by
  rw [evaluate, evaluate, hread]
  dsimp only [bind, Except.bind]
  rw [h]

/-- Two bindings that agree on the names in a text evaluate it to the same exactly if it comes under
both of them, or under neither, to an operator whose name is bound; so they do if they bind the
names of the guarded operators alike. -/
theorem evaluate_depends_on_names [Host]
    (h : ∀ e, Expr.read text = .ok e → AgreeOn e.names b b') :
    (evaluate text b = evaluate text b' ↔
      ∀ e, Expr.read text = .ok e → (e.Captured b ↔ e.Captured b')) ∧
    ((∀ op, applicable b op = applicable b' op) → evaluate text b = evaluate text b') := by
  cases hread : Expr.read text with
  | error fault =>
    have hsame : evaluate text b = evaluate text b' := by
      rw [evaluate, evaluate, hread]
      rfl
    refine ⟨⟨fun _ e he => ?_, fun _ => hsame⟩, fun _ => hsame⟩
    cases he
  | ok e =>
    have hnames := h e hread
    refine ⟨⟨?_, ?_⟩, fun hguards => evaluate_congr hread (e.evaluate_agree hnames hguards)⟩
    · intro hsame e' he'
      cases he'
      rw [← Expr.evaluate_notCallable_iff, ← Expr.evaluate_notCallable_iff,
        ← evaluate_eq_failed_iff hread, ← evaluate_eq_failed_iff hread, hsame]
    · intro hboth
      exact evaluate_congr hread ((Expr.evaluate_eq_iff hnames).mpr (hboth e rfl))

/-- A byte behind those that are named makes no difference to a quotient with a power in it, and a
number that the power is looked up as does. -/
theorem sampleQuotient_depends_on_names :
    let text := " -ARG_00 ^ 2//(3 - ARG_01)"
    (∀ e, Expr.read text = .ok e → AgreeOn e.names (bindBytes [5, 7]) (bindBytes [5, 7, 9]) ∧
      AgreeOn e.names (bindBytes [5, 7]) (("_pow", 1) :: bindBytes [5, 7])) ∧
    evaluate text (bindBytes [5, 7]) = evaluate text (bindBytes [5, 7, 9]) ∧
    evaluate text (bindBytes [5, 7]) ≠ evaluate text (("_pow", 1) :: bindBytes [5, 7]) := by
  intro text
  have hread : Expr.read text = .ok sampleQuotient.toExpr :=
    read_spells isReadable_sampleQuotient spells_sampleQuotient
  have hagree : ∀ e, Expr.read text = .ok e →
      AgreeOn e.names (bindBytes [5, 7]) (bindBytes [5, 7, 9]) ∧
        AgreeOn e.names (bindBytes [5, 7]) (("_pow", 1) :: bindBytes [5, 7]) := by
    intro e he
    cases hread.symm.trans he
    simp only [AgreeOn]
    decide
  refine ⟨hagree, (evaluate_depends_on_names fun e he => (hagree e he).1).2 ?_, fun hsame => ?_⟩
  · intro op
    cases op <;> decide
  · have hboth := ((evaluate_depends_on_names fun e he => (hagree e he).2).1.mp hsame) _ hread
    have hcaptured : sampleQuotient.toExpr.Captured (("_pow", 1) :: bindBytes [5, 7]) :=
      .left (.operand (.operator (a := .integer 5) (c := .integer 2) rfl rfl rfl))
    have hfine := (hboth.mpr hcaptured).evaluate
    cases hfine

/-- Two to the third power, of which no part is a name, cannot be evaluated when a number is bound
to the name of the operator. -/
theorem samplePower_captured :
    (∀ e, Expr.read "2 ^ 3" = .ok e → AgreeOn e.names [] [("_pow", 1)]) ∧
      evaluate "2 ^ 3" [] = .ok (.integer 8) ∧
      evaluate "2 ^ 3" [("_pow", 1)] = .error (.failed .notCallable) := by
  have hspells : Spells (Arithmetic.binary .power (.literal 2) (.literal 3)).lexemes
      "2 ^ 3".toList := by
    refine .lexeme (l := .numeral 2) (s := "2") (by decide) (.blank ?_)
    refine .lexeme (l := .operator .power) (s := "^") (by decide) (.blank ?_)
    exact .lexeme (l := .numeral 3) (s := "3") (by decide) .done
  have hread := read_spells ⟨by decide, by decide⟩ hspells
  refine ⟨?_, ?_, ?_⟩
  · intro e he
    cases hread.symm.trans he
    exact nofun
  · rw [evaluate, hread]
    rfl
  · rw [evaluate, hread]
    rfl

end GameAtlas.Expression
