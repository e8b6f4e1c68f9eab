import Mathlib.Tactic
import GameAtlas.Proofs.Expression.Reading

/-!
What texts of arithmetic mean: a text that spells an expression, with blanks anywhere and powers
written either way, is read as the expression and evaluates to the integer that it denotes.
-/

namespace GameAtlas.Expression

/-! ### What the phrase of an expression is taken for -/

theorem dropLineEnds_tokens (lexemes : List Lexeme) :
    dropLineEnds (tokens lexemes) = tokens lexemes := by
  refine List.rdropWhile_eq_self_iff.mpr fun hne => ?_
  obtain ⟨l, -, hl⟩ := List.mem_map.mp (List.getLast_mem hne)
  rw [← hl]
  cases l <;> exact Bool.false_ne_true

theorem refusalAt?_phrase (e : Arithmetic) (depth : Nat) : e.phrase.refusalAt? depth = none := by
  induction e generalizing depth with
  | literal n => cases depth <;> rfl
  | argument index => cases depth <;> rfl
  | unary op operand ih =>
    cases depth with
    | zero => rfl
    | succ depth => exact ih depth
  | binary op left right ihLeft ihRight =>
    cases depth with
    | zero => rfl
    | succ depth =>
      rw [Arithmetic.phrase, Phrase.refusalAt?, ihLeft, ihRight]
      rfl

theorem refusal?_phrase (e : Arithmetic) : e.phrase.refusal? = none :=
  List.findSome?_eq_none_iff.mpr fun depth _ => refusalAt?_phrase e depth

theorem toExpr?_phrase (e : Arithmetic) : e.phrase.toExpr? = some e.toExpr := by
  induction e with
  | literal n => rfl
  | argument index => rfl
  | unary op operand ih =>
    rw [Arithmetic.phrase, Phrase.toExpr?, ih]
    rfl
  | binary op left right ihLeft ihRight =>
    rw [Arithmetic.phrase, Phrase.toExpr?, ihLeft, ihRight]
    rfl

/-- No name of a byte spells a constant. -/
theorem constantName?_toExpr (e : Arithmetic) : e.toExpr.constantName? = none := by
  induction e with
  | literal n => rfl
  | argument index =>
    have hwords : ∀ word ∈ constantWords, word.toList.head? ≠ some 'A' := by decide
    have hname : constantWords.contains (argumentName index) = false := by
      rw [← Bool.not_eq_true, List.contains_iff_mem]
      exact fun hmem => hwords _ hmem (head?_argumentName index)
    rw [Arithmetic.toExpr, Expr.constantName?, hname]
    rfl
  | unary op operand ih => exact ih
  | binary op left right ihLeft ihRight =>
    rw [Arithmetic.toExpr, Expr.constantName?, ihLeft, ihRight]
    rfl

/-! ### What is scanned -/

/-- The literals of an expression, from left to right. -/
def Arithmetic.literals : Arithmetic → List Nat
  | .literal n => [n]
  | .argument _ => []
  | .unary _ operand => operand.literals
  | .binary _ left right => left.literals ++ right.literals

/-- How many of the parentheses that an expression is written with are open at one place. -/
def Arithmetic.nesting : Arithmetic → Nat
  | .literal _ | .argument _ => 0
  | .unary _ operand => operand.nesting + (decide (operand.level < signLevel)).toNat
  | .binary op left right =>
    max (left.nesting + (decide (left.level < op.leftLevel)).toNat)
      (right.nesting + (decide (right.level < op.rightLevel)).toNat)

section

variable [Host] {bindings : Bindings} {e : Arithmetic} {cs : List Char} {text : String}

/-- The host reads the digits of every literal but zero, and no more parentheses are open at one
place than may be. -/
structure Arithmetic.IsReadable (e : Arithmetic) : Prop where
  literals : ∀ n ∈ e.literals, n ≠ 0 → Host.readingFault? (Nat.toDigits 10 n).length = none
  nesting : e.nesting ≤ Token.maxNesting

theorem isReadable_numeral_iff {n : Nat} : (Lexeme.numeral n).isReadable = true ↔
    (n ≠ 0 → Host.readingFault? (Nat.toDigits 10 n).length = none) := by
  rw [Lexeme.isReadable, Bool.or_eq_true, beq_iff_eq, Option.isNone_iff_eq_none,
    or_iff_not_imp_left]

/-- Lexemes in parentheses need one more to be open; what stands behind them is scanned as without
them. -/
theorem scans_enclose_iff {lexemes : List Lexeme} {R : Prop} {k : Nat}
    (h : ∀ depth ≤ Token.maxNesting, ∀ rest, scans depth (lexemes ++ rest) = true ↔
      R ∧ depth + k ≤ Token.maxNesting ∧ scans depth rest = true)
    (needed : Bool) {depth : Nat} (hdepth : depth ≤ Token.maxNesting) (rest : List Lexeme) :
    scans depth (enclose needed lexemes ++ rest) = true ↔
      R ∧ depth + (k + needed.toNat) ≤ Token.maxNesting ∧ scans depth rest = true := by
  cases needed with
  | false => exact h depth hdepth rest
  | true =>
    have hopening : scans depth (enclose true lexemes ++ rest) =
        ((if depth < Token.maxNesting then some (depth + 1) else none).any fun depth =>
          scans depth (lexemes ++ .closing :: rest)) := by
      rw [enclose, if_pos rfl, List.cons_append, List.append_assoc]
      rfl
    have hclosing : scans (depth + 1) (.closing :: rest) = scans depth rest := rfl
    rw [hopening]
    split
    · next hlt =>
      rw [Option.any_some, h (depth + 1) hlt, hclosing, Bool.toNat_true, Nat.add_right_comm,
        Nat.add_assoc depth]
    · next hge =>
      refine iff_of_false Bool.false_ne_true ?_
      rintro ⟨-, hle, -⟩
      rw [Bool.toNat_true] at hle
      omega

/-- A scan takes the lexemes of an expression if it is readable. The induction is on the expression,
for any number of parentheses that are open before it. -/
theorem Arithmetic.scans_lexemes_iff (e : Arithmetic) {depth : Nat}
    (hdepth : depth ≤ Token.maxNesting) (rest : List Lexeme) :
    scans depth (e.lexemes ++ rest) = true ↔
      (∀ n ∈ e.literals, (Lexeme.numeral n).isReadable = true) ∧
        depth + e.nesting ≤ Token.maxNesting ∧ scans depth rest = true := by
  induction e generalizing depth rest with
  | literal n =>
    have hnumeral : scans depth ((Arithmetic.literal n).lexemes ++ rest) =
        ((Lexeme.numeral n).isReadable && scans depth rest) := rfl
    simp [hnumeral, literals, nesting, hdepth]
  | argument index =>
    have hname : scans depth ((Arithmetic.argument index).lexemes ++ rest) = scans depth rest := rfl
    simp [hname, literals, nesting, hdepth]
  | unary op operand ih =>
    have hsign : scans depth ((Arithmetic.unary op operand).lexemes ++ rest) =
        scans depth (enclose (operand.level < signLevel) operand.lexemes ++ rest) := by
      cases op <;> rfl
    rw [hsign, scans_enclose_iff (fun _ h rest => ih h rest) _ hdepth]
    rfl
  | binary op left right ihLeft ihRight =>
    have hoperator (lexemes : List Lexeme) :
        scans depth (.operator op :: lexemes) = scans depth lexemes := by
      cases op <;> rfl
    rw [lexemes, List.append_assoc, List.cons_append,
      scans_enclose_iff (fun _ h rest => ihLeft h rest) _ hdepth, hoperator,
      scans_enclose_iff (fun _ h rest => ihRight h rest) _ hdepth, literals,
      List.forall_mem_append, nesting, ← Nat.add_max_add_left, max_le_iff]
    tauto

theorem Arithmetic.scans_lexemes : scans 0 e.lexemes = true ↔ e.IsReadable := by
  have hscans := e.scans_lexemes_iff (Nat.zero_le Token.maxNesting) []
  rw [List.append_nil, Nat.zero_add] at hscans
  simp only [isReadable_numeral_iff] at hscans
  exact hscans.trans ⟨fun h => ⟨h.1, h.2.1⟩, fun h => ⟨h.literals, h.nesting, rfl⟩⟩

/-! ### The reading of a text -/

/-- A text that is scanned into the tokens of an expression is read as the expression. Of fuel there
is enough for any text that has a character for every token. -/
theorem read?_of_scan? (hscan : Token.scan? cs = some (tokens e.lexemes))
    (hlength : e.lexemes.length ≤ cs.length) : Phrase.read? cs = some e.phrase := by
  obtain ⟨fuel, hfuel⟩ := Nat.exists_eq_add_of_le' (show 5 ≤ 32 * (cs.length + 2) by omega)
  have hoperation : operation (fuel + 1) 0 (tokens e.lexemes) = some (e.phrase, []) := by
    have hread := e.reads.at_level 0 (Nat.zero_le _) [] (fuel + 1) ends_nil
    rw [Arithmetic.lexemesAt_of_le (Nat.zero_le _), List.append_nil] at hread
    exact hread (by omega)
  have hkeyword : NoKeyword (tokens e.lexemes) := by
    have hkeyword : NoKeyword (tokens e.lexemes ++ []) := noKeyword_tokens e.isOperand_lexemes
    rwa [List.append_nil] at hkeyword
  have hexpression := expression_of_operation hoperation ends_nil hkeyword
  rw [Phrase.read?, hscan]
  dsimp only [Option.bind_eq_bind, Option.bind_some]
  rw [dropLineEnds_tokens, hfuel, hexpression]
  rfl

theorem read?_spells (h : Spells e.lexemes cs) (hcaret : '^' ∉ cs)
    (hfirst : ∀ c ∈ cs.head?, Text.isBlank c = false) :
    Phrase.read? cs = if scans 0 e.lexemes then some e.phrase else none := by
  have hscan := scan?_spells h hcaret e.isOperand_lexemes.fits hfirst
  by_cases hscans : scans 0 e.lexemes = true
  · rw [if_pos hscans] at hscan ⊢
    exact read?_of_scan? hscan h.length_le
  · rw [if_neg hscans] at hscan ⊢
    rw [Phrase.read?, hscan]
    rfl

theorem spells_trim (h : Spells e.lexemes text.toList) :
    Phrase.read? (Text.trimWith Text.isBlank (spellPowers text.toList)) =
      if scans 0 e.lexemes then some e.phrase else none := by
  have hcaret : '^' ∉ Text.trimWith Text.isBlank (spellPowers text.toList) := by
    intro hc
    have hmem := (List.dropWhile_suffix _).mem ((trimWith_prefix_dropWhile _).mem hc)
    exact not_mem_spellPowers text.toList hmem
  exact read?_spells h.spellPowers.trimWith hcaret (head?_trimWith _)

/-- A text that spells a readable expression is read as the expression. -/
theorem read_spells (hreadable : e.IsReadable) (h : Spells e.lexemes text.toList) :
    Expr.read text = .ok e.toExpr := by
  rw [Expr.read, spells_trim h, if_pos (Arithmetic.scans_lexemes.mpr hreadable)]
  dsimp only
  rw [refusal?_phrase]
  dsimp only
  rw [toExpr?_phrase]
  dsimp only
  rw [constantName?_toExpr]

/-- A text that spells any other one is not read. -/
theorem read_spells_of_not_readable (hreadable : ¬e.IsReadable)
    (h : Spells e.lexemes text.toList) : Expr.read text = .error .unreadable := by
  rw [Expr.read, spells_trim h, if_neg (mt Arithmetic.scans_lexemes.mp hreadable)]

/-! ### The value of a text -/

/-- However a readable expression is written, with parentheses only where the levels of its
operators demand them, evaluation gives the integer that it denotes, or fails with the first thing
from left to right that there is none for: an unbound name, a zero divisor, a negative shift or a
power or left shift above the cap. Any other one is no size expression. -/
theorem evaluate_spells (htext : Spells e.lexemes text.toList) :
    (e.IsReadable → (∀ op, applicable bindings op = true) → e.HasWholePowers bindings →
      evaluate text bindings =
        match e.value bindings with
        | .ok n => .ok (.integer n)
        | .error fault => .error (.failed fault)) ∧
    (¬e.IsReadable → evaluate text bindings = .error .unreadable) := by
  refine ⟨fun hreadable hguards hpowers => ?_, fun hreadable => ?_⟩
  · rw [evaluate, read_spells hreadable htext]
    dsimp only [bind, Except.bind]
    rw [e.evaluate_toExpr hguards hpowers]
    cases e.value bindings with
    | error fault => rfl
    | ok n => rfl
  · rw [evaluate, read_spells_of_not_readable hreadable htext]
    rfl

/-- A text that is no numeral is the size that its expression denotes, if this is not negative. -/
theorem evaluateSize_spells (hreadable : e.IsReadable)
    (hguards : ∀ op, applicable bindings op = true) (hpowers : e.HasWholePowers bindings)
    (htext : Spells e.lexemes text.toList) (hliteral : literalSize? text = none) {n : Nat}
    (hvalue : e.value bindings = .ok n) : evaluateSize text bindings = .ok n := by
  have hevaluates : e.toExpr.evaluate bindings = .ok (.integer n) := by
    rw [e.evaluate_toExpr hguards hpowers, hvalue]
    rfl
  have hsize : (Value.integer n).toSize = .ok n := by
    rw [Value.toSize, if_neg (by omega)]
    rfl
  rw [evaluateSize, hliteral, evaluate, read_spells hreadable htext]
  dsimp only [bind, Except.bind]
  rw [hevaluates]
  exact hsize

end

/-- The square of the first byte with a sign before it, over a difference with the second. -/
def sampleQuotient : Arithmetic :=
  .binary .floorDivide (.unary .negate (.binary .power (.argument 0) (.literal 2)))
    (.binary .subtract (.literal 3) (.argument 1))

theorem spells_sampleQuotient :
    Spells sampleQuotient.lexemes " -ARG_00 ^ 2//(3 - ARG_01)".toList := by
  have hlexemes : sampleQuotient.lexemes = [.sign .negate, .argument 0, .operator .power,
      .numeral 2, .operator .floorDivide, .opening, .numeral 3, .operator .subtract,
      .argument 1, .closing] := by decide
  rw [hlexemes]
  refine .blank ?_
  refine .lexeme (s := "-") (by decide) ?_
  refine .lexeme (s := "ARG_00") (by decide) (.blank ?_)
  refine .lexeme (s := "^") (by decide) (.blank ?_)
  refine .lexeme (s := "2") (by decide) ?_
  refine .lexeme (s := "//") (by decide) ?_
  refine .lexeme (s := "(") (by decide) ?_
  refine .lexeme (s := "3") (by decide) (.blank ?_)
  refine .lexeme (s := "-") (by decide) (.blank ?_)
  refine .lexeme (s := "ARG_01") (by decide) ?_
  exact .lexeme (s := ")") (by decide) .done

theorem isReadable_sampleQuotient : sampleQuotient.IsReadable := ⟨by decide, by decide⟩

theorem wholePowers_sampleQuotient (bindings : Bindings) :
    sampleQuotient.HasWholePowers bindings := by
  refine ⟨⟨trivial, trivial, fun _ n hn => ?_⟩, ⟨trivial, trivial, nofun⟩, nofun⟩
  cases hn
  decide

theorem sampleQuotient_evaluates :
    Spells sampleQuotient.lexemes " -ARG_00 ^ 2//(3 - ARG_01)".toList ∧
      evaluate " -ARG_00 ^ 2//(3 - ARG_01)" (bindBytes [5, 7]) = .ok (.integer 6) := by
  refine ⟨spells_sampleQuotient, ?_⟩
  exact (evaluate_spells spells_sampleQuotient).1 isReadable_sampleQuotient
    (applicable_of_unbound fun _ => (bindsArguments_bindBytes [5, 7]).lookup_reserved)
    (wholePowers_sampleQuotient _)

/-! ### Deep expressions -/

/-- One less the difference before, as many times as asked for. -/
def nestedDifference : Nat → Arithmetic
  | 0 => .binary .subtract (.literal 1) (.literal 1)
  | depth + 1 => .binary .subtract (.literal 1) (nestedDifference depth)

/-- What stands behind a minus and is a difference itself needs its parentheses. -/
theorem nesting_nestedDifference (depth : Nat) : (nestedDifference depth).nesting = depth := by
  have hlevel : ∀ depth, (nestedDifference depth).level = IntegerOp.subtract.level
    | 0 => rfl
    | _ + 1 => rfl
  induction depth with
  | zero => rfl
  | succ depth ih =>
    rw [nestedDifference, Arithmetic.nesting, ih, hlevel]
    exact Nat.zero_max (depth + 1)

theorem value_nestedDifference (bindings : Bindings) (depth : Nat) :
    (nestedDifference depth).value bindings = .ok (depth % 2) := by
  induction depth with
  | zero => rfl
  | succ depth ih =>
    rw [nestedDifference, Arithmetic.value, ih]
    refine congrArg Except.ok ?_
    change (1 : Int) - depth % 2 = (depth + 1 : Nat) % 2
    omega

theorem wholePowers_nestedDifference (bindings : Bindings) (depth : Nat) :
    (nestedDifference depth).HasWholePowers bindings := by
  induction depth with
  | zero => exact ⟨trivial, trivial, nofun⟩
  | succ depth ih => exact ⟨trivial, ih, nofun⟩

theorem not_isReadable_nestedDifference [Host] {depth : Nat} (h : Token.maxNesting < depth) :
    ¬(nestedDifference depth).IsReadable := by
  intro hreadable
  have hnesting := hreadable.nesting
  rw [nesting_nestedDifference] at hnesting
  omega

/-- Two hundred parentheses may be open at one place, but no more. -/
theorem nestedDifference_unreadable :
    let e := nestedDifference 201
    let text := String.ofList (e.lexemes.flatMap fun l => l.text.toList)
    Spells e.lexemes text.toList ∧ e.HasWholePowers [] ∧
      (∀ op, applicable [] op = true) ∧ e.value [] = .ok 1 ∧
      evaluate text [] = .error .unreadable := by
  intro e text
  have htext : Spells e.lexemes text.toList := by
    rw [String.toList_ofList]
    exact spells_texts e.lexemes
  have hdeep : ¬e.IsReadable := not_isReadable_nestedDifference (by decide)
  refine ⟨htext, wholePowers_nestedDifference [] 201, applicable_of_unbound fun _ _ => rfl,
    value_nestedDifference [] 201, ?_⟩
  rw [evaluate, read_spells_of_not_readable hdeep htext]
  rfl

end GameAtlas.Expression
