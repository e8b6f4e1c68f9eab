import Mathlib.Tactic
import GameAtlas.Proofs.Expression.Spelling

/-!
Reading of arithmetic: an expression is written with parentheses only where the levels of its
operators demand them, and the grammar takes what is written for the expression. A level is read by
reading its first operand at the level above and then going on as long as operators of the level
follow, so that what is shown of an expression is told for every level.
-/

namespace GameAtlas.Expression

/-! ### How an expression is written -/

/-- How tightly an operator binds. The levels up to the fourth are those of `operationAt?`; between
them and powers stand the signs. -/
def IntegerOp.level : IntegerOp → Nat
  | .bitOr => 0
  | .bitAnd => 1
  | .shiftLeft | .shiftRight => 2
  | .add | .subtract => 3
  | .multiply | .floorDivide | .modulo => 4
  | .power => 6

/-- Signs bind tighter than all levels of operators. -/
def signLevel : Nat := operationLevels

/-- Nothing binds tighter than what has no operator outside of parentheses. -/
def atomLevel : Nat := 7

/-- The level from which a left operand stands without parentheses. -/
def IntegerOp.leftLevel (op : IntegerOp) : Nat := if op = .power then atomLevel else op.level

/-- Operators of one level associate to the left, but powers to the right; an exponent may start
with a sign. -/
def IntegerOp.rightLevel (op : IntegerOp) : Nat := if op = .power then signLevel else op.level + 1

/-- Lexemes in parentheses, if these are needed. -/
def enclose (needed : Bool) (lexemes : List Lexeme) : List Lexeme :=
  if needed then .opening :: (lexemes ++ [.closing]) else lexemes

namespace Arithmetic

def level : Arithmetic → Nat
  | .literal _ | .argument _ => atomLevel
  | .unary .. => signLevel
  | .binary op .. => op.level

/-- The lexemes of an expression. -/
def lexemes : Arithmetic → List Lexeme
  | .literal n => [.numeral n]
  | .argument index => [.argument index]
  | .unary op operand => .sign op :: enclose (operand.level < signLevel) operand.lexemes
  | .binary op left right =>
    enclose (left.level < op.leftLevel) left.lexemes ++
      .operator op :: enclose (right.level < op.rightLevel) right.lexemes

/-- The lexemes of an expression as an operand at a level. -/
def lexemesAt (level : Nat) (e : Arithmetic) : List Lexeme :=
  enclose (e.level < level) e.lexemes

/-- What the grammar takes an expression for. -/
def phrase : Arithmetic → Phrase
  | .literal n => .integer n
  | .argument index => .name (argumentName index)
  | .unary op operand => .unary op operand.phrase
  | .binary op left right => .binary op.binary left.phrase right.phrase

end Arithmetic

theorem Arithmetic.lexemesAt_of_le {e : Arithmetic} {level : Nat} (h : level ≤ e.level) :
    e.lexemesAt level = e.lexemes := by
  rw [lexemesAt, decide_eq_false (not_lt.mpr h)]
  rfl

theorem Arithmetic.lexemesAt_of_lt {e : Arithmetic} {level : Nat} (h : e.level < level) :
    e.lexemesAt level = enclose true e.lexemes := by
  rw [lexemesAt, decide_eq_true h]

theorem IntegerOp.level_lt {op : IntegerOp} (h : op ≠ .power) : op.level < signLevel := by
  cases op with
  | power => exact absurd rfl h
  | _ => decide

/-! ### Operands and operators take turns -/

/-- Lexemes that start and end as an operand does, with lexemes between that fit. -/
structure IsOperand (lexemes : List Lexeme) : Prop where
  ne_nil : lexemes ≠ []
  starts : ∀ l ∈ lexemes.head?, l.startsOperand = true
  ends : ∀ l ∈ lexemes.getLast?, l.endsOperand = true
  fits : lexemes.IsChain Lexeme.Fits

variable {lexemes left right : List Lexeme} {e : Arithmetic}

theorem isOperand_singleton {l : Lexeme} (hstarts : l.startsOperand = true)
    (hends : l.endsOperand = true) : IsOperand [l] :=
  ⟨by simp, by simpa using hstarts, by simpa using hends, .singleton l⟩

theorem IsOperand.cons {l : Lexeme} (hl : l.startsOperand = true) (hl' : l.endsOperand = false)
    (h : IsOperand lexemes) : IsOperand (l :: lexemes) where
  ne_nil := List.cons_ne_nil l lexemes
  starts := by simpa using hl
  ends := by
    rw [List.getLast?_cons_of_ne_nil h.ne_nil]
    exact h.ends
  fits := List.isChain_cons.mpr ⟨fun next hnext => by
    rw [Lexeme.Fits, h.starts next hnext, hl']
    rfl, h.fits⟩

theorem IsOperand.append_operator (hleft : IsOperand left) (op : IntegerOp)
    (hright : IsOperand right) : IsOperand (left ++ .operator op :: right) where
  ne_nil := by simp
  starts := by
    rw [List.head?_append_of_ne_nil _ hleft.ne_nil]
    exact hleft.starts
  ends := by
    rw [List.getLast?_append_of_ne_nil _ (List.cons_ne_nil _ _),
      List.getLast?_cons_of_ne_nil hright.ne_nil]
    exact hright.ends
  fits := by
    refine List.isChain_append.mpr ⟨hleft.fits, List.isChain_cons.mpr ⟨?_, hright.fits⟩, ?_⟩
    · exact fun next hnext => hright.starts next hnext
    · intro last hlast next hnext
      cases hnext
      rw [Lexeme.Fits, hleft.ends last hlast]
      rfl

theorem IsOperand.enclose (h : IsOperand lexemes) (needed : Bool) :
    IsOperand (enclose needed lexemes) := by
  cases needed with
  | false => exact h
  | true =>
    exact {
      ne_nil := List.cons_ne_nil _ _
      starts := by
        intro l hl
        cases hl
        rfl
      ends := by
        intro l hl
        change (Lexeme.opening :: lexemes ++ [Lexeme.closing]).getLast? = some l at hl
        rw [List.getLast?_append_of_ne_nil _ (List.cons_ne_nil _ _)] at hl
        cases hl
        rfl
      fits := by
        refine List.isChain_cons.mpr ⟨?_, List.isChain_append.mpr ⟨h.fits, .singleton _, ?_⟩⟩
        · intro next hnext
          rw [List.head?_append_of_ne_nil _ h.ne_nil] at hnext
          exact h.starts next hnext
        · intro last hlast next hnext
          cases hnext
          rw [Lexeme.Fits, h.ends last hlast]
          rfl }

theorem Arithmetic.isOperand_lexemes (e : Arithmetic) : IsOperand e.lexemes := by
  induction e with
  | literal n => exact isOperand_singleton rfl rfl
  | argument index => exact isOperand_singleton rfl rfl
  | unary op operand ih => exact (ih.enclose _).cons rfl rfl
  | binary op left right ihLeft ihRight =>
    exact (ihLeft.enclose _).append_operator op (ihRight.enclose _)

/-! ### What ends an operand -/

/-- Whether an operand of a level ends before the tokens: there are none, or they go on with a
closing parenthesis or a looser operator. -/
def Ends (level : Nat) (ts : List Token) : Prop :=
  ∀ t ∈ ts.head?, t = .symbol ")" ∨ ∃ op : IntegerOp, t = .symbol op.symbol ∧ op.level < level

variable {level fuel : Nat} {t : Token} {rest ts : List Token} {p : Phrase}

theorem ends_nil : Ends level [] := nofun

theorem ends_closing : Ends level (.symbol ")" :: rest) := by
  intro t ht
  cases ht
  exact .inl rfl

theorem ends_operator {op : IntegerOp} (h : op.level < level) :
    Ends level (.symbol op.symbol :: rest) := by
  intro t ht
  cases ht
  exact .inr ⟨op, rfl, h⟩

theorem Ends.mono (h : Ends level rest) {above : Nat} (hlevel : level ≤ above) :
    Ends above rest := by
  intro t ht
  refine (h t ht).imp_right fun ⟨op, hop, hlt⟩ => ⟨op, hop, hlt.trans_le hlevel⟩

/-- What a reader does at the end of its operand is to be shown for the three ways that it ends. -/
theorem Ends.cases (h : Ends level rest) {P : List Token → Prop} (hnil : P [])
    (hclosing : ∀ ts, P (.symbol ")" :: ts))
    (hoperator : ∀ op : IntegerOp, op.level < level → ∀ ts, P (.symbol op.symbol :: ts)) :
    P rest := by
  cases rest with
  | nil => exact hnil
  | cons t ts =>
    rcases h t rfl with rfl | ⟨op, rfl, hlt⟩
    · exact hclosing ts
    · exact hoperator op hlt ts

/-- No operator is looser than those of the first level. -/
theorem Ends.eq_closing (h : Ends 0 rest) : rest = [] ∨ ∃ ts, rest = .symbol ")" :: ts :=
  h.cases (P := fun rest => rest = [] ∨ ∃ ts, rest = .symbol ")" :: ts) (.inl rfl)
    (fun ts => .inr ⟨ts, rfl⟩) fun _ hop => absurd hop (Nat.not_lt_zero _)

theorem operationAt?_symbol {op : IntegerOp} (h : op ≠ .power) :
    operationAt? op.level (.symbol op.symbol) = some (.arithmetic op.binary) := by
  cases op with
  | power => exact absurd rfl h
  | _ => rfl

/-- At a level only operators of the level go on. -/
theorem operationAt?_ends (h : Ends level (t :: ts)) : operationAt? level t = none := by
  rcases h t rfl with rfl | ⟨op, rfl, hlt⟩
  · rcases level with _ | _ | _ | _ | _ | level <;> rfl
  · rcases level with _ | _ | _ | _ | _ | level <;> cases op <;>
      first | rfl | exact absurd hlt (by decide)

/-! ### Tokens of operands -/

/-- The tokens of lexemes. -/
def tokens (lexemes : List Lexeme) : List Token := lexemes.map Lexeme.token

/-- No keyword stands at the head. -/
def NoKeyword (ts : List Token) : Prop := ∀ word, ts.head? ≠ some (.keyword word)

theorem IsOperand.tokens_eq_cons (h : IsOperand lexemes) :
    ∃ l more, lexemes = l :: more ∧ l.startsOperand = true := by
  cases lexemes with
  | nil => exact absurd rfl h.ne_nil
  | cons l more => exact ⟨l, more, rfl, h.starts l rfl⟩

theorem noKeyword_tokens (h : IsOperand lexemes) : NoKeyword (tokens lexemes ++ rest) := by
  obtain ⟨l, more, rfl, -⟩ := h.tokens_eq_cons
  cases l <;> nofun

theorem isStarred_tokens (h : IsOperand lexemes) : isStarred (tokens lexemes ++ rest) = false := by
  obtain ⟨l, more, rfl, hl⟩ := h.tokens_eq_cons
  cases l with
  | operator op => cases hl
  | sign op => cases op <;> rfl
  | _ => rfl

theorem tokens_ne_closing (h : IsOperand lexemes) :
    tokens lexemes ++ rest ≠ .symbol ")" :: ts := by
  obtain ⟨l, more, rfl, hl⟩ := h.tokens_eq_cons
  cases l with
  | operator op => cases hl
  | closing => cases hl
  | sign op => cases op <;> simp [tokens, Lexeme.token, Lexeme.text, UnaryOp.symbol]
  | _ => simp [tokens, Lexeme.token, Lexeme.text]

/-- No lexeme assigns. -/
theorem isAssignment_tokens (h : IsOperand lexemes) :
    isAssignment (tokens lexemes ++ .symbol ")" :: rest) = false := by
  obtain ⟨l, more, rfl, -⟩ := h.tokens_eq_cons
  cases l with
  | argument index =>
    cases more with
    | nil => rfl
    | cons next more =>
      cases next with
      | operator op => cases op <;> rfl
      | sign op => cases op <;> rfl
      | _ => rfl
  | _ => rfl

/-! ### Readers at the end of an operand -/

variable [Host]

theorem trailers_ends (h : Ends level rest) : trailers (fuel + 1) p rest = some (p, rest) := by
  refine h.cases (P := fun rest => trailers (fuel + 1) p rest = some (p, rest)) rfl
    (fun _ => rfl) ?_
  intro op _ ts
  cases op <;> rfl

theorem comparisons_ends (h : Ends level rest) :
    comparisons (fuel + 1) p rest = some (p, rest) := by
  refine h.cases (P := fun rest => comparisons (fuel + 1) p rest = some (p, rest)) rfl
    (fun _ => rfl) ?_
  intro op _ ts
  cases op <;> rfl

theorem operations_ends (h : Ends level rest) :
    operations (fuel + 1) level p rest = some (p, rest) := by
  cases rest with
  | nil => rfl
  | cons t ts => rw [operations, operationAt?_ends h]

/-! ### Levels -/

/-- The lexemes are read as the expression at a level, with this much fuel. -/
def ReadsAt (level : Nat) (e : Arithmetic) (lexemes : List Lexeme) : Prop :=
  ∀ rest fuel, Ends level rest → 20 * lexemes.length + 10 ≤ fuel + level →
    operation fuel level (tokens lexemes ++ rest) = some (e.phrase, rest)

/-- At a level the lexemes are read as the expression, from which reading goes on; `spare` is the
fuel that this needs. -/
def ReadsOn (level : Nat) (e : Arithmetic) (lexemes : List Lexeme) : Prop :=
  ∀ rest result spare fuel, Ends (level + 1) rest →
    (∀ fuel, spare < fuel → operations fuel level e.phrase rest = some result) →
    spare + 20 * lexemes.length + 10 ≤ fuel + level →
    operation fuel level (tokens lexemes ++ rest) = some result

theorem ReadsAt.readsOn (h : ReadsAt (level + 1) e lexemes) (hlevel : level < signLevel) :
    ReadsOn level e lexemes := by
  intro rest result spare fuel hrest hon hfuel
  have hlevel' : level < 5 := hlevel
  obtain ⟨fuel, rfl⟩ := Nat.exists_eq_add_of_le' (show 1 ≤ fuel by omega)
  rw [operation, if_pos (show level < operationLevels from hlevel),
    h rest fuel hrest (by omega)]
  exact hon fuel (by omega)

theorem ReadsOn.readsAt (h : ReadsOn level e lexemes) : ReadsAt level e lexemes := by
  intro rest fuel hrest hfuel
  refine h rest _ 0 fuel (hrest.mono (Nat.le_succ level)) (fun fuel hfuel => ?_) (by omega)
  obtain ⟨fuel, rfl⟩ := Nat.exists_eq_add_of_le' hfuel
  exact operations_ends hrest

/-- What is read at a level is read at the looser ones. -/
theorem ReadsAt.of_le {above : Nat} (h : ReadsAt above e lexemes) (habove : above ≤ signLevel)
    (hlevel : level ≤ above) : ReadsAt level e lexemes := by
  induction above, hlevel using Nat.le_induction with
  | base => exact h
  | succ above _ ih =>
    exact ih (h.readsOn habove).readsAt (Nat.le_of_succ_le habove)

/-- An operation is read on from its left operand, which is read on at the same level. -/
theorem ReadsOn.binary {op : IntegerOp} {l r : Arithmetic} (hop : op ≠ .power)
    (hleft : ReadsOn op.level l left) (hright : ReadsAt (op.level + 1) r right) :
    ReadsOn op.level (.binary op l r) (left ++ .operator op :: right) := by
  intro rest result spare fuel hrest hon hfuel
  rw [List.length_append, List.length_cons] at hfuel
  have htokens : tokens (left ++ .operator op :: right) ++ rest =
      tokens left ++ .symbol op.symbol :: (tokens right ++ rest) := by
    simp [tokens, Lexeme.token, Lexeme.text]
  rw [htokens]
  refine hleft _ result (spare + 20 * right.length + 10) fuel (ends_operator (Nat.lt_succ_self _))
    (fun fuel hfuel => ?_) (by omega)
  obtain ⟨fuel, rfl⟩ := Nat.exists_eq_add_of_le' (Nat.one_le_of_lt hfuel)
  rw [operations, operationAt?_symbol hop]
  dsimp only [Option.bind_eq_bind]
  rw [hright rest fuel hrest (by omega)]
  exact hon fuel (by omega)

/-! ### Signs and powers -/

/-- The lexemes are read as the expression where signs may stand. -/
def ReadsSigned (e : Arithmetic) (lexemes : List Lexeme) : Prop :=
  ∀ rest fuel, Ends signLevel rest → 20 * lexemes.length + 4 ≤ fuel →
    signed fuel (tokens lexemes ++ rest) = some (e.phrase, rest)

/-- The lexemes start with no sign and are read as the expression where no operator may stand. -/
structure ReadsAtom (e : Arithmetic) (lexemes : List Lexeme) : Prop where
  unsigned : ∃ t ts, tokens lexemes = t :: ts ∧ signOf? t = none
  reads : ∀ rest fuel, Ends atomLevel rest → 20 * lexemes.length + 3 ≤ fuel →
    awaited fuel (tokens lexemes ++ rest) = some (e.phrase, rest)

theorem ReadsSigned.readsAt (h : ReadsSigned e lexemes) : ReadsAt signLevel e lexemes := by
  intro rest fuel hrest hfuel
  have hlevel : signLevel = 5 := rfl
  obtain ⟨fuel, rfl⟩ := Nat.exists_eq_add_of_le' (show 1 ≤ fuel by omega)
  rw [operation, if_neg (show ¬signLevel < operationLevels by decide)]
  exact h rest fuel hrest (by omega)

theorem ReadsSigned.unary {operand : Arithmetic} (op : UnaryOp)
    (h : ReadsSigned operand lexemes) :
    ReadsSigned (.unary op operand) (.sign op :: lexemes) := by
  intro rest fuel hrest hfuel
  rw [List.length_cons] at hfuel
  obtain ⟨fuel, rfl⟩ := Nat.exists_eq_add_of_le' (show 1 ≤ fuel by omega)
  have hsign : signOf? (Lexeme.sign op).token = some op := by cases op <;> rfl
  rw [tokens, List.map_cons, List.cons_append, signed, hsign]
  dsimp only [Option.bind_eq_bind]
  rw [← tokens, h rest fuel hrest (by omega)]
  rfl

/-- How the reading goes on behind an operand that has no sign before it. -/
def behindAtom (fuel : Nat) (p : Phrase) (ts : List Token) : Option (Phrase × List Token) :=
  match ts with
  | .symbol "**" :: ts => do
    let (exponent, ts) ← signed fuel ts
    some (.binary .power p exponent, ts)
  | _ => some (p, ts)

theorem signed_of_awaited (hsign : signOf? t = none)
    (hatom : awaited fuel (t :: ts) = some (p, rest)) :
    signed (fuel + 1) (t :: ts) = behindAtom fuel p rest := by
  rw [signed, hsign]
  dsimp only
  rw [hatom]
  rfl

theorem ReadsAtom.readsSigned (h : ReadsAtom e lexemes) : ReadsSigned e lexemes := by
  intro rest fuel hrest hfuel
  obtain ⟨t, ts, htokens, hsign⟩ := h.unsigned
  obtain ⟨fuel, rfl⟩ := Nat.exists_eq_add_of_le' (show 1 ≤ fuel by omega)
  have hatom := h.reads rest fuel (hrest.mono (by decide)) (by omega)
  rw [htokens, List.cons_append] at hatom ⊢
  rw [signed_of_awaited hsign hatom]
  refine hrest.cases (P := fun rest => behindAtom fuel e.phrase rest = some (e.phrase, rest)) rfl
    (fun _ => rfl) ?_
  intro op hlt ts
  cases op with
  | power => exact absurd hlt (by decide)
  | _ => rfl

theorem ReadsAtom.power {base exponent : Arithmetic} (hbase : ReadsAtom base left)
    (hexponent : ReadsSigned exponent right) :
    ReadsSigned (.binary .power base exponent) (left ++ .operator .power :: right) := by
  intro rest fuel hrest hfuel
  rw [List.length_append, List.length_cons] at hfuel
  obtain ⟨t, ts, htokens, hsign⟩ := hbase.unsigned
  obtain ⟨fuel, rfl⟩ := Nat.exists_eq_add_of_le' (show 1 ≤ fuel by omega)
  have hatom := hbase.reads (.symbol "**" :: (tokens right ++ rest)) fuel
    (ends_operator (show IntegerOp.power.level < atomLevel by decide)) (by omega)
  have htokens' : tokens (left ++ .operator .power :: right) ++ rest =
      tokens left ++ .symbol "**" :: (tokens right ++ rest) := by
    simp [tokens, Lexeme.token, Lexeme.text, IntegerOp.symbol]
  rw [htokens', htokens, List.cons_append]
  rw [htokens, List.cons_append] at hatom
  rw [signed_of_awaited hsign hatom, behindAtom, hexponent rest fuel hrest (by omega)]
  rfl

/-! ### Operands without operators -/

theorem awaited_of_atom (hatom : atom (fuel + 1) ts = some (p, rest)) (hrest : Ends level rest)
    (hts : NoKeyword ts) : awaited (fuel + 3) ts = some (p, rest) := by
  have hprimary : primary (fuel + 2) ts = some (p, rest) := by
    rw [primary, hatom]
    exact trailers_ends hrest
  rw [awaited]
  · exact hprimary
  · exact fun _ heq => hts "await" (by rw [heq]; rfl)

theorem readsAtom_literal (n : Nat) : ReadsAtom (.literal n) [.numeral n] where
  unsigned := ⟨_, _, rfl, rfl⟩
  reads := by
    intro rest fuel hrest hfuel
    obtain ⟨fuel, rfl⟩ := Nat.exists_eq_add_of_le' (show 3 ≤ fuel by simp at hfuel; omega)
    exact awaited_of_atom rfl hrest nofun

theorem readsAtom_argument (index : Nat) : ReadsAtom (.argument index) [.argument index] where
  unsigned := ⟨_, _, rfl, rfl⟩
  reads := by
    intro rest fuel hrest hfuel
    obtain ⟨fuel, rfl⟩ := Nat.exists_eq_add_of_le' (show 3 ≤ fuel by simp at hfuel; omega)
    exact awaited_of_atom rfl hrest nofun

/-- At the end of an operation a whole expression ends. -/
theorem expression_of_operation (h : operation (fuel + 1) 0 ts = some (p, rest))
    (hrest : Ends 0 rest) (hts : NoKeyword ts) : expression (fuel + 5) ts = some (p, rest) := by
  have hinversion : inversion (fuel + 2) ts = some (p, rest) := by
    rw [inversion, h]
    · exact comparisons_ends hrest
    · exact fun _ heq => hts "not" (by rw [heq]; rfl)
  have hconjunction : conjunction (fuel + 3) ts = some (p, rest) := by
    rw [conjunction, hinversion]
    rcases hrest.eq_closing with rfl | ⟨more, rfl⟩ <;> rfl
  have hdisjunction : disjunction (fuel + 4) ts = some (p, rest) := by
    rw [disjunction, hconjunction]
    rcases hrest.eq_closing with rfl | ⟨more, rfl⟩ <;> rfl
  rw [expression, hdisjunction]
  · rcases hrest.eq_closing with rfl | ⟨more, rfl⟩ <;> rfl
  · exact fun _ heq => hts "lambda" (by rw [heq]; rfl)

theorem parenthesized_of_operation
    (h : operation (fuel + 1) 0 ts = some (p, .symbol ")" :: rest)) (hts : NoKeyword ts)
    (hstar : isStarred ts = false) (hassigned : isAssignment ts = false)
    (hclosing : ∀ ts', ts ≠ .symbol ")" :: ts') :
    parenthesized (fuel + 8) ts = some (p, rest) := by
  have hnamed : named (fuel + 6) ts = some (p, .symbol ")" :: rest) := by
    rw [named]
    · exact expression_of_operation h ends_closing hts
    · intro name ts' heq
      rw [heq] at hassigned
      cases hassigned
  have hstarred : starredOr (fuel + 7) ts = some (p, .symbol ")" :: rest) := by
    rw [starredOr]
    · exact hnamed
    · intro ts' heq
      rw [heq] at hstar
      cases hstar
  rw [parenthesized, hstarred]
  · dsimp only [Option.bind_eq_bind, Option.bind_some]
    rw [hstar]
    rfl
  · exact hclosing
  · exact fun _ heq => hts "yield" (by rw [heq]; rfl)

/-! ### Parentheses -/

/-- In parentheses an expression of any level is an operand. -/
theorem ReadsAt.readsAtom (h : ReadsAt 0 e lexemes) (hlexemes : IsOperand lexemes) :
    ReadsAtom e (enclose true lexemes) where
  unsigned := ⟨_, _, rfl, rfl⟩
  reads := by
    intro rest fuel hrest hfuel
    have htokens : tokens (enclose true lexemes) ++ rest =
        .symbol "(" :: (tokens lexemes ++ .symbol ")" :: rest) := by
      simp [tokens, enclose, Lexeme.token, Lexeme.text]
    have hlength : (enclose true lexemes).length = lexemes.length + 2 := by
      simp [enclose]
    obtain ⟨fuel, rfl⟩ := Nat.exists_eq_add_of_le' (show 11 ≤ fuel by omega)
    rw [htokens]
    have hinside := parenthesized_of_operation
      (h (.symbol ")" :: rest) (fuel + 1) ends_closing (by omega)) (noKeyword_tokens hlexemes)
      (isStarred_tokens hlexemes) (isAssignment_tokens hlexemes)
      (fun _ => tokens_ne_closing hlexemes)
    have hatom : atom (fuel + 8 + 1) (.symbol "(" :: (tokens lexemes ++ .symbol ")" :: rest)) =
        some (e.phrase, rest) := hinside
    refine awaited_of_atom hatom hrest ?_
    intro word hword
    cases hword

/-! ### Every level -/

/-- An expression is read wherever its operand may stand. -/
structure Reads (e : Arithmetic) : Prop where
  at_level : ∀ level ≤ signLevel, ReadsAt level e (e.lexemesAt level)
  on_level : ∀ level < signLevel, ReadsOn level e (e.lexemesAt level)
  signed : ReadsSigned e (e.lexemesAt signLevel)
  atom : ReadsAtom e (e.lexemesAt atomLevel)

/-- It is enough to read what an expression is without parentheses at its own level: at the looser
levels that is what is read, and at the tighter ones it stands in parentheses. -/
theorem reads_of_bare (hon : e.level < signLevel → ReadsOn e.level e e.lexemes)
    (hsigned : signLevel ≤ e.level → ReadsSigned e e.lexemes)
    (hatom : atomLevel ≤ e.level → ReadsAtom e e.lexemes) : Reads e := by
  have hbare : ∀ level ≤ signLevel, level ≤ e.level → ReadsAt level e e.lexemes := by
    intro level hlevel hle
    rcases lt_or_ge e.level signLevel with hlt | hge
    · exact (hon hlt).readsAt.of_le hlt.le hle
    · exact (hsigned hge).readsAt.of_le (le_refl _) hlevel
  have henclosed : ReadsAtom e (enclose true e.lexemes) :=
    (hbare 0 (Nat.zero_le _) (Nat.zero_le _)).readsAtom e.isOperand_lexemes
  have hat : ∀ level ≤ signLevel, ReadsAt level e (e.lexemesAt level) := by
    intro level hlevel
    rcases lt_or_ge e.level level with hlt | hge
    · rw [Arithmetic.lexemesAt_of_lt hlt]
      exact henclosed.readsSigned.readsAt.of_le (le_refl _) hlevel
    · rw [Arithmetic.lexemesAt_of_le hge]
      exact hbare level hlevel hge
  refine ⟨hat, fun level hlevel => ?_, ?_, ?_⟩
  · by_cases hown : level = e.level
    · rw [Arithmetic.lexemesAt_of_le hown.le, hown]
      exact hon (hown ▸ hlevel)
    · have hsame : e.lexemesAt level = e.lexemesAt (level + 1) := by
        rw [Arithmetic.lexemesAt, Arithmetic.lexemesAt]
        congr 1
        exact decide_eq_decide.mpr ⟨fun h => by omega, fun h => by omega⟩
      rw [hsame]
      exact (hat (level + 1) hlevel).readsOn hlevel
  · rcases lt_or_ge e.level signLevel with hlt | hge
    · rw [Arithmetic.lexemesAt_of_lt hlt]
      exact henclosed.readsSigned
    · rw [Arithmetic.lexemesAt_of_le hge]
      exact hsigned hge
  · rcases lt_or_ge e.level atomLevel with hlt | hge
    · rw [Arithmetic.lexemesAt_of_lt hlt]
      exact henclosed
    · rw [Arithmetic.lexemesAt_of_le hge]
      exact hatom hge

/-- What is written for an expression is read as the expression. The induction is on the
expression: each operand is read at the level that its place demands. -/
theorem Arithmetic.reads (e : Arithmetic) : Reads e := by
  have hatomSign : ¬atomLevel < signLevel := by decide
  have hsignAtom : ¬atomLevel ≤ signLevel := by decide
  induction e with
  | literal n =>
    have hatom := readsAtom_literal n
    exact reads_of_bare (fun h => absurd h hatomSign) (fun _ => hatom.readsSigned) fun _ => hatom
  | argument index =>
    have hatom := readsAtom_argument index
    exact reads_of_bare (fun h => absurd h hatomSign) (fun _ => hatom.readsSigned) fun _ => hatom
  | unary op operand ih =>
    exact reads_of_bare (fun h => absurd h (lt_irrefl _)) (fun _ => ih.signed.unary op)
      fun h => absurd h hsignAtom
  | binary op left right ihLeft ihRight =>
    by_cases hop : op = .power
    · subst hop
      have hpowerSign : ¬IntegerOp.power.level < signLevel := by decide
      have hpowerAtom : ¬atomLevel ≤ IntegerOp.power.level := by decide
      exact reads_of_bare (fun h => absurd h hpowerSign)
        (fun _ => ihLeft.atom.power ihRight.signed) fun h => absurd h hpowerAtom
    · have hlevel := IntegerOp.level_lt hop
      have hleft : op.leftLevel = op.level := if_neg hop
      have hright : op.rightLevel = op.level + 1 := if_neg hop
      have hlexemes : (binary op left right).lexemes =
          left.lexemesAt op.level ++ .operator op :: right.lexemesAt (op.level + 1) := by
        rw [← hright, ← hleft]
        rfl
      refine reads_of_bare (fun _ => ?_) (fun h => absurd h (not_le.mpr hlevel))
        fun h => absurd (hlevel.trans_le (by decide : signLevel ≤ atomLevel)) (not_lt.mpr h)
      rw [hlexemes]
      exact (ihLeft.on_level op.level hlevel).binary hop (ihRight.at_level _ hlevel)

end GameAtlas.Expression
