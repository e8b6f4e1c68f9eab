import Mathlib.Data.Bool.AllAny
import Mathlib.Data.List.DropRight
import Mathlib.Tactic
import GameAtlas.Proofs.Expression.Arithmetic
import GameAtlas.Proofs.Text.Numeral

/-!
Texts of arithmetic: the symbols of an expression, the texts that spell them with any blanks in
between, and the tokens that are read off such a text.
-/

namespace GameAtlas.Expression

/-! ### Symbols -/

/-- The symbol of an operator. -/
def IntegerOp.symbol : IntegerOp → String
  | .bitOr => "|"
  | .bitAnd => "&"
  | .shiftLeft => "<<"
  | .shiftRight => ">>"
  | .add => "+"
  | .subtract => "-"
  | .multiply => "*"
  | .floorDivide => "//"
  | .modulo => "%"
  | .power => "**"

def UnaryOp.symbol : UnaryOp → String
  | .negate => "-"
  | .plus => "+"
  | .invert => "~"

/-- What an expression is written with. -/
inductive Lexeme where
  | numeral (n : Nat)
  | argument (index : Nat)
  | operator (op : IntegerOp)
  | sign (op : UnaryOp)
  | opening
  | closing
deriving DecidableEq, Repr

namespace Lexeme

/-- The text of a lexeme; a power has another one. -/
def text : Lexeme → String
  | .numeral n => toString n
  | .argument index => argumentName index
  | .operator op => op.symbol
  | .sign op => op.symbol
  | .opening => "("
  | .closing => ")"

/-- A power is written with two asterisks or with a caret. -/
def spellings (l : Lexeme) : List String :=
  if l = .operator .power then [l.text, "^"] else [l.text]

def token : Lexeme → Token
  | .numeral n => .integer n
  | .argument index => .name (argumentName index)
  | l => .symbol l.text

/-- Whether an operand ends with the lexeme, so that an operator or the end follows. -/
def endsOperand : Lexeme → Bool
  | .numeral _ | .argument _ | .closing => true
  | _ => false

def startsOperand : Lexeme → Bool
  | .operator _ | .closing => false
  | _ => true

/-- Whether one lexeme may stand behind another: operands and operators take turns. -/
def Fits (l next : Lexeme) : Prop := next.startsOperand = !l.endsOperand

end Lexeme

/-- A text that spells lexemes, with any number of blanks before, between and behind them. -/
inductive Spells : List Lexeme → List Char → Prop where
  | done : Spells [] []
  | blank {lexemes : List Lexeme} {cs : List Char} : Spells lexemes cs → Spells lexemes (' ' :: cs)
  | lexeme {l : Lexeme} {lexemes : List Lexeme} {s : String} {cs : List Char} :
      s ∈ l.spellings → Spells lexemes cs → Spells (l :: lexemes) (s.toList ++ cs)

variable {lexemes : List Lexeme} {cs : List Char} {l : Lexeme} {s : String}

/-- Any lexemes can be spelled, if only without blanks. -/
theorem spells_texts (lexemes : List Lexeme) :
    Spells lexemes (lexemes.flatMap fun l => l.text.toList) := by
  induction lexemes with
  | nil => exact .done
  | cons l lexemes ih =>
    refine .lexeme ?_ ih
    unfold Lexeme.spellings
    split
    · exact List.mem_cons_self
    · exact List.mem_singleton_self _

/-! ### Characters -/

def digits : List Char := "0123456789".toList

/-- What names of bytes are made of. -/
def nameCharacters : List Char := "ARG_".toList ++ digits

/-- Every character but the blank that a text is spelled with. -/
def alphabet : List Char := nameCharacters ++ "|&<>+-*/%~()^".toList

theorem mem_digits_of_isDigit {c : Char} (h : c.isDigit = true) : c ∈ digits := by
  rw [Char.isDigit, Bool.and_eq_true, decide_eq_true_iff, decide_eq_true_iff] at h
  have hlow : 48 ≤ c.toNat := h.1
  have hhigh : c.toNat ≤ 57 := h.2
  rw [← Char.ofNat_toNat c]
  generalize c.toNat = n at hlow hhigh ⊢
  interval_cases n <;> decide

theorem mem_digits_of_mem_toString {n : Nat} {c : Char} (h : c ∈ (toString n).toList) :
    c ∈ digits := by
  rw [Nat.toString_eq_repr, Nat.toList_repr] at h
  exact mem_digits_of_isDigit (Nat.isDigit_of_mem_toDigits (by omega) (le_refl 10) h)

theorem mem_argumentName {i : Nat} {c : Char} (h : c ∈ (argumentName i).toList) :
    c ∈ nameCharacters := by
  rw [argumentName_toList, List.mem_append] at h
  refine List.mem_append.mpr (h.imp_right fun hnumber => ?_)
  rw [Text.padLeft, String.toList_append, String.toList_ofList, List.mem_append] at hnumber
  rcases hnumber with hzero | hdigit
  · rw [List.eq_of_mem_replicate hzero]
    decide
  · exact mem_digits_of_mem_toString hdigit

/-- A lexeme is spelled by its text, but for a power that is spelled with a caret. -/
theorem Lexeme.mem_spellings (hs : s ∈ l.spellings) :
    s = l.text ∨ (l = .operator .power ∧ s = "^") := by
  unfold spellings at hs
  split at hs
  · next hpower =>
    rcases List.mem_pair.mp hs with rfl | rfl
    · exact .inl rfl
    · exact .inr ⟨hpower, rfl⟩
  · exact .inl (List.mem_singleton.mp hs)

theorem Lexeme.mem_text {c : Char} (hc : c ∈ l.text.toList) : c ∈ alphabet ∧ c ≠ '^' := by
  have hsymbol {symbols : List Char}
      (hsymbols : (symbols.all fun c => c ∈ alphabet ∧ c ≠ '^') = true)
      (hc : c ∈ symbols) : c ∈ alphabet ∧ c ≠ '^' :=
    List.all_iff_forall_prop.mp hsymbols c hc
  cases l with
  | numeral n => exact hsymbol (by decide) (mem_digits_of_mem_toString hc)
  | argument index => exact hsymbol (by decide) (mem_argumentName hc)
  | operator op => cases op <;> exact hsymbol (by decide) hc
  | sign op => cases op <;> exact hsymbol (by decide) hc
  | opening => exact hsymbol (by decide) hc
  | closing => exact hsymbol (by decide) hc

theorem Lexeme.mem_spelling (hs : s ∈ l.spellings) {c : Char} (hc : c ∈ s.toList) :
    c ∈ alphabet := by
  rcases mem_spellings hs with rfl | ⟨_, rfl⟩
  · exact (mem_text hc).1
  · rw [List.mem_singleton.mp hc]
    decide

theorem Lexeme.text_ne_nil : l.text.toList ≠ [] := by
  cases l with
  | numeral n =>
    rw [text, Nat.toString_eq_repr, Nat.toList_repr]
    exact Nat.toDigits_ne_nil
  | argument index =>
    rw [text, argumentName_toList]
    exact List.append_ne_nil_of_left_ne_nil (by decide) _
  | operator op => cases op <;> decide
  | sign op => cases op <;> decide
  | opening | closing => decide

theorem Lexeme.spelling_ne_nil (hs : s ∈ l.spellings) : s.toList ≠ [] := by
  rcases mem_spellings hs with rfl | ⟨_, rfl⟩
  · exact text_ne_nil
  · decide

theorem isBlank_of_mem_alphabet : ∀ c ∈ alphabet, Text.isBlank c = false :=
  -- the list is run through, and not all characters that there are
  List.all_iff_forall_prop.mp (by decide)

theorem Spells.mem (h : Spells lexemes cs) : ∀ c ∈ cs, c = ' ' ∨ c ∈ alphabet := by
  induction h with
  | done => nofun
  | blank _ ih => exact List.forall_mem_cons.mpr ⟨.inl rfl, ih⟩
  | lexeme hs _ ih =>
    exact List.forall_mem_append.mpr ⟨fun c hc => .inr (Lexeme.mem_spelling hs hc), ih⟩

theorem Spells.length_le (h : Spells lexemes cs) : lexemes.length ≤ cs.length := by
  induction h with
  | done => exact le_refl 0
  | blank _ ih => exact Nat.le_succ_of_le ih
  | @lexeme l lexemes s cs hs _ ih =>
    have hs := List.length_pos_iff.mpr (Lexeme.spelling_ne_nil hs)
    rw [List.length_append, List.length_cons]
    omega

/-! ### From the text to what is scanned -/

theorem spellPowers_append (cs ds : List Char) :
    spellPowers (cs ++ ds) = spellPowers cs ++ spellPowers ds := by
  induction cs with
  | nil => rfl
  | cons c cs ih => rw [List.cons_append, spellPowers, ih, spellPowers, List.append_assoc]

theorem spellPowers_eq_self (h : '^' ∉ cs) : spellPowers cs = cs := by
  induction cs with
  | nil => rfl
  | cons c cs ih =>
    rw [List.mem_cons, not_or] at h
    rw [spellPowers, ih h.2, if_neg (by simpa using Ne.symm h.1)]
    rfl

theorem not_mem_spellPowers (cs : List Char) : '^' ∉ spellPowers cs := by
  induction cs with
  | nil => nofun
  | cons c cs ih =>
    rw [spellPowers, List.mem_append, not_or]
    refine ⟨?_, ih⟩
    split
    · decide
    · next hc => simpa using Ne.symm (by simpa using hc)

/-- With asterisks in place of carets a text spells the same. -/
theorem Spells.spellPowers (h : Spells lexemes cs) : Spells lexemes (spellPowers cs) := by
  induction h with
  | done => exact .done
  | blank _ ih => exact ih.blank
  | @lexeme l lexemes s cs hs _ ih =>
    rw [spellPowers_append]
    rcases Lexeme.mem_spellings hs with rfl | ⟨rfl, rfl⟩
    · rw [spellPowers_eq_self fun hc => (Lexeme.mem_text hc).2 rfl]
      exact ih.lexeme hs
    · exact ih.lexeme (s := "**") (by decide)

theorem Spells.dropWhile (h : Spells lexemes cs) :
    Spells lexemes (cs.dropWhile Text.isBlank) := by
  induction h with
  | done => exact .done
  | blank _ ih => exact ih
  | @lexeme l lexemes s cs hs h _ =>
    have hkept : (s.toList ++ cs).dropWhile Text.isBlank = s.toList ++ cs := by
      cases hlist : s.toList with
      | nil => exact absurd hlist (Lexeme.spelling_ne_nil hs)
      | cons c rest =>
        have hc := isBlank_of_mem_alphabet c (Lexeme.mem_spelling hs (by simp [hlist]))
        simp [hc]
    rw [hkept]
    exact h.lexeme hs

theorem rdropWhile_append {p : Char → Bool} (cs ds : List Char) :
    (cs ++ ds).rdropWhile p =
      if (ds.rdropWhile p).isEmpty then cs.rdropWhile p else cs ++ ds.rdropWhile p := by
  simp only [List.rdropWhile, List.reverse_append, List.dropWhile_append, List.isEmpty_reverse]
  split
  · rfl
  · rw [List.reverse_append, List.reverse_reverse]

theorem Spells.rdropWhile (h : Spells lexemes cs) :
    Spells lexemes (cs.rdropWhile Text.isBlank) := by
  induction h with
  | done => exact .done
  | @blank lexemes cs _ ih =>
    rw [← List.singleton_append, rdropWhile_append]
    split
    · next hempty =>
      rw [List.isEmpty_iff.mp hempty] at ih
      exact ih
    · exact ih.blank
  | @lexeme l lexemes s cs hs _ ih =>
    rw [rdropWhile_append]
    split
    · next hempty =>
      have hkept : s.toList.rdropWhile Text.isBlank = s.toList := by
        rw [List.rdropWhile_eq_self_iff]
        intro hne
        rw [isBlank_of_mem_alphabet _ (Lexeme.mem_spelling hs (List.getLast_mem hne))]
        decide
      rw [List.isEmpty_iff.mp hempty] at ih
      rw [hkept, ← List.append_nil s.toList]
      exact ih.lexeme hs
    · exact ih.lexeme hs

theorem Spells.trimWith (h : Spells lexemes cs) :
    Spells lexemes (Text.trimWith Text.isBlank cs) := h.dropWhile.rdropWhile

/-! ### One token -/

section

open Token

/-- What may stand directly behind an operand. -/
def operandEnds : List Char := " |&<>+-*/%)".toList

theorem digitRun?_append {ds : List Char} (hds : ∀ c ∈ ds, c.isDigit = true)
    (hcs : ∀ c ∈ cs.head?, c ∈ operandEnds) :
    digitRun? Char.isDigit (ds ++ cs) = some (ds, cs) := by
  induction ds with
  | nil =>
    cases cs with
    | nil => rfl
    | cons c cs =>
      have hc : ∀ c ∈ operandEnds, c.isDigit = false ∧ c ≠ '_' :=
        List.all_iff_forall_prop.mp (by decide)
      obtain ⟨hdigit, hmark⟩ := hc c (hcs c rfl)
      rw [List.nil_append, digitRun?, hdigit]
      · rfl
      · exact fun _ _ h _ => hmark h
      · exact fun h _ => hmark h
  | cons d ds ih =>
    rw [List.forall_mem_cons] at hds
    have hmark : d ≠ '_' := by
      rintro rfl
      exact absurd hds.1 (by decide)
    rw [List.cons_append, digitRun?, if_pos hds.1, ih hds.2]
    · rfl
    · exact fun _ _ h _ => hmark h
    · exact fun h _ => hmark h

theorem numberEnds_of_head (hcs : ∀ c ∈ cs.head?, c ∈ operandEnds) : numberEnds cs = true := by
  rw [numberEnds.eq_def, Bool.or_eq_true]
  refine .inr ?_
  cases cs with
  | nil => rfl
  | cons c cs =>
    have hc : ∀ c ∈ operandEnds, (!isWordChar c) = true :=
      List.all_iff_forall_prop.mp (by decide)
    exact hc c (hcs c rfl)

theorem digitsValue_toDigits (n : Nat) : Decimal.digitsValue (Nat.toDigits 10 n) = n := by
  have hvalue := Nat.ofDigitChars_ten_toDigits (n := n)
  rw [Nat.ofDigitChars_eq_foldl] at hvalue
  rw [Decimal.digitsValue]
  simpa only [Nat.mul_comm 10] using hvalue

/-- A numeral starts with zero only if it is zero. -/
theorem eq_zero_of_toDigits {n : Nat} {ds : List Char} (h : Nat.toDigits 10 n = '0' :: ds) :
    n = 0 := by
  by_contra hn
  obtain ⟨d, rest, hpos, hlt, hdigits⟩ :=
    Text.capitalDigits_cons (b := 10) (by omega) (Nat.pos_of_ne_zero hn)
  rw [Text.capitalDigits_ten, Nat.toList_repr, h] at hdigits
  have hzero := Text.capitalDigit_eq_zero d (by omega) (List.cons.inj hdigits).1.symm
  omega

theorem toDigits_eq_zero_cons {n : Nat} {ds : List Char} (h : Nat.toDigits 10 n = '0' :: ds) :
    ds = [] := by
  obtain rfl := eq_zero_of_toDigits h
  rw [Nat.toDigits_zero] at h
  exact (List.cons.inj h).2.symm

theorem head?_toDigits (n : Nat) : ((Nat.toDigits 10 n).head? == some '0') = (n == 0) := by
  rw [Bool.eq_iff_iff, beq_iff_eq, beq_iff_eq]
  constructor
  · intro h
    obtain ⟨ds, hds⟩ := List.head?_eq_some_iff.mp h
    exact eq_zero_of_toDigits hds
  · rintro rfl
    rfl

theorem isIdentifier_argumentName (i : Nat) :
    Text.isIdentifier (argumentName i).toList = true := by
  have hcontinue : ∀ c ∈ nameCharacters, Text.isIdentifierContinue c = true :=
    List.all_iff_forall_prop.mp (by decide)
  have hfirst := head?_argumentName i
  have hrest : ∀ c ∈ (argumentName i).toList, Text.isIdentifierContinue c = true := fun c hc =>
    hcontinue c (mem_argumentName hc)
  cases hname : (argumentName i).toList with
  | nil =>
    rw [hname] at hfirst
    cases hfirst
  | cons c rest =>
    rw [hname] at hfirst hrest
    rw [Text.isIdentifier, Bool.and_eq_true, List.all_eq_true]
    refine ⟨?_, fun d hd => hrest d (List.mem_cons_of_mem c hd)⟩
    rw [Option.some.inj hfirst]
    rfl

theorem normalize_argumentName (i : Nat) :
    Text.normalize (argumentName i) = argumentName i := by
  have hascii : ∀ c ∈ nameCharacters, c.toNat < 0x80 :=
    List.all_iff_forall_prop.mp (by decide)
  rw [Text.normalize, if_pos]
  exact List.all_eq_true.mpr fun c hc => decide_eq_true (hascii c (mem_argumentName hc))

/-- No keyword starts as the names of bytes do. -/
theorem argumentName_not_keyword (i : Nat) : keywords.contains (argumentName i) = false := by
  have hkeywords : ∀ word ∈ keywords, word.toList.head? ≠ some 'A' := by decide
  rw [← Bool.not_eq_true, List.contains_iff_mem]
  exact fun hmem => hkeywords _ hmem (head?_argumentName i)

theorem word?_argument (i : Nat) (hcs : ∀ c ∈ cs.head?, c ∈ operandEnds) :
    word? ((argumentName i).toList ++ cs) = some (.name (argumentName i), cs) := by
  have hword : ∀ c ∈ (argumentName i).toList, isWordChar c = true := by
    have hnames : ∀ c ∈ nameCharacters, isWordChar c = true :=
      List.all_iff_forall_prop.mp (by decide)
    exact fun c hc => hnames c (mem_argumentName hc)
  have hends : ∀ c ∈ operandEnds, isWordChar c = false ∧ isQuote c = false :=
    List.all_iff_forall_prop.mp (by decide)
  have htake : cs.takeWhile isWordChar = [] := by
    cases cs with
    | nil => rfl
    | cons c cs => rw [List.takeWhile_cons, (hends c (hcs c rfl)).1]; rfl
  have hdrop : cs.dropWhile isWordChar = cs := by
    cases cs with
    | nil => rfl
    | cons c cs => rw [List.dropWhile_cons, (hends c (hcs c rfl)).1]; rfl
  have hnamed : word?.named (argumentName i).toList cs = some (.name (argumentName i), cs) := by
    rw [word?.named, String.ofList_toList, argumentName_not_keyword, isIdentifier_argumentName,
      normalize_argumentName]
    rfl
  rw [word?, List.takeWhile_append_of_pos hword, List.dropWhile_append_of_pos hword, htake, hdrop,
    List.append_nil]
  split
  · next quote more marks hmarks =>
    rw [if_neg (by rw [(hends quote (hcs quote rfl)).2]; decide)]
    exact hnamed
  · exact hnamed

/-! ### Symbols -/

/-- What may stand directly behind an operator. -/
def operatorEnds : List Char := " +-~(A".toList ++ digits

theorem isPrefixOf_append {ds es : List Char} (h : ∀ c ∈ cs.head?, ds[es.length]? ≠ some c) :
    ds.isPrefixOf (es ++ cs) = ds.isPrefixOf es := by
  induction es generalizing ds with
  | nil =>
    cases ds with
    | nil => rfl
    | cons d ds =>
      cases cs with
      | nil => rfl
      | cons c cs =>
        have hne : d ≠ c := fun heq => h c rfl (by rw [heq]; rfl)
        simp [List.isPrefixOf, hne]
  | cons e es ih =>
    cases ds with
    | nil => rfl
    | cons d ds => rw [List.cons_append, List.isPrefixOf, List.isPrefixOf, ih h]

/-- A symbol is taken as it is if no longer symbol goes on as the text does. -/
theorem symbol?_append (h : ∀ t ∈ longSymbols, ∀ c ∈ cs.head?, t.toList[s.toList.length]? ≠ some c)
    (hs : symbol? s.toList = some (.symbol s, [])) :
    symbol? (s.toList ++ cs) = some (.symbol s, cs) := by
  have hfind : longSymbols.find? (startsWith · (s.toList ++ cs)) =
      longSymbols.find? (startsWith · s.toList) :=
    List.find?_congr fun t ht => isPrefixOf_append (h t ht)
  rw [symbol?.eq_def] at hs ⊢
  rw [hfind]
  cases hlong : longSymbols.find? (startsWith · s.toList) with
  | some t =>
    rw [hlong] at hs
    obtain ⟨htoken, hrest⟩ := Prod.mk.inj (Option.some.inj hs)
    rw [Token.symbol.inj htoken]
    dsimp only
    rw [← String.length_toList, List.drop_left]
  | none =>
    rw [hlong] at hs
    cases hlist : s.toList with
    | nil =>
      rw [hlist] at hs
      cases hs
    | cons c rest =>
      rw [hlist] at hs
      dsimp only [List.cons_append] at hs ⊢
      split at hs
      · next hshort =>
        obtain ⟨htoken, hrest⟩ := Prod.mk.inj (Option.some.inj hs)
        rw [if_pos hshort, htoken, hrest, List.nil_append]
      · cases hs

/-- No symbol goes on with what may stand behind an operator. -/
theorem longSymbols_apart : ∀ t ∈ longSymbols, ∀ k ∈ [1, 2], ∀ c ∈ operatorEnds,
    t.toList[k]? ≠ some c := by
  have hall : ∀ t ∈ longSymbols, ∀ k ∈ [1, 2],
      (operatorEnds.all fun c => t.toList[k]? ≠ some c) = true := by
    decide
  exact fun t ht k hk => List.all_iff_forall_prop.mp (hall t ht k hk)

/-! ### What stands where -/

/-- What may stand directly behind a lexeme that ends an operand or does not. -/
def follow (operand : Bool) : List Char := if operand then operandEnds else operatorEnds

theorem Lexeme.head?_text : ∀ c ∈ l.text.toList.head?, c ∈ follow !l.startsOperand := by
  have hdigits : ∀ c ∈ digits, c ∈ follow false :=
    List.all_iff_forall_prop.mp (by decide)
  cases l with
  | numeral n => exact fun c hc => hdigits c (mem_digits_of_mem_toString (List.mem_of_mem_head? hc))
  | argument index =>
    intro c hc
    rw [text, head?_argumentName] at hc
    cases hc
    change 'A' ∈ follow false
    decide
  | operator op =>
    intro c hc
    cases op <;> cases hc <;> decide
  | sign op =>
    intro c hc
    cases op <;> cases hc <;> decide
  | opening | closing =>
    intro c hc
    cases hc
    decide

theorem Lexeme.eq_text (hs : s ∈ l.spellings) (hcaret : '^' ∉ s.toList) : s = l.text := by
  rcases mem_spellings hs with rfl | ⟨_, rfl⟩
  · rfl
  · exact absurd (by decide) hcaret

/-- A text starts as the first lexeme does that it spells. -/
theorem Spells.head?_follow (h : Spells lexemes cs) (hcaret : '^' ∉ cs) {operand : Bool}
    (hstart : ∀ l ∈ lexemes.head?, l.startsOperand = !operand) :
    ∀ c ∈ cs.head?, c ∈ follow operand := by
  cases h with
  | done => nofun
  | blank =>
    intro c hc
    cases hc
    cases operand <;> decide
  | @lexeme l _ s _ hs =>
    rw [List.mem_append, not_or] at hcaret
    intro c hc
    rw [List.head?_append_of_ne_nil _ (Lexeme.spelling_ne_nil hs),
      Lexeme.eq_text hs hcaret.1] at hc
    have hmem := Lexeme.head?_text c hc
    rwa [hstart l rfl, Bool.not_not] at hmem

/-- A character at which a scan neither skips anything nor ends or joins a line. -/
def IsPlain (c : Char) : Prop :=
  (c == ' ' || c == '\t' || c == '\x0c') = false ∧ (c == '#') = false ∧ (c == '\n') = false ∧
    (c == '\\') = false

instance (c : Char) : Decidable (IsPlain c) := inferInstanceAs (Decidable (_ ∧ _))

theorem isPlain_of_mem_alphabet : ∀ c ∈ alphabet, IsPlain c :=
  List.all_iff_forall_prop.mp (by decide)

theorem trimWith_prefix_dropWhile {p : Char → Bool} (cs : List Char) :
    Text.trimWith p cs <+: cs.dropWhile p := List.rdropWhile_prefix p (cs.dropWhile p)

theorem head?_trimWith {p : Char → Bool} (cs : List Char) :
    ∀ c ∈ (Text.trimWith p cs).head?, p c = false := by
  intro c hc
  obtain ⟨rest, hrest⟩ := trimWith_prefix_dropWhile (p := p) cs
  have hfirst := List.head?_dropWhile_not p cs
  rw [← hrest, List.head?_append, Option.mem_def.mp hc] at hfirst
  exact hfirst

theorem unifyLineEnds_eq_self (h : '\r' ∉ cs) : Text.unifyLineEnds cs = cs := by
  induction cs with
  | nil => rfl
  | cons c cs ih =>
    rw [List.mem_cons, not_or] at h
    have hc : c ≠ '\r' := Ne.symm h.1
    rw [Text.unifyLineEnds, ih h.2]
    · exact fun _ heq _ => hc heq
    · exact fun heq => hc heq

/-! ### The token of a lexeme -/

variable [Host]

/-- Whether a lexeme is a token: a number other than zero is one if the host reads its digits. -/
def Lexeme.isReadable : Lexeme → Bool
  | .numeral n => n == 0 || (Host.readingFault? (Nat.toDigits 10 n).length).isNone
  | _ => true

/-- A decimal numeral is one number, if it is read. -/
theorem decimal?_numeral (n : Nat) (hcs : ∀ c ∈ cs.head?, c ∈ operandEnds) :
    decimal? (Nat.toDigits 10 n ++ cs) =
      if (Lexeme.numeral n).isReadable then some (.integer n, cs) else none := by
  have hdigits : ∀ c ∈ Nat.toDigits 10 n, c.isDigit = true := fun _ hc =>
    Nat.isDigit_of_mem_toDigits (by omega) (le_refl 10) hc
  have hzero : ((Nat.toDigits 10 n).head? == some '0' &&
      (Nat.toDigits 10 n).any (· != '0')) = false := by
    cases h : Nat.toDigits 10 n with
    | nil => rfl
    | cons d ds =>
      by_cases hd : d = '0'
      · rw [hd] at h ⊢
        simp [toDigits_eq_zero_cons h]
      · simp [hd]
  have hbound : ((Host.readingFault? (Nat.toDigits 10 n).length).isSome &&
      (Nat.toDigits 10 n).head? != some '0') = !(Lexeme.numeral n).isReadable := by
    rw [Lexeme.isReadable, Bool.not_or, Option.not_isNone, Bool.and_comm, bne, head?_toDigits]
  rw [decimal?, digitRun?_append hdigits hcs, Option.bind_some]
  simp only [hzero, hbound, numberEnds_of_head hcs, digitsValue_toDigits, Bool.false_eq_true,
    if_false, if_true, Bool.not_eq_true', ← Bool.not_eq_true, ite_not]
  cases cs with
  | nil => rfl
  | cons c cs =>
    have hc : ∀ c ∈ operandEnds, c ∉ ['.', 'j', 'J', 'e', 'E'] :=
      List.all_iff_forall_prop.mp (by decide)
    have hc := hc c (hcs c rfl)
    simp only [List.mem_cons, List.not_mem_nil, not_or, or_false] at hc
    split <;> simp_all

theorem next?_numeral (n : Nat) (hcs : ∀ c ∈ cs.head?, c ∈ operandEnds) :
    next? ((toString n).toList ++ cs) =
      if (Lexeme.numeral n).isReadable then some (.integer n, cs) else none := by
  rw [Nat.toString_eq_repr, Nat.toList_repr, ← decimal?_numeral n hcs]
  cases h : Nat.toDigits 10 n with
  | nil => exact absurd h Nat.toDigits_ne_nil
  | cons d ds =>
    have hdigit : d.isDigit = true :=
      Nat.isDigit_of_mem_toDigits (by omega) (le_refl 10) (h ▸ List.mem_cons_self)
    rw [List.cons_append, next?, hdigit, Bool.true_or, if_pos rfl, number?.eq_def]
    split
    · next c rest heq =>
      obtain ⟨rfl, hrest⟩ := List.cons.inj heq
      rw [toDigits_eq_zero_cons h, List.nil_append] at hrest
      have hmark : ∀ c ∈ operandEnds, Text.markedBase? c = none :=
        List.all_iff_forall_prop.mp (by decide)
      rw [hmark c (hcs c (by rw [hrest]; rfl))]
    · next rest heq =>
      obtain ⟨rfl, -⟩ := List.cons.inj heq
      exact absurd hdigit (by decide)
    · rfl

theorem next?_argument (i : Nat) (hcs : ∀ c ∈ cs.head?, c ∈ operandEnds) :
    next? ((argumentName i).toList ++ cs) = some (.name (argumentName i), cs) := by
  have hfirst := head?_argumentName i
  rw [← word?_argument i hcs]
  cases hname : (argumentName i).toList with
  | nil =>
    rw [hname] at hfirst
    cases hfirst
  | cons c rest =>
    rw [hname] at hfirst
    rw [Option.some.inj hfirst]
    rfl

theorem next?_operator (hl : l.endsOperand = false) (hcs : ∀ c ∈ cs.head?, c ∈ operatorEnds) :
    next? (l.text.toList ++ cs) = some (l.token, cs) := by
  have hsymbol {s : String} {c : Char} {rest : List Char} (htext : s.toList = c :: rest)
      (hc : c.isDigit = false ∧ c ≠ '.' ∧ isQuote c = false ∧ isWordChar c = false)
      (hlength : s.toList.length ∈ [1, 2]) (hs : symbol? s.toList = some (.symbol s, [])) :
      next? (s.toList ++ cs) = some (.symbol s, cs) := by
    rw [← symbol?_append (fun t ht c hc => longSymbols_apart t ht _ hlength c (hcs c hc)) hs,
      htext, List.cons_append, next?, hc.1, hc.2.2.1, hc.2.2.2]
    simp [hc.2.1]
  cases l with
  | numeral | argument | closing => cases hl
  | operator op => cases op <;> exact hsymbol rfl (by decide) (by decide) rfl
  | sign op => cases op <;> exact hsymbol rfl (by decide) (by decide) rfl
  | opening => exact hsymbol rfl (by decide) (by decide) rfl

theorem next?_operand (hl : l.endsOperand = true) (hcs : ∀ c ∈ cs.head?, c ∈ operandEnds) :
    next? (l.text.toList ++ cs) = if l.isReadable then some (l.token, cs) else none := by
  cases l with
  | numeral n => exact next?_numeral n hcs
  | argument index => exact next?_argument index hcs
  | closing => rfl
  | operator | sign | opening => cases hl

theorem Lexeme.next?_text (hcs : ∀ c ∈ cs.head?, c ∈ follow l.endsOperand) :
    next? (l.text.toList ++ cs) = if l.isReadable then some (l.token, cs) else none := by
  cases hl : l.endsOperand with
  | true =>
    rw [hl] at hcs
    exact next?_operand hl hcs
  | false =>
    rw [hl] at hcs
    have hread : l.isReadable = true := by
      cases l with
      | numeral => cases hl
      | _ => rfl
    rw [if_pos hread]
    exact next?_operator hl hcs

/-- Where nothing is skipped the scan goes on behind the next token. -/
theorem scanFrom_plain {c : Char} {rest : List Char} (hc : IsPlain c) (fuel depth : Nat) :
    scanFrom (fuel + 1) .within depth (c :: rest) =
      (next? (c :: rest)).bind fun (token, rest) =>
        (token.depthAfter? depth).bind fun depth =>
          (scanFrom fuel .within depth rest).map (token :: ·) := by
  obtain ⟨hblank, hcomment, hline, hjoin⟩ := hc
  rw [scanFrom.eq_def]
  simp only [hblank, hcomment, hline, hjoin, Bool.false_eq_true, if_false]

/-- A line may start without an indent. -/
theorem scanFrom_lineStart {c : Char} {rest : List Char} (hc : IsPlain c) (fuel : Nat) :
    scanFrom (fuel + 1) (.lineStart 0 0) 0 (c :: rest) = scanFrom fuel .within 0 (c :: rest) := by
  obtain ⟨hblank, hcomment, hline, hjoin⟩ := hc
  simp only [Bool.or_eq_false_iff] at hblank
  rw [scanFrom.eq_def]
  simp [hblank, hcomment, hline, hjoin]

/-! ### All tokens -/

/-- Whether a scan takes all lexemes, with this many parentheses open before them. -/
def scans : Nat → List Lexeme → Bool
  | _, [] => true
  | depth, l :: rest =>
    l.isReadable && (l.token.depthAfter? depth).any fun depth => scans depth rest

/-- The tokens of a text are those of the lexemes that it spells, if the scan takes all of them. The
induction is on the text: a step of the scan skips a blank or takes a lexeme. -/
theorem scanFrom_spells (h : Spells lexemes cs) (hcaret : '^' ∉ cs)
    (hfits : lexemes.IsChain Lexeme.Fits) {fuel depth : Nat} (hfuel : cs.length < fuel) :
    scanFrom fuel .within depth cs =
      if scans depth lexemes then some (lexemes.map Lexeme.token) else none := by
  induction h generalizing fuel depth with
  | done =>
    cases fuel with
    | zero => exact absurd hfuel (by simp)
    | succ fuel => rfl
  | blank _ ih =>
    rw [List.mem_cons, not_or] at hcaret
    cases fuel with
    | zero => exact absurd hfuel (by simp)
    | succ fuel => exact ih hcaret.2 hfits (Nat.lt_of_succ_lt_succ hfuel)
  | @lexeme l lexemes s cs hs h ih =>
    rw [List.mem_append, not_or] at hcaret
    rw [List.isChain_cons] at hfits
    have hnext : next? (s.toList ++ cs) = if l.isReadable then some (l.token, cs) else none := by
      rw [Lexeme.eq_text hs hcaret.1]
      exact Lexeme.next?_text (h.head?_follow hcaret.2 hfits.1)
    cases hlist : s.toList with
    | nil => exact absurd hlist (Lexeme.spelling_ne_nil hs)
    | cons c rest =>
      rw [hlist, List.length_append, List.length_cons] at hfuel
      rw [hlist, List.cons_append] at hnext
      cases fuel with
      | zero => exact absurd hfuel (by simp)
      | succ fuel =>
        have hc := isPlain_of_mem_alphabet c (Lexeme.mem_spelling hs (by simp [hlist]))
        rw [List.cons_append, scanFrom_plain hc, hnext, scans]
        cases l.isReadable with
        | false => rfl
        | true =>
          rw [if_pos rfl, Option.bind_some, Bool.true_and]
          dsimp only
          cases l.token.depthAfter? depth with
          | none => rfl
          | some deeper =>
            rw [Option.bind_some, Option.any_some, ih hcaret.2 hfits.2 (by omega)]
            cases scans deeper lexemes <;> rfl

/-- A text that spells lexemes and does not start with a blank is scanned into their tokens, if the
scan takes all of them. -/
theorem scan?_spells (h : Spells lexemes cs) (hcaret : '^' ∉ cs)
    (hfits : lexemes.IsChain Lexeme.Fits) (hfirst : ∀ c ∈ cs.head?, Text.isBlank c = false) :
    scan? cs = if scans 0 lexemes then some (lexemes.map Lexeme.token) else none := by
  have hmem : ∀ c ∈ ' ' :: alphabet, c ≠ '\x00' ∧ c ≠ '\r' :=
    List.all_iff_forall_prop.mp (by decide)
  have hcs : ∀ c ∈ cs, c ≠ '\x00' ∧ c ≠ '\r' := fun c hc => hmem c (List.mem_cons.mpr (h.mem c hc))
  have hzero : cs.contains '\x00' = false := by
    rw [← Bool.not_eq_true, List.contains_iff_mem]
    exact fun hc => (hcs _ hc).1 rfl
  rw [scan?, hzero, unifyLineEnds_eq_self fun hc => (hcs _ hc).2 rfl]
  cases cs with
  | nil =>
    rw [List.eq_nil_of_length_eq_zero (Nat.le_zero.mp h.length_le)]
    rfl
  | cons c cs =>
    have hc : c ∈ alphabet := by
      refine (h.mem c List.mem_cons_self).resolve_left ?_
      rintro rfl
      exact absurd (hfirst ' ' rfl) (by decide)
    exact (scanFrom_lineStart (isPlain_of_mem_alphabet c hc) _).trans
      (scanFrom_spells h hcaret hfits (by omega))

end

end GameAtlas.Expression
