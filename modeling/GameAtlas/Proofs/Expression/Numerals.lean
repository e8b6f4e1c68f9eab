import Mathlib.Tactic
import GameAtlas.Proofs.Expression.Literal
import GameAtlas.Proofs.Expression.Meaning

/-!
Numerals as expressions. A text that is a numeral is a size without being evaluated, and some cannot
be evaluated: digits above ASCII belong to no expression, and zeros may not pad a decimal numeral.
All others evaluate to the number that they are read as, so that a size is always the value of its
text where there is one.
-/

namespace GameAtlas.Expression

open Token Text

variable {cs : List Char} {n : Nat} {text : String} {c : Char}

/-! ### Their characters -/

/-- What a character is and another one is not tells them apart. -/
theorem beq_eq_false_of {p : Char → Bool} {d : Char} (hc : p c = true) (hd : p d = false) :
    (c == d) = false := by
  rw [beq_eq_false_iff_ne]
  rintro rfl
  rw [hd] at hc
  cases hc

theorem isWordChar_of_digitOf? {b : Nat} (h : (digitOf? b c).isSome) : isWordChar c = true := by
  obtain ⟨d, hd⟩ := digitValue?_of_digitOf? h
  obtain ⟨hlow, hhigh⟩ := digitValue?_range hd
  have hvalue : (digitValue? c).isSome := by rw [hd, Option.isSome_some]
  exact of_charRange (P := fun c => (digitValue? c).isSome → isWordChar c = true) 0x30 75
    (by decide) hlow hhigh hvalue

/-- A decimal digit is one of ASCII, or stands above it. -/
theorem isDigit_or_le_of_isDecimalDigit (h : isDecimalDigit c) :
    c.isDigit = true ∨ 0x80 ≤ c.toNat := by
  rw [isDecimalDigit, decimalDigit?] at h
  split at h
  · split at h
    · next hdigit => exact .inl hdigit
    · cases h
  · next habove => exact .inr (not_lt.mp habove)

theorem isWordChar_of_isDecimalDigit (h : isDecimalDigit c) : isWordChar c = true := by
  rw [isWordChar]
  rcases isDigit_or_le_of_isDecimalDigit h with hdigit | habove
  · simp [Char.isAlphanum, hdigit]
  · simp [habove]

theorem IsNumeral.all_wordChar (h : IsNumeral cs n) : ∀ c ∈ cs, isWordChar c = true := by
  cases h with
  | hexadecimal hmark _ hdigits =>
    refine List.forall_mem_cons.mpr ⟨by decide, List.forall_mem_cons.mpr ⟨?_, ?_⟩⟩
    · rcases List.mem_pair.mp hmark with rfl | rfl <;> decide
    · exact fun d hd => isWordChar_of_digitOf? (hdigits d hd)
  | decimal _ hdigits => exact fun d hd => isWordChar_of_isDecimalDigit (hdigits d hd)

theorem isPlain_of_isWordChar (h : isWordChar c = true) : IsPlain c := by
  have hne {d : Char} (hd : isWordChar d = false) : (c == d) = false := beq_eq_false_of h hd
  refine ⟨?_, hne (by decide), hne (by decide), hne (by decide)⟩
  rw [hne (d := ' ') (by decide), hne (d := '\t') (by decide), hne (d := '\x0c') (by decide)]
  rfl

/-- What is no part of a word is no part of a numeral. -/
theorem IsNumeral.not_mem (h : IsNumeral cs n) (hc : isWordChar c = false) : c ∉ cs :=
  fun hmem => Bool.false_ne_true (hc.symm.trans (h.all_wordChar c hmem))

/-! ### Their tokens -/

/-- Without underscores the digits are those up to the first other character. -/
theorem digitRun?_eq {isDigit : Char → Bool} (h : '_' ∉ cs) :
    digitRun? isDigit cs = some (cs.takeWhile isDigit, cs.dropWhile isDigit) := by
  induction cs with
  | nil => rfl
  | cons c cs ih =>
    rw [List.mem_cons, not_or] at h
    have hmark : c ≠ '_' := Ne.symm h.1
    rw [digitRun?, ih h.2, List.takeWhile_cons, List.dropWhile_cons]
    · split <;> rfl
    · exact fun _ _ heq _ => hmark heq
    · exact fun heq _ => hmark heq

/-- Behind a base mark all digits are read. -/
theorem markedNumber?_digits {b : Nat} (hne : cs ≠ []) (hcs : ∀ d ∈ cs, (digitOf? b d).isSome) :
    markedNumber? b cs =
      some (.integer (cs.foldl (fun n c => n * b + (digitValue? c).getD 0) 0), []) := by
  have hmark : '_' ∉ cs := by
    intro hmem
    have hsome := hcs '_' hmem
    rw [digitOf?, show digitValue? '_' = none by decide] at hsome
    cases hsome
  have htake : cs.takeWhile (fun c => (digitOf? b c).isSome) = cs :=
    List.takeWhile_eq_self_iff.mpr hcs
  have hdrop : cs.dropWhile (fun c => (digitOf? b c).isSome) = [] :=
    List.dropWhile_eq_nil_iff.mpr hcs
  obtain ⟨c, rest, rfl⟩ := List.exists_cons_of_ne_nil hne
  have hfirst : c ≠ '_' := fun heq => hmark (heq ▸ List.mem_cons_self)
  rw [markedNumber?]
  · simp only [hcs c List.mem_cons_self, digitRun?_eq hmark, htake, hdrop]
    rfl
  · exact fun _ heq => hfirst (List.cons.inj heq).1

theorem toNat_lt_of_isDigit (h : c.isDigit = true) : c.toNat < 0x80 := by
  rw [Char.isDigit, Bool.and_eq_true, decide_eq_true_iff, decide_eq_true_iff] at h
  exact h.2.trans_lt (by decide)

/-- Digits of ASCII stand for what they do among those of every script. -/
theorem digitsValue_eq (h : ∀ d ∈ cs, d.isDigit = true) :
    Decimal.digitsValue cs = decimalValue cs := by
  rw [Decimal.digitsValue, decimalValue]
  refine List.foldl_ext _ _ _ fun n d hd => ?_
  rw [decimalDigit?, if_pos (toNat_lt_of_isDigit (h d hd)), if_pos (h d hd), Option.getD_some]

/-- No text starts above ASCII with a word of ASCII. -/
theorem startsWith_above {word : String} {rest : List Char}
    (hword : ∃ d ∈ word.toList.head?, d.toNat < 0x80) (hc : 0x80 ≤ c.toNat) :
    startsWith word (c :: rest) = false := by
  obtain ⟨d, hd, hascii⟩ := hword
  cases hlist : word.toList with
  | nil =>
    rw [hlist] at hd
    cases hd
  | cons first ds =>
    rw [hlist] at hd
    cases hd
    have hne : (d == c) = false := by
      rw [beq_eq_false_iff_ne]
      rintro rfl
      omega
    rw [startsWith, hlist, List.isPrefixOf, hne, Bool.false_and]

/-- A number does not end before a character above ASCII. -/
theorem numberEnds_above {rest : List Char} (hc : 0x80 ≤ c.toNat) :
    numberEnds (c :: rest) = false := by
  have hwords : ∀ word ∈ ["and", "else", "for", "if", "in", "is", "or", "not"],
      ∃ d ∈ word.toList.head?, d.toNat < 0x80 := by
    simp
  rw [numberEnds, Bool.or_eq_false_iff]
  refine ⟨?_, by simp [isWordChar, hc]⟩
  rw [List.any_eq_false]
  exact fun word hword => by rw [startsWith_above (hwords word hword) hc]; decide

/-- A numeral that is no expression: a digit is above ASCII, or zeros pad a decimal one. -/
def isSizeOnly (cs : List Char) : Bool :=
  cs.any (0x80 ≤ ·.toNat) ||
    cs.all isDecimalDigit && (cs.head? == some '0' && cs.any (· != '0'))

theorem isSizeOnly_above (hc : c ∈ cs) (habove : 0x80 ≤ c.toNat) : isSizeOnly cs = true := by
  have hany : cs.any (0x80 ≤ ·.toNat) = true := List.any_eq_true.mpr ⟨c, hc, by simpa using habove⟩
  rw [isSizeOnly, hany, Bool.true_or]

theorem isSizeOnly_ascii (h : ∀ d ∈ cs, d.toNat < 0x80) :
    isSizeOnly cs =
      (cs.all isDecimalDigit && (cs.head? == some '0' && cs.any (· != '0'))) := by
  have hany : cs.any (0x80 ≤ ·.toNat) = false := by
    rw [List.any_eq_false]
    exact fun d hd => by simpa using h d hd
  rw [isSizeOnly, hany, Bool.false_or]

/-- Decimal digits that the host reads are one number, unless one of them stands above ASCII or
zeros pad them. -/
theorem decimal?_digits [Host] (hcs : ∀ d ∈ cs, isDecimalDigit d)
    (hcount : Host.readingFault? cs.length = none) :
    decimal? cs = if isSizeOnly cs then none else some (.integer (decimalValue cs), []) := by
  have hmark : '_' ∉ cs := fun hmem => absurd (hcs '_' hmem) (by decide)
  rw [decimal?, digitRun?_eq hmark, Option.bind_some]
  cases hrest : cs.dropWhile Char.isDigit with
  | nil =>
    have hdigits : ∀ d ∈ cs, d.isDigit = true := List.dropWhile_eq_nil_iff.mp hrest
    have hall : cs.all isDecimalDigit = true := List.all_eq_true.mpr hcs
    rw [List.takeWhile_eq_self_iff.mpr hdigits,
      isSizeOnly_ascii fun d hd => toNat_lt_of_isDigit (hdigits d hd), hall, Bool.true_and]
    dsimp only
    rw [digitsValue_eq hdigits, hcount]
    rfl
  | cons d more =>
    have hmem : d ∈ cs := (List.dropWhile_suffix _).mem (hrest ▸ List.mem_cons_self)
    have hdigit : d.isDigit = false := by
      have hfirst := List.head?_dropWhile_not Char.isDigit cs
      rwa [hrest] at hfirst
    have habove : 0x80 ≤ d.toNat :=
      (isDigit_or_le_of_isDecimalDigit (hcs d hmem)).resolve_left (by rw [hdigit]; decide)
    have hne {c : Char} (hc : c.toNat < 0x80) : d ≠ c := by
      rintro rfl
      omega
    rw [isSizeOnly_above hmem habove, if_pos rfl]
    dsimp only
    rw [numberEnds_above habove, if_neg Bool.false_ne_true, ite_self, ite_self]
    split
    case h_6 => rfl
    all_goals next heq => exact absurd (List.cons.inj heq).1 (hne (by decide))

/-- A word that starts with a digit above ASCII is neither a keyword nor a name. -/
theorem word?_digit {rest : List Char} (hc : isDecimalDigit c) (habove : 0x80 ≤ c.toNat)
    (hword : ∀ d ∈ c :: rest, isWordChar d = true) : word? (c :: rest) = none := by
  have hstart : identifierStart.contains c = false :=
    CharClass.contains_digit (by decide +kernel) hc
  have hname : isIdentifier (c :: rest) = false := by
    rw [isIdentifier, isIdentifierStart, if_neg (not_lt.mpr habove), hstart, Bool.false_and]
  have hkeyword : keywords.contains (String.ofList (c :: rest)) = false := by
    have hascii : ∀ word ∈ keywords, word.toList.head?.all (·.toNat < 0x80) = true := by decide
    rw [← Bool.not_eq_true, List.contains_iff_mem]
    intro hmem
    have hlt := hascii _ hmem
    rw [String.toList_ofList, List.head?_cons, Option.all_some, decide_eq_true_iff] at hlt
    omega
  rw [word?, List.takeWhile_eq_self_iff.mpr hword, List.dropWhile_eq_nil_iff.mpr hword]
  change word?.named (c :: rest) [] = none
  rw [word?.named, hkeyword, hname]
  rfl

theorem markedBase?_of_isDecimalDigit (hc : isDecimalDigit c) : markedBase? c = none := by
  have hletters : ∀ d ∈ ['x', 'X', 'o', 'O', 'b', 'B'], isDecimalDigit d = false :=
    List.all_iff_forall_prop.mp (by decide)
  have hne : ∀ d ∈ ['x', 'X', 'o', 'O', 'b', 'B'], (c == d) = false := fun d hd =>
    beq_eq_false_of hc (hletters d hd)
  simp [markedBase?, hne]

theorem number?_digits [Host] (hcs : ∀ d ∈ cs, isDecimalDigit d) : number? cs = decimal? cs := by
  rw [number?.eq_def]
  split
  · next d rest =>
    rw [markedBase?_of_isDecimalDigit (hcs d (by simp))]
  · exact absurd (hcs '.' List.mem_cons_self) (by decide)
  · rfl

theorem isSizeOnly_hexadecimal {mark : Char} {ds : List Char} (hmark : mark ∈ ['x', 'X'])
    (hds : ∀ d ∈ ds, (digitOf? 16 d).isSome) : isSizeOnly ('0' :: mark :: ds) = false := by
  have hascii : ∀ d ∈ '0' :: mark :: ds, d.toNat < 0x80 := by
    refine List.forall_mem_cons.mpr ⟨by decide, List.forall_mem_cons.mpr ⟨?_, fun d hd => ?_⟩⟩
    · rcases List.mem_pair.mp hmark with rfl | rfl <;> decide
    · obtain ⟨k, hk⟩ := digitValue?_of_digitOf? (hds d hd)
      exact (digitValue?_range hk).2.trans (by decide)
  have hmarks := isDecimalDigit_mark
  rw [isSizeOnly_ascii hascii]
  rcases List.mem_pair.mp hmark with rfl | rfl <;> simp [hmarks]

/-- The token at the head of a numeral is its number, and takes all of it, if there is one. -/
theorem IsNumeral.token? [Host] (h : IsNumeral cs n)
    (hcount : cs.all isDecimalDigit → Host.readingFault? cs.length = none) :
    next? cs = if isSizeOnly cs then none else some (.integer n, []) := by
  have hword := h.all_wordChar
  cases h with
  | @hexadecimal mark ds hmark hne hdigits =>
    rw [isSizeOnly_hexadecimal hmark hdigits, if_neg Bool.false_ne_true,
      ← markedNumber?_digits hne hdigits]
    rcases List.mem_pair.mp hmark with rfl | rfl <;> rfl
  | decimal hne hdigits =>
    obtain ⟨c, rest, rfl⟩ := List.exists_cons_of_ne_nil hne
    have hc := hdigits c List.mem_cons_self
    by_cases hdigit : c.isDigit = true
    · rw [next?, hdigit, Bool.true_or, if_pos rfl, number?_digits hdigits]
      exact decimal?_digits hdigits (hcount (List.all_eq_true.mpr hdigits))
    · have habove := (isDigit_or_le_of_isDecimalDigit hc).resolve_left hdigit
      have hne {d : Char} (hd : isDecimalDigit d = false) : (c == d) = false :=
        beq_eq_false_of hc hd
      have hquote : isQuote c = false := by
        rw [isQuote, hne (by decide), hne (by decide)]
        rfl
      rw [next?, hne (by decide), hquote, hword c List.mem_cons_self, word?_digit hc habove hword,
        isSizeOnly_above List.mem_cons_self habove]
      simp [hdigit]

/-! ### What they are read as -/

/-- A numeral is scanned into its number, if it is an expression. -/
theorem IsNumeral.scan? [Host] (h : IsNumeral cs n)
    (hcount : cs.all isDecimalDigit → Host.readingFault? cs.length = none) :
    scan? cs = if isSizeOnly cs then none else some (tokens (Arithmetic.literal n).lexemes) := by
  have hnull : cs.contains '\x00' = false := by
    rw [← Bool.not_eq_true, List.contains_iff_mem]
    exact h.not_mem (by decide)
  rw [Token.scan?, hnull, unifyLineEnds_eq_self (h.not_mem (by decide))]
  obtain ⟨c, rest, rfl⟩ := List.exists_cons_of_ne_nil h.ne_nil
  have hplain := isPlain_of_isWordChar (h.all_wordChar c List.mem_cons_self)
  rw [if_neg Bool.false_ne_true, scanFrom_lineStart hplain, scanFrom_plain hplain, h.token? hcount]
  split <;> rfl

/-- An expression whose text is a numeral is the number that the numeral stands for. -/
theorem IsLiteral.read [Host] (h : IsLiteral text cs n)
    (hdigits : Host.readingFault? (Expression.literalDigits text) = none) :
    Expr.read text = if isSizeOnly cs then .error .unreadable else .ok (.integer n) := by
  have hcaret : '^' ∉ text.toList := by
    obtain ⟨before, after, htext, hbefore, hafter⟩ := h.surrounded
    have hblank : isBlank '^' = false := by decide
    rw [htext, List.mem_append, List.mem_append]
    rintro ((hmem | hmem) | hmem)
    · exact absurd (hbefore _ hmem) (by rw [hblank]; decide)
    · exact h.numeral.not_mem (by decide) hmem
    · exact absurd (hafter _ hmem) (by rw [hblank]; decide)
  have hcount (hall : cs.all isDecimalDigit) : Host.readingFault? cs.length = none := by
    rwa [h.literalDigits, if_pos hall] at hdigits
  have hscan := h.numeral.scan? hcount
  rw [Expr.read, spellPowers_eq_self hcaret, h.trim]
  split at hscan
  · next honly => rw [Phrase.read?, hscan, if_pos honly]; rfl
  · next honly =>
    have hlength : (Arithmetic.literal n).lexemes.length ≤ cs.length :=
      List.length_pos_iff.mpr h.numeral.ne_nil
    rw [read?_of_scan? hscan hlength, if_neg honly]
    rfl

/-- Where the text of a size can be evaluated, a numeral is evaluated to what it stands for. -/
theorem IsLiteral.evaluate [Host] (h : IsLiteral text cs n)
    (hdigits : Host.readingFault? (Expression.literalDigits text) = none) (bindings : Bindings) :
    Expression.evaluate text bindings =
      if isSizeOnly cs then .error .unreadable else .ok (.integer n) := by
  rw [Expression.evaluate, h.read hdigits]
  split <;> rfl

/-- A size is the value of its text, if there is one. -/
theorem evaluateSize_of_evaluate [Host] {bindings : Bindings} {v : Value}
    (hdigits : Host.readingFault? (literalDigits text) = none)
    (hv : evaluate text bindings = .ok v) : evaluateSize text bindings = v.toSize := by
  cases hliteral : literalSize? text with
  | none =>
    rw [evaluateSize, hliteral]
    dsimp only
    rw [hv]
    rfl
  | some n =>
    obtain ⟨cs, hcs⟩ := literalSize?_eq_some_iff.mp hliteral
    rw [hcs.evaluate hdigits] at hv
    split at hv
    · cases hv
    · cases hv
      have hnonneg : ¬((n : Int) < 0) := by omega
      rw [hcs.evaluateSize hdigits, Value.toSize, if_neg hnonneg, Int.toNat_natCast]

/-- A text is a size by itself exactly if it is a numeral with nothing around it but blanks. Then
the number that the numeral stands for is its size, whatever is bound, if the host reads as many
decimal digits. Evaluation gives the same number, or cannot read the text: this happens just where a
digit stands above ASCII or zeros pad a decimal numeral. Every number is the size of its decimal
digits, if the host reads them, and, behind either mark, of its hexadecimal digits in letters of
either case, with any zeros before the digits and any blanks around the numeral. -/
theorem evaluateSize_literal [Host] (bindings others : Bindings) :
    (∀ text n, literalSize? text = some n ↔ ∃ cs, IsLiteral text cs n) ∧
    (∀ text cs n, IsLiteral text cs n → Host.readingFault? (literalDigits text) = none →
      evaluateSize text bindings = .ok n ∧
      evaluate text others = if isSizeOnly cs then .error .unreadable else .ok (.integer n)) ∧
    ∀ (n zeros : Nat) (before after : List Char), (∀ c ∈ before ++ after, isBlank c) →
      (Host.readingFault? (zeros + (Nat.toDigits 10 n).length) = none →
        evaluateSize (String.ofList
          (before ++ (List.replicate zeros '0' ++ Nat.toDigits 10 n) ++ after)) bindings = .ok n) ∧
      ∀ mark ∈ ['x', 'X'], ∀ digits : List Char,
        digits.map Char.toUpper = (Nat.toDigits 16 n).map Char.toUpper →
        evaluateSize (String.ofList
          (before ++ '0' :: mark :: (List.replicate zeros '0' ++ digits) ++ after)) bindings =
            .ok n := by
  refine ⟨fun _ _ => literalSize?_eq_some_iff,
    fun _ _ _ h hdigits => ⟨h.evaluateSize hdigits bindings, h.evaluate hdigits others⟩, ?_⟩
  intro n zeros before after hblank
  have hliteral {cs : List Char} (hcs : IsNumeral cs n)
      (hcount : Host.readingFault? (if cs.all isDecimalDigit then cs.length else 0) = none) :
      evaluateSize (String.ofList (before ++ cs ++ after)) bindings = .ok n := by
    have hsurrounded : IsLiteral (String.ofList (before ++ cs ++ after)) cs n :=
      ⟨hcs, before, after, String.toList_ofList, fun c hc => hblank c (List.mem_append_left _ hc),
        fun c hc => hblank c (List.mem_append_right _ hc)⟩
    rw [← hsurrounded.literalDigits] at hcount
    exact hsurrounded.evaluateSize hcount bindings
  refine ⟨fun hcount => hliteral (isNumeral_decimal n zeros) ?_,
    fun mark hmark digits hdigits => hliteral (isNumeral_hexadecimal zeros hmark hdigits) ?_⟩
  · split
    · rwa [List.length_append, List.length_replicate]
    · exact Host.readingFault?_zero
  · have hall : ('0' :: mark :: (List.replicate zeros '0' ++ digits)).all isDecimalDigit =
        false := by
      have hmarks := isDecimalDigit_mark
      rcases List.mem_pair.mp hmark with rfl | rfl <;> simp [hmarks]
    rw [hall]
    exact Host.readingFault?_zero

/-- Zeros and blanks around a number of two hexadecimal digits, and zeros before a decimal one that
cannot be evaluated. -/
theorem sampleNumerals_literal :
    (evaluateSize "\t0X00fF\n" [] = .ok 255 ∧
        evaluate "\t0X00fF\n" [] = .ok (.integer 255)) ∧
      evaluateSize " 007 " [] = .ok 7 ∧
      evaluate " 007 " [] = .error .unreadable := by
  obtain ⟨_, hagree, hnumerals⟩ := evaluateSize_literal [] []
  have hmark : 'X' ∈ ['x', 'X'] := by decide
  have hdigits : ['f', 'F'].map Char.toUpper = Text.capitalDigits 16 255 := by decide
  have hhex : IsLiteral "\t0X00fF\n" "0X00fF".toList 255 :=
    ⟨isNumeral_hexadecimal 2 hmark hdigits, ['\t'], ['\n'], rfl,
      List.forall_mem_singleton.mpr rfl, List.forall_mem_singleton.mpr rfl⟩
  have hspace : ∀ c ∈ [' '], isBlank c := List.forall_mem_singleton.mpr rfl
  have hpadded : IsLiteral " 007 " "007".toList 7 :=
    ⟨isNumeral_decimal 7 2, [' '], [' '], rfl, hspace, hspace⟩
  have hseven := (hnumerals 7 2 [' '] [' '] (List.forall_mem_append.mpr ⟨hspace, hspace⟩)).1
  refine ⟨hagree _ _ _ hhex ?_, hseven (by decide), (hagree _ _ _ hpadded ?_).2⟩
  · rw [hhex.literalDigits]
    decide
  · rw [hpadded.literalDigits]
    decide

end GameAtlas.Expression
