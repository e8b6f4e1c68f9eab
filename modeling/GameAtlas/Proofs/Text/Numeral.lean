import Mathlib.Data.List.TakeWhile
import Mathlib.Tactic
import GameAtlas.Text.Numeral

/-!
Numerals that are written and read back: capital digits in a base up to sixteen, with or without a
sign. The first digit is zero for no number but zero, so that no reader takes a numeral for a marked
one.
-/

namespace GameAtlas.Text

variable {b : Nat}

/-! ### Single digits -/

/-- The capital digit of a value. -/
def capitalDigit (d : Nat) : Char := (Nat.digitChar d).toUpper

theorem digitValue?_capitalDigit : ∀ d < 16, digitValue? (capitalDigit d) = some d := by
  decide

theorem digitOf?_capitalDigit {d : Nat} (hb : b ≤ 16) (hd : d < b) :
    digitOf? b (capitalDigit d) = some d := by
  rw [digitOf?, digitValue?_capitalDigit d (by omega), Option.bind_some, if_pos hd]

theorem westernDigit_capitalDigit : ∀ d < 16, westernDigit (capitalDigit d) = capitalDigit d := by
  decide

theorem isBlank_capitalDigit : ∀ d < 16, isBlank (capitalDigit d) = false := by
  decide

theorem capitalDigit_ne_mark {d : Nat} (hd : d < 16) :
    ∀ c ∈ ['_', '-', '+', ':', 'x', 'X', 'b', 'o', 'O'], capitalDigit d ≠ c := by
  have hmarks : ∀ d < 16, capitalDigit d ∉ ['_', '-', '+', ':', 'x', 'X', 'b', 'o', 'O'] := by
    decide
  intro c hc heq
  rw [← heq] at hc
  exact hmarks d hd hc

theorem capitalDigit_eq_zero : ∀ d < 16, capitalDigit d = '0' → d = 0 := by
  decide

theorem markedBase?_capitalDigit : ∀ d < 16, ∀ b ∈ markedBase? (capitalDigit d), b ≤ d := by
  decide

/-- What holds of the characters of a range one by one holds of each that lies in it. -/
theorem of_charRange {P : Char → Prop} (first count : Nat)
    (h : ∀ k ∈ List.range' first count, P (Char.ofNat k)) {c : Char} (hlow : first ≤ c.toNat)
    (hhigh : c.toNat < first + count) : P c := by
  have hc := h c.toNat (List.mem_range'_1.mpr ⟨hlow, hhigh⟩)
  rwa [Char.ofNat_toNat] at hc

/-- The digits of all bases lie between zero and the last small letter. -/
theorem digitValue?_range {c : Char} {d : Nat} (h : digitValue? c = some d) :
    0x30 ≤ c.toNat ∧ c.toNat < 0x30 + 75 := by
  simp only [digitValue?, Char.le_def, UInt32.le_iff_toNat_le] at h
  split_ifs at h with hdigit hlower hupper
  · exact ⟨hdigit.1, hdigit.2.trans_lt (by decide)⟩
  · exact ⟨hlower.1.trans' (by decide), hlower.2.trans_lt (by decide)⟩
  · exact ⟨hupper.1.trans' (by decide), hupper.2.trans_lt (by decide)⟩

theorem digitValue?_of_digitOf? {c : Char} (h : (digitOf? b c).isSome) :
    ∃ d, digitValue? c = some d := by
  rw [digitOf?] at h
  exact Option.isSome_iff_exists.mp (Option.isSome_of_isSome_bind h)

theorem isBlank_of_digitOf? {c : Char} (h : (digitOf? b c).isSome) : isBlank c = false := by
  obtain ⟨d, hd⟩ := digitValue?_of_digitOf? h
  obtain ⟨hlow, hhigh⟩ := digitValue?_range hd
  exact of_charRange (P := fun c => isBlank c = false) 0x30 75 (by decide) hlow hhigh

/-- A letter stands for the same digit in either case. -/
theorem digitValue?_toUpper (c : Char) : digitValue? c.toUpper = digitValue? c := by
  by_cases hlower : 'a'.val ≤ c.val ∧ c.val ≤ 'z'.val
  · refine of_charRange (P := fun c => digitValue? c.toUpper = digitValue? c) 0x61 26
      (by decide) ?_ ?_
    · exact UInt32.le_iff_toNat_le.mp hlower.1
    · exact Nat.lt_succ_of_le (UInt32.le_iff_toNat_le.mp hlower.2)
  · have hsame : c.toUpper = c := dif_neg hlower
    rw [hsame]

/-! ### Digits of a number -/

/-- The capital digits of a number in a base. -/
def capitalDigits (b n : Nat) : List Char := (Nat.toDigits b n).map Char.toUpper

theorem capitalDigits_of_lt {n : Nat} (h : n < b) : capitalDigits b n = [capitalDigit n] := by
  rw [capitalDigits, Nat.toDigits_of_lt_base h, List.map_singleton, capitalDigit]

theorem capitalDigits_of_le {n : Nat} (hb : 1 < b) (h : b ≤ n) :
    capitalDigits b n = capitalDigits b (n / b) ++ [capitalDigit (n % b)] := by
  rw [capitalDigits, Nat.toDigits_of_base_le hb h, List.map_append, List.map_singleton]
  rfl

theorem capitalDigits_ne_nil (n : Nat) : capitalDigits b n ≠ [] := by
  intro h
  exact Nat.toDigits_ne_nil (List.map_eq_nil_iff.mp h)

/-- Every character of a numeral is a digit of its base. -/
theorem mem_capitalDigits (hb : 1 < b) {n : Nat} {c : Char} (hc : c ∈ capitalDigits b n) :
    ∃ d < b, c = capitalDigit d := by
  induction n using Nat.strongRecOn with
  | ind n ih =>
    rcases Nat.lt_or_ge n b with hlt | hge
    · rw [capitalDigits_of_lt hlt, List.mem_singleton] at hc
      exact ⟨n, hlt, hc⟩
    · rw [capitalDigits_of_le hb hge, List.mem_append, List.mem_singleton] at hc
      rcases hc with hc | hc
      · exact ih (n / b) (Nat.div_lt_self (by omega) hb) hc
      · exact ⟨n % b, Nat.mod_lt n (by omega), hc⟩

/-- A numeral of more than zero starts with a digit of more than zero. -/
theorem capitalDigits_cons (hb : 1 < b) {n : Nat} (hn : 0 < n) :
    ∃ d rest, 0 < d ∧ d < b ∧ capitalDigits b n = capitalDigit d :: rest := by
  induction n using Nat.strongRecOn with
  | ind n ih =>
    rcases Nat.lt_or_ge n b with hlt | hge
    · exact ⟨n, [], hn, hlt, capitalDigits_of_lt hlt⟩
    · have hpos : 0 < n / b := Nat.div_pos hge (by omega)
      obtain ⟨d, rest, hd, hdb, hrest⟩ := ih (n / b) (Nat.div_lt_self (by omega) hb) hpos
      refine ⟨d, rest ++ [capitalDigit (n % b)], hd, hdb, ?_⟩
      rw [capitalDigits_of_le hb hge, hrest, List.cons_append]

theorem capitalDigits_ten (n : Nat) : capitalDigits 10 n = n.repr.toList := by
  rw [Nat.toList_repr, capitalDigits]
  refine (List.map_congr_left fun c hc => ?_).trans (List.map_id _)
  have hdigit := Nat.isDigit_of_mem_toDigits (by omega) (le_refl 10) hc
  refine dif_neg fun hlower => ?_
  simp only [Char.isDigit, Bool.and_eq_true, decide_eq_true_eq] at hdigit
  have hle := hdigit.2
  have hge := hlower.1
  simp only [UInt32.le_iff_toNat_le] at hle hge
  simp at hle hge
  omega

/-! ### Decimal digits of every script -/

theorem mem_decade_of_isDecimalDigit {c : Char} (h : isDecimalDigit c) :
    ∃ first ∈ digitZeros, first ≤ c.toNat ∧ c.toNat < first + 10 := by
  rw [isDecimalDigit, decimalDigit?] at h
  split at h
  · split at h
    · next hdigit =>
      simp only [Char.isDigit, Bool.and_eq_true, decide_eq_true_eq] at hdigit
      obtain ⟨hlow, hhigh⟩ := hdigit
      simp only [ge_iff_le, UInt32.le_iff_toNat_le] at hlow hhigh
      refine ⟨0x30, by simp [digitZeros], hlow, ?_⟩
      exact Nat.lt_succ_of_le hhigh
    · cases h
  · rw [Option.isSome_map] at h
    obtain ⟨first, hfirst⟩ := Option.isSome_iff_exists.mp h
    have hrange := List.find?_some hfirst
    simp only [Bool.and_eq_true, decide_eq_true_eq] at hrange
    exact ⟨first, List.mem_of_find?_eq_some hfirst, hrange⟩

/-- Whether decades lie outside of a class: those that do not end before its first range start
behind it, and lie outside of the others. Both lists are ascending, so that one pass will do. -/
def decadesOutside : List Nat → List Nat → Bool
  | start :: stop :: edges, zeros =>
    let later := zeros.dropWhile (· + 10 ≤ start)
    later.head?.all (fun first => start ≤ stop && stop ≤ first) && decadesOutside edges later
  | [], _ => true
  | [_], zeros => zeros.isEmpty

/-- Before a digit of a decade outside there are as many edges where the class starts as there are
where it stops. -/
theorem even_edges_of_decadesOutside {edges zeros : List Nat} (hsorted : zeros.Pairwise (· ≤ ·))
    (h : decadesOutside edges zeros = true) {first k : Nat} (hfirst : first ∈ zeros)
    (hlow : first ≤ k) (hhigh : k < first + 10) :
    (edges.takeWhile (· ≤ k)).length % 2 = 0 := by
  induction edges, zeros using decadesOutside.induct with
  | case1 start stop edges zeros later ih =>
    rw [decadesOutside, Bool.and_eq_true] at h
    obtain ⟨hrange, hrest⟩ := h
    rw [← List.takeWhile_append_dropWhile (p := (· + 10 ≤ start)) (l := zeros), List.mem_append]
      at hfirst
    rcases hfirst with hbefore | hlater
    · -- The decade ends before the range, so that no edge comes before the digit.
      have hend : first + 10 ≤ start := by simpa using List.mem_takeWhile_imp hbefore
      rw [List.takeWhile_cons_of_neg (by simp; omega)]
      rfl
    · have hsub := hsorted.sublist (List.dropWhile_sublist (· + 10 ≤ start))
      obtain ⟨next, more, hmore⟩ := List.exists_cons_of_ne_nil (List.ne_nil_of_mem hlater)
      have hnext : next ≤ first := by
        rw [hmore] at hlater hsub
        rcases List.mem_cons.mp hlater with rfl | hmem
        · exact le_refl first
        · exact List.rel_of_pairwise_cons hsub hmem
      rw [hmore, List.head?_cons, Option.all_some, Bool.and_eq_true, decide_eq_true_iff,
        decide_eq_true_iff] at hrange
      rw [List.takeWhile_cons_of_pos (by simp; omega), List.takeWhile_cons_of_pos (by simp; omega),
        List.length_cons, List.length_cons]
      have hrestEven := ih hsub hrest hlater
      omega
  | case2 => rfl
  | case3 edge zeros =>
    rw [decadesOutside, List.isEmpty_iff] at h
    rw [h] at hfirst
    cases hfirst

theorem digitZeros_sorted : digitZeros.Pairwise (· ≤ ·) := by
  rw [← List.isChain_iff_pairwise]
  decide +kernel

theorem CharClass.contains_digit {cls : CharClass} (h : decadesOutside cls.edges digitZeros = true)
    {c : Char} (hc : isDecimalDigit c) : cls.contains c = false := by
  obtain ⟨first, hfirst, hlow, hhigh⟩ := mem_decade_of_isDecimalDigit hc
  rw [contains, even_edges_of_decadesOutside digitZeros_sorted h hfirst hlow hhigh]
  rfl

theorem isBlank_of_isDecimalDigit {c : Char} (h : isDecimalDigit c) : isBlank c = false :=
  CharClass.contains_digit (by decide +kernel) h

theorem decimalDigit?_capitalDigit : ∀ d < 10, decimalDigit? (capitalDigit d) = some d := by
  decide

/-- The number that decimal digits of any script spell. -/
def decimalValue (cs : List Char) : Nat :=
  cs.foldl (fun n c => n * 10 + (decimalDigit? c).getD 0) 0

/-- The digits of a number add up to it, whatever tells what they stand for. -/
theorem foldl_capitalDigits (value : Char → Nat) (hb : 1 < b)
    (hvalue : ∀ d < b, value (capitalDigit d) = d) (n : Nat) :
    (capitalDigits b n).foldl (fun m c => m * b + value c) 0 = n := by
  induction n using Nat.strongRecOn with
  | ind n ih =>
    rcases Nat.lt_or_ge n b with hlt | hge
    · rw [capitalDigits_of_lt hlt, List.foldl_cons, List.foldl_nil, hvalue n hlt, Nat.zero_mul,
        Nat.zero_add]
    · have hhigh := ih (n / b) (Nat.div_lt_self (by omega) hb)
      rw [capitalDigits_of_le hb hge, List.foldl_append, hhigh, List.foldl_cons, List.foldl_nil,
        hvalue _ (Nat.mod_lt n (by omega)), Nat.div_add_mod']

/-- Zeros before a numeral count for nothing. -/
theorem foldl_zeros {value : Char → Nat} (hzero : value '0' = 0) (zeros : Nat) (cs : List Char) :
    (List.replicate zeros '0' ++ cs).foldl (fun m c => m * b + value c) 0 =
      cs.foldl (fun m c => m * b + value c) 0 := by
  induction zeros with
  | zero => rfl
  | succ zeros ih =>
    rw [List.replicate_succ, List.cons_append, List.foldl_cons, hzero, Nat.zero_mul, Nat.zero_add]
    exact ih

theorem decimalDigit?_lt {c : Char} {d : Nat} (h : decimalDigit? c = some d) : d < 10 := by
  rw [decimalDigit?] at h
  split at h
  · split at h
    · next hdigit =>
      cases h
      simp only [Char.isDigit, Bool.and_eq_true, decide_eq_true_eq] at hdigit
      have hhigh : c.toNat ≤ '9'.toNat := hdigit.2
      exact Nat.lt_of_le_of_lt (Nat.sub_le_sub_right hhigh _) (by decide)
    · cases h
  · obtain ⟨first, hfirst, rfl⟩ := Option.map_eq_some_iff.mp h
    have hrange := List.find?_some hfirst
    simp only [Bool.and_eq_true, decide_eq_true_eq] at hrange
    omega

/-- A numeral spells less than the power of ten that has as many zeros as it has digits. -/
theorem decimalValue_lt (cs : List Char) : decimalValue cs < 10 ^ cs.length := by
  have hfrom (acc : Nat) : cs.foldl (fun n c => n * 10 + (decimalDigit? c).getD 0) acc <
      (acc + 1) * 10 ^ cs.length := by
    induction cs generalizing acc with
    | nil => simp
    | cons c rest ih =>
      have hdigit : (decimalDigit? c).getD 0 < 10 := by
        cases hc : decimalDigit? c with
        | none => decide
        | some d => exact decimalDigit?_lt hc
      rw [List.foldl_cons, List.length_cons, Nat.pow_succ']
      calc _ < (acc * 10 + (decimalDigit? c).getD 0 + 1) * 10 ^ rest.length := ih _
        _ ≤ ((acc + 1) * 10) * 10 ^ rest.length := Nat.mul_le_mul_right _ (by omega)
        _ = (acc + 1) * (10 * 10 ^ rest.length) := Nat.mul_assoc _ _ _
  simpa [decimalValue] using hfrom 0

theorem decimalValue_capitalDigits (n : Nat) : decimalValue (capitalDigits 10 n) = n :=
  foldl_capitalDigits _ (by omega)
    (fun d hd => by rw [decimalDigit?_capitalDigit d hd, Option.getD_some]) n

theorem all_isDecimalDigit_capitalDigits (n : Nat) :
    (capitalDigits 10 n).all isDecimalDigit = true := by
  rw [List.all_eq_true]
  intro c hc
  obtain ⟨d, hd, rfl⟩ := mem_capitalDigits (by omega) hc
  rw [isDecimalDigit, decimalDigit?_capitalDigit d hd, Option.isSome_some]

/-! ### Reading digits -/

theorem readDigits?_underscore (acc : Nat) (joinable : Bool) (rest : List Char) :
    readDigits? b acc joinable ('_' :: rest) =
      if joinable then readDigits? b acc false rest else none := by
  rw [readDigits?]

theorem readDigits?_cons {acc : Nat} {joinable : Bool} {c : Char} {rest : List Char} (h : c ≠ '_') :
    readDigits? b acc joinable (c :: rest) =
      (digitOf? b c).bind fun d => readDigits? b (acc * b + d) true rest := by
  rw [readDigits?]
  exact h

/-- A digit behind a numeral is the lowest one of its number. -/
theorem readDigits?_snoc {acc m d : Nat} {joinable : Bool} {cs : List Char} (hb : b ≤ 16)
    (hd : d < b) (h : readDigits? b acc joinable cs = some m) :
    readDigits? b acc joinable (cs ++ [capitalDigit d]) = some (m * b + d) := by
  have hmark : capitalDigit d ≠ '_' := capitalDigit_ne_mark (by omega) '_' (by simp)
  induction cs generalizing acc joinable with
  | nil =>
    rw [readDigits?] at h
    split at h
    · cases h
      rw [List.nil_append, readDigits?_cons hmark, digitOf?_capitalDigit hb hd, Option.bind_some,
        readDigits?, if_pos rfl]
    · cases h
  | cons c rest ih =>
    by_cases hc : c = '_'
    · subst hc
      rw [readDigits?_underscore] at h
      split at h
      · rw [List.cons_append, readDigits?_underscore, if_pos (by assumption)]
        exact ih h
      · cases h
    · rw [readDigits?_cons hc] at h
      obtain ⟨e, he, h⟩ := Option.bind_eq_some_iff.mp h
      rw [List.cons_append, readDigits?_cons hc, he, Option.bind_some]
      exact ih h

theorem readDigits?_capitalDigits (hb : 1 < b) (hb' : b ≤ 16) (n : Nat) :
    readDigits? b 0 false (capitalDigits b n) = some n := by
  induction n using Nat.strongRecOn with
  | ind n ih =>
    rcases Nat.lt_or_ge n b with hlt | hge
    · have hmark : capitalDigit n ≠ '_' := capitalDigit_ne_mark (by omega) '_' (by simp)
      rw [capitalDigits_of_lt hlt, readDigits?_cons hmark, digitOf?_capitalDigit hb' hlt]
      simp [readDigits?]
    · have hshort := ih (n / b) (Nat.div_lt_self (by omega) hb)
      rw [capitalDigits_of_le hb hge, readDigits?_snoc hb' (Nat.mod_lt n (by omega)) hshort,
        Nat.div_add_mod']

/-! ### Readers of whole numerals -/

/-- No letter of a numeral is the mark of its own base. -/
theorem readMagnitude?_capitalDigits (hb : 1 < b) (hb' : b ≤ 16) (n : Nat) :
    readMagnitude? b (capitalDigits b n) = some n := by
  have hdigits := readDigits?_capitalDigits hb hb' n
  rw [readMagnitude?.eq_def]
  split
  · next c rest heq =>
    have hunmarked : markedBase? c ≠ some b := by
      have hc : c ∈ capitalDigits b n := by simp [heq]
      obtain ⟨d, hd, rfl⟩ := mem_capitalDigits hb hc
      intro hmark
      have := markedBase?_capitalDigit d (by omega) b hmark
      omega
    rw [if_neg hunmarked, ← heq, hdigits]
  · exact hdigits

/-- A sign in front of a numeral. -/
def signed (n : Int) (digits : List Char) : List Char := (if n < 0 then ['-'] else []) ++ digits

/-- What is trimmed off stands around what is left. -/
theorem exists_trimWith (drop : Char → Bool) (cs : List Char) :
    ∃ before after, cs = before ++ trimWith drop cs ++ after ∧
      (∀ c ∈ before, drop c = true) ∧ ∀ c ∈ after, drop c = true := by
  refine ⟨cs.takeWhile drop, ((cs.dropWhile drop).reverse.takeWhile drop).reverse, ?_,
    fun _ => List.mem_takeWhile_imp, fun _ hc => List.mem_takeWhile_imp (List.mem_reverse.mp hc)⟩
  rw [trimWith, List.append_assoc, ← List.reverse_append, List.takeWhile_append_dropWhile,
    List.reverse_reverse, List.takeWhile_append_dropWhile]

theorem trimWith_surrounded {drop : Char → Bool} {before cs after : List Char}
    (hbefore : ∀ c ∈ before, drop c = true) (hafter : ∀ c ∈ after, drop c = true)
    (hcs : ∀ c ∈ cs, drop c = false) : trimWith drop (before ++ cs ++ after) = cs := by
  have hkeep {cs : List Char} (rest : List Char) (hne : cs ≠ []) (hcs : ∀ c ∈ cs, drop c = false) :
      (cs ++ rest).dropWhile drop = cs ++ rest := by
    obtain ⟨c, more, rfl⟩ := List.exists_cons_of_ne_nil hne
    exact List.dropWhile_cons_of_neg (by simp [hcs c])
  have hback : ∀ c ∈ after.reverse, drop c = true := fun c hc => hafter c (List.mem_reverse.mp hc)
  rw [trimWith, List.append_assoc, List.dropWhile_append_of_pos hbefore]
  by_cases hne : cs = []
  · rw [hne, List.nil_append, List.dropWhile_eq_nil_iff.mpr hafter]
    rfl
  · have hreverse := hkeep [] (List.reverse_ne_nil_iff.mpr hne)
      fun c hc => hcs c (List.mem_reverse.mp hc)
    rw [List.append_nil] at hreverse
    rw [hkeep _ hne hcs, List.reverse_append, List.dropWhile_append_of_pos hback, hreverse,
      List.reverse_reverse]

theorem trimWith_eq_self {drop : Char → Bool} {cs : List Char} (h : ∀ c ∈ cs, drop c = false) :
    trimWith drop cs = cs := by
  have hnone : ∀ c ∈ ([] : List Char), drop c = true := nofun
  have htrim := trimWith_surrounded hnone hnone h
  rwa [List.nil_append, List.append_nil] at htrim

theorem splitSign_signed (n : Int) {digits : List Char}
    (h : ∀ c ∈ digits, c ≠ '-' ∧ c ≠ '+') :
    splitSign (signed n digits) = (decide (n < 0), digits) := by
  by_cases hn : n < 0
  · simp [signed, hn, splitSign]
  · rw [signed, if_neg hn, List.nil_append, splitSign.eq_def]
    split
    · next rest => exact absurd rfl (h '-' (by simp)).1
    · next rest => exact absurd rfl (h '+' (by simp)).2
    · simp [hn]

theorem applySign_natAbs (n : Int) : applySign (decide (n < 0)) n.natAbs = n := by
  simp only [applySign, decide_eq_true_eq]
  split <;> omega

section

variable {mark : List Char} (hb : 1 < b) (hb' : b ≤ 16) (n : Int)
  (hmark : ∀ c ∈ mark, isBlank c = false ∧ westernDigit c = c ∧ c ≠ '-' ∧ c ≠ '+')

include hb hb' hmark

/-- Behind a mark without signs and blanks there are none in the digits either. -/
theorem mem_marked {c : Char} (hc : c ∈ mark ++ capitalDigits b n.natAbs) :
    isBlank c = false ∧ westernDigit c = c ∧ c ≠ '-' ∧ c ≠ '+' := by
  rcases List.mem_append.mp hc with hc | hc
  · exact hmark c hc
  · obtain ⟨d, hd, rfl⟩ := mem_capitalDigits hb hc
    exact ⟨isBlank_capitalDigit d (by omega), westernDigit_capitalDigit d (by omega),
      capitalDigit_ne_mark (by omega) '-' (by simp), capitalDigit_ne_mark (by omega) '+' (by simp)⟩

theorem mem_signed {c : Char} (hc : c ∈ signed n (mark ++ capitalDigits b n.natAbs)) :
    isBlank c = false ∧ westernDigit c = c := by
  rcases List.mem_append.mp hc with hc | hc
  · split at hc
    · rw [List.mem_singleton.mp hc]
      decide
    · cases hc
  · obtain ⟨hblank, hwestern, _⟩ := mem_marked hb hb' n hmark hc
    exact ⟨hblank, hwestern⟩

/-- What readers of signed numerals take the sign off. -/
theorem splitSign_numeral :
    splitSign ((trimWith isNumeralBlank (signed n (mark ++ capitalDigits b n.natAbs))).map
      westernDigit) = (decide (n < 0), mark ++ capitalDigits b n.natAbs) := by
  have hsigned {c : Char} := mem_signed (c := c) hb hb' n hmark
  have htrim : trimWith isNumeralBlank (signed n (mark ++ capitalDigits b n.natAbs)) =
      signed n (mark ++ capitalDigits b n.natAbs) :=
    trimWith_eq_self fun c hc => by rw [isNumeralBlank, (hsigned hc).1, Bool.false_and]
  have hwestern : (signed n (mark ++ capitalDigits b n.natAbs)).map westernDigit =
      signed n (mark ++ capitalDigits b n.natAbs) :=
    (List.map_congr_left fun c hc => (hsigned hc).2).trans (List.map_id _)
  rw [htrim, hwestern]
  exact splitSign_signed n fun c hc => (mem_marked hb hb' n hmark hc).2.2

/-- Readers of signed numerals read a number back if their magnitudes do. The digits may stand
behind a mark. -/
theorem readSigned?_signed {magnitude? : List Char → Option Nat}
    (h : magnitude? (mark ++ capitalDigits b n.natAbs) = some n.natAbs) :
    readSigned? magnitude? (signed n (mark ++ capitalDigits b n.natAbs)) = some n := by
  rw [readSigned?, splitSign_numeral hb hb' n hmark]
  simp only [h, Option.map_some, applySign_natAbs]

end

/-- The digits of a decimal numeral are counted, and nothing else is in it. -/
theorem digitCount_capitalDigits (n : Nat) :
    digitCount (capitalDigits 10 n) = (Nat.toDigits 10 n).length := by
  have hdigits : ∀ c ∈ Nat.toDigits 10 n, c.isDigit = true := fun _ hc =>
    Nat.isDigit_of_mem_toDigits (by omega) (le_refl 10) hc
  have htake : (Nat.toDigits 10 n).takeWhile (fun c => c.isDigit || c == '_') =
      Nat.toDigits 10 n :=
    List.takeWhile_eq_self_iff.mpr fun c hc => by rw [hdigits c hc, Bool.true_or]
  rw [capitalDigits_ten, Nat.toList_repr, digitCount, htake, List.filter_eq_self.mpr hdigits]

theorem signedDigitCount_decimal (n : Int) :
    signedDigitCount (signed n (capitalDigits 10 n.natAbs)) =
      (Nat.toDigits 10 n.natAbs).length := by
  have hsplit : splitSign ((trimWith isNumeralBlank
      (signed n ([] ++ capitalDigits 10 n.natAbs))).map westernDigit) =
        (decide (n < 0), [] ++ capitalDigits 10 n.natAbs) :=
    splitSign_numeral (by omega) (by omega) n nofun
  rw [List.nil_append] at hsplit
  rw [signedDigitCount, hsplit, digitCount_capitalDigits]

theorem fitsDigits_iff {limit n : Nat} :
    Host.fitsDigits limit n = true ↔ (Nat.toDigits 10 n).length ≤ limit := by
  induction limit generalizing n with
  | zero =>
    have hpos : 0 < (Nat.toDigits 10 n).length := Nat.length_toDigits_pos
    exact iff_of_false Bool.false_ne_true (by omega)
  | succ limit ih =>
    rw [Host.fitsDigits, Bool.or_eq_true, decide_eq_true_iff, ih]
    rcases Nat.lt_or_ge n 10 with hlt | hge
    · rw [Nat.toDigits_of_lt_base hlt, List.length_singleton]
      exact iff_of_true (.inl hlt) (by omega)
    · rw [Nat.toDigits_of_base_le (by omega) hge, List.length_append, List.length_singleton]
      omega

/-- An integer is read from its decimal digits exactly if the host writes them. -/
theorem readingFault?_toDigits_iff [Host] {n : Int} :
    Host.readingFault? (Nat.toDigits 10 n.natAbs).length = none ↔ Host.writingFault? n = none := by
  rw [Host.readingFault?, Host.writingFault?]
  split
  · next limit _ =>
    simp only [ite_eq_right_iff, ite_eq_left_iff, reduceCtorEq, imp_false, Nat.not_lt, not_not]
    exact fitsDigits_iff.symm
  · exact Iff.rfl

/-- So is an integer in plain numerals if the host reads as many digits of it in any script, with
zeros before it. -/
theorem readingFault?_toDigits_decimalValue [Host] {cs : List Char} (hne : cs ≠ [])
    (h : Host.readingFault? cs.length = none) :
    Host.readingFault? (Nat.toDigits 10 (decimalValue cs)).length = none :=
  Host.readingFault?_of_le
    (Nat.toDigits_length 10 _ _ (List.length_pos_iff.mpr hne) (decimalValue_lt cs)) h

/-! ### Writers -/

theorem upperHex_toList (n : Nat) : (upperHex n).toList = capitalDigits 16 n := by
  rw [upperHex, String.toList_ofList, capitalDigits]

theorem signedUpperHex_toList (n : Int) :
    (signedUpperHex n).toList = signed n (capitalDigits 16 n.natAbs) := by
  rw [signedUpperHex, String.toList_append, upperHex_toList, signed]
  split <;> rfl

theorem toString_toList (n : Int) : (toString n).toList = signed n (capitalDigits 10 n.natAbs) := by
  rw [Int.toString_eq_repr, Int.repr_eq_if, signed, capitalDigits_ten]
  by_cases hn : n < 0
  · have habs : (-n).toNat = n.natAbs := by omega
    rw [if_neg (by omega), if_pos hn, String.toList_append, habs]
    rfl
  · have habs : n.toNat = n.natAbs := by omega
    rw [if_pos (by omega), if_neg hn, habs, List.nil_append]

end GameAtlas.Text
