import Mathlib.Tactic
import GameAtlas.Proofs.Script.Truncated

/-!
Tables of patterns as greedy lexers. At every position the longest pattern that matches is taken,
the first of equally long ones, and a byte is escaped where none matches: there is one way to cut an
input like this, and decoding finds it. So the order of patterns matters among equally long ones
only, and a pattern behind one with the same bytes is never taken.
-/

namespace GameAtlas.Script

namespace Pattern

variable {ps qs : List Pattern} {p q : Pattern} {input : List UInt8}

/-- The input starts with bytes that a pattern matches: as many as it has places, and at every place
that fixes a byte this byte. -/
def Matches (p : Pattern) (input : List UInt8) : Prop :=
  ∃ front rest, input = front ++ rest ∧
    List.Forall₂ (fun expected b => ∀ e, expected = some e → e = b) p.bytes front

/-- The longest pattern that matches, and the first of these. -/
def Chosen (ps : List Pattern) (input : List UInt8) (p : Pattern) : Prop :=
  ∃ before after, ps = before ++ p :: after ∧ p.Matches input ∧
    (∀ q ∈ before, q.Matches input → q.length < p.length) ∧
    (∀ q ∈ after, q.Matches input → q.length ≤ p.length)

theorem fits_of_agrees {expected : List (Option UInt8)} {front : List UInt8}
    (h : List.Forall₂ (fun expected b => ∀ e, expected = some e → e = b) expected front)
    (rest : List UInt8) : fits expected (front ++ rest) = true := by
  induction h with
  | nil => rfl
  | @cons place b _ _ hplace _ ih =>
    rw [List.cons_append, fits, ih, Bool.and_true]
    cases place with
    | none => rfl
    | some e => simp [hplace e rfl]

theorem fits_iff_matches (p : Pattern) (input : List UInt8) :
    fits p.bytes input = true ↔ p.Matches input := by
  constructor
  · intro h
    exact ⟨_, _, (List.take_append_drop p.bytes.length input).symm, fits_agrees p.bytes input h⟩
  · rintro ⟨front, rest, rfl, hagrees⟩
    exact fits_of_agrees hagrees rest

theorem wins_iff_chosen : Wins ps input p ↔ Chosen ps input p := by
  simp only [Wins, Chosen, fits_iff_matches]

theorem Chosen.mem (h : Chosen ps input p) : p ∈ ps := (wins_iff_chosen.mpr h).mem

theorem Chosen.matches (h : Chosen ps input p) : p.Matches input := by
  obtain ⟨_, _, _, hmatches, _⟩ := h
  exact hmatches

theorem Matches.bytes_eq_nil (h : p.Matches []) : p.bytes = [] := by
  obtain ⟨front, rest, hinput, hagrees⟩ := h
  obtain ⟨rfl, _⟩ := List.append_eq_nil_iff.mp hinput.symm
  exact List.forall₂_nil_right_iff.mp hagrees

/-! ### The first of every length -/

/-- The first pattern of a length that fits. -/
def firstOf (ps : List Pattern) (input : List UInt8) (n : Nat) : Option Pattern :=
  ps.find? fun p => p.length == n && fits p.bytes input

/-- The winner is the first of its length, and no longer pattern fits. -/
theorem wins_iff_firstOf :
    Wins ps input p ↔
      firstOf ps input p.length = some p ∧ ∀ n, p.length < n → firstOf ps input n = none := by
  constructor
  · intro h
    refine ⟨?_, fun n hn => ?_⟩
    · obtain ⟨before, after, rfl, hfits, hbefore, _⟩ := h
      refine List.find?_eq_some_iff_append.mpr ⟨by simp [hfits], before, after, rfl, ?_⟩
      intro q hq
      have hshorter := hbefore q hq
      grind
    · refine List.find?_eq_none.mpr fun q hq hfound => ?_
      simp only [Bool.and_eq_true, beq_iff_eq] at hfound
      have hle := h.le hq hfound.2
      omega
  · rintro ⟨hfirst, hlonger⟩
    obtain ⟨hfits, before, after, rfl, hbefore⟩ := List.find?_eq_some_iff_append.mp hfirst
    have hle (q : Pattern) (hq : q ∈ before ++ p :: after) (hfitsq : fits q.bytes input) :
        q.length ≤ p.length := by
      by_contra hgreater
      have hnone := List.find?_eq_none.mp (hlonger q.length (not_le.mp hgreater)) q hq
      simp [hfitsq] at hnone
    refine ⟨before, after, rfl, (by simpa using hfits), fun q hq hfitsq => ?_, fun q hq => ?_⟩
    · have hother : q.length ≠ p.length := by
        intro hsame
        have hnot := hbefore q hq
        simp [hsame, hfitsq] at hnot
      exact lt_of_le_of_ne (hle q (List.mem_append_left _ hq) hfitsq) hother
    · exact hle q (List.mem_append_right _ (List.mem_cons_of_mem p hq))

theorem Wins.unique (hp : Wins ps input p) (hq : Wins ps input q) : p = q := by
  have hlength : p.length = q.length :=
    le_antisymm (hq.le hp.mem hp.fits) (hp.le hq.mem hq.fits)
  have hfirst := (wins_iff_firstOf.mp hp).1
  rw [hlength, (wins_iff_firstOf.mp hq).1] at hfirst
  exact (Option.some.inj hfirst).symm

theorem longest?_eq_some_iff : longest? ps input = some p ↔ Wins ps input p := by
  refine ⟨longest?_some ps input p, fun hwins => ?_⟩
  cases hlongest : longest? ps input with
  | none =>
    have hunfit := longest?_none ps input hlongest p hwins.mem
    rw [hwins.fits] at hunfit
    cases hunfit
  | some q => rw [hwins.unique (longest?_some ps input q hlongest)]

/-- Which pattern is taken depends on the first one of every length only. -/
theorem longest?_congr (h : ∀ n, firstOf ps input n = firstOf qs input n) :
    longest? ps input = longest? qs input := by
  refine Option.ext fun p => ?_
  rw [longest?_eq_some_iff, longest?_eq_some_iff, wins_iff_firstOf, wins_iff_firstOf]
  simp only [h]

/-- Patterns in another order, where those of one length keep theirs. -/
structure Rearranged (ps qs : List Pattern) : Prop where
  perm : ps.Perm qs
  kept : ∀ n, ps.filter (fun p => p.length == n) = qs.filter (fun p => p.length == n)

theorem Rearranged.longest?_eq (h : Rearranged ps qs) (input : List UInt8) :
    longest? qs input = longest? ps input := by
  refine longest?_congr fun n => ?_
  have hfilter (rs : List Pattern) :
      firstOf rs input n =
        (rs.filter fun p => p.length == n).find? fun p => fits p.bytes input := by
    rw [firstOf, List.find?_filter]
    simp only [Bool.decide_and, Bool.decide_eq_true]
  rw [hfilter, hfilter, h.kept n]

/-- A pattern behind one with the same bytes is never taken. -/
theorem longest?_drop (earlier later : List Pattern) (hp : p ∈ earlier) (hsame : p.bytes = q.bytes)
    (input : List UInt8) :
    longest? (earlier ++ later) input = longest? (earlier ++ q :: later) input := by
  refine longest?_congr fun n => ?_
  unfold firstOf
  rw [List.find?_append, List.find?_append]
  by_cases hq : (q.length == n && fits q.bytes input) = true
  · have hfound : (earlier.find? fun p => p.length == n && fits p.bytes input).isSome := by
      refine List.find?_isSome.mpr ⟨p, hp, ?_⟩
      rw [length, hsame]
      exact hq
    obtain ⟨found, hfound⟩ := Option.isSome_iff_exists.mp hfound
    rw [hfound, Option.some_or, Option.some_or]
  · simp only [List.find?_cons, Bool.eq_false_iff.mpr hq]

end Pattern

/-- The input is cut from the left: by the chosen pattern, or one byte where none matches. -/
inductive Greedy (ps : List Pattern) : List UInt8 → List Segment → Prop where
  | done : Greedy ps [] []
  | escape {b : UInt8} {rest : List UInt8} {segments : List Segment} :
      (∀ p ∈ ps, ¬ p.Matches (b :: rest)) → Greedy ps rest segments →
      Greedy ps (b :: rest) (.single b :: segments)
  | take {p : Pattern} {input : List UInt8} {segments : List Segment} :
      Pattern.Chosen ps input p → Greedy ps (input.drop p.length) segments →
      Greedy ps input (p.segment input :: segments)

namespace Table

variable {t : Table} {input : List UInt8}

/-- A table that is a list of patterns: each has a byte to match, and the tree of a list without
patterns says nothing. -/
structure IsList (t : Table) : Prop where
  formed : t.WellFormed
  bare : t.patterns = [] → t.root.children = []

/-- A table that was read from a sequence is a list, and stays one when patterns are added. -/
theorem isList_of_ofNode [Host] {name tag : String} {items : List Yaml.Node} {flow : Bool}
    {share : Option Nat} (h : ofNode name (.sequence tag items flow share) = .ok t) :
    t.IsList := by
  refine ⟨wellFormed_of_ofNode h, fun _ => ?_⟩
  rw [ofNode] at h
  obtain ⟨patterns, _, h⟩ := bind_eq_ok_iff.mp h
  cases h
  rfl

theorem IsList.add {t' : Table} {p : Pattern} (ht : t.IsList) (h : t.add p = .ok t') :
    t'.IsList := by
  refine ⟨wellFormed_of_add ht.formed h, fun hnil => ?_⟩
  rw [Table.add] at h
  obtain ⟨q, _, h⟩ := bind_eq_ok_iff.mp h
  cases h
  simp at hnil

/-- What a list cuts off is the choice at the front of the input. -/
theorem Falls.greedy [Host] {segments : List Segment} (h : t.Falls input segments) (ht : t.IsList) :
    Greedy t.patterns input segments := by
  induction h with
  | done => exact .done
  | @cut s rest segments hcuts hnonempty hagrees _ ih =>
    generalize hinput : s.bytes ++ rest = input at hcuts
    cases hcuts with
    | unknownByte b left hpatterns _ =>
      cases hinput
      exact .escape (by simp [hpatterns]) ih
    | path b left path first last size hpatterns hchild =>
      rw [Trie.child?, ht.bare hpatterns] at hchild
      cases hchild
    | noPattern b left _ hnone =>
      cases hinput
      refine .escape (fun p hp hmatches => ?_) ih
      rw [← Pattern.fits_iff_matches, hnone p hp] at hmatches
      cases hmatches
    | pattern p _ hwins =>
      have hrest : rest = input.drop p.length := by
        refine List.append_cancel_left (hinput.trans ?_)
        exact (List.take_append_drop p.length input).symm
      rw [hrest] at ih
      exact .take (Pattern.wins_iff_chosen.mp hwins) ih

end Table

/-- There is one such way. The induction is on one of two: the other takes the same steps. -/
theorem Greedy.unique {ps : List Pattern} {input : List UInt8} {segments other : List Segment}
    (hps : ∀ p ∈ ps, p.bytes ≠ []) (h : Greedy ps input segments) (hother : Greedy ps input other) :
    other = segments := by
  induction h generalizing other with
  | done =>
    cases hother with
    | done => rfl
    | take hchosen _ => exact absurd hchosen.matches.bytes_eq_nil (hps _ hchosen.mem)
  | escape hnone _ ih =>
    cases hother with
    | escape _ hrest => rw [ih hrest]
    | take hchosen _ => exact absurd hchosen.matches (hnone _ hchosen.mem)
  | take hchosen _ ih =>
    cases hother with
    | done => exact absurd hchosen.matches.bytes_eq_nil (hps _ hchosen.mem)
    | escape hnone _ => exact absurd hchosen.matches (hnone _ hchosen.mem)
    | take hchosen' hrest =>
      have hwins := Pattern.wins_iff_chosen.mpr hchosen
      obtain rfl := hwins.unique (Pattern.wins_iff_chosen.mpr hchosen')
      rw [ih hrest]

namespace Table

variable {t : Table} {input : List UInt8}

/-- A list decodes to the text of the one greedy way to cut the input. -/
theorem IsList.exists_greedy [Host] (ht : t.IsList) (input : List UInt8) :
    ∃ segments, (∀ other, Greedy t.patterns input other ↔ other = segments) ∧
      t.decode input = .ok (String.join (segments.map Segment.text)) := by
  have hmeasured (hpatterns : t.patterns = []) (level : Trie) (hbelow : level.Below t.root) :
      level.Measured := by
    obtain ⟨p, hp, _⟩ := hbelow.exists_child
    rw [ht.bare hpatterns] at hp
    cases hp
  obtain ⟨runs, hruns⟩ := runsFrom_total (t.runAt_total hmeasured) 0 0 input
  obtain ⟨segments, haccounted⟩ :=
    t.accounted_of_runsFrom ht.formed input.length input 0 runs le_rfl hruns
  have hgreedy := haccounted.falls.greedy ht
  refine ⟨segments, fun other => ⟨hgreedy.unique ht.formed, ?_⟩, ?_⟩
  · rintro rfl
    exact hgreedy
  · rw [decode, Table.runs, hruns, ← haccounted.texts]
    rfl

/-- Patterns of which the same is taken everywhere decode alike. -/
theorem decode_patterns_congr [Host] {qs : List Pattern} (hempty : qs = [] ↔ t.patterns = [])
    (h : ∀ input, Pattern.longest? qs input = Pattern.longest? t.patterns input)
    (input : List UInt8) : ({ t with patterns := qs } : Table).decode input = t.decode input := by
  refine decode_congr (fun position b rest => ?_) input
  have hempty : qs.isEmpty = t.patterns.isEmpty := by
    rw [Bool.eq_iff_iff, List.isEmpty_iff, List.isEmpty_iff, hempty]
  rw [runAt, runAt, Pattern.runAt, Pattern.runAt, h, hempty]
  rfl

/-- Decoding a list is greedy: there is one way to cut the input from the left by the longest
pattern that matches, the first of equally long ones, or by one byte where none matches, and the
text is that of its segments. Patterns may change their places as long as equally long ones keep
their order, and a pattern behind one with the same bytes may be left out. -/
theorem decode_greedy [Host] (ht : t.IsList) (input : List UInt8) :
    (∃ segments, (∀ other, Greedy t.patterns input other ↔ other = segments) ∧
        t.decode input = .ok (String.join (segments.map Segment.text))) ∧
      (∀ qs, Pattern.Rearranged t.patterns qs →
        ({ t with patterns := qs } : Table).decode input = t.decode input) ∧
      ∀ earlier p q later, t.patterns = earlier ++ q :: later → p ∈ earlier → p.bytes = q.bytes →
        ({ t with patterns := earlier ++ later } : Table).decode input = t.decode input := by
  refine ⟨ht.exists_greedy input, fun qs hqs => ?_, fun earlier p q later hpatterns hp hsame => ?_⟩
  · have hempty : qs = [] ↔ t.patterns = [] := by
      rw [← List.length_eq_zero_iff, ← List.length_eq_zero_iff, hqs.perm.length_eq]
    exact decode_patterns_congr hempty hqs.longest?_eq input
  · have hempty : earlier ++ later = [] ↔ t.patterns = [] := by
      have hearlier : earlier ≠ [] := List.ne_nil_of_mem hp
      simp [hpatterns, hearlier]
    refine decode_patterns_congr hempty (fun input => ?_) input
    rw [hpatterns]
    exact Pattern.longest?_drop earlier later hp hsame input

/-- A wait with an open byte, which is a stop if the byte is zero, and again a wait. -/
def sampleList : Table where
  name := "Old"
  patterns :=
    [⟨[some 0x80], some "<none>"⟩, ⟨[some 0x80, none], some "<wait>"⟩,
     ⟨[some 0x80, some 0x00], some "<stop>"⟩, ⟨[some 0x80, none], none⟩]

/-- The stop is behind an equally long pattern that matches as well: the first one is taken. -/
theorem sampleList_greedy :
    sampleList.IsList ∧
      sampleList.decode [0x80, 0x00, 0x07, 0x80] = .ok "<wait>[00][07]<none>" ∧
      (∃ segments, Greedy sampleList.patterns [0x80, 0x00, 0x07, 0x80] segments ∧
        String.join (segments.map Segment.text) = "<wait>[00][07]<none>") ∧
      ({ sampleList with patterns := [⟨[some 0x80, none], some "<wait>"⟩,
          ⟨[some 0x80], some "<none>"⟩, ⟨[some 0x80, some 0x00], some "<stop>"⟩,
          ⟨[some 0x80, none], none⟩] } : Table).decode [0x80, 0x00, 0x07, 0x80] =
        .ok "<wait>[00][07]<none>" ∧
      ({ sampleList with patterns := sampleList.patterns.take 3 } : Table).decode
        [0x80, 0x00, 0x07, 0x80] = .ok "<wait>[00][07]<none>" := by
  have hlist : sampleList.IsList := ⟨by unfold WellFormed; decide, nofun⟩
  have hdecode : sampleList.decode [0x80, 0x00, 0x07, 0x80] = .ok "<wait>[00][07]<none>" := rfl
  obtain ⟨⟨segments, hunique, htext⟩, hrearranged, hdropped⟩ :=
    decode_greedy hlist [0x80, 0x00, 0x07, 0x80]
  refine ⟨hlist, hdecode, ⟨segments, (hunique segments).mpr rfl, ?_⟩, ?_, ?_⟩
  · rw [hdecode] at htext
    exact (Except.ok.inj htext).symm
  · refine (hrearranged _ ⟨by decide, fun n => ?_⟩).trans hdecode
    match n with
    | 0 => rfl
    | 1 => rfl
    | 2 => rfl
    | _ + 3 => rfl
  · let wait : Pattern := ⟨[some 0x80, none], some "<wait>"⟩
    have hdrop := hdropped (sampleList.patterns.take 3) wait ⟨[some 0x80, none], none⟩ [] rfl
      (by decide) rfl
    exact hdrop.trans hdecode

end Table

end GameAtlas.Script
