import Mathlib.Tactic
import GameAtlas.Proofs.Script.Loaded

/-!
How a script table accounts for its input. The input falls into segments, each of which an entry of
the table cuts off at the front of what is left: a path through the tree or a pattern, which fixes
some of the bytes and leaves the others open. A byte without an entry is a segment of its own. The
text is that of the segments, where open bytes are written as escapes.
-/

namespace GameAtlas.Script

open Schema (SizeError)

/-- A piece of the input, the byte that its entry fixes at every place, and the entry's text. -/
structure Segment where
  bytes : List UInt8
  fixed : List (Option UInt8)
  replacement : Option String

namespace Segment

/-- A byte that no entry fits. -/
def single (b : UInt8) : Segment := ⟨[b], [none], none⟩

/-- The bytes at the places that are not fixed, in their order. -/
def openBytes (s : Segment) : List UInt8 :=
  ((s.bytes.zip s.fixed).filter fun p => p.2.isNone).map Prod.fst

/-- The escapes of all bytes, or the text of the entry and the escapes of the open bytes. -/
def text (s : Segment) : String :=
  match s.replacement with
  | none => escapes s.bytes
  | some replacement => replacement ++ escapes s.openBytes

/-- Every place is accounted for, and a fixed byte is the byte that is there. -/
def Agrees (s : Segment) : Prop :=
  List.Forall₂ (fun expected b => ∀ e, expected = some e → e = b) s.fixed s.bytes

end Segment

/-! ### What entries cut off -/

namespace Trie

/-- A path leads down from a level at some depth: every level that it leaves has a run that reaches
deeper. -/
inductive Leads [Host] (input : List UInt8) : Trie → Nat → List UInt8 → Trie → Prop where
  | stop (t : Trie) (depth : Nat) : Leads input t depth [] t
  | step {t next last : Trie} {depth size : Nat} {b : UInt8} {path : List UInt8} :
      t.runSize input = .ok size → depth < size → t.child? b = some next →
      Leads input next (depth + 1) path last → Leads input t depth (b :: path) last

/-- The segment of a path through a tree at the front of the input: as long as the size says, but no
shorter than the path and no longer than the input. -/
def segment (input path : List UInt8) (size : Nat) (replacement : Option String) : Segment :=
  let bytes := input.take (max path.length size)
  ⟨bytes, path.map some ++ List.replicate (bytes.length - path.length) none, replacement⟩

end Trie

namespace Pattern

/-- The pattern that wins: the longest that fits, and the first of these. -/
def Wins (ps : List Pattern) (input : List UInt8) (p : Pattern) : Prop :=
  ∃ before after, ps = before ++ p :: after ∧ fits p.bytes input ∧
    (∀ q ∈ before, fits q.bytes input → q.length < p.length) ∧
    (∀ q ∈ after, fits q.bytes input → q.length ≤ p.length)

/-- The segment of a pattern at the front of the input. -/
def segment (p : Pattern) (input : List UInt8) : Segment :=
  ⟨input.take p.length, p.bytes, p.replacement⟩

end Pattern

/-- A table cuts a segment off the front of its input. -/
inductive Table.Cuts [Host] (t : Table) : List UInt8 → Segment → Prop where
  /-- The tree has no level for the byte. -/
  | unknownByte (b : UInt8) (rest : List UInt8) :
      t.patterns = [] → t.root.child? b = none → Cuts t (b :: rest) (.single b)
  /-- The tree is descended as far as the input leads and the runs reach. -/
  | path (b : UInt8) (rest path : List UInt8) (first last : Trie) (size : Nat) :
      t.patterns = [] → t.root.child? b = some first → path <+: rest →
      first.Leads (b :: rest) 1 path last → last.runSize (b :: rest) = .ok size →
      (∀ next, path.length + 1 < size → rest[path.length]? = some next →
        last.child? next = none) →
      Cuts t (b :: rest) (Trie.segment (b :: rest) (b :: path) size last.replacement)
  /-- No pattern fits. -/
  | noPattern (b : UInt8) (rest : List UInt8) :
      t.patterns ≠ [] → (∀ p ∈ t.patterns, Pattern.fits p.bytes (b :: rest) = false) →
      Cuts t (b :: rest) (.single b)
  | pattern (p : Pattern) (input : List UInt8) :
      Pattern.Wins t.patterns input p → Cuts t input (p.segment input)

/-- The input falls into segments that the table cuts off one after the other. -/
inductive Table.Falls [Host] (t : Table) : List UInt8 → List Segment → Prop where
  | done : Falls t [] []
  | cut {s : Segment} {rest : List UInt8} {segments : List Segment} :
      t.Cuts (s.bytes ++ rest) s → s.bytes ≠ [] → s.Agrees → Falls t rest segments →
      Falls t (s.bytes ++ rest) (s :: segments)

/-- A run is a segment at the front of the input: as long, of the same text, and in agreement with
the bytes that are there. -/
structure Run.IsSegment (run : Run) (input : List UInt8) (s : Segment) : Prop where
  front : s.bytes <+: input
  nonempty : s.bytes ≠ []
  agrees : s.Agrees
  length : run.length = s.bytes.length
  text : run.text = s.text

theorem Run.single_isSegment (b : UInt8) (rest : List UInt8) :
    (Run.single b).IsSegment (b :: rest) (.single b) where
  front := ⟨rest, rfl⟩
  nonempty := by simp [Segment.single]
  agrees := by
    refine .cons ?_ .nil
    intro e he
    cases he
  length := rfl
  text := by simp [Run.single, Run.text, Segment.single, Segment.text]

/-- What is left of an input behind a run. -/
theorem Run.IsSegment.drop {run : Run} {b : UInt8} {rest left : List UInt8} {s : Segment}
    (h : run.IsSegment (b :: rest) s) (hleft : s.bytes ++ left = b :: rest) :
    rest.drop (run.length - 1) = left := by
  obtain ⟨k, hk⟩ := Nat.exists_eq_add_one_of_ne_zero (List.length_pos_iff.mpr h.nonempty).ne'
  have hcons : rest.drop (run.length - 1) = (b :: rest).drop run.length := by
    rw [h.length, hk, List.drop_succ_cons, Nat.add_sub_cancel]
  rw [hcons, ← hleft, h.length, List.drop_left]

theorem Run.IsSegment.left_shorter {run : Run} {input left : List UInt8} {s : Segment}
    (h : run.IsSegment input s) (hleft : s.bytes ++ left = input) : left.length < input.length := by
  have hpositive : 0 < s.bytes.length := List.length_pos_iff.mpr h.nonempty
  rw [← hleft, List.length_append]
  omega

/-! ### Segments of paths -/

namespace Segment

theorem openBytes_replicate (bytes : List UInt8) (r : Option String) :
    (⟨bytes, List.replicate bytes.length none, r⟩ : Segment).openBytes = bytes := by
  induction bytes with
  | nil => rfl
  | cons b rest ih => simpa [openBytes, List.replicate_succ] using ih

/-- Behind a path all bytes are open. -/
theorem openBytes_path (path more : List UInt8) (r : Option String) :
    (⟨path ++ more, path.map some ++ List.replicate more.length none, r⟩ : Segment).openBytes =
      more := by
  induction path with
  | nil => simpa using openBytes_replicate more r
  | cons b rest ih => simpa [openBytes] using ih

theorem agrees_path (path more : List UInt8) (r : Option String) :
    (⟨path ++ more, path.map some ++ List.replicate more.length none, r⟩ : Segment).Agrees := by
  unfold Agrees
  induction path with
  | nil =>
    induction more with
    | nil => exact .nil
    | cons b rest ih =>
      refine .cons ?_ (by simpa using ih)
      intro e he
      cases he
  | cons b rest ih =>
    refine .cons ?_ ih
    intro e he
    cases he
    rfl

end Segment

namespace Trie

/-- The run of a path that the input starts with has the path's bytes and open bytes behind them. -/
theorem ofEntry_isSegment (path more : List UInt8) (size : Nat) (r : Option String)
    (hpath : path ≠ []) :
    let bytes := (path ++ more).take (max path.length size)
    (Run.ofEntry r bytes (bytes.drop path.length)).IsSegment (path ++ more)
      (segment (path ++ more) path size r) := by
  intro bytes
  have hbytes : bytes = path ++ more.take (size - path.length) := by
    have hbehind : max path.length size - path.length = size - path.length := by omega
    simp only [bytes, List.take_append, hbehind]
    rw [List.take_of_length_le (Nat.le_max_left path.length size)]
  have hsegment : segment (path ++ more) path size r =
      ⟨path ++ more.take (size - path.length),
        path.map some ++ List.replicate (more.take (size - path.length)).length none, r⟩ := by
    unfold segment
    change (⟨bytes, path.map some ++ List.replicate (bytes.length - path.length) none, r⟩ :
      Segment) = _
    rw [hbytes, List.length_append, Nat.add_sub_cancel_left]
  rw [hsegment, hbytes, List.drop_left]
  constructor
  · exact (List.prefix_append_right_inj path).mpr (List.take_prefix _ more)
  · simp [hpath]
  · exact Segment.agrees_path path _ r
  · cases r <;> rfl
  · cases r with
    | none => simp [Run.ofEntry, Run.text, Segment.text]
    | some replacement =>
      simp only [Run.ofEntry, Run.text, Segment.text, Segment.openBytes_path]

/-- What a descent that ends in a size says: the path it took, and why it stopped. -/
theorem descend_ok [Host] (input rest : List UInt8) (t last : Trie) (depth depth' size : Nat)
    (h : descend input t depth rest = .ok (last, depth', size)) :
    ∃ path, path <+: rest ∧ depth' = depth + path.length ∧ t.Leads input depth path last ∧
      last.runSize input = .ok size ∧
      ∀ next, depth' < size → rest[path.length]? = some next → last.child? next = none := by
  induction rest generalizing t depth with
  | nil =>
    unfold descend at h
    obtain ⟨n, hsize, h⟩ := bind_eq_ok_iff.mp h
    cases h
    exact ⟨[], List.prefix_rfl, rfl, .stop _ _, hsize, by simp⟩
  | cons b rest ih =>
    unfold descend at h
    obtain ⟨n, hsize, h⟩ := bind_eq_ok_iff.mp h
    split at h
    next hdeep =>
      cases hchild : t.child? b with
      | none =>
        rw [hchild] at h
        cases h
        refine ⟨[], List.nil_prefix, rfl, .stop _ _, hsize, ?_⟩
        intro next _ hnext
        cases hnext
        exact hchild
      | some child =>
        rw [hchild] at h
        obtain ⟨path, hpath, hdepth, hleads, hlast, hstop⟩ := ih child (depth + 1) h
        refine ⟨b :: path, (List.prefix_cons_inj b).mpr hpath, ?_,
          .step hsize hdeep hchild hleads, hlast, ?_⟩
        · simp only [List.length_cons]
          omega
        · intro next hlt hnext
          exact hstop next hlt (by simpa using hnext)
    next hshallow =>
      cases h
      refine ⟨[], List.nil_prefix, rfl, .stop _ _, hsize, ?_⟩
      intro next hlt
      exact absurd hlt hshallow

end Trie

/-! ### Segments of patterns -/

namespace Pattern

theorem fits_agrees (expected : List (Option UInt8)) (input : List UInt8)
    (h : fits expected input = true) :
    List.Forall₂ (fun expected b => ∀ e, expected = some e → e = b) expected
      (input.take expected.length) := by
  induction expected generalizing input with
  | nil => exact .nil
  | cons place more ih =>
    cases input with
    | nil => cases h
    | cons b rest =>
      simp only [fits, Bool.and_eq_true, Bool.or_eq_true, beq_iff_eq] at h
      obtain ⟨hplace, hmore⟩ := h
      refine .cons ?_ (ih rest hmore)
      rintro e rfl
      rcases hplace with hnone | hsome
      · cases hnone
      · exact Option.some.inj hsome

theorem openBytes_eq (expected : List (Option UInt8)) (bytes : List UInt8) (r : Option String) :
    openBytes expected bytes = (⟨bytes, expected, r⟩ : Segment).openBytes := by
  induction expected generalizing bytes with
  | nil => simp [openBytes, Segment.openBytes]
  | cons place more ih =>
    cases bytes with
    | nil => cases place <;> simp [openBytes, Segment.openBytes]
    | cons b rest =>
      cases place with
      | none => simpa [openBytes, Segment.openBytes] using ih rest
      | some e => simpa [openBytes, Segment.openBytes] using ih rest

/-- A pattern behind the others wins if it fits and is longer than the one that won so far. -/
theorem longest?_append (ps : List Pattern) (input : List UInt8) (q : Pattern) :
    longest? (ps ++ [q]) input =
      if fits q.bytes input then longer (longest? ps input) q else longest? ps input := by
  unfold longest?
  by_cases hfits : fits q.bytes input = true
  · simp [hfits, List.filter_append]
  · simp [hfits, List.filter_append]

theorem longest?_none (ps : List Pattern) (input : List UInt8) (h : longest? ps input = none) :
    ∀ p ∈ ps, fits p.bytes input = false := by
  induction ps using List.reverseRecOn with
  | nil => simp
  | append_singleton ps q ih =>
    rw [longest?_append] at h
    split at h
    next hfits =>
      exfalso
      unfold longer at h
      split at h
      · cases h
      · split at h <;> cases h
    next hfits =>
      intro p hp
      rcases List.mem_append.mp hp with hp | hp
      · exact ih h p hp
      · rw [List.mem_singleton.mp hp]
        simpa using hfits

/-- The winner stays the winner if no longer pattern is put behind the others. -/
theorem Wins.snoc {ps : List Pattern} {input : List UInt8} {p q : Pattern} (h : Wins ps input p)
    (hq : fits q.bytes input → q.length ≤ p.length) : Wins (ps ++ [q]) input p := by
  obtain ⟨before, after, rfl, hp, hbefore, hafter⟩ := h
  refine ⟨before, after ++ [q], by simp, hp, hbefore, ?_⟩
  intro r hr
  rcases List.mem_append.mp hr with hr | hr
  · exact hafter r hr
  · rw [List.mem_singleton.mp hr]
    exact hq

/-- A pattern behind the others wins if it is longer than each of them that fits. -/
theorem wins_last {ps : List Pattern} {input : List UInt8} {q : Pattern}
    (hfits : fits q.bytes input = true)
    (hlonger : ∀ p ∈ ps, fits p.bytes input → p.length < q.length) : Wins (ps ++ [q]) input q :=
  ⟨ps, [], rfl, hfits, hlonger, by simp⟩

/-- No pattern that fits is longer than the winner. -/
theorem Wins.le {ps : List Pattern} {input : List UInt8} {p q : Pattern} (h : Wins ps input p)
    (hq : q ∈ ps) (hfits : fits q.bytes input = true) : q.length ≤ p.length := by
  obtain ⟨before, after, rfl, _, hbefore, hafter⟩ := h
  rcases List.mem_append.mp hq with hq | hq
  · exact (hbefore q hq hfits).le
  · rcases List.mem_cons.mp hq with rfl | hq
    · exact le_rfl
    · exact hafter q hq hfits

/-- The induction is on the last pattern, as the patterns are folded from the first on. -/
theorem longest?_some (ps : List Pattern) (input : List UInt8) (p : Pattern)
    (h : longest? ps input = some p) : Wins ps input p := by
  induction ps using List.reverseRecOn generalizing p with
  | nil => cases h
  | append_singleton ps q ih =>
    rw [longest?_append] at h
    split at h
    next hfits =>
      cases hbest : longest? ps input with
      | none =>
        rw [hbest] at h
        cases h
        refine wins_last hfits fun r hr hfitsr => ?_
        rw [longest?_none ps input hbest r hr] at hfitsr
        cases hfitsr
      | some best =>
        rw [hbest] at h
        simp only [longer] at h
        split at h
        next hlonger =>
          cases h
          exact wins_last hfits fun r hr hfitsr => ((ih best hbest).le hr hfitsr).trans_lt hlonger
        next hshorter =>
          cases h
          exact (ih p hbest).snoc fun _ => Nat.le_of_not_lt hshorter
    next hfits =>
      exact (ih p h).snoc fun hfitsq => absurd hfitsq hfits

theorem Wins.mem {ps : List Pattern} {input : List UInt8} {p : Pattern} (h : Wins ps input p) :
    p ∈ ps := by
  obtain ⟨before, after, rfl, _⟩ := h
  simp

theorem Wins.fits {ps : List Pattern} {input : List UInt8} {p : Pattern} (h : Wins ps input p) :
    fits p.bytes input = true := by
  obtain ⟨before, after, _, hfits, _⟩ := h
  exact hfits

theorem run_isSegment (p : Pattern) (input : List UInt8) (hfits : fits p.bytes input = true)
    (hp : p.bytes ≠ []) : (p.run input).IsSegment input (p.segment input) := by
  have hagrees := fits_agrees p.bytes input hfits
  have hlength : p.bytes.length = (input.take p.bytes.length).length := hagrees.length_eq
  constructor
  · exact List.take_prefix p.length input
  · intro hempty
    have hempty : input.take p.bytes.length = [] := hempty
    rw [hempty] at hlength
    exact hp (List.length_eq_zero_iff.mp hlength)
  · exact hagrees
  · unfold run segment Run.ofEntry
    cases p.replacement <;> rfl
  · unfold run segment Run.ofEntry
    cases p.replacement with
    | none => simp [Run.text, Segment.text]
    | some replacement => simp [Run.text, Segment.text, openBytes_eq _ _ (some replacement)]

end Pattern

/-! ### Segments of tables -/

namespace Table

/-- Every pattern has a byte to fit. -/
def WellFormed (t : Table) : Prop := ∀ p ∈ t.patterns, p.bytes ≠ []

theorem ne_nil_of_anchored {p : Pattern} (h : p.Anchored) : p.bytes ≠ [] := by
  obtain ⟨b, more, hbytes⟩ := h
  simp [hbytes]

/-- Tables that are read from a description are well formed. -/
theorem wellFormed_of_ofNode [Host] {name : String} {n : Yaml.Node} {t : Table}
    (h : ofNode name n = .ok t) : t.WellFormed := by
  intro p hp
  exact ne_nil_of_anchored (anchored_of_ofNode h p hp)

/-- A table stays well formed when a pattern is added. -/
theorem wellFormed_of_add {t t' : Table} {p : Pattern} (ht : t.WellFormed)
    (h : t.add p = .ok t') : t'.WellFormed := by
  unfold add at h
  obtain ⟨q, hq, hadded⟩ := bind_eq_ok_iff.mp h
  obtain ⟨rfl, hanchored⟩ := checked_ok hq
  cases hadded
  intro r hr
  rcases List.mem_append.mp hr with hr | hr
  · exact ht r hr
  · rw [List.mem_singleton.mp hr]
    exact ne_nil_of_anchored hanchored

variable [Host]

/-- The run at a byte of a table without patterns is a segment that its tree cuts off. -/
theorem runAt_root_ok {t : Table} (hpatterns : t.patterns = []) {b : UInt8} {rest : List UInt8}
    {run : Run} (h : t.root.runAt b rest = .ok run) :
    ∃ s, t.Cuts (b :: rest) s ∧ run.IsSegment (b :: rest) s := by
  unfold Trie.runAt at h
  cases hchild : t.root.child? b with
  | none =>
    rw [hchild] at h
    cases h
    exact ⟨.single b, .unknownByte b rest hpatterns hchild, Run.single_isSegment b rest⟩
  | some first =>
    rw [hchild] at h
    obtain ⟨⟨last, depth, size⟩, hdescend, h⟩ := bind_eq_ok_iff.mp h
    cases h
    obtain ⟨path, ⟨more, rfl⟩, hdepth, hleads, hsize, hstop⟩ :=
      Trie.descend_ok (b :: rest) rest first last 1 depth size hdescend
    have hdepth : depth = (b :: path).length := by
      rw [hdepth, List.length_cons, Nat.add_comm]
    subst hdepth
    exact ⟨_, .path b _ path first last size hpatterns hchild ⟨more, rfl⟩ hleads hsize hstop,
      Trie.ofEntry_isSegment (b :: path) more size last.replacement (by simp)⟩

/-- The run at a byte of a table with patterns is a segment that one of them cuts off, or a byte. -/
theorem runAt_patterns {t : Table} (ht : t.WellFormed) (hpatterns : t.patterns ≠ []) (b : UInt8)
    (rest : List UInt8) :
    ∃ s, t.Cuts (b :: rest) s ∧ (Pattern.runAt t.patterns b rest).IsSegment (b :: rest) s := by
  unfold Pattern.runAt
  cases hlongest : Pattern.longest? t.patterns (b :: rest) with
  | none =>
    exact ⟨.single b, .noPattern b rest hpatterns (Pattern.longest?_none _ _ hlongest),
      Run.single_isSegment b rest⟩
  | some p =>
    have hwins := Pattern.longest?_some t.patterns (b :: rest) p hlongest
    exact ⟨p.segment (b :: rest), .pattern p _ hwins,
      p.run_isSegment (b :: rest) hwins.fits (ht p hwins.mem)⟩

/-- The run at a byte is a segment that the table cuts off. -/
theorem runAt_ok (t : Table) (ht : t.WellFormed) (position : Nat) (b : UInt8) (rest : List UInt8)
    (run : Run) (h : t.runAt position b rest = .ok run) :
    ∃ s, t.Cuts (b :: rest) s ∧ run.IsSegment (b :: rest) s := by
  unfold runAt at h
  split at h
  next hpatterns =>
    have hpatterns : t.patterns = [] := List.isEmpty_iff.mp hpatterns
    cases hrun : t.root.runAt b rest with
    | error e =>
      rw [hrun] at h
      cases h
    | ok found =>
      rw [hrun] at h
      cases h
      exact runAt_root_ok hpatterns hrun
  next hpatterns =>
    cases h
    have hpatterns : t.patterns ≠ [] := fun hnil => hpatterns (by simp [hnil])
    exact runAt_patterns ht hpatterns b rest

/-- Tables that cut the same runs off decode alike. -/
theorem decode_congr {t t' : Table}
    (h : ∀ position b rest, t'.runAt position b rest = t.runAt position b rest)
    (input : List UInt8) : t'.decode input = t.decode input := by
  have hruns : t'.runAt = t.runAt := by
    funext position b rest
    exact h position b rest
  rw [decode, decode, runs, runs, hruns]

/-- Where a run succeeds does not depend on the position that its faults would name. -/
theorem runAt_position (t : Table) (position other : Nat) (b : UInt8) (rest : List UInt8)
    (run : Run) (h : t.runAt position b rest = .ok run) : t.runAt other b rest = .ok run := by
  unfold runAt at h ⊢
  split
  next hpatterns =>
    rw [if_pos hpatterns] at h
    cases hrun : t.root.runAt b rest with
    | error e =>
      rw [hrun] at h
      cases h
    | ok found =>
      rw [hrun] at h
      exact h
  next hpatterns =>
    rw [if_neg hpatterns] at h
    exact h

theorem Falls.input {t : Table} {input : List UInt8} {segments : List Segment}
    (h : t.Falls input segments) : input = segments.flatMap Segment.bytes := by
  induction h with
  | done => rfl
  | cut _ _ _ _ ih => rw [List.flatMap_cons, ← ih]

end Table

/-! ### Segments of the input -/

section Runs

variable {ε : Type} (at? : Nat → UInt8 → List UInt8 → Except ε Run)

/-- Bytes that belong to the run before are passed over. -/
theorem runsFrom_skip (skip position : Nat) (input : List UInt8) :
    runsFrom at? skip position input =
      runsFrom at? 0 (position + skip) (input.drop skip) := by
  induction input generalizing skip position with
  | nil => simp [runsFrom]
  | cons b rest ih =>
    cases skip with
    | zero => rfl
    | succ skip =>
      rw [List.drop_succ_cons, runsFrom, ih skip (position + 1)]
      congr 1
      omega

/-- The first run of an input that is not empty, and the runs behind it. -/
theorem runsFrom_cons (position : Nat) (b : UInt8) (rest : List UInt8) (runs : List Run)
    (h : runsFrom at? 0 position (b :: rest) = .ok runs) :
    ∃ run more, runs = run :: more ∧ at? position b rest = .ok run ∧
      runsFrom at? 0 (position + 1 + (run.length - 1)) (rest.drop (run.length - 1)) = .ok more := by
  rw [runsFrom] at h
  obtain ⟨run, hrun, h⟩ := bind_eq_ok_iff.mp h
  obtain ⟨more, hmore, h⟩ := bind_eq_ok_iff.mp h
  cases h
  rw [runsFrom_skip] at hmore
  exact ⟨run, more, rfl, hrun, hmore⟩

end Runs

namespace Table

section

variable [Host]

theorem runsFrom_position (t : Table) (skip position other : Nat) (input : List UInt8)
    (runs : List Run) (h : runsFrom t.runAt skip position input = .ok runs) :
    runsFrom t.runAt skip other input = .ok runs := by
  induction input generalizing skip position other runs with
  | nil => exact h
  | cons b rest ih =>
    cases skip with
    | succ skip => exact ih skip _ _ runs h
    | zero =>
      rw [runsFrom] at h ⊢
      obtain ⟨run, hrun, h⟩ := bind_eq_ok_iff.mp h
      obtain ⟨more, hmore, h⟩ := bind_eq_ok_iff.mp h
      refine bind_eq_ok_iff.mpr ⟨run, t.runAt_position position other b rest run hrun, ?_⟩
      exact bind_eq_ok_iff.mpr ⟨more, ih _ _ (other + 1) more hmore, h⟩

/-- Runs are the segments that an input falls into, and so are the runs of what is left behind any
of them. -/
structure Accounted (t : Table) (input : List UInt8) (runs : List Run) (segments : List Segment) :
    Prop where
  falls : t.Falls input segments
  texts : runs.map Run.text = segments.map Segment.text
  behind : ∀ before after, segments = before ++ after →
    ∃ left, t.runs (after.flatMap Segment.bytes) = .ok left ∧
      left.map Run.text = after.map Segment.text

theorem accounted_nil (t : Table) : t.Accounted [] [] [] where
  falls := .done
  texts := rfl
  behind := by
    intro before after hsplit
    obtain ⟨rfl, rfl⟩ := List.append_eq_nil_iff.mp hsplit.symm
    exact ⟨[], rfl, rfl⟩

theorem Accounted.cons {t : Table} {input left : List UInt8} {run : Run} {more : List Run}
    {s : Segment} {segments : List Segment} (h : t.Accounted left more segments)
    (hleft : s.bytes ++ left = input) (hcuts : t.Cuts input s) (hsegment : run.IsSegment input s)
    (hruns : t.runs input = .ok (run :: more)) :
    t.Accounted input (run :: more) (s :: segments) := by
  subst hleft
  have htexts : (run :: more).map Run.text = (s :: segments).map Segment.text := by
    rw [List.map_cons, List.map_cons, hsegment.text, h.texts]
  refine ⟨.cut hcuts hsegment.nonempty hsegment.agrees h.falls, htexts, ?_⟩
  intro before after hsplit
  cases before with
  | nil =>
    rw [List.nil_append] at hsplit
    subst hsplit
    refine ⟨run :: more, ?_, htexts⟩
    rw [List.flatMap_cons, ← h.falls.input]
    exact hruns
  | cons first before =>
    obtain ⟨_, htail⟩ := List.cons.inj hsplit
    exact h.behind before after htail

/-- The induction is on how much is left: a run that is a segment has a byte at least. -/
theorem accounted_of_runsFrom (t : Table) (ht : t.WellFormed) (n : Nat) (input : List UInt8)
    (position : Nat) (runs : List Run) (hlength : input.length ≤ n)
    (h : runsFrom t.runAt 0 position input = .ok runs) :
    ∃ segments, t.Accounted input runs segments := by
  induction n generalizing input position runs with
  | zero =>
    cases List.length_eq_zero_iff.mp (Nat.le_zero.mp hlength)
    cases h
    exact ⟨[], t.accounted_nil⟩
  | succ n ih =>
    cases input with
    | nil =>
      cases h
      exact ⟨[], t.accounted_nil⟩
    | cons b rest =>
      have hruns : t.runs (b :: rest) = .ok runs :=
        t.runsFrom_position 0 position 0 (b :: rest) runs h
      obtain ⟨run, more, rfl, hrun, hmore⟩ := runsFrom_cons t.runAt position b rest runs h
      obtain ⟨s, hcuts, hsegment⟩ := t.runAt_ok ht position b rest run hrun
      obtain ⟨left, hleft⟩ := hsegment.front
      have hshort := hsegment.left_shorter hleft
      rw [hsegment.drop hleft] at hmore
      obtain ⟨segments, hbehind⟩ := ih left _ more (by omega) hmore
      exact ⟨s :: segments, hbehind.cons hleft hcuts hsegment hruns⟩

end

/-- The text of an input accounts for its bytes: the input falls into segments of a byte at least,
each cut off by an entry that agrees with the bytes that it fixes; the text is that of the segments
one after the other, and behind every segment the text goes on as that of what is left. -/
theorem decode_accounts_for_bytes [Host] (t : Table) (ht : t.WellFormed) (input : List UInt8)
    (text : String) (h : t.decode input = .ok text) :
    ∃ segments, t.Falls input segments ∧ input = segments.flatMap Segment.bytes ∧
      text = String.join (segments.map Segment.text) ∧
      ∀ before after, segments = before ++ after →
        ∃ rest, t.decode (input.drop (before.flatMap Segment.bytes).length) = .ok rest ∧
          text = String.join (before.map Segment.text) ++ rest := by
  unfold decode at h
  obtain ⟨runs, hruns, h⟩ := bind_eq_ok_iff.mp h
  cases h
  obtain ⟨segments, hfalls, htexts, hbehind⟩ :=
    t.accounted_of_runsFrom ht input.length input 0 runs le_rfl hruns
  refine ⟨segments, hfalls, hfalls.input, by rw [htexts], ?_⟩
  rintro before after rfl
  obtain ⟨left, hleft, hlefttexts⟩ := hbehind before after rfl
  refine ⟨String.join (after.map Segment.text), ?_, ?_⟩
  · have hrest : input.drop (before.flatMap Segment.bytes).length =
        after.flatMap Segment.bytes := by
      rw [hfalls.input, List.flatMap_append, List.drop_left]
    unfold decode
    rw [hrest, hleft, ← hlefttexts]
    rfl
  · rw [htexts, List.map_append, String.join_append]

/-- A byte with two parameters, unless the byte behind it has a level of its own. -/
def sampleTable : Table where
  name := "Main"
  root := .node "1" none
    [(0x41, .node "1" (some "A") []),
     (0x80, .node "3" (some "<wait>") [(0x01, .node "2" (some "<two>") [])])]

theorem sampleTable_accounts_for_bytes :
    sampleTable.WellFormed ∧
      sampleTable.decode [0x41, 0x80, 0x01, 0x80, 0x02, 0x03, 0x07, 0x80] =
        .ok "A<two><wait>[02][03][07]<wait>" ∧
      ∃ segments : List Segment, segments.flatMap Segment.bytes =
          [0x41, 0x80, 0x01, 0x80, 0x02, 0x03, 0x07, 0x80] ∧
        String.join (segments.map Segment.text) = "A<two><wait>[02][03][07]<wait>" := by
  have hformed : sampleTable.WellFormed := by
    intro p hp
    cases hp
  have hdecode : sampleTable.decode [0x41, 0x80, 0x01, 0x80, 0x02, 0x03, 0x07, 0x80] =
      .ok "A<two><wait>[02][03][07]<wait>" := rfl
  obtain ⟨segments, _, hbytes, htext, _⟩ :=
    decode_accounts_for_bytes sampleTable hformed _ _ hdecode
  exact ⟨hformed, hdecode, segments, hbytes.symm, htext.symm⟩

end Table

end GameAtlas.Script
