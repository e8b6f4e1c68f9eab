import GameAtlas.Proofs.Schema.Reload
import GameAtlas.Proofs.Schema.Upsets

/-!
Documents of entries. A document is read if each of its entries is read on its own, and then gives
one entry for every pair, in their order and under their keys, in which everything that breaks a
rule is recorded. What keeps it from being read lies in one of the entries.
-/

namespace GameAtlas.Schema

open Yaml (Node)

/-! ### Rules of entries -/

namespace Field

/-- Where an entry lies. -/
def range? [Host] (f : Field) : Option Range :=
  match f.placedSize with
  | .ok (size, _) => Range.of? f size
  | .error _ => none

/-- Where the last of some entries lies that has an address. -/
def lastRange [Host] (fs : List Field) : Option Range := (fs.filterMap range?).getLast?

theorem lastRange_snoc [Host] (fs : List Field) (f : Field) :
    lastRange (fs ++ [f]) = (f.range? <|> lastRange fs) := by
  rw [lastRange, List.filterMap_append]
  cases hf : f.range? with
  | none => simp [lastRange, hf]
  | some r => simp [hf]

end Field

/-- An entry that stands behind others breaks a rule of entries, which an issue says. -/
inductive Misplaced [Host] (before : List Field) (f : Field) : Issue → Prop where
  | noOffset : f.address = none →
      Misplaced before f (.severe "Required offset key missing" "Add an Offset")
  | noSize : f.size = none → f.kind ≠ .struct →
      Misplaced before f (.incomplete "Missing size" "Add a Size")
  | repeated {other : Field} : other ∈ before → other.name = f.name →
      Misplaced before f
        (.severe s!"Duplicate entry name '{f.name}'" "Rename one of the entries")
  | unresolved {e : SizeError} : f.size.isSome → f.resolvedSize [] = .error e →
      Misplaced before f (.severe s!"Unable to resolve size: {e.message}" "Fix the Size")
  | overlap {b r : Range} : Field.lastRange before = some b → f.range? = some r →
      b.overlaps r → Misplaced before f b.overlapIssue
  | order {b r : Range} : Field.lastRange before = some b → f.range? = some r →
      r.start < b.start → Misplaced before f (Range.orderIssue b r)

/-- An entry is what a pair of a document describes, and every rule that is broken there is
recorded. -/
structure Records [Host] (p : Node × Node) (f : Field) : Prop where
  name : f.name = p.1.keyText
  recorded : ∀ i, Breaks p.2 i → i ∈ f.problems

/-- The issue that an entry has if one before it has its name. -/
def repeatedIssues (seen : List String) (name : String) : List Issue :=
  if seen.contains name then
    [Issue.severe s!"Duplicate entry name '{name}'" "Rename one of the entries"]
  else []

namespace Field

variable {f : Field} {i : Issue} {seen : List String} {last : Option Range}
  {p : Node × Node} {pairs : List (Node × Node)} {fs done : List Field}

/-! ### Entry by entry -/

/-- A pair that is read as an entry and placed, whatever stands before it. -/
def Readable [Host] (p : Node × Node) : Prop :=
  ∃ f size, rootOfNode p.1.keyText p.2 = .ok f ∧ f.placedSize = .ok size

/-- Entries are read one by one; what stands before an entry adds to its issues only. -/
theorem entriesOf_cons_ok [Host] (h : entriesOf seen last (p :: pairs) = .ok fs) :
    ∃ f size issues more, rootOfNode p.1.keyText p.2 = .ok f ∧
      f.placedSize = .ok (size, issues) ∧
      entriesOf (p.1.keyText :: seen) (Range.of? f size <|> last) pairs = .ok more ∧
      fs = { f with issues := f.issues ++ repeatedIssues seen p.1.keyText ++ issues ++
        Range.issues last (Range.of? f size) } :: more := by
  obtain ⟨f, hf, h⟩ := bind_eq_ok_iff.mp h
  obtain ⟨⟨size, issues⟩, hsize, h⟩ := bind_eq_ok_iff.mp h
  obtain ⟨more, hmore, h⟩ := bind_eq_ok_iff.mp h
  cases h
  exact ⟨f, size, issues, more, hf, mapError_eq_ok hsize, hmore, rfl⟩

theorem readable_iff [Host] (seen : List String) (last : Option Range)
    (pairs : List (Node × Node)) :
    (∃ fs, entriesOf seen last pairs = .ok fs) ↔ ∀ p ∈ pairs, Readable p := by
  induction pairs generalizing seen last with
  | nil =>
    constructor
    · exact fun _ => nofun
    · exact fun _ => ⟨[], rfl⟩
  | cons p rest ih =>
    constructor
    · rintro ⟨fs, hfs⟩ q hq
      obtain ⟨f, size, issues, more, hf, hsize, hmore, -⟩ := entriesOf_cons_ok hfs
      rcases List.mem_cons.mp hq with rfl | hq
      · exact ⟨f, _, hf, hsize⟩
      · exact (ih _ _).mp ⟨more, hmore⟩ q hq
    · intro hall
      obtain ⟨f, size, hf, hsize⟩ := hall p List.mem_cons_self
      obtain ⟨more, hmore⟩ := (ih (p.1.keyText :: seen) (Range.of? f size.1 <|> last)).mpr
        fun q hq => hall q (List.mem_cons_of_mem p hq)
      rw [entriesOf, hf]
      refine ⟨_, bind_eq_ok_iff.mpr ⟨f, rfl, bind_eq_ok_iff.mpr ⟨size, ?_,
        bind_eq_ok_iff.mpr ⟨more, hmore, rfl⟩⟩⟩⟩
      rw [hsize]
      rfl

/-! ### Faults -/

theorem upsets_of_placedSize [Host] {n : Node} {c : Expression.BareFault} (hf : ofNode n = .ok f)
    (h : f.placedSize = .error c) : Upsets n (.bare c) := by
  have hoptional {size : Except SizeError Nat} (h : SizeError.optional size = .error c) :
      ∃ e, size = .error e ∧ e.bare? = some c := by
    cases size with
    | ok bytes => cases h
    | error e =>
      rw [SizeError.optional] at h
      split at h
      · next hc =>
        cases h
        exact ⟨e, rfl, hc⟩
      · cases h
  rw [placedSize] at h
  split at h
  · rcases bind_eq_error_iff.mp h with h | ⟨_, _, h⟩
    · obtain ⟨e, he, hc⟩ := hoptional h
      exact upsets_of_resolvedSize hf he hc
    · cases h
  · rcases bind_eq_error_iff.mp h with h | ⟨_, _, h⟩
    · obtain ⟨e, he, hc⟩ := hoptional h
      exact upsets_of_staticSize n f hf e c he hc
    · cases h

theorem rootOfNode_cases [Host] {name : String} {n : Node} (h : rootOfNode name n = .ok f) :
    ∃ g, ofNode n = .ok g ∧ f = { g with name := name, issues := g.issues ++ g.rootIssues } := by
  obtain ⟨g, hg, -⟩ := bind_eq_ok_iff.mp h
  rw [rootOfNode_ok hg] at h
  cases h
  exact ⟨g, hg, rfl⟩

/-- What keeps entries from being read lies in one of them. -/
theorem upsets_of_entriesOf [Host] {fault : FieldFault}
    (h : entriesOf seen last pairs = .error fault) : ∃ p ∈ pairs, Upsets p.2 fault := by
  induction pairs generalizing seen last with
  | nil => cases h
  | cons p rest ih =>
    rcases bind_eq_error_iff.mp h with hroot | ⟨f, hroot, h⟩
    · refine ⟨p, List.mem_cons_self, upsets_of_ofNode p.2 fault ?_⟩
      rcases bind_eq_error_iff.mp hroot with hnode | ⟨_, _, hroot⟩
      · exact hnode
      · cases hroot
    · rcases bind_eq_error_iff.mp h with hsize | ⟨size, _, h⟩
      · obtain ⟨g, hg, rfl⟩ := rootOfNode_cases hroot
        obtain ⟨c, hc, rfl⟩ := mapError_eq_error hsize
        rw [placedSize_relabel g] at hc
        exact ⟨p, List.mem_cons_self, upsets_of_placedSize hg hc⟩
      · rcases bind_eq_error_iff.mp h with hmore | ⟨_, _, h⟩
        · obtain ⟨q, hq, hfault⟩ := ih hmore
          exact ⟨q, List.mem_cons_of_mem p hq, hfault⟩
        · cases h

/-! ### What is recorded -/

theorem issues_of_placedSize [Host] {size : Option Nat} {issues : List Issue} {e : SizeError}
    (h : f.placedSize = .ok (size, issues)) (hsome : f.size.isSome)
    (hsize : f.resolvedSize [] = .error e) : issues = sizeIssues (.error e) := by
  rw [placedSize, if_pos hsome] at h
  obtain ⟨found, _, h⟩ := bind_eq_ok_iff.mp h
  cases h
  rw [hsize]

/-- What breaks a rule of entries is among the issues that are looked for. -/
theorem found_of_misplaced [Host] {before : List Field} {size : Option Nat} {issues : List Issue}
    (h : Misplaced before f i) (hplaced : f.placedSize = .ok (size, issues))
    (hseen : ∀ s, s ∈ seen ↔ ∃ b ∈ before, b.name = s) :
    i ∈ f.rootIssues ∨ i ∈ repeatedIssues seen f.name ∨ i ∈ issues ∨
      i ∈ Range.issues (lastRange before) f.range? := by
  cases h with
  | noOffset haddress => exact .inl (by simp [rootIssues, haddress])
  | noSize hsize hkind => exact .inl (by simp [rootIssues, hsize, hkind])
  | repeated hother hname =>
    have hmem : f.name ∈ seen := (hseen f.name).mpr ⟨_, hother, hname⟩
    exact .inr (.inl (by simp [repeatedIssues, hmem]))
  | unresolved hsome he =>
    rw [issues_of_placedSize hplaced hsome he]
    exact .inr (.inr (.inl (List.mem_singleton_self _)))
  | overlap hbefore hrange hoverlaps =>
    exact .inr (.inr (.inr (by simp [Range.issues, hbefore, hrange, hoverlaps])))
  | order hbefore hrange hstart =>
    exact .inr (.inr (.inr (by simp [Range.issues, hbefore, hrange, hstart])))

/-- One entry: it records what its own node breaks, and every issue that is looked for. -/
theorem entry_recorded [Host] (h : entriesOf seen last (p :: pairs) = .ok fs) :
    ∃ e more size issues, fs = e :: more ∧ Records p e ∧ e.placedSize = .ok (size, issues) ∧
      (∀ i, (i ∈ e.rootIssues ∨ i ∈ repeatedIssues seen e.name ∨ i ∈ issues ∨
        i ∈ Range.issues last e.range?) → i ∈ e.issues) ∧
      entriesOf (e.name :: seen) (e.range? <|> last) pairs = .ok more := by
  obtain ⟨f, size, issues, more, hroot, hsize, hmore, rfl⟩ := entriesOf_cons_ok h
  obtain ⟨g, hg, rfl⟩ := rootOfNode_cases hroot
  rw [placedSize_relabel g] at hsize
  have hrange (own : List Issue) :
      range? { g with name := p.1.keyText, issues := own } =
        Range.of? { g with name := p.1.keyText, issues := own } size := by
    rw [range?, placedSize_relabel g, hsize]
  refine ⟨_, more, size, issues, rfl, ⟨rfl, fun i hi => ?_⟩, ?_, ?_, ?_⟩
  · refine mem_problems_relabel (f := g) (fun j hj => ?_) (hi.recorded g hg)
    simp only [List.mem_append]
    exact .inl (.inl (.inl (.inl hj)))
  · exact (placedSize_relabel g _ _).trans hsize
  · intro i hi
    rw [hrange] at hi
    simp only [List.mem_append]
    rcases hi with hi | hi | hi | hi
    · exact .inl (.inl (.inl (.inr hi)))
    · exact .inl (.inl (.inr hi))
    · exact .inl (.inr hi)
    · exact .inr hi
  · rw [hrange]
    exact hmore

/-- The induction is on the pairs that are left: `done` are the entries before, of which the names
and the last range are known. -/
theorem recorded_of_entriesOf [Host] (h : entriesOf seen last pairs = .ok fs)
    (hseen : ∀ s, s ∈ seen ↔ ∃ d ∈ done, d.name = s) (hlast : last = lastRange done) :
    List.Forall₂ Records pairs fs ∧
      ∀ before f after, fs = before ++ f :: after →
        ∀ i, Misplaced (done ++ before) f i → i ∈ f.issues := by
  induction pairs generalizing seen last fs done with
  | nil =>
    cases h
    refine ⟨.nil, fun before f after hsplit => ?_⟩
    simp at hsplit
  | cons p rest ih =>
    obtain ⟨e, more, size, issues, rfl, hrecords, hsize, hown, hmore⟩ := entry_recorded h
    have hnext : ∀ s, s ∈ e.name :: seen ↔ ∃ d ∈ done ++ [e], d.name = s := by
      intro s
      rw [List.mem_cons, hseen]
      constructor
      · rintro (rfl | ⟨d, hd, hname⟩)
        · exact ⟨e, by simp, rfl⟩
        · exact ⟨d, by simp [hd], hname⟩
      · rintro ⟨d, hd, hname⟩
        rcases List.mem_append.mp hd with hd | hd
        · exact .inr ⟨d, hd, hname⟩
        · rw [List.mem_singleton.mp hd] at hname
          exact .inl hname.symm
    have hrange : (e.range? <|> last) = lastRange (done ++ [e]) := by
      rw [lastRange_snoc, hlast]
    obtain ⟨hall, hbehind⟩ := ih hmore hnext hrange
    refine ⟨.cons hrecords hall, ?_⟩
    intro before f after hsplit i hi
    cases before with
    | nil =>
      obtain ⟨rfl, rfl⟩ := List.cons.inj hsplit
      rw [List.append_nil] at hi
      refine hown i ?_
      rw [hlast]
      exact found_of_misplaced hi hsize hseen
    | cons first before =>
      obtain ⟨rfl, rfl⟩ := List.cons.inj hsplit
      rw [List.append_cons] at hi
      exact hbehind before f after rfl i hi

end Field

/-! ### Documents -/

/-- What a loaded game has of its document of entries: one entry for every pair, in their order and
under their keys, and everything that breaks a rule. The rest is that of the metadata. -/
structure Game.Accounts [Host] (game g : Game) (pairs : List (Node × Node)) : Prop where
  metadata : g = { game with entries := g.entries }
  entries : List.Forall₂ Records pairs g.entries
  placement : ∀ before f after, g.entries = before ++ f :: after →
    ∀ i, Misplaced before f i → i ∈ f.issues

namespace Game

variable {metadata : Option Node} {game g : Game} {tag : String} {pairs : List (Node × Node)}
  {flow : Bool} {share : Option Nat}

theorem ofNodes_mapping [Host] (hgame : ofMetadata metadata = .ok game) :
    ofNodes metadata (some (.mapping tag pairs flow share)) =
      ((entriesOf [] none pairs).mapError LoadFault.field).map fun fs =>
        { game with entries := fs } := by
  have hread : ofNodes metadata (some (.mapping tag pairs flow share)) =
      (entriesOf [] none pairs).mapError LoadFault.field >>= fun fs =>
        pure { game with entries := fs } := by
    rw [ofNodes, hgame]
    rfl
  rw [hread]
  cases entriesOf [] none pairs <;> rfl

theorem ofNodes_readable [Host] (hgame : ofMetadata metadata = .ok game) :
    (∃ g, ofNodes metadata (some (.mapping tag pairs flow share)) = .ok g) ↔
      ∀ p ∈ pairs, Field.Readable p := by
  rw [ofNodes_mapping hgame, ← Field.readable_iff [] none pairs]
  cases entriesOf [] none pairs with
  | ok fs => exact ⟨fun _ => ⟨fs, rfl⟩, fun _ => ⟨_, rfl⟩⟩
  | error fault => exact ⟨nofun, nofun⟩

/-- Under metadata that are read, a document of entries is read exactly if each of its pairs is read
when it stands alone. Otherwise the fault lies in the node of one of them: a value that cannot be
converted, or a size that spells a constant or has too many digits. A document that is read gives
one entry for every pair, and whatever breaks a rule is recorded there. -/
theorem load_entries [Host] (hgame : ofMetadata metadata = .ok game) (tag : String)
    (pairs : List (Node × Node)) (flow : Bool) (share : Option Nat) :
    ((∃ g, ofNodes metadata (some (.mapping tag pairs flow share)) = .ok g) ↔
      ∀ p ∈ pairs, ∃ g, ofNodes metadata (some (.mapping tag [p] flow share)) = .ok g) ∧
    (∀ e, ofNodes metadata (some (.mapping tag pairs flow share)) = .error e →
      ∃ fault, e = .field fault ∧ ∃ p ∈ pairs, Upsets p.2 fault) ∧
    ∀ g, ofNodes metadata (some (.mapping tag pairs flow share)) = .ok g →
      Accounts game g pairs := by
  refine ⟨?_, ?_, ?_⟩
  · rw [ofNodes_readable hgame]
    refine forall₂_congr fun p _ => ?_
    rw [ofNodes_readable hgame]
    simp
  · intro e h
    rw [ofNodes_mapping hgame] at h
    cases hentries : entriesOf [] none pairs with
    | ok fs =>
      rw [hentries] at h
      cases h
    | error fault =>
      rw [hentries] at h
      cases h
      exact ⟨fault, rfl, Field.upsets_of_entriesOf hentries⟩
  · intro g h
    rw [ofNodes_mapping hgame] at h
    cases hentries : entriesOf [] none pairs with
    | error fault =>
      rw [hentries] at h
      cases h
    | ok fs =>
      rw [hentries] at h
      cases h
      have hseen : ∀ s, s ∈ ([] : List String) ↔ ∃ d ∈ ([] : List Field), d.name = s := by simp
      have hlast : none = Field.lastRange [] := rfl
      obtain ⟨hall, hplacement⟩ := Field.recorded_of_entriesOf hentries hseen hlast
      exact ⟨rfl, hall, hplacement⟩

/-- An integer with a key that means nothing. -/
def sampleDefect : Node × Node :=
  (.ofText "LIVES",
    .mapping "!int" [(.ofText "Offset", .ofHex 16), (.ofText "Size", .ofInt 1),
      (.ofText "Colour", .ofText "red")] false none)

theorem sampleDefect_recorded :
    ofMetadata (some sampleMetadata) = .ok { title := "Sample", country := "Nowhere" } ∧
      ∃ g first second,
        ofNodes (some sampleMetadata)
          (some (.mapping Yaml.Tag.map [sampleDefect, sampleDefect] false none)) = .ok g ∧
        g.entries = [first, second] ∧ first.name = "LIVES" ∧ second.name = "LIVES" ∧
        .incomplete "Unknown key 'Colour'" "Remove or correct the key" ∈ first.problems ∧
        .severe "Duplicate entry name 'LIVES'" "Rename one of the entries" ∈ second.issues := by
  have hgame : ofMetadata (some sampleMetadata) =
      .ok { title := "Sample", country := "Nowhere" } := rfl
  have halone : ofNodes (some sampleMetadata)
      (some (.mapping Yaml.Tag.map [sampleDefect] false none)) =
        .ok { title := "Sample", country := "Nowhere",
              entries := [{ kind := .integer, name := "LIVES", address := some 16, size := some "1"
                            issues := [.incomplete "Unknown key 'Colour'"
                              "Remove or correct the key"] }] } := rfl
  have hkey : Breaks sampleDefect.2
      (.incomplete "Unknown key 'Colour'" "Remove or correct the key") := by
    have hn : Description.ofNode sampleDefect.2 = .ofKind .integer
        [("Offset", .ofHex 16), ("Size", .ofInt 1), ("Colour", .ofText "red")] [] := rfl
    have hmem : ("Colour", Node.ofText "red") ∈
        [("Offset", Node.ofHex 16), ("Size", .ofInt 1), ("Colour", .ofText "red")] := by simp
    exact .key hn hmem List.mem_cons_self
  obtain ⟨hread, -, haccounts⟩ :=
    load_entries hgame Yaml.Tag.map [sampleDefect, sampleDefect] false none
  obtain ⟨g, hg⟩ := hread.mpr (by
    intro p hp
    obtain rfl : p = sampleDefect := by simpa using hp
    exact ⟨_, halone⟩)
  obtain ⟨-, hentries, hplacement⟩ := haccounts g hg
  obtain ⟨first, rest, hfirst, hrest, heq⟩ := List.forall₂_cons_left_iff.mp hentries
  obtain ⟨second, _, hsecond, hnone, rfl⟩ := List.forall₂_cons_left_iff.mp hrest
  cases hnone
  have hname : second.name = "LIVES" := hsecond.name
  have hrepeated := hplacement [first] second [] heq _
    (.repeated List.mem_cons_self (hfirst.name.trans hsecond.name.symm))
  rw [hname] at hrepeated
  exact ⟨hgame, g, first, second, hg, heq, hfirst.name, hname, hfirst.recorded _ hkey, hrepeated⟩

/-- A sign that is tagged as a truth value and is none. -/
def sampleSpoiled : Node :=
  .ofPairs [(.ofText "A",
    .mapping "!int" [(.ofText "Offset", .ofHex 0), (.ofText "Size", .ofInt 1),
      (.ofText "Signed", .text Yaml.Tag.bool "maybe")] false none)]

/-- No entry is given, with or without an issue: the document is not read. -/
theorem sampleSpoiled_not_read :
    ofMetadata (some sampleMetadata) = .ok { title := "Sample", country := "Nowhere" } ∧
      ofNodes (some sampleMetadata) (some sampleSpoiled) =
        .error (.field (.conversion (.unknownTruth "maybe"))) :=
  ⟨rfl, rfl⟩

end Game

end GameAtlas.Schema
