import Mathlib.Tactic
import GameAtlas.Proofs.Schema.Content
import GameAtlas.Proofs.Schema.MetadataReread

/-!
Games written and loaded again. The nodes of a loaded game are loaded once more, with the same
entries in the same order, and of their content nothing is lost but a line feed behind the digits of
a size.
-/

namespace GameAtlas.Schema

open Yaml (Node)

namespace Field

variable {f : Field} {size : String → String}

/-! ### Measuring -/

section

variable [Host]

/-- A size that is rewritten without being measured differently. -/
def KeepsSize (size : String → String) (f : Field) : Prop :=
  Attributes.resolvedSize { f.toAttributes with size := f.size.map size } [] = f.resolvedSize []

theorem everywhere_keepsSize_id (f : Field) : f.Everywhere (KeepsSize id) := by
  induction f using Field.tree_induction with
  | step a members itemType ihMembers ihItem =>
    refine .intro ?_ ihMembers ihItem
    rw [KeepsSize, Option.map_id]
    rfl

theorem everywhere_keepsSize_writtenSize (h : f.Writable) : f.Everywhere (KeepsSize writtenSize) :=
  h.imp fun _ hg => resolvedSize_writtenSize hg.size []

theorem resolvedSize_content (h : KeepsSize size f) :
    (content size f).resolvedSize [] = f.resolvedSize [] := by
  obtain ⟨a, members, itemType⟩ := f
  rw [content]
  exact h

theorem staticSize_content (f : Field) : f.Everywhere (KeepsSize size) →
    staticSize (content size f) = staticSize f := by
  induction f using Field.tree_induction with
  | step a members itemType ihMembers ihItem =>
    intro h
    obtain ⟨here, hinner, -⟩ := everywhere_mk_iff.mp h
    have hmembers : staticSizes (contentAll size members) = staticSizes members := by
      clear ihItem h here
      induction members with
      | nil => rfl
      | cons m rest ih =>
        rw [contentAll, staticSizes, staticSizes, ihMembers m (by simp) (hinner m (by simp)),
          ih (fun n hn => ihMembers n (List.mem_cons_of_mem m hn))
            fun n hn => hinner n (List.mem_cons_of_mem m hn)]
    have hempty : (contentAll size members).isEmpty = members.isEmpty := by
      cases members <;> rfl
    rw [content, staticSize, staticSize, hmembers, hempty, Option.isNone_map]
    have hsize : Attributes.resolvedSize { a with size := a.size.map size, issues := [] } [] =
        a.resolvedSize [] := here
    rw [hsize]

/-- A root field is placed alike when it is read back. -/
theorem placedSize_content (h : f.Everywhere (KeepsSize size)) :
    placedSize (content size f) = placedSize f := by
  have hsome : (content size f).size.isSome = f.size.isSome := by
    obtain ⟨a, members, itemType⟩ := f
    rw [content]
    exact Option.isSome_map
  have hhere : KeepsSize size f := by
    obtain ⟨here, _, _⟩ := h
    exact here
  rw [placedSize, placedSize, hsome, resolvedSize_content hhere, staticSize_content f h]

theorem placedSize_reread (hf : f.Sound) (hwritable : f.Writable) :
    placedSize (reread true f) = placedSize f := by
  rw [← placedSize_content (everywhere_keepsSize_id (reread true f)), content_reread f hf,
    placedSize_content (everywhere_keepsSize_writtenSize hwritable)]

theorem placedSize_relabel (f : Field) (name : String) (issues : List Issue) :
    placedSize { f with name := name, issues := issues } = f.placedSize := by
  obtain ⟨a, members, itemType⟩ := f
  rfl

end

/-! ### Entries -/

variable [Host]

/-- What is known of an entry of a game that was loaded. -/
structure Placed (f : Field) : Prop where
  sound : f.Sound
  placed : ∃ size, f.placedSize = .ok size

theorem placed_of_entriesOf {seen : List String} {before : Option Range}
    {pairs : List (Node × Node)} {fs : List Field} (h : entriesOf seen before pairs = .ok fs) :
    ∀ f ∈ fs, f.Placed := by
  induction pairs generalizing seen before fs with
  | nil =>
    cases h
    exact fun _ hf => absurd hf List.not_mem_nil
  | cons p rest ih =>
    obtain ⟨f, hf, h⟩ := bind_eq_ok_iff.mp h
    obtain ⟨⟨size, issues⟩, hsize, h⟩ := bind_eq_ok_iff.mp h
    obtain ⟨more, hmore, h⟩ := bind_eq_ok_iff.mp h
    cases h
    intro g hg
    rcases List.mem_cons.mp hg with rfl | hg
    · refine ⟨(sound_rootOfNode hf).relabel f.name _, (size, issues), ?_⟩
      rw [placedSize_relabel]
      exact mapError_eq_ok hsize
    · exact ih hmore g hg

/-- What a root field lacks. -/
def rootIssues (f : Field) : List Issue :=
  (if f.address.isNone then [.severe "Required offset key missing" "Add an Offset"] else []) ++
    (if f.size.isNone && f.kind != .struct then [.incomplete "Missing size" "Add a Size"] else [])

theorem rootOfNode_ok {name : String} {n : Node} (h : ofNode n = .ok f) :
    rootOfNode name n = .ok { f.named name with issues := f.issues ++ f.rootIssues } := by
  obtain ⟨a, members, itemType⟩ := f
  rw [rootOfNode, h]
  refine congrArg Except.ok ?_
  simp only [rootIssues, named, addIssue]
  by_cases haddress : a.address.isNone = true
  · by_cases hsize : (a.size.isNone && a.kind != .struct) = true
    · simp [haddress, hsize]
    · simp [haddress, hsize]
  · by_cases hsize : (a.size.isNone && a.kind != .struct) = true
    · simp [haddress, hsize]
    · simp [haddress, hsize]

/-- A root field is read back under its name. -/
theorem rootOfNode_toNode (hf : f.Sound) (hwritable : f.Writable) :
    ∃ issues, rootOfNode f.name (f.toNode false) = .ok { reread true f with issues := issues } := by
  have hroot : rootOfNode f.name (f.toNode false) = .ok _ :=
    rootOfNode_ok (ofNode_toNode f hf hwritable false)
  rw [named_reread] at hroot
  exact ⟨_, hroot⟩

/-- Entries are read back in their order, whatever stands before them. -/
theorem entriesOf_written {fs : List Field} (h : ∀ f ∈ fs, f.Placed)
    (hwritable : ∀ f ∈ fs, f.Writable) (seen : List String) (before : Option Range) :
    ∃ gs, entriesOf seen before (fs.map fun f => (.ofText f.name, f.toNode false)) = .ok gs ∧
      gs.map (content id) = fs.map (content writtenSize) := by
  induction fs generalizing seen before with
  | nil => exact ⟨[], rfl, rfl⟩
  | cons f rest ih =>
    obtain ⟨hsound, ⟨size, found⟩, hplaced⟩ := h f (by simp)
    have hwritten : f.Writable := hwritable f (by simp)
    obtain ⟨issues, hroot⟩ := rootOfNode_toNode hsound hwritten
    have hsize : placedSize { reread true f with issues := issues } = .ok (size, found) := by
      rw [placedSize_relabel, placedSize_reread hsound hwritten, hplaced]
    have hname : (Node.ofText f.name).keyText = f.name := rfl
    obtain ⟨more, hmore, hcontent⟩ := ih (fun g hg => h g (List.mem_cons_of_mem f hg))
      (fun g hg => hwritable g (List.mem_cons_of_mem f hg)) (f.name :: seen)
      (Range.of? { reread true f with issues := issues } size <|> before)
    have hfirst : ∀ others, content id { reread true f with issues := others } =
        content writtenSize f := fun others => by
      rw [content_relabel, content_reread f hsound]
    rw [List.map_cons, entriesOf, hname, hroot]
    refine ⟨_, bind_eq_ok_iff.mpr ⟨_, rfl, bind_eq_ok_iff.mpr ⟨(size, found), ?_,
      bind_eq_ok_iff.mpr ⟨more, hmore, rfl⟩⟩⟩, ?_⟩
    · rw [hsize]
      rfl
    · rw [List.map_cons, List.map_cons, hcontent]
      exact congrArg (· :: _) (hfirst _)

end Field

/-! ### Games -/

/-- A game has the metadata of its first document and the entries of its second, which has none if
it is empty. -/
theorem Game.exists_pairs_of_ofNodes [Host] {metadata definitions : Option Node} {g : Game}
    (h : Game.ofNodes metadata definitions = .ok g) :
    ∃ game pairs, ofMetadata metadata = .ok game ∧ entriesOf [] none pairs = .ok g.entries ∧
      g = { game with entries := g.entries } := by
  obtain ⟨game, hgame, h⟩ := bind_eq_ok_iff.mp h
  obtain ⟨_, hnone⟩ := ofMetadata_ok hgame
  split at h
  · cases h
  · split at h
    · cases h
      exact ⟨g, [], hgame, by rw [hnone, entriesOf], rfl⟩
    · cases h
  · obtain ⟨fs, hfs, h⟩ := bind_eq_ok_iff.mp h
    cases h
    exact ⟨game, _, hgame, mapError_eq_ok hfs, rfl⟩
  · cases h

theorem Game.placed_of_ofNodes [Host] {metadata definitions : Option Node} {g : Game}
    (h : Game.ofNodes metadata definitions = .ok g) :
    g.MetadataSound ∧ ∀ f ∈ g.entries, f.Placed := by
  obtain ⟨game, pairs, hgame, hpairs, hg⟩ := exists_pairs_of_ofNodes h
  obtain ⟨hsound, _⟩ := ofMetadata_ok hgame
  refine ⟨?_, Field.placed_of_entriesOf hpairs⟩
  rw [hg]
  exact ⟨hsound.hash, hsound.settings, hsound.architecture, hsound.tables, hsound.tableNames⟩

/-- The nodes of a game give its metadata, and the entries that are read from theirs. -/
theorem Game.ofNodes_entriesNode [Host] {g : Game} {gs : List Field} (h : g.MetadataSound)
    (hgs : entriesOf [] none (g.entries.map fun f => (.ofText f.name, f.toNode false)) = .ok gs) :
    Game.ofNodes (some g.metadataNode) (some g.entriesNode) =
      .ok { g with tables := rewrittenTables g.tables, entries := gs } := by
  rw [Game.ofNodes, ofMetadata_metadataNode h, entriesNode, Node.ofPairs]
  refine bind_eq_ok_iff.mpr ⟨_, rfl, bind_eq_ok_iff.mpr ⟨gs, ?_, rfl⟩⟩
  rw [hgs]
  rfl

/-- A game that was loaded is loaded again from its nodes, if the host writes its numbers. -/
theorem Game.ofNodes_written [Host] {metadata definitions : Option Node} {g : Game}
    (h : Game.ofNodes metadata definitions = .ok g)
    (hdigits : ∀ f ∈ g.entries, f.digitFault? = none) :
    ∃ g', Game.ofNodes (some g.metadataNode) (some g.entriesNode) = .ok g' ∧
      g'.entries.map (Field.content id) = g.entries.map (Field.content writtenSize) := by
  obtain ⟨hmetadata, hentries⟩ := placed_of_ofNodes h
  obtain ⟨gs, hgs, hcontent⟩ := Field.entriesOf_written hentries
    (fun f hf => (hentries f hf).sound.writable (hdigits f hf)) [] none
  exact ⟨_, ofNodes_entriesNode hmetadata hgs, hcontent⟩

/-- Whatever game was loaded, if the host writes the numbers of its entries, its nodes are loaded
again, and give the same entries in the same order. Their content is the same at every depth, with
sizes made only of digits as plain numerals, exactly if no size is digits with a line feed behind
them: the line feed of such a size is lost. -/
theorem Game.reload_entries [Host] {metadata definitions : Option Node} {g : Game}
    (h : Game.ofNodes metadata definitions = .ok g)
    (hdigits : ∀ f ∈ g.entries, f.digitFault? = none) :
    ∃ g', Game.ofNodes (some g.metadataNode) (some g.entriesNode) = .ok g' ∧
      g'.entries.map (Field.content id) = g.entries.map (Field.content writtenSize) ∧
      (g'.entries.map (Field.content id) = g.entries.map (Field.content normalSize) ↔
        ∀ f ∈ g.entries, f.Everywhere fun inner => ∀ size ∈ inner.size, ¬ IsDigitLine size) := by
  obtain ⟨g', hg', hcontent⟩ := ofNodes_written h hdigits
  refine ⟨g', hg', hcontent, ?_⟩
  rw [hcontent, List.map_inj_left]
  refine forall₂_congr fun f _ => ?_
  rw [Field.content_eq_iff]
  simp only [writtenSize_eq_normalSize_iff]

/-- A metadata document with no more than it has to have. -/
def sampleMetadata : Node :=
  .ofPairs [(.ofText "Title", .ofText "Sample"), (.ofText "Country", .ofText "Nowhere")]

/-- An integer, a struct and an array, of which the integer, a member of the struct and the items
are of one size. -/
def sampleNested (size : String) : Node :=
  let sized (pairs : List (Node × Node)) : Node :=
    .mapping "!int" (pairs ++ [(.ofText "Size", .ofText size)]) false none
  let states : Node :=
    .mapping "!int" [(.ofText "Size", .ofText "1"),
      (.ofText "Values", .ofPairs [(.ofInt 0, .ofText "none"), (.ofInt 1, .ofText "poisoned")])]
      false none
  .ofPairs
    [(.ofText "LIVES", sized [(.ofText "Offset", .ofHex 16)]),
     (.ofText "STATS", .mapping "!struct" [(.ofText "Offset", .ofHex 64),
      (.ofText "Entries", .ofPairs [(.ofText "HP", sized []), (.ofText "STATE", states)])]
      false none),
     (.ofText "ITEMS", .mapping "!array" [(.ofText "Offset", .ofHex 128),
      (.ofText "Size", .ofText "24"), (.ofText "Item Type", sized [])] false none)]

def sampleNestedGame (size : String) : Game where
  title := "Sample"
  country := "Nowhere"
  entries :=
    [{ kind := .integer, name := "LIVES", address := some 16, size := some size },
     { kind := .struct, name := "STATS", address := some 64,
       members :=
        [{ kind := .integer, name := "HP", size := some size },
         { kind := .integer, name := "STATE", size := some "1",
           values := [(0, "none"), (1, "poisoned")] }] },
     { kind := .array, name := "ITEMS", address := some 128, size := some "24",
       itemType := some { kind := .integer, size := some size } }]

/-- Zeros before a size are dropped wherever the size stands. -/
theorem sampleNested_reload_entries :
    Game.ofNodes (some sampleMetadata) (some (sampleNested "02")) =
        .ok (sampleNestedGame "02") ∧
      (∀ f ∈ (sampleNestedGame "02").entries, f.digitFault? = none) ∧
      ∃ g', Game.ofNodes (some (sampleNestedGame "02").metadataNode)
          (some (sampleNestedGame "02").entriesNode) = .ok g' ∧
        g'.entries.map (Field.content id) =
          (sampleNestedGame "2").entries.map (Field.content id) := by
  have hload : Game.ofNodes (some sampleMetadata) (some (sampleNested "02")) =
      .ok (sampleNestedGame "02") := rfl
  have hdigits : ∀ f ∈ (sampleNestedGame "02").entries, f.digitFault? = none := by decide
  obtain ⟨g', hg', hcontent, -⟩ := Game.reload_entries hload hdigits
  exact ⟨hload, hdigits, g', hg', hcontent.trans rfl⟩

/-- An integer of a given size. -/
def sampleEntries (size : String) : Node :=
  .ofPairs [(.ofText "LIVES",
    .mapping "!int" [(.ofText "Offset", .ofHex 16), (.ofText "Size", .ofText size)] false none)]

def sampleGame (size : String) : Game where
  title := "Sample"
  country := "Nowhere"
  entries := [{ kind := .integer, name := "LIVES", address := some 16, size := some size }]

/-- The line feed of a size is lost, though the size is not made only of digits. -/
theorem sampleGame_loses_line_feed :
    Game.ofNodes (some sampleMetadata) (some (sampleEntries "12\n")) = .ok (sampleGame "12\n") ∧
      normalSize "12\n" = "12\n" ∧
      ∃ g', Game.ofNodes (some (sampleGame "12\n").metadataNode)
          (some (sampleGame "12\n").entriesNode) = .ok g' ∧
        g'.entries.map (Field.content id) = (sampleGame "12").entries.map (Field.content id) ∧
        g'.entries.map (Field.content id) ≠
          (sampleGame "12\n").entries.map (Field.content normalSize) := by
  have hload : Game.ofNodes (some sampleMetadata) (some (sampleEntries "12\n")) =
      .ok (sampleGame "12\n") := rfl
  have hkept : normalSize "12\n" = "12\n" := rfl
  have hdigits : ∀ f ∈ (sampleGame "12\n").entries, f.digitFault? = none := by decide
  obtain ⟨g', hg', hcontent⟩ := Game.ofNodes_written hload hdigits
  have hlost : g'.entries.map (Field.content id) =
      (sampleGame "12").entries.map (Field.content id) := hcontent.trans rfl
  refine ⟨hload, hkept, g', hg', hlost, ?_⟩
  rw [hlost]
  intro heq
  have hsizes := congrArg (List.map fun f : Field => f.size) heq
  simp [sampleGame, Field.content, hkept] at hsizes

end GameAtlas.Schema
