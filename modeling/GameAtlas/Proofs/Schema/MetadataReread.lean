import Mathlib.Tactic
import GameAtlas.Proofs.Schema.ReadBack
import GameAtlas.Proofs.Script.Redescribed
import GameAtlas.Schema.Metadata

/-!
The metadata document written and read back: the texts and the processor of a game that was loaded
come back as they were, and its script tables are read again.
-/

namespace GameAtlas.Schema

open Yaml (Node)

/-- What is known of the metadata of a game that was loaded. -/
structure Game.MetadataSound (g : Game) : Prop where
  hash : g.cleanHash = "" ∨ Metadata.isHash g.cleanHash = true
  settings : g.processor.settings.Distinct
  architecture : "Architecture" ∉ g.processor.settings.map Prod.fst
  tables : ∀ t ∈ g.tables, t.2.Sound
  tableNames : g.tables.Distinct

namespace Metadata

theorem ofConversion_eq_ok {α : Type} {c : Yaml.Conversion α} {a : α}
    (h : ofConversion c = .ok a) : c = .ok a := by
  cases c with
  | ok b =>
    cases h
    rfl
  | error f => cases h

/-! ### What is read -/

variable [Host]

theorem cleanHash_ok {keys : Keyed String Node} {hash : String} (h : cleanHash keys = .ok hash) :
    hash = "" ∨ isHash hash = true := by
  obtain ⟨s, -, h⟩ := bind_eq_ok_iff.mp h
  split at h
  · next hs =>
    cases h
    simpa using hs
  · cases h

theorem processor_ok {keys : Keyed String Node} {p : Processor} (h : processor keys = .ok p) :
    p.settings.Distinct ∧ "Architecture" ∉ p.settings.map Prod.fst := by
  rw [processor] at h
  split at h
  · cases h
    exact ⟨List.nodup_nil, nofun⟩
  · obtain ⟨settings, hsettings, h⟩ := bind_eq_ok_iff.mp h
    have hnone : Keyed.Distinct ([] : Keyed String String) := List.nodup_nil
    have hdistinct := Reading.textPairs_distinct hnone (ofConversion_eq_ok hsettings)
    cases h
    exact ⟨hdistinct.erase "Architecture", Keyed.not_mem_keys_erase "Architecture" settings⟩
  · cases h

theorem table_ok {name : String} {n : Node} {t : Script.Table} (h : table name n = .ok t) :
    t.Sound := by
  rw [table] at h
  split at h
  · next t' hread =>
    cases h
    exact Script.Table.sound_of_ofNode hread
  · cases h
  · cases h

theorem tablesOf_ok {pairs : List (Node × Node)} {before tables : Keyed String Script.Table}
    (hbefore : ∀ t ∈ before, t.2.Sound) (hdistinct : before.Distinct)
    (h : tablesOf pairs before = .ok tables) : (∀ t ∈ tables, t.2.Sound) ∧ tables.Distinct := by
  induction pairs generalizing before with
  | nil =>
    cases h
    exact ⟨hbefore, hdistinct⟩
  | cons p rest ih =>
    obtain ⟨t, ht, h⟩ := bind_eq_ok_iff.mp h
    refine ih (fun q hq => ?_) (hdistinct.put _ t) h
    rcases Keyed.of_mem_put hq with rfl | hq
    · exact table_ok ht
    · exact hbefore q hq

theorem tables_ok {keys : Keyed String Node} {ts : Keyed String Script.Table}
    (h : tables keys = .ok ts) : (∀ t ∈ ts, t.2.Sound) ∧ ts.Distinct := by
  rw [tables] at h
  split at h
  · cases h
    exact ⟨nofun, List.nodup_nil⟩
  · exact tablesOf_ok (fun _ ht => absurd ht List.not_mem_nil) List.nodup_nil h
  · cases h

end Metadata

theorem Game.ofMetadata_ok [Host] {n : Option Node} {g : Game} (h : Game.ofMetadata n = .ok g) :
    g.MetadataSound ∧ g.entries = [] := by
  unfold Game.ofMetadata at h
  split at h
  · cases h
  · dsimp only at h
    split at h
    · cases h
    · split at h
      · cases h
      · obtain ⟨title, -, h⟩ := bind_eq_ok_iff.mp h
        obtain ⟨country, -, h⟩ := bind_eq_ok_iff.mp h
        obtain ⟨platform, -, h⟩ := bind_eq_ok_iff.mp h
        obtain ⟨version, -, h⟩ := bind_eq_ok_iff.mp h
        obtain ⟨script, -, h⟩ := bind_eq_ok_iff.mp h
        obtain ⟨hash, hhash, h⟩ := bind_eq_ok_iff.mp h
        obtain ⟨p, hp, h⟩ := bind_eq_ok_iff.mp h
        obtain ⟨ts, hts, h⟩ := bind_eq_ok_iff.mp h
        cases h
        have hprocessor := Metadata.processor_ok hp
        have htables := Metadata.tables_ok hts
        exact ⟨⟨Metadata.cleanHash_ok hhash, hprocessor.1, hprocessor.2, htables.1, htables.2⟩, rfl⟩
  · cases h

/-! ### What is written -/

/-- The architecture among the settings, unless it is empty. -/
def Processor.pairs (p : Processor) : Keyed String String :=
  (if p.architecture = "" then [] else [("Architecture", p.architecture)]) ++ p.settings

namespace Game

/-- Texts that are left out if they are empty. -/
def optionalTexts (g : Game) : Keyed String String :=
  [("Platform", g.platform), ("Version", g.version), ("Clean Hash", g.cleanHash),
   ("Default Script", g.defaultScript)]

/-- The values of the metadata document under their keys. -/
def metadataKeys (g : Game) : Keyed String Node :=
  [("Title", .ofText g.title), ("Country", .ofText g.country)] ++
    (g.optionalTexts.filter fun p => p.2 != "").map (fun p => (p.1, .ofText p.2)) ++
    (processorPairs g.processor ++ tablePairs g.tables).map fun p => (p.1.keyText, p.2)

theorem processorPairs_eq (p : Processor) : processorPairs p =
    if (Keyed.ofPairs p.pairs).isEmpty then []
    else [(.ofText "Processor", Describe.textMap (Keyed.ofPairs p.pairs))] := rfl

theorem keys_processorPairs (p : Processor) :
    ((processorPairs p).map fun q => q.1.keyText).Sublist ["Processor"] := by
  rw [processorPairs_eq]
  split
  · simp
  · exact List.Sublist.refl _

theorem keys_tablePairs (ts : Keyed String Script.Table) :
    ((tablePairs ts).map fun q => q.1.keyText).Sublist ["Script Tables"] := by
  rw [tablePairs]
  split
  · simp
  · exact List.Sublist.refl _

theorem keys_within (g : Game) : ((processorPairs g.processor ++ tablePairs g.tables).map fun p =>
    (p.1.keyText, p.2)).map Prod.fst |>.Sublist ["Processor", "Script Tables"] := by
  rw [List.map_map, List.map_append]
  exact (keys_processorPairs g.processor).append (keys_tablePairs g.tables)

theorem metadataKeys_distinct (g : Game) : g.metadataKeys.Distinct := by
  have hoptional : (((g.optionalTexts.filter fun p => p.2 != "").map fun p =>
      (p.1, Node.ofText p.2)).map Prod.fst).Sublist
        ["Platform", "Version", "Clean Hash", "Default Script"] := by
    rw [List.map_map]
    exact List.filter_sublist.map Prod.fst
  have hall : (g.metadataKeys.map Prod.fst).Sublist
      (["Title", "Country"] ++ ["Platform", "Version", "Clean Hash", "Default Script"] ++
        ["Processor", "Script Tables"]) := by
    rw [metadataKeys, List.map_append, List.map_append]
    exact ((List.Sublist.refl _).append hoptional).append g.keys_within
  exact hall.nodup (by decide)

theorem keys_metadataNode (g : Game) : ∃ pairs, g.metadataNode = .ofPairs pairs ∧
    Keyed.ofPairs (pairs.map fun (k, v) => (k.keyText, v)) = g.metadataKeys := by
  refine ⟨_, rfl, ?_⟩
  rw [← Keyed.ofPairs_of_distinct g.metadataKeys_distinct]
  congr 1
  simp only [metadataKeys, List.map_append, List.map_map, List.append_assoc]
  rfl

/-! ### Reading it back -/

variable {g : Game}

theorem get?_metadataKeys {key : String} (htitle : key ≠ "Title") (hcountry : key ≠ "Country") :
    Keyed.get? key g.metadataKeys =
      (((Keyed.get? key g.optionalTexts).filter (· != "")).map Node.ofText).or
        (Keyed.get? key ((processorPairs g.processor ++ tablePairs g.tables).map fun p =>
          (p.1.keyText, p.2))) := by
  have hdistinct : g.optionalTexts.Distinct := by
    have hkeys : (["Platform", "Version", "Clean Hash", "Default Script"] : List String).Nodup := by
      decide
    exact hkeys
  rw [metadataKeys, Keyed.get?_append, Keyed.get?_append, Keyed.get?_map _ (fun _ => Node.ofText),
    Keyed.get?_filter key (· != "") hdistinct, Keyed.get?, if_neg htitle.symm, Keyed.get?,
    if_neg hcountry.symm, Keyed.get?, Option.none_or]

theorem text_of_scalar [Host] {keys : Keyed String Node} {key v : String}
    (h : Keyed.get? key keys = some (.ofText v)) : Metadata.text keys key = .ok v := by
  rw [Metadata.text, h]
  dsimp only
  rw [Node.valueText_ofText]
  rfl

/-- A text that is left out is read as an empty one. -/
theorem text_optional [Host] {key v : String} (hkey : Keyed.get? key g.optionalTexts = some v)
    (hother : key ∉ ["Title", "Country", "Processor", "Script Tables"]) :
    Metadata.text g.metadataKeys key = .ok v := by
  simp only [List.mem_cons, not_or] at hother
  have hrest : Keyed.get? key ((processorPairs g.processor ++ tablePairs g.tables).map fun p =>
      (p.1.keyText, p.2)) = none := by
    refine Keyed.get?_eq_none_iff.mpr fun hmem => ?_
    have hname := g.keys_within.subset hmem
    simp only [List.mem_cons] at hname
    tauto
  have hget := get?_metadataKeys (g := g) hother.1 hother.2.1
  rw [hkey, hrest, Option.or_none] at hget
  by_cases hv : v = ""
  · subst hv
    rw [Metadata.text, hget]
    rfl
  · rw [Option.filter_some, if_pos (by simpa using hv)] at hget
    exact text_of_scalar hget

theorem cleanHash_written [Host] (h : g.MetadataSound) :
    Metadata.cleanHash g.metadataKeys = .ok g.cleanHash := by
  have htext : Metadata.text g.metadataKeys "Clean Hash" = .ok g.cleanHash :=
    text_optional rfl (by decide)
  rw [Metadata.cleanHash, htext]
  exact if_pos (by simpa using h.hash)

/-- Reading settings takes the architecture out of them. -/
theorem split_pairs {p : Processor} (h : "Architecture" ∉ p.settings.map Prod.fst) :
    (Keyed.get? "Architecture" p.pairs).getD "" = p.architecture ∧
      Keyed.erase "Architecture" p.pairs = p.settings := by
  rw [Processor.pairs]
  split
  · next hnone =>
    rw [List.nil_append, Keyed.get?_eq_none_iff.mpr h, hnone, Keyed.erase_of_new h]
    exact ⟨rfl, rfl⟩
  · constructor
    · rw [List.singleton_append, Keyed.get?, if_pos rfl]
      rfl
    · rw [List.singleton_append, Keyed.erase, List.filter_cons_of_neg (by simp)]
      exact Keyed.erase_of_new h

theorem pairs_distinct {p : Processor} (hsettings : p.settings.Distinct)
    (h : "Architecture" ∉ p.settings.map Prod.fst) : p.pairs.Distinct := by
  rw [Processor.pairs]
  split
  · exact hsettings
  · exact List.nodup_cons.mpr ⟨h, hsettings⟩

theorem get?_processor (h : g.MetadataSound) : Keyed.get? "Processor" g.metadataKeys =
    if g.processor.pairs.isEmpty then none else some (Describe.textMap g.processor.pairs) := by
  have htables : Keyed.get? "Processor" ((tablePairs g.tables).map fun p => (p.1.keyText, p.2)) =
      none := by
    refine Keyed.get?_eq_none_iff.mpr fun hmem => ?_
    rw [List.map_map] at hmem
    have hname := (keys_tablePairs g.tables).subset hmem
    revert hname
    decide
  have hoptional : Keyed.get? "Processor" g.optionalTexts = none := by
    refine Keyed.get?_eq_none_iff.mpr ?_
    show "Processor" ∉ ["Platform", "Version", "Clean Hash", "Default Script"]
    decide
  rw [get?_metadataKeys (by decide) (by decide), hoptional, List.map_append, Keyed.get?_append,
    htables, processorPairs_eq,
    Keyed.ofPairs_of_distinct (pairs_distinct h.settings h.architecture)]
  split <;> rfl

theorem processor_written [Host] (h : g.MetadataSound) :
    Metadata.processor g.metadataKeys = .ok g.processor := by
  obtain ⟨harchitecture, hsettings⟩ := split_pairs h.architecture
  have hdistinct := pairs_distinct h.settings h.architecture
  have hkept : g.processor.pairs.foldl (fun m p => Keyed.put p.1 p.2 m) [] = g.processor.pairs :=
    Keyed.ofPairs_of_distinct hdistinct
  have hwhole : (⟨(Keyed.get? "Architecture" g.processor.pairs).getD "",
      Keyed.erase "Architecture" g.processor.pairs⟩ : Processor) = g.processor := by
    rw [harchitecture, hsettings]
  rw [Metadata.processor, get?_processor h]
  by_cases hempty : g.processor.pairs.isEmpty = true
  · rw [List.isEmpty_iff.mp hempty] at hwhole
    simp only [hempty, if_true]
    rw [← hwhole]
    rfl
  · simp only [hempty, Bool.false_eq_true, if_false, Describe.textMap, Node.ofPairs,
      Reading.textPairs_ofText, hkept]
    exact congrArg Except.ok hwhole

/-! ### Tables -/

theorem get?_tables (g : Game) : Keyed.get? "Script Tables" g.metadataKeys =
    if g.tables.isEmpty then none
    else some (.ofPairs (g.tables.map fun (name, t) => (.ofText name, t.toNode))) := by
  have hprocessor : Keyed.get? "Script Tables"
      ((processorPairs g.processor).map fun p => (p.1.keyText, p.2)) = none := by
    refine Keyed.get?_eq_none_iff.mpr fun hmem => ?_
    rw [List.map_map] at hmem
    have hname := (keys_processorPairs g.processor).subset hmem
    revert hname
    decide
  have hoptional : Keyed.get? "Script Tables" g.optionalTexts = none := by
    refine Keyed.get?_eq_none_iff.mpr ?_
    show "Script Tables" ∉ ["Platform", "Version", "Clean Hash", "Default Script"]
    decide
  rw [get?_metadataKeys (by decide) (by decide), hoptional, List.map_append, Keyed.get?_append,
    hprocessor, tablePairs]
  split <;> rfl

/-- The tables of a game as they are read back, each under its name. -/
def rewrittenTables (ts : Keyed String Script.Table) : Keyed String Script.Table :=
  ts.map fun p => (p.1, { p.2.written with name := p.1 })

theorem tablesOf_written [Host] {ts : Keyed String Script.Table}
    (h : ∀ t ∈ ts, t.2.Sound) (before : Keyed String Script.Table) :
    Metadata.tablesOf (ts.map fun (name, t) => (.ofText name, t.toNode)) before =
      .ok ((rewrittenTables ts).foldl (fun m p => Keyed.put p.1 p.2 m) before) := by
  induction ts generalizing before with
  | nil => rfl
  | cons t rest ih =>
    have hr := Script.Table.ofNode_toNode t.1 (h t (by simp))
    have hname : (Node.ofText t.1).keyText = t.1 := rfl
    refine bind_eq_ok_iff.mpr ⟨_, ?_, ih (fun q hq => h q (List.mem_cons_of_mem t hq)) _⟩
    rw [hname, Metadata.table, hr]

theorem tables_written [Host] (h : g.MetadataSound) :
    Metadata.tables g.metadataKeys = .ok (rewrittenTables g.tables) := by
  have hdistinct : (rewrittenTables g.tables).Distinct := by
    have hnames := h.tableNames
    rwa [Keyed.Distinct, rewrittenTables, List.map_map]
  have hread := tablesOf_written h.tables []
  rw [Keyed.foldl_put _ _ hdistinct, List.nil_append] at hread
  rw [Metadata.tables, get?_tables]
  by_cases hempty : g.tables.isEmpty = true
  · rw [List.isEmpty_iff.mp hempty]
    rfl
  · simp only [hempty, Bool.false_eq_true, if_false, Node.ofPairs]
    exact hread

/-! ### The document -/

/-- The metadata of a game are read back. -/
theorem ofMetadata_metadataNode [Host] (h : g.MetadataSound) :
    Game.ofMetadata (some g.metadataNode) =
      .ok { g with tables := rewrittenTables g.tables, entries := [] } := by
  obtain ⟨pairs, hnode, hkeys⟩ := g.keys_metadataNode
  have htitle : Keyed.get? "Title" g.metadataKeys = some (.ofText g.title) := rfl
  have hcountry : Keyed.get? "Country" g.metadataKeys = some (.ofText g.country) := rfl
  have hhas : Keyed.has "Title" g.metadataKeys = true ∧ Keyed.has "Country" g.metadataKeys = true :=
    ⟨rfl, rfl⟩
  have hplatform : Metadata.text g.metadataKeys "Platform" = .ok g.platform :=
    text_optional rfl (by decide)
  have hversion : Metadata.text g.metadataKeys "Version" = .ok g.version :=
    text_optional rfl (by decide)
  have hscript : Metadata.text g.metadataKeys "Default Script" = .ok g.defaultScript :=
    text_optional rfl (by decide)
  rw [hnode, Node.ofPairs, ofMetadata]
  simp only [hkeys, hhas, text_of_scalar htitle, text_of_scalar hcountry, hplatform, hversion,
    hscript, cleanHash_written h, processor_written h, tables_written h]
  rfl

end Game

end GameAtlas.Schema
