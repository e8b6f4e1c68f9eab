import Mathlib.Tactic
import GameAtlas.Proofs.Schema.Entries
import GameAtlas.Proofs.Script.Obstacles

/-!
All that is wrong with a metadata document, in the order in which it is met: a game is not loaded
because of the first of it. What is missing or malformed is a fault of the structure of the
document. A value that faults when it is converted is not: nothing guards it.
-/

namespace GameAtlas.Schema

open Yaml (Node ConversionFault)
open Script.Loading (wrongTable TableLeaks)

/-- A fault of the structure of a document. -/
def LoadFault.isStructural : LoadFault → Bool
  | .missing _ | .malformed _ => true
  | .field _ | .unreadable _ => false

namespace Metadata

/-- The keys whose texts are converted, but for that of the hash, which is checked besides. -/
def textKeys : List String := ["Title", "Country", "Platform", "Version", "Default Script"]

/-- The keys of a document; the last value of a key counts. -/
def keysOf (pairs : List (Node × Node)) : Keyed String Node :=
  Keyed.ofPairs (pairs.map fun (k, v) => (k.keyText, v))

/-! ### What is wrong -/

def unguarded (fault : ConversionFault) : LoadFault := .field (.conversion fault)

def tableFault (name : String) : Script.Obstacle → LoadFault
  | .defect d => .malformed (.table name d)
  | .conversion fault => unguarded fault

section

variable [Host]

def wrongTexts (keys : Keyed String Node) : List LoadFault :=
  (textKeys.flatMap fun key => failures (text keys key)) ++ failures (cleanHash keys)

/-- What is wrong with what stands under a key, which has to be a mapping if it is there. -/
def wrongMapping (found : Option Node) (malformed : Malformed)
    (wrong : List (Node × Node) → List LoadFault) : List LoadFault :=
  match found with
  | none => []
  | some (.mapping _ pairs _ _) => wrong pairs
  | some _ => [.malformed malformed]

def wrongProcessor (keys : Keyed String Node) : List LoadFault :=
  wrongMapping (Keyed.get? "Processor" keys) .processor fun pairs =>
    (pairs.flatMap fun p => failures p.2.valueText).map unguarded

def wrongTables (keys : Keyed String Node) : List LoadFault :=
  wrongMapping (Keyed.get? "Script Tables" keys) .tables fun pairs =>
    pairs.flatMap fun p => (wrongTable p.2).map (tableFault p.1.keyText)

def wrongKeys (keys : Keyed String Node) : List LoadFault :=
  (if Keyed.has "Title" keys then [] else [.missing .title]) ++
    ((if Keyed.has "Country" keys then [] else [.missing .country]) ++
      (wrongTexts keys ++ (wrongProcessor keys ++ wrongTables keys)))

/-- All that is wrong with a metadata document. -/
def faults : Option Node → List LoadFault
  | none => [.missing .document]
  | some (.mapping _ pairs _ _) => wrongKeys (keysOf pairs)
  | some _ => [.malformed .metadata]

end

/-! ### What is met first -/

variable {keys : Keyed String Node}

theorem stopsAt_textPairs [Host] (pairs : List (Node × Node)) (m : Keyed String String) :
    StopsAt (Reading.textPairs pairs m) (pairs.flatMap fun p => failures p.2.valueText) := by
  induction pairs generalizing m with
  | nil => rfl
  | cons p rest ih => exact (stopsAt_failures p.2.valueText).bind fun d _ => ih _

theorem ofConversion_eq {α : Type} (c : Yaml.Conversion α) :
    ofConversion c = c.mapError unguarded := by
  cases c <;> rfl

section

variable [Host]

theorem stopsAt_processor : StopsAt (processor keys) (wrongProcessor keys) := by
  rw [processor, wrongProcessor, wrongMapping.eq_def]
  cases Keyed.get? "Processor" keys with
  | none => rfl
  | some v =>
    cases v with
    | mapping tag pairs flow share =>
      have hsettings := (stopsAt_textPairs pairs []).mapError unguarded
      rw [← ofConversion_eq] at hsettings
      exact hsettings.map fun settings => (⟨(Keyed.get? "Architecture" settings).getD "",
        Keyed.erase "Architecture" settings⟩ : Processor)
    | scalar => rfl
    | sequence => rfl

theorem table_eq (name : String) (n : Node) :
    table name n = (Script.Table.ofNode name n).mapError (tableFault name) := by
  rw [table]
  cases Script.Table.ofNode name n with
  | ok t => rfl
  | error o => cases o <;> rfl

theorem stopsAt_tablesOf (pairs : List (Node × Node)) (ts : Keyed String Script.Table) :
    StopsAt (tablesOf pairs ts)
      (pairs.flatMap fun p => (wrongTable p.2).map (tableFault p.1.keyText)) := by
  induction pairs generalizing ts with
  | nil => rfl
  | cons p rest ih =>
    have htable := (Script.Loading.stopsAt_table p.1.keyText p.2).mapError (tableFault p.1.keyText)
    rw [← table_eq] at htable
    exact htable.bind fun t _ => ih _

theorem stopsAt_tables : StopsAt (tables keys) (wrongTables keys) := by
  rw [tables, wrongTables, wrongMapping.eq_def]
  cases Keyed.get? "Script Tables" keys with
  | none => rfl
  | some v =>
    cases v with
    | mapping tag pairs flow share => exact stopsAt_tablesOf pairs []
    | scalar => rfl
    | sequence => rfl

theorem stopsAt_ofMetadata (metadata : Option Node) :
    StopsAt (Game.ofMetadata metadata) (faults metadata) := by
  cases metadata with
  | none => rfl
  | some n =>
    cases n with
    | scalar => rfl
    | sequence => rfl
    | mapping tag pairs flow share =>
      rw [Game.ofMetadata, faults, wrongKeys, keysOf]
      generalize Keyed.ofPairs (pairs.map fun (k, v) => (k.keyText, v)) = keys
      have htext (key : String) := stopsAt_failures (text keys key)
      cases Keyed.has "Title" keys with
      | false => rfl
      | true =>
        cases Keyed.has "Country" keys with
        | false => rfl
        | true =>
          simp only [wrongTexts, textKeys, List.flatMap_cons, List.flatMap_nil, List.append_assoc,
            List.nil_append, if_true]
          refine (htext "Title").bind fun title _ => (htext "Country").bind fun country _ =>
            (htext "Platform").bind fun platform _ => (htext "Version").bind fun version _ =>
            (htext "Default Script").bind fun defaultScript _ => ?_
          refine (stopsAt_failures (cleanHash keys)).bind fun hash _ =>
            stopsAt_processor.bind fun processor _ => ?_
          exact stopsAt_tables.map _

end

/-! ### What is not guarded -/

/-- Something in a metadata document faults when it is converted, without a guard. -/
inductive Leaks [Host] (keys : Keyed String Node) (fault : ConversionFault) : Prop where
  | text {key : String} {v : Node} : key ∈ "Clean Hash" :: textKeys →
      Keyed.get? key keys = some v → v.isScalar = true → v.valueText = .error fault →
      Leaks keys fault
  | setting {tag : String} {pairs : List (Node × Node)} {flow : Bool} {share : Option Nat}
      {p : Node × Node} : Keyed.get? "Processor" keys = some (.mapping tag pairs flow share) →
      p ∈ pairs → p.2.valueText = .error fault → Leaks keys fault
  | table {tag : String} {pairs : List (Node × Node)} {flow : Bool} {share : Option Nat}
      {p : Node × Node} : Keyed.get? "Script Tables" keys = some (.mapping tag pairs flow share) →
      p ∈ pairs → TableLeaks p.2 fault → Leaks keys fault

/-- Something in a document faults. Only mappings are looked into. -/
def LeaksIn [Host] (metadata : Option Node) (fault : ConversionFault) : Prop :=
  ∃ tag pairs flow share, metadata = some (.mapping tag pairs flow share) ∧
    Leaks (keysOf pairs) fault

/-- Of what is wrong, all that is no fault of the structure is a conversion that leaks. -/
def Tells (wrong : List LoadFault) (leaks : ConversionFault → Prop) : Prop :=
  ∀ e, e.isStructural = false → (e ∈ wrong ↔ ∃ fault, e = unguarded fault ∧ leaks fault)

section Tells

variable {wrong more : List LoadFault} {leaks leaks' : ConversionFault → Prop}

theorem Tells.congr (h : Tells wrong leaks) (hleaks : ∀ fault, leaks fault ↔ leaks' fault) :
    Tells wrong leaks' := by
  intro e he
  rw [h e he]
  exact exists_congr fun fault => and_congr_right fun _ => hleaks fault

theorem tells_nil (h : ∀ fault, ¬ leaks fault) : Tells [] leaks :=
  fun _ _ => iff_of_false nofun fun ⟨fault, _, hleaks⟩ => h fault hleaks

theorem tells_structural {e : LoadFault} (he : e.isStructural = true)
    (h : ∀ fault, ¬ leaks fault) : Tells [e] leaks := by
  intro e' he'
  refine iff_of_false (fun hmem => ?_) fun ⟨fault, _, hleaks⟩ => h fault hleaks
  rw [List.mem_singleton.mp hmem, he] at he'
  cases he'

theorem tells_conversion {α : Type} (c : Yaml.Conversion α) :
    Tells ((failures c).map unguarded) fun fault => c = .error fault := by
  intro e _
  rw [List.mem_map]
  constructor
  · rintro ⟨fault, hfault, rfl⟩
    exact ⟨fault, rfl, mem_failures.mp hfault⟩
  · rintro ⟨fault, rfl, hfault⟩
    exact ⟨fault, mem_failures.mpr hfault, rfl⟩

theorem Tells.append (h : Tells wrong leaks) (hmore : Tells more leaks') :
    Tells (wrong ++ more) fun fault => leaks fault ∨ leaks' fault := by
  intro e he
  rw [List.mem_append, h e he, hmore e he, ← exists_or]
  exact exists_congr fun fault => and_or_left.symm

theorem tells_flatMap {α : Type} {as : List α} {wrong : α → List LoadFault}
    {leaks : α → ConversionFault → Prop} (h : ∀ a ∈ as, Tells (wrong a) (leaks a)) :
    Tells (as.flatMap wrong) fun fault => ∃ a ∈ as, leaks a fault := by
  intro e he
  rw [List.mem_flatMap]
  constructor
  · rintro ⟨a, ha, hmem⟩
    obtain ⟨fault, rfl, hleaks⟩ := (h a ha e he).mp hmem
    exact ⟨fault, rfl, a, ha, hleaks⟩
  · rintro ⟨fault, rfl, a, ha, hleaks⟩
    exact ⟨a, ha, (h a ha _ he).mpr ⟨fault, rfl, hleaks⟩⟩

end Tells

/-- The text of a key faults. -/
def TextLeaks [Host] (keys : Keyed String Node) (key : String) (fault : ConversionFault) : Prop :=
  ∃ v, Keyed.get? key keys = some v ∧ v.isScalar = true ∧ v.valueText = .error fault

theorem tells_text [Host] (key : String) :
    Tells (failures (text keys key)) (TextLeaks keys key) := by
  rw [text]
  cases hfound : Keyed.get? key keys with
  | none =>
    refine tells_nil ?_
    rintro fault ⟨v, hv, _⟩
    cases hfound.symm.trans hv
  | some v =>
    have hleaks (fault : ConversionFault) :
        TextLeaks keys key fault ↔ v.isScalar = true ∧ v.valueText = .error fault := by
      rw [TextLeaks, hfound]
      constructor
      · rintro ⟨_, hv, h⟩
        cases hv
        exact h
      · exact fun h => ⟨v, rfl, h⟩
    dsimp only
    split
    · next hscalar =>
      have hfailures : failures (ofConversion v.valueText) =
          (failures v.valueText).map unguarded := by
        cases v.valueText <;> rfl
      rw [hfailures]
      refine (tells_conversion v.valueText).congr fun fault => ?_
      rw [hleaks, and_iff_right hscalar]
    · next hscalar =>
      exact tells_structural rfl fun fault h => hscalar ((hleaks fault).mp h).1

theorem tells_cleanHash [Host] :
    Tells (failures (cleanHash keys)) (TextLeaks keys "Clean Hash") := by
  intro e he
  rw [← tells_text "Clean Hash" e he, mem_failures, mem_failures, cleanHash, bind_eq_error_iff]
  constructor
  · rintro (htext | ⟨hash, _, hcheck⟩)
    · exact htext
    · split at hcheck
      · cases hcheck
      · cases hcheck
        cases he
  · exact .inl

theorem tells_texts [Host] : Tells (wrongTexts keys) fun fault =>
    ∃ key ∈ "Clean Hash" :: textKeys, TextLeaks keys key fault := by
  have htexts : Tells (wrongTexts keys) _ :=
    (tells_flatMap fun key (_ : key ∈ textKeys) => tells_text key).append tells_cleanHash
  refine htexts.congr fun fault => ?_
  rw [List.exists_mem_cons_iff]
  exact or_comm

theorem tells_mapping {found : Option Node} {malformed : Malformed}
    {wrong : List (Node × Node) → List LoadFault}
    {leaks : List (Node × Node) → ConversionFault → Prop}
    (h : ∀ pairs, Tells (wrong pairs) (leaks pairs)) :
    Tells (wrongMapping found malformed wrong) fun fault => ∃ tag pairs flow share,
      found = some (.mapping tag pairs flow share) ∧ leaks pairs fault := by
  cases found with
  | none => exact tells_nil fun fault ⟨_, _, _, _, hv, _⟩ => nomatch hv
  | some v =>
    cases v with
    | mapping tag pairs flow share =>
      refine (h pairs).congr fun fault => ⟨fun hleaks => ⟨tag, pairs, flow, share, rfl, hleaks⟩, ?_⟩
      rintro ⟨_, _, _, _, hv, hleaks⟩
      cases hv
      exact hleaks
    | scalar => exact tells_structural rfl fun fault ⟨_, _, _, _, hv, _⟩ => nomatch hv
    | sequence => exact tells_structural rfl fun fault ⟨_, _, _, _, hv, _⟩ => nomatch hv

variable [Host]

theorem tells_processor : Tells (wrongProcessor keys) fun fault =>
    ∃ tag pairs flow share, Keyed.get? "Processor" keys = some (.mapping tag pairs flow share) ∧
      ∃ p ∈ pairs, p.2.valueText = .error fault := by
  refine tells_mapping fun pairs => ?_
  rw [List.map_flatMap]
  exact tells_flatMap fun p _ => tells_conversion p.2.valueText

theorem tells_table (name : String) (n : Node) :
    Tells ((wrongTable n).map (tableFault name)) (TableLeaks n) := by
  intro e he
  rw [List.mem_map]
  constructor
  · rintro ⟨o, ho, rfl⟩
    cases o with
    | defect d => cases he
    | conversion fault => exact ⟨fault, rfl, Script.Loading.mem_wrongTable.mp ho⟩
  · rintro ⟨fault, rfl, hleaks⟩
    exact ⟨.conversion fault, Script.Loading.mem_wrongTable.mpr hleaks, rfl⟩

theorem tells_tables : Tells (wrongTables keys) fun fault =>
    ∃ tag pairs flow share,
      Keyed.get? "Script Tables" keys = some (.mapping tag pairs flow share) ∧
        ∃ p ∈ pairs, TableLeaks p.2 fault :=
  tells_mapping fun _ => tells_flatMap fun p _ => tells_table p.1.keyText p.2

theorem tells_keys : Tells (wrongKeys keys) (Leaks keys) := by
  have hmissing (key : String) (m : Missing) :
      Tells (if Keyed.has key keys then [] else [.missing m]) fun _ => False := by
    split
    · exact tells_nil fun _ => id
    · exact tells_structural rfl fun _ => id
  have hall : Tells (wrongKeys keys) _ := (hmissing "Title" .title).append
    ((hmissing "Country" .country).append
      (tells_texts.append (tells_processor.append tells_tables)))
  refine hall.congr fun fault => ?_
  rw [false_or, false_or]
  constructor
  · rintro (⟨key, hkey, v, hv, hscalar, hdatum⟩ | ⟨_, _, _, _, hprocessor, p, hp, hdatum⟩ |
      ⟨_, _, _, _, htables, p, hp, hleaks⟩)
    · exact .text hkey hv hscalar hdatum
    · exact .setting hprocessor hp hdatum
    · exact .table htables hp hleaks
  · intro h
    cases h with
    | text hkey hv hscalar hdatum => exact .inl ⟨_, hkey, _, hv, hscalar, hdatum⟩
    | setting hprocessor hp hdatum =>
      exact .inr (.inl ⟨_, _, _, _, hprocessor, _, hp, hdatum⟩)
    | table htables hp hleaks => exact .inr (.inr ⟨_, _, _, _, htables, _, hp, hleaks⟩)

/-- What is no fault of the structure of a document leaks from one of its values. -/
theorem tells_faults (metadata : Option Node) : Tells (faults metadata) (LeaksIn metadata) := by
  cases metadata with
  | none => exact tells_structural rfl fun fault ⟨_, _, _, _, hn, _⟩ => nomatch hn
  | some n =>
    cases n with
    | scalar => exact tells_structural rfl fun fault ⟨_, _, _, _, hn, _⟩ => nomatch hn
    | sequence => exact tells_structural rfl fun fault ⟨_, _, _, _, hn, _⟩ => nomatch hn
    | mapping tag pairs flow share =>
      have hkeys : Tells (wrongKeys (keysOf pairs)) _ := tells_keys
      refine hkeys.congr fun fault => ⟨fun h => ⟨tag, pairs, flow, share, rfl, h⟩, ?_⟩
      rintro ⟨_, _, _, _, hn, h⟩
      cases hn
      exact h

end Metadata

/-! ### Games -/

namespace Game

open Metadata

theorem stopsAt_ofNodes [Host] (metadata : Option Node) (tag : String) (flow : Bool)
    (share : Option Nat) :
    StopsAt (ofNodes metadata (some (.mapping tag [] flow share))) (faults metadata) := by
  have hgame := (stopsAt_ofMetadata metadata).map fun game : Game => { game with entries := [] }
  exact hgame

/-- Without entries, a game is not loaded because of the first thing that is wrong with its
metadata. So all failures are faults of the structure exactly if no value that leaks comes first,
and the values that leak are those that are converted without a guard. The same holds of a table,
where all other failures are defects of its description. -/
theorem structural_failures [Host] (metadata : Option Node) (tag : String) (flow : Bool)
    (share : Option Nat) (name : String) (n : Node) :
    let outcome := ofNodes metadata (some (.mapping tag [] flow share))
    let table := Script.Table.ofNode name n
    ((∀ e, outcome = .error e → e.isStructural = true) ↔
        ∀ fault, (faults metadata).head? ≠ some (.field (.conversion fault))) ∧
      (∀ e, outcome = .error e ↔ (faults metadata).head? = some e) ∧
      (∀ fault, .field (.conversion fault) ∈ faults metadata ↔ LeaksIn metadata fault) ∧
    ((∀ o, table = .error o → ∃ d, o = .defect d) ↔
        ∀ fault, (wrongTable n).head? ≠ some (.conversion fault)) ∧
      (∀ o, table = .error o ↔ (wrongTable n).head? = some o) ∧
      ∀ fault, .conversion fault ∈ wrongTable n ↔ TableLeaks n fault := by
  intro outcome table
  have hgame := (stopsAt_ofNodes metadata tag flow share).error_iff
  have htable := (Script.Loading.stopsAt_table name n).error_iff
  have hleaks (fault : ConversionFault) : unguarded fault ∈ faults metadata ↔
      LeaksIn metadata fault := by
    rw [tells_faults metadata (unguarded fault) rfl]
    exact ⟨fun ⟨_, heq, h⟩ => by cases heq; exact h, fun h => ⟨fault, rfl, h⟩⟩
  refine ⟨⟨fun h fault hhead => ?_, fun h e he => ?_⟩, hgame, hleaks,
    ⟨fun h fault hhead => ?_, fun h o ho => ?_⟩, htable, fun _ => Script.Loading.mem_wrongTable⟩
  · cases h _ ((hgame _).mpr hhead)
  · have hhead := (hgame e).mp he
    cases hstructural : e.isStructural with
    | true => rfl
    | false =>
      obtain ⟨fault, rfl, _⟩ :=
        (tells_faults metadata e hstructural).mp (List.mem_of_mem_head? hhead)
      exact absurd hhead (h fault)
  · obtain ⟨_, hdefect⟩ := h _ ((htable _).mpr hhead)
    cases hdefect
  · cases o with
    | defect d => exact ⟨d, rfl⟩
    | conversion fault => exact absurd ((htable _).mp ho) (h fault)

/-- A table that has a day that is none in the place of a size. -/
def sampleDate : Node :=
  .ofPairs [(.ofText "Lengths", .ofPairs [(.ofHex 1, .text Yaml.Tag.timestamp "2001-99-99")])]

def sampleDated : Node :=
  .ofPairs [(.ofText "Title", .ofText "T"), (.ofText "Country", .ofText "C"),
    (.ofText "Script Tables", .ofPairs [(.ofText "Main", sampleDate)])]

/-- It is neither read nor found defective. -/
theorem sampleDated_not_structural :
    ofNodes (some sampleDated) (some (.ofPairs [])) =
        .error (.field (.conversion (.misfit (.badDate .month)))) ∧
      Script.Table.ofNode "Main" sampleDate = .error (.conversion (.misfit (.badDate .month))) :=
  ⟨rfl, rfl⟩

end Game

end GameAtlas.Schema
