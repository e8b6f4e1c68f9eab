import Mathlib.Data.Bool.AllAny
import Mathlib.Tactic
import GameAtlas.Command.Extract
import GameAtlas.Proofs.Image.Refused
import GameAtlas.Proofs.Projection.TextForm
import GameAtlas.Proofs.Schema.Unguarded
import GameAtlas.Proofs.Text.Portion
import GameAtlas.Proofs.Yaml.Spoilers

/-!
How the command ends that reads one entry of an image and shows it. It is to end with zero and the
rendering where there is one, with two where a text is asked for of a value that has none, and with
one in all other cases. So it does unless a fault gets past it: one that nothing guards while the
schema is loaded, or a number of bytes that is refused while the entry is read. Schemas whose
documents are left out, those with nodes within themselves or with surrogates, are not spoken of.
-/

namespace GameAtlas.Command.Extract

open Files (Disk Snapshot SchemaFault loadFile readFile)
open Image (DecodeFault Refuses Roomy Source Value)
open Projection (Format)
open Schema (Field Game LoadFault)
open Yaml (ConversionFault)

variable {disk : Disk Id} {schema image entry : String} {format? : Option Format}

/-! ### What is to happen -/

section

variable [Host]

/-- The schema is loaded, the entry is there, and the image gives a value for it. -/
structure Decodes (disk : Disk Id) (schema image entry : String) (g : Game) (v : Value) : Prop where
  load : (loadFile disk schema).run = .ok g
  decode : ∃ f bytes, g.entry? entry = some f ∧ (readFile disk image).run = .ok bytes ∧
    Image.decodeFile bytes f [] = .ok v

/-- The entry is rendered as `s`. -/
def Shows (disk : Disk Id) (schema image entry : String) (format? : Option Format) (s : String) :
    Prop :=
  ∃ g v format, Decodes disk schema image entry g v ∧ format? = some format ∧
    Projection.render (some g) v format = .ok s

/-- A text is asked for of an entry whose kind has none. -/
def Textless (disk : Disk Id) (schema image entry : String) (format? : Option Format) : Prop :=
  ∃ g v, Decodes disk schema image entry g v ∧ format? = some .text ∧
    v.kind ≠ .script ∧ v.kind ≠ .integer

/-- What an ending is to say. -/
structure Promised (disk : Disk Id) (schema image entry : String) (format? : Option Format)
    (ending : Ending) : Prop where
  shown : ∀ s, ending.code = 0 ∧ ending.out = s ++ "\n" ↔
    Shows disk schema image entry format? s
  textless : ending.code = 2 ↔ Textless disk schema image entry format?
  otherwise : ending.code = 1 ↔ (∀ s, ¬ Shows disk schema image entry format? s) ∧
    ¬ Textless disk schema image entry format?

/-- The command ends by itself, and as it is to. -/
def EndsAsPromised (disk : Disk Id) (schema image entry : String) (format? : Option Format) :
    Prop :=
  ∃ ending, (extract disk schema image entry format?).run = .ok ending ∧
    Promised disk schema image entry format? ending

end

/-! ### What gets past the command -/

/-- Faults of loading that are not looked for: a conversion that fails otherwise than by a misfit,
and the number of a character that is none even for a number. -/
inductive Unforeseen : SchemaFault → Prop where
  | conversion {fault : ConversionFault} : (∀ m, fault ≠ .misfit m) →
      Unforeseen (.load (.field (.conversion fault)))
  | codePoint : Unforeseen (.load (.unreadable .codePointTooLarge))

/-- The documents of the schema are left out. -/
def LeftOut (disk : Disk Id) (schema : String) : Prop :=
  ∃ bytes fault, disk.read schema = .ok bytes ∧
    Yaml.composeAll (.ofFile bytes) = .error fault ∧ fault.isLeftOut = true

/-- A fault that is not looked for keeps the schema from being loaded. -/
def SchemaEscapes [Host] (disk : Disk Id) (schema : String) : Prop :=
  ∃ fault, (loadFile disk schema).run = .error fault ∧ Unforeseen fault

/-- The entry asks the image for a number of bytes that it refuses. -/
def EntryEscapes [Host] (disk : Disk Id) (schema image entry : String) : Prop :=
  ∃ g f bytes r, (loadFile disk schema).run = .ok g ∧ g.entry? entry = some f ∧
    (readFile disk image).run = .ok bytes ∧ Refuses f [] (Source.ofFile bytes) r

/-! ### Stages -/

theorem extract_run [Host] (disk : Disk Id) (schema image entry : String)
    (format? : Option Format) :
    (extract disk schema image entry format?).run =
      match (loadFile disk schema).run with
      | .error fault => schemaEnding fault
      | .ok g =>
        match g.entry? entry with
        | none => .ok { code := 1, err := s!"Error: no entry named {entry} in {schema}\n" }
        | some f =>
          match (readFile disk image).run with
          | .error fault => .ok (failed 1 fault.message)
          | .ok bytes => showEntry g f bytes format? := by
  have hlift {α : Type} (x : α) : (ExceptT.lift x : ExceptT Interruption Id α) = pure x := rfl
  rw [extract, hlift, pure_bind]
  cases (loadFile disk schema).run with
  | error fault => rfl
  | ok g =>
    dsimp only
    cases g.entry? entry with
    | none => rfl
    | some f =>
      dsimp only
      rw [hlift, pure_bind]
      cases (readFile disk image).run <;> rfl

theorem readFile_run (disk : Disk Id) (path : String) :
    (readFile disk path).run = (disk.read path).mapError (SchemaFault.file path) := by
  have hbind : readFile disk path =
      (pure (disk.read path) : ExceptT SchemaFault Id _) >>= fun found =>
        match found with
        | .ok bytes => pure bytes
        | .error f => throw (.file path f) := rfl
  rw [hbind, pure_bind]
  cases disk.read path <;> rfl

theorem loadFile_run [Host] (disk : Disk Id) (schema : String) :
    (loadFile disk schema).run =
      match disk.read schema with
      | .error f => .error (.file schema f)
      | .ok bytes => Files.ofLoad (Game.ofStream (.ofFile bytes)) := by
  have hread : readFile disk schema = ExceptT.mk (readFile disk schema).run := rfl
  rw [loadFile, hread, readFile_run]
  cases disk.read schema with
  | error f => rfl
  | ok bytes =>
    have hpure : (ExceptT.mk ((Except.ok bytes).mapError (SchemaFault.file schema)) :
        ExceptT SchemaFault Id (List UInt8)) = pure bytes := rfl
    rw [hpure, pure_bind]
    dsimp only
    -- the stream is not to be looked into
    generalize Game.ofStream (.ofFile bytes) = loaded
    cases loaded <;> rfl

/-- What a file that can be opened is loaded as is what its stream is read as. -/
theorem stream_of_loadFile [Host] (outcome : Except LoadFault Game)
    (h : (loadFile disk schema).run = Files.ofLoad outcome) :
    ∃ bytes, disk.read schema = .ok bytes ∧ Game.ofStream (.ofFile bytes) = outcome := by
  rw [loadFile_run] at h
  split at h
  · cases outcome <;> cases h
  · next bytes hread =>
    refine ⟨bytes, hread, ?_⟩
    generalize Game.ofStream (.ofFile bytes) = loaded at h
    cases loaded <;> cases outcome <;> cases h <;> rfl

/-- A fault of loading ends the command with one, unless it is not looked for. -/
theorem schemaEnding_one_iff {fault : SchemaFault}
    (htold : ∀ f, fault = .load (.unreadable f) → f.isLeftOut = false) :
    (∃ ending, schemaEnding fault = .ok ending ∧ ending.code = 1) ↔ ¬ Unforeseen fault := by
  unfold schemaEnding
  split
  · refine iff_of_false ?_ (not_not_intro (.conversion nofun))
    rintro ⟨_, h, hcode⟩
    cases h
    cases hcode
  · refine iff_of_true ⟨_, rfl, rfl⟩ ?_
    intro h
    cases h with
    | conversion hfault => exact hfault _ rfl
  · next _ hfault =>
    refine iff_of_false nofun (not_not_intro (.conversion fun m hm => ?_))
    exact hfault m (by rw [hm])
  · exact iff_of_false nofun (not_not_intro .codePoint)
  · cases htold _ rfl
  · cases htold _ rfl
  · next hother hunreadable _ _ =>
    refine iff_of_true ⟨_, rfl, rfl⟩ ?_
    intro h
    cases h with
    | conversion _ => exact hother _ rfl
    | codePoint => exact hunreadable rfl

/-- A fault of decoding ends the command with one, unless a number of bytes is refused, and not for
being negative. -/
theorem decodeEnding_one_iff {fault : DecodeFault} (h : fault ≠ .noItemType) :
    (∃ ending, decodeEnding fault = .ok ending ∧ ending.code = 1) ↔
      ∀ r, fault = .refused r → r = .negative := by
  cases fault with
  | failure e => exact iff_of_true ⟨_, rfl, rfl⟩ nofun
  | bare c => exact iff_of_true ⟨_, rfl, rfl⟩ nofun
  | noItemType => exact absurd rfl h
  | refused r =>
    have hself : (∀ r', DecodeFault.refused r = .refused r' → r' = .negative) ↔ r = .negative :=
      ⟨fun h => h r rfl, fun hr r' heq => by cases heq; exact hr⟩
    rw [hself]
    cases r with
    | negative => exact iff_of_true ⟨_, rfl, rfl⟩ rfl
    | tooMany => exact iff_of_false nofun nofun
    | tooLong => exact iff_of_false nofun nofun
    | noRoom => exact iff_of_false nofun nofun

/-- Where nothing is to be shown and no text is missed, one is the only ending. -/
theorem endsAsPromised_iff_one [Host] (hshows : ∀ s, ¬ Shows disk schema image entry format? s)
    (htext : ¬ Textless disk schema image entry format?) :
    EndsAsPromised disk schema image entry format? ↔
      ∃ ending, (extract disk schema image entry format?).run = .ok ending ∧ ending.code = 1 := by
  refine exists_congr fun ending => and_congr_right fun _ => ?_
  constructor
  · intro h
    exact h.otherwise.mpr ⟨hshows, htext⟩
  · intro hcode
    refine ⟨fun s => iff_of_false ?_ (hshows s), iff_of_false ?_ htext,
      iff_of_true hcode ⟨hshows, htext⟩⟩
    · rintro ⟨hzero, _⟩
      omega
    · omega

/-- So it is where no value is had. -/
theorem endsAsPromised_iff_one_of_not_decodes [Host]
    (h : ∀ g v, ¬ Decodes disk schema image entry g v) :
    EndsAsPromised disk schema image entry format? ↔
      ∃ ending, (extract disk schema image entry format?).run = .ok ending ∧ ending.code = 1 :=
  endsAsPromised_iff_one (fun _ ⟨g, v, _, hdecodes, _⟩ => h g v hdecodes)
    fun ⟨g, v, hdecodes, _⟩ => h g v hdecodes

/-- An ending with the one text that is to be shown. -/
theorem promised_of_shown [Host] {s : String}
    (hshows : ∀ t, Shows disk schema image entry format? t ↔ t = s)
    (htext : ¬ Textless disk schema image entry format?) :
    Promised disk schema image entry format? { code := 0, out := s ++ "\n" } where
  shown t := by
    rw [hshows]
    constructor
    · rintro ⟨_, hout⟩
      exact (String.append_left_inj _).mp hout.symm
    · rintro rfl
      exact ⟨rfl, rfl⟩
  textless := iff_of_false nofun htext
  otherwise := iff_of_false nofun fun h => h.1 s ((hshows s).mpr rfl)

/-- An ending that says that there is no text. -/
theorem promised_of_textless [Host] (message : String)
    (hshows : ∀ s, ¬ Shows disk schema image entry format? s)
    (htext : Textless disk schema image entry format?) :
    Promised disk schema image entry format? (failed 2 message) where
  shown s := iff_of_false nofun (hshows s)
  textless := iff_of_true rfl htext
  otherwise := iff_of_false nofun fun h => h.2 htext

/-! ### A schema that is not loaded -/

theorem endsAsPromised_of_load_error [Host] {fault : SchemaFault}
    (hload : (loadFile disk schema).run = .error fault)
    (htold : ∀ f, fault = .load (.unreadable f) → f.isLeftOut = false) :
    EndsAsPromised disk schema image entry format? ↔ ¬ Unforeseen fault := by
  have hdecodes (g : Game) (v : Value) : ¬ Decodes disk schema image entry g v := by
    intro h
    cases hload.symm.trans h.load
  rw [endsAsPromised_iff_one_of_not_decodes hdecodes, extract_run, hload]
  exact schemaEnding_one_iff htold

/-! ### A schema that is loaded -/

section Loaded

variable {g : Game} {f : Field} {bytes : List UInt8}
variable [Host]

theorem not_decodes_of_no_entry (hload : (loadFile disk schema).run = .ok g)
    (hentry : g.entry? entry = none) {g' : Game} {v : Value} :
    ¬ Decodes disk schema image entry g' v := by
  rintro ⟨hload', f, _, hentry', _⟩
  cases hload.symm.trans hload'
  cases hentry.symm.trans hentry'

theorem not_decodes_of_no_image {fault : SchemaFault}
    (hread : (readFile disk image).run = .error fault) {g' : Game} {v : Value} :
    ¬ Decodes disk schema image entry g' v := by
  rintro ⟨_, _, _, _, hread', _⟩
  cases hread.symm.trans hread'

theorem decodes_iff (hload : (loadFile disk schema).run = .ok g) (hentry : g.entry? entry = some f)
    (hread : (readFile disk image).run = .ok bytes) {g' : Game} {v : Value} :
    Decodes disk schema image entry g' v ↔ g' = g ∧ Image.decodeFile bytes f [] = .ok v := by
  constructor
  · rintro ⟨hload', f', bytes', hentry', hread', hdecode⟩
    cases hload.symm.trans hload'
    cases hentry.symm.trans hentry'
    cases hread.symm.trans hread'
    exact ⟨rfl, hdecode⟩
  · rintro ⟨rfl, hdecode⟩
    exact ⟨hload, f, bytes, hentry, hread, hdecode⟩

theorem entryEscapes_iff (hload : (loadFile disk schema).run = .ok g)
    (hentry : g.entry? entry = some f) (hread : (readFile disk image).run = .ok bytes) :
    EntryEscapes disk schema image entry ↔ ∃ r, Refuses f [] (Source.ofFile bytes) r := by
  constructor
  · rintro ⟨g', f', bytes', r, hload', hentry', hread', hrefuses⟩
    cases hload.symm.trans hload'
    cases hentry.symm.trans hentry'
    cases hread.symm.trans hread'
    exact ⟨r, hrefuses⟩
  · rintro ⟨r, hrefuses⟩
    exact ⟨g, f, bytes, r, hload, hentry, hread, hrefuses⟩

/-- An entry that cannot be read ends the command with one, unless it is refused a number of
bytes. -/
theorem endsAsPromised_of_decode_error (hload : (loadFile disk schema).run = .ok g)
    (hentry : g.entry? entry = some f) (hread : (readFile disk image).run = .ok bytes)
    {fault : DecodeFault} (hdecode : Image.decodeFile bytes f [] = .error fault) :
    EndsAsPromised disk schema image entry format? ↔
      ∀ r, ¬ Refuses f [] (Source.ofFile bytes) r := by
  have hdecodes (g' : Game) (v : Value) : ¬ Decodes disk schema image entry g' v := by
    rw [decodes_iff hload hentry hread, hdecode]
    exact nofun
  obtain ⟨_, _, hstream⟩ := stream_of_loadFile (.ok _) hload
  obtain ⟨metadata, definitions, hnodes⟩ := Game.exists_nodes_of_ofStream hstream
  have hcases := Image.decode_entry_cases hnodes hentry hdecode
  have hitem : fault ≠ .noItemType := by
    rintro rfl
    rcases hcases with h | ⟨_, h⟩ | ⟨_, h, _⟩
    · exact h
    · cases h
    · cases h
  rw [endsAsPromised_iff_one_of_not_decodes hdecodes, extract_run, hload]
  simp only [hentry, hread, showEntry, hdecode]
  rw [decodeEnding_one_iff hitem]
  constructor
  · intro hnegative r hrefuses
    cases hdecode.symm.trans (Image.decode_refused_iff.mpr hrefuses)
    rcases hcases with h | ⟨_, h⟩ | ⟨r', h, hsign, _⟩
    · exact h
    · cases h
    · exact hsign (hnegative r' h)
  · rintro hrefuses r rfl
    exact absurd (Image.decode_refused_iff.mp hdecode) (hrefuses r)

/-- A value is shown, or why not is told by the ending. -/
theorem endsAsPromised_of_decode (hload : (loadFile disk schema).run = .ok g)
    (hentry : g.entry? entry = some f) (hread : (readFile disk image).run = .ok bytes) {v : Value}
    (hdecode : Image.decodeFile bytes f [] = .ok v) :
    EndsAsPromised disk schema image entry format? := by
  have hdecodes {g' : Game} {v' : Value} :
      Decodes disk schema image entry g' v' ↔ g' = g ∧ v' = v := by
    rw [decodes_iff hload hentry hread, hdecode, Except.ok.injEq, @eq_comm _ v v']
  have hshows (s : String) : Shows disk schema image entry format? s ↔
      ∃ format, format? = some format ∧ Projection.render (some g) v format = .ok s := by
    simp [Shows, hdecodes]
  have htext : Textless disk schema image entry format? ↔
      ∃ format, format? = some format ∧
        ∃ k, Projection.render (some g) v format = .error (.noText k) := by
    simp only [Projection.render_noText_iff (Image.decodeFile_formed hdecode)]
    simp [Textless, hdecodes]
  cases format? with
  | none =>
    rw [endsAsPromised_iff_one (fun s h => by simpa using (hshows s).mp h) (by simp [htext]),
      extract_run, hload]
    simp only [hentry, hread, showEntry, hdecode]
    exact ⟨_, rfl, rfl⟩
  | some format =>
    simp only [Option.some.injEq, exists_eq_left'] at hshows htext
    cases hrender : Projection.render (some g) v format with
    | ok s =>
      simp only [hrender, Except.ok.injEq, reduceCtorEq, exists_false, iff_false] at hshows htext
      refine ⟨_, ?_, promised_of_shown (fun t => (hshows t).trans eq_comm) htext⟩
      rw [extract_run, hload]
      simp only [hentry, hread, showEntry, hdecode, hrender]
    | error fault =>
      simp only [hrender, reduceCtorEq, iff_false, Except.error.injEq] at hshows htext
      by_cases hfault : ∃ k, fault = .noText k
      · obtain ⟨k, rfl⟩ := hfault
        refine ⟨_, ?_, promised_of_textless (Projection.Fault.noText k).message hshows
          (htext.mpr ⟨k, rfl⟩)⟩
        rw [extract_run, hload]
        simp only [hentry, hread, showEntry, hdecode, hrender, projectionEnding]
      · rw [endsAsPromised_iff_one hshows (mt htext.mp hfault), extract_run, hload]
        simp only [hentry, hread, showEntry, hdecode, hrender]
        refine ⟨_, rfl, ?_⟩
        unfold projectionEnding
        split
        · next k => exact absurd ⟨k, rfl⟩ hfault
        · rfl

end Loaded

/-! ### The command as a whole -/

section

variable [Host]

theorem schemaEscapes_iff {fault : SchemaFault}
    (hload : (loadFile disk schema).run = .error fault) :
    SchemaEscapes disk schema ↔ Unforeseen fault := by
  constructor
  · rintro ⟨found, hfound, hunforeseen⟩
    cases hload.symm.trans hfound
    exact hunforeseen
  · exact fun hunforeseen => ⟨fault, hload, hunforeseen⟩

/-- Documents that are not left out do not fail to be loaded for that. -/
theorem not_isLeftOut_of_load_error {fault : SchemaFault} (htold : ¬ LeftOut disk schema)
    (hload : (loadFile disk schema).run = .error fault) :
    ∀ f, fault = .load (.unreadable f) → f.isLeftOut = false := by
  rintro f rfl
  obtain ⟨bytes, hread, hstream⟩ := stream_of_loadFile (.error _) hload
  refine eq_false_of_ne_true fun hleft => htold ?_
  exact ⟨bytes, f, hread, Game.composeAll_of_unreadable hstream, hleft⟩

/-- With a game that was loaded, what is to be is, exactly if its entry is not refused anything. -/
theorem endsAsPromised_iff_of_load {g : Game} (hload : (loadFile disk schema).run = .ok g) :
    EndsAsPromised disk schema image entry format? ↔ ¬ EntryEscapes disk schema image entry := by
  cases hentry : g.entry? entry with
  | none =>
    refine iff_of_true ?_ ?_
    · rw [endsAsPromised_iff_one_of_not_decodes fun _ _ => not_decodes_of_no_entry hload hentry,
        extract_run, hload]
      simp only [hentry]
      exact ⟨_, rfl, rfl⟩
    · rintro ⟨g', f, _, _, hfound, hentry', _⟩
      cases hload.symm.trans hfound
      cases hentry.symm.trans hentry'
  | some f =>
    cases hread : (readFile disk image).run with
    | error fault =>
      refine iff_of_true ?_ ?_
      · rw [endsAsPromised_iff_one_of_not_decodes fun _ _ => not_decodes_of_no_image hread,
          extract_run, hload]
        simp only [hentry, hread]
        exact ⟨_, rfl, rfl⟩
      · rintro ⟨_, _, _, _, _, _, hfound, _⟩
        cases hread.symm.trans hfound
    | ok bytes =>
      rw [entryEscapes_iff hload hentry hread, not_exists]
      cases hdecode : Image.decodeFile bytes f [] with
      | error fault => exact endsAsPromised_of_decode_error hload hentry hread hdecode
      | ok v =>
        refine iff_of_true (endsAsPromised_of_decode hload hentry hread hdecode) ?_
        intro r hrefuses
        cases hdecode.symm.trans (Image.decode_refused_iff.mpr hrefuses)

/-- What is to be, is, exactly if nothing gets past the command. -/
theorem endsAsPromised_iff (htold : ¬ LeftOut disk schema) :
    EndsAsPromised disk schema image entry format? ↔
      ¬ SchemaEscapes disk schema ∧ ¬ EntryEscapes disk schema image entry := by
  cases hload : (loadFile disk schema).run with
  | error fault =>
    have hentry : ¬ EntryEscapes disk schema image entry := by
      rintro ⟨g, _, _, _, hfound, _⟩
      cases hload.symm.trans hfound
    rw [endsAsPromised_of_load_error hload (not_isLeftOut_of_load_error htold hload),
      schemaEscapes_iff hload]
    exact (and_iff_left hentry).symm
  | ok g =>
    have hschema : ¬ SchemaEscapes disk schema := by
      rintro ⟨fault, hfound, _⟩
      cases hload.symm.trans hfound
    rw [endsAsPromised_iff_of_load hload]
    exact (and_iff_right hschema).symm

/-- What gets past the loading of a schema is a code point that is none, or it lies in a
document. -/
theorem SchemaEscapes.cause (h : SchemaEscapes disk schema) :
    ∃ bytes, disk.read schema = .ok bytes ∧
      (Yaml.composeAll (.ofFile bytes) = .error .codePointTooLarge ∨
        ∃ ns, Yaml.composeAll (.ofFile bytes) = .ok ns ∧ ∃ n ∈ ns, ∃ fault, n.Spoils fault) := by
  obtain ⟨fault, hload, hunforeseen⟩ := h
  cases hunforeseen with
  | conversion hfault =>
    obtain ⟨bytes, hread, hstream⟩ := stream_of_loadFile (.error _) hload
    obtain ⟨ns, hns, n, hn, hspoils⟩ := Game.spoils_of_ofStream hstream hfault
    exact ⟨bytes, hread, .inr ⟨ns, hns, n, hn, _, hspoils⟩⟩
  | codePoint =>
    obtain ⟨bytes, hread, hstream⟩ := stream_of_loadFile (.error _) hload
    exact ⟨bytes, hread, .inl (Game.composeAll_of_unreadable hstream)⟩

/-- No entry that there is room for is refused anything. -/
theorem EntryEscapes.cause (h : EntryEscapes disk schema image entry) :
    ∃ g f, (loadFile disk schema).run = .ok g ∧ g.entry? entry = some f ∧ ¬ Roomy f := by
  obtain ⟨g, f, bytes, r, hload, hentry, _, hrefuses⟩ := h
  obtain ⟨_, _, hstream⟩ := stream_of_loadFile (.ok _) hload
  obtain ⟨metadata, definitions, hnodes⟩ := Game.exists_nodes_of_ofStream hstream
  refine ⟨g, f, hload, hentry, fun hroomy => ?_⟩
  exact hroomy.not_refuses (fun a ha => Image.entry_address_nonneg hnodes hentry ha) hrefuses

end

/-- If the documents of the schema are not left out, the command ends by itself with zero and the
rendering exactly if there is one, with two exactly if a text is asked for of a value that has none,
and with one in all other cases, unless a fault gets past it. Only two sorts of faults do: a schema
holds a value that cannot be converted, or a character that is none, and nothing looks for that; or
an entry asks for bytes that there is no room for. -/
theorem extract_ends_as_promised [Host] (disk : Disk Id) (schema image entry : String)
    (format? : Option Format) (htold : ¬ LeftOut disk schema) :
    (EndsAsPromised disk schema image entry format? ↔
        ¬ SchemaEscapes disk schema ∧ ¬ EntryEscapes disk schema image entry) ∧
      (SchemaEscapes disk schema → ∃ bytes, disk.read schema = .ok bytes ∧
        (Yaml.composeAll (.ofFile bytes) = .error .codePointTooLarge ∨
          ∃ ns, Yaml.composeAll (.ofFile bytes) = .ok ns ∧ ∃ n ∈ ns, ∃ fault, n.Spoils fault)) ∧
      (EntryEscapes disk schema image entry →
        ∃ g f, (loadFile disk schema).run = .ok g ∧ g.entry? entry = some f ∧ ¬ Roomy f) :=
  ⟨endsAsPromised_iff htold, SchemaEscapes.cause, EntryEscapes.cause⟩

/-! ### Two schemas -/

/-- A schema and an image of one byte. -/
def sampleFiles (schema : String) : Snapshot :=
  [(["game.yml"], Text.asciiBytes schema.toList), (["game.bin"], [7])]

theorem sampleFiles_read (schema : String) :
    (sampleFiles schema).disk.read "game.yml" = .ok (Text.asciiBytes schema.toList) ∧
      (sampleFiles schema).disk.read "game.bin" = .ok [7] :=
  ⟨rfl, rfl⟩

/-- An entry of one byte. -/
def sampleText : String := "Title: T\nCountry: C\n---\nLIVES: !int {Offset: 0, Size: 1}\n"

theorem sampleText_stream :
    Yaml.Stream.ofFile (Text.asciiBytes sampleText.toList) = .ofText sampleText :=
  Yaml.Stream.ofFile_ascii (List.all_iff_forall_prop.mp (by decide +kernel)) (by decide +kernel)
    (by decide +kernel) (by decide +kernel)

/-- Nothing in its documents spoils a value. -/
theorem sampleText_unspoiled :
    ∃ ns, Yaml.composeAll (.ofText sampleText) = .ok ns ∧ ∀ n ∈ ns, n.spoilers = [] := by
  have hcheck : ((Yaml.composeAll (.ofText sampleText)).toOption.any fun ns =>
      ns.all fun n => n.spoilers.isEmpty) = true := by
    decide +kernel
  cases hns : Yaml.composeAll (.ofText sampleText) with
  | ok ns =>
    rw [hns] at hcheck
    exact ⟨ns, rfl, fun n hn => List.isEmpty_iff.mp (List.all_eq_true.mp hcheck n hn)⟩
  | error f =>
    rw [hns] at hcheck
    cases hcheck

/-- The entry is an integer of a byte at the start of the image. -/
theorem sampleText_entry {g : Game} {f : Field} (hload : Game.ofStream (.ofText sampleText) = .ok g)
    (hentry : g.entry? "LIVES" = some f) :
    f.address = some 0 ∧ f.size = some "1" ∧ f.kind = .integer ∧ f.members = [] := by
  have hcheck : ((Game.ofStream (.ofText sampleText)).toOption.all fun g =>
      (g.entry? "LIVES").all fun f => f.address == some 0 && f.size == some "1" &&
        f.kind == .integer && f.members.isEmpty) = true := by
    decide +kernel
  rw [hload] at hcheck
  simpa [Except.toOption, hentry, and_assoc] using hcheck

theorem sampleText_roomy {g : Game} {f : Field} (hload : Game.ofStream (.ofText sampleText) = .ok g)
    (hentry : g.entry? "LIVES" = some f) : Roomy f := by
  obtain ⟨haddress, hsize, hkind, hmembers⟩ := sampleText_entry hload hentry
  have hchildren : f.children = [] := by
    rw [Field.children_of_not_array (by simp [hkind]), hmembers]
  have hplain : Schema.Describe.plainSize? "1" = some 1 := by decide +kernel
  have hcounted : Schema.IsCounted "1" := fun _ _ => by decide
  refine ⟨fun a ha => ?_, fun inner hinner bindings n hn => ?_⟩
  · cases haddress.symm.trans ha
    exact ⟨by decide, rfl⟩
  · obtain rfl : inner = f := by
      rcases Field.mem_walk_iff.mp hinner with h | ⟨child, hchild, _⟩
      · exact h
      · rw [hchildren] at hchild
        cases hchild
    rw [Schema.Attributes.resolvedSize, hsize] at hn
    dsimp only at hn
    rw [if_neg (Schema.trim_ne_empty_of_plainSize? hplain),
      Schema.sizeOf_of_plainSize? hplain hcounted] at hn
    cases hn
    exact ⟨by decide, rfl⟩

/-- The byte of the image is shown. -/
theorem sampleText_shown :
    Shows (sampleFiles sampleText).disk "game.yml" "game.bin" "LIVES" (some .text) "7" := by
  have hcheck : ((Game.ofStream (.ofText sampleText)).toOption.bind fun g =>
      (g.entry? "LIVES").bind fun f => (Image.decodeFile [7] f []).toOption.bind fun v =>
        (Projection.render (some g) v .text).toOption) = some "7" := by
    decide +kernel
  obtain ⟨g, hgame, hcheck⟩ := Option.bind_eq_some_iff.mp hcheck
  obtain ⟨f, hentry, hcheck⟩ := Option.bind_eq_some_iff.mp hcheck
  obtain ⟨v, hdecode, hrender⟩ := Option.bind_eq_some_iff.mp hcheck
  obtain ⟨hyaml, himage⟩ := sampleFiles_read sampleText
  have hload : (loadFile (sampleFiles sampleText).disk "game.yml").run = .ok g := by
    rw [loadFile_run, hyaml]
    dsimp only
    rw [sampleText_stream, toOption_eq_some hgame]
    rfl
  have hread : (readFile (sampleFiles sampleText).disk "game.bin").run = .ok [7] := by
    rw [readFile_run, himage]
    rfl
  exact ⟨g, v, .text, ⟨hload, f, [7], hentry, hread, toOption_eq_some hdecode⟩, rfl,
    toOption_eq_some hrender⟩

/-- Nothing gets past the command. -/
theorem sampleText_ends_as_promised :
    ¬ LeftOut (sampleFiles sampleText).disk "game.yml" ∧
      EndsAsPromised (sampleFiles sampleText).disk "game.yml" "game.bin" "LIVES" (some .text) ∧
      Shows (sampleFiles sampleText).disk "game.yml" "game.bin" "LIVES" (some .text) "7" := by
  obtain ⟨hyaml, -⟩ := sampleFiles_read sampleText
  obtain ⟨ns, hns, hunspoiled⟩ := sampleText_unspoiled
  have htold : ¬ LeftOut (sampleFiles sampleText).disk "game.yml" := by
    rintro ⟨bytes, fault, hread, hcompose, _⟩
    cases hyaml.symm.trans hread
    rw [sampleText_stream, hns] at hcompose
    cases hcompose
  obtain ⟨hends, hschema, hentry⟩ := extract_ends_as_promised (sampleFiles sampleText).disk
    "game.yml" "game.bin" "LIVES" (some .text) htold
  refine ⟨htold, hends.mpr ⟨fun h => ?_, fun h => ?_⟩, sampleText_shown⟩
  · obtain ⟨bytes, hread, hcause⟩ := hschema h
    cases hyaml.symm.trans hread
    rw [sampleText_stream, hns] at hcause
    rcases hcause with hcause | ⟨_, heq, n, hn, fault, hspoils⟩
    · cases hcause
    · cases heq
      have hmem := (n.mem_spoilers).mpr hspoils
      rw [hunspoiled n hn] at hmem
      cases hmem
  · obtain ⟨g, f, hload, hfound, hroomy⟩ := hentry h
    obtain ⟨bytes, hread, hstream⟩ := stream_of_loadFile (.ok _) hload
    cases hyaml.symm.trans hread
    rw [sampleText_stream] at hstream
    exact hroomy (sampleText_roomy hstream hfound)

/-- A list as a key, in a mapping of which the values are converted. -/
def sampleKeyed : String :=
  "Title: T\nCountry: C\nProcessor: {Architecture: {[1]: 2}}\n---\n" ++
    "LIVES: !int {Offset: 0, Size: 1}\n"

/-- The sort of collection that cannot be a key, if that is the fault. -/
def unhashable? : LoadFault → Option String
  | .field (.conversion (.unhashable kind)) => some kind
  | _ => none

theorem sampleKeyed_not_loaded :
    Game.ofStream (.ofText sampleKeyed) = .error (.field (.conversion (.unhashable "list"))) := by
  have hcheck :
      (failures (Game.ofStream (.ofText sampleKeyed))).map unhashable? = [some "list"] := by
    decide +kernel
  cases hload : Game.ofStream (.ofText sampleKeyed) with
  | ok g =>
    rw [hload] at hcheck
    cases hcheck
  | error fault =>
    rw [hload] at hcheck
    have hkind : unhashable? fault = some "list" := (List.cons.inj hcheck).1
    unfold unhashable? at hkind
    split at hkind
    · cases hkind
      rfl
    · cases hkind

/-- The schema is not loaded, and yet the ending is that of a text which is not there, though none
was asked for. -/
theorem sampleKeyed_ends_as_textless :
    let disk := (sampleFiles sampleKeyed).disk
    (loadFile disk "game.yml").run =
        .error (.load (.field (.conversion (.unhashable "list")))) ∧
      (extract disk "game.yml" "game.bin" "LIVES" (some .yaml)).run =
        .ok { code := 2, err := "Error: unhashable type: 'list'\n" } ∧
      ¬ Textless disk "game.yml" "game.bin" "LIVES" (some .yaml) ∧
      ¬ EndsAsPromised disk "game.yml" "game.bin" "LIVES" (some .yaml) := by
  intro disk
  have hstream : Yaml.Stream.ofFile (Text.asciiBytes sampleKeyed.toList) = .ofText sampleKeyed :=
    Yaml.Stream.ofFile_ascii (List.all_iff_forall_prop.mp (by decide +kernel)) (by decide +kernel)
      (by decide +kernel) (by decide +kernel)
  have hload : (loadFile disk "game.yml").run =
      .error (.load (.field (.conversion (.unhashable "list")))) := by
    rw [loadFile_run, (sampleFiles_read sampleKeyed).1]
    dsimp only
    rw [hstream, sampleKeyed_not_loaded]
    rfl
  have hunforeseen : Unforeseen (.load (.field (.conversion (.unhashable "list")))) :=
    .conversion nofun
  refine ⟨hload, ?_, ?_, ?_⟩
  · rw [extract_run, hload]
    rfl
  · rintro ⟨g, v, hdecodes, _⟩
    cases hload.symm.trans hdecodes.load
  · rw [endsAsPromised_of_load_error hload fun _ hf => nomatch hf]
    exact not_not_intro hunforeseen

end GameAtlas.Command.Extract
