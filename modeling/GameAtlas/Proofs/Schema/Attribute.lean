import Mathlib.Tactic
import GameAtlas.Proofs.Schema.ReadBack
import GameAtlas.Schema.Entry

/-!
Attributes by key: what a description says under a key, and the attributes that the key stands for.
A key changes the attributes that it stands for and leaves all others.
-/

namespace GameAtlas.Schema

open Yaml (Node)

/-- The keys of a description in the order of writing, without the name and the fields within. -/
def Key.plain : List Key :=
  [.prettyName, .description, .notes, .offset, .size, .signed, .base, .endianness, .values,
   .bitValues, .charset, .format, .terminator, .references, .labels, .locals, .arguments,
   .initialState, .finalState, .returnValues, .labelStates]

namespace Attributes

/-! ### What is written under a key -/

def textNode? (s : String) : Option Node := if s != "" then some (.ofText s) else none

def mapNode? (m : Keyed String String) : Option Node :=
  if !m.isEmpty then some (Describe.textMap m) else none

/-- The value that a description has under a key, none if it goes without saying. -/
def written? (a : Attributes) : Key → Option Node
  | .name => textNode? a.name
  | .prettyName => textNode? a.prettyName
  | .description => textNode? a.description
  | .notes => textNode? a.notes
  | .offset => a.address.map .ofHex
  | .size => a.size.map Describe.sizeNode
  | .signed =>
    if a.signed && (a.kind == .integer || a.kind == .pointer) then some (.ofBool true) else none
  | .base =>
    match a.kind with
    | .integer => if a.numberBase != 10 then some (.ofInt a.numberBase) else none
    | .pointer => if a.pointerBase != 0 then some (.ofHex a.pointerBase) else none
    | _ => none
  | .endianness => if a.endianness == .big then some (.ofText "Big") else none
  | .values =>
    if !a.values.isEmpty then
      some (.ofPairs (a.values.map fun (n, name) => (.ofInt n, .ofText name)))
    else none
  | .bitValues => if !a.bitValues.isEmpty then some (.ofItems (a.bitValues.map .ofText)) else none
  | .charset => textNode? a.charset
  | .format => textNode? a.format
  | .terminator =>
    if !a.terminator.isEmpty then some (.ofItems (a.terminator.map Script.byteNode)) else none
  | .references => textNode? a.references
  | .labels => if !a.labels.isEmpty then some (Describe.places a.labels) else none
  | .locals => if !a.locals.isEmpty then some (Describe.places a.locals) else none
  | .arguments => mapNode? a.arguments
  | .initialState => mapNode? a.initialState
  | .finalState => mapNode? a.finalState
  | .returnValues => mapNode? a.returnValues
  | .labelStates =>
    if !a.labelStates.isEmpty then some (Describe.labelStates a.labelStates) else none
  | .type | .entries | .itemType => none

/-- The pairs of a description for the keys of a list. -/
def pairsOf (a : Attributes) (keys : List Key) : List Pair :=
  keys.filterMap fun k => (a.written? k).map (Describe.pair k)

theorem pairsOf_cons (a : Attributes) (k : Key) (keys : List Key) :
    a.pairsOf (k :: keys) = ((a.written? k).map (Describe.pair k)).toList ++ a.pairsOf keys := by
  rw [pairsOf, List.filterMap_cons]
  cases a.written? k <;> rfl

theorem pairIf_eq (present : Bool) (k : Key) (n : Node) : Describe.pairIf present k n =
    ((if present then some n else none).map (Describe.pair k)).toList := by
  cases present <;> rfl

theorem optionPair_eq {α : Type} (k : Key) (o : Option α) (node : α → Node) :
    Describe.optionPair k o node = ((o.map node).map (Describe.pair k)).toList := by
  cases o <;> rfl

theorem basePairs_eq (a : Attributes) :
    Describe.basePairs a = ((a.written? .base).map (Describe.pair .base)).toList := by
  rw [Describe.basePairs, written?]
  cases a.kind with
  | integer => exact pairIf_eq _ _ _
  | pointer => exact pairIf_eq _ _ _
  | _ => rfl

/-- A description is written key by key. -/
theorem attributePairs_eq (a : Attributes) : Describe.attributePairs a = a.pairsOf Key.plain := by
  unfold Describe.attributePairs
  rw [basePairs_eq]
  simp only [Describe.textPair, Describe.mapPair, Describe.signedPairs, pairIf_eq, optionPair_eq,
    List.append_assoc]
  rw [Key.plain]
  simp only [pairsOf_cons]
  rw [show a.pairsOf [] = [] from rfl, List.append_nil]
  simp only [written?, textNode?, mapNode?]

/-! ### The attributes of a key -/

/-- Attributes with those of a key from others. -/
def adopt (key : Key) (b a : Attributes) : Attributes :=
  match key with
  | .name => { a with name := b.name }
  | .prettyName => { a with prettyName := b.prettyName }
  | .description => { a with description := b.description }
  | .notes => { a with notes := b.notes }
  | .offset => { a with address := b.address }
  | .size => { a with size := b.size }
  | .signed => { a with signed := b.signed }
  | .base => { a with numberBase := b.numberBase, pointerBase := b.pointerBase }
  | .endianness => { a with endianness := b.endianness }
  | .values => { a with values := b.values }
  | .bitValues => { a with bitValues := b.bitValues }
  | .charset => { a with charset := b.charset }
  | .format => { a with format := b.format }
  | .terminator => { a with terminator := b.terminator }
  | .references => { a with references := b.references }
  | .labels => { a with labels := b.labels }
  | .locals => { a with locals := b.locals }
  | .arguments => { a with arguments := b.arguments }
  | .initialState => { a with initialState := b.initialState }
  | .finalState => { a with finalState := b.finalState }
  | .returnValues => { a with returnValues := b.returnValues }
  | .labelStates => { a with labelStates := b.labelStates }
  | .type | .entries | .itemType => a

/-- What holds of the attributes of a key whenever they were read. -/
def Fits (a : Attributes) : Key → Prop
  | .offset => ∀ n ∈ a.address, 0 ≤ n
  | .size => ∀ s ∈ a.size, Text.trim s ≠ ""
  | .signed => a.signed = true → a.kind = .integer ∨ a.kind = .pointer
  | .base =>
    a.numberBase ∈ Reading.numberBases ∧ (a.numberBase ≠ 10 → a.kind = .integer) ∧
      (a.pointerBase ≠ 0 → a.kind = .pointer)
  | .values => a.values.Distinct
  | .labels => a.labels.Distinct
  | .locals => a.locals.Distinct
  | .arguments => a.arguments.Distinct
  | .initialState => a.initialState.Distinct
  | .finalState => a.finalState.Distinct
  | .returnValues => a.returnValues.Distinct
  | .labelStates => Reading.LabelStates a.labelStates
  | _ => True

variable {a b c : Attributes} {k l : Key}

theorem adopt_kind : (a.adopt k b).kind = b.kind := by
  cases k <;> rfl

theorem written?_adopt (h : k ≠ l) : (a.adopt k b).written? l = b.written? l := by
  cases k <;> cases l <;> first | rfl | exact absurd rfl h

theorem fits_adopt (h : k ≠ l) : (adopt k a b).Fits l ↔ b.Fits l := by
  cases k <;> cases l <;> first | rfl | exact absurd rfl h

theorem fits_adopt_self (h : b.kind = a.kind) : (adopt k a b).Fits k ↔ a.Fits k := by
  cases k <;> simp only [adopt, Fits, h]

/-- Keys do not mind in which order they are read. -/
theorem adopt_comm (h : k ≠ l) : adopt k a (adopt l b c) = adopt l b (adopt k a c) := by
  cases k <;> cases l <;> first | rfl | exact absurd rfl h

/-- A key of which nothing was read yet. -/
def Blank (a : Attributes) (k : Key) : Prop := adopt k { kind := a.kind } a = a

theorem blank_adopt (h : k ≠ l) (hb : b.Blank l) : (adopt k a b).Blank l := by
  rw [Blank, adopt_kind, adopt_comm h.symm, hb]

theorem blank_new (kind : Kind) (issues : List Issue) (k : Key) :
    Blank { kind := kind, issues := issues } k := by
  cases k <;> rfl

theorem textNode?_eq_none {s : String} (h : textNode? s = none) : s = "" := by
  simpa [textNode?] using h

theorem mapNode?_eq_none {m : Keyed String String} (h : mapNode? m = none) : m = [] := by
  simpa [mapNode?] using h

/-- What goes without saying is as it is when nothing was read. -/
theorem adopt_of_not_written (hfits : a.Fits k) (hb : b.Blank k) (h : a.written? k = none) :
    adopt k a b = b := by
  refine Eq.trans ?_ hb
  cases k with
  | name | prettyName | description | notes | charset | format | references =>
    simp only [adopt, textNode?_eq_none h]
  | offset | size =>
    simp only [adopt, Option.map_eq_none_iff.mp h]
  | arguments | initialState | finalState | returnValues =>
    simp only [adopt, mapNode?_eq_none h]
  | values | bitValues | terminator | labels | locals | labelStates =>
    simp only [written?, ite_eq_right_iff, reduceCtorEq, imp_false, Bool.not_eq_true',
      Bool.not_eq_false, List.isEmpty_iff] at h
    simp only [adopt, h]
  | signed =>
    have hsigned : a.signed = false := by
      by_contra hs
      have hs : a.signed = true := by simpa using hs
      rcases hfits hs with hkind | hkind <;> simp [written?, hs, hkind] at h
    simp only [adopt, hsigned]
  | base =>
    obtain ⟨-, hnumber, hpointer⟩ := hfits
    have hten : a.numberBase = 10 := by
      by_contra hne
      simp [written?, hnumber hne, hne] at h
    have hzero : a.pointerBase = 0 := by
      by_contra hne
      simp [written?, hpointer hne, hne] at h
    simp only [adopt, hten, hzero]
  | endianness =>
    have hlittle : a.endianness = .little := by
      cases hbig : a.endianness with
      | little => rfl
      | big => simp [written?, hbig] at h
    simp only [adopt, hlittle]
  | type | entries | itemType => rfl

/-- The host writes the numbers of a description, for which it reads the sizes. -/
structure Writable [Host] (a : Attributes) : Prop where
  size : ∀ size ∈ a.size, IsCounted size
  base : a.kind = .integer → Host.writingFault? a.numberBase = none
  values : ∀ p ∈ a.values, Host.writingFault? p.1 = none

theorem writable_iff [Host] (a : Attributes) :
    a.Writable ↔ Describe.numberFault? a = none := by
  have hsize : (∀ size ∈ a.size, IsCounted size) ↔
      (a.size.bind fun size => (Describe.plainSize? size).bind fun _ =>
        Host.readingFault? (Text.withoutLastLineFeed size.toList).length) = none := by
    cases a.size with
    | none => simp
    | some size =>
      rw [Option.bind_some]
      cases hplain : Describe.plainSize? size <;> simp [IsCounted, hplain]
  have hbase : (a.kind = .integer → Host.writingFault? a.numberBase = none) ↔
      (if a.kind = .integer then Host.writingFault? a.numberBase else none) = none := by
    by_cases hkind : a.kind = .integer <;> simp [hkind]
  have hvalues : (∀ p ∈ a.values, Host.writingFault? p.1 = none) ↔
      (a.values.findSome? fun (n, _) => Host.writingFault? n) = none :=
    List.findSome?_eq_none_iff.symm
  rw [Describe.numberFault?, Option.orElse_eq_none, Option.orElse_eq_none, ← hsize, ← hbase,
    ← hvalues]
  exact ⟨fun ⟨size, base, values⟩ => ⟨size, base, values⟩,
    fun ⟨size, base, values⟩ => ⟨size, base, values⟩⟩

/-- Attributes as they are read back. -/
def restated (a : Attributes) : Attributes := { a with size := a.size.map writtenSize }

end Attributes

namespace Field

open Attributes (textNode? mapNode?)

variable {f : Field} {a : Attributes} {k : Key} {n : Node}

theorem of_present {present : Prop} [Decidable present] {written : Node}
    (h : (if present then some written else none) = some n) : present ∧ n = written := by
  rw [Option.ite_none_right_eq_some] at h
  exact ⟨h.1, (Option.some.inj h.2).symm⟩

theorem endiannessOf_big : endiannessOf (.ofText "Big") = .ok .big := by
  have hword : Text.toLower (Text.trim "Big") = "big" := by decide
  refine bind_eq_ok_iff.mpr ⟨"Big", Reading.text_ofText "Big", ?_⟩
  rw [hword]
  rfl

theorem setValue_labelStates [Host] (f : Field) (m : Keyed String (Keyed String String)) :
    f.setValue .labelStates (Describe.labelStates m) =
      ({ f with labelStates := (Reading.labelStates (m.map Reading.stateNode) f.labelStates).1 },
        (Reading.labelStates (m.map Reading.stateNode) f.labelStates).2) := rfl

/-- One key is the base of numbers in integers and the base of addresses in pointers. -/
theorem setValue_base_written [Host] (hkind : f.kind = a.kind) (hwritable : a.Writable)
    (hfits : a.Fits .base) (hblank : f.Blank .base) (h : a.written? .base = some n) :
    f.setValue .base n =
      ({ f with toAttributes := Attributes.adopt .base a.restated f.toAttributes }, none) := by
  have hbases := congrArg Attributes.numberBase hblank
  have hpointers := congrArg Attributes.pointerBase hblank
  simp only [Attributes.adopt] at hbases hpointers
  simp only [Attributes.written?] at h
  split at h
  · next hinteger =>
    obtain ⟨-, rfl⟩ := of_present h
    have hzero : a.pointerBase = 0 := by
      by_contra hne
      rw [hfits.2.2 hne] at hinteger
      cases hinteger
    rw [setValue, if_neg (by rw [hkind, hinteger]; decide), Reading.numberBase_ofInt hfits.1 (hwritable.base hinteger)]
    simp only [take, Attributes.adopt, Attributes.restated, hzero, hpointers]
  · next hpointer =>
    obtain ⟨-, rfl⟩ := of_present h
    have hten : a.numberBase = 10 := by
      by_contra hne
      rw [hfits.2.1 hne] at hpointer
      cases hpointer
    rw [setValue, if_pos (by rw [hkind, hpointer]), Reading.integer_ofHex]
    simp only [take, Attributes.adopt, Attributes.restated, hten, hbases]
  · cases h

/-- A value that was written is read back. -/
theorem setValue_written [Host] (hkind : f.kind = a.kind) (hwritable : a.Writable)
    (hfits : a.Fits k) (hblank : f.Blank k) (h : a.written? k = some n) :
    f.setValue k n =
      ({ f with toAttributes := Attributes.adopt k a.restated f.toAttributes }, none) := by
  cases k with
  | name | prettyName | description | notes | charset | format | references =>
    rw [(of_present h).2]
    rfl
  | arguments | initialState | finalState | returnValues =>
    rw [(of_present h).2, setValue, Reading.textMap_describe hfits]
    rfl
  | offset =>
    obtain ⟨address, haddress, rfl⟩ := Option.map_eq_some_iff.mp h
    rw [setValue, Reading.offset_ofHex (hfits address haddress)]
    simp only [take, Attributes.adopt, Attributes.restated, haddress]
  | size =>
    obtain ⟨size, hsize, rfl⟩ := Option.map_eq_some_iff.mp h
    rw [setValue, Reading.size_sizeNode (hfits size hsize) (hwritable.size size hsize)]
    simp only [take, Attributes.adopt, Attributes.restated, hsize, Option.map_some]
  | signed =>
    obtain ⟨hsigned, rfl⟩ := of_present h
    rw [Bool.and_eq_true] at hsigned
    rw [setValue, Reading.bool_ofBool]
    simp only [take, Attributes.adopt, Attributes.restated, hsigned.1]
  | base => exact setValue_base_written hkind hwritable hfits hblank h
  | endianness =>
    obtain ⟨hbig, rfl⟩ := of_present h
    rw [setValue, endiannessOf_big]
    simp only [take, Attributes.adopt, Attributes.restated, eq_of_beq hbig]
  | values =>
    rw [(of_present h).2, setValue, Reading.values_ofPairs hfits hwritable.values]
    rfl
  | bitValues =>
    rw [(of_present h).2, setValue, Reading.texts_ofItems]
    rfl
  | terminator =>
    rw [(of_present h).2, setValue, Reading.bytes_ofItems]
    rfl
  | labels | locals =>
    rw [(of_present h).2, setValue, Reading.places_describe hfits]
    rfl
  | labelStates =>
    have hempty := congrArg Attributes.labelStates hblank
    simp only [Attributes.adopt] at hempty
    have hread := Reading.labelStates_describe hfits
    rw [(of_present h).2, setValue_labelStates, ← hempty, hread]
    rfl
  | type | entries | itemType => cases h

/-! ### What a key changes -/

theorem take_cases {α : Type} {f : Field} {reading : Reading α} {set : α → Field}
    {P : Field → Prop} (hkeep : P f) (hset : ∀ v, reading = .ok v → P (set v)) :
    P (f.take reading set).1 := by
  cases reading with
  | ok v => exact hset v rfl
  | error obstacle => exact hkeep

/-- Fields that differ in the attributes of a key at most. -/
structure SameBut (k : Key) (f g : Field) : Prop where
  attributes : g.toAttributes = Attributes.adopt k g.toAttributes f.toAttributes
  members : g.members = f.members
  itemType : g.itemType = f.itemType

theorem SameBut.kind {g : Field} (h : SameBut k f g) : g.kind = f.kind := by
  rw [h.attributes]
  exact Attributes.adopt_kind

/-- A key changes its own attributes, whatever stands under it. -/
theorem setValue_sameBut [Host] (f : Field) (k : Key) (n : Node) :
    SameBut k f (f.setValue k n).1 := by
  cases k with
  | labelStates => cases n <;> exact ⟨rfl, rfl, rfl⟩
  | type | entries | itemType => exact ⟨rfl, rfl, rfl⟩
  | base =>
    rw [setValue]
    split
    · exact take_cases (P := SameBut .base f) ⟨rfl, rfl, rfl⟩ fun _ _ => ⟨rfl, rfl, rfl⟩
    · exact take_cases (P := SameBut .base f) ⟨rfl, rfl, rfl⟩ fun _ _ => ⟨rfl, rfl, rfl⟩
  | _ => exact take_cases (P := SameBut _ f) ⟨rfl, rfl, rfl⟩ fun _ _ => ⟨rfl, rfl, rfl⟩

/-- Only numbers have a sign and a base. -/
theorem kind_of_admits_number {kind : Kind} (hk : k = .signed ∨ k = .base)
    (h : kind.admits k = true) : kind = .integer ∨ kind = .pointer := by
  rcases hk with rfl | rfl
  · revert h
    cases kind <;> decide
  · revert h
    cases kind <;> decide

/-- What was read fits its key. -/
theorem fits_setValue [Host] (huse : f.kind.admits k = true) (hfits : f.Fits k) :
    (f.setValue k n).1.Fits k := by
  cases k with
  | offset =>
    refine take_cases (P := fun g => g.Fits .offset) hfits fun v hread => ?_
    intro m hm
    obtain rfl : v = m := Option.some.inj hm
    exact Reading.offset_nonneg hread
  | size =>
    refine take_cases (P := fun g => g.Fits .size) hfits fun v hread => ?_
    intro m hm
    obtain rfl : v = m := Option.some.inj hm
    exact Reading.size_not_blank hread
  | values =>
    exact take_cases (P := fun g => g.Fits .values) hfits fun v hread =>
      Reading.values_distinct hread
  | labels =>
    exact take_cases (P := fun g => g.Fits .labels) hfits fun v hread =>
      Reading.places_distinct hread
  | locals =>
    exact take_cases (P := fun g => g.Fits .locals) hfits fun v hread =>
      Reading.places_distinct hread
  | arguments =>
    exact take_cases (P := fun g => g.Fits .arguments) hfits fun v hread =>
      Reading.textMap_distinct hread
  | initialState =>
    exact take_cases (P := fun g => g.Fits .initialState) hfits fun v hread =>
      Reading.textMap_distinct hread
  | finalState =>
    exact take_cases (P := fun g => g.Fits .finalState) hfits fun v hread =>
      Reading.textMap_distinct hread
  | returnValues =>
    exact take_cases (P := fun g => g.Fits .returnValues) hfits fun v hread =>
      Reading.textMap_distinct hread
  | labelStates =>
    cases n with
    | sequence tag items flow share => exact Reading.labelStates_kept hfits
    | scalar => exact hfits
    | mapping => exact hfits
  | signed =>
    exact take_cases (P := fun g => g.Fits .signed) hfits fun _ _ _ =>
      kind_of_admits_number (.inl rfl) huse
  | base =>
    obtain ⟨hnumber, hinteger, hpointer⟩ := hfits
    rw [setValue]
    split
    · next hkind =>
      exact take_cases (P := fun g => g.Fits .base) ⟨hnumber, hinteger, hpointer⟩ fun _ _ =>
        ⟨hnumber, hinteger, fun _ => hkind⟩
    · next hkind =>
      have honly : f.kind = .integer :=
        (kind_of_admits_number (.inr rfl) huse).resolve_right hkind
      exact take_cases (P := fun g => g.Fits .base) ⟨hnumber, hinteger, hpointer⟩ fun _ hread =>
        ⟨Reading.numberBase_mem hread, fun _ => honly, hpointer⟩
  | _ => trivial

end Field

end GameAtlas.Schema
