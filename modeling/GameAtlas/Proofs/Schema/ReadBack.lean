import Mathlib.Tactic
import GameAtlas.Proofs.Data.Keyed
import GameAtlas.Proofs.Data.Outcome
import GameAtlas.Proofs.Schema.PlainSize
import GameAtlas.Proofs.Yaml.Written
import GameAtlas.Schema.Reading

/-!
Values of attributes that are written as nodes and read back, and what is known of every value that
was read.
-/

namespace GameAtlas.Schema

open Yaml (Node)

namespace Reading

/-! ### Scalars -/

theorem text_ofText (s : String) : text (.ofText s) = .ok s := rfl

section

variable [Host]

theorem integer_ofHex (n : Int) : integer (.ofHex n) = .ok n := by
  rw [integer, Node.integer_ofHex]
  rfl

theorem integer_ofInt {n : Int} (h : Host.writingFault? n = none) : integer (.ofInt n) = .ok n := by
  rw [integer, Node.integer_ofInt n (Text.readingFault?_toDigits_iff.mpr h)]
  rfl

theorem bool_ofBool (b : Bool) : bool (.ofBool b) = .ok b := by
  rw [bool, Node.bool_ofBool]
  rfl

theorem offset_ofHex {n : Int} (h : 0 ≤ n) : offset (.ofHex n) = .ok n := by
  rw [offset, integer_ofHex]
  exact if_neg (by omega)

theorem offset_nonneg {node : Node} {n : Int} (h : offset node = .ok n) : 0 ≤ n := by
  obtain ⟨m, -, hm⟩ := bind_eq_ok_iff.mp h
  split at hm
  · cases hm
  · cases hm
    omega

theorem numberBase_ofInt {n : Int} (h : n ∈ numberBases)
    (hwritten : Host.writingFault? n = none) : numberBase (.ofInt n) = .ok n := by
  rw [numberBase, integer_ofInt hwritten]
  exact if_pos (by simpa using h)

theorem numberBase_mem {node : Node} {n : Int} (h : numberBase node = .ok n) : n ∈ numberBases := by
  obtain ⟨m, -, hm⟩ := bind_eq_ok_iff.mp h
  split at hm
  · next hmem =>
    cases hm
    simpa using hmem
  · cases hm

/-- A value other than null whose text is not blank is taken as a size. -/
theorem size_of_scalarValue {tag text s : String} {style : Yaml.ScalarStyle} {share : Option Nat}
    {d : Yaml.Datum} (hvalue : Yaml.scalarValue tag text = .ok d) (hnull : d ≠ .null)
    (hwritten : d.written = .ok s) (htrim : Text.trim s ≠ "") :
    size (.scalar tag text style share) = .ok s := by
  have hread : ofConversion (Yaml.scalarValue tag text) = .ok d := by
    rw [hvalue]
    rfl
  rw [size]
  refine bind_eq_ok_iff.mpr ⟨d, hread, ?_⟩
  split
  · exact absurd rfl hnull
  · rw [hwritten]
    exact if_neg htrim

theorem size_ofText {s : String} (h : Text.trim s ≠ "") : size (.ofText s) = .ok s :=
  size_of_scalarValue (Yaml.scalarValue_str s) nofun rfl h

theorem size_ofInt {n : Nat} (h : Host.readingFault? (Nat.toDigits 10 n).length = none) :
    size (.ofInt n) = .ok (toString (n : Int)) := by
  have hvalue : Yaml.scalarValue Yaml.Tag.int (toString (n : Int)) = .ok (.integer n) := by
    rw [Yaml.scalarValue_int, Yaml.integerOf_decimal (n : Int) h]
    rfl
  have hwritten : (Yaml.Datum.integer n).written = .ok (toString (n : Int)) := by
    have hfault : (Yaml.Datum.integer n).digitFault? = none :=
      Text.readingFault?_toDigits_iff (n := n).mp h
    rw [Yaml.Datum.written, hfault]
    rfl
  exact size_of_scalarValue hvalue nofun hwritten
    (trim_ne_empty_of_plainSize? (plainSize?_toString n))

/-- A size is read back as it was written. -/
theorem size_sizeNode {s : String} (h : Text.trim s ≠ "") (hcounted : IsCounted s) :
    size (Describe.sizeNode s) = .ok (writtenSize s) := by
  rw [Describe.sizeNode, writtenSize]
  cases hplain : Describe.plainSize? s with
  | some n => exact size_ofInt (hcounted.readingFault? hplain)
  | none => exact size_ofText h

theorem size_not_blank {node : Node} {s : String} (h : size node = .ok s) : Text.trim s ≠ "" := by
  cases node with
  | scalar tag text style share =>
    rw [size] at h
    obtain ⟨d, -, hd⟩ := bind_eq_ok_iff.mp h
    split at hd
    · cases hd
    · obtain ⟨s, -, hd⟩ := bind_eq_ok_iff.mp hd
      split at hd
      · cases hd
      · next hblank =>
        cases hd
        exact hblank
  | sequence => cases h
  | mapping => cases h

end

/-! ### Lists -/

theorem texts_ofItems (names : List String) : texts (.ofItems (names.map .ofText)) = .ok names :=
  mapM_map fun s _ => text_ofText s

theorem bytes_ofItems [Host] (bs : List UInt8) :
    bytes (.ofItems (bs.map Script.byteNode)) = .ok bs := by
  have hread : (bs.map Script.byteNode).mapM integer = .ok (bs.map fun b => (b.toNat : Int)) := by
    rw [mapM_eq_ok_iff]
    induction bs with
    | nil => exact .nil
    | cons b rest ih => exact .cons (integer_ofHex b.toNat) ih
  rw [Node.ofItems, bytes, hread]
  have hrange : (bs.map fun b => (b.toNat : Int)).all (fun v => 0 ≤ v && v ≤ 0xFF) = true := by
    rw [List.all_eq_true]
    intro v hv
    obtain ⟨b, -, rfl⟩ := List.mem_map.mp hv
    have := b.toNat_lt
    simp only [Bool.and_eq_true, decide_eq_true_eq]
    omega
  have hback : (bs.map fun b => (b.toNat : Int)).map (fun v => UInt8.ofNat v.toNat) = bs := by
    rw [List.map_map]
    exact (List.map_congr_left fun b _ => UInt8.ofNat_toNat).trans (List.map_id _)
  refine (if_pos hrange).trans ?_
  rw [hback]
  rfl

/-! ### Maps -/

section

variable [Host]

theorem place_ofPairs (p : Int × String) :
    place (.ofPairs [(.ofText "Offset", .ofHex p.1), (.ofText "Name", .ofText p.2)]) = .ok p := by
  have hoffset :
      Node.get? "Offset" [(.ofText "Offset", .ofHex p.1), (.ofText "Name", .ofText p.2)] =
        some (.ofHex p.1) := rfl
  have hname : Node.get? "Name" [(.ofText "Offset", .ofHex p.1), (.ofText "Name", .ofText p.2)] =
      some (.ofText p.2) := rfl
  rw [Node.ofPairs, place, hoffset, hname]
  simp only [text_ofText, integer_ofHex]
  rfl

theorem places_describe {m : Keyed Int String} (h : m.Distinct) :
    places (Describe.places m) = .ok m := by
  rw [Describe.places, Node.ofItems, places]
  exact bind_eq_ok_iff.mpr ⟨m, mapM_map fun p _ => place_ofPairs p,
    congrArg Except.ok (Keyed.ofPairs_of_distinct h)⟩

theorem places_distinct {node : Node} {m : Keyed Int String} (h : places node = .ok m) :
    m.Distinct := by
  cases node with
  | sequence tag items flow share =>
    obtain ⟨pairs, -, hm⟩ := bind_eq_ok_iff.mp h
    cases hm
    exact Keyed.distinct_ofPairs pairs
  | scalar => cases h
  | mapping => cases h

theorem values_ofPairs {m : Keyed Int String} (h : m.Distinct)
    (hwritten : ∀ p ∈ m, Host.writingFault? p.1 = none) :
    values (.ofPairs (m.map fun (n, name) => (.ofInt n, .ofText name))) = .ok m := by
  have hread : (m.map fun (n, name) => (Node.ofInt n, Node.ofText name)).mapM valuePair = .ok m :=
    mapM_map fun p hp => by
      simp only [valuePair, integer_ofInt (hwritten p hp), text_ofText]
      rfl
  rw [Node.ofPairs, values, hread]
  exact congrArg Except.ok (Keyed.ofPairs_of_distinct h)

/-- Names that are counted from zero on are named once each. -/
theorem values_distinct {node : Node} {m : Keyed Int String} (h : values node = .ok m) :
    m.Distinct := by
  cases node with
  | mapping tag pairs flow share =>
    obtain ⟨pairs, -, hm⟩ := bind_eq_ok_iff.mp h
    cases hm
    exact Keyed.distinct_ofPairs pairs
  | sequence tag items flow share =>
    obtain ⟨names, -, hm⟩ := bind_eq_ok_iff.mp h
    cases hm
    rw [Keyed.Distinct, List.map_map]
    show (names.zipIdx.map ((Nat.cast : Nat → Int) ∘ Prod.snd)).Nodup
    rw [← List.map_map, List.zipIdx_map_snd]
    exact List.Nodup.map Nat.cast_injective List.nodup_range'
  | scalar => cases h

/-- Pairs of texts are set behind those that are there. -/
theorem textPairs_ofText (m before : Keyed String String) :
    textPairs (m.map fun (k, v) => (.ofText k, .ofText v)) before =
      .ok (m.foldl (fun m p => Keyed.put p.1 p.2 m) before) := by
  induction m generalizing before with
  | nil => rfl
  | cons p rest ih =>
    rw [List.map_cons, textPairs, Node.valueText_ofText]
    exact ih _

theorem textPairs_distinct {pairs : List (Node × Node)} {before m : Keyed String String}
    (hbefore : before.Distinct) (h : textPairs pairs before = .ok m) : m.Distinct := by
  induction pairs generalizing before with
  | nil =>
    cases h
    exact hbefore
  | cons p rest ih =>
    obtain ⟨d, -, hrest⟩ := bind_eq_ok_iff.mp h
    exact ih (hbefore.put _ _) hrest

theorem textMap_describe {m : Keyed String String} (h : m.Distinct) :
    textMap (Describe.textMap m) = .ok m := by
  rw [Describe.textMap, Node.ofPairs, textMap, textPairs_ofText]
  exact congrArg Except.ok (Keyed.ofPairs_of_distinct h)

end

theorem ofConversion_eq_ok {α : Type} {c : Yaml.Conversion α} {a : α}
    (h : ofConversion c = .ok a) : c = .ok a := by
  cases c with
  | ok b =>
    cases h
    rfl
  | error fault => cases fault <;> cases h

theorem textMap_distinct [Host] {node : Node} {m : Keyed String String} (h : textMap node = .ok m) :
    m.Distinct := by
  cases node with
  | mapping tag pairs flow share =>
    have hnone : Keyed.Distinct ([] : Keyed String String) := List.nodup_nil
    exact textPairs_distinct hnone (ofConversion_eq_ok h)
  | scalar => cases h
  | sequence => cases h

/-! ### Label states -/

/-- States at labels: no label and no state stands twice, and no state is called like the place. -/
def LabelStates (m : Keyed String (Keyed String String)) : Prop :=
  m.Distinct ∧ ∀ p ∈ m, p.2.Distinct ∧ "Offset" ∉ p.2.map Prod.fst

/-- The node of the states at a label. -/
def stateNode (p : String × Keyed String String) : Node :=
  .ofPairs ((.ofText "Offset", .ofText p.1) :: p.2.map fun (k, v) => (.ofText k, .ofText v))

variable [Host]

theorem labelState_stateNode {p : String × Keyed String String} (hdistinct : p.2.Distinct)
    (hoffset : "Offset" ∉ p.2.map Prod.fst) : labelState (stateNode p) = .ok p := by
  have hall : Keyed.Distinct (("Offset", p.1) :: p.2) := List.nodup_cons.mpr ⟨hoffset, hdistinct⟩
  have hread : textMap (stateNode p) = .ok (("Offset", p.1) :: p.2) := textMap_describe hall
  have hget : Keyed.get? "Offset" (("Offset", p.1) :: p.2) = some p.1 := by
    rw [Keyed.get?, if_pos rfl]
  have herase : Keyed.erase "Offset" (("Offset", p.1) :: p.2) = p.2 := by
    rw [Keyed.erase, List.filter_cons_of_neg (by simp)]
    exact Keyed.erase_of_new hoffset
  rw [labelState]
  refine bind_eq_ok_iff.mpr ⟨_, hread, ?_⟩
  rw [hget, herase]
  rfl

theorem labelState_states {node : Node} {offset : String} {states : Keyed String String}
    (h : labelState node = .ok (offset, states)) :
    states.Distinct ∧ "Offset" ∉ states.map Prod.fst := by
  obtain ⟨m, hm, h⟩ := bind_eq_ok_iff.mp h
  split at h
  · cases h
    exact ⟨(textMap_distinct hm).erase "Offset", Keyed.not_mem_keys_erase "Offset" m⟩
  · cases h

/-- States are set behind those that are there. -/
theorem labelStates_map {m before : Keyed String (Keyed String String)}
    (h : ∀ p ∈ m, p.2.Distinct ∧ "Offset" ∉ p.2.map Prod.fst) :
    labelStates (m.map stateNode) before =
      (m.foldl (fun m p => Keyed.put p.1 p.2 m) before, none) := by
  induction m generalizing before with
  | nil => rfl
  | cons p rest ih =>
    obtain ⟨hdistinct, hoffset⟩ := h p (by simp)
    rw [List.map_cons, labelStates, labelState_stateNode hdistinct hoffset]
    exact ih fun q hq => h q (List.mem_cons_of_mem p hq)

theorem labelStates_describe {m : Keyed String (Keyed String String)} (h : LabelStates m) :
    labelStates (m.map stateNode) [] = (m, none) := by
  rw [labelStates_map h.2]
  exact congrArg (·, none) (Keyed.ofPairs_of_distinct h.1)

/-- What is wrong with a state leaves those before it. -/
theorem labelStates_kept {items : List Node} {before : Keyed String (Keyed String String)}
    (h : LabelStates before) : LabelStates (labelStates items before).1 := by
  induction items generalizing before with
  | nil => exact h
  | cons item rest ih =>
    rw [labelStates]
    split
    · next offset states hstate =>
      refine ih ⟨h.1.put offset states, fun p hp => ?_⟩
      rcases Keyed.of_mem_put hp with rfl | hp
      · exact labelState_states hstate
      · exact h.2 p hp
    · exact h

end Reading

end GameAtlas.Schema
