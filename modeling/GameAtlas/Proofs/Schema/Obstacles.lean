import GameAtlas.Proofs.Yaml.Contained
import GameAtlas.Schema.Entry

/-!
What keeps a value from being read. A value that does not fit its key is a complaint, whatever the
key; a fault is left to a node only by what spoils it.
-/

namespace GameAtlas.Schema

open Yaml (Node ConversionFault Conversion)

namespace Reading

/-- A fault of the reading lies in the node. -/
def Blames [Host] {α : Type} (r : Reading α) (n : Node) : Prop :=
  ∀ fault, r = .error (.fault fault) → n.Spoils fault

section Steps

variable {α β : Type} {n x : Node}
variable [Host]

theorem blames_ok (a : α) : Blames (.ok a) n := nofun

theorem blames_refuse (c : Complaint) : Blames (refuse (α := α) c) n := nofun

theorem Blames.within {r : Reading α} (h : r.Blames x) (hx : n.Contains x) : r.Blames n :=
  fun fault hfault => (h fault hfault).within hx

theorem Blames.bind {r : Reading α} {next : α → Reading β} (h : r.Blames n)
    (hnext : ∀ a, r = .ok a → (next a).Blames n) : Blames (r >>= next) n := by
  intro fault hfault
  rcases bind_eq_error_iff.mp hfault with hr | ⟨a, ha, hmore⟩
  · exact h fault hr
  · exact hnext a ha fault hmore

theorem blames_mapM {γ : Type} {read : γ → Reading α} {xs : List γ}
    (h : ∀ x ∈ xs, (read x).Blames n) : Blames (xs.mapM read) n := by
  intro fault hfault
  obtain ⟨x, hx, hread⟩ := exists_of_mapM_error hfault
  exact h x hx fault hread

theorem blames_ofConversion {c : Conversion α}
    (h : ∀ fault, c = .error fault → (∀ m, fault ≠ .misfit m) → n.Spoils fault) :
    Blames (ofConversion c) n := by
  intro fault hfault
  cases c with
  | ok a => cases hfault
  | error f =>
    cases f with
    | misfit m => cases hfault
    | _ =>
      cases hfault
      exact h _ rfl nofun

end Steps

/-! ### Values of keys -/

variable {n : Node}
variable [Host]

theorem blames_text : (text n).Blames n :=
  blames_ofConversion fun _ h hfault => by
    obtain ⟨m, rfl⟩ := Node.scalarText_misfit h
    exact absurd rfl (hfault m)

theorem blames_integer : (integer n).Blames n :=
  blames_ofConversion fun _ => Node.spoils_of_integer

theorem blames_bool : (bool n).Blames n :=
  blames_ofConversion fun _ => Node.spoils_of_bool

theorem blames_offset : (offset n).Blames n := by
  refine blames_integer.bind fun a _ => ?_
  split
  · exact blames_refuse _
  · exact blames_ok a

theorem blames_numberBase : (numberBase n).Blames n := by
  refine blames_integer.bind fun a _ => ?_
  split
  · exact blames_ok a
  · exact blames_refuse _

theorem blames_size : (size n).Blames n := by
  cases n with
  | scalar tag text style share =>
    have hvalue : Blames (ofConversion (Yaml.scalarValue tag text))
        (.scalar tag text style share) :=
      blames_ofConversion fun _ => .scalar (.self _)
    refine hvalue.bind fun d _ => ?_
    split
    · exact blames_refuse _
    · have hwritten : Blames (ofConversion d.written) (.scalar tag text style share) :=
        blames_ofConversion fun _ h hfault => by
          obtain ⟨m, rfl⟩ := Node.written_misfit h
          exact absurd rfl (hfault m)
      refine hwritten.bind fun s _ => ?_
      split
      · exact blames_refuse _
      · exact blames_ok _
  | sequence => exact blames_refuse _
  | mapping => exact blames_refuse _

theorem blames_texts : (texts n).Blames n := by
  cases n with
  | scalar => exact blames_refuse _
  | sequence => exact blames_mapM fun x hx => blames_text.within (Node.contains_child hx)
  | mapping => exact blames_refuse _

theorem blames_bytes : (bytes n).Blames n := by
  unfold bytes
  refine (blames_mapM fun x hx => blames_integer.within ?_).bind fun values _ => ?_
  · split at hx
    · exact Node.contains_child hx
    · rw [List.mem_singleton.mp hx]
      exact .self _
  · split
    · exact blames_ok _
    · exact blames_refuse _

theorem blames_place : (place n).Blames n := by
  cases n with
  | scalar => exact blames_refuse _
  | sequence => exact blames_refuse _
  | mapping tag pairs flow share =>
    rw [place]
    split
    · next offset name hoffset hname =>
      refine (blames_text.within (Node.contains_get? hname)).bind fun s _ => ?_
      refine (blames_integer.within (Node.contains_get? hoffset)).bind fun i _ => ?_
      exact blames_ok _
    · exact blames_refuse _

theorem blames_places : (places n).Blames n := by
  cases n with
  | scalar => exact blames_refuse _
  | sequence tag items flow share =>
    have hitems : Blames (items.mapM place) (.sequence tag items flow share) :=
      blames_mapM fun x hx => blames_place.within (Node.contains_child hx)
    exact hitems.bind fun ps _ => blames_ok _
  | mapping => exact blames_refuse _

theorem blames_values : (values n).Blames n := by
  cases n with
  | scalar => exact blames_refuse _
  | sequence tag items flow share =>
    have hitems : Blames (items.mapM text) (.sequence tag items flow share) :=
      blames_mapM fun x hx => blames_text.within (Node.contains_child hx)
    exact hitems.bind fun names _ => blames_ok _
  | mapping tag pairs flow share =>
    have hpairs : Blames (pairs.mapM valuePair) (.mapping tag pairs flow share) := by
      refine blames_mapM fun p hp => ?_
      refine (blames_integer.within (Node.contains_key hp)).bind fun i _ => ?_
      refine (blames_text.within (Node.contains_value hp)).bind fun s _ => ?_
      exact blames_ok _
    exact hpairs.bind fun ps _ => blames_ok _

theorem textPairs_error {pairs : List (Node × Node)} {m : Keyed String String}
    {fault : ConversionFault} (h : textPairs pairs m = .error fault) :
    ∃ p ∈ pairs, p.2.valueText = .error fault := by
  induction pairs generalizing m with
  | nil => cases h
  | cons p rest ih =>
    rcases bind_eq_error_iff.mp h with hdatum | ⟨d, _, h⟩
    · exact ⟨p, List.mem_cons_self, hdatum⟩
    · obtain ⟨q, hq, hfault⟩ := ih h
      exact ⟨q, List.mem_cons_of_mem p hq, hfault⟩

theorem blames_textMap : (textMap n).Blames n := by
  cases n with
  | scalar => exact blames_refuse _
  | sequence => exact blames_refuse _
  | mapping tag pairs flow share =>
    refine blames_ofConversion fun fault h hfault => ?_
    obtain ⟨p, hp, htext⟩ := textPairs_error h
    exact (Node.spoils_of_valueText htext hfault).within (Node.contains_value hp)

theorem blames_labelState : (labelState n).Blames n := by
  refine blames_textMap.bind fun states _ => ?_
  split
  · exact blames_ok _
  · exact blames_refuse _

theorem labelStates_obstacle {items : List Node} {m : Keyed String (Keyed String String)}
    {obstacle : Obstacle} (h : (labelStates items m).2 = some obstacle) :
    ∃ x ∈ items, labelState x = .error obstacle := by
  induction items generalizing m with
  | nil => cases h
  | cons x rest ih =>
    rw [labelStates] at h
    split at h
    · obtain ⟨y, hy, hread⟩ := ih h
      exact ⟨y, List.mem_cons_of_mem x hy, hread⟩
    · next hread =>
      cases h
      exact ⟨x, List.mem_cons_self, hread⟩

end Reading

namespace Field

variable {f : Field} {key : Key} {n : Node}

theorem take_obstacle {α : Type} {reading : Reading α} {set : α → Field} {obstacle : Obstacle} :
    (f.take reading set).2 = some obstacle ↔ reading = .error obstacle := by
  cases reading with
  | ok a =>
    constructor
    · exact nofun
    · exact nofun
  | error o =>
    constructor
    · intro h
      cases h
      rfl
    · intro h
      cases h
      rfl

theorem blames_take [Host] {α : Type} {reading : Reading α} {set : α → Field}
    (h : reading.Blames n) {fault : ConversionFault}
    (hfault : (f.take reading set).2 = some (.fault fault)) : n.Spoils fault :=
  h fault (take_obstacle.mp hfault)

theorem blames_endiannessOf [Host] : Reading.Blames (endiannessOf n) n := by
  refine Reading.blames_text.bind fun s _ => ?_
  dsimp only
  split
  · exact Reading.blames_ok _
  · split
    · exact Reading.blames_ok _
    · exact Reading.blames_refuse _

/-- A value that is neither taken nor complained of is spoiled. -/
theorem spoils_of_setValue [Host] {fault : ConversionFault}
    (h : (f.setValue key n).2 = some (.fault fault)) : n.Spoils fault := by
  cases key with
  | name | prettyName | description | notes | charset | format | references =>
    exact blames_take Reading.blames_text h
  | arguments | initialState | finalState | returnValues =>
    exact blames_take Reading.blames_textMap h
  | offset => exact blames_take Reading.blames_offset h
  | size => exact blames_take Reading.blames_size h
  | signed => exact blames_take Reading.blames_bool h
  | base =>
    rw [setValue] at h
    split at h
    · exact blames_take Reading.blames_integer h
    · exact blames_take Reading.blames_numberBase h
  | endianness => exact blames_take blames_endiannessOf h
  | values => exact blames_take Reading.blames_values h
  | bitValues => exact blames_take Reading.blames_texts h
  | terminator => exact blames_take Reading.blames_bytes h
  | labels | locals => exact blames_take Reading.blames_places h
  | labelStates =>
    cases n with
    | sequence tag items flow share =>
      obtain ⟨x, hx, hread⟩ := Reading.labelStates_obstacle h
      exact (Reading.blames_labelState fault hread).within (Node.contains_child hx)
    | scalar => cases h
    | mapping => cases h
  | type | entries | itemType => cases h

end Field

end GameAtlas.Schema
