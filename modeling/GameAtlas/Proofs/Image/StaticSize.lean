import Mathlib.Tactic
import GameAtlas.Proofs.Expression.Arguments
import GameAtlas.Proofs.Image.Layers

/-!
Sizes that are known without any bytes, and the bytes that are taken. Where no struct states a size,
a field with such a size takes as many bytes as that, and so does everything within it, whatever
bytes the sizes on the way may speak of.
-/

namespace GameAtlas.Image

open Schema (Field)
open Expression (Bindings BindsArguments)

/-! ### Values of a size -/

/-- A value of what its field describes: its parts are those of the members, its elements are of the
item type, and it takes as many bytes as the field does when no bytes are known. -/
structure Value.Measured [Host] (v : Value) : Prop where
  parts : v.field.kind.form = .members → v.inner.map Value.field = v.field.members
  items : v.field.kind.form = .elements → ∀ i ∈ v.inner, v.field.itemType = some i.field
  size : ∀ n, v.field.staticSize = .ok n → v.consumed = n

/-- Everything within a value is measured. -/
def Value.MeasuredWithin [Host] (v : Value) : Prop := ∀ w ∈ v.walk, w.Measured

/-- A struct without a size of its own: only these have the size of what lies within. -/
def Plain (f : Field) : Prop := ∀ g ∈ f.walk, g.kind = .struct → g.size = none

section

variable {f m item : Field} {bindings : Bindings} {s after : Source} {v : Value}

theorem Plain.child (h : Plain f) {c : Field} (hc : c ∈ f.children) : Plain c :=
  fun g hg => h g (Field.mem_walk_of_child hc hg)

/-- The bytes of parts that are measured are those of the members together. -/
theorem length_encodeAll_of_staticSizes [Host] {parts : List Value} {n : Nat}
    (hexact : ∀ p ∈ parts, p.Exact) (hmeasured : ∀ p ∈ parts, p.Measured)
    (hsize : Field.staticSizes (parts.map Value.field) = .ok n) :
    (Value.encodeAll parts).length = n := by
  induction parts generalizing n with
  | nil =>
    cases hsize
    rfl
  | cons p rest ih =>
    rw [List.map_cons, Field.staticSizes] at hsize
    obtain ⟨first, hfirst, hsize⟩ := bind_eq_ok_iff.mp hsize
    obtain ⟨more, hmore, hsize⟩ := bind_eq_ok_iff.mp hsize
    cases hsize
    have hown : p.encode.length = first := by
      rw [← (hexact p List.mem_cons_self).consumed]
      exact (hmeasured p List.mem_cons_self).size first hfirst
    have hrest : (Value.encodeAll rest).length = more :=
      ih (fun q hq => hexact q (List.mem_cons_of_mem p hq))
        (fun q hq => hmeasured q (List.mem_cons_of_mem p hq)) hmore
    rw [Value.encodeAll, List.length_append, hown, hrest]

/-- The size of a struct that is known without any bytes is that of its members together. -/
theorem staticSizes_of_members [Host] {n : Nat} (hform : f.kind.form = .members) (hplain : Plain f)
    (hsize : f.staticSize = .ok n) : Field.staticSizes f.members = .ok n := by
  have hnone : f.size = none := hplain f f.self_mem_walk (kind_of_form_members hform)
  rw [Field.staticSize_eq] at hsize
  split at hsize
  · exact hsize
  · have hsome := Field.isSome_of_resolvedSize hsize
    rw [hnone] at hsome
    cases hsome

/-- The size of all else is the one that is stated. -/
theorem resolvedSize_of_staticSize [Host] {n : Nat} (hform : f.kind.form ≠ .members)
    (hbind : BindsArguments bindings) (hsize : f.staticSize = .ok n) :
    f.resolvedSize bindings = .ok n := by
  have hkind : f.kind ≠ .struct := by
    intro hstruct
    simp [hstruct, Schema.Kind.form] at hform
  rw [Field.staticSize_of_not_struct hkind] at hsize
  exact Schema.Attributes.resolvedSize_of_nil hbind hsize

theorem rawBytes_length [Host] {bs : List UInt8} {n : Nat}
    (h : Decoder.rawBytes f.toAttributes bindings s = (.ok bs, after))
    (hsize : f.resolvedSize bindings = .ok n) : bs.length = n := by
  have hstated : f.size.isNone = false := by simpa using Field.isSome_of_resolvedSize hsize
  simp only [Decoder.rawBytes, hstated, Bool.false_and, Bool.false_eq_true, if_false] at h
  obtain ⟨m, middle, hm, hread⟩ := Decoder.bind_ok h
  obtain ⟨_, _, _, _, hresolved⟩ := Decoder.takes_sizeOf _ _ _ _ _ hm
  obtain ⟨_, _, _, _, hlength⟩ := Decoder.takes_read _ _ _ _ hread
  rw [hlength]
  exact Except.ok.inj (hresolved.symm.trans hsize)

/-! ### Members and elements -/

/-- Whatever bytes are bound, the values of a field are of it and measured. -/
def Measures [Host] (f : Field) : Prop :=
  ∀ bindings s v after, BindsArguments bindings → decodeField f bindings s = (.ok v, after) →
    v.field = f ∧ v.MeasuredWithin

theorem decodeMembers_measured [Host] {ms : List Field} (hmembers : ∀ m ∈ ms, Measures m)
    {run : List UInt8} {parts : List Value} (h : decodeMembers ms run s = (.ok parts, after)) :
    parts.map Value.field = ms ∧ ∀ p ∈ parts, p.MeasuredWithin := by
  induction ms generalizing run s parts with
  | nil =>
    cases h
    exact ⟨rfl, nofun⟩
  | cons m rest ih =>
    rw [decodeMembers] at h
    obtain ⟨v, next, hv, h⟩ := Decoder.bind_ok h
    obtain ⟨more, last, hmore, hpure⟩ := Decoder.bind_ok h
    cases hpure
    obtain ⟨hfield, hwithin⟩ := hmembers m List.mem_cons_self _ _ _ _
      (Expression.bindsArguments_bindBytes run) hv
    obtain ⟨hfields, hall⟩ := ih (fun q hq => hmembers q (List.mem_cons_of_mem m hq)) hmore
    refine ⟨by rw [List.map_cons, hfield, hfields], ?_⟩
    intro p hp
    rcases List.mem_cons.mp hp with rfl | hp
    · exact hwithin
    · exact hall p hp

theorem Series.measured [Host] (hitem : Measures item) {run : List UInt8} {items : List Value}
    (h : Series (decodeField item) run s items after) :
    ∀ i ∈ items, i.field = item ∧ i.MeasuredWithin := by
  induction h with
  | nil => exact nofun
  | @cons run _ _ _ v rest hv _ _ ih =>
    intro i hi
    rcases List.mem_cons.mp hi with rfl | hi
    · exact hitem _ _ _ _ (Expression.bindsArguments_bindBytes run) hv
    · exact ih i hi

theorem Series.measured_items [Host] {itemType : Option Field} (hitem : ∀ i ∈ itemType, Measures i)
    {run : List UInt8} {items : List Value}
    (h : Series (decodeItem itemType) run s items after) :
    ∀ i ∈ items, itemType = some i.field ∧ i.MeasuredWithin := by
  cases itemType with
  | none =>
    cases h with
    | nil => exact nofun
    | cons hv _ _ => cases hv
  | some item =>
    intro i hi
    have hseries : Series (decodeField item) run s items after := h
    obtain ⟨hfield, hwithin⟩ := hseries.measured (hitem item rfl) i hi
    exact ⟨congrArg some hfield.symm, hwithin⟩

/-! ### Fields -/

variable [Host]

/-- Everything within a value is measured if the value is and all that lies within its parts or
elements is. -/
theorem Value.Measured.measuredWithin (h : v.Measured) (hinner : ∀ i ∈ v.inner, i.MeasuredWithin) :
    v.MeasuredWithin := by
  intro w hw
  rcases Value.mem_walk_iff.mp hw with rfl | ⟨i, hi, hw⟩
  · exact h
  · exact hinner i hi w hw

/-- A value of bytes is measured if there are as many as its size says. -/
theorem measured_of_bytes (hmembers : v.field.kind.form ≠ .members)
    (helements : v.field.kind.form ≠ .elements) (hbind : BindsArguments bindings)
    (hsize : ∀ n, v.field.resolvedSize bindings = .ok n → v.consumed = n) : v.Measured :=
  ⟨fun h => absurd h hmembers, fun h => absurd h helements,
    fun n hn => hsize n (resolvedSize_of_staticSize hmembers hbind hn)⟩

theorem measured_members {parts : List Value} (hform : f.kind.form = .members) (hplain : Plain f)
    (hfields : parts.map Value.field = f.members) (hexact : ∀ p ∈ parts, p.Exact)
    (hparts : ∀ p ∈ parts, p.Measured) :
    (Value.members f (Value.encodeAll parts).length parts).Measured where
  parts _ := hfields
  items helements := by
    have helements : f.kind.form = .elements := helements
    simp [hform] at helements
  size n hn := by
    have hsizes := staticSizes_of_members hform hplain hn
    rw [← hfields] at hsizes
    exact length_encodeAll_of_staticSizes hexact hparts hsizes

theorem measured_elements {items : List Value} {total : Nat} (hform : f.kind.form = .elements)
    (hbind : BindsArguments bindings) (htotal : f.resolvedSize bindings = .ok total)
    (hfilled : (Value.encodeAll items).length = total)
    (hitems : ∀ i ∈ items, f.itemType = some i.field) :
    (Value.elements f (Value.encodeAll items).length items).Measured where
  parts hmembers := by
    have hmembers : f.kind.form = .members := hmembers
    simp [hform] at hmembers
  items _ := hitems
  size n hn := by
    have hstated := resolvedSize_of_staticSize (by simp [Value.field, hform]) hbind hn
    have heq : total = n := Except.ok.inj (htotal.symm.trans hstated)
    rw [← heq, ← hfilled]
    rfl

/-- A field is measured if all that lies right below it is. -/
theorem content_measured (hplain : Plain f) (hbind : BindsArguments bindings)
    (hchildren : ∀ c ∈ f.children, Measures c) (h : content f bindings s = (.ok v, after)) :
    v.field = f ∧ v.MeasuredWithin := by
  unfold content at h
  cases hform : f.kind.form with
  | number =>
    simp only [hform] at h
    obtain ⟨size, middle, hsize, h⟩ := Decoder.bind_ok h
    obtain ⟨bytes, last, _, hpure⟩ := Decoder.bind_ok h
    cases hpure
    obtain ⟨_, _, _, _, hresolved⟩ := Decoder.takes_sizeOf _ _ _ _ _ hsize
    have hown := measured_of_bytes (v := .number f size (Value.numberOf bytes))
      (by simp [Value.field, hform]) (by simp [Value.field, hform]) hbind
      fun n hn => Except.ok.inj (hresolved.symm.trans hn)
    exact ⟨rfl, hown.measuredWithin nofun⟩
  | raw =>
    simp only [hform] at h
    obtain ⟨bytes, middle, hbytes, hpure⟩ := Decoder.bind_ok h
    cases hpure
    have hown := measured_of_bytes (v := .raw f bytes.length bytes)
      (by simp [Value.field, hform]) (by simp [Value.field, hform]) hbind
      fun n hn => rawBytes_length hbytes hn
    exact ⟨rfl, hown.measuredWithin nofun⟩
  | members =>
    simp only [hform] at h
    obtain ⟨parts, middle, hparts, hpure⟩ := Decoder.bind_ok h
    cases hpure
    have hbelow : f.children = f.members := Field.children_of_not_array (by
      intro harray
      simp [harray, Schema.Kind.form] at hform)
    rw [hbelow] at hchildren
    obtain ⟨hfields, hall⟩ := decodeMembers_measured hchildren hparts
    obtain ⟨_, _, _, _, hexact⟩ :=
      decodeMembers_takes f.members (fun m _ => decodeField_takes m) [] _ _ _ hparts
    have hown := measured_members hform hplain hfields hexact
      fun p hp => hall p hp p p.self_mem_walk
    exact ⟨rfl, hown.measuredWithin hall⟩
  | elements =>
    simp only [hform] at h
    obtain ⟨total, middle, hsize, h⟩ := Decoder.bind_ok h
    obtain ⟨items, last, hitems, hpure⟩ := Decoder.bind_ok h
    cases hpure
    obtain ⟨_, _, _, _, hresolved⟩ := Decoder.takes_sizeOf _ _ _ _ _ hsize
    obtain ⟨hseries, hfilled⟩ := Decoder.elements_ok (f.itemType.getD default)
      (decodeItem_takes f.itemType) (Nat.zero_le total) (by simp) hitems
    have hbelow : f.children = f.itemType.toList :=
      Field.children_of_array (kind_of_form_elements hform)
    have hitem : ∀ i ∈ f.itemType, Measures i := by
      intro i hi
      refine hchildren i ?_
      rw [hbelow]
      exact Option.mem_toList.mpr hi
    have hall := hseries.measured_items hitem
    have hown := measured_elements hform hbind hresolved hfilled fun i hi => (hall i hi).1
    exact ⟨rfl, hown.measuredWithin fun i hi => (hall i hi).2⟩

/-- The induction is on the field; what lies within a struct or an array is read with other bytes
bound, so that the hypothesis has to hold for all bindings of bytes. -/
theorem measures_of_plain (f : Field) (hplain : Plain f) : Measures f := by
  induction f using Field.tree_induction with
  | step attributes members itemType ihMembers ihItem =>
    intro bindings s v after hbind h
    rw [decodeField_eq] at h
    refine content_measured hplain hbind ?_ (Decoder.within_ok h)
    intro c hc
    have hbelow := hplain.child hc
    rcases Field.of_mem_children hc with hmember | hitem
    · exact ihMembers c hmember hbelow
    · exact ihItem c hitem hbelow

end

/-- Where no struct states a size, a field with a size that is known without any bytes takes just as
many, whatever bytes its caller has bound. So does each member and each element at every depth. -/
theorem decode_consumed_eq_staticSize [Host] {f : Field} {bindings : Bindings}
    (hplain : ∀ g ∈ f.walk, g.kind = .struct → g.size = none) (hbind : BindsArguments bindings)
    {s after : Source} {v : Value} (h : decode f bindings s = (.ok v, after)) :
    v.field = f ∧ (∀ n, f.staticSize = .ok n → v.consumed = n) ∧ ∀ w ∈ v.walk, w.Measured := by
  rw [decode_eq_seek] at h
  obtain ⟨_, middle, _, hvalue⟩ := Decoder.bind_ok h
  obtain ⟨rfl, hwithin⟩ := measures_of_plain f hplain bindings middle v after hbind hvalue
  exact ⟨rfl, (hwithin v v.self_mem_walk).size, hwithin⟩

/-- A number and two words, of which the size is to be reckoned. -/
def sampleSized : Field :=
  { kind := .struct, name := "SIZED", members := [sampleCount, sampleWords "2*2"] }

theorem sampleSized_consumed :
    ∃ v after, decode sampleSized [("ARG_00", 7)] (.ofBytes [2, 1, 2, 3, 4, 5]) = (.ok v, after) ∧
      sampleSized.staticSize = .ok 5 ∧ v.consumed = 5 ∧
      v.walk.map Value.consumed = [5, 1, 4, 2, 2] ∧ ∀ w ∈ v.walk, w.Measured := by
  obtain ⟨v, after, hrun, hwalk⟩ : ∃ v after,
      decode sampleSized [("ARG_00", 7)] (.ofBytes [2, 1, 2, 3, 4, 5]) = (.ok v, after) ∧
        v.walk.map Value.consumed = [5, 1, 4, 2, 2] := ⟨_, _, rfl, rfl⟩
  have hplain : ∀ g ∈ sampleSized.walk, g.kind = .struct → g.size = none := by
    intro g hg hkind
    have hwalk : sampleSized.walk =
        [sampleSized, sampleCount, sampleWords "2*2", { kind := .integer, size := some "2" }] := rfl
    rw [hwalk] at hg
    simp only [List.mem_cons, List.not_mem_nil, or_false] at hg
    rcases hg with rfl | rfl | rfl | rfl
    · rfl
    all_goals cases hkind
  have hbind : BindsArguments [("ARG_00", 7)] := by
    intro p hp
    obtain rfl : p = ("ARG_00", 7) := List.mem_singleton.mp hp
    exact ⟨0, rfl⟩
  have hsize : sampleSized.staticSize = .ok 5 := rfl
  obtain ⟨_, hconsumed, hmeasured⟩ := decode_consumed_eq_staticSize hplain hbind hrun
  exact ⟨v, after, hrun, hsize, hconsumed 5 hsize, hwalk, hmeasured⟩

end GameAtlas.Image
