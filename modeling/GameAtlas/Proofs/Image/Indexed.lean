import Mathlib.Tactic
import GameAtlas.Proofs.Image.StaticSize
import GameAtlas.Proofs.Schema.Disjoint

/-!
Labels of places in arrays, and the elements that are decoded there. A label counts elements by the
size that the item type has when no bytes are known; the decoder has each element end where it ends.
Both name the same element wherever the decoded ones are evenly spaced, and that they are if no
struct in the item type states a size other than that of its members.
-/

namespace GameAtlas.Image

open Schema (Field Game SizeError)
open Expression (Bindings BindsArguments)
open Yaml (Node)

/-! ### Elements end to end -/

/-- Where an element starts, counted from the start of its array. -/
def startOf (items : List Value) (k : Nat) : Nat := ((items.take k).map Value.consumed).sum

/-- The element of an index has the byte at an offset. -/
def Covers (items : List Value) (k o : Nat) : Prop :=
  ∃ element, items[k]? = some element ∧ startOf items k ≤ o ∧
    o < startOf items k + element.consumed

/-- Every element has `m` bytes, but that the last may have fewer. -/
def EvenlySpaced (m : Nat) (items : List Value) : Prop :=
  ∀ k element, items[k]? = some element →
    element.consumed ≤ m ∧ (k + 1 < items.length → element.consumed = m)

section Elements

variable {items rest : List Value} {element : Value} {k m o : Nat}

@[simp]
theorem startOf_zero : startOf items 0 = 0 := rfl

theorem startOf_cons : startOf (element :: rest) (k + 1) = element.consumed + startOf rest k := rfl

theorem startOf_succ (h : items[k]? = some element) :
    startOf items (k + 1) = startOf items k + element.consumed := by
  rw [startOf, startOf, List.take_add_one, h, List.map_append, List.sum_append]
  simp

/-- The elements of an array leave no byte out. -/
theorem exists_covers (h : o < startOf items items.length) : ∃ k, Covers items k o := by
  induction items generalizing o with
  | nil => simp at h
  | cons first rest ih =>
    by_cases hfirst : o < first.consumed
    · exact ⟨0, first, rfl, by simp, by simpa using hfirst⟩
    · rw [List.length_cons, startOf_cons] at h
      obtain ⟨k, element, hk, hstart, hend⟩ := ih (o := o - first.consumed) (by omega)
      refine ⟨k + 1, element, hk, ?_, ?_⟩
      · rw [startOf_cons]
        omega
      · rw [startOf_cons]
        omega

theorem Covers.of_cons (h : Covers (element :: rest) (k + 1) o) :
    element.consumed ≤ o ∧ Covers rest k (o - element.consumed) := by
  obtain ⟨e, he, hstart, hend⟩ := h
  rw [startOf_cons] at hstart hend
  exact ⟨by omega, e, he, by omega, by omega⟩

/-- No byte belongs to two elements. -/
theorem Covers.unique {j : Nat} (hj : Covers items j o) (hk : Covers items k o) : j = k := by
  induction items generalizing j k o with
  | nil =>
    obtain ⟨_, hnone, _⟩ := hj
    cases hnone
  | cons first rest ih =>
    have hfirst : Covers (first :: rest) 0 o → o < first.consumed := by
      rintro ⟨e, he, _, hend⟩
      cases he
      simpa using hend
    cases j with
    | zero =>
      cases k with
      | zero => rfl
      | succ k => exact absurd (hfirst hj) (not_lt.mpr hk.of_cons.1)
    | succ j =>
      cases k with
      | zero => exact absurd (hfirst hk) (not_lt.mpr hj.of_cons.1)
      | succ k => exact congrArg Nat.succ (ih hj.of_cons.2 hk.of_cons.2)

/-- Evenly spaced elements start at the multiples of their size. -/
theorem EvenlySpaced.start (h : EvenlySpaced m items) (hk : k < items.length) :
    startOf items k = k * m := by
  induction k with
  | zero => simp
  | succ k ih =>
    have hbefore : items[k]? = some items[k] := List.getElem?_eq_getElem (by omega)
    obtain ⟨_, hsize⟩ := h k _ hbefore
    rw [startOf_succ hbefore, ih (by omega), hsize hk, Nat.succ_mul]

theorem EvenlySpaced.index (h : EvenlySpaced m items) (hcovers : Covers items k o) :
    o / m = k := by
  obtain ⟨element, hk, hstart, hend⟩ := hcovers
  obtain ⟨hlength, _⟩ := List.getElem?_eq_some_iff.mp hk
  obtain ⟨hmost, _⟩ := h k element hk
  rw [h.start hlength] at hstart hend
  refine Nat.div_eq_of_lt_le hstart ?_
  rw [Nat.succ_mul]
  omega

/-- Where division gives the index of every byte's element, elements start at multiples: the byte
before a start still belongs to the element before, and the byte there no longer. -/
theorem start_of_index (hpos : 0 < m) (hfull : ∀ v ∈ items, v.consumed ≠ 0)
    (hindex : ∀ j p, Covers items j p → p / m = j) (hk : k < items.length) :
    startOf items k = k * m := by
  have hnonempty : ∀ j (hj : j < items.length), items[j].consumed ≠ 0 :=
    fun j hj => hfull _ (List.getElem_mem hj)
  cases k with
  | zero => simp
  | succ j =>
    have hj : items[j]? = some items[j] := List.getElem?_eq_getElem (by omega)
    have hnext : items[j + 1]? = some items[j + 1] := List.getElem?_eq_getElem hk
    have hstart := startOf_succ hj
    have hown := hnonempty j (by omega)
    have hbehind := hnonempty (j + 1) hk
    have hlast : (startOf items (j + 1) - 1) / m = j :=
      hindex j _ ⟨_, hj, by omega, by omega⟩
    have hfirst : startOf items (j + 1) / m = j + 1 :=
      hindex (j + 1) _ ⟨_, hnext, le_refl _, by omega⟩
    have hbelow : startOf items (j + 1) - 1 < (j + 1) * m :=
      (Nat.div_lt_iff_lt_mul hpos).mp (by omega)
    have habove : (j + 1) * m ≤ startOf items (j + 1) :=
      (Nat.le_div_iff_mul_le hpos).mp (by omega)
    omega

/-- Division by a size gives the index of every byte's element exactly if the elements are evenly
spaced by it. -/
theorem index_iff_evenlySpaced (hpos : 0 < m) (hfull : ∀ v ∈ items, v.consumed ≠ 0) :
    (∀ j p, Covers items j p → p / m = j) ↔ EvenlySpaced m items := by
  refine ⟨fun hindex k element hk => ?_, fun h _ _ => h.index⟩
  obtain ⟨hlength, helement⟩ := List.getElem?_eq_some_iff.mp hk
  have hown : element.consumed ≠ 0 := hfull element (List.mem_of_getElem? hk)
  have hstart := start_of_index hpos hfull hindex hlength
  constructor
  · have hlast : (startOf items k + element.consumed - 1) / m = k :=
      hindex k _ ⟨element, hk, by omega, by omega⟩
    have hbelow : startOf items k + element.consumed - 1 < (k + 1) * m :=
      (Nat.div_lt_iff_lt_mul hpos).mp (by omega)
    rw [Nat.succ_mul] at hbelow
    omega
  · intro hnext
    have hstop := start_of_index hpos hfull hindex hnext
    rw [startOf_succ hk, hstart, Nat.succ_mul] at hstop
    omega

end Elements

/-! ### Fields as they are read -/

mutual

/-- The size of a field as it is read when no bytes are known: a struct has the bytes of its
members, whatever size it states. -/
def readSize [Host] (f : Field) : Except SizeError Nat :=
  match f with
  | ⟨attributes, members, _⟩ =>
    if attributes.kind = .struct then readSizes members else attributes.resolvedSize []
termination_by structural f

def readSizes [Host] (fs : List Field) : Except SizeError Nat :=
  match fs with
  | [] => .ok 0
  | f :: rest => do
    let n ← readSize f
    return n + (← readSizes rest)
termination_by structural fs

end

section Reading

variable {f item : Field} {bindings : Bindings} {s after : Source} {v : Value} {n : Nat}

section

variable [Host]

theorem readSize_eq (f : Field) :
    readSize f = if f.kind = .struct then readSizes f.members else f.resolvedSize [] := by
  cases f
  rw [readSize]

theorem readSizes_of_staticSizes {ms : List Field}
    (hmembers : ∀ m ∈ ms, ∀ n, m.staticSize = .ok n → readSize m = .ok n)
    (h : Field.staticSizes ms = .ok n) : readSizes ms = .ok n := by
  induction ms generalizing n with
  | nil => exact h
  | cons m rest ih =>
    obtain ⟨first, hfirst, h⟩ := bind_eq_ok_iff.mp h
    obtain ⟨more, hmore, h⟩ := bind_eq_ok_iff.mp h
    cases h
    rw [readSizes, hmembers m List.mem_cons_self first hfirst,
      ih (fun q hq => hmembers q (List.mem_cons_of_mem m hq)) hmore]
    rfl

/-- Where no struct states a size, a field has the size that it is read with. -/
theorem readSize_of_plain (f : Field) (hplain : Plain f) :
    ∀ n, f.staticSize = .ok n → readSize f = .ok n := by
  induction f using Field.tree_induction with
  | step attributes members itemType ihMembers _ =>
    intro n h
    rw [readSize_eq]
    by_cases hstruct : attributes.kind = .struct
    · have hbelow : (⟨attributes, members, itemType⟩ : Field).children = members :=
        Field.children_of_not_array (by simp [hstruct])
      rw [if_pos hstruct]
      refine readSizes_of_staticSizes (fun m hm => ihMembers m hm (hplain.child ?_))
        (staticSizes_of_members (by simp [hstruct, Schema.Kind.form]) hplain h)
      rw [hbelow]
      exact hm
    · rw [if_neg hstruct, ← Field.staticSize_of_not_struct hstruct]
      exact h

/-- Members take as many bytes as they have together. -/
theorem decodeMembers_readSizes {ms : List Field}
    (hmembers : ∀ m ∈ ms, ∀ bindings s v after n, BindsArguments bindings →
      decodeField m bindings s = (.ok v, after) → readSize m = .ok n → v.consumed = n)
    {run : List UInt8} {parts : List Value} (h : decodeMembers ms run s = (.ok parts, after))
    (hsize : readSizes ms = .ok n) : (Value.encodeAll parts).length = n := by
  induction ms generalizing run s parts n with
  | nil =>
    cases h
    cases hsize
    rfl
  | cons m rest ih =>
    obtain ⟨first, hfirst, hsize⟩ := bind_eq_ok_iff.mp hsize
    obtain ⟨more, hmore, hsize⟩ := bind_eq_ok_iff.mp hsize
    cases hsize
    rw [decodeMembers] at h
    obtain ⟨v, next, hv, h⟩ := Decoder.bind_ok h
    obtain ⟨others, last, hothers, hpure⟩ := Decoder.bind_ok h
    cases hpure
    have hown : v.encode.length = first := by
      rw [← Decoder.consumed_of_takes (decodeField_takes m _) hv]
      exact hmembers m (by simp) _ _ _ _ _ (Expression.bindsArguments_bindBytes run) hv hfirst
    have hrest : (Value.encodeAll others).length = more :=
      ih (fun q hq => hmembers q (List.mem_cons_of_mem m hq)) hothers hmore
    rw [Value.encodeAll, List.length_append, hown, hrest]

/-- What is read for a field takes as many bytes as that, whatever bytes are bound. -/
theorem consumed_of_readSize (f : Field) : ∀ bindings s v after n, BindsArguments bindings →
    decodeField f bindings s = (.ok v, after) → readSize f = .ok n → v.consumed = n := by
  induction f using Field.tree_induction with
  | step attributes members itemType ihMembers ihItem =>
    intro bindings s v after n hbind h hsize
    rw [decodeField_eq] at h
    have h := Decoder.within_ok h
    rw [readSize_eq] at hsize
    have hstated (hform : attributes.kind.form ≠ .members) :
        attributes.resolvedSize bindings = .ok n := by
      have hkind : attributes.kind ≠ .struct := by
        intro hstruct
        simp [hstruct, Schema.Kind.form] at hform
      rw [if_neg hkind] at hsize
      exact Schema.Attributes.resolvedSize_of_nil hbind hsize
    unfold content at h
    cases hform : attributes.kind.form with
    | number =>
      have hresolved := hstated (by simp [hform])
      simp only [hform] at h
      obtain ⟨size, middle, hread, h⟩ := Decoder.bind_ok h
      obtain ⟨bytes, last, _, hpure⟩ := Decoder.bind_ok h
      cases hpure
      obtain ⟨_, _, _, _, htaken⟩ := Decoder.takes_sizeOf _ _ _ _ _ hread
      exact Except.ok.inj (htaken.symm.trans hresolved)
    | raw =>
      have hresolved := hstated (by simp [hform])
      simp only [hform] at h
      obtain ⟨bytes, middle, hbytes, hpure⟩ := Decoder.bind_ok h
      cases hpure
      exact rawBytes_length (f := ⟨attributes, members, itemType⟩) hbytes hresolved
    | members =>
      have hkind : attributes.kind = .struct :=
        kind_of_form_members (f := ⟨attributes, members, itemType⟩) hform
      rw [if_pos hkind] at hsize
      simp only [hform] at h
      obtain ⟨parts, middle, hparts, hpure⟩ := Decoder.bind_ok h
      cases hpure
      exact decodeMembers_readSizes ihMembers hparts hsize
    | elements =>
      have hresolved := hstated (by simp [hform])
      simp only [hform] at h
      obtain ⟨total, middle, hread, h⟩ := Decoder.bind_ok h
      obtain ⟨items, last, hitems, hpure⟩ := Decoder.bind_ok h
      cases hpure
      obtain ⟨_, _, _, _, htaken⟩ := Decoder.takes_sizeOf _ _ _ _ _ hread
      obtain ⟨_, hfilled⟩ := Decoder.elements_ok (itemType.getD default)
        (decodeItem_takes itemType) (Nat.zero_le total) (by simp) hitems
      have hfilled : (Value.encodeAll items).length = total := hfilled
      exact hfilled.trans (Except.ok.inj (htaken.symm.trans hresolved))

end

/-! ### Arrays as they are read -/

theorem Series.consumed [Host] {run : List UInt8} {items : List Value}
    (h : Series (decodeField item) run s items after) :
    startOf items items.length = (Value.encodeAll items).length ∧
      (∀ e ∈ items, e.consumed ≠ 0) ∧
      ∀ n, readSize item = .ok n → ∀ e ∈ items, e.consumed = n := by
  induction h with
  | nil => exact ⟨rfl, nofun, fun _ _ => nofun⟩
  | @cons run _ _ _ e rest he hfull _ ih =>
    obtain ⟨hlength, hnonempty, hsize⟩ := ih
    have hown : e.consumed = e.encode.length :=
      Decoder.consumed_of_takes (decodeField_takes item _) he
    refine ⟨?_, ?_, ?_⟩
    · rw [List.length_cons, startOf_cons, hlength, hown, Value.encodeAll, List.length_append]
    · intro i hi
      rcases List.mem_cons.mp hi with rfl | hi
      · exact hfull
      · exact hnonempty i hi
    · intro n hn i hi
      rcases List.mem_cons.mp hi with rfl | hi
      · exact consumed_of_readSize item _ _ _ _ n (Expression.bindsArguments_bindBytes run) he hn
      · exact hsize n hn i hi

/-- The elements of an array that was read fill its size, none of them is empty, and where the item
type is read with one size, each has it. -/
theorem elements_of_decode [Host] (harray : f.kind = .array) (hitem : f.itemType = some item)
    (h : decode f [] s = (.ok v, after)) :
    f.resolvedSize [] = .ok (startOf v.inner v.inner.length) ∧
      (∀ e ∈ v.inner, e.consumed ≠ 0) ∧
      ∀ n, readSize item = .ok n → ∀ e ∈ v.inner, e.consumed = n := by
  rw [decode_eq_seek] at h
  obtain ⟨_, middle, _, h⟩ := Decoder.bind_ok h
  rw [decodeField_eq] at h
  have h := Decoder.within_ok h
  have hform : f.kind.form = .elements := by rw [harray]; rfl
  simp only [content, hform, hitem] at h
  obtain ⟨total, next, hread, h⟩ := Decoder.bind_ok h
  obtain ⟨items, last, hitems, hpure⟩ := Decoder.bind_ok h
  cases hpure
  obtain ⟨_, _, _, _, hsize⟩ := Decoder.takes_sizeOf _ _ _ _ _ hread
  obtain ⟨hseries, hfilled⟩ := Decoder.elements_ok item
    (decodeItem_takes (some item)) (Nat.zero_le total) (by simp) hitems
  have hseries : Series (decodeField item) [] next items after := hseries
  have hfilled : (Value.encodeAll items).length = total := hfilled
  obtain ⟨hlength, hnonempty, hsizes⟩ := hseries.consumed
  refine ⟨?_, hnonempty, hsizes⟩
  rw [hsize, ← hfilled]
  exact congrArg Except.ok hlength.symm

/-- Elements that are all read with one size are evenly spaced by it. -/
theorem evenlySpaced_of_readSize [Host] (harray : f.kind = .array) (hitem : f.itemType = some item)
    (h : decode f [] s = (.ok v, after)) (hsize : readSize item = .ok n) :
    EvenlySpaced n v.inner := by
  obtain ⟨_, _, hsizes⟩ := elements_of_decode harray hitem h
  intro k element hk
  have hown : element.consumed = n := hsizes n hsize element (List.mem_of_getElem? hk)
  exact ⟨le_of_eq hown, fun _ => hown⟩

end Reading

/-! ### Labels -/

theorem lies_of_offsetOf? [Host] {f : Field} {x offset : Int}
    (h : f.offsetOf? x = .ok (some offset)) :
    ∃ a n, f.Lies a n ∧ a ≤ x ∧ x < a + n ∧ offset = x - a := by
  unfold Field.offsetOf? at h
  cases haddress : f.address with
  | none =>
    rw [haddress] at h
    cases h
  | some a =>
    simp only [haddress] at h
    split at h
    · cases h
    · rename_i hbehind
      obtain ⟨size, hsize, h⟩ := bind_eq_ok_iff.mp h
      cases size with
      | none => cases h
      | some n =>
        have hstatic : f.staticSize = .ok n := by
          unfold SizeError.optional at hsize
          split at hsize
          · cases hsize
            assumption
          · split at hsize <;> cases hsize
        have hoffset : (if x < a + n then some (x - a) else none) = some offset := Except.ok.inj h
        split at hoffset
        · rename_i hin
          exact ⟨a, n, ⟨haddress, hstatic⟩, not_lt.mp hbehind, hin, (Option.some.inj hoffset).symm⟩
        · cases hoffset

theorem lies_of_firstHolding [Host] {x offset : Int} {fs : List Field} {f : Field}
    (h : Game.firstHolding x fs = .ok (some (f, offset))) :
    ∃ a n, f.Lies a n ∧ a ≤ x ∧ x < a + n ∧ offset = x - a := by
  induction fs with
  | nil => cases h
  | cons g rest ih =>
    rw [Game.firstHolding] at h
    obtain ⟨found, hfound, h⟩ := bind_eq_ok_iff.mp h
    cases found with
    | none => exact ih h
    | some o =>
      cases h
      exact lies_of_offsetOf? hfound

theorem lies_of_containing? [Host] {g : Game} {x : Int} {f : Field}
    (h : g.containing? x = .ok (some f)) :
    ∃ a n, f.Lies a n ∧ a ≤ x ∧ x < a + n ∧
      Game.firstHolding x g.entries = .ok (some (f, x - a)) := by
  obtain ⟨found, hholding, hfirst⟩ := map_eq_ok_iff.mp h
  cases found with
  | none => cases hfirst
  | some found =>
    obtain ⟨_, offset⟩ := found
    cases hfirst
    obtain ⟨a, n, hlies, hbehind, hin, rfl⟩ := lies_of_firstHolding hholding
    exact ⟨a, n, hlies, hbehind, hin, hholding⟩

theorem elementLabel_of_size [Host] {f item : Field} {m o : Nat}
    (hfree : Keyed.get? (o : Int) f.labels = none)
    (hitem : f.itemType = some item) (hsize : item.staticSize = .ok m) (hpos : 0 < m) :
    f.elementLabel o = .ok s!"{f.name}[{o / m}]" := by
  have hdiv : (o : Int).fdiv m = (o / m : Nat) := (Int.ofNat_fdiv o m).symm
  have hne : m ≠ 0 := by omega
  simp only [Field.elementLabel, hfree, hitem, Option.map_some, hsize, SizeError.optional,
    Option.getD_some, if_neg hne, hdiv]
  rfl

/-- The label of a byte of an array, where it has none of its own, has the index of the element that
is decoded there if the elements are evenly spaced by the size of the item type. For all bytes of
the array it is the index exactly then. Elements are evenly spaced if the item type is read with the
size that it has, and so if no struct in it states one. -/
theorem label_names_element [Host] {g : Game} {f item : Field} {x a : Int} {m : Nat}
    {s after : Source}
    {v : Value} (hfound : g.containing? x = .ok (some f)) (haddress : f.address = some a)
    (harray : f.kind = .array) (hfree : Keyed.get? (x - a) f.labels = none)
    (hitem : f.itemType = some item) (hsize : item.staticSize = .ok m) (hpos : 0 < m)
    (hdecode : decode f [] s = (.ok v, after)) :
    ∃ k o : Nat, x = a + o ∧ Covers v.inner k o ∧ (∀ j, Covers v.inner j o → j = k) ∧
      g.label x = .ok s!"{f.name}[{o / m}]" ∧
      (EvenlySpaced m v.inner → g.label x = .ok s!"{f.name}[{k}]") ∧
      (EvenlySpaced m v.inner ↔ ∀ j p, Covers v.inner j p → p / m = j) ∧
      (Plain item ∨ readSize item = .ok m → EvenlySpaced m v.inner) := by
  obtain ⟨start, n, ⟨hstart, hown⟩, hbehind, hin, hholding⟩ := lies_of_containing? hfound
  obtain rfl : start = a := Option.some.inj (hstart.symm.trans haddress)
  obtain ⟨o, ho⟩ : ∃ o : Nat, x - start = o := ⟨(x - start).toNat, by omega⟩
  have hnot : f.kind ≠ .struct := by simp [harray]
  obtain ⟨hfilled, hfull, _⟩ := elements_of_decode harray hitem hdecode
  rw [Field.staticSize_of_not_struct hnot, hfilled] at hown
  have hn : startOf v.inner v.inner.length = n := Except.ok.inj hown
  obtain ⟨k, hcovers⟩ : ∃ k, Covers v.inner k o := exists_covers (by omega)
  have hlabel : g.label x = .ok s!"{f.name}[{o / m}]" := by
    rw [ho] at hfree
    simp only [Game.label, hholding, Field.label, if_pos harray, ho]
    exact elementLabel_of_size hfree hitem hsize hpos
  refine ⟨k, o, by omega, hcovers, fun j hj => hj.unique hcovers, hlabel, ?_,
    (index_iff_evenlySpaced hpos hfull).symm, ?_⟩
  · intro heven
    rw [hlabel, heven.index hcovers]
  · rintro (hplain | hread)
    · exact evenlySpaced_of_readSize harray hitem hdecode (readSize_of_plain item hplain m hsize)
    · exact evenlySpaced_of_readSize harray hitem hdecode hread

/-- An array of structs with one word each, that state a size as well. -/
def sampleItems (stated : String) : Field :=
  { kind := .array, name := "ITEMS", address := some 0, size := some "8",
    itemType := some
      { kind := .struct, size := some stated,
        members := [{ kind := .integer, name := "A", size := some "2" }] } }

def sampleItemsNode (stated : String) : Node :=
  let word : Node := .mapping "!int" [(.ofText "Size", .ofInt 2)] false none
  let element : Node := .mapping "!struct"
    [(.ofText "Size", .ofText stated), (.ofText "Entries", .ofPairs [(.ofText "A", word)])] false
    none
  .ofPairs [(.ofText "ITEMS", .mapping "!array"
    [(.ofText "Offset", .ofInt 0), (.ofText "Size", .ofInt 8), (.ofText "Item Type", element)]
    false none)]

def sampleItemsGame (stated : String) : Game :=
  { title := "Sample", country := "Nowhere", entries := [sampleItems stated] }

theorem sampleItems_names_element :
    ∃ v after, Game.ofNodes (some Schema.sampleMetadata) (some (sampleItemsNode "2")) =
        .ok (sampleItemsGame "2") ∧
      decode (sampleItems "2") [] (.ofBytes [1, 2, 3, 4, 5, 6, 7, 8]) = (.ok v, after) ∧
      Covers v.inner 1 2 ∧ (sampleItemsGame "2").label 2 = .ok "ITEMS[1]" := by
  obtain ⟨v, after, hrun⟩ : ∃ v after,
      decode (sampleItems "2") [] (.ofBytes [1, 2, 3, 4, 5, 6, 7, 8]) = (.ok v, after) :=
    ⟨_, _, rfl⟩
  obtain ⟨k, o, ho, hcovers, _, hlabel, _, hindex, heven⟩ :=
    label_names_element (g := sampleItemsGame "2") (x := 2) (m := 2) rfl rfl rfl rfl rfl rfl
      (by decide) hrun
  obtain rfl : o = 2 := by omega
  obtain rfl : 1 = k := hindex.mp (heven (.inr rfl)) k 2 hcovers
  exact ⟨v, after, rfl, hrun, hcovers, hlabel⟩

/-- Of structs that state twice the bytes of their member, the second starts at the third byte,
which is labelled as one of the first. -/
theorem sampleItems_misnames_element :
    ∃ v after, Game.ofNodes (some Schema.sampleMetadata) (some (sampleItemsNode "4")) =
        .ok (sampleItemsGame "4") ∧
      decode (sampleItems "4") [] (.ofBytes [1, 2, 3, 4, 5, 6, 7, 8]) = (.ok v, after) ∧
      Covers v.inner 1 2 ∧ (sampleItemsGame "4").label 2 = .ok "ITEMS[0]" :=
  ⟨_, _, rfl, rfl, ⟨_, rfl, by decide, by decide⟩, rfl⟩

end GameAtlas.Image
