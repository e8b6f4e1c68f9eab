import Mathlib.Tactic
import GameAtlas.Proofs.Schema.Attribute
import GameAtlas.Proofs.Schema.Tree
import GameAtlas.Schema.Document

/-!
What is known of every field that a description was read into: its attributes fit their keys, a key
that its kind has no use for left no trace, and only structs and arrays have fields within.
-/

namespace GameAtlas.Schema

open Yaml (Node)

/-! ### Attributes -/

namespace Attributes

/-- Attributes that were read: under each key a value that fits, and nothing under a key that the
kind has no use for. -/
structure Sound (a : Attributes) : Prop where
  fits : ∀ k, a.Fits k
  admitted : ∀ k n, a.written? k = some n → a.kind.admits k = true

theorem sound_new (kind : Kind) (issues : List Issue) :
    Sound { kind := kind, issues := issues } := by
  constructor
  · intro k
    cases k <;> simp [Fits, Keyed.Distinct, Reading.LabelStates, Reading.numberBases]
  · intro k n h
    cases k <;> cases kind <;> cases h

theorem Sound.adopt {a b : Attributes} {k : Key} (h : a.Sound) (hkind : a.kind = b.kind)
    (hfits : b.Fits k) (huse : a.kind.admits k = true) : (adopt k b a).Sound := by
  constructor
  · intro l
    by_cases hl : k = l
    · subst hl
      exact (fits_adopt_self hkind).mpr hfits
    · exact (fits_adopt hl).mpr (h.fits l)
  · intro l n hn
    rw [adopt_kind]
    by_cases hl : k = l
    · subst hl
      exact huse
    · rw [written?_adopt hl] at hn
      exact h.admitted l n hn

/-- The name and the issues of a field are no part of this. -/
theorem Sound.relabel {a : Attributes} (h : a.Sound) (name : String) (issues : List Issue) :
    Sound { a with name := name, issues := issues } := by
  constructor
  · intro k
    have hk := h.fits k
    cases k <;> exact hk
  · intro k n hn
    cases k with
    | name => rfl
    | _ => exact h.admitted _ n hn

end Attributes

/-! ### Fields -/

namespace Field

/-- A property of a field and of every field within it. -/
inductive Everywhere (P : Field → Prop) : Field → Prop where
  | intro {f : Field} (here : P f) (members : ∀ m ∈ f.members, Everywhere P m)
    (item : ∀ i ∈ f.itemType, Everywhere P i) : Everywhere P f

theorem Everywhere.of_mem_walk {P : Field → Prop} {f : Field} (h : f.Everywhere P) :
    ∀ g ∈ f.walk, P g := by
  induction h with
  | intro here members item ihMembers ihItem =>
    intro g hg
    rcases mem_walk_iff.mp hg with rfl | ⟨c, hc, hg⟩
    · exact here
    · rcases of_mem_children hc with hmember | hitem
      · exact ihMembers c hmember g hg
      · exact ihItem c hitem g hg

theorem Everywhere.imp {P Q : Field → Prop} {f : Field} (h : f.Everywhere P)
    (himp : ∀ g, P g → Q g) : f.Everywhere Q := by
  induction h with
  | intro here members item ihMembers ihItem => exact .intro (himp _ here) ihMembers ihItem

/-- A field whose keys were read, before it is looked at as a whole. -/
structure Described (f : Field) : Prop where
  attributes : f.toAttributes.Sound
  onlyStructs : f.kind ≠ .struct → f.members = []
  onlyArrays : f.kind ≠ .array → f.itemType = none

/-- A field that was looked at as a whole. -/
structure Checked [Host] (f : Field) : Prop extends Described f where
  arrayItem : f.kind = .array → f.itemType.isSome
  pointerSize : f.kind = .pointer → ∃ issues, f.pointerIssues = .ok issues

/-- A field that was read, with all that lies within it. -/
abbrev Sound [Host] (f : Field) : Prop := f.Everywhere Checked

/-- The host writes the numbers of a field and of all that lies within it. -/
abbrev Writable [Host] (f : Field) : Prop := f.Everywhere fun g => g.toAttributes.Writable

variable {f g : Field}

theorem Described.relabel (h : f.Described) (name : String) (issues : List Issue) :
    Described { f with name := name, issues := issues } :=
  ⟨h.attributes.relabel name issues, h.onlyStructs, h.onlyArrays⟩

section

variable [Host]

/-- What holds along the walk of a sound field holds of all that lies within it. -/
theorem Sound.everywhere_of_walk {P : Field → Prop} (hf : f.Sound)
    (h : ∀ g ∈ f.walk, P g) : f.Everywhere P := by
  induction hf with
  | @intro f here members item ihMembers ihItem =>
    refine .intro (h f (self_mem_walk f)) (fun m hm => ?_) fun i hi => ?_
    · have hnot : f.kind ≠ .array := fun harray => by
        rw [here.onlyStructs (by rw [harray]; decide)] at hm
        cases hm
      have hchild : m ∈ f.children := by rwa [children_of_not_array hnot]
      exact ihMembers m hm fun g hg => h g (mem_walk_of_child hchild hg)
    · have harray : f.kind = .array := by
        by_contra hnot
        rw [here.onlyArrays hnot] at hi
        cases hi
      have hchild : i ∈ f.children := by
        rw [children_of_array harray]
        exact Option.mem_toList.mpr hi
      exact ihItem i hi fun g hg => h g (mem_walk_of_child hchild hg)

/-- A sound field whose numbers the host writes is written. -/
theorem Sound.writable (hf : f.Sound) (h : f.digitFault? = none) : f.Writable :=
  hf.everywhere_of_walk fun g hg =>
    (Attributes.writable_iff g.toAttributes).mpr (List.findSome?_eq_none_iff.mp h g hg)

theorem Sound.relabel (h : f.Sound) (name : String) (issues : List Issue) :
    Sound { f with name := name, issues := issues } := by
  obtain ⟨here, members, item⟩ := h
  exact .intro ⟨here.toDescribed.relabel name issues, here.arrayItem, here.pointerSize⟩ members item

theorem writable_relabel_iff (f : Field) (name : String) (issues : List Issue) :
    Writable { f with name := name, issues := issues } ↔ f.Writable := by
  constructor
  · rintro ⟨here, members, item⟩
    exact .intro ⟨here.size, here.base, here.values⟩ members item
  · rintro ⟨here, members, item⟩
    exact .intro ⟨here.size, here.base, here.values⟩ members item

theorem Sound.addIssue (h : f.Sound) (i : Issue) : (f.addIssue i).Sound :=
  h.relabel f.name _

theorem Sound.named (h : f.Sound) (name : String) : (f.named name).Sound :=
  h.relabel name f.issues

theorem Sound.addIssueIf (h : f.Sound) (p : Prop) [Decidable p] (i : Issue) :
    (if p then f.addIssue i else f).Sound := by
  split
  · exact h.addIssue i
  · exact h

theorem Sound.checkItem (h : f.Sound) : (checkItem f).Sound :=
  h.addIssueIf _ _

theorem sound_undefined (issue : Issue) : (undefined issue).Sound :=
  .intro ⟨⟨Attributes.sound_new .undefined [issue], fun _ => rfl, fun _ => rfl⟩, nofun, nofun⟩
    (by simp [undefined]) (by simp [undefined])

theorem sound_defaultItem : defaultItem.Sound := by
  have hsize : Attributes.Fits { kind := .undefined, size := some "1" } .size := by
    intro s hs
    obtain rfl : "1" = s := Option.some.inj hs
    decide
  have hattributes := (Attributes.sound_new .undefined []).adopt (k := .size)
    (b := { kind := .undefined, size := some "1" }) rfl hsize rfl
  exact .intro ⟨⟨hattributes, fun _ => rfl, fun _ => rfl⟩, nofun, nofun⟩
    (by simp [defaultItem]) (by simp [defaultItem])

end

/-! ### Reading keys -/

/-- What may stand under a spelling: the key says which sort of part it is. -/
def PartFits [Host] (text : String) (part : Part) : Prop :=
  match Key.ofText? text with
  | some .entries => ∃ r, part = .members r ∧ ∀ fs, r = .ok fs → ∀ m ∈ fs, m.Sound
  | some .itemType => ∃ c, part = .item c ∧ ∀ i, c = .ok i → i.Sound
  | _ => ∃ n, part = .value n

/-- A field on the way: its keys read so far, and sound fields within. -/
structure Growing [Host] (f : Field) : Prop extends Described f where
  members : ∀ m ∈ f.members, m.Sound
  item : ∀ i ∈ f.itemType, i.Sound

theorem Growing.addIssue [Host] (h : f.Growing) (i : Issue) : (f.addIssue i).Growing :=
  ⟨h.toDescribed.relabel f.name _, h.members, h.item⟩

theorem Growing.setValue [Host] {k : Key} {n : Node} (h : f.Growing)
    (huse : f.kind.admits k = true) :
    (f.setValue k n).1.Growing := by
  have hsame := setValue_sameBut f k n
  have hfits := fits_setValue (n := n) huse (h.attributes.fits k)
  have hsound := h.attributes.adopt (k := k) hsame.kind.symm hfits huse
  rw [← hsame.attributes] at hsound
  refine ⟨⟨hsound, ?_, ?_⟩, ?_, ?_⟩
  · rw [hsame.kind, hsame.members]
    exact h.onlyStructs
  · rw [hsame.kind, hsame.itemType]
    exact h.onlyArrays
  · rw [hsame.members]
    exact h.members
  · rw [hsame.itemType]
    exact h.item

theorem ofConstruction_eq_ok {α : Type} {c : Construction α} {a : α}
    (h : Reading.ofConstruction c = .ok a) : c = .ok a := by
  cases c with
  | ok b =>
    cases h
    rfl
  | error fault =>
    cases fault with
    | conversion f => cases f <;> cases h
    | bare c => cases h

theorem kind_of_admits_entries {kind : Kind} (h : kind.admits .entries = true) :
    kind = .struct := by
  revert h
  cases kind <;> decide

theorem kind_of_admits_itemType {kind : Kind} (h : kind.admits .itemType = true) :
    kind = .array := by
  revert h
  cases kind <;> decide

theorem Growing.set [Host] {text : String} {k : Key} {part : Part} (h : f.Growing)
    (hkey : Key.ofText? text = some k) (hpart : PartFits text part)
    (huse : f.kind.admits k = true) : (f.set k part).1.Growing := by
  rw [PartFits, hkey] at hpart
  cases k with
  | entries =>
    obtain ⟨r, rfl, hr⟩ := hpart
    have hkind := kind_of_admits_entries huse
    refine take_cases (P := Growing) h fun fs hfs => ?_
    exact ⟨⟨h.attributes, fun hne => absurd hkind hne, h.onlyArrays⟩, hr fs hfs, h.item⟩
  | itemType =>
    obtain ⟨c, rfl, hc⟩ := hpart
    have hkind := kind_of_admits_itemType huse
    refine take_cases (P := Growing) h fun i hi => ?_
    refine ⟨⟨h.attributes, h.onlyStructs, fun hne => absurd hkind hne⟩, h.members, ?_⟩
    intro j hj
    obtain rfl : checkItem i = j := Option.some.inj hj
    exact (hc i (ofConstruction_eq_ok hi)).checkItem
  | _ =>
    obtain ⟨n, rfl⟩ := hpart
    exact h.setValue huse

theorem Growing.read [Host] {text : String} {part : Part} (h : f.Growing)
    (hpart : PartFits text part)
    (hread : f.read text part = .ok g) : g.Growing := by
  rw [Field.read] at hread
  split at hread
  · cases hread
    exact h.addIssue _
  · cases hread
    exact h.addIssue _
  · next k hkey =>
    split at hread
    · next huse =>
      have hset := h.set hkey hpart huse
      split at hread
      · next f' heq =>
        cases hread
        rwa [heq] at hset
      · next f' c heq =>
        cases hread
        rw [heq] at hset
        exact hset.addIssue _
      · cases hread
    · cases hread
      exact h.addIssue _

theorem Growing.readAll [Host] {pairs : Keyed String Part} (h : f.Growing)
    (hpairs : ∀ p ∈ pairs, PartFits p.1 p.2) (hread : f.readAll pairs = .ok g) : g.Growing := by
  induction pairs generalizing f with
  | nil =>
    cases hread
    exact h
  | cons p rest ih =>
    obtain ⟨f', hf', hrest⟩ := bind_eq_ok_iff.mp hread
    exact ih (h.read (hpairs p (by simp)) hf')
      (fun q hq => hpairs q (List.mem_cons_of_mem p hq)) hrest

theorem growing_new [Host] (kind : Kind) (issues : List Issue) :
    Growing { kind := kind, issues := issues } :=
  ⟨⟨Attributes.sound_new kind issues, fun _ => rfl, fun _ => rfl⟩, nofun, nofun⟩

/-! ### Whole fields -/

theorem sound_of_mem_checkMembers [Host] {seen : List String} {members : List Field}
    (h : ∀ m ∈ members, m.Sound) : ∀ m ∈ checkMembers seen members, m.Sound := by
  induction members generalizing seen with
  | nil => exact h
  | cons first rest ih =>
    intro m hm
    rcases List.mem_cons.mp hm with rfl | hm
    · exact (h first (by simp)).relabel first.name _
    · exact ih (fun m hm => h m (List.mem_cons_of_mem first hm)) m hm

theorem Growing.check [Host] (h : f.Growing) (hcheck : f.check = .ok g) : g.Sound := by
  rw [Field.check] at hcheck
  split at hcheck
  · next hkind =>
    cases hcheck
    refine .intro ⟨⟨h.attributes, fun hne => absurd hkind hne, h.onlyArrays⟩, ?_, ?_⟩ ?_ h.item
    · intro harray
      cases hkind.symm.trans harray
    · intro hpointer
      cases hkind.symm.trans hpointer
    · exact sound_of_mem_checkMembers h.members
  · next hkind =>
    have hpointer : f.kind ≠ .pointer := by
      rw [hkind]
      decide
    split at hcheck
    · next hitem =>
      cases hcheck
      exact .intro ⟨h.toDescribed, fun _ => hitem, fun hne => absurd hne hpointer⟩ h.members h.item
    · cases hcheck
      have hsound : Sound { f with itemType := some defaultItem } := by
        refine .intro ⟨⟨h.attributes, h.onlyStructs, fun hne => absurd hkind hne⟩,
          fun _ => rfl, fun hne => absurd hne hpointer⟩ h.members ?_
        intro i hi
        obtain rfl : defaultItem = i := Option.some.inj hi
        exact sound_defaultItem
      exact hsound.addIssue _
  · next hkind =>
    obtain ⟨issues, hissues, hg⟩ := bind_eq_ok_iff.mp hcheck
    cases hg
    refine Sound.relabel (.intro ⟨h.toDescribed, ?_, fun _ => ⟨issues, hissues⟩⟩ h.members h.item)
      f.name _
    intro harray
    cases hkind.symm.trans harray
  · next hstruct harray hpointer =>
    cases hcheck
    exact .intro ⟨h.toDescribed, fun hne => absurd hne harray, fun hne => absurd hne hpointer⟩
      h.members h.item

theorem sound_ofView [Host] {kind : Kind} {pairs : Keyed String Part} {issues : List Issue}
    (hpairs : ∀ p ∈ pairs, PartFits p.1 p.2) (h : ofView kind pairs issues = .ok g) : g.Sound := by
  obtain ⟨f, hf, hg⟩ := bind_eq_ok_iff.mp h
  exact ((growing_new kind issues).readAll hpairs hf).check hg

/-! ### Views -/

theorem mem_add {α : Type} {v : View α} {key : String} {value : α} {q : String × α}
    (hq : q ∈ (v.add key value).pairs) : q ∈ v.pairs ∨ q = (Key.canonical key, value) := by
  simp only [View.add] at hq
  split at hq
  · next hcanonical =>
    rw [hcanonical]
    split at hq
    · exact (Keyed.of_mem_put hq).symm
    · exact (Keyed.of_mem_put hq).symm
    · exact .inl hq
  · split at hq
    · exact .inl hq
    · exact (Keyed.of_mem_put hq).symm

/-- What stands in a view stood under a spelling of the same key. -/
theorem mem_ofPairs {α : Type} {pairs : List (String × α)} {q : String × α}
    (hq : q ∈ (View.ofPairs pairs).pairs) : ∃ p ∈ pairs, q = (Key.canonical p.1, p.2) := by
  have hfold : ∀ (v : View α) (rest : List (String × α)),
      q ∈ (rest.foldl (fun v p => v.add p.1 p.2) v).pairs →
        q ∈ v.pairs ∨ ∃ p ∈ rest, q = (Key.canonical p.1, p.2) := by
    intro v rest
    induction rest generalizing v with
    | nil => exact .inl
    | cons p rest ih =>
      intro hmem
      rcases ih (v.add p.1 p.2) hmem with hmem | ⟨r, hr, heq⟩
      · rcases mem_add hmem with hmem | heq
        · exact .inl hmem
        · exact .inr ⟨p, by simp, heq⟩
      · exact .inr ⟨r, List.mem_cons_of_mem p hr, heq⟩
  rcases hfold {} pairs hq with hmem | h
  · cases hmem
  · exact h

theorem sound_ofTagged [Host] {tag : String} {pairs : Option (List (String × Part))}
    (hpairs : ∀ ps ∈ pairs, ∀ p ∈ ps, PartFits (Key.canonical p.1) p.2)
    (h : ofTagged tag pairs = .ok g) : g.Sound := by
  rw [ofTagged.eq_def] at h
  split at h
  · cases h
    exact sound_undefined _
  · cases h
    exact sound_undefined _
  · next ps _ =>
    refine sound_ofView (fun q hq => ?_) h
    obtain ⟨p, hp, rfl⟩ := mem_ofPairs hq
    exact hpairs ps rfl p hp

theorem sound_ofUntagged [Host] {pairs : Option (List (String × Part))}
    (hpairs : ∀ ps ∈ pairs, ∀ p ∈ ps, PartFits (Key.canonical p.1) p.2)
    (h : ofUntagged pairs = .ok g) : g.Sound := by
  rw [ofUntagged.eq_def] at h
  split at h
  · cases h
    exact sound_undefined _
  · next ps =>
    dsimp only at h
    split at h
    · cases h
      exact sound_undefined _
    · split at h
      · cases h
        exact sound_undefined _
      · refine sound_ofView (fun q hq => ?_) h
        obtain ⟨p, hp, rfl⟩ := mem_ofPairs (List.mem_of_mem_filter hq)
        exact hpairs ps rfl p hp

theorem sound_ofParts [Host] {tag : String} {pairs : Option (List (String × Part))}
    (hpairs : ∀ ps ∈ pairs, ∀ p ∈ ps, PartFits (Key.canonical p.1) p.2)
    (h : ofParts tag pairs = .ok g) : g.Sound := by
  rw [ofParts] at h
  split at h
  · exact sound_ofTagged hpairs h
  · exact sound_ofUntagged hpairs h

/-! ### Nodes -/

mutual

/-- Every field that a node describes is sound. -/
theorem sound_ofNode [Host] (n : Node) {f : Field} (h : ofNode n = .ok f) : f.Sound := by
  match n with
  | .mapping tag pairs _ _ =>
    rw [ofNode] at h
    refine sound_ofParts (fun ps hps => ?_) h
    obtain rfl : partsOf pairs = ps := Option.some.inj hps
    exact partsOf_fit pairs
  | .scalar tag text _ _ =>
    rw [ofNode] at h
    refine sound_ofParts (fun ps hps => ?_) h
    split at hps
    · obtain rfl : [] = ps := Option.some.inj hps
      exact fun _ hp => absurd hp List.not_mem_nil
    · cases hps
  | .sequence tag _ _ _ =>
    rw [ofNode] at h
    exact sound_ofParts (fun _ hps => absurd hps (Option.not_mem_none _)) h
termination_by structural n

theorem partsOf_fit [Host] (pairs : List (Node × Node)) :
    ∀ p ∈ partsOf pairs, PartFits (Key.canonical p.1) p.2 := by
  match pairs with
  | [] => exact fun _ hp => absurd hp List.not_mem_nil
  | (k, v) :: rest =>
    intro p hp
    rw [partsOf] at hp
    rcases List.mem_cons.mp hp with rfl | hp
    · rw [PartFits]
      dsimp only
      cases Key.ofText? (Key.canonical k.keyText) with
      | none => exact ⟨v, rfl⟩
      | some key =>
        cases key with
        | entries => exact ⟨membersOf v, rfl, fun fs hfs => sound_membersOf v hfs⟩
        | itemType => exact ⟨ofNode v, rfl, fun i hi => sound_ofNode v hi⟩
        | _ => exact ⟨v, rfl⟩
    · exact partsOf_fit rest p hp
termination_by structural pairs

theorem sound_membersOf [Host] (n : Node) {fs : List Field} (h : membersOf n = .ok fs) :
    ∀ m ∈ fs, m.Sound := by
  match n with
  | .mapping _ pairs _ _ =>
    rw [membersOf] at h
    exact sound_namedMembers pairs (ofConstruction_eq_ok h)
  | .sequence _ items _ _ =>
    rw [membersOf] at h
    exact sound_plainMembers items (ofConstruction_eq_ok h)
  | .scalar .. =>
    rw [membersOf] at h
    cases h
termination_by structural n

theorem sound_namedMembers [Host] (pairs : List (Node × Node)) {fs : List Field}
    (h : namedMembers pairs = .ok fs) : ∀ m ∈ fs, m.Sound := by
  rw [namedMembers.eq_def] at h
  match pairs with
  | [] =>
    cases h
    exact fun _ hm => absurd hm List.not_mem_nil
  | (k, v) :: rest =>
    obtain ⟨f, hf, h⟩ := bind_eq_ok_iff.mp h
    obtain ⟨more, hmore, h⟩ := bind_eq_ok_iff.mp h
    cases h
    intro m hm
    rcases List.mem_cons.mp hm with rfl | hm
    · exact (sound_ofNode v hf).named k.keyText
    · exact sound_namedMembers rest hmore m hm
termination_by structural pairs

theorem sound_plainMembers [Host] (items : List Node) {fs : List Field}
    (h : plainMembers items = .ok fs) : ∀ m ∈ fs, m.Sound := by
  rw [plainMembers.eq_def] at h
  match items with
  | [] =>
    cases h
    exact fun _ hm => absurd hm List.not_mem_nil
  | n :: rest =>
    obtain ⟨f, hf, h⟩ := bind_eq_ok_iff.mp h
    obtain ⟨more, hmore, h⟩ := bind_eq_ok_iff.mp h
    cases h
    intro m hm
    rcases List.mem_cons.mp hm with rfl | hm
    · exact sound_ofNode n hf
    · exact sound_plainMembers rest hmore m hm
termination_by structural items

end

theorem sound_rootOfNode [Host] {name : String} {n : Node}
    (h : rootOfNode name n = .ok f) : f.Sound := by
  obtain ⟨f', hf', h⟩ := bind_eq_ok_iff.mp h
  cases h
  exact (((sound_ofNode n hf').named name).addIssueIf _ _).addIssueIf _ _

end Field

end GameAtlas.Schema
