import GameAtlas.Proofs.Schema.Described

/-!
Fields as their descriptions give them. Key by key, what is found wrong is kept, and the size, the
members and the item type are those that were read under their keys.
-/

namespace GameAtlas.Schema

open Yaml (Node)

theorem Key.text_of_ofText? {s : String} {k : Key} (h : ofText? s = some k) : k.text = s := by
  have hfound := List.find?_some h
  exact eq_of_beq hfound

theorem Attributes.adopt_issues {k : Key} {a b : Attributes} :
    (adopt k b a).issues = a.issues := by
  cases k <;> rfl

theorem Attributes.adopt_size {k : Key} {a b : Attributes} (hk : k ≠ .size) :
    (adopt k b a).size = a.size := by
  cases k <;> first | rfl | exact absurd rfl hk

theorem Reading.labelStates_obstacle_eq [Host] (items : List Node)
    (m m' : Keyed String (Keyed String String)) :
    (labelStates items m).2 = (labelStates items m').2 := by
  induction items generalizing m m' with
  | nil => rfl
  | cons x rest ih =>
    rw [labelStates, labelStates]
    cases labelState x with
    | ok state => exact ih _ _
    | error obstacle => rfl

theorem Reading.toOption_ofConstruction {α : Type} (c : Construction α) :
    (ofConstruction c).toOption = c.toOption := by
  cases c with
  | ok a => rfl
  | error fault =>
    cases fault with
    | conversion f => cases f <;> rfl
    | bare c => rfl

namespace Field

variable {f g : Field} {kind : Kind} {text : String} {key : Key} {part : Part} {n : Node}

/-! ### What is found -/

theorem take_obstacle_eq {α : Type} {reading : Reading α} {set set' : α → Field} :
    (f.take reading set).2 = (g.take reading set').2 := by
  cases reading <;> rfl

section

variable [Host]

/-- What keeps a value from being taken does not depend on what was taken before. -/
theorem set_obstacle_eq (hkind : f.kind = g.kind) : (f.set key part).2 = (g.set key part).2 := by
  cases part with
  | members fields => exact take_obstacle_eq
  | item field => exact take_obstacle_eq
  | value n =>
    cases key with
    | base =>
      simp only [set, setValue, hkind]
      split
      · exact take_obstacle_eq
      · exact take_obstacle_eq
    | labelStates =>
      cases n with
      | sequence tag items flow share => exact Reading.labelStates_obstacle_eq items _ _
      | scalar => rfl
      | mapping => rfl
    | type | entries | itemType => rfl
    | _ => exact take_obstacle_eq

/-- What is found wrong with a spelling and what stands under it. -/
def finding (kind : Kind) (text : String) (part : Part) : List Issue :=
  match Key.ofText? text with
  | none => [.incomplete s!"Unknown key '{text}'" "Remove or correct the key"]
  | some .type => [.incomplete "Type key is redundant on a tagged entry" "Remove the Type key"]
  | some key =>
    if kind.admits key then
      match (Field.set { kind := kind } key part).2 with
      | some (.complaint c) =>
        [.severe s!"Invalid {key.text}: {c.message}" s!"Fix the {key.text} value"]
      | _ => []
    else [meaningless key kind]

theorem set_issues (f : Field) (key : Key) (part : Part) :
    (f.set key part).1.issues = f.issues := by
  cases part with
  | value n =>
    have hsame := setValue_sameBut f key n
    rw [set, hsame.attributes, Attributes.adopt_issues]
  | members fields => exact take_cases (P := fun g => g.issues = f.issues) rfl fun _ _ => rfl
  | item field => exact take_cases (P := fun g => g.issues = f.issues) rfl fun _ _ => rfl

/-- What a field is made of, as far as its size and its fields within go. -/
def frame (f : Field) : Kind × Option String × List Field × Option Field :=
  (f.kind, f.size, f.members, f.itemType)

theorem read_issues (h : f.read text part = .ok g) :
    g.issues = f.issues ++ finding f.kind text part := by
  rw [Field.read] at h
  split at h
  · next hkey =>
    cases h
    rw [finding, hkey]
    rfl
  · next hkey =>
    cases h
    rw [finding, hkey]
    rfl
  · next key hne hkey =>
    have hissues := f.set_issues key part
    have hobstacle : (Field.set { kind := f.kind } key part).2 = (f.set key part).2 :=
      set_obstacle_eq rfl
    rw [finding, hkey]
    split at h
    · next huse =>
      simp only [huse, if_true, hobstacle]
      split at h
      · next heq =>
        cases h
        rw [heq] at hissues ⊢
        simpa using hissues
      · next heq =>
        cases h
        rw [heq] at hissues ⊢
        exact congrArg (· ++ _) hissues
      · cases h
    · next huse =>
      cases h
      simp only [huse]
      rfl

/-- A pair is taken under its key, or left. -/
theorem read_frame (h : f.read text part = .ok g) :
    (∃ key, Key.ofText? text = some key ∧ f.kind.admits key = true ∧
        g.frame = (f.set key part).1.frame) ∨
      (∀ key, Key.ofText? text = some key → f.kind.admits key = false) ∧ g.frame = f.frame := by
  rw [Field.read] at h
  split at h
  · next hkey =>
    cases h
    refine .inr ⟨?_, rfl⟩
    intro key hfound
    cases hkey.symm.trans hfound
  · next hkey =>
    cases h
    refine .inr ⟨?_, rfl⟩
    intro key hfound
    cases hkey.symm.trans hfound
    cases f.kind <;> rfl
  · next key hne hkey =>
    split at h
    · next huse =>
      refine .inl ⟨key, hkey, huse, ?_⟩
      split at h
      · next heq =>
        cases h
        rw [heq]
      · next heq =>
        cases h
        rw [heq]
        rfl
      · cases h
    · next huse =>
      cases h
      refine .inr ⟨?_, rfl⟩
      intro other hother
      cases hkey.symm.trans hother
      simpa using huse

end

/-! ### What is taken -/

theorem partOf_value [Host] (hkey : Key.ofText? text = some key) (hentries : key ≠ .entries)
    (hitem : key ≠ .itemType) : partOf text n = .value n := by
  rw [partOf, hkey]
  cases key <;> first | rfl | exact absurd rfl hentries | exact absurd rfl hitem

theorem partOf_entries [Host] : partOf Key.entries.text n = .members (membersOf n) := rfl

theorem partOf_itemType [Host] : partOf Key.itemType.text n = .item (ofNode n) := rfl

/-- A key without fields within changes nothing of these, and of the size only if it is that. -/
theorem set_frame_value [Host] (hkey : Key.ofText? text = some key) (hentries : key ≠ .entries)
    (hitem : key ≠ .itemType) (hsize : key ≠ .size) :
    (f.set key (partOf text n)).1.frame = f.frame := by
  have hsame := setValue_sameBut f key n
  rw [partOf_value hkey hentries hitem, set]
  have hstated : (f.setValue key n).1.size = f.size := by
    rw [hsame.attributes, Attributes.adopt_size hsize]
  rw [frame, frame, hsame.kind, hstated, hsame.members, hsame.itemType]

theorem take_fst {α : Type} {reading : Reading α} {set : α → Field} :
    (f.take reading set).1 = (reading.toOption.map set).getD f := by
  cases reading <;> rfl

theorem set_frame_size [Host] : (f.set .size (.value n)).1.frame =
    (f.kind, (Reading.size n).toOption.or f.size, f.members, f.itemType) := by
  rw [set, setValue, take_fst]
  cases (Reading.size n).toOption <;> rfl

theorem set_frame_entries [Host] : (f.set .entries (.members (membersOf n))).1.frame =
    (f.kind, f.size, (membersOf n).toOption.getD f.members, f.itemType) := by
  rw [set, take_fst]
  cases (membersOf n).toOption <;> rfl

theorem set_frame_itemType [Host] : (f.set .itemType (.item (ofNode n))).1.frame =
    (f.kind, f.size, f.members, ((ofNode n).toOption.map checkItem).or f.itemType) := by
  rw [set, take_fst, Reading.toOption_ofConstruction]
  cases (ofNode n).toOption <;> rfl

/-! ### Key by key -/

/-- The size that stands under its key, if it can be read. -/
def statedSize [Host] (nodes : Keyed String Node) : Option String :=
  (Keyed.get? Key.size.text nodes).bind fun n => (Reading.size n).toOption

/-- The members that stand under their key, if they can all be read. -/
def statedMembers [Host] (kind : Kind) (nodes : Keyed String Node) : List Field :=
  if kind = .struct then
    ((Keyed.get? Key.entries.text nodes).bind fun n => (membersOf n).toOption).getD []
  else []

/-- The item type that stands under its key, if it can be read. -/
def statedItem [Host] (kind : Kind) (nodes : Keyed String Node) : Option Field :=
  if kind = .array then
    (Keyed.get? Key.itemType.text nodes).bind fun n => (ofNode n).toOption.map checkItem
  else none

section Stated

variable {done : Keyed String Node}
variable [Host]

theorem statedSize_snoc (h : text ∉ done.map Prod.fst) : statedSize (done ++ [(text, n)]) =
    if text = Key.size.text then (Reading.size n).toOption else statedSize done := by
  rw [statedSize, Keyed.get?_snoc h]
  split <;> rfl

theorem statedMembers_snoc (h : text ∉ done.map Prod.fst) :
    statedMembers kind (done ++ [(text, n)]) =
      if text = Key.entries.text ∧ kind = .struct then (membersOf n).toOption.getD []
      else statedMembers kind done := by
  rw [statedMembers, statedMembers, Keyed.get?_snoc h]
  by_cases hkind : kind = .struct
  · by_cases htext : text = Key.entries.text
    · simp [hkind, htext]
    · simp [hkind, htext]
  · simp [hkind]

theorem statedItem_snoc (h : text ∉ done.map Prod.fst) :
    statedItem kind (done ++ [(text, n)]) =
      if text = Key.itemType.text ∧ kind = .array then (ofNode n).toOption.map checkItem
      else statedItem kind done := by
  rw [statedItem, statedItem, Keyed.get?_snoc h]
  by_cases hkind : kind = .array
  · by_cases htext : text = Key.itemType.text
    · simp [hkind, htext]
    · simp [hkind, htext]
  · simp [hkind]

theorem statedSize_new (h : Key.size.text ∉ done.map Prod.fst) : statedSize done = none := by
  rw [statedSize, Keyed.get?_eq_none_iff.mpr h, Option.bind_none]

theorem statedMembers_new (h : Key.entries.text ∉ done.map Prod.fst) :
    statedMembers kind done = [] := by
  rw [statedMembers, Keyed.get?_eq_none_iff.mpr h, Option.bind_none, Option.getD_none, ite_self]

theorem statedItem_new (h : Key.itemType.text ∉ done.map Prod.fst) :
    statedItem kind done = none := by
  rw [statedItem, Keyed.get?_eq_none_iff.mpr h, Option.bind_none, ite_self]

end Stated

/-- A field of a kind on the way: some keys of its description were read, with what was found wrong
with them behind what was said at the start. -/
structure Drawn [Host] (kind : Kind) (start : List Issue) (done : Keyed String Node) (f : Field) :
    Prop where
  issues : f.issues = start ++ done.flatMap fun p => finding kind p.1 (partOf p.1 p.2)
  frame : f.frame = (kind, statedSize done, statedMembers kind done, statedItem kind done)

section Drawn

variable {start : List Issue} {done todo : Keyed String Node}
variable [Host]

theorem Drawn.kind_eq (h : Drawn kind start done f) : f.kind = kind :=
  congrArg (fun s => s.1) h.frame

theorem Drawn.size_eq (h : Drawn kind start done f) : f.size = statedSize done :=
  congrArg (fun s => s.2.1) h.frame

theorem Drawn.members_eq (h : Drawn kind start done f) : f.members = statedMembers kind done :=
  congrArg (fun s => s.2.2.1) h.frame

theorem Drawn.item_eq (h : Drawn kind start done f) : f.itemType = statedItem kind done :=
  congrArg (fun s => s.2.2.2) h.frame

theorem drawn_new (kind : Kind) (start : List Issue) :
    Drawn kind start [] { kind := kind, issues := start } where
  issues := (List.append_nil start).symm
  frame := by simp [Field.frame, statedSize, statedMembers, statedItem, Keyed.get?]

/-- Every key adds its own finding, and the frame takes what stands under its three keys. -/
theorem Drawn.read (h : Drawn kind start done f) (hnew : text ∉ done.map Prod.fst)
    (hread : f.read text (partOf text n) = .ok g) :
    Drawn kind start (done ++ [(text, n)]) g := by
  constructor
  · rw [read_issues hread, h.issues, h.kind_eq]
    simp
  · rw [statedSize_snoc hnew, statedMembers_snoc hnew, statedItem_snoc hnew]
    have hkind := h.kind_eq
    have hsize := h.size_eq
    have hmembers := h.members_eq
    have hitem := h.item_eq
    rcases read_frame hread with ⟨key, hkey, huse, hframe⟩ | ⟨hleft, hframe⟩
    · obtain rfl := Key.text_of_ofText? hkey
      rw [hkind] at huse
      rw [hframe]
      cases key with
      | size =>
        rw [partOf_value hkey (by decide) (by decide), set_frame_size, hsize, statedSize_new hnew,
          hkind, hmembers, hitem]
        simp [Key.text]
      | entries =>
        rw [partOf_entries, set_frame_entries, hmembers, statedMembers_new hnew, hkind, hsize,
          hitem]
        simp [Key.text, kind_of_admits_entries huse]
      | itemType =>
        rw [partOf_itemType, set_frame_itemType, hitem, statedItem_new hnew, hkind, hsize,
          hmembers]
        simp [Key.text, kind_of_admits_itemType huse]
      | _ =>
        rw [set_frame_value hkey (by decide) (by decide) (by decide), h.frame]
        simp [Key.text]
    · have hnosize : text ≠ Key.size.text := by
        rintro rfl
        have hadmitted := hleft .size rfl
        cases hadmitted
      have hnomembers : ¬ (text = Key.entries.text ∧ kind = .struct) := by
        rintro ⟨rfl, rfl⟩
        have hadmitted := hleft .entries rfl
        rw [hkind] at hadmitted
        cases hadmitted
      have hnoitem : ¬ (text = Key.itemType.text ∧ kind = .array) := by
        rintro ⟨rfl, rfl⟩
        have hadmitted := hleft .itemType rfl
        rw [hkind] at hadmitted
        cases hadmitted
      rw [hframe, h.frame, if_neg hnosize, if_neg hnomembers, if_neg hnoitem]

theorem Drawn.readAll (h : Drawn kind start done f) (hdistinct : Keyed.Distinct (done ++ todo))
    (hread : f.readAll (todo.map fun p => (p.1, partOf p.1 p.2)) = .ok g) :
    Drawn kind start (done ++ todo) g := by
  induction todo generalizing done f with
  | nil =>
    cases hread
    rw [List.append_nil]
    exact h
  | cons p rest ih =>
    obtain ⟨f', hf', hrest⟩ := bind_eq_ok_iff.mp hread
    have hnew : p.1 ∉ done.map Prod.fst := hdistinct.new
    rw [List.append_cons] at hdistinct ⊢
    exact ih (h.read hnew hf') hdistinct hrest

end Drawn

end Field

/-- The keys of a description that is read are all drawn. -/
theorem Field.drawn_of_readAll [Host] {n : Node} {kind : Kind} {nodes : Keyed String Node}
    {issues : List Issue} {f : Field} (hn : Description.ofNode n = .ofKind kind nodes issues)
    (h : Field.readAll { kind := kind, issues := issues }
      (nodes.map fun p => (p.1, partOf p.1 p.2)) = .ok f) : Drawn kind issues nodes f := by
  have hdistinct : Keyed.Distinct ([] ++ nodes) := Description.distinct_nodes hn
  exact (drawn_new kind issues).readAll hdistinct h

/-- A field of a known kind was drawn from its description, and then looked at as a whole. -/
theorem Field.drawn_of_ofNode [Host] {n : Node} {kind : Kind} {nodes : Keyed String Node}
    {issues : List Issue} {g : Field} (hn : Description.ofNode n = .ofKind kind nodes issues)
    (h : ofNode n = .ok g) : ∃ f, Drawn kind issues nodes f ∧ f.check = .ok g := by
  rw [ofNode_eq, hn] at h
  obtain ⟨f, hf, hg⟩ := bind_eq_ok_iff.mp h
  exact ⟨f, drawn_of_readAll hn hf, hg⟩

end GameAtlas.Schema
