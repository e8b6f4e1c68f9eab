import GameAtlas.Proofs.Schema.Findings

/-!
The rules of descriptions, and that whatever breaks one is recorded: a field that is read has, in
itself or in a field within, the issue of every rule that its node breaks.
-/

namespace GameAtlas.Schema

open Yaml (Node)

/-- The nodes that describe the members of a struct. -/
def Description.memberNodes : Node → List Node
  | .scalar .. => []
  | .sequence _ items _ _ => items
  | .mapping _ pairs _ _ => pairs.map Prod.snd

/-- A node describes a struct, and these are the members as they are read, before they are compared
with each other. -/
def HasMembers [Host] (n : Node) (v : Node) (members : List Field) : Prop :=
  ∃ nodes issues, Description.ofNode n = .ofKind .struct nodes issues ∧
    Keyed.get? Key.entries.text nodes = some v ∧ Field.membersOf v = .ok members

/-- A node describes an array, and this is the item type as it is read. -/
def HasItem [Host] (n : Node) (v : Node) (item : Field) : Prop :=
  ∃ nodes issues, Description.ofNode n = .ofKind .array nodes issues ∧
    Keyed.get? Key.itemType.text nodes = some v ∧ Field.ofNode v = .ok item

/-- A node describes a pointer of a size. -/
def HasPointerSize [Host] (n : Node) (size : String) : Prop :=
  ∃ nodes issues, Description.ofNode n = .ofKind .pointer nodes issues ∧
    Field.statedSize nodes = some size

/-- The description in a node breaks a rule, which an issue says. -/
inductive Breaks [Host] : Node → Issue → Prop where
  /-- The kind is not known, or there is nothing to read. -/
  | unusable {n : Node} {i : Issue} : Description.ofNode n = .unusable i → Breaks n i
  /-- A key is not spelled as it should be or stands twice, or the kind is named in the older
  way. -/
  | spelling {n : Node} {i : Issue} {kind : Kind} {nodes : Keyed String Node}
      {issues : List Issue} :
      Description.ofNode n = .ofKind kind nodes issues → i ∈ issues → Breaks n i
  /-- A key is unknown, redundant or without meaning for the kind, or its value does not fit. -/
  | key {n v : Node} {i : Issue} {kind : Kind} {nodes : Keyed String Node} {issues : List Issue}
      {text : String} :
      Description.ofNode n = .ofKind kind nodes issues → (text, v) ∈ nodes →
      i ∈ Field.finding kind text (Field.partOf text v) → Breaks n i
  /-- An array does not say what it repeats. -/
  | noItem {n : Node} {nodes : Keyed String Node} {issues : List Issue} :
      Description.ofNode n = .ofKind .array nodes issues → (∀ v item, ¬ HasItem n v item) →
      Breaks n (.incomplete "Array has no item type"
        "Add an Item Type; one-byte elements assumed")
  /-- What an array repeats has a place of its own. -/
  | itemOffset {n v : Node} {item : Field} :
      HasItem n v item → item.address.isSome →
      Breaks n (.severe "Array item type has an offset"
        "Remove Offset; elements are positioned by the array")
  /-- The size of a pointer cannot be found. -/
  | pointerUnresolved {n : Node} {size : String} {e : SizeError} :
      HasPointerSize n size → sizeOf size [] = .error e → e.bare? = none →
      Breaks n (.severe s!"Unable to resolve pointer size: {e.message}" "Fix the Size")
  /-- A pointer is too large. -/
  | pointerTooLarge {n : Node} {size : String} {bytes : Nat} :
      HasPointerSize n size → sizeOf size [] = .ok bytes → Field.maxPointerSize < bytes →
      Breaks n (.severe s!"Pointer size {bytes} exceeds {Field.maxPointerSize} bytes"
        "Use an integer or array for larger data")
  /-- A member has a place of its own. -/
  | memberOffset {n v : Node} {before after : List Field} {m : Field} :
      HasMembers n v (before ++ m :: after) → m.address.isSome →
      Breaks n (.severe s!"Nested entry '{m.name}' has an offset"
        "Remove Offset; members are positioned by the struct")
  /-- A member has no name. -/
  | memberUnnamed {n v : Node} {before after : List Field} {m : Field} :
      HasMembers n v (before ++ m :: after) → m.name = "" →
      Breaks n (.incomplete "Struct member has no name" "Add a Name")
  /-- A member is called like one before it. -/
  | memberRepeated {n v : Node} {before after : List Field} {m other : Field} :
      HasMembers n v (before ++ m :: after) → m.name ≠ "" → other ∈ before →
      other.name = m.name →
      Breaks n (.severe s!"Duplicate entry name '{m.name}'" "Rename one of the entries")
  /-- The name of a member is not in capitals. -/
  | memberStyle {n v : Node} {before after : List Field} {m : Field} :
      HasMembers n v (before ++ m :: after) → m.name ≠ "" →
      Field.isCanonicalName m.name = false →
      Breaks n (.incomplete s!"Entry name '{m.name}' is not uppercase"
        "Use an uppercase name and move the display name to Pretty Name")
  /-- The description of what an array repeats breaks a rule. -/
  | item {n v : Node} {i : Issue} {item : Field} :
      HasItem n v item → Breaks v i → Breaks n i
  /-- The description of a member breaks a rule. -/
  | member {n v x : Node} {i : Issue} {members : List Field} :
      HasMembers n v members → x ∈ Description.memberNodes v → Breaks x i → Breaks n i

namespace Field

variable {f g m : Field} {i : Issue} {n v x : Node} {members : List Field}

/-! ### All issues of a field -/

theorem walkAll_eq (fs : List Field) : walkAll fs = fs.flatMap walk := by
  induction fs with
  | nil => rfl
  | cons f rest ih => rw [walkAll, ih, List.flatMap_cons]

/-- The issues of a field itself come first, then those of what lies right below, in order. -/
theorem problems_eq (f : Field) : f.problems = f.issues ++ f.children.flatMap problems := by
  obtain ⟨a, members, itemType⟩ := f
  have hwalk : walk ⟨a, members, itemType⟩ =
      ⟨a, members, itemType⟩ :: (children ⟨a, members, itemType⟩).flatMap walk := by
    rw [walk, children, walkAll_eq]
    split
    · cases itemType with
      | none => rfl
      | some i => rw [walkItem, Option.toList_some, List.flatMap_singleton]
    · rfl
  rw [problems, hwalk, List.flatMap_cons, List.flatMap_assoc]
  rfl

theorem mem_problems_iff : i ∈ f.problems ↔ i ∈ f.issues ∨ ∃ m ∈ f.children, i ∈ m.problems := by
  rw [problems_eq, List.mem_append, List.mem_flatMap]

theorem mem_problems_of_mem (h : i ∈ f.issues) : i ∈ f.problems :=
  mem_problems_iff.mpr (.inl h)

/-- More is said of a field that is relabelled, and nothing less. -/
theorem mem_problems_relabel {name : String} {issues : List Issue}
    (hissues : ∀ j ∈ f.issues, j ∈ issues) (h : i ∈ f.problems) :
    i ∈ Field.problems { f with name := name, issues := issues } := by
  refine mem_problems_iff.mpr ?_
  rcases mem_problems_iff.mp h with hown | hwithin
  · exact .inl (hissues i hown)
  · exact .inr hwithin

theorem mem_problems_addIssue (j : Issue) (h : i ∈ f.problems) : i ∈ (f.addIssue j).problems :=
  mem_problems_relabel (fun _ => List.mem_append_left _) h

/-! ### Members -/

theorem namedMembers_eq [Host] (pairs : List (Node × Node)) : namedMembers pairs =
    pairs.mapM fun p => named p.1.keyText <$> ofNode p.2 := by
  induction pairs with
  | nil => rfl
  | cons p rest ih =>
    rw [namedMembers, ih, List.mapM_cons]
    cases ofNode p.2 <;> rfl

theorem plainMembers_eq [Host] (items : List Node) : plainMembers items = items.mapM ofNode := by
  induction items with
  | nil => rfl
  | cons n rest ih =>
    rw [plainMembers, ih, List.mapM_cons]

theorem ofConstruction_fault {α : Type} {c : Construction α} {fault : Yaml.ConversionFault}
    (h : Reading.ofConstruction c = .error (.fault fault)) : c = .error (.conversion fault) := by
  cases c with
  | ok a => cases h
  | error f =>
    cases f with
    | conversion f =>
      cases f with
      | misfit m => cases h
      | _ =>
        cases h
        rfl
    | bare c => cases h

/-- Every member node gives a member, under the name that the struct has for it or its own. -/
theorem member_of_memberNode [Host] (h : membersOf v = .ok members)
    (hx : x ∈ Description.memberNodes v) :
    ∃ f, ofNode x = .ok f ∧ ∃ name, f.named name ∈ members := by
  cases v with
  | scalar => cases hx
  | sequence tag items flow share =>
    rw [membersOf] at h
    have hitems := ofConstruction_eq_ok h
    rw [plainMembers_eq] at hitems
    obtain ⟨f, hf, hread⟩ := exists_result_of_mapM_ok hitems hx
    have hnamed : f.named f.name = f := by
      cases f
      rfl
    refine ⟨f, hread, f.name, ?_⟩
    rw [hnamed]
    exact hf
  | mapping tag pairs flow share =>
    rw [membersOf] at h
    have hpairs := ofConstruction_eq_ok h
    rw [namedMembers_eq] at hpairs
    obtain ⟨p, hp, rfl⟩ := List.mem_map.mp hx
    obtain ⟨m, hm, hread⟩ := exists_result_of_mapM_ok hpairs hp
    obtain ⟨f, hf, rfl⟩ := map_eq_ok_iff.mp hread
    exact ⟨f, hf, p.1.keyText, hm⟩

theorem memberNode_of_member [Host] (h : membersOf v = .ok members) (hm : m ∈ members) :
    ∃ x ∈ Description.memberNodes v, ∃ f, ofNode x = .ok f ∧ ∃ name, m = f.named name := by
  cases v with
  | scalar => cases h
  | sequence tag items flow share =>
    rw [membersOf] at h
    have hitems := ofConstruction_eq_ok h
    rw [plainMembers_eq] at hitems
    obtain ⟨x, hx, hread⟩ := exists_source_of_mapM_ok hitems hm
    refine ⟨x, hx, m, hread, m.name, ?_⟩
    cases m
    rfl
  | mapping tag pairs flow share =>
    rw [membersOf] at h
    have hpairs := ofConstruction_eq_ok h
    rw [namedMembers_eq] at hpairs
    obtain ⟨p, hp, hread⟩ := exists_source_of_mapM_ok hpairs hm
    obtain ⟨f, hf, rfl⟩ := map_eq_ok_iff.mp hread
    exact ⟨p.2, List.mem_map_of_mem hp, f, hf, p.1.keyText, rfl⟩

theorem memberNode_of_fault [Host] {fault : Yaml.ConversionFault}
    (h : membersOf v = .error (.fault fault)) :
    ∃ x ∈ Description.memberNodes v, ofNode x = .error (.conversion fault) := by
  cases v with
  | scalar => cases h
  | sequence tag items flow share =>
    rw [membersOf] at h
    have hitems := ofConstruction_fault h
    rw [plainMembers_eq] at hitems
    exact exists_of_mapM_error hitems
  | mapping tag pairs flow share =>
    rw [membersOf] at h
    have hpairs := ofConstruction_fault h
    rw [namedMembers_eq] at hpairs
    obtain ⟨p, hp, hread⟩ := exists_of_mapM_error hpairs
    exact ⟨p.2, List.mem_map_of_mem hp, map_eq_error_iff.mp hread⟩

theorem contains_memberNode (h : x ∈ Description.memberNodes v) : v.Contains x := by
  cases v with
  | scalar => cases h
  | sequence => exact Node.contains_child h
  | mapping =>
    obtain ⟨p, hp, rfl⟩ := List.mem_map.mp h
    exact Node.contains_value hp

/-- Members keep their issues when they are compared, and the comparison adds its own. -/
theorem mem_checkMembers (seen : List String) (before after : List Field) (m : Field) :
    { m with issues := m.issues ++ memberIssues ((before.map fun b => b.name).reverse ++ seen) m } ∈
      checkMembers seen (before ++ m :: after) := by
  induction before generalizing seen with
  | nil => exact List.mem_cons_self
  | cons b rest ih =>
    have hrest := ih (b.name :: seen)
    rw [List.cons_append, checkMembers]
    refine List.mem_cons_of_mem _ ?_
    simpa using hrest

/-! ### Whole fields -/

variable [Host]

/-- The last look at a field leaves its kind and its size, and takes back no issue. -/
theorem check_keeps (h : f.check = .ok g) :
    g.kind = f.kind ∧ g.size = f.size ∧ ∀ i ∈ f.issues, i ∈ g.issues := by
  have hadded (issues : List Issue) : ∀ i ∈ f.issues, i ∈ f.issues ++ issues :=
    fun _ => List.mem_append_left issues
  rw [Field.check] at h
  split at h
  · cases h
    exact ⟨rfl, rfl, fun _ => id⟩
  · split at h
    · cases h
      exact ⟨rfl, rfl, fun _ => id⟩
    · cases h
      exact ⟨rfl, rfl, hadded _⟩
  · obtain ⟨issues, _, h⟩ := bind_eq_ok_iff.mp h
    cases h
    exact ⟨rfl, rfl, hadded _⟩
  · cases h
    exact ⟨rfl, rfl, fun _ => id⟩

theorem members_of_struct (hmembers : HasMembers n v members) (h : ofNode n = .ok g) :
    g.kind = .struct ∧ g.members = checkMembers [] members := by
  obtain ⟨nodes, issues, hn, hv, hread⟩ := hmembers
  obtain ⟨f, hf, hcheck⟩ := drawn_of_ofNode hn h
  have hstated : f.members = members := by
    rw [hf.members_eq, statedMembers, if_pos rfl, hv, Option.bind_some, hread]
    rfl
  rw [Field.check, hf.kind_eq] at hcheck
  cases hcheck
  exact ⟨hf.kind_eq, congrArg (checkMembers []) hstated⟩

theorem item_of_array {item : Field} (hitem : HasItem n v item) (h : ofNode n = .ok g) :
    g.kind = .array ∧ g.itemType = some (checkItem item) := by
  obtain ⟨nodes, issues, hn, hv, hread⟩ := hitem
  obtain ⟨f, hf, hcheck⟩ := drawn_of_ofNode hn h
  have hstated : f.itemType = some (checkItem item) := by
    rw [hf.item_eq, statedItem, if_pos rfl, hv, Option.bind_some, hread]
    rfl
  simp only [Field.check, hf.kind_eq, hstated, Option.isSome_some, if_true] at hcheck
  cases hcheck
  exact ⟨hf.kind_eq, hstated⟩

/-- A member that was read is one of the fields within, with all that is said of it. -/
theorem mem_problems_of_member {before after : List Field}
    (hmembers : HasMembers n v (before ++ m :: after)) (h : ofNode n = .ok g)
    (hi : i ∈ m.problems ∨ i ∈ memberIssues (before.map fun b => b.name).reverse m) :
    i ∈ g.problems := by
  obtain ⟨hkind, hall⟩ := members_of_struct hmembers h
  have hmem := mem_checkMembers [] before after m
  rw [List.append_nil, ← hall] at hmem
  have hchildren : g.children = g.members := by
    rw [children, if_neg (by rw [hkind]; decide)]
  rw [← hchildren] at hmem
  refine mem_problems_iff.mpr (.inr ⟨_, hmem, ?_⟩)
  rcases hi with hi | hi
  · exact mem_problems_relabel (fun _ => List.mem_append_left _) hi
  · exact mem_problems_of_mem (List.mem_append_right _ hi)

theorem mem_problems_of_item {item : Field} (hitem : HasItem n v item) (h : ofNode n = .ok g)
    (hi : i ∈ (checkItem item).problems) : i ∈ g.problems := by
  obtain ⟨hkind, hsome⟩ := item_of_array hitem h
  refine mem_problems_iff.mpr (.inr ⟨checkItem item, ?_, hi⟩)
  rw [children, if_pos hkind, hsome]
  exact List.mem_singleton_self _

/-- The size of a pointer is looked at when its keys are read. -/
theorem pointerIssues_of_ofNode {size : String} (hsize : HasPointerSize n size)
    (h : ofNode n = .ok g) :
    ∃ f : Field, f.size = some size ∧ f.resolvedSize [] = sizeOf size [] ∧
      ∃ issues, f.pointerIssues = .ok issues ∧ ∀ i ∈ issues, i ∈ g.issues := by
  obtain ⟨nodes, issues, hn, hstated⟩ := hsize
  obtain ⟨f, hf, hcheck⟩ := drawn_of_ofNode hn h
  have hown : f.size = some size := hf.size_eq.trans hstated
  refine ⟨f, hown, ?_, ?_⟩
  · obtain ⟨v, _, hread⟩ := Option.bind_eq_some_iff.mp hstated
    have hblank : Text.trim size ≠ "" := Reading.size_not_blank (toOption_eq_some hread)
    rw [Attributes.resolvedSize, hown]
    exact if_neg hblank
  · rw [Field.check, hf.kind_eq] at hcheck
    obtain ⟨found, hfound, hcheck⟩ := bind_eq_ok_iff.mp hcheck
    cases hcheck
    exact ⟨found, hfound, fun i hi => List.mem_append_right _ hi⟩

theorem mem_problems_of_pointer {size : String} (hsize : HasPointerSize n size)
    (h : ofNode n = .ok g)
    (hi : ∀ (f : Field) (issues : List Issue), f.size = some size →
      f.resolvedSize [] = sizeOf size [] → f.pointerIssues = .ok issues → i ∈ issues) :
    i ∈ g.problems := by
  obtain ⟨f, hown, hresolved, issues, hissues, hkept⟩ := pointerIssues_of_ofNode hsize h
  exact mem_problems_of_mem (hkept i (hi f issues hown hresolved hissues))

/-- What is found in the spellings of a description and under its keys is kept. -/
theorem mem_problems_of_found {kind : Kind} {nodes : Keyed String Node} {issues : List Issue}
    (hn : Description.ofNode n = .ofKind kind nodes issues) (h : ofNode n = .ok g)
    (hi : i ∈ issues ++ nodes.flatMap fun p => finding kind p.1 (partOf p.1 p.2)) :
    i ∈ g.problems := by
  obtain ⟨f, hdrawn, hcheck⟩ := drawn_of_ofNode hn h
  refine mem_problems_of_mem ((check_keeps hcheck).2.2 _ ?_)
  rw [hdrawn.issues]
  exact hi

end Field

/-- Whatever breaks a rule is recorded in the field that is read, or in a field within. -/
theorem Breaks.recorded [Host] {n : Node} {i : Issue} (h : Breaks n i) :
    ∀ f, Field.ofNode n = .ok f → i ∈ f.problems := by
  induction h with
  | unusable hn =>
    intro f hf
    rw [Field.ofNode_eq, hn] at hf
    cases hf
    exact Field.mem_problems_of_mem (List.mem_singleton_self _)
  | spelling hn hi =>
    intro f hf
    exact Field.mem_problems_of_found hn hf (List.mem_append_left _ hi)
  | key hn hmem hi =>
    intro f hf
    refine Field.mem_problems_of_found hn hf (List.mem_append_right _ ?_)
    exact List.mem_flatMap.mpr ⟨_, hmem, hi⟩
  | noItem hn hnone =>
    intro f hf
    obtain ⟨f', hdrawn, hcheck⟩ := Field.drawn_of_ofNode hn hf
    have hitem : f'.itemType = none := by
      rw [hdrawn.item_eq, Field.statedItem, if_pos rfl]
      refine Option.eq_none_iff_forall_ne_some.mpr fun item hitem => ?_
      obtain ⟨v, hv, hread⟩ := Option.bind_eq_some_iff.mp hitem
      obtain ⟨found, hfound, _⟩ := Option.map_eq_some_iff.mp hread
      exact hnone v found ⟨_, _, hn, hv, toOption_eq_some hfound⟩
    simp only [Field.check, hdrawn.kind_eq, hitem, Option.isSome_none, Bool.false_eq_true,
      if_false] at hcheck
    cases hcheck
    exact Field.mem_problems_of_mem (List.mem_append_right _ (List.mem_singleton_self _))
  | itemOffset hitem haddress =>
    intro f hf
    refine Field.mem_problems_of_item hitem hf (Field.mem_problems_of_mem ?_)
    rw [Field.checkItem, if_pos haddress]
    exact List.mem_append_right _ (List.mem_singleton_self _)
  | pointerUnresolved hsize he hname =>
    intro f hf
    refine Field.mem_problems_of_pointer hsize hf fun p issues hown hresolved hissues => ?_
    rw [Field.pointerIssues, hown, hresolved, he] at hissues
    simp only [Option.isNone_some, Bool.false_eq_true, if_false, hname] at hissues
    cases hissues
    exact List.mem_singleton_self _
  | pointerTooLarge hsize hbytes hlarge =>
    intro f hf
    refine Field.mem_problems_of_pointer hsize hf fun p issues hown hresolved hissues => ?_
    rw [Field.pointerIssues, hown, hresolved, hbytes] at hissues
    simp only [Option.isNone_some, Bool.false_eq_true, if_false, hlarge, if_true] at hissues
    split at hissues
    · cases hissues
    · cases hissues
      exact List.mem_singleton_self _
  | memberOffset hmembers haddress =>
    intro f hf
    refine Field.mem_problems_of_member hmembers hf (.inr ?_)
    simp [Field.memberIssues, haddress]
  | memberUnnamed hmembers hname =>
    intro f hf
    refine Field.mem_problems_of_member hmembers hf (.inr ?_)
    simp [Field.memberIssues, hname]
  | @memberRepeated n v before after m other hmembers hname hother hsame =>
    intro f hf
    refine Field.mem_problems_of_member hmembers hf (.inr ?_)
    have hseen : ∃ b ∈ before, b.name = m.name := ⟨other, hother, hsame⟩
    simp [Field.memberIssues, hname, hseen]
  | memberStyle hmembers hname hstyle =>
    intro f hf
    refine Field.mem_problems_of_member hmembers hf (.inr ?_)
    simp [Field.memberIssues, hname, hstyle]
  | item hitem _ ih =>
    intro f hf
    obtain ⟨_, _, _, _, hread⟩ := id hitem
    refine Field.mem_problems_of_item hitem hf ?_
    rw [Field.checkItem]
    split
    · exact Field.mem_problems_addIssue _ (ih _ hread)
    · exact ih _ hread
  | member hmembers hx _ ih =>
    intro f hf
    obtain ⟨_, _, _, _, hread⟩ := id hmembers
    obtain ⟨m, hm, name, hmem⟩ := Field.member_of_memberNode hread hx
    obtain ⟨before, after, rfl⟩ := List.append_of_mem hmem
    exact Field.mem_problems_of_member hmembers hf
      (.inl (Field.mem_problems_relabel (fun _ => id) (ih m hm)))

end GameAtlas.Schema
