import Mathlib.Tactic
import GameAtlas.Proofs.Schema.Wording

/-!
Issues of games that are written and loaded again. What is wrong with the spelling of an entry, or
cannot be used there, is not written; what is found wrong with the fields that were read is found
once more, in the same order. When the game is written a second time, its nodes are the same.
-/

namespace GameAtlas.Schema

open Yaml (Node)
namespace Field

variable {f g m : Field} {n : Node} {kind : Kind} {nodes : Keyed String Node}
  {issues own : List Issue}

/-! ### Checks of fields that are read back -/

section

variable [Host]

theorem rechecked_struct (h : f.kind = .struct) :
    f.rechecked = { f with members := checkMembers [] f.members } :=
  rechecked_of_check (by rw [check, h])

theorem rechecked_array (h : f.kind = .array) (hitem : f.itemType.isSome) : f.rechecked = f :=
  rechecked_of_check (by simp only [check, h, hitem, if_true])

theorem rechecked_pointer (h : f.kind = .pointer) (hissues : f.pointerIssues = .ok issues) :
    f.rechecked = { f with issues := f.issues ++ issues } := by
  refine rechecked_of_check ?_
  rw [check, h]
  exact bind_eq_ok_iff.mpr ⟨issues, hissues, rfl⟩

theorem rechecked_other (hstruct : f.kind ≠ .struct) (harray : f.kind ≠ .array)
    (hpointer : f.kind ≠ .pointer) : f.rechecked = f := by
  refine rechecked_of_check ?_
  rw [check.eq_def]
  split
  · exact absurd ‹_› hstruct
  · exact absurd ‹_› harray
  · exact absurd ‹_› hpointer
  · rfl

/-- Issues are not written. -/
theorem reread_issues (withName : Bool) (f : Field) (issues : List Issue) :
    reread withName { f with issues := issues } = reread withName f := by
  obtain ⟨a, members, itemType⟩ := f
  rw [reread, reread]
  rfl

theorem reread_named (f : Field) (name : String) :
    reread true (f.named name) = (reread true f).named name := by
  obtain ⟨a, members, itemType⟩ := f
  rw [named, reread, reread, ← rechecked_named]
  rfl

theorem reread_relabel (f : Field) (name : String) (issues : List Issue) :
    reread true { f with name := name, issues := issues } = (reread true f).named name :=
  (reread_issues true (f.named name) issues).trans (reread_named f name)

theorem rereadAll_checkMembers (seen : List String) (members : List Field) :
    rereadAll (checkMembers seen members) = rereadAll members := by
  induction members generalizing seen with
  | nil => rfl
  | cons m rest ih => rw [checkMembers, rereadAll, rereadAll, reread_issues, ih]

theorem reread_checkItem (f : Field) : reread true (checkItem f) = reread true f := by
  rw [checkItem]
  split
  · exact reread_issues true f _
  · rfl

end

theorem content_outline (size : String → String) (f : Field) : (content size f).kind = f.kind ∧
    (content size f).name = f.name ∧ (content size f).address = f.address ∧
      (content size f).size.isNone = f.size.isNone := by
  obtain ⟨a, members, itemType⟩ := f
  rw [content]
  exact ⟨rfl, rfl, rfl, Option.isNone_map⟩

/-- What the checks of a struct, an array and a document look at is as it was. -/
theorem reread_outline [Host] (hf : f.Sound) : (reread true f).kind = f.kind ∧
    (reread true f).name = f.name ∧ (reread true f).address = f.address ∧
      (reread true f).size.isNone = f.size.isNone := by
  obtain ⟨hkind, hname, haddress, hsize⟩ := content_outline id (reread true f)
  rw [content_reread f hf] at hkind hname haddress hsize
  obtain ⟨hkind', hname', haddress', hsize'⟩ := content_outline writtenSize f
  exact ⟨hkind.symm.trans hkind', hname.symm.trans hname', haddress.symm.trans haddress',
    hsize.symm.trans hsize'⟩

/-! ### Fewer issues -/

/-- A field with those issues of another one that last, which also holds of all that lies right
below. -/
structure Eased (g f : Field) : Prop where
  issues : g.issues = f.issues.filter Issue.lasts
  children : g.children.map problems = f.children.map fun c => c.problems.filter Issue.lasts

theorem Eased.problems (h : g.Eased f) : g.problems = f.problems.filter Issue.lasts := by
  rw [problems_eq, problems_eq, List.filter_append, List.filter_flatMap, List.flatMap_def,
    List.flatMap_def, h.issues, h.children]

/-- What lasts may be added to both, and both may be renamed. -/
theorem Eased.relabel (h : g.Eased f) {added : List Issue} (hadded : ∀ i ∈ added, i.lasts = true)
    (name name' : String) :
    Eased { g with name := name, issues := g.issues ++ added }
      { f with name := name', issues := f.issues ++ added } := by
  refine ⟨?_, h.children⟩
  show g.issues ++ added = (f.issues ++ added).filter Issue.lasts
  rw [List.filter_append, ← h.issues, List.filter_eq_self.mpr hadded]

theorem Eased.named (h : g.Eased f) (name : String) : (g.named name).Eased (f.named name) :=
  ⟨h.issues, h.children⟩

theorem Eased.checkItem [Host] (h : (reread true f).Eased f) (hf : f.Sound) :
    (checkItem (reread true f)).Eased (checkItem f) := by
  obtain ⟨_, _, haddress, _⟩ := reread_outline hf
  rw [Field.checkItem, Field.checkItem, haddress]
  split
  · exact h.relabel lasts_itemOffset _ _
  · exact h

theorem memberIssues_reread [Host] (seen : List String) (hm : m.Sound) :
    memberIssues seen (reread true m) = memberIssues seen m := by
  obtain ⟨_, hname, haddress, _⟩ := reread_outline hm
  rw [memberIssues, memberIssues, hname, haddress]

theorem eased_checkMembers [Host] {members : List Field}
    (h : ∀ m ∈ members, m.Sound ∧ (reread true m).Eased m) (seen : List String) :
    (checkMembers seen (rereadAll members)).map problems =
      (checkMembers seen members).map fun c => c.problems.filter Issue.lasts := by
  induction members generalizing seen with
  | nil => rfl
  | cons m rest ih =>
    obtain ⟨hsound, hm⟩ := h m List.mem_cons_self
    obtain ⟨_, hname, _, _⟩ := reread_outline hsound
    have hmember := (hm.relabel (lasts_memberIssues seen m) (reread true m).name m.name).problems
    rw [rereadAll, checkMembers, checkMembers, memberIssues_reread seen hsound, List.map_cons,
      List.map_cons, hmember, hname, ih fun x hx => h x (List.mem_cons_of_mem m hx)]

/-- Where nothing lies below, there is nothing else to compare. -/
theorem eased_of_no_members (hg : g.kind ≠ .array) (hf : f.kind ≠ .array) (hgs : g.members = [])
    (hfs : f.members = []) (h : g.issues = f.issues.filter Issue.lasts) : g.Eased f where
  issues := h
  children := by
    rw [children_of_not_array hg, children_of_not_array hf, hgs, hfs]
    rfl

section

variable [Host]

theorem eased_array {a : Attributes} {members : List Field} {item : Field} (hkind : a.kind = .array)
    (hissues : a.issues.filter Issue.lasts = [])
    (h : (checkItem (reread true item)).problems = item.problems.filter Issue.lasts) :
    (reread true ⟨a, members, some item⟩).Eased ⟨a, members, some item⟩ := by
  have hread : (⟨a.reread true, rereadAll members, some (checkItem (reread true item))⟩ :
      Field).kind = .array := hkind
  have hone : children ⟨a, members, some item⟩ = [item] := children_of_array hkind
  rw [reread, rereadItem, rechecked_array hread rfl]
  refine ⟨hissues.symm, ?_⟩
  rw [children_of_array hread, hone]
  exact congrArg (fun found => [found]) h

theorem writable_of_checkMembers {seen : List String} {members : List Field}
    (h : ∀ m ∈ checkMembers seen members, m.Writable) : ∀ m ∈ members, m.Writable := by
  induction members generalizing seen with
  | nil => exact nofun
  | cons m rest ih =>
    rw [checkMembers] at h
    obtain ⟨hm, hrest⟩ := List.forall_mem_cons.mp h
    exact List.forall_mem_cons.mpr ⟨(writable_relabel_iff m _ _).mp hm, ih hrest⟩

theorem writable_of_checkItem (h : (checkItem f).Writable) : f.Writable := by
  rw [Field.checkItem] at h
  split at h
  · exact (writable_relabel_iff f _ _).mp h
  · exact h

/-- No check of a whole field writes other numbers. -/
theorem writable_of_check (hcheck : f.check = .ok g) (hg : g.Writable) : f.Writable := by
  rw [Field.check.eq_def] at hcheck
  split at hcheck
  · cases hcheck
    obtain ⟨here, hmembers, hitem⟩ := hg
    exact .intro here (writable_of_checkMembers hmembers) hitem
  · split at hcheck
    · cases hcheck
      exact hg
    · next hnone =>
      cases hcheck
      obtain ⟨here, hmembers, _⟩ := hg
      refine .intro ⟨here.size, here.base, here.values⟩ hmembers fun i hi => ?_
      exact absurd (Option.isSome_of_mem hi) hnone
  · obtain ⟨issues, -, hpure⟩ := bind_eq_ok_iff.mp hcheck
    cases hpure
    exact (writable_relabel_iff f _ _).mp hg
  · cases hcheck
    exact hg

/-- A field whose keys were read and that was looked at as a whole, if nothing that lasts was found
on the way and all that lies right below is eased when it is read back. -/
theorem eased_of_check (hcheck : f.check = .ok g) (hg : g.Sound)
    (hwritable : f.toAttributes.Writable) (hissues : f.issues.filter Issue.lasts = [])
    (hmembers : ∀ m ∈ f.members, m.Sound ∧ (reread true m).Eased m)
    (hitem : ∀ i ∈ f.itemType, ∃ j, i = checkItem j ∧ j.Sound ∧ (reread true j).Eased j) :
    (reread true g).Eased g := by
  obtain ⟨here, _, _⟩ := hg
  obtain ⟨a, members, itemType⟩ := f
  have hkinds {kind : Kind} (hkind : a.kind = kind) (items : Option Field) :
      (⟨a.reread true, rereadAll members, items⟩ : Field).kind = kind := hkind
  rw [Field.check.eq_def] at hcheck
  split at hcheck
  · next hkind =>
    cases hcheck
    show Eased (reread true ⟨a, checkMembers [] members, itemType⟩)
      ⟨a, checkMembers [] members, itemType⟩
    rw [reread, rereadAll_checkMembers, rechecked_struct (hkinds hkind _)]
    have hnot : a.kind ≠ .array := ne_of_eq_of_ne hkind (by decide)
    refine ⟨hissues.symm, ?_⟩
    rw [children_of_not_array hnot, children_of_not_array hnot]
    exact eased_checkMembers hmembers []
  · next hkind =>
    cases itemType with
    | some item =>
      cases hcheck
      obtain ⟨j, rfl, hj, heased⟩ := hitem item rfl
      refine eased_array hkind hissues ?_
      rw [reread_checkItem]
      exact (heased.checkItem hj).problems
    | none =>
      cases hcheck
      refine eased_array hkind ?_ rfl
      have hfound := Issue.not_lasts_of_isMisuse isMisuse_noItem.1
      show (a.issues ++ [_]).filter Issue.lasts = []
      rw [List.filter_append, hissues, List.nil_append, List.filter_singleton, hfound]
      rfl
  · next hkind =>
    obtain ⟨issues, hfound, hpure⟩ := bind_eq_ok_iff.mp hcheck
    cases hpure
    have hread : pointerIssues ⟨a.reread true, rereadAll members, rereadItem itemType⟩ =
        .ok issues := (pointerIssues_reread hwritable true _ members _ itemType).trans hfound
    obtain rfl : members = [] := here.onlyStructs (ne_of_eq_of_ne hkind (by decide))
    have hnot : a.kind ≠ .array := ne_of_eq_of_ne hkind (by decide)
    rw [reread_issues, reread, rechecked_pointer (hkinds hkind _) hread]
    refine eased_of_no_members hnot hnot rfl rfl ?_
    show [] ++ issues = (a.issues ++ issues).filter Issue.lasts
    rw [List.filter_append, hissues, List.filter_eq_self.mpr (lasts_pointerIssues hfound)]
  · next hstruct harray hpointer =>
    cases hcheck
    obtain rfl : members = [] := here.onlyStructs hstruct
    have hread : Field.rechecked ⟨a.reread true, rereadAll [], rereadItem itemType⟩ = _ :=
      rechecked_other hstruct harray hpointer
    rw [reread, hread]
    exact eased_of_no_members harray harray rfl rfl hissues.symm

end

/-! ### Fields from nodes -/

/-- The members that a description states are read from nodes within, and have the name that the
struct has for them. -/
theorem source_of_statedMember [Host] (hn : Description.ofNode n = .ofKind kind nodes issues)
    (hm : m ∈ statedMembers kind nodes) :
    ∃ v ∈ n.children, ∃ x, v.Contains x ∧ ∃ f, ofNode x = .ok f ∧ ∃ name, m = f.named name := by
  rw [statedMembers] at hm
  split at hm
  · obtain ⟨members, hstated, hm⟩ : ∃ members,
        ((Keyed.get? Key.entries.text nodes).bind fun v => (membersOf v).toOption) = some members ∧
          m ∈ members := by
      cases hstated : (Keyed.get? Key.entries.text nodes).bind fun v => (membersOf v).toOption with
      | none => simp [hstated] at hm
      | some members => exact ⟨members, rfl, by simpa [hstated] using hm⟩
    obtain ⟨v, hv, hread⟩ := Option.bind_eq_some_iff.mp hstated
    obtain ⟨x, hx, f, hf, hname⟩ := memberNode_of_member (toOption_eq_some hread) hm
    exact ⟨v, Description.node_mem_children hn (Keyed.mem_of_get? hv), x, contains_memberNode hx, f,
      hf, hname⟩
  · cases hm

theorem source_of_statedItem [Host] (hn : Description.ofNode n = .ofKind kind nodes issues)
    (hitem : m ∈ statedItem kind nodes) :
    ∃ v ∈ n.children, ∃ f, ofNode v = .ok f ∧ m = checkItem f := by
  rw [statedItem] at hitem
  split at hitem
  · obtain ⟨v, hv, hread⟩ := Option.bind_eq_some_iff.mp hitem
    obtain ⟨f, hf, rfl⟩ := Option.map_eq_some_iff.mp hread
    exact ⟨v, Description.node_mem_children hn (Keyed.mem_of_get? hv), f, toOption_eq_some hf, rfl⟩
  · cases hitem

/-- Nothing lasts of what is found key by key. -/
theorem Drawn.not_lasts [Host] (hn : Description.ofNode n = .ofKind kind nodes issues)
    (hf : Drawn kind issues nodes f) : f.issues.filter Issue.lasts = [] := by
  refine List.filter_eq_nil_iff.mpr fun i hi => ?_
  rw [hf.issues] at hi
  rw [Bool.not_eq_true]
  rcases List.mem_append.mp hi with hi | hi
  · exact Issue.not_lasts_of_isSpelling (Description.isSpelling_of_ofKind hn i hi)
  · obtain ⟨p, _, hi⟩ := List.mem_flatMap.mp hi
    exact Issue.not_lasts_of_isMisuse (isMisuse_finding _ _ _ i hi).1

/-- A field that is written and read back has those issues that last. The induction is on the node
that the field was read from: there the members and the item type are as they were before they were
compared, and what a comparison adds it adds to both. -/
theorem eased_reread [Host] (n : Node) :
    ∀ f, ofNode n = .ok f → f.Writable → (reread true f).Eased f := by
  induction n using Node.contains_induction with
  | step n ih =>
    intro g hg hwritable
    have hsound := sound_ofNode n hg
    cases hn : Description.ofNode n with
    | unusable issue =>
      rw [ofNode_eq, hn] at hg
      cases hg
      have hfound := Issue.not_lasts_of_isMisuse (Description.isMisuse_of_unusable hn).1
      refine ⟨?_, rfl⟩
      show [] = [issue].filter Issue.lasts
      rw [List.filter_singleton, hfound]
      rfl
    | ofKind kind nodes issues =>
      obtain ⟨f, hf, hcheck⟩ := drawn_of_ofNode hn hg
      obtain ⟨here, hmembers, hitem⟩ := writable_of_check hcheck hwritable
      refine eased_of_check hcheck hsound here (hf.not_lasts hn) (fun m hm => ?_) fun i hi => ?_
      · have hwritten := hmembers m hm
        rw [hf.members_eq] at hm
        obtain ⟨v, hv, x, hx, f', hf', name, rfl⟩ := source_of_statedMember hn hm
        refine ⟨(sound_ofNode x hf').named name, ?_⟩
        rw [reread_named]
        exact (ih v hv x hx f' hf' ((writable_relabel_iff f' _ _).mp hwritten)).named name
      · have hwritten := hitem i hi
        rw [hf.item_eq] at hi
        obtain ⟨v, hv, f', hf', rfl⟩ := source_of_statedItem hn hi
        exact ⟨f', rfl, sound_ofNode v hf',
          ih v hv v (.self v) f' hf' (writable_of_checkItem hwritten)⟩

/-! ### Entries -/

theorem rootIssues_reread [Host] (hf : f.Sound) : (reread true f).rootIssues = f.rootIssues := by
  obtain ⟨hkind, _, haddress, hsize⟩ := reread_outline hf
  rw [rootIssues, rootIssues, haddress, hsize, hkind]

/-- A field as an entry: it has the name of its pair, and more issues. -/
def entered (name : String) (added : List Issue) (f : Field) : Field :=
  { f with name := name, issues := f.issues ++ added }

/-- The range of an entry of a name. -/
def rangeUnder (name : String) (f : Field) (size : Option Nat) : Option Range :=
  Range.of? (f.named name) size

/-- What is found wrong with a field as an entry. -/
def entryIssues (seen : List String) (before : Option Range) (name : String) (f : Field)
    (size : Option Nat) (found : List Issue) : List Issue :=
  f.rootIssues ++
    (repeatedIssues seen name ++ (found ++ Range.issues before (f.rangeUnder name size)))

variable {seen : List String} {before : Option Range} {p : Node × Node}
  {pairs : List (Node × Node)} {fs gs : List Field}

section

variable [Host]

/-- Entry by entry: each is a field of its own node, with what is found wrong with it there. -/
theorem entriesOf_entered (h : entriesOf seen before (p :: pairs) = .ok fs) :
    ∃ g size found more, ofNode p.2 = .ok g ∧ g.placedSize = .ok (size, found) ∧
      entriesOf (p.1.keyText :: seen) (g.rangeUnder p.1.keyText size <|> before) pairs = .ok more ∧
      fs = g.entered p.1.keyText (entryIssues seen before p.1.keyText g size found) :: more := by
  obtain ⟨f, size, found, more, hroot, hsize, hmore, rfl⟩ := entriesOf_cons_ok h
  obtain ⟨g, hg, rfl⟩ := rootOfNode_cases hroot
  rw [placedSize_relabel g] at hsize
  refine ⟨g, size, found, more, hg, hsize, hmore, ?_⟩
  rw [entered, entryIssues, ← List.append_assoc, ← List.append_assoc, ← List.append_assoc]
  rfl

theorem lasts_entryIssues {f : Field} {size : Option Nat} {found : List Issue}
    (h : f.placedSize = .ok (size, found)) (seen : List String) (before : Option Range)
    (name : String) : ∀ i ∈ entryIssues seen before name f size found, i.lasts = true := by
  intro i hi
  simp only [entryIssues, List.mem_append] at hi
  rcases hi with hi | hi | hi | hi
  · exact lasts_rootIssues f i hi
  · exact lasts_repeatedIssues seen name i hi
  · exact lasts_placedSize h i hi
  · exact Range.lasts_issues before _ i hi

/-- The field of an entry that is read back, but for its name. -/
theorem named_of_entered {f g : Field} {name : String} {added : List Issue} (hf : f.Sound)
    (hwritable : f.Writable) (h : ofNode (toNode false (f.entered name added)) = .ok g) :
    g.named name = (reread true f).named name := by
  have hread := ofNode_toNode _ (hf.relabel name (f.issues ++ added))
    ((writable_relabel_iff f _ _).mpr hwritable) false
  cases hread.symm.trans h
  exact (named_reread (f.entered name added)).trans (reread_relabel f name _)

theorem problems_entered {f g : Field} {name : String} {added : List Issue}
    (hf : (reread true f).Eased f) (h : g.named name = (reread true f).named name)
    (hadded : ∀ i ∈ added, i.lasts = true) :
    (g.entered name added).problems = (f.entered name added).problems.filter Issue.lasts := by
  have hentry : g.entered name added = (reread true f).entered name added := by
    have hsame : (g.named name).entered name added =
        ((reread true f).named name).entered name added :=
      congrArg (entered name added) h
    exact hsame
  rw [hentry]
  exact (hf.relabel hadded name name).problems

/-- What is found wrong with an entry is found again when it is read back. -/
theorem entryIssues_of_named {f g : Field} {name : String} (hf : f.Sound)
    (hwritable : f.Writable) (h : g.named name = (reread true f).named name) (seen : List String) (before : Option Range)
    (size : Option Nat) (found : List Issue) :
    g.placedSize = f.placedSize ∧ g.rangeUnder name size = f.rangeUnder name size ∧
      entryIssues seen before name g size found = entryIssues seen before name f size found := by
  obtain ⟨_, _, haddress, _⟩ := reread_outline hf
  have hplaced : g.placedSize = f.placedSize := by
    have hsame : (g.named name).placedSize = ((reread true f).named name).placedSize := by rw [h]
    have hunnamed (e : Field) : (e.named name).placedSize = e.placedSize :=
      placedSize_relabel e name e.issues
    rw [hunnamed, hunnamed, placedSize_reread hf hwritable] at hsame
    exact hsame
  have hrange : g.rangeUnder name size = f.rangeUnder name size := by
    have hread : Range.of? ((reread true f).named name) size = Range.of? (f.named name) size :=
      congrArg (Option.map _) haddress
    rw [rangeUnder, h, hread, rangeUnder]
  have hroot : g.rootIssues = f.rootIssues := by
    have hsame : (g.named name).rootIssues = ((reread true f).named name).rootIssues := by rw [h]
    exact hsame.trans (rootIssues_reread hf)
  refine ⟨hplaced, hrange, ?_⟩
  rw [entryIssues, entryIssues, hrange, hroot]

/-- Entries that are read back lose what does not last. What is found wrong with the place of an
entry only looks at the entries before it, which are read back with the same name, address and
size. -/
theorem subsided_of_entriesOf (h : entriesOf seen before pairs = .ok fs)
    (hwritable : ∀ f ∈ fs, f.Writable)
    (hread : entriesOf seen before (fs.map fun f => (.ofText f.name, f.toNode false)) = .ok gs) :
    List.Forall₂ (fun g f => g.name = f.name ∧ g.problems = f.problems.filter Issue.lasts)
      gs fs := by
  induction pairs generalizing seen before fs gs with
  | nil =>
    cases h
    cases hread
    exact .nil
  | cons p rest ih =>
    obtain ⟨g, size, found, more, hg, hsize, hmore, rfl⟩ := entriesOf_entered h
    obtain ⟨g', size', found', more', hg', hsize', hmore', rfl⟩ := entriesOf_entered hread
    have hsound := sound_ofNode p.2 hg
    obtain ⟨hentered, hrest⟩ := List.forall_mem_cons.mp hwritable
    have hwritten : g.Writable := (writable_relabel_iff g _ _).mp hentered
    have hname : g'.named p.1.keyText = (reread true g).named p.1.keyText :=
      named_of_entered hsound hwritten hg'
    obtain ⟨hplaced, hrange, hfound⟩ :=
      entryIssues_of_named hsound hwritten hname seen before size' found'
    cases (hsize'.symm.trans hplaced).trans hsize
    have hentry : (g'.entered p.1.keyText
        (entryIssues seen before p.1.keyText g' size found)).problems =
          (g.entered p.1.keyText (entryIssues seen before p.1.keyText g size found)).problems.filter
            Issue.lasts := by
      rw [hfound]
      exact problems_entered (eased_reread p.2 g hg hwritten) hname
        (lasts_entryIssues hsize seen before p.1.keyText)
    exact .cons ⟨rfl, hentry⟩ (ih hmore hrest (hrange ▸ hmore'))

end

/-! ### Nodes -/

section Nodes

variable {size : String → String}

theorem pairsOf_resized (hsize : ∀ s, Describe.sizeNode (size s) = Describe.sizeNode s)
    (a : Attributes) (keys : List Key) :
    Attributes.pairsOf { a with size := a.size.map size, issues := [] } keys = a.pairsOf keys := by
  have hwritten (k : Key) :
      Attributes.written? { a with size := a.size.map size, issues := [] } k = a.written? k := by
    cases k with
    | size =>
      show (a.size.map size).map Describe.sizeNode = a.size.map Describe.sizeNode
      rw [Option.map_map]
      exact congrArg (fun node => a.size.map node) (funext hsize)
    | _ => rfl
  simp only [Attributes.pairsOf, hwritten]

theorem namedNodes_contentAll {members : List Field}
    (h : ∀ m ∈ members, toNode false (content size m) = toNode false m) :
    namedNodes (contentAll size members) = namedNodes members := by
  induction members with
  | nil => rfl
  | cons m rest ih =>
    obtain ⟨_, hname, _⟩ := content_outline size m
    rw [contentAll, namedNodes, namedNodes, h m List.mem_cons_self, hname,
      ih fun x hx => h x (List.mem_cons_of_mem m hx)]

theorem memberNodes_contentAll {members : List Field}
    (h : ∀ m ∈ members, toNode true (content size m) = toNode true m) :
    memberNodes (contentAll size members) = memberNodes members := by
  induction members with
  | nil => rfl
  | cons m rest ih =>
    rw [contentAll, memberNodes, memberNodes, h m List.mem_cons_self,
      ih fun x hx => h x (List.mem_cons_of_mem m hx)]

/-- The node of a field says no more than its content. -/
theorem toNode_content (hsize : ∀ s, Describe.sizeNode (size s) = Describe.sizeNode s)
    (f : Field) : ∀ withName, toNode withName (content size f) = toNode withName f := by
  induction f using Field.tree_induction with
  | step a members itemType ihMembers ihItem =>
    intro withName
    have hnamed := namedNodes_contentAll fun m hm => ihMembers m hm false
    have hmembers := memberNodes_contentAll fun m hm => ihMembers m hm true
    have hnames : ((contentAll size members).all fun m => m.name != "") =
        members.all fun m => m.name != "" := by
      clear ihMembers ihItem hnamed hmembers
      induction members with
      | nil => rfl
      | cons m rest ih =>
        obtain ⟨_, hname, _⟩ := content_outline size m
        rw [contentAll, List.all_cons, List.all_cons, hname, ih]
    have hempty : (contentAll size members).isEmpty = members.isEmpty := by
      cases members <;> rfl
    have hitem : itemPairs (contentItem size itemType) = itemPairs itemType := by
      cases itemType with
      | none => rfl
      | some i => rw [contentItem, itemPairs, itemPairs, ihItem i rfl]
    rw [content, toNode, toNode, pairsOf_described, pairsOf_described, pairsOf_resized hsize,
      hnamed,
      hmembers, hnames, hempty, hitem]

end Nodes

theorem sizeNode_writtenSize (s : String) :
    Describe.sizeNode (writtenSize s) = Describe.sizeNode s := by
  rw [writtenSize]
  cases hplain : Describe.plainSize? s with
  | none => rfl
  | some n => rw [Describe.sizeNode, Describe.sizeNode, plainSize?_toString, hplain]

end Field

/-! ### Games -/

namespace Game

variable {metadata definitions : Option Node} {g g' : Game}

/-- Games with the same entries, up to issues and to how sizes are written, have the same node of
entries. -/
theorem entriesNode_of_content
    (h : g'.entries.map (Field.content id) = g.entries.map (Field.content writtenSize)) :
    g'.entriesNode = g.entriesNode := by
  let pairOf := fun f : Field => (Node.ofText f.name, f.toNode false)
  have hcontent (size : String → String)
      (hsize : ∀ s, Describe.sizeNode (size s) = Describe.sizeNode s) (fs : List Field) :
      (fs.map (Field.content size)).map pairOf = fs.map pairOf := by
    rw [List.map_map]
    refine List.map_congr_left fun f _ => ?_
    obtain ⟨_, hname, _⟩ := Field.content_outline size f
    exact Prod.ext (congrArg Node.ofText hname) (Field.toNode_content hsize f false)
  have hpairs : g'.entries.map pairOf = g.entries.map pairOf := by
    rw [← hcontent id fun _ => rfl, h, hcontent writtenSize Field.sizeNode_writtenSize]
  exact congrArg Node.ofPairs hpairs

theorem tablePairs_rewrittenTables (ts : Keyed String Script.Table) :
    tablePairs (rewrittenTables ts) = tablePairs ts := by
  have hnode (t : Script.Table) (name : String) :
      Script.Table.toNode { t.written with name := name } = t.toNode := by
    obtain ⟨own, ⟨size, replacement, children⟩, patterns⟩ := t
    cases patterns <;> rfl
  rw [tablePairs, tablePairs, rewrittenTables, List.isEmpty_map, List.map_map]
  simp only [Function.comp_def, hnode]

/-- Whatever game was loaded, if the host writes the numbers of its entries, its nodes are loaded
again. Each entry then has those of its issues that last, in their order, so that nothing is said of
spellings or misuses any more; and the game that was loaded again has the same nodes. -/
theorem reload_issues [Host] (h : Game.ofNodes metadata definitions = .ok g)
    (hdigits : ∀ f ∈ g.entries, f.digitFault? = none) :
    ∃ g', Game.ofNodes (some g.metadataNode) (some g.entriesNode) = .ok g' ∧
      List.Forall₂ (fun f' f : Field => f'.name = f.name ∧ f'.problems.Sublist f.problems ∧
          f'.problems = f.problems.filter (fun i => !i.isSpelling && !i.isMisuse) ∧
          ∀ i ∈ f'.problems, i.isSpelling = false ∧ i.isMisuse = false)
        g'.entries g.entries ∧
      g'.metadataNode = g.metadataNode ∧ g'.entriesNode = g.entriesNode := by
  obtain ⟨hmetadata, hplaced⟩ := placed_of_ofNodes h
  obtain ⟨_, pairs, _, hpairs, _⟩ := exists_pairs_of_ofNodes h
  have hwritable : ∀ f ∈ g.entries, f.Writable := fun f hf =>
    (hplaced f hf).sound.writable (hdigits f hf)
  obtain ⟨gs, hgs, hcontent⟩ := Field.entriesOf_written hplaced hwritable [] none
  refine ⟨_, ofNodes_entriesNode hmetadata hgs, ?_, ?_, entriesNode_of_content hcontent⟩
  · refine (Field.subsided_of_entriesOf hpairs hwritable hgs).imp fun f' f hboth => ?_
    obtain ⟨hname, hproblems⟩ := hboth
    refine ⟨hname, ?_, hproblems, fun i hi => ?_⟩
    · rw [hproblems]
      exact List.filter_sublist
    · rw [hproblems] at hi
      have hlasts := (List.mem_filter.mp hi).2
      simpa [Issue.lasts] using hlasts
  · simp only [metadataNode, tablePairs_rewrittenTables]

/-- A struct that names its kind under a key and its offset in the older way, with a key that is not
known, and with a member that has a place of its own. -/
def sampleAged : Node :=
  let member : Node := .mapping "!int" [(.ofText "Size", .ofInt 1), (.ofText "Offset", .ofInt 0)]
    false none
  .ofPairs [(.ofText "STATS", .ofPairs [(.ofText "Type", .ofText "struct"),
    (.ofText "Address", .ofHex 16), (.ofText "Colour", .ofText "red"),
    (.ofText "Entries", .ofPairs [(.ofText "HP", member)])])]

/-- What is wrong with it: the last issue is about the fields that were read, the others are not. -/
def sampleAgedGame : Game where
  title := "Sample"
  country := "Nowhere"
  entries :=
    [{ kind := .struct, name := "STATS", address := some 16,
       issues :=
        [.incomplete "Deprecated key 'Address' renamed to 'Offset'" "Rename 'Address' to 'Offset'",
         .incomplete "Untagged legacy entry" "Replace 'Type: struct' with a !struct tag",
         .incomplete "Unknown key 'Colour'" "Remove or correct the key"],
       members :=
        [{ kind := .integer, name := "HP", size := some "1", address := some 0,
           issues := [.severe "Nested entry 'HP' has an offset"
             "Remove Offset; members are positioned by the struct"] }] }]

theorem sampleAged_reload_issues :
    Game.ofNodes (some sampleMetadata) (some sampleAged) = .ok sampleAgedGame ∧
      (∀ f ∈ sampleAgedGame.entries, f.digitFault? = none) ∧
      ∃ g', Game.ofNodes (some sampleAgedGame.metadataNode) (some sampleAgedGame.entriesNode) =
          .ok g' ∧
        g'.entries.map (fun f => f.problems.map Issue.reason) =
          [["Nested entry 'HP' has an offset"]] ∧
        g'.entriesNode = sampleAgedGame.entriesNode := by
  have hload : Game.ofNodes (some sampleMetadata) (some sampleAged) = .ok sampleAgedGame := rfl
  have hdigits : ∀ f ∈ sampleAgedGame.entries, f.digitFault? = none := by decide
  obtain ⟨g', hg', hentries, _, hnode⟩ := reload_issues hload hdigits
  refine ⟨hload, hdigits, g', hg', ?_, hnode⟩
  generalize g'.entries = entries at hentries
  cases hentries with
  | cons hfirst hrest =>
    obtain ⟨_, _, hproblems, _⟩ := hfirst
    cases hrest
    rw [List.map_singleton, hproblems]
    decide

end Game

end GameAtlas.Schema
