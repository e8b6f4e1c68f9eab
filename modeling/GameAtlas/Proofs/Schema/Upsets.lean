import GameAtlas.Proofs.Schema.Rules

/-!
What keeps a description from being read at all. It lies in the node: a value that cannot be
converted, or a size that spells a constant or has too many digits where it is measured.
-/

namespace GameAtlas.Schema

open Yaml (Node ConversionFault)

/-- A fault lies in what a node holds. -/
inductive Upsets [Host] (n : Node) : FieldFault → Prop where
  /-- A value cannot be converted. -/
  | value {fault : ConversionFault} : n.Spoils fault → Upsets n (.conversion fault)
  /-- A size spells a constant in the place of a name, or digits that are too many. -/
  | size {tag : String} {pairs : List (Node × Node)} {flow : Bool} {share : Option Nat}
      {p : Node × Node} {text : String} {c : Expression.BareFault} :
      n.Contains (.mapping tag pairs flow share) → p ∈ pairs →
      Key.canonical p.1.keyText = Key.size.text → Reading.size p.2 = .ok text →
      sizeOf text [] = .error (.invalid text (.bare c)) → Upsets n (.bare c)
  /-- A size is too great to be told of. -/
  | number {tag : String} {pairs : List (Node × Node)} {flow : Bool} {share : Option Nat}
      {p : Node × Node} {text : String} {size : Nat} {fault : DigitFault} :
      n.Contains (.mapping tag pairs flow share) → p ∈ pairs →
      Key.canonical p.1.keyText = Key.size.text → Reading.size p.2 = .ok text →
      sizeOf text [] = .ok size → Host.writingFault? size = some fault →
      Upsets n (.bare (.digits fault))

theorem Upsets.within [Host] {n x : Node} {fault : FieldFault} (h : Upsets x fault)
    (hx : n.Contains x) : Upsets n fault := by
  cases h with
  | value hspoils => exact .value (hspoils.within hx)
  | size hmapping hp hkey hread hsize => exact .size (hx.trans hmapping) hp hkey hread hsize
  | number hmapping hp hkey hread hsize hfault =>
    exact .number (hx.trans hmapping) hp hkey hread hsize hfault

namespace Field

variable {f g m : Field} {n v x : Node} {text : String} {fault : FieldFault}

/-! ### Sizes -/

section

variable [Host]

theorem invalid_of_bare {a : Attributes} {e : SizeError} {c : Expression.BareFault}
    (h : a.resolvedSize [] = .error e) (hc : e.bare? = some c) :
    ∃ text, a.size = some text ∧ sizeOf text [] = .error (.invalid text (.bare c)) := by
  rw [Attributes.resolvedSize] at h
  split at h
  · cases h
    cases hc
  · next text hsize =>
    split at h
    · cases h
      cases hc
    · refine ⟨text, hsize, ?_⟩
      have hfound := h
      rw [sizeOf] at hfound
      split at hfound
      · cases hfound
      · cases hfound
        rw [h]
        rw [SizeError.bare?.eq_def] at hc
        split at hc
        · next heq =>
          cases heq
          cases hc
          rfl
        · cases hc

theorem sizeOf_of_resolvedSize {a : Attributes} {size : Nat} (h : a.resolvedSize [] = .ok size) :
    ∃ text, a.size = some text ∧ sizeOf text [] = .ok size := by
  rw [Attributes.resolvedSize] at h
  split at h
  · cases h
  · next text hsize =>
    split at h
    · cases h
    · exact ⟨text, hsize, h⟩

/-- A size that a description states stands in the node. -/
theorem exists_of_statedSize {kind : Kind} {nodes : Keyed String Node} {issues : List Issue}
    (hn : Description.ofNode n = .ofKind kind nodes issues)
    (hstated : statedSize nodes = some text) :
    ∃ tag pairs flow share, n = .mapping tag pairs flow share ∧ ∃ p ∈ pairs,
      Key.canonical p.1.keyText = Key.size.text ∧ Reading.size p.2 = .ok text := by
  obtain ⟨v, hv, hread⟩ := Option.bind_eq_some_iff.mp hstated
  obtain ⟨tag, pairs, flow, share, rfl, p, hp, heq⟩ :=
    Description.mem_nodes hn (Keyed.mem_of_get? hv)
  obtain ⟨hkey, rfl⟩ := Prod.mk.inj heq
  exact ⟨tag, pairs, flow, share, rfl, p, hp, hkey.symm, toOption_eq_some hread⟩

theorem upsets_of_statedSize {kind : Kind} {nodes : Keyed String Node} {issues : List Issue}
    {c : Expression.BareFault} (hn : Description.ofNode n = .ofKind kind nodes issues)
    (hstated : statedSize nodes = some text)
    (hsize : sizeOf text [] = .error (.invalid text (.bare c))) :
    Upsets n (.bare c) := by
  obtain ⟨tag, pairs, flow, share, rfl, p, hp, hkey, hread⟩ := exists_of_statedSize hn hstated
  exact .size (.self _) hp hkey hread hsize

/-- The size of a field that was read stands in its node. -/
theorem upsets_of_resolvedSize {e : SizeError} {c : Expression.BareFault}
    (hg : ofNode n = .ok g) (h : g.resolvedSize [] = .error e) (hc : e.bare? = some c) :
    Upsets n (.bare c) := by
  obtain ⟨text, hown, hsize⟩ := invalid_of_bare h hc
  cases hn : Description.ofNode n with
  | unusable issue =>
    rw [ofNode_eq, hn] at hg
    cases hg
    cases hown
  | ofKind kind nodes issues =>
    obtain ⟨f, hf, hcheck⟩ := drawn_of_ofNode hn hg
    rw [(check_keeps hcheck).2.1, hf.size_eq] at hown
    exact upsets_of_statedSize hn hown hsize

theorem staticSizes_error {fs : List Field} {e : SizeError} (h : staticSizes fs = .error e) :
    ∃ m ∈ fs, m.staticSize = .error e := by
  induction fs with
  | nil => cases h
  | cons m rest ih =>
    rcases bind_eq_error_iff.mp h with hm | ⟨_, _, h⟩
    · exact ⟨m, List.mem_cons_self, hm⟩
    · rcases bind_eq_error_iff.mp h with hrest | ⟨_, _, h⟩
      · obtain ⟨other, hother, hfault⟩ := ih hrest
        exact ⟨other, List.mem_cons_of_mem m hother, hfault⟩
      · cases h

/-- A field without a size is measured by its members, any other by what it states. -/
theorem staticSize_error {e : SizeError} (h : f.staticSize = .error e) :
    (f.kind = .struct ∧ ∃ m ∈ f.members, m.staticSize = .error e) ∨
      f.resolvedSize [] = .error e := by
  obtain ⟨a, members, itemType⟩ := f
  rw [staticSize] at h
  split at h
  · next hstruct =>
    simp only [Bool.and_eq_true, beq_iff_eq] at hstruct
    exact .inl ⟨hstruct.1.2, staticSizes_error h⟩
  · exact .inr h

theorem staticSize_relabel (f : Field) (name : String) (issues : List Issue) :
    staticSize { f with name := name, issues := issues } = f.staticSize := by
  obtain ⟨a, members, itemType⟩ := f
  rfl

end

theorem of_mem_checkMembers {seen : List String} {members : List Field}
    (h : m ∈ checkMembers seen members) :
    ∃ f ∈ members, ∃ issues, m = { f with issues := f.issues ++ issues } := by
  induction members generalizing seen with
  | nil => cases h
  | cons first rest ih =>
    rcases List.mem_cons.mp h with rfl | h
    · exact ⟨first, List.mem_cons_self, _, rfl⟩
    · obtain ⟨f, hf, hm⟩ := ih h
      exact ⟨f, List.mem_cons_of_mem first hf, hm⟩

/-- The members of a struct that was read are read from nodes within; they have the name that the
struct has for them, and more issues. -/
theorem node_of_member [Host] (hg : ofNode n = .ok g) (hkind : g.kind = .struct)
    (hm : m ∈ g.members) :
    ∃ v ∈ n.children, ∃ x, v.Contains x ∧ ∃ f name issues, ofNode x = .ok f ∧
      m = { f with name := name, issues := f.issues ++ issues } := by
  cases hn : Description.ofNode n with
  | unusable issue =>
    rw [ofNode_eq, hn] at hg
    cases hg
    cases hkind
  | ofKind kind nodes issues =>
    obtain ⟨f, hf, hcheck⟩ := drawn_of_ofNode hn hg
    obtain rfl : kind = .struct := by
      rw [← hkind, (check_keeps hcheck).1, hf.kind_eq]
    rw [Field.check, hf.kind_eq] at hcheck
    cases hcheck
    obtain ⟨m', hm', own, rfl⟩ := of_mem_checkMembers hm
    rw [hf.members_eq, statedMembers, if_pos rfl] at hm'
    cases hv : Keyed.get? Key.entries.text nodes with
    | none =>
      rw [hv] at hm'
      cases hm'
    | some v =>
      rw [hv, Option.bind_some] at hm'
      cases hread : membersOf v with
      | error obstacle =>
        rw [hread] at hm'
        cases hm'
      | ok members =>
        rw [hread] at hm'
        obtain ⟨x, hx, f', hf', name, rfl⟩ := memberNode_of_member hread hm'
        refine ⟨v, Description.node_mem_children hn (Keyed.mem_of_get? hv), x,
          contains_memberNode hx, f', name, own, hf', rfl⟩

/-- Wherever a field that was read is measured, a constant that is met stands in its node. -/
theorem upsets_of_staticSize [Host] (n : Node) : ∀ g, ofNode n = .ok g → ∀ e c,
    g.staticSize = .error e → e.bare? = some c → Upsets n (.bare c) := by
  induction n using Node.contains_induction with
  | step n ih =>
    intro g hg e c h hc
    rcases staticSize_error h with ⟨hkind, m, hm, hmember⟩ | hown
    · obtain ⟨v, hv, x, hx, f, name, issues, hf, rfl⟩ := node_of_member hg hkind hm
      rw [staticSize_relabel] at hmember
      exact (ih v hv x hx f hf e c hmember hc).within (.child hv hx)
    · exact upsets_of_resolvedSize hg hown hc

/-! ### Descriptions that are not read -/

theorem readAll_error [Host] {pairs : Keyed String Part} (h : f.readAll pairs = .error fault) :
    ∃ p ∈ pairs, ∃ g : Field, g.read p.1 p.2 = .error fault := by
  induction pairs generalizing f with
  | nil => cases h
  | cons p rest ih =>
    rcases bind_eq_error_iff.mp h with hread | ⟨g, _, h⟩
    · exact ⟨p, List.mem_cons_self, f, hread⟩
    · obtain ⟨q, hq, hfault⟩ := ih h
      exact ⟨q, List.mem_cons_of_mem p hq, hfault⟩

theorem read_error [Host] {part : Part} (h : f.read text part = .error fault) :
    ∃ key found, Key.ofText? text = some key ∧ fault = .conversion found ∧
      (f.set key part).2 = some (.fault found) := by
  rw [Field.read] at h
  split at h
  · cases h
  · cases h
  · next key _ hkey =>
    split at h
    · split at h
      · cases h
      · cases h
      · next heq =>
        cases h
        exact ⟨key, _, hkey, rfl, congrArg Prod.snd heq⟩
    · cases h

/-- A pointer keeps itself from being read by its size: it fails to have one, or has one that cannot
be told of. -/
theorem check_error [Host] (h : f.check = .error fault) : ∃ c, fault = .bare c ∧
    ((∃ e, f.resolvedSize [] = .error e ∧ e.bare? = some c) ∨
      ∃ size d, f.resolvedSize [] = .ok size ∧ Host.writingFault? size = some d ∧
        c = .digits d) := by
  rw [Field.check] at h
  split at h
  · cases h
  · cases h
  · rcases bind_eq_error_iff.mp h with h | ⟨_, _, h⟩
    · rw [pointerIssues] at h
      split at h
      · cases h
      · split at h
        · next e hsize =>
          split at h
          · next c hc =>
            cases h
            exact ⟨c, rfl, .inl ⟨e, hsize, hc⟩⟩
          · cases h
        · next size hsize =>
          split at h
          · split at h
            · next d hd =>
              cases h
              exact ⟨_, rfl, .inr ⟨size, d, hsize, hd, rfl⟩⟩
            · cases h
          · cases h
    · cases h
  · cases h

/-- What keeps a node from being read as a field lies in the node. -/
theorem upsets_of_ofNode [Host] (n : Node) : ∀ fault, ofNode n = .error fault → Upsets n fault := by
  induction n using Node.contains_induction with
  | step n ih =>
    intro fault h
    cases hn : Description.ofNode n with
    | unusable issue =>
      rw [ofNode_eq, hn] at h
      cases h
    | ofKind kind nodes issues =>
      rw [ofNode_eq, hn] at h
      rcases bind_eq_error_iff.mp h with h | ⟨f, hf, h⟩
      · obtain ⟨p, hp, f, hread⟩ := readAll_error h
        obtain ⟨⟨text, v⟩, hq, rfl⟩ := List.mem_map.mp hp
        obtain ⟨key, found, hkey, rfl, hset⟩ := read_error hread
        have hchild : v ∈ n.children := Description.node_mem_children hn hq
        dsimp only at hkey hset
        obtain rfl := Key.text_of_ofText? hkey
        cases key with
        | entries =>
          have hmembers : membersOf v = .error (.fault found) := take_obstacle.mp hset
          obtain ⟨x, hx, hread⟩ := memberNode_of_fault hmembers
          have hcontains : v.Contains x := contains_memberNode hx
          exact (ih v hchild x hcontains _ hread).within (.child hchild hcontains)
        | itemType =>
          have hitem := ofConstruction_fault (take_obstacle.mp hset)
          exact (ih v hchild v (.self _) _ hitem).within (Node.contains_child hchild)
        | _ =>
          rw [partOf_value hkey (by decide) (by decide)] at hset
          exact .value ((spoils_of_setValue hset).within (Node.contains_child hchild))
      · obtain ⟨c, rfl, ⟨e, hsize, hc⟩ | ⟨size, d, hsize, hd, rfl⟩⟩ := check_error h
        · obtain ⟨text, hown, hconstant⟩ := invalid_of_bare hsize hc
          rw [(drawn_of_readAll hn hf).size_eq] at hown
          exact upsets_of_statedSize hn hown hconstant
        · obtain ⟨text, hown, hmeasured⟩ := sizeOf_of_resolvedSize hsize
          rw [(drawn_of_readAll hn hf).size_eq] at hown
          obtain ⟨tag, pairs, flow, share, rfl, p, hp, hkey, hread⟩ := exists_of_statedSize hn hown
          exact .number (.self _) hp hkey hread hmeasured hd

end Field

end GameAtlas.Schema
