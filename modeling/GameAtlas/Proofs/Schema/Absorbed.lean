import Mathlib.Tactic
import GameAtlas.Proofs.Schema.Findings

/-!
The closed form of a field that is read key by key. What a key makes of a field depends on the kind
and on what the key itself stands for there, so that keys do not mind each other; what is found
wrong with them depends on the kind alone. A field is then all that its keys make of a new one, with
all that is found wrong with them in order.
-/

namespace GameAtlas.Schema

open Yaml (Node ConversionFault)

namespace Field

/-- A field with what a key stands for from another one. -/
def adopt (key : Key) (g f : Field) : Field :=
  match key with
  | .entries => { f with members := g.members }
  | .itemType => { f with itemType := g.itemType }
  | _ => { f with toAttributes := Attributes.adopt key g.toAttributes f.toAttributes }

/-- A field with other issues. -/
def withIssues (issues : List Issue) (f : Field) : Field := { f with issues := issues }

variable {f g h : Field} {k l key : Key} {n : Node} {p q : String × Node}
  {issues : List Issue}

theorem adopt_self (k : Key) (f : Field) : adopt k f f = f := by
  obtain ⟨a, members, itemType⟩ := f
  cases k <;> rfl

theorem adopt_kind (k : Key) (g f : Field) : (adopt k g f).kind = f.kind := by
  cases k <;> rfl

/-- What is taken from the other field, attributes and fields within it apart. -/
theorem adopt_eq (k : Key) (g f : Field) :
    adopt k g f = ⟨Attributes.adopt k g.toAttributes f.toAttributes,
      if k = .entries then g.members else f.members,
      if k = .itemType then g.itemType else f.itemType⟩ := by
  cases k <;> rfl

theorem adopt_comm (hne : k ≠ l) : adopt k f (adopt l g h) = adopt l g (adopt k f h) := by
  have hapart {key : Key} (hk : k = key) : l ≠ key := fun hl => hne (hk.trans hl.symm)
  simp only [adopt_eq, Attributes.adopt_comm hne, mk.injEq, true_and]
  constructor
  · split
    · next hk => rw [if_neg (hapart hk)]
    · rfl
  · split
    · next hk => rw [if_neg (hapart hk)]
    · rfl

/-- Issues belong to no key. -/
theorem adopt_withIssues (k : Key) (g f : Field) (issues : List Issue) :
    adopt k g (f.withIssues issues) = (adopt k g f).withIssues issues := by
  cases k <;> rfl

theorem withIssues_self (f : Field) : f.withIssues f.issues = f := by
  obtain ⟨a, members, itemType⟩ := f
  rfl

theorem withIssues_issues (f : Field) (issues : List Issue) :
    (f.withIssues issues).issues = issues := rfl

theorem withIssues_withIssues (f : Field) (issues issues' : List Issue) :
    (f.withIssues issues).withIssues issues' = f.withIssues issues' := rfl

theorem withIssues_kind (f : Field) (issues : List Issue) : (f.withIssues issues).kind = f.kind :=
  rfl

/-! ### What a key makes of a field -/

theorem take_adopt {α : Type} {reading : Reading α} {update update' : α → Field}
    (hown : adopt key f g = g) (hupdate : ∀ a, update' a = adopt key (update a) g) :
    (g.take reading update').1 = adopt key (f.take reading update).1 g := by
  cases reading with
  | ok a => exact hupdate a
  | error obstacle => exact hown.symm

section

variable [Host]

/-- Of two fields of a kind that agree on a key, its value makes the same there. -/
theorem setValue_adopt (hkind : g.kind = f.kind) (hown : adopt key f g = g) :
    (g.setValue key n).1 = adopt key (f.setValue key n).1 g := by
  cases key with
  | base =>
    have hnumber : f.numberBase = g.numberBase := congrArg (fun x => x.numberBase) hown
    have hpointer : f.pointerBase = g.pointerBase := congrArg (fun x => x.pointerBase) hown
    rw [setValue, setValue, hkind]
    split
    · refine take_adopt hown fun b => ?_
      simp only [adopt, Attributes.adopt, hnumber, hkind]
    · refine take_adopt hown fun b => ?_
      simp only [adopt, Attributes.adopt, hpointer, hkind]
  | labelStates =>
    have hstates : f.labelStates = g.labelStates := congrArg (fun x => x.labelStates) hown
    cases n with
    | sequence tag items flow share =>
      simp only [setValue, adopt, Attributes.adopt, hstates]
    | scalar => exact hown.symm
    | mapping => exact hown.symm
  | type | entries | itemType => exact hown.symm
  | _ => exact take_adopt hown fun _ => rfl

theorem set_adopt (hkind : g.kind = f.kind) (hown : adopt key f g = g) :
    (g.set key (partOf key.text n)).1 = adopt key (f.set key (partOf key.text n)).1 g := by
  cases key with
  | entries => exact take_adopt hown fun _ => rfl
  | itemType => exact take_adopt hown fun _ => rfl
  | _ => exact setValue_adopt hkind hown

/-- A field after a pair of a description was read, but for what is found wrong with the pair. -/
def absorb (f : Field) (p : String × Node) : Field :=
  match Key.ofText? p.1 with
  | some key => if f.kind.admits key then (f.set key (partOf p.1 p.2)).1 else f
  | none => f

theorem absorb_unknown (h : Key.ofText? p.1 = none) : f.absorb p = f := by
  rw [absorb, h]

theorem absorb_known (hkey : Key.ofText? p.1 = some key) :
    f.absorb p = if f.kind.admits key then (f.set key (partOf p.1 p.2)).1 else f := by
  rw [absorb, hkey]

theorem absorb_adopt (hkey : Key.ofText? p.1 = some key) (hkind : g.kind = f.kind)
    (hown : adopt key f g = g) : g.absorb p = adopt key (f.absorb p) g := by
  rw [absorb_known hkey, absorb_known hkey, hkind, ← Key.text_of_ofText? hkey]
  split
  · exact set_adopt hkind hown
  · exact hown.symm

/-- A pair changes what its key stands for, and nothing else. -/
theorem absorb_eq (f : Field) (hkey : Key.ofText? p.1 = some key) :
    f.absorb p = adopt key (f.absorb p) f :=
  absorb_adopt hkey rfl (adopt_self key f)

theorem absorb_kind (f : Field) (p : String × Node) : (f.absorb p).kind = f.kind := by
  cases hkey : Key.ofText? p.1 with
  | none => rw [absorb_unknown hkey]
  | some key => rw [absorb_eq f hkey, adopt_kind]

/-- Pairs under different keys may be read in either order. -/
theorem absorb_comm (f : Field) (hne : p.1 ≠ q.1) :
    (f.absorb p).absorb q = (f.absorb q).absorb p := by
  cases hp : Key.ofText? p.1 with
  | none => rw [absorb_unknown hp, absorb_unknown hp]
  | some k =>
    cases hq : Key.ofText? q.1 with
    | none => rw [absorb_unknown hq, absorb_unknown hq]
    | some l =>
      have hkeys : k ≠ l := by
        rintro rfl
        exact hne ((Key.text_of_ofText? hp).symm.trans (Key.text_of_ofText? hq))
      have hownl : adopt l f (f.absorb p) = f.absorb p := by
        rw [absorb_eq f hp, adopt_comm hkeys.symm, adopt_self]
      have hownk : adopt k f (f.absorb q) = f.absorb q := by
        rw [absorb_eq f hq, adopt_comm hkeys, adopt_self]
      calc (f.absorb p).absorb q = adopt l (f.absorb q) (f.absorb p) :=
          absorb_adopt hq (absorb_kind f p) hownl
        _ = adopt l (f.absorb q) (adopt k (f.absorb p) f) := by rw [← absorb_eq f hp]
        _ = adopt k (f.absorb p) (adopt l (f.absorb q) f) := adopt_comm hkeys.symm
        _ = adopt k (f.absorb p) (f.absorb q) := by rw [← absorb_eq f hq]
        _ = (f.absorb q).absorb p := (absorb_adopt hp (absorb_kind f q) hownk).symm

theorem absorb_withIssues (f : Field) (p : String × Node) (issues : List Issue) :
    (f.withIssues issues).absorb p = (f.absorb p).withIssues issues := by
  cases hkey : Key.ofText? p.1 with
  | none => rw [absorb_unknown hkey, absorb_unknown hkey]
  | some key =>
    have hown : adopt key f (f.withIssues issues) = f.withIssues issues := by
      rw [adopt_withIssues, adopt_self]
    rw [absorb_adopt hkey (withIssues_kind f issues) hown, adopt_withIssues, ← absorb_eq f hkey]

end

/-! ### One pair -/

/-- The fault that a pair ends the reading with, if there is one. -/
def fault? [Host] (kind : Kind) (p : String × Node) : Option ConversionFault :=
  match Key.ofText? p.1 with
  | some key =>
    if kind.admits key then
      match (Field.set { kind := kind } key (partOf p.1 p.2)).2 with
      | some (.fault fault) => some fault
      | _ => none
    else none
  | none => none

/-- What is found wrong with a pair for a kind. -/
def findings [Host] (kind : Kind) (p : String × Node) : List Issue :=
  finding kind p.1 (partOf p.1 p.2)

theorem not_admits_type (kind : Kind) : kind.admits .type = false := by
  cases kind <;> rfl

section

variable [Host]

theorem findings_unknown (kind : Kind) (h : Key.ofText? p.1 = none) : findings kind p =
    [.incomplete s!"Unknown key '{p.1}'" "Remove or correct the key"] := by
  rw [findings, finding, h]

theorem findings_known (kind : Kind) (hkey : Key.ofText? p.1 = some key) (htype : key ≠ .type) :
    findings kind p =
      if kind.admits key then
        match (Field.set { kind := kind } key (partOf p.1 p.2)).2 with
        | some (.complaint c) =>
          [.severe s!"Invalid {key.text}: {c.message}" s!"Fix the {key.text} value"]
        | _ => []
      else [meaningless key kind] := by
  rw [findings, finding, hkey]
  cases key <;> first | rfl | exact absurd rfl htype

theorem fault?_unknown (kind : Kind) (h : Key.ofText? p.1 = none) : fault? kind p = none := by
  rw [fault?, h]

theorem fault?_known (kind : Kind) (hkey : Key.ofText? p.1 = some key) :
    fault? kind p =
      if kind.admits key then
        match (Field.set { kind := kind } key (partOf p.1 p.2)).2 with
        | some (.fault fault) => some fault
        | _ => none
      else none := by
  rw [fault?, hkey]

theorem read_eq (f : Field) (p : String × Node) : f.read p.1 (partOf p.1 p.2) =
    match fault? f.kind p with
    | some fault => .error (.conversion fault)
    | none => .ok ((f.absorb p).withIssues (f.issues ++ findings f.kind p)) := by
  rw [Field.read, findings, finding, fault?, absorb]
  split
  · next hkey =>
    rw [hkey]
    rfl
  · next hkey =>
    simp only [hkey, not_admits_type]
    rfl
  · next key hne hkey =>
    have hissues := f.set_issues key (partOf p.1 p.2)
    have hobstacle : (Field.set { kind := f.kind } key (partOf p.1 p.2)).2 =
        (f.set key (partOf p.1 p.2)).2 := set_obstacle_eq rfl
    rw [hkey]
    simp only [hobstacle]
    split
    · generalize f.set key (partOf p.1 p.2) = outcome at hissues ⊢
      obtain ⟨g, obstacle⟩ := outcome
      rw [← hissues]
      cases obstacle with
      | none =>
        dsimp only
        rw [List.append_nil, withIssues_self]
      | some obstacle => cases obstacle <;> rfl
    · rfl

end

/-! ### All pairs -/

/-- What the pairs of a description make of a field. -/
def absorbAll [Host] (f : Field) (nodes : Keyed String Node) : Field := nodes.foldl absorb f

variable {kind : Kind} {nodes before after : Keyed String Node}

theorem absorbAll_kind [Host] (f : Field) (nodes : Keyed String Node) :
    (f.absorbAll nodes).kind = f.kind := by
  induction nodes generalizing f with
  | nil => rfl
  | cons p rest ih => exact (ih (f.absorb p)).trans (absorb_kind f p)

theorem absorbAll_withIssues [Host] (f : Field) (nodes : Keyed String Node) (issues : List Issue) :
    (f.withIssues issues).absorbAll nodes = (f.absorbAll nodes).withIssues issues := by
  induction nodes generalizing f with
  | nil => rfl
  | cons p rest ih =>
    rw [absorbAll, List.foldl_cons, absorb_withIssues]
    exact ih (f.absorb p)

/-- A pair may as well be read last, if no pair behind it has its key. -/
theorem absorbAll_middle [Host] (f : Field) (hnew : ∀ q ∈ after, p.1 ≠ q.1) :
    f.absorbAll (before ++ p :: after) = (f.absorbAll (before ++ after)).absorb p := by
  have hlast (g : Field) : (g.absorb p).absorbAll after = (g.absorbAll after).absorb p := by
    induction after generalizing g with
    | nil => rfl
    | cons q rest ih =>
      rw [absorbAll, List.foldl_cons, absorb_comm g (hnew q List.mem_cons_self)]
      exact ih (fun r hr => hnew r (List.mem_cons_of_mem q hr)) (g.absorb q)
  rw [absorbAll, List.foldl_append, List.foldl_cons, absorbAll, List.foldl_append]
  exact hlast (before.foldl absorb f)

theorem readAll_eq [Host] (f : Field) (nodes : Keyed String Node) :
    f.readAll (nodes.map fun p => (p.1, partOf p.1 p.2)) =
      match nodes.findSome? (fault? f.kind) with
      | some fault => .error (.conversion fault)
      | none =>
        .ok ((f.absorbAll nodes).withIssues (f.issues ++ nodes.flatMap (findings f.kind))) := by
  induction nodes generalizing f with
  | nil =>
    rw [List.flatMap_nil, List.append_nil]
    exact congrArg Except.ok (withIssues_self f).symm
  | cons p rest ih =>
    rw [List.map_cons, readAll, read_eq, List.findSome?_cons]
    cases fault? f.kind p with
    | some fault => rfl
    | none =>
      have hkind : ((f.absorb p).withIssues (f.issues ++ findings f.kind p)).kind = f.kind :=
        absorb_kind f p
      refine (ih _).trans ?_
      rw [hkind, absorbAll_withIssues, withIssues_withIssues, withIssues_issues, List.flatMap_cons,
        List.append_assoc]
      rfl

/-! ### Whole fields -/

/-- A field with its members compared, and with the item type that it goes without. -/
def settled (f : Field) : Field :=
  match f.kind with
  | .struct => { f with members := checkMembers [] f.members }
  | .array => { f with itemType := some (f.itemType.getD defaultItem) }
  | _ => f

/-- What is found wrong with a field as a whole. -/
def overall [Host] (f : Field) : Construction (List Issue) :=
  match f.kind with
  | .array =>
    .ok (if f.itemType.isSome then []
      else [.incomplete "Array has no item type" "Add an Item Type; one-byte elements assumed"])
  | .pointer => f.pointerIssues
  | _ => .ok []

theorem settled_struct (h : f.kind = .struct) :
    f.settled = { f with members := checkMembers [] f.members } := by
  rw [settled, h]

theorem settled_array (h : f.kind = .array) :
    f.settled = { f with itemType := some (f.itemType.getD defaultItem) } := by
  rw [settled, h]

theorem settled_other (hstruct : f.kind ≠ .struct) (harray : f.kind ≠ .array) :
    f.settled = f := by
  unfold settled
  split
  · exact absurd ‹_› hstruct
  · exact absurd ‹_› harray
  · rfl

theorem overall_array [Host] (h : f.kind = .array) : f.overall =
    .ok (if f.itemType.isSome then []
      else
        [.incomplete "Array has no item type" "Add an Item Type; one-byte elements assumed"]) := by
  rw [overall, h]

theorem overall_pointer [Host] (h : f.kind = .pointer) : f.overall = f.pointerIssues := by
  rw [overall, h]

theorem overall_other [Host] (harray : f.kind ≠ .array) (hpointer : f.kind ≠ .pointer) :
    f.overall = .ok [] := by
  unfold overall
  split
  · exact absurd ‹_› harray
  · exact absurd ‹_› hpointer
  · rfl

theorem check_eq [Host] (f : Field) :
    f.check = (fun found => f.settled.withIssues (f.issues ++ found)) <$> f.overall := by
  have hnone (g : Field) : g.withIssues (g.issues ++ []) = g := by
    rw [List.append_nil, withIssues_self]
  rw [check.eq_def]
  split
  · next hkind =>
    have hkinds : f.kind ≠ .array ∧ f.kind ≠ .pointer := by simp [hkind]
    rw [settled_struct hkind, overall_other hkinds.1 hkinds.2]
    exact congrArg Except.ok (hnone _).symm
  · next hkind =>
    rw [settled_array hkind, overall_array hkind]
    obtain ⟨a, members, itemType⟩ := f
    cases itemType with
    | none => rfl
    | some item => exact congrArg Except.ok (hnone _).symm
  · next hkind =>
    have hkinds : f.kind ≠ .struct ∧ f.kind ≠ .array := by simp [hkind]
    rw [settled_other hkinds.1 hkinds.2, overall_pointer hkind]
    cases f.pointerIssues <;> rfl
  · next hstruct harray hpointer =>
    rw [settled_other hstruct harray, overall_other harray hpointer]
    exact congrArg Except.ok (hnone f).symm

theorem settled_withIssues (f : Field) (issues : List Issue) :
    (f.withIssues issues).settled = f.settled.withIssues issues := by
  have hkind := withIssues_kind f issues
  rw [settled.eq_def, settled.eq_def, hkind]
  split <;> rfl

theorem overall_withIssues [Host] (f : Field) (issues : List Issue) :
    (f.withIssues issues).overall = f.overall := by
  have hkind := withIssues_kind f issues
  rw [overall.eq_def, overall.eq_def, hkind]
  rfl

/-! ### Descriptions -/

/-- The field of a kind that a description gives, before what is found wrong is said of it. -/
def drawn [Host] (kind : Kind) (nodes : Keyed String Node) : Field := absorbAll
    { kind := kind } nodes

theorem drawn_kind [Host] (kind : Kind) (nodes : Keyed String Node) :
    (drawn kind nodes).kind = kind :=
  absorbAll_kind _ _

/-- A description gives a field unless one of its pairs faults, or its size names a constant where
it has to be known. -/
theorem ofDescription_eq [Host] (kind : Kind) (nodes : Keyed String Node) (issues : List Issue) :
    ofDescription (.ofKind kind nodes issues) =
      match nodes.findSome? (fault? kind) with
      | some fault => .error (.conversion fault)
      | none =>
        (fun found => (drawn kind nodes).settled.withIssues
          (issues ++ (nodes.flatMap (findings kind) ++ found))) <$> (drawn kind nodes).overall := by
  have hnew : ({ kind := kind, issues := issues } : Field) =
    withIssues issues { kind := kind } := rfl
  rw [ofDescription, ofView, readAll_eq, hnew, withIssues_issues, absorbAll_withIssues,
    withIssues_withIssues]
  have hkind : (withIssues issues { kind := kind }).kind = kind := rfl
  rw [hkind]
  cases nodes.findSome? (fault? kind) with
  | some fault => rfl
  | none =>
    refine (check_eq _).trans ?_
    rw [settled_withIssues, overall_withIssues, withIssues_issues]
    simp only [withIssues_withIssues, List.append_assoc]
    rfl

end Field

end GameAtlas.Schema
