import Mathlib.Tactic
import GameAtlas.Proofs.Schema.Rules
import GameAtlas.Proofs.Schema.Absorbed

/-!
Fields that differ in the order of their issues at most. What stands under the keys of a description
may be replaced by what is alike, and the keys may be put in another order: the fields that are read
are alike.
-/

namespace GameAtlas.Schema

open Yaml (Node ConversionFault)

/-- Fields that say the same, each with the same issues in some order, and so within. -/
inductive Field.Alike : Field → Field → Prop where
  | intro {a : Attributes} {issues : List Issue} {members members' : List Field}
      {itemType itemType' : Option Field} :
      a.issues.Perm issues → List.Forall₂ Alike members members' →
      Option.Rel Alike itemType itemType' →
      Alike ⟨a, members, itemType⟩ ⟨{ a with issues := issues }, members', itemType'⟩

namespace Field

variable {f g h : Field} {own own' : List Issue}

/-! ### Alike fields -/

theorem Alike.refl (f : Field) : f.Alike f := by
  induction f using tree_induction with
  | step a members itemType ihMembers ihItem =>
    have hitem : Option.Rel Alike itemType itemType := by
      cases itemType with
      | none => exact .none
      | some item => exact .some (ihItem item rfl)
    exact .intro (.refl a.issues) (List.forall₂_same.mpr ihMembers) hitem

theorem forall₂_trans {R : Field → Field → Prop} {fs gs hs : List Field}
    (htrans : ∀ f ∈ fs, ∀ g h, R f g → R g h → R f h) (hfg : List.Forall₂ R fs gs)
    (hgh : List.Forall₂ R gs hs) : List.Forall₂ R fs hs := by
  induction hfg generalizing hs with
  | nil => exact hgh
  | cons hhead _ ih =>
    cases hgh with
    | cons hhead' htail' =>
      refine .cons (htrans _ List.mem_cons_self _ _ hhead hhead') (ih ?_ htail')
      exact fun f hf => htrans f (List.mem_cons_of_mem _ hf)

theorem Alike.trans (hfg : f.Alike g) (hgh : g.Alike h) : f.Alike h := by
  induction f using tree_induction generalizing g h with
  | step a members itemType ihMembers ihItem =>
    obtain ⟨hissues, hmembers, hitem⟩ := hfg
    obtain ⟨hissues', hmembers', hitem'⟩ := hgh
    refine .intro (hissues.trans hissues') (forall₂_trans (fun f hf _ _ => ihMembers f hf) hmembers
      hmembers') ?_
    cases hitem with
    | none => exact hitem'
    | some hone =>
      cases hitem' with
      | some hone' => exact .some (ihItem _ rfl hone hone')

theorem Alike.issues (h : f.Alike g) : f.issues.Perm g.issues := by
  cases h with
  | intro hissues _ _ => exact hissues

/-- What alike fields agree on. -/
theorem Alike.outline (h : f.Alike g) :
    g.kind = f.kind ∧ g.name = f.name ∧ g.address = f.address ∧ g.size = f.size := by
  cases h
  exact ⟨rfl, rfl, rfl, rfl⟩

theorem Alike.withIssues (h : f.Alike g) (hown : own.Perm own') :
    (f.withIssues own).Alike (g.withIssues own') := by
  cases h with
  | intro _ hmembers hitem => exact .intro hown hmembers hitem

theorem Alike.append (h : f.Alike g) (found : List Issue) :
    (f.withIssues (f.issues ++ found)).Alike (g.withIssues (g.issues ++ found)) :=
  h.withIssues (h.issues.append_right found)

theorem Alike.named (h : f.Alike g) (name : String) : (f.named name).Alike (g.named name) := by
  cases h with
  | intro hissues hmembers hitem => exact .intro hissues hmembers hitem

/-! ### Checks -/

theorem Alike.checkItem (h : f.Alike g) : (checkItem f).Alike (checkItem g) := by
  obtain ⟨_, _, haddress, _⟩ := h.outline
  rw [Field.checkItem, Field.checkItem, haddress]
  split
  · exact h.append _
  · exact h

theorem alike_checkMembers {members members' : List Field}
    (h : List.Forall₂ Alike members members') (seen : List String) :
    List.Forall₂ Alike (checkMembers seen members) (checkMembers seen members') := by
  induction h generalizing seen with
  | nil => exact .nil
  | @cons m m' rest rest' hhead _ ih =>
    obtain ⟨_, hname, haddress, _⟩ := hhead.outline
    have hfound : memberIssues seen m' = memberIssues seen m := by
      rw [memberIssues, memberIssues, hname, haddress]
    rw [checkMembers, checkMembers, hfound]
    refine .cons (hhead.append _) ?_
    rw [hname]
    exact ih (m.name :: seen)

theorem Alike.settled (h : f.Alike g) : f.settled.Alike g.settled := by
  obtain ⟨hkind, _⟩ := h.outline
  rw [Field.settled.eq_def, Field.settled.eq_def, hkind]
  split
  · cases h with
    | intro hissues hmembers hitem => exact .intro hissues (alike_checkMembers hmembers []) hitem
  · cases h with
    | intro hissues hmembers hitem =>
      refine .intro hissues hmembers (.some ?_)
      cases hitem with
      | none => exact .refl defaultItem
      | some hone => exact hone
  · exact h

theorem Alike.overall [Host] (h : f.Alike g) : g.overall = f.overall := by
  obtain ⟨hkind, _⟩ := h.outline
  rw [Field.overall.eq_def, Field.overall.eq_def, hkind]
  split
  · cases h with
    | intro _ _ hitem => cases hitem <;> rfl
  · cases h
    rfl
  · rfl

end Field

/-! ### Alike parts -/

/-- Readings of what is alike, or that fail alike: with one complaint, or both with a fault. -/
inductive Reading.Matches {α : Type} (R : α → α → Prop) : Reading α → Reading α → Prop where
  | ok {a b : α} : R a b → Matches R (.ok a) (.ok b)
  | complaint (c : Complaint) : Matches R (.error (.complaint c)) (.error (.complaint c))
  | fault (fault fault' : ConversionFault) :
      Matches R (.error (.fault fault)) (.error (.fault fault'))

/-- What stands under a key, alike. -/
inductive Part.Alike : Part → Part → Prop where
  | value (n : Node) : Alike (.value n) (.value n)
  | members {fields fields' : Reading (List Field)} :
      Reading.Matches (List.Forall₂ Field.Alike) fields fields' →
      Alike (.members fields) (.members fields')
  | item {field field' : Construction Field} :
      Reading.Matches Field.Alike (Reading.ofConstruction field)
        (Reading.ofConstruction field') → Alike (.item field) (.item field')

namespace Reading

variable {α β : Type} {R : α → α → Prop} {S : β → β → Prop} {r r' s : Reading α}

theorem Matches.refl (hrefl : ∀ a, R a a) (r : Reading α) : Matches R r r := by
  cases r with
  | ok a => exact .ok (hrefl a)
  | error obstacle =>
    cases obstacle with
    | complaint c => exact .complaint c
    | fault fault => exact .fault fault fault

theorem Matches.trans (htrans : ∀ a b c, R a b → R b c → R a c) (h : Matches R r r')
    (h' : Matches R r' s) : Matches R r s := by
  cases h with
  | ok hab =>
    cases h' with
    | ok hbc => exact .ok (htrans _ _ _ hab hbc)
  | complaint c => exact h'
  | fault fault _ =>
    cases h' with
    | fault _ fault' => exact .fault fault fault'

theorem Matches.bind {next next' : α → Reading β} (h : Matches R r r')
    (hnext : ∀ a b, R a b → Matches S (next a) (next' b)) :
    Matches S (r >>= next) (r' >>= next') := by
  cases h with
  | ok hab => exact hnext _ _ hab
  | complaint c => exact .complaint c
  | fault fault fault' => exact .fault fault fault'

theorem Matches.mapM {γ : Type} {read : γ → Reading α} {xs ys : List γ}
    (h : List.Forall₂ (fun x y => Matches R (read x) (read y)) xs ys) :
    Matches (List.Forall₂ R) (xs.mapM read) (ys.mapM read) := by
  induction h with
  | nil => exact .ok .nil
  | cons hhead _ ih =>
    rw [List.mapM_cons, List.mapM_cons]
    exact hhead.bind fun a b hab => ih.bind fun as bs habs => .ok (.cons hab habs)

theorem ofConstruction_conversion {fault : ConversionFault} (h : ∀ m, fault ≠ .misfit m) :
    ofConstruction (α := α) (.error (.conversion fault)) = .error (.fault fault) := by
  cases fault with
  | misfit m => exact absurd rfl (h m)
  | _ => rfl

theorem ofConstruction_ne_misfit {c : Construction α} {m : Yaml.Misfit} :
    ofConstruction c ≠ .error (.fault (.misfit m)) := by
  intro h
  have hfault := Field.ofConstruction_fault h
  rw [hfault] at h
  cases h

theorem ofConstruction_bind (c : Construction α) (next : α → Construction β) :
    ofConstruction (c >>= next) = ofConstruction c >>= fun a => ofConstruction (next a) := by
  cases c with
  | ok a => rfl
  | error fault =>
    cases fault with
    | conversion fault => cases fault <;> rfl
    | bare c => rfl

theorem ofConstruction_mapM {γ : Type} (read : γ → Construction α) (xs : List γ) :
    ofConstruction (xs.mapM read) = xs.mapM fun x => ofConstruction (read x) := by
  induction xs with
  | nil => rfl
  | cons x rest ih =>
    rw [List.mapM_cons, List.mapM_cons, ofConstruction_bind]
    simp only [ofConstruction_bind, ih]
    rfl

end Reading

namespace Field

variable {f g : Field} {kind : Kind} {key : Key} {part part' : Part} {p q : String × Node}
  {nodes nodes' : Keyed String Node} {issues issues' : List Issue}

theorem take_alike {α : Type} {R : α → α → Prop} {r r' : Reading α} {update update' : α → Field}
    (hfield : f.Alike g) (h : Reading.Matches R r r')
    (hupdate : ∀ a b, R a b → (update a).Alike (update' b)) :
    (f.take r update).1.Alike (g.take r' update').1 := by
  cases h with
  | ok hab => exact hupdate _ _ hab
  | complaint c => exact hfield
  | fault fault fault' => exact hfield

theorem adopt_alike (k : Key) (hentries : k ≠ .entries) (hitem : k ≠ .itemType) (h : f.Alike g) :
    adopt k f g = g ∧ ∀ other, (adopt k other f).Alike (adopt k other g) := by
  cases h with
  | intro hissues hmembers hone =>
    cases k with
    | entries => exact absurd rfl hentries
    | itemType => exact absurd rfl hitem
    | _ => exact ⟨rfl, fun _ => .intro hissues hmembers hone⟩

section

variable [Host]

/-- A value makes the same of alike fields. -/
theorem setValue_alike (h : f.Alike g) (key : Key) (n : Node) :
    (f.setValue key n).1.Alike (g.setValue key n).1 := by
  obtain ⟨hkind, _⟩ := h.outline
  by_cases hentries : key = .entries
  · subst hentries
    exact h
  · by_cases hitem : key = .itemType
    · subst hitem
      exact h
    · obtain ⟨hown, halike⟩ := adopt_alike key hentries hitem h
      have hf : (f.setValue key n).1 = adopt key (f.setValue key n).1 f :=
        setValue_adopt rfl (adopt_self key f)
      have hsame := halike (f.setValue key n).1
      rw [← hf] at hsame
      rw [setValue_adopt hkind hown]
      exact hsame

theorem set_alike (h : f.Alike g) (key : Key) (hpart : part.Alike part') :
    (f.set key part).1.Alike (g.set key part').1 := by
  cases hpart with
  | value n => exact setValue_alike h key n
  | members hfields =>
    refine take_alike h hfields fun fs gs hall => ?_
    cases h with
    | intro hissues _ hitem => exact .intro hissues hall hitem
  | item hfield =>
    refine take_alike h hfield fun i j hone => ?_
    cases h with
    | intro hissues hmembers _ => exact .intro hissues hmembers (.some hone.checkItem)

/-- Pairs under one key, alike as far as the key is known. -/
def PairsAlike (p q : String × Node) : Prop :=
  p.1 = q.1 ∧ ((Key.ofText? p.1).isSome → (partOf p.1 p.2).Alike (partOf q.1 q.2))

theorem absorb_alike (h : f.Alike g) (hpair : PairsAlike p q) :
    (f.absorb p).Alike (g.absorb q) := by
  obtain ⟨hkind, _⟩ := h.outline
  obtain ⟨htext, hpart⟩ := hpair
  cases hkey : Key.ofText? p.1 with
  | none => rwa [absorb_unknown hkey, absorb_unknown (htext ▸ hkey)]
  | some key =>
    rw [absorb_known hkey, absorb_known (htext ▸ hkey), hkind]
    split
    · exact set_alike h key (hpart (by rw [hkey]; rfl))
    · exact h

theorem drawn_alike (kind : Kind) (h : List.Forall₂ PairsAlike nodes nodes') :
    (drawn kind nodes).Alike (drawn kind nodes') := by
  have hall {f g : Field} (hfield : f.Alike g) :
      (f.absorbAll nodes).Alike (g.absorbAll nodes') := by
    induction h generalizing f g with
    | nil => exact hfield
    | cons hhead _ ih => exact ih (absorb_alike hfield hhead)
  exact hall (.refl _)

end

/-! ### What is found -/

theorem take_obstacle_alike {α : Type} {R : α → α → Prop} {r r' : Reading α}
    {update update' : α → Field} (h : Reading.Matches R r r') :
    (f.take r update).2 = (f.take r' update').2 ∨ ∃ fault fault',
      (f.take r update).2 = some (.fault fault) ∧ (f.take r' update').2 = some (.fault fault') := by
  cases h with
  | ok hab => exact .inl rfl
  | complaint c => exact .inl rfl
  | fault fault fault' => exact .inr ⟨fault, fault', rfl, rfl⟩

theorem set_obstacle_alike [Host] (f : Field) (key : Key) (hpart : part.Alike part') :
    (f.set key part).2 = (f.set key part').2 ∨ ∃ fault fault',
      (f.set key part).2 = some (.fault fault) ∧ (f.set key part').2 = some (.fault fault') := by
  cases hpart with
  | value n => exact .inl rfl
  | members hfields => exact take_obstacle_alike hfields
  | item hfield => exact take_obstacle_alike hfield

/-- The same is found wrong with alike pairs, and one of them faults if the other does. -/
theorem findings_alike [Host] (kind : Kind) (h : PairsAlike p q) :
    findings kind q = findings kind p ∧ (fault? kind q).isSome = (fault? kind p).isSome := by
  obtain ⟨htext, hpart⟩ := h
  cases hkey : Key.ofText? p.1 with
  | none =>
    have hkey' : Key.ofText? q.1 = none := htext ▸ hkey
    rw [findings_unknown kind hkey, findings_unknown kind hkey', fault?_unknown kind hkey,
      fault?_unknown kind hkey', htext]
    exact ⟨rfl, rfl⟩
  | some key =>
    have hkey' : Key.ofText? q.1 = some key := htext ▸ hkey
    by_cases htype : key = .type
    · subst htype
      rw [findings, findings, finding, finding, hkey, hkey', fault?_known kind hkey,
        fault?_known kind hkey', not_admits_type]
      exact ⟨rfl, rfl⟩
    · rw [findings_known kind hkey htype, findings_known kind hkey' htype, fault?_known kind hkey,
        fault?_known kind hkey']
      rcases set_obstacle_alike { kind := kind } key (hpart (by rw [hkey]; rfl)) with
        hsame | ⟨x, y, hx, hy⟩
      · rw [hsame]
        exact ⟨rfl, rfl⟩
      · rw [hx, hy]
        refine ⟨rfl, ?_⟩
        split <;> rfl

theorem findings_all_alike [Host] (kind : Kind) (h : List.Forall₂ PairsAlike nodes nodes') :
    nodes'.flatMap (findings kind) = nodes.flatMap (findings kind) ∧
      (nodes'.findSome? (fault? kind)).isSome = (nodes.findSome? (fault? kind)).isSome := by
  induction h with
  | nil => exact ⟨rfl, rfl⟩
  | cons hhead _ ih =>
    obtain ⟨hfindings, hfault⟩ := findings_alike kind hhead
    simp only [List.isSome_findSome?, List.any_cons, List.flatMap_cons, hfindings, hfault] at ih ⊢
    rw [ih.1, ih.2]
    exact ⟨rfl, rfl⟩

/-! ### Descriptions -/

/-- Misfits are complaints, so that no pair faults with one. -/
theorem not_misfit_of_fault? [Host] {fault : ConversionFault} (h : fault? kind p = some fault) :
    ∀ m, fault ≠ .misfit m := by
  rintro m rfl
  cases hkey : Key.ofText? p.1 with
  | none =>
    rw [fault?_unknown kind hkey] at h
    cases h
  | some key =>
    rw [fault?_known kind hkey] at h
    split at h
    · split at h
      · next hset =>
        cases h
        obtain ⟨text, n⟩ := p
        obtain rfl := Key.text_of_ofText? hkey
        cases key with
        | entries =>
          have hread : membersOf n = .error (.fault (.misfit m)) := take_obstacle.mp hset
          cases n with
          | scalar => cases hread
          | sequence => exact Reading.ofConstruction_ne_misfit hread
          | mapping => exact Reading.ofConstruction_ne_misfit hread
        | itemType => exact Reading.ofConstruction_ne_misfit (take_obstacle.mp hset)
        | _ =>
          rw [partOf_value hkey (by decide) (by decide)] at hset
          exact (spoils_of_setValue hset).not_misfit m rfl
      · cases h
    · cases h

end Field

/-- Descriptions that give alike fields, or fail alike. -/
def Description.Alike [Host] (d d' : Description) : Prop :=
  Reading.Matches Field.Alike (Reading.ofConstruction (Field.ofDescription d))
    (Reading.ofConstruction (Field.ofDescription d'))

theorem Description.Alike.trans [Host] {d d' d'' : Description} (h : d.Alike d')
    (h' : d'.Alike d'') :
    d.Alike d'' :=
  Reading.Matches.trans (fun _ _ _ => Field.Alike.trans) h h'

namespace Field

variable {kind : Kind} {nodes nodes' : Keyed String Node} {issues issues' : List Issue}

/-- It is enough that the fields are alike before they are looked at as a whole, and that the same
is found wrong. -/
theorem alike_of_drawn [Host] (hdrawn : (drawn kind nodes).Alike (drawn kind nodes'))
    (hfaults : (nodes'.findSome? (fault? kind)).isSome = (nodes.findSome? (fault? kind)).isSome)
    (hfound : (nodes.flatMap (findings kind)).Perm (nodes'.flatMap (findings kind)))
    (hissues : issues.Perm issues') :
    Description.Alike (.ofKind kind nodes issues) (.ofKind kind nodes' issues') := by
  rw [Description.Alike, ofDescription_eq, ofDescription_eq, hdrawn.overall]
  cases hfault : nodes.findSome? (fault? kind) with
  | some fault =>
    rw [hfault] at hfaults
    obtain ⟨fault', hfault'⟩ := Option.isSome_iff_exists.mp hfaults
    obtain ⟨p, _, hp⟩ := List.exists_of_findSome?_eq_some hfault
    obtain ⟨q, _, hq⟩ := List.exists_of_findSome?_eq_some hfault'
    rw [hfault']
    dsimp only
    rw [Reading.ofConstruction_conversion (not_misfit_of_fault? hp),
      Reading.ofConstruction_conversion (not_misfit_of_fault? hq)]
    exact .fault fault fault'
  | none =>
    rw [hfault, Option.isSome_none, Option.isSome_eq_false_iff,
      Option.isNone_iff_eq_none] at hfaults
    rw [hfaults]
    cases (drawn kind nodes).overall with
    | error fault => exact .refl Field.Alike.refl _
    | ok found =>
      exact .ok (hdrawn.settled.withIssues (hissues.append (hfound.append_right found)))

/-- What stands under the keys may be replaced. -/
theorem alike_of_forall₂ [Host] (h : List.Forall₂ PairsAlike nodes nodes')
    (hissues : issues.Perm issues') :
    Description.Alike (.ofKind kind nodes issues) (.ofKind kind nodes' issues') := by
  obtain ⟨hfindings, hfaults⟩ := findings_all_alike kind h
  refine alike_of_drawn (drawn_alike kind h) hfaults ?_ hissues
  rw [hfindings]

/-- The keys may be put in another order, since they do not mind each other. -/
theorem alike_of_perm [Host] (hdistinct : nodes.Distinct) (h : nodes.Perm nodes')
    (hissues : issues.Perm issues') :
    Description.Alike (.ofKind kind nodes issues) (.ofKind kind nodes' issues') := by
  have hdrawn : drawn kind nodes = drawn kind nodes' := by
    refine h.foldl_eq' (fun p hp q hq f => ?_) _
    by_cases hkey : p.1 = q.1
    · rw [List.inj_on_of_nodup_map hdistinct hp hq hkey]
    · exact absorb_comm f hkey
  refine alike_of_drawn (hdrawn ▸ .refl _) ?_ (h.flatMap_right _) hissues
  rw [List.isSome_findSome?, List.isSome_findSome?, Bool.eq_iff_iff, List.any_eq_true,
    List.any_eq_true]
  simp only [h.mem_iff]

end Field

end GameAtlas.Schema
