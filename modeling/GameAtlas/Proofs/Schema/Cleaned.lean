import Mathlib.Tactic
import GameAtlas.Proofs.Schema.Wording
import GameAtlas.Proofs.Schema.Content

/-!
Fields without what was said of their spellings. To leave these issues out commutes with all that
makes a field of a description: with the reading of a key, with what lies within, and with the look
at the whole field.
-/

namespace GameAtlas.Schema

/-- The issues that are not about spellings. -/
def unspelled (issues : List Issue) : List Issue := issues.filter fun i => !i.isSpelling

variable {issues found : List Issue} {i : Issue}

theorem unspelled_of_spellings (h : ∀ i ∈ issues, i.isSpelling = true) : unspelled issues = [] := by
  refine List.filter_eq_nil_iff.mpr fun i hi => ?_
  rw [h i hi]
  exact Bool.false_ne_true

theorem unspelled_append (h : ∀ i ∈ found, i.isSpelling = false) :
    unspelled (issues ++ found) = unspelled issues ++ found := by
  have hall : ∀ i ∈ found, (!i.isSpelling) = true := fun i hi => by rw [h i hi]; rfl
  rw [unspelled, List.filter_append, List.filter_eq_self.mpr hall, unspelled]

namespace Field

mutual

/-- A field without the issues about spellings, and so all that lies below it. -/
def clean (f : Field) : Field :=
  match f with
  | ⟨a, members, itemType⟩ =>
    ⟨{ a with issues := unspelled a.issues }, cleanAll members, cleanItem itemType⟩
termination_by structural f

def cleanAll (fs : List Field) : List Field :=
  match fs with
  | [] => []
  | f :: rest => clean f :: cleanAll rest
termination_by structural fs

def cleanItem (f : Option Field) : Option Field :=
  match f with
  | none => none
  | some f => some (clean f)
termination_by structural f

end

variable {f g : Field}

/-! ### What is left -/

theorem cleanAll_eq (fs : List Field) : cleanAll fs = fs.map clean := by
  induction fs with
  | nil => rfl
  | cons f rest ih => rw [cleanAll, ih, List.map_cons]

theorem cleanItem_eq (f : Option Field) : cleanItem f = f.map clean := by
  cases f <;> rfl

/-- Only the issues of a field and what lies within are changed. -/
theorem clean_outline (f : Field) :
    (clean f).kind = f.kind ∧ (clean f).name = f.name ∧ (clean f).address = f.address ∧
      (clean f).issues = unspelled f.issues := by
  obtain ⟨a, members, itemType⟩ := f
  exact ⟨rfl, rfl, rfl, rfl⟩

theorem clean_relabel (f : Field) (name : String) (issues : List Issue) :
    clean { f with name := name, issues := issues } =
      { clean f with name := name, issues := unspelled issues } := by
  obtain ⟨a, members, itemType⟩ := f
  rfl

/-- Issues that are not about spellings may be added before or after. -/
theorem clean_append (f : Field) (h : ∀ i ∈ found, i.isSpelling = false) :
    clean { f with issues := f.issues ++ found } =
      { clean f with issues := (clean f).issues ++ found } := by
  obtain ⟨_, hname, _, hissues⟩ := clean_outline f
  have hsame := clean_relabel f f.name (f.issues ++ found)
  rw [unspelled_append h, ← hissues] at hsame
  rw [hsame, ← hname]

theorem clean_addIssue (f : Field) (h : i.isSpelling = false) :
    clean (f.addIssue i) = (clean f).addIssue i :=
  clean_append f fun _ hj => List.mem_singleton.mp hj ▸ h

theorem clean_named (f : Field) (name : String) : clean (f.named name) = (clean f).named name := by
  obtain ⟨a, members, itemType⟩ := f
  rfl

theorem content_clean (f : Field) {size : String → String} :
    content size (clean f) = content size f := by
  induction f using Field.tree_induction with
  | step a members itemType ihMembers ihItem =>
    have hall : contentAll size (cleanAll members) = contentAll size members := by
      clear ihItem
      induction members with
      | nil => rfl
      | cons m rest ih =>
        rw [cleanAll, contentAll, contentAll, ihMembers m List.mem_cons_self,
          ih fun x hx => ihMembers x (List.mem_cons_of_mem m hx)]
    have hone : contentItem size (cleanItem itemType) = contentItem size itemType := by
      cases itemType with
      | none => rfl
      | some i => rw [cleanItem, contentItem, contentItem, ihItem i rfl]
    rw [clean, content, content, hall, hone]

theorem children_clean (f : Field) : (clean f).children = f.children.map clean := by
  obtain ⟨a, members, itemType⟩ := f
  rw [clean, children, children, cleanAll_eq, cleanItem_eq]
  split
  · cases itemType <;> rfl
  · rfl

/-- Of a field and of what lies below it, the issues about spellings are left out. -/
theorem problems_clean (f : Field) : (clean f).problems = unspelled f.problems := by
  induction f using Field.tree_induction with
  | step a members itemType ihMembers ihItem =>
    have hbelow : ∀ c ∈ children ⟨a, members, itemType⟩,
        (clean c).problems = unspelled c.problems := by
      intro c hc
      rcases of_mem_children hc with hmember | hitem
      · exact ihMembers c hmember
      · exact ihItem c hitem
    have hissues : (clean ⟨a, members, itemType⟩).issues = unspelled a.issues := rfl
    rw [problems_eq, problems_eq, children_clean, hissues, List.flatMap_map,
      List.flatMap_congr hbelow, unspelled, unspelled, List.filter_append, List.filter_flatMap]
    rfl

/-! ### Checks -/

theorem checkItem_clean (f : Field) : checkItem (clean f) = clean (checkItem f) := by
  obtain ⟨_, _, haddress, _⟩ := clean_outline f
  rw [checkItem, checkItem, haddress]
  split
  · have hlasts := lasts_itemOffset _ List.mem_cons_self
    rw [clean_addIssue f (Issue.not_isSpelling_of_lasts hlasts)]
  · rfl

theorem checkMembers_clean (seen : List String) (members : List Field) :
    checkMembers seen (cleanAll members) = cleanAll (checkMembers seen members) := by
  induction members generalizing seen with
  | nil => rfl
  | cons m rest ih =>
    obtain ⟨_, hname, haddress, _⟩ := clean_outline m
    have hfound : memberIssues seen (clean m) = memberIssues seen m := by
      rw [memberIssues, memberIssues, hname, haddress]
    have hmember := clean_append m fun i hi =>
      Issue.not_isSpelling_of_lasts (lasts_memberIssues seen m i hi)
    have hrest : checkMembers ((clean m).name :: seen) (cleanAll rest) =
        cleanAll (checkMembers (m.name :: seen) rest) := by
      rw [hname, ih]
    rw [cleanAll, checkMembers, checkMembers, cleanAll, hfound, hrest, hmember]

theorem pointerIssues_clean [Host] (f : Field) : (clean f).pointerIssues = f.pointerIssues := by
  obtain ⟨a, members, itemType⟩ := f
  rfl

/-- To look at a field as a whole does not depend on what was said of spellings. -/
theorem check_clean [Host] (f : Field) : (clean f).check = clean <$> f.check := by
  obtain ⟨hkind, _, _, hissues⟩ := clean_outline f
  rw [check.eq_def, check.eq_def, hkind]
  split
  · obtain ⟨a, members, itemType⟩ := f
    have hmembers := checkMembers_clean [] members
    exact congrArg (fun found => Except.ok (⟨_, found, _⟩ : Field)) hmembers
  · obtain ⟨a, members, itemType⟩ := f
    cases itemType with
    | some item => rfl
    | none =>
      have hdefault := clean_addIssue ⟨a, members, some defaultItem⟩ isMisuse_noItem.2
      exact congrArg Except.ok hdefault.symm
  · rw [pointerIssues_clean]
    cases hfound : f.pointerIssues with
    | error e => rfl
    | ok found =>
      have hpointer := clean_append f fun i hi =>
        Issue.not_isSpelling_of_lasts (lasts_pointerIssues hfound i hi)
      obtain ⟨a, members, itemType⟩ := f
      exact congrArg Except.ok hpointer.symm
  · rfl

/-! ### Keys -/

end Field

/-- What stands under a key, but for what was said of spellings there. -/
def Part.clean : Part → Part
  | .value n => .value n
  | .members fields => .members (Field.cleanAll <$> fields)
  | .item field => .item (Field.clean <$> field)

namespace Field

variable {f g : Field} {α : Type}

theorem ofConstruction_map (h : α → α) (c : Construction α) :
    Reading.ofConstruction (h <$> c) = h <$> Reading.ofConstruction c := by
  cases c with
  | ok a => rfl
  | error fault =>
    cases fault with
    | conversion fault => cases fault <;> rfl
    | bare name => rfl

theorem take_clean (f : Field) (reading : Reading α) {update update' : α → Field}
    (h : ∀ a, update' a = clean (update a)) :
    (clean f).take reading update' =
      (clean (f.take reading update).1, (f.take reading update).2) := by
  cases reading with
  | ok a => exact Prod.ext (h a) rfl
  | error obstacle => rfl

theorem take_map (f : Field) (change : α → α) (reading : Reading α) (update : α → Field) :
    f.take (change <$> reading) update = f.take reading fun a => update (change a) := by
  cases reading <;> rfl

theorem setValue_clean [Host] (f : Field) (key : Key) (n : Yaml.Node) :
    (clean f).setValue key n = (clean (f.setValue key n).1, (f.setValue key n).2) := by
  obtain ⟨a, members, itemType⟩ := f
  cases key with
  | base =>
    rw [clean, setValue, setValue]
    split
    · exact take_clean ⟨a, members, itemType⟩ _ fun _ => rfl
    · exact take_clean ⟨a, members, itemType⟩ _ fun _ => rfl
  | labelStates => cases n <;> rfl
  | type | entries | itemType => rfl
  | _ => exact take_clean _ _ fun _ => rfl

theorem set_clean [Host] (f : Field) (key : Key) (part : Part) :
    (clean f).set key part.clean = (clean (f.set key part).1, (f.set key part).2) := by
  obtain ⟨a, members, itemType⟩ := f
  cases part with
  | value n => exact setValue_clean _ key n
  | members fields =>
    rw [Part.clean, set, set, take_map]
    exact take_clean _ _ fun _ => rfl
  | item field =>
    rw [Part.clean, set, set, ofConstruction_map, take_map]
    refine take_clean _ _ fun item => ?_
    rw [checkItem_clean]
    rfl

/-- To read a key adds no issue about a spelling. What stands under a key that the kind has no use
for does not matter. -/
theorem read_clean [Host] {text : String} {part part' : Part}
    (h : ∀ key, Key.ofText? text = some key → f.kind.admits key = true → part' = part.clean) :
    (clean f).read text part' = clean <$> f.read text part := by
  obtain ⟨hkind, _⟩ := clean_outline f
  have hadd (g : Field) {i : Issue} (h : i.isMisuse = true ∧ i.isSpelling = false) :
      (.ok ((clean g).addIssue i) : Construction Field) = clean <$> .ok (g.addIssue i) :=
    congrArg Except.ok (clean_addIssue g h.2).symm
  rw [read, read]
  split
  · exact hadd f (isMisuse_unknown text)
  · exact hadd f isMisuse_redundant
  · next key _ hkey =>
    rw [hkind]
    split
    · next huse =>
      rw [h key hkey huse, set_clean]
      obtain ⟨g, obstacle⟩ := f.set key part
      cases obstacle with
      | none => rfl
      | some obstacle =>
        cases obstacle with
        | complaint c => exact hadd g (isMisuse_invalid key c)
        | fault fault => rfl
    · exact hadd f (isMisuse_meaningless key f.kind)

theorem read_kind [Host] {text : String} {part : Part} (h : f.read text part = .ok g) :
    g.kind = f.kind := by
  have hset (key : Key) : (f.set key part).1.kind = f.kind := by
    cases part with
    | value n => exact (setValue_sameBut f key n).kind
    | members fields => exact take_cases (P := fun g => g.kind = f.kind) rfl fun _ _ => rfl
    | item field => exact take_cases (P := fun g => g.kind = f.kind) rfl fun _ _ => rfl
  rcases read_frame h with ⟨key, _, _, hframe⟩ | ⟨_, hframe⟩
  · exact (congrArg Prod.fst hframe).trans (hset key)
  · exact congrArg Prod.fst hframe

section

variable {nodes : Keyed String Yaml.Node} {part part' : String × Yaml.Node → Part}

theorem readAll_clean [Host] (h : ∀ p ∈ nodes, ∀ key, Key.ofText? p.1 = some key →
      f.kind.admits key = true → part' p = (part p).clean) :
    readAll (clean f) (nodes.map fun p => (p.1, part' p)) =
      clean <$> readAll f (nodes.map fun p => (p.1, part p)) := by
  induction nodes generalizing f with
  | nil => rfl
  | cons p rest ih =>
    rw [List.map_cons, List.map_cons, readAll, readAll, read_clean (h p List.mem_cons_self)]
    cases hread : f.read p.1 (part p) with
    | error e => rfl
    | ok g =>
      refine ih fun q hq key hkey huse => h q (List.mem_cons_of_mem p hq) key hkey ?_
      rwa [read_kind hread] at huse

/-- A field of a kind from what stands under its keys, whatever was said of their spelling. -/
theorem ofView_clean [Host] {kind : Kind} (hissues : ∀ i ∈ issues, i.isSpelling = true)
    (h : ∀ p ∈ nodes, ∀ key, Key.ofText? p.1 = some key →
      kind.admits key = true → part' p = (part p).clean) :
    ofView kind (nodes.map fun p => (p.1, part' p)) [] =
      clean <$> ofView kind (nodes.map fun p => (p.1, part p)) issues := by
  have hnew : clean { kind := kind, issues := issues } = { kind := kind } :=
    congrArg (fun found => ({ kind := kind, issues := found } : Field))
      (unspelled_of_spellings hissues)
  have hread := readAll_clean (f := { kind := kind, issues := issues }) h
  rw [ofView, ofView, ← hnew, hread]
  cases readAll { kind := kind, issues := issues } (nodes.map fun p => (p.1, part p)) with
  | error e => rfl
  | ok g => exact check_clean g

end

theorem clean_undefined (h : i.isSpelling = false) : clean (undefined i) = undefined i := by
  have hadd := clean_addIssue { kind := .undefined } h
  exact hadd

end Field

end GameAtlas.Schema
