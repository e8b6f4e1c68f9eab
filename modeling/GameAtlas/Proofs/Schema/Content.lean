import Mathlib.Tactic
import GameAtlas.Proofs.Schema.Reread

/-!
The content of fields: all that they say but the issues of their definitions. Reading a description
back changes no content but for the sizes that are written as numbers.
-/

namespace GameAtlas.Schema.Field

mutual

/-- A field without issues, with its sizes rewritten. -/
def content (size : String → String) (f : Field) : Field :=
  match f with
  | ⟨a, members, itemType⟩ =>
    ⟨{ a with size := a.size.map size, issues := [] }, contentAll size members,
      contentItem size itemType⟩
termination_by structural f

def contentAll (size : String → String) (fs : List Field) : List Field :=
  match fs with
  | [] => []
  | f :: rest => content size f :: contentAll size rest
termination_by structural fs

def contentItem (size : String → String) (f : Option Field) : Option Field :=
  match f with
  | none => none
  | some f => some (content size f)
termination_by structural f

end

variable {f g : Field} {size : String → String}

/-- Issues are no content. -/
theorem content_relabel (f : Field) (issues : List Issue) :
    content size { f with issues := issues } = content size f := by
  obtain ⟨a, members, itemType⟩ := f
  rw [content, content]

theorem contentAll_checkMembers (seen : List String) (members : List Field) :
    contentAll size (checkMembers seen members) = contentAll size members := by
  induction members generalizing seen with
  | nil => rfl
  | cons m rest ih => rw [checkMembers, contentAll, contentAll, content_relabel, ih]

/-- Checks add issues, and an item type to an array that has none. -/
theorem content_rechecked [Host] (h : f.kind = .array → f.itemType.isSome) :
    content size f.rechecked = content size f := by
  cases hcheck : f.check with
  | error e =>
    rw [rechecked, hcheck]
    rfl
  | ok g =>
    rw [rechecked_of_check hcheck]
    rw [check.eq_def] at hcheck
    split at hcheck
    · cases hcheck
      obtain ⟨a, members, itemType⟩ := f
      rw [content, content, contentAll_checkMembers]
    · next hkind =>
      rw [if_pos (h hkind)] at hcheck
      cases hcheck
      rfl
    · obtain ⟨issues, -, hg⟩ := bind_eq_ok_iff.mp hcheck
      cases hg
      exact content_relabel f _
    · cases hcheck
      rfl

theorem content_checkItem (f : Field) : content size (checkItem f) = content size f := by
  rw [checkItem]
  split
  · exact content_relabel f _
  · rfl

theorem contentAll_rereadAll [Host] {members : List Field}
    (h : ∀ m ∈ members, content id (reread true m) = content writtenSize m) :
    contentAll id (rereadAll members) = contentAll writtenSize members := by
  induction members with
  | nil => rfl
  | cons m rest ih =>
    rw [rereadAll, contentAll, contentAll, h m (by simp),
      ih fun n hn => h n (List.mem_cons_of_mem m hn)]

/-- What is read back is what was written. -/
theorem content_reread [Host] (f : Field) (hf : f.Sound) :
    content id (reread true f) = content writtenSize f := by
  induction f using Field.tree_induction with
  | step a members itemType ihMembers ihItem =>
    obtain ⟨here, hmembers, hitem⟩ := hf
    have hall := contentAll_rereadAll fun m hm => ihMembers m hm (hmembers m hm)
    have hone : contentItem id (rereadItem itemType) = contentItem writtenSize itemType := by
      cases itemType with
      | none => rfl
      | some i =>
        rw [rereadItem, contentItem, contentItem, content_checkItem, ihItem i rfl (hitem i rfl)]
    have hsome : a.kind = .array → (rereadItem itemType).isSome := by
      intro hkind
      cases itemType with
      | none => cases here.arrayItem hkind
      | some i => rfl
    rw [reread, content_rechecked hsome, content, content, hall, hone]
    simp only [Attributes.reread, Attributes.restated, if_true, Option.map_map]
    rfl

/-! ### Sizes -/

theorem everywhere_mk_iff {P : Field → Prop} {a : Attributes} {members : List Field}
    {itemType : Option Field} :
    Everywhere P ⟨a, members, itemType⟩ ↔ P ⟨a, members, itemType⟩ ∧
      (∀ m ∈ members, m.Everywhere P) ∧ ∀ i ∈ itemType, i.Everywhere P := by
  constructor
  · rintro ⟨here, hmembers, hitem⟩
    exact ⟨here, hmembers, hitem⟩
  · rintro ⟨here, hmembers, hitem⟩
    exact .intro here hmembers hitem

theorem contentAll_eq_iff {s t : String → String} (members : List Field) :
    contentAll s members = contentAll t members ↔
      ∀ m ∈ members, content s m = content t m := by
  induction members with
  | nil => simp [contentAll]
  | cons m rest ih => simp [contentAll, ih]

theorem contentItem_eq_iff {s t : String → String} (itemType : Option Field) :
    contentItem s itemType = contentItem t itemType ↔
      ∀ i ∈ itemType, content s i = content t i := by
  cases itemType <;> simp [contentItem]

/-- Sizes rewritten in two ways are the same content if both ways agree on every size. -/
theorem content_eq_iff {s t : String → String} (f : Field) :
    content s f = content t f ↔ f.Everywhere fun g => ∀ z ∈ g.size, s z = t z := by
  induction f using Field.tree_induction with
  | step a members itemType ihMembers ihItem =>
    have hsize : a.size.map s = a.size.map t ↔ ∀ z ∈ a.size, s z = t z := by
      cases a.size <;> simp
    rw [content, content, everywhere_mk_iff, Field.mk.injEq, contentAll_eq_iff, contentItem_eq_iff,
      ← hsize]
    refine and_congr ?_ (and_congr ?_ ?_)
    · simp
    · exact forall₂_congr fun m hm => ihMembers m hm
    · exact forall₂_congr fun i hi => ihItem i hi

end GameAtlas.Schema.Field
