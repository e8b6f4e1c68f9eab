import GameAtlas.Schema.Size

/-!
Fields as trees. What holds of a field once it holds of its members and of its item type holds of
every field, and the fields within a field are those within what lies right below it.
-/

namespace GameAtlas.Schema.Field

theorem tree_induction {P : Field → Prop}
    (step : ∀ (attributes : Attributes) (members : List Field) (itemType : Option Field),
      (∀ m ∈ members, P m) → (∀ item, itemType = some item → P item) →
      P ⟨attributes, members, itemType⟩)
    (f : Field) : P f := by
  refine @Field.rec P (fun members => ∀ m ∈ members, P m)
    (fun itemType => ∀ item, itemType = some item → P item) ?_ ?_ ?_ ?_ ?_ f
  · intro attributes members itemType ihMembers ihItem
    exact step attributes members itemType ihMembers ihItem
  · intro m hm
    cases hm
  · intro head tail ihHead ihTail m hm
    rcases List.mem_cons.mp hm with rfl | hm
    · exact ihHead
    · exact ihTail m hm
  · intro item h
    cases h
  · intro item ih other h
    cases h
    exact ih

/-! ### Fields within fields -/

variable {f g : Field}

theorem mem_walkAll {fs : List Field} : g ∈ walkAll fs ↔ ∃ f ∈ fs, g ∈ f.walk := by
  induction fs with
  | nil => simp [walkAll]
  | cons f rest ih => simp [walkAll, ih]

theorem mem_walkItem {item : Option Field} : g ∈ walkItem item ↔ ∃ f ∈ item, g ∈ f.walk := by
  cases item <;> simp [walkItem]

theorem of_mem_children {c : Field} (h : c ∈ f.children) : c ∈ f.members ∨ c ∈ f.itemType := by
  unfold children at h
  split at h
  · exact .inr (by simpa using h)
  · exact .inl h

theorem mem_walk_iff : g ∈ f.walk ↔ g = f ∨ ∃ c ∈ f.children, g ∈ c.walk := by
  obtain ⟨attributes, members, itemType⟩ := f
  rw [walk, List.mem_cons, children]
  by_cases hkind : attributes.kind = .array
  · simp [hkind, mem_walkItem]
  · simp [hkind, mem_walkAll]

theorem self_mem_walk (f : Field) : f ∈ f.walk :=
  mem_walk_iff.mpr (.inl rfl)

theorem mem_walk_of_child {c : Field} (hc : c ∈ f.children) (hg : g ∈ c.walk) : g ∈ f.walk :=
  mem_walk_iff.mpr (.inr ⟨c, hc, hg⟩)

theorem children_of_array (h : f.kind = .array) : f.children = f.itemType.toList :=
  if_pos h

theorem children_of_not_array (h : f.kind ≠ .array) : f.children = f.members :=
  if_neg h

/-! ### Sizes -/

theorem isSome_of_resolvedSize [Host] {bindings : Expression.Bindings} {n : Nat}
    (h : f.resolvedSize bindings = .ok n) : f.size.isSome := by
  unfold Attributes.resolvedSize at h
  cases hstated : f.size with
  | none =>
    rw [hstated] at h
    cases h
  | some text => rfl

theorem staticSize_eq [Host] (f : Field) : f.staticSize =
    if f.size.isNone && f.kind == .struct && !f.members.isEmpty then staticSizes f.members
    else f.resolvedSize [] := by
  cases f
  rw [staticSize]

/-- Only structs are measured by what lies within. -/
theorem staticSize_of_not_struct [Host] (h : f.kind ≠ .struct) : f.staticSize = f.resolvedSize
    [] := by
  have hkind : (f.kind == .struct) = false := beq_false_of_ne h
  simp [staticSize_eq, hkind]

end GameAtlas.Schema.Field
