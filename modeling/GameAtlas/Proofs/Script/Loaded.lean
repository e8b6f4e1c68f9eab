import Mathlib.Tactic
import GameAtlas.Proofs.Data.Keyed
import GameAtlas.Proofs.Data.Outcome
import GameAtlas.Script.Loading

/-!
What is known of script tables that were read from a description: a pattern that passes the check
starts with a byte, and no level of a tree has two levels below it under the same byte.
-/

namespace GameAtlas.Script

/-- A pattern that starts with a byte. -/
def Pattern.Anchored (p : Pattern) : Prop := ∃ b more, p.bytes = some b :: more

theorem checked_of_anchored {p : Pattern} (h : p.Anchored) : Loading.checked p = .ok p := by
  obtain ⟨b, more, hbytes⟩ := h
  rw [Loading.checked, hbytes]

theorem checked_ok {p q : Pattern} (h : Loading.checked p = .ok q) : q = p ∧ p.Anchored := by
  unfold Loading.checked at h
  split at h
  next b more hbytes =>
    cases h
    exact ⟨rfl, b, more, hbytes⟩
  · cases h

theorem pattern_ok [Host] {n : Yaml.Node} {p : Pattern}
    (h : Loading.pattern n = .ok p) : p.Anchored := by
  unfold Loading.pattern at h
  split at h
  · split at h
    · cases h
    · obtain ⟨bytes, _, hread⟩ := bind_eq_ok_iff.mp h
      split at hread
      all_goals
        obtain ⟨replacement, _, hchecked⟩ := bind_eq_ok_iff.mp hread
        obtain ⟨rfl, hanchored⟩ := checked_ok hchecked
        exact hanchored
  · cases h

/-- Every pattern of a table that was read starts with a byte. -/
theorem anchored_of_ofNode [Host] {name : String} {n : Yaml.Node} {t : Table}
    (h : Table.ofNode name n = .ok t) : ∀ p ∈ t.patterns, p.Anchored := by
  unfold Table.ofNode at h
  split at h
  · obtain ⟨patterns, hpatterns, h⟩ := bind_eq_ok_iff.mp h
    cases h
    exact forall_of_mapM_ok (fun _ _ hp => pattern_ok hp) hpatterns
  · obtain ⟨root, _, h⟩ := bind_eq_ok_iff.mp h
    cases h
    intro p hp
    cases hp
  · cases h

/-! ### Trees -/

/-- At every depth the levels below a level stand under distinct bytes. -/
inductive Trie.Proper : Trie → Prop where
  | node {size : String} {replacement : Option String} {children : List (UInt8 × Trie)} :
      Keyed.Distinct children → (∀ p ∈ children, p.2.Proper) →
      Proper (.node size replacement children)

namespace Trie

variable {t child : Trie}

theorem Proper.leaf (size : String) (replacement : Option String) :
    Proper (.node size replacement []) :=
  .node List.nodup_nil nofun

theorem Proper.distinct (h : t.Proper) : t.children.Distinct := by
  cases h with
  | node hdistinct _ => exact hdistinct

theorem Proper.of_mem (h : t.Proper) : ∀ p ∈ t.children, p.2.Proper := by
  cases h with
  | node _ hbelow => exact hbelow

theorem Proper.withSize (h : t.Proper) (size : String) : (t.withSize size).Proper := by
  cases h with
  | node hdistinct hbelow => exact .node hdistinct hbelow

theorem Proper.withReplacement (h : t.Proper) (replacement : String) :
    (t.withReplacement replacement).Proper := by
  cases h with
  | node hdistinct hbelow => exact .node hdistinct hbelow

theorem Proper.childOrNew (h : t.Proper) (b : UInt8) : (t.childOrNew b).Proper := by
  rw [Trie.childOrNew]
  cases hchild : t.child? b with
  | none => exact .leaf t.size none
  | some child => exact h.of_mem (b, child) (Keyed.mem_of_get? hchild)

theorem Proper.setChild (h : t.Proper) (b : UInt8) (hchild : child.Proper) :
    (t.setChild b child).Proper := by
  refine .node (h.distinct.put b child) ?_
  intro p hp
  rcases Keyed.of_mem_put hp with rfl | hp
  · exact hchild
  · exact h.of_mem p hp

end Trie

namespace Loading

open Yaml (Node)

variable {t r : Trie}

theorem levelSize_proper [Host] (ht : t.Proper) {pairs : List (Node × Node)} {keys : List String}
    (h : levelSize t pairs keys = .ok r) : r.Proper := by
  induction keys generalizing t with
  | nil =>
    cases h
    exact ht
  | cons key rest ih =>
    rw [levelSize] at h
    split at h
    · obtain ⟨size, _, h⟩ := bind_eq_ok_iff.mp h
      exact ih (ht.withSize size) h
    · exact ih ht h

mutual

theorem lengths_proper [Host] (n : Node) (t r : Trie) (ht : t.Proper) (h : lengths t n = .ok r) :
    r.Proper := by
  match n with
  | .mapping _ pairs _ _ =>
    rw [lengths] at h
    obtain ⟨level, hlevel, h⟩ := bind_eq_ok_iff.mp h
    exact lengthPairs_proper pairs level r (levelSize_proper ht hlevel) h
  | .scalar .. => cases h
  | .sequence .. => cases h
termination_by structural n

theorem lengthPairs_proper [Host] (pairs : List (Node × Node)) (t r : Trie) (ht : t.Proper)
    (h : lengthPairs t pairs = .ok r) : r.Proper := by
  match pairs with
  | [] =>
    cases h
    exact ht
  | (k, v) :: rest =>
    rw [lengthPairs] at h
    split at h
    · exact lengthPairs_proper rest t r ht h
    · obtain ⟨b, _, h⟩ := bind_eq_ok_iff.mp h
      have hold : (t.childOrNew b).Proper := ht.childOrNew b
      have hrest (child : Trie) (hchild : child.Proper)
          (hread : lengthPairs (t.setChild b child) rest = .ok r) : r.Proper :=
        lengthPairs_proper rest _ r (ht.setChild b hchild) hread
      dsimp only at h
      split at h
      · obtain ⟨child, hchild, h⟩ := bind_eq_ok_iff.mp h
        exact hrest child (lengths_proper v _ child hold hchild) h
      · split at h
        · obtain ⟨child, hchild, h⟩ := bind_eq_ok_iff.mp h
          obtain ⟨size, _, rfl⟩ := map_eq_ok_iff.mp hchild
          exact hrest _ (hold.withSize size) h
        · cases h
termination_by structural pairs

end

mutual

theorem replacements_proper [Host] (n : Node) (t r : Trie) (ht : t.Proper)
    (h : replacements t n = .ok r) : r.Proper := by
  match n with
  | .mapping _ pairs _ _ =>
    rw [replacements] at h
    exact replacementPairs_proper pairs t r ht h
  | .scalar .. => cases h
  | .sequence .. => cases h
termination_by structural n

theorem replacementPairs_proper [Host] (pairs : List (Node × Node)) (t r : Trie) (ht : t.Proper)
    (h : replacementPairs t pairs = .ok r) : r.Proper := by
  match pairs with
  | [] =>
    cases h
    exact ht
  | (k, v) :: rest =>
    rw [replacementPairs] at h
    split at h
    · obtain ⟨text, _, h⟩ := bind_eq_ok_iff.mp h
      exact replacementPairs_proper rest _ r (ht.withReplacement text) h
    · obtain ⟨b, _, h⟩ := bind_eq_ok_iff.mp h
      have hold : (t.childOrNew b).Proper := ht.childOrNew b
      have hrest (child : Trie) (hchild : child.Proper)
          (hread : replacementPairs (t.setChild b child) rest = .ok r) : r.Proper :=
        replacementPairs_proper rest _ r (ht.setChild b hchild) hread
      dsimp only at h
      split at h
      · obtain ⟨child, hchild, h⟩ := bind_eq_ok_iff.mp h
        exact hrest child (replacements_proper v _ child hold hchild) h
      · split at h
        · obtain ⟨child, hchild, h⟩ := bind_eq_ok_iff.mp h
          obtain ⟨text, _, rfl⟩ := map_eq_ok_iff.mp hchild
          exact hrest _ (hold.withReplacement text) h
        · cases h
termination_by structural pairs

end

theorem trie_proper [Host] {pairs : List (Node × Node)} (h : trie pairs = .ok r) : r.Proper := by
  have hempty : Trie.empty.Proper := .leaf Trie.defaultSize none
  unfold trie at h
  dsimp only at h
  split at h
  · cases h
  · split at h
    · obtain ⟨sizes, hread, h⟩ := bind_eq_ok_iff.mp h
      have hsizes := lengths_proper _ _ sizes hempty hread
      split at h
      · exact replacements_proper _ sizes r hsizes h
      · cases h
        exact hsizes
    · split at h
      · exact replacements_proper _ .empty r hempty h
      · cases h
        exact hempty

end Loading

/-! ### Tables -/

/-- What is known of a table that was read. -/
structure Table.Sound (t : Table) : Prop where
  patterns : ∀ p ∈ t.patterns, p.Anchored
  root : t.root.Proper

theorem Table.sound_of_ofNode [Host] {name : String} {n : Yaml.Node} {t : Table}
    (h : Table.ofNode name n = .ok t) : t.Sound := by
  refine ⟨anchored_of_ofNode h, ?_⟩
  unfold Table.ofNode at h
  split at h
  · obtain ⟨patterns, _, h⟩ := bind_eq_ok_iff.mp h
    cases h
    exact .leaf Trie.defaultSize none
  · obtain ⟨root, hroot, h⟩ := bind_eq_ok_iff.mp h
    cases h
    exact Loading.trie_proper hroot
  · cases h

end GameAtlas.Script
