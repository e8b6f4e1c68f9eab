import Mathlib.Tactic
import GameAtlas.Proofs.Schema.Entries

/-!
The words that issues begin with. They tell what an issue is about: how something is spelled, what
cannot be used as it stands, or how fields lie and what they are called.
-/

namespace GameAtlas.Schema

/-! ### Openings -/

namespace Issue

/-- The reason begins with some words. -/
def begins (words : String) (i : Issue) : Bool := words.toList.isPrefixOf i.reason.toList

/-- A text is some words, or has these at its front. -/
inductive Opens (words : String) : String → Prop where
  | self : Opens words words
  | append {s : String} (h : Opens words s) (t : String) : Opens words (s ++ t)

/-- Neither of two texts begins with the other. -/
def apart (a b : String) : Bool :=
  !a.toList.isPrefixOf b.toList && !b.toList.isPrefixOf a.toList

variable {i : Issue} {words opening : String} {openings : List String}

theorem Opens.toList_prefix {s : String} (h : Opens words s) : words.toList <+: s.toList := by
  induction h with
  | self => exact List.prefix_refl _
  | append _ t ih =>
    rw [String.toList_append]
    exact ih.trans (List.prefix_append _ _)

theorem Opens.begins (h : Opens words i.reason) : i.begins words = true :=
  List.isPrefixOf_iff_prefix.mpr h.toList_prefix

/-- An issue begins in one way only. -/
theorem Opens.not_begins (h : Opens opening i.reason) (hapart : apart words opening = true) :
    i.begins words = false := by
  rw [← Bool.not_eq_true, Issue.begins, List.isPrefixOf_iff_prefix]
  intro hwords
  rcases List.prefix_or_prefix_of_prefix hwords h.toList_prefix with hprefix | hprefix
  · simp [apart, List.isPrefixOf_iff_prefix.mpr hprefix] at hapart
  · simp [apart, List.isPrefixOf_iff_prefix.mpr hprefix] at hapart

theorem Opens.any_begins (h : Opens opening i.reason) (hmem : opening ∈ openings) :
    (openings.any fun words => i.begins words) = true :=
  List.any_eq_true.mpr ⟨opening, hmem, h.begins⟩

theorem Opens.not_any_begins (h : Opens opening i.reason)
    (hapart : (openings.all fun words => apart words opening) = true) :
    (openings.any fun words => i.begins words) = false := by
  refine List.any_eq_false.mpr fun words hwords => ?_
  rw [h.not_begins (List.all_eq_true.mp hapart words hwords)]
  exact Bool.false_ne_true

/-! ### Sorts of issues -/

/-- How the issues of older and repeated spellings begin: keys that were renamed or left out, and
kinds that are named under a key. -/
def spellings : List String := ["Deprecated key '", "Duplicate key '", "Untagged legacy entry"]

/-- How the issues of what cannot be used as it stands begin: keys, values, tags and whole nodes. -/
def misuses : List String :=
  ["Unknown key '", "Type key is redundant on a tagged entry", "'", "Invalid ", "Invalid type: ",
   "Unknown tag '!", "Entry tagged '!", "Entry must be a mapping", "Missing Type",
   "Array has no item type"]

/-- How the issues of fields that were read begin: their names, places and sizes. -/
def layouts : List String :=
  ["Nested entry '", "Struct member has no name", "Duplicate entry name '", "Entry name '",
   "Array item type has an offset", "Unable to resolve pointer size: ", "Pointer size ",
   "Required offset key missing", "Missing size", "Unable to resolve size: ",
   "Overlaps with previous entry ", "Out of order: "]

/-- All sorts are told apart by how they begin. -/
theorem sorts_apart :
    (misuses.all fun opening => spellings.all fun words => apart words opening) = true ∧
      (layouts.all fun opening => spellings.all fun words => apart words opening) = true ∧
      (layouts.all fun opening => misuses.all fun words => apart words opening) = true := by
  decide +kernel

def isSpelling (i : Issue) : Bool := spellings.any fun words => i.begins words

def isMisuse (i : Issue) : Bool := misuses.any fun words => i.begins words

/-- An issue neither of a spelling nor of a misuse: it is about the fields that were read. -/
def lasts (i : Issue) : Bool := !i.isSpelling && !i.isMisuse

theorem not_lasts_of_isSpelling (h : i.isSpelling = true) : i.lasts = false := by
  rw [lasts, h]
  rfl

theorem not_lasts_of_isMisuse (h : i.isMisuse = true) : i.lasts = false := by
  rw [lasts, h, Bool.not_true, Bool.and_false]

theorem not_isSpelling_of_lasts (h : i.lasts = true) : i.isSpelling = false := by
  simp only [lasts, Bool.and_eq_true, Bool.not_eq_true'] at h
  exact h.1

theorem Opens.lasts (h : Opens opening i.reason) (hlayout : opening ∈ layouts) :
    i.lasts = true := by
  obtain ⟨_, hspellings, hmisuses⟩ := sorts_apart
  have hspelling : i.isSpelling = false :=
    h.not_any_begins (List.all_eq_true.mp hspellings opening hlayout)
  have hmisuse : i.isMisuse = false :=
    h.not_any_begins (List.all_eq_true.mp hmisuses opening hlayout)
  rw [Issue.lasts, hspelling, hmisuse]
  rfl

/-- What is wrong with the use of something is not wrong with its spelling. -/
theorem isMisuse_of_opens (h : ∃ opening ∈ misuses, Opens opening i.reason) :
    i.isMisuse = true ∧ i.isSpelling = false := by
  obtain ⟨opening, hmem, hopens⟩ := h
  obtain ⟨hspellings, _⟩ := sorts_apart
  exact ⟨hopens.any_begins hmem,
    hopens.not_any_begins (List.all_eq_true.mp hspellings opening hmem)⟩

theorem isSpelling_legacy (fix : String) :
    (Issue.incomplete "Untagged legacy entry" fix).isSpelling = true := by
  have hopens : Opens "Untagged legacy entry" (incomplete "Untagged legacy entry" fix).reason :=
    .self
  exact hopens.any_begins (by simp [spellings])

end Issue

open Issue

/-! ### Spellings -/

section Spellings

variable {α : Type}

theorem isSpelling_ignored (old canonical : String) :
    (View.ignored old canonical).isSpelling := by
  have hopens : Opens "Deprecated key '" (View.ignored old canonical).reason :=
    .append (.append (.append (.append .self _) _) _) _
  exact hopens.any_begins (by simp [spellings])

theorem isSpelling_duplicate (key : String) : (View.duplicate key).isSpelling := by
  have hopens : Opens "Duplicate key '" (View.duplicate key).reason := .append (.append .self _) _
  exact hopens.any_begins (by simp [spellings])

theorem isSpelling_respelled (old canonical : String) :
    (View.respelled old canonical).isSpelling := by
  have hopens : Opens "Deprecated key '" (View.respelled old canonical).reason :=
    .append (.append (.append (.append .self _) _) _) _
  exact hopens.any_begins (by simp [spellings])

/-- All that is said of the keys of a view is about their spelling. -/
theorem isSpelling_of_mem_view (pairs : List (String × α)) :
    ∀ i ∈ (View.ofPairs pairs).issues, i.isSpelling := by
  have hadd (v : View α) (key : String) (value : α) (hv : ∀ i ∈ v.issues, i.isSpelling) :
      ∀ i ∈ (v.add key value).issues, i.isSpelling := by
    have hsnoc (j : Issue) (hj : j.isSpelling) : ∀ i ∈ v.issues ++ [j], i.isSpelling := by
      intro i hi
      rcases List.mem_append.mp hi with hi | hi
      · exact hv i hi
      · obtain rfl := List.mem_singleton.mp hi
        exact hj
    rw [View.add]
    split
    · split
      · exact hv
      · exact hsnoc _ (isSpelling_ignored _ _)
      · exact hsnoc _ (isSpelling_duplicate _)
    · split
      · exact hsnoc _ (isSpelling_ignored _ _)
      · exact hsnoc _ (isSpelling_respelled _ _)
  have hfold : ∀ v : View α, (∀ i ∈ v.issues, i.isSpelling) →
      ∀ i ∈ (pairs.foldl (fun v p => v.add p.1 p.2) v).issues, i.isSpelling := by
    induction pairs with
    | nil => exact fun _ hv => hv
    | cons p rest ih => exact fun v hv => ih _ (hadd v p.1 p.2 hv)
  exact hfold {} (List.forall_mem_nil _)

end Spellings

/-! ### Misuses -/

namespace Description

variable {n : Yaml.Node} {kind : Kind} {nodes : Keyed String Yaml.Node} {issues : List Issue}

/-- What is said of a description at the start is about its spelling. -/
theorem isSpelling_of_ofKind (h : ofNode n = .ofKind kind nodes issues) :
    ∀ i ∈ issues, i.isSpelling := by
  have hkeys : ∀ i ∈ (keysOf n).issues, i.isSpelling := by
    cases n with
    | mapping => exact isSpelling_of_mem_view _
    | scalar => exact nofun
    | sequence => exact nofun
  rw [ofNode] at h
  split at h
  · rw [ofTagged] at h
    split at h
    · cases h
    · split at h
      · cases h
        exact hkeys
      · cases h
  · rw [ofUntagged] at h
    split at h
    · split at h
      · cases h
      · dsimp only at h
        split at h
        · cases h
        · cases h
          intro i hi
          rcases List.mem_append.mp hi with hi | hi
          · exact hkeys i hi
          · obtain rfl := List.mem_singleton.mp hi
            exact isSpelling_legacy _
    · cases h

/-- A node that describes nothing is misused. -/
theorem isMisuse_of_unusable {i : Issue} (h : ofNode n = .unusable i) :
    i.isMisuse = true ∧ i.isSpelling = false := by
  apply isMisuse_of_opens
  rw [ofNode] at h
  split at h
  · rw [ofTagged] at h
    split at h
    · cases h
      exact ⟨"Unknown tag '!", by simp [misuses], .append (.append .self _) _⟩
    · split at h
      · cases h
      · cases h
        exact ⟨"Entry tagged '!", by simp [misuses], .append (.append .self _) _⟩
  · rw [ofUntagged] at h
    split at h
    · split at h
      · cases h
        exact ⟨"Missing Type", by simp [misuses], .self⟩
      · dsimp only at h
        split at h
        · cases h
          exact ⟨"Invalid type: ", by simp [misuses], .append .self _⟩
        · cases h
    · cases h
      exact ⟨"Entry must be a mapping", by simp [misuses], .self⟩

end Description

namespace Field

theorem isMisuse_unknown (text : String) :
    let i := Issue.incomplete s!"Unknown key '{text}'" "Remove or correct the key"
    i.isMisuse = true ∧ i.isSpelling = false :=
  isMisuse_of_opens
    ⟨"Unknown key '", by simp [misuses], .append (.append .self _) _⟩

theorem isMisuse_redundant :
    let i := Issue.incomplete "Type key is redundant on a tagged entry" "Remove the Type key"
    i.isMisuse = true ∧ i.isSpelling = false :=
  isMisuse_of_opens
    ⟨"Type key is redundant on a tagged entry", by simp [misuses], .self⟩

theorem isMisuse_invalid (key : Key) (c : Complaint) :
    let i := Issue.severe s!"Invalid {key.text}: {c.message}" s!"Fix the {key.text} value"
    i.isMisuse = true ∧ i.isSpelling = false :=
  isMisuse_of_opens
    ⟨"Invalid ", by simp [misuses], .append (.append (.append .self _) _) _⟩

theorem isMisuse_meaningless (key : Key) (kind : Kind) :
    (meaningless key kind).isMisuse = true ∧ (meaningless key kind).isSpelling = false := by
  refine isMisuse_of_opens ⟨"'", by simp [misuses], ?_⟩
  rw [meaningless]
  split
  · exact .append (.append (.append (.append .self _) _) _) _
  · exact .append (.append (.append (.append .self _) _) _) _

theorem isMisuse_finding [Host] (kind : Kind) (text : String) (part : Part) :
    ∀ i ∈ finding kind text part, i.isMisuse = true ∧ i.isSpelling = false := by
  intro i hi
  rw [finding] at hi
  split at hi
  · obtain rfl := List.mem_singleton.mp hi
    exact isMisuse_unknown text
  · obtain rfl := List.mem_singleton.mp hi
    exact isMisuse_redundant
  · split at hi
    · split at hi
      · obtain rfl := List.mem_singleton.mp hi
        exact isMisuse_invalid _ _
      · cases hi
    · obtain rfl := List.mem_singleton.mp hi
      exact isMisuse_meaningless _ kind

theorem isMisuse_noItem :
    let i := Issue.incomplete "Array has no item type"
      "Add an Item Type; one-byte elements assumed"
    i.isMisuse = true ∧ i.isSpelling = false :=
  isMisuse_of_opens ⟨"Array has no item type", by simp [misuses], .self⟩

/-! ### What lasts -/

theorem eq_of_mem_ite {c : Prop} [Decidable c] {i j : Issue} (h : i ∈ if c then [j] else []) :
    i = j := by
  split at h
  · exact List.mem_singleton.mp h
  · cases h

theorem lasts_memberIssues (seen : List String) (m : Field) :
    ∀ i ∈ memberIssues seen m, i.lasts = true := by
  intro i hi
  have hopens : Opens "Nested entry '" i.reason ∨ Opens "Struct member has no name" i.reason ∨
      Opens "Duplicate entry name '" i.reason ∨ Opens "Entry name '" i.reason := by
    rcases List.mem_append.mp hi with hi | hi
    · obtain rfl := eq_of_mem_ite hi
      exact .inl (.append (.append .self _) _)
    · split at hi
      · obtain rfl := List.mem_singleton.mp hi
        exact .inr (.inl .self)
      · rcases List.mem_append.mp hi with hi | hi
        · obtain rfl := eq_of_mem_ite hi
          exact .inr (.inr (.inl (.append (.append .self _) _)))
        · split at hi
          · cases hi
          · obtain rfl := List.mem_singleton.mp hi
            exact .inr (.inr (.inr (.append (.append .self _) _)))
  rcases hopens with h | h | h | h
  all_goals exact h.lasts (by simp [layouts])

theorem lasts_itemOffset : ∀ i ∈ [Issue.severe "Array item type has an offset"
    "Remove Offset; elements are positioned by the array"], i.lasts = true := by
  intro i hi
  obtain rfl := List.mem_singleton.mp hi
  have hopens : Opens "Array item type has an offset" (Issue.severe "Array item type has an offset"
    "Remove Offset; elements are positioned by the array").reason := .self
  exact hopens.lasts (by simp [layouts])

theorem lasts_pointerIssues [Host] {f : Field} {issues : List Issue}
    (h : f.pointerIssues = .ok issues) :
    ∀ i ∈ issues, i.lasts = true := by
  intro i hi
  have hopens : Opens "Unable to resolve pointer size: " i.reason ∨
      Opens "Pointer size " i.reason := by
    rw [pointerIssues] at h
    split at h
    · cases h
      cases hi
    · split at h
      · split at h
        · cases h
        · cases h
          obtain rfl := List.mem_singleton.mp hi
          exact .inl (.append .self _)
      · split at h
        · split at h
          · cases h
          · cases h
            obtain rfl := List.mem_singleton.mp hi
            exact .inr (.append (.append (.append (.append .self _) _) _) _)
        · cases h
          cases hi
  rcases hopens with h | h
  all_goals exact h.lasts (by simp [layouts])

theorem lasts_rootIssues (f : Field) : ∀ i ∈ f.rootIssues, i.lasts = true := by
  intro i hi
  have hopens : Opens "Required offset key missing" i.reason ∨ Opens "Missing size" i.reason := by
    rcases List.mem_append.mp hi with hi | hi
    · obtain rfl := eq_of_mem_ite hi
      exact .inl .self
    · obtain rfl := eq_of_mem_ite hi
      exact .inr .self
  rcases hopens with h | h
  all_goals exact h.lasts (by simp [layouts])

theorem lasts_repeatedIssues (seen : List String) (name : String) :
    ∀ i ∈ repeatedIssues seen name, i.lasts = true := by
  intro i hi
  have hopens : Opens "Duplicate entry name '" i.reason := by
    rw [repeatedIssues] at hi
    obtain rfl := eq_of_mem_ite hi
    exact .append (.append .self _) _
  exact hopens.lasts (by simp [layouts])

theorem lasts_placedSize [Host] {f : Field} {size : Option Nat} {issues : List Issue}
    (h : f.placedSize = .ok (size, issues)) : ∀ i ∈ issues, i.lasts = true := by
  have hsizes (size : Except SizeError Nat) : ∀ i ∈ sizeIssues size, i.lasts = true := by
    intro i hi
    cases size with
    | ok n => cases hi
    | error e =>
      obtain rfl := List.mem_singleton.mp hi
      have hopens : Opens "Unable to resolve size: "
          (Issue.severe s!"Unable to resolve size: {e.message}" "Fix the Size").reason :=
        .append .self _
      exact hopens.lasts (by simp [layouts])
  rw [placedSize] at h
  split at h
  · obtain ⟨_, _, h⟩ := bind_eq_ok_iff.mp h
    cases h
    exact hsizes _
  · obtain ⟨_, _, h⟩ := bind_eq_ok_iff.mp h
    cases h
    exact List.forall_mem_nil _

end Field

theorem Range.lasts_issues (before r : Option Range) :
    ∀ i ∈ Range.issues before r, i.lasts = true := by
  intro i hi
  have hopens : Opens "Overlaps with previous entry " i.reason ∨
      Opens "Out of order: " i.reason := by
    unfold Range.issues at hi
    split at hi
    · rcases List.mem_append.mp hi with hi | hi
      · obtain rfl := Field.eq_of_mem_ite hi
        exact .inl (.append (.append (.append (.append (.append (.append .self _) _) _) _) _) _)
      · obtain rfl := Field.eq_of_mem_ite hi
        exact .inr (.append (.append (.append (.append (.append (.append .self _) _) _) _) _) _)
    · cases hi
  rcases hopens with h | h
  all_goals exact h.lasts (by simp [layouts])

end GameAtlas.Schema
