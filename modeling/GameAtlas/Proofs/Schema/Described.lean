import GameAtlas.Proofs.Schema.Obstacles
import GameAtlas.Proofs.Schema.Reread

/-!
Descriptions before their values are read: the kind that a node names with the nodes under its keys,
or why it describes nothing. A field is made of a description key by key, and what is found wrong
with a key is kept in order.
-/

namespace GameAtlas.Schema

open Yaml (Node)

/-! ### Views -/

namespace View

variable {α β : Type}

/-- The same view of other values. -/
def map (g : String → α → β) (v : View α) : View β where
  pairs := v.pairs.map fun p => (p.1, g p.1 p.2)
  renamed := v.renamed
  issues := v.issues

theorem map_add (g : String → α → β) (v : View α) (key : String) (value : α) :
    (v.map g).add key (g (Key.canonical key) value) = (v.add key value).map g := by
  have hget (k : String) : Keyed.get? k (v.map g).pairs = (Keyed.get? k v.pairs).map (g k) :=
    Keyed.get?_map k g v.pairs
  have hput (k : String) : Keyed.put k (g k value) (v.map g).pairs =
      (Keyed.put k value v.pairs).map fun p => (p.1, g p.1 p.2) := Keyed.put_map k value g v.pairs
  have hrenamed : (v.map g).renamed = v.renamed := rfl
  have hissues : (v.map g).issues = v.issues := rfl
  by_cases hkey : Key.canonical key = key
  · rw [add, add, if_pos hkey, if_pos hkey, hkey, hget]
    cases hold : Keyed.get? key v.pairs with
    | none =>
      simp only [Option.map_none, hput]
      rfl
    | some old =>
      cases hrename : Keyed.get? key v.renamed with
      | none => simp only [Option.map_some, hrenamed, hrename]; rfl
      | some spelling => simp only [Option.map_some, hrenamed, hrename, hissues, hput]; rfl
  · rw [add, add, if_neg hkey, if_neg hkey, Keyed.has, Keyed.has, hget, Option.isSome_map]
    split
    · rfl
    · rw [hput, hrenamed, hissues]
      rfl

/-- A view may be made before its values are looked at. -/
theorem ofPairs_map (g : String → α → β) (pairs : List (String × α)) :
    ofPairs (pairs.map fun p => (p.1, g (Key.canonical p.1) p.2)) = (ofPairs pairs).map g := by
  have hfold : ∀ v : View α,
      (pairs.map fun p => (p.1, g (Key.canonical p.1) p.2)).foldl (fun v p => v.add p.1 p.2)
        (v.map g) = (pairs.foldl (fun v p => v.add p.1 p.2) v).map g := by
    induction pairs with
    | nil => exact fun _ => rfl
    | cons p rest ih =>
      intro v
      rw [List.map_cons, List.foldl_cons, List.foldl_cons, map_add]
      exact ih (v.add p.1 p.2)
  exact hfold {}

theorem distinct_add {v : View α} (h : v.pairs.Distinct) (key : String) (value : α) :
    (v.add key value).pairs.Distinct := by
  rw [add]
  split
  · split
    · exact h.put key value
    · exact h.put key value
    · exact h
  · split
    · exact h
    · exact h.put _ value

/-- Each key stands once in a view. -/
theorem distinct_ofPairs (pairs : List (String × α)) : (ofPairs pairs).pairs.Distinct := by
  have hfold : ∀ v : View α, v.pairs.Distinct →
      (pairs.foldl (fun v p => v.add p.1 p.2) v).pairs.Distinct := by
    induction pairs with
    | nil => exact fun _ hv => hv
    | cons p rest ih => exact fun v hv => ih _ (distinct_add hv p.1 p.2)
  exact hfold {} List.nodup_nil

end View

/-! ### Descriptions -/

/-- What a node is to be read as, before any value is. -/
inductive Description where
  /-- Nothing that is known; the issue says why. -/
  | unusable (issue : Issue)
  /-- A field of a kind: the nodes under its keys, and what was wrong with the spelling of these. -/
  | ofKind (kind : Kind) (nodes : Keyed String Node) (issues : List Issue)

namespace Description

/-- The keys of a node; only mappings have any. -/
def keysOf : Node → View Node
  | .mapping _ pairs _ _ => View.ofPairs (pairs.map fun p => (p.1.keyText, p.2))
  | _ => {}

/-- Whether a tagged node can be a description: a mapping, or nothing but the tag. -/
def isBody : Node → Bool
  | .mapping .. => true
  | .scalar _ text _ _ => text == ""
  | .sequence .. => false

def ofTagged (tag : String) (n : Node) : Description :=
  match Kind.ofTag? tag with
  | none =>
    let known := ", ".intercalate (Kind.tags.map fun p => "!" ++ p.1)
    .unusable (.severe s!"Unknown tag '!{tag}'" s!"Use one of: {known}")
  | some kind =>
    if isBody n then .ofKind kind (keysOf n).pairs (keysOf n).issues
    else
      .unusable (.severe s!"Entry tagged '!{tag}' must be a mapping"
        "Describe the entry as a mapping")

def ofUntagged (n : Node) : Description :=
  if n.isMapping then
    match Keyed.get? Key.type.text (keysOf n).pairs with
    | none => .unusable (.severe "Missing Type" "Tag the entry with its kind, e.g. !int")
    | some v =>
      let name := (Part.value v).scalarText
      match Kind.ofTag? name with
      | none => .unusable (.severe s!"Invalid type: {name}" "Use a known type")
      | some kind =>
        .ofKind kind (Keyed.erase Key.type.text (keysOf n).pairs) ((keysOf n).issues ++
          [.incomplete "Untagged legacy entry" s!"Replace 'Type: {name}' with a !{kind.tag} tag"])
  else .unusable (.severe "Entry must be a mapping" "Describe the entry as a mapping")

/-- What a node describes. -/
def ofNode (n : Node) : Description :=
  match n.localTag? with
  | some tag => ofTagged tag n
  | none => ofUntagged n

variable {n : Node} {kind : Kind} {nodes : Keyed String Node} {issues : List Issue}

/-- The nodes of a description are those under its keys, without the one that names the kind. -/
theorem nodes_eq (h : ofNode n = .ofKind kind nodes issues) :
    nodes = (keysOf n).pairs ∨ nodes = Keyed.erase Key.type.text (keysOf n).pairs := by
  rw [ofNode] at h
  split at h
  · rw [ofTagged] at h
    split at h
    · cases h
    · split at h
      · cases h
        exact .inl rfl
      · cases h
  · rw [ofUntagged] at h
    split at h
    · split at h
      · cases h
      · dsimp only at h
        split at h
        · cases h
        · cases h
          exact .inr rfl
    · cases h

theorem distinct_keysOf (n : Node) : (keysOf n).pairs.Distinct := by
  cases n with
  | mapping => exact View.distinct_ofPairs _
  | scalar => exact List.nodup_nil
  | sequence => exact List.nodup_nil

/-- Every key of a description stands once. -/
theorem distinct_nodes (h : ofNode n = .ofKind kind nodes issues) : nodes.Distinct := by
  rcases nodes_eq h with rfl | rfl
  · exact distinct_keysOf n
  · exact (distinct_keysOf n).erase _

/-- They are the values of a mapping, under the keys that they have there. -/
theorem mem_nodes {q : String × Node} (h : ofNode n = .ofKind kind nodes issues)
    (hq : q ∈ nodes) :
    ∃ tag pairs flow share, n = .mapping tag pairs flow share ∧
      ∃ p ∈ pairs, q = (Key.canonical p.1.keyText, p.2) := by
  have hkeys : q ∈ (keysOf n).pairs := by
    rcases nodes_eq h with rfl | rfl
    · exact hq
    · exact List.mem_of_mem_filter hq
  cases n with
  | mapping tag pairs flow share =>
    obtain ⟨r, hr, rfl⟩ := Field.mem_ofPairs hkeys
    obtain ⟨p, hp, rfl⟩ := List.mem_map.mp hr
    exact ⟨tag, pairs, flow, share, rfl, p, hp, rfl⟩
  | scalar => cases hkeys
  | sequence => cases hkeys

theorem node_mem_children {q : String × Node} (h : ofNode n = .ofKind kind nodes issues)
    (hq : q ∈ nodes) : q.2 ∈ n.children := by
  obtain ⟨tag, pairs, flow, share, rfl, p, hp, rfl⟩ := mem_nodes h hq
  exact List.mem_flatMap.mpr ⟨p, hp, by simp⟩

end Description

namespace Field

variable [Host]

/-- What a node becomes under a spelling. -/
def partOf (text : String) (n : Node) : Part :=
  match Key.ofText? text with
  | some .entries => .members (membersOf n)
  | some .itemType => .item (ofNode n)
  | _ => .value n

theorem partsOf_eq (pairs : List (Node × Node)) : partsOf pairs =
    (pairs.map fun p => (p.1.keyText, p.2)).map fun p =>
      (p.1, partOf (Key.canonical p.1) p.2) := by
  induction pairs with
  | nil => rfl
  | cons p rest ih =>
    rw [partsOf, ih]
    rfl

/-- The field that a description gives. -/
def ofDescription : Description → Construction Field
  | .unusable issue => .ok (undefined issue)
  | .ofKind kind nodes issues => ofView kind (nodes.map fun p => (p.1, partOf p.1 p.2)) issues

theorem ofTagged_eq {tag : String} {pairs : List (String × Part)} {n : Node}
    (hbody : Description.isBody n = true)
    (hview : View.ofPairs pairs = (Description.keysOf n).map partOf) :
    ofTagged tag (some pairs) = ofDescription (.ofTagged tag n) := by
  rw [ofTagged.eq_def, Description.ofTagged]
  cases Kind.ofTag? tag with
  | none => rfl
  | some kind =>
    simp only [hbody, if_true, hview]
    rfl

theorem ofTagged_of_not_body {tag : String} {n : Node} (hbody : Description.isBody n = false) :
    ofTagged tag none = ofDescription (.ofTagged tag n) := by
  rw [ofTagged.eq_def, Description.ofTagged]
  cases Kind.ofTag? tag with
  | none => rfl
  | some kind =>
    simp only [hbody]
    rfl

theorem ofUntagged_eq {pairs : List (String × Part)} {n : Node} (hmapping : n.isMapping = true)
    (hview : View.ofPairs pairs = (Description.keysOf n).map partOf) :
    ofUntagged (some pairs) = ofDescription (.ofUntagged n) := by
  rw [ofUntagged, Description.ofUntagged, if_pos hmapping]
  dsimp only
  rw [hview, View.map, Keyed.get?_map]
  cases Keyed.get? Key.type.text (Description.keysOf n).pairs with
  | none => rfl
  | some v =>
    have hpart : partOf Key.type.text v = .value v := rfl
    simp only [Option.map_some, hpart]
    cases Kind.ofTag? (Part.value v).scalarText with
    | none => rfl
    | some kind =>
      simp only [Keyed.erase_map]
      rfl

theorem view_eq (tag : String) (pairs : List (Node × Node)) (flow : Bool) (share : Option Nat) :
    View.ofPairs (partsOf pairs) =
      (Description.keysOf (.mapping tag pairs flow share)).map partOf := by
  rw [partsOf_eq, View.ofPairs_map]
  rfl

/-- A field is made of the description that its node gives. -/
theorem ofNode_eq (n : Node) : ofNode n = ofDescription (.ofNode n) := by
  cases n with
  | mapping tag pairs flow share =>
    have hview := view_eq tag pairs flow share
    rw [ofNode, ofParts, Description.ofNode, Node.localTag?, Node.tag]
    cases Yaml.Tag.local? tag with
    | some name => exact ofTagged_eq rfl hview
    | none => exact ofUntagged_eq rfl hview
  | scalar tag text style share =>
    rw [ofNode, ofParts, Description.ofNode, Node.localTag?, Node.tag]
    cases Yaml.Tag.local? tag with
    | some name =>
      by_cases htext : text = ""
      · subst htext
        exact ofTagged_eq rfl rfl
      · have hbody : Description.isBody (.scalar tag text style share) = false := by
          simpa [Description.isBody] using htext
        simp only [htext, decide_false, Bool.false_and, Bool.false_eq_true, if_false]
        exact ofTagged_of_not_body hbody
    | none =>
      simp only [Option.isSome_none, Bool.and_false, Bool.false_eq_true, if_false]
      rfl
  | sequence tag items flow share =>
    rw [ofNode, ofParts, Description.ofNode, Node.localTag?, Node.tag]
    cases Yaml.Tag.local? tag with
    | none => rfl
    | some name => exact ofTagged_of_not_body rfl

end Field

end GameAtlas.Schema
