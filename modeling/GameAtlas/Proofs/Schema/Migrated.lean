import Mathlib.Tactic
import GameAtlas.Proofs.Schema.Cleaned

/-!
Descriptions rewritten in the canonical spelling. Every key that counts is kept under its canonical
name, the others are left out, and a kind that was named under a key becomes the tag. The fields
that such descriptions give are the same as before, and so is all that is found wrong with them but
for their spelling.
-/

namespace GameAtlas.Schema

open Yaml (Node)

namespace Description

/-! ### The rewritten node -/

/-- The kind that a node names: by its tag, or under a key if it has none. -/
def kindOf? (n : Node) : Option Kind :=
  match n.localTag? with
  | some name => Kind.ofTag? name
  | none =>
    (Keyed.get? Key.type.text (keysOf n).pairs).bind fun v =>
      Kind.ofTag? (Part.value v).scalarText

/-- The pairs of a mapping from names. -/
def keyed (pairs : Keyed String Node) : List (Node × Node) :=
  pairs.map fun p => (.ofText p.1, p.2)

/-- A mapping from names. If it has no tag, its kind becomes the tag and is no longer named under a
key. -/
def retagged (tag : String) (kind : Option Kind) (pairs : Keyed String Node) (flow : Bool)
    (share : Option Nat) : Node :=
  match Yaml.Tag.local? tag, kind with
  | none, some kind =>
    .mapping ("!" ++ kind.tag) (keyed (Keyed.erase Key.type.text pairs)) flow share
  | _, _ => .mapping tag (keyed pairs) flow share

mutual

/-- The node of an entry in the canonical spelling. What is no mapping is left as it is. -/
def migrate (n : Node) : Node :=
  match n with
  | .mapping tag pairs flow share =>
    let kind := kindOf? (.mapping tag pairs flow share)
    retagged tag kind (View.ofPairs (migratePairs kind pairs)).pairs flow share
  | .scalar tag text style share => .scalar tag text style share
  | .sequence tag items flow share => .sequence tag items flow share
termination_by structural n

/-- The pairs of an entry of a kind as they are spelled. The members of structs and the item types
of arrays are migrated. -/
def migratePairs (kind : Option Kind) (pairs : List (Node × Node)) : List (String × Node) :=
  match pairs with
  | [] => []
  | (k, v) :: rest =>
    let v' :=
      match Key.ofText? (Key.canonical k.keyText) with
      | some .entries => if kind = some .struct then migrateMembers v else v
      | some .itemType => if kind = some .array then migrate v else v
      | _ => v
    (k.keyText, v') :: migratePairs kind rest
termination_by structural pairs

/-- The members of a struct, in either form. -/
def migrateMembers (n : Node) : Node :=
  match n with
  | .mapping tag pairs flow share => .mapping tag (migrateNamed pairs) flow share
  | .sequence tag items flow share => .sequence tag (migrateAll items) flow share
  | .scalar tag text style share => .scalar tag text style share
termination_by structural n

def migrateNamed (pairs : List (Node × Node)) : List (Node × Node) :=
  match pairs with
  | [] => []
  | (k, v) :: rest => (k, migrate v) :: migrateNamed rest
termination_by structural pairs

def migrateAll (items : List Node) : List Node :=
  match items with
  | [] => []
  | n :: rest => migrate n :: migrateAll rest
termination_by structural items

end

/-- What stands under a canonical key of an entry of a kind, migrated. -/
def migrateUnder (kind : Option Kind) (text : String) (v : Node) : Node :=
  match Key.ofText? text with
  | some .entries => if kind = some .struct then migrateMembers v else v
  | some .itemType => if kind = some .array then migrate v else v
  | _ => v

theorem migratePairs_eq (kind : Option Kind) (pairs : List (Node × Node)) :
    migratePairs kind pairs = (pairs.map fun p => (p.1.keyText, p.2)).map fun p =>
      (p.1, migrateUnder kind (Key.canonical p.1) p.2) := by
  induction pairs with
  | nil => rfl
  | cons p rest ih =>
    rw [migratePairs, ih]
    rfl

/-- The keys of a node with what stands under them migrated. -/
def migratedKeys (n : Node) : Keyed String Node :=
  (keysOf n).pairs.map fun p => (p.1, migrateUnder (kindOf? n) p.1 p.2)

/-- The pairs of the view are kept under their canonical names. -/
theorem migrate_mapping (tag : String) (pairs : List (Node × Node)) (flow : Bool)
    (share : Option Nat) :
    let n : Node := .mapping tag pairs flow share
    migrate n = retagged tag (kindOf? n) (migratedKeys n) flow share := by
  intro n
  rw [migrate, migratePairs_eq, View.ofPairs_map]
  rfl

/-! ### What it describes -/

variable {n n' : Node}

/-- The keys of a node are in their canonical spelling. -/
theorem canonical_of_mem_migratedKeys {q : String × Node} (hq : q ∈ migratedKeys n) :
    Key.canonical q.1 = q.1 := by
  obtain ⟨r, hr, rfl⟩ := List.mem_map.mp hq
  cases n with
  | mapping tag pairs flow share =>
    obtain ⟨p, _, rfl⟩ := Field.mem_ofPairs hr
    exact Key.canonical_canonical p.1
  | scalar => cases hr
  | sequence => cases hr

theorem distinct_migratedKeys (n : Node) : (migratedKeys n).Distinct := by
  have hkeys : (migratedKeys n).map Prod.fst = (keysOf n).pairs.map Prod.fst := by
    rw [migratedKeys, List.map_map]
    rfl
  rw [Keyed.Distinct, hkeys]
  exact distinct_keysOf n

/-- Canonical pairs are the view of their mapping. -/
theorem keysOf_keyed {pairs : Keyed String Node} (hpairs : pairs.Sublist (migratedKeys n))
    (tag : String) (flow : Bool) (share : Option Nat) :
    keysOf (.mapping tag (keyed pairs) flow share) = { pairs := pairs } := by
  have hkeyed : (keyed pairs).map (fun p => (p.1.keyText, p.2)) = pairs := by
    rw [keyed, List.map_map]
    exact List.map_id pairs
  have hcanonical : ∀ q ∈ pairs, Key.canonical q.1 = q.1 :=
    fun q hq => canonical_of_mem_migratedKeys (hpairs.subset hq)
  have hdistinct : pairs.Distinct :=
    List.Nodup.sublist (hpairs.map Prod.fst) (distinct_migratedKeys n)
  rw [keysOf, hkeyed, View.ofPairs_canonical hcanonical hdistinct]

/-- The same description in the canonical spelling. -/
def migrated : Description → Description
  | .unusable issue => .unusable issue
  | .ofKind kind nodes _ => .ofKind kind (nodes.map fun p => (p.1, migrateUnder kind p.1 p.2)) []

theorem ofNode_of_localTag {name : String} (h : n.localTag? = some name) :
    ofNode n = ofTagged name n := by
  rw [ofNode, h]

theorem ofNode_of_untagged (h : n.localTag? = none) : ofNode n = ofUntagged n := by
  rw [ofNode, h]

theorem ofTagged_migrated {name : String} (hn : n.localTag? = some name)
    (hbody : isBody n' = isBody n) (hkeys : keysOf n' = { pairs := migratedKeys n }) :
    ofTagged name n' = (ofTagged name n).migrated := by
  have hkind : kindOf? n = Kind.ofTag? name := by rw [kindOf?, hn]
  rw [migratedKeys, hkind] at hkeys
  rw [ofTagged, ofTagged]
  cases hname : Kind.ofTag? name with
  | none => rfl
  | some kind =>
    rw [hname] at hkeys
    simp only [hbody, hkeys]
    split <;> rfl

/-- What is no mapping has no keys, and is left as it is. -/
theorem ofNode_migrate_of_not_mapping (h : n.isMapping = false) :
    ofNode (migrate n) = (ofNode n).migrated := by
  have hsame : migrate n = n ∧ keysOf n = {} := by
    cases n with
    | scalar => exact ⟨by rw [migrate], rfl⟩
    | sequence => exact ⟨by rw [migrate], rfl⟩
    | mapping => cases h
  obtain ⟨hmigrate, hkeys⟩ := hsame
  rw [hmigrate]
  cases htag : n.localTag? with
  | none =>
    rw [ofNode_of_untagged htag, ofUntagged, h]
    rfl
  | some name =>
    have hnone : keysOf n = { pairs := migratedKeys n } := by
      rw [migratedKeys, hkeys]
      rfl
    rw [ofNode_of_localTag htag]
    exact ofTagged_migrated htag rfl hnone

/-- A mapping that has a kind as its tag describes a field of the kind. -/
theorem ofNode_kindTag (kind : Kind) (pairs : List (Node × Node)) (flow : Bool)
    (share : Option Nat) :
    let n : Node := .mapping ("!" ++ kind.tag) pairs flow share
    ofNode n = .ofKind kind (keysOf n).pairs (keysOf n).issues := by
  intro n
  have hlocal : n.localTag? = some kind.tag := kind.local?_tag
  rw [ofNode_of_localTag hlocal, ofTagged, kind.ofTag?_tag]
  rfl

/-- An untagged mapping with a known kind becomes tagged; another one is as unusable as before. -/
theorem ofNode_retagged {tag : String} {pairs : List (Node × Node)} {flow : Bool}
    {share : Option Nat} (hlocal : Yaml.Tag.local? tag = none) :
    let n : Node := .mapping tag pairs flow share
    ofNode (retagged tag (kindOf? n) (migratedKeys n) flow share) = (ofUntagged n).migrated := by
  intro n
  have hstated : Keyed.get? Key.type.text (migratedKeys n) =
      Keyed.get? Key.type.text (keysOf n).pairs := by
    rw [migratedKeys, Keyed.get?_map]
    cases Keyed.get? Key.type.text (keysOf n).pairs <;> rfl
  have hkind : kindOf? n = (Keyed.get? Key.type.text (keysOf n).pairs).bind fun v =>
      Kind.ofTag? (Part.value v).scalarText := by
    have huntagged : n.localTag? = none := hlocal
    rw [kindOf?, huntagged]
  have hkeys := keysOf_keyed (List.Sublist.refl (migratedKeys n)) tag flow share
  have hkept : ofNode (.mapping tag (keyed (migratedKeys n)) flow share) =
      ofUntagged (.mapping tag (keyed (migratedKeys n)) flow share) := ofNode_of_untagged hlocal
  have hmapping : n.isMapping = true := rfl
  rw [retagged.eq_def, hlocal, ofUntagged, if_pos hmapping]
  cases htype : Keyed.get? Key.type.text (keysOf n).pairs with
  | none =>
    rw [htype] at hkind
    rw [hkind, Option.bind_none, hkept, ofUntagged, hkeys, hstated, htype]
    rfl
  | some v =>
    rw [htype, Option.bind_some] at hkind
    cases hname : Kind.ofTag? (Part.value v).scalarText with
    | none =>
      rw [hkind, hname, hkept, ofUntagged, hkeys, hstated, htype]
      simp only [hname]
      rfl
    | some kind =>
      rw [hname] at hkind
      have hsublist : (Keyed.erase Key.type.text (migratedKeys n)).Sublist (migratedKeys n) :=
        List.filter_sublist
      have herased : Keyed.erase Key.type.text (migratedKeys n) =
          (Keyed.erase Key.type.text (keysOf n).pairs).map fun p =>
            (p.1, migrateUnder kind p.1 p.2) := by
        rw [migratedKeys, hkind]
        exact Keyed.erase_map _ _ _
      simp only [hkind, hname, ofNode_kindTag, keysOf_keyed hsublist]
      rw [herased]
      rfl

/-- A migrated node describes the same, and nothing is said of its spelling. -/
theorem ofNode_migrate (n : Node) : ofNode (migrate n) = (ofNode n).migrated := by
  cases n with
  | scalar => exact ofNode_migrate_of_not_mapping rfl
  | sequence => exact ofNode_migrate_of_not_mapping rfl
  | mapping tag pairs flow share =>
    rw [migrate_mapping]
    cases hlocal : Yaml.Tag.local? tag with
    | none =>
      have huntagged : Node.localTag? (.mapping tag pairs flow share) = none := hlocal
      rw [ofNode_retagged hlocal, ofNode_of_untagged huntagged]
    | some name =>
      have htagged (pairs : List (Node × Node)) : ofNode (.mapping tag pairs flow share) =
          ofTagged name (.mapping tag pairs flow share) := ofNode_of_localTag hlocal
      have hkeys := keysOf_keyed (List.Sublist.refl (migratedKeys (.mapping tag pairs flow share)))
        tag flow share
      rw [retagged.eq_def, hlocal, htagged, htagged]
      exact ofTagged_migrated hlocal rfl hkeys

end Description

namespace Field

open Description

/-! ### The field that it gives -/

section

variable [Host]

theorem namedMembers_migrateNamed {pairs : List (Node × Node)}
    (h : ∀ p ∈ pairs, ofNode (migrate p.2) = clean <$> ofNode p.2) :
    namedMembers (migrateNamed pairs) = cleanAll <$> namedMembers pairs := by
  induction pairs with
  | nil => rfl
  | cons p rest ih =>
    rw [migrateNamed, namedMembers, namedMembers, h p List.mem_cons_self,
      ih fun q hq => h q (List.mem_cons_of_mem p hq)]
    cases ofNode p.2 with
    | error e => rfl
    | ok f =>
      cases namedMembers rest with
      | error e => rfl
      | ok fs => exact congrArg (fun g => Except.ok (g :: cleanAll fs)) (clean_named f _).symm

theorem plainMembers_migrateAll {items : List Node}
    (h : ∀ n ∈ items, ofNode (migrate n) = clean <$> ofNode n) :
    plainMembers (migrateAll items) = cleanAll <$> plainMembers items := by
  induction items with
  | nil => rfl
  | cons n rest ih =>
    rw [migrateAll, plainMembers, plainMembers, h n List.mem_cons_self,
      ih fun x hx => h x (List.mem_cons_of_mem n hx)]
    cases ofNode n with
    | error e => rfl
    | ok f => cases plainMembers rest <;> rfl

theorem membersOf_migrateMembers {v : Node}
    (h : ∀ x ∈ Description.memberNodes v, ofNode (migrate x) = clean <$> ofNode x) :
    membersOf (migrateMembers v) = cleanAll <$> membersOf v := by
  cases v with
  | scalar => rfl
  | sequence tag items flow share =>
    have hitems : plainMembers (migrateAll items) = cleanAll <$> plainMembers items :=
      plainMembers_migrateAll h
    rw [migrateMembers, membersOf, membersOf, hitems, ofConstruction_map]
  | mapping tag pairs flow share =>
    rw [migrateMembers, membersOf, membersOf,
      namedMembers_migrateNamed fun p hp => h p.2 (List.mem_map_of_mem hp), ofConstruction_map]

theorem partOf_migrateUnder {kind : Kind} {text : String} {v : Node} {key : Key}
    (hkey : Key.ofText? text = some key) (huse : kind.admits key = true)
    (h : ∀ x, v.Contains x → ofNode (migrate x) = clean <$> ofNode x) :
    partOf text (migrateUnder kind text v) = (partOf text v).clean := by
  rw [partOf, partOf, migrateUnder, hkey]
  cases key with
  | entries =>
    obtain rfl := kind_of_admits_entries huse
    exact congrArg Part.members
      (membersOf_migrateMembers fun x hx => h x (contains_memberNode hx))
  | itemType =>
    obtain rfl := kind_of_admits_itemType huse
    exact congrArg Part.item (h v (.self v))
  | _ => rfl

/-- A migrated node gives the field of the node, but for the issues about spellings. The induction
is on the node: what lies within a field is read before the field is looked at. -/
theorem ofNode_migrate (n : Node) : ofNode (migrate n) = clean <$> ofNode n := by
  induction n using Node.contains_induction with
  | step n ih =>
    rw [ofNode_eq (migrate n), ofNode_eq n, Description.ofNode_migrate]
    cases hn : Description.ofNode n with
    | unusable issue =>
      exact congrArg Except.ok (clean_undefined (isMisuse_of_unusable hn).2).symm
    | ofKind kind nodes issues =>
      have hview : ofView kind (nodes.map fun p =>
            (p.1, partOf p.1 (migrateUnder kind p.1 p.2))) [] =
          clean <$> ofView kind (nodes.map fun p => (p.1, partOf p.1 p.2)) issues :=
        ofView_clean (isSpelling_of_ofKind hn) fun p hp key hkey huse =>
          partOf_migrateUnder hkey huse (ih p.2 (node_mem_children hn hp))
      rw [Description.migrated, ofDescription, ofDescription, List.map_map]
      exact hview

end

/-- A node and the node that is migrated from it are read alike. The fields have the same
attributes at every depth. Of the issues, those about spellings are gone, and the others are there
in their order. -/
theorem migrated_alike [Host] (n : Node) :
    match ofNode n with
    | .error fault => ofNode (migrate n) = .error fault
    | .ok f => ∃ g, ofNode (migrate n) = .ok g ∧ content id g = content id f ∧
        g.problems = f.problems.filter (fun i => !i.isSpelling) ∧
        ∀ i ∈ g.problems, i.isSpelling = false := by
  rw [ofNode_migrate]
  cases ofNode n with
  | error fault => rfl
  | ok f =>
    refine ⟨clean f, rfl, content_clean f, problems_clean f, fun i hi => ?_⟩
    rw [problems_clean] at hi
    simpa using (List.mem_filter.mp hi).2

example :
    let entry (pairs : List (Node × Node)) : Node := .mapping "!int" pairs false none
    let older : Node := .ofPairs [(.ofText "type", .ofText "struct"),
      (.ofText "address", .ofHex 32),
      (.ofText "entries", .ofPairs [(.ofText "HP",
        entry [(.ofText "size", .ofInt 2), (.ofText "endian", .ofText "big")])])]
    migrate older = .mapping "!struct" [(.ofText "Offset", .ofHex 32),
      (.ofText "Entries", .ofPairs [(.ofText "HP",
        entry [(.ofText "Size", .ofInt 2), (.ofText "Endianness", .ofText "big")])])]
      false none := by
  rfl

end Field

end GameAtlas.Schema
