import Mathlib.Tactic
import GameAtlas.Proofs.Script.Loaded
import GameAtlas.Proofs.Yaml.Written
import GameAtlas.Script.Description

/-!
Descriptions of script tables that are written as nodes: every one of a table that was read is read
again, and patterns come back as they were.
-/

namespace GameAtlas.Script

open Yaml (Node)

/-! ### Bytes -/

theorem byte_byteNode [Host] (b : UInt8) : Loading.byte (byteNode b) = .ok b := by
  have hlt := b.toNat_lt
  rw [Loading.byte, byteNode, Node.integer_ofHex]
  simp only
  rw [if_pos (by omega), Int.toNat_natCast, UInt8.ofNat_toNat]

/-- Bytes are written with a zero in front, which no level is called by. -/
theorem keyText_byteNode (b : UInt8) : ∃ rest, (byteNode b).keyText.toList = '0' :: rest :=
  ⟨_, String.toList_append⟩

theorem keyText_byteNode_ne (b : UInt8) {s : String} (h : s.toList.head? ≠ some '0') :
    (byteNode b).keyText ≠ s := by
  rintro rfl
  obtain ⟨rest, hrest⟩ := keyText_byteNode b
  exact h (by rw [hrest]; rfl)

theorem keyText_byteNode_level (b : UInt8) :
    Loading.levelKeys.contains (byteNode b).keyText = false := by
  have hown := keyText_byteNode_ne b (s := "=") (by decide)
  have hdefault := keyText_byteNode_ne b (s := "default") (by decide)
  simp [Loading.levelKeys, hown, hdefault]

/-! ### Patterns -/

theorem patternByte_byteNode [Host] (b : UInt8) :
    Loading.patternByte (byteNode b) = .ok (some b) := by
  have hupper : Text.toUpper (byteNode b).keyText ≠ Loading.wildcard := by
    obtain ⟨rest, hrest⟩ := keyText_byteNode b
    have hzero : Text.upperChar '0' = ['0'] := by decide
    intro h
    have hchars := congrArg String.toList h
    rw [Text.toUpper, hrest, List.flatMap_cons, hzero, String.toList_ofList] at hchars
    cases hchars
  have hread := byte_byteNode b
  rw [byteNode, Node.ofHex, Node.text] at hread hupper ⊢
  rw [Node.keyText] at hupper
  rw [Loading.patternByte, if_neg hupper, hread]
  rfl

theorem patternByte_wildcard [Host] :
    Loading.patternByte (.ofText Loading.wildcard) = .ok none := by
  have hupper : Text.toUpper Loading.wildcard = Loading.wildcard := by decide
  rw [Node.ofText, Node.text, Loading.patternByte, if_pos hupper]

/-- What stands at a place of a pattern. -/
def placeNode (b : Option UInt8) : Node :=
  match b with
  | some b => byteNode b
  | none => .ofText Loading.wildcard

theorem patternByte_placeNode [Host] (b : Option UInt8) :
    Loading.patternByte (placeNode b) = .ok b := by
  cases b with
  | some b => exact patternByte_byteNode b
  | none => exact patternByte_wildcard

theorem pattern_toNode [Host] {p : Pattern}
    (h : p.Anchored) : Loading.pattern p.toNode = .ok p := by
  have hbytes : (p.bytes.map placeNode).mapM Loading.patternByte = .ok p.bytes :=
    mapM_map fun b _ => patternByte_placeNode b
  have hchecked := checked_of_anchored h
  obtain ⟨bytes, replacement⟩ := p
  cases replacement with
  | none =>
    have hread : Loading.pattern (Pattern.toNode ⟨bytes, none⟩) = (do
        let bs ← (bytes.map placeNode).mapM Loading.patternByte
        Loading.checked ⟨bs, none⟩) := rfl
    rw [hread, hbytes]
    exact hchecked
  | some s =>
    have hread : Loading.pattern (Pattern.toNode ⟨bytes, some s⟩) = (do
        let bs ← (bytes.map placeNode).mapM Loading.patternByte
        Loading.checked ⟨bs, some s⟩) := rfl
    rw [hread, hbytes]
    exact hchecked

/-! ### Levels -/

theorem get?_byteNode {key : String} (h : key.toList.head? ≠ some '0') (b : UInt8) (n : Node)
    (rest : List (Node × Node)) : Node.get? key ((byteNode b, n) :: rest) = Node.get? key rest := by
  have hne := keyText_byteNode_ne b h
  rw [byteNode, Node.ofHex, Node.text] at hne ⊢
  rw [Node.keyText] at hne
  rw [Node.get?, if_neg hne]

theorem get?_childLengths {key : String} (h : key.toList.head? ≠ some '0')
    (children : List (UInt8 × Trie)) : Node.get? key (Trie.childLengths children) = none := by
  induction children with
  | nil => rfl
  | cons p rest ih => rw [Trie.childLengths, get?_byteNode h, ih]

theorem sizeText_ofText [Host] (s : String) : Loading.sizeText (.ofText s) = .ok s := by
  rw [Loading.sizeText, Node.valueText_ofText]
  rfl

/-- A level that states its own size takes it before the levels below are read. -/
theorem lengths_ownSize [Host] (start : Trie) (size : String) (t : Trie) :
    Loading.lengths start (.ofPairs ((.ofText ownKey, .ofText size) :: t.lengthPairs)) =
      Loading.lengthPairs (start.withSize size) t.lengthPairs := by
  obtain ⟨own, replacement, children⟩ := t
  have hown : Node.get? "=" ((Node.ofText ownKey, Node.ofText size) :: Trie.childLengths children) =
      some (.ofText size) := rfl
  have hdefault : Node.get? "default" ((Node.ofText ownKey, Node.ofText size) ::
      Trie.childLengths children) = none := by
    rw [Node.ofText, Node.text, Node.get?, if_neg (by decide)]
    exact get?_childLengths (by decide) children
  rw [Trie.lengthPairs, Node.ofPairs, Loading.lengths, Loading.levelKeys, Loading.levelSize, hown]
  simp only [sizeText_ofText, Loading.levelSize, hdefault, bind, Except.bind]
  rw [Loading.lengthPairs, if_pos (by rfl)]

namespace Trie

mutual

/-- The tree without its texts: what its sizes alone say. -/
def bare (t : Trie) : Trie :=
  match t with
  | .node size _ children => .node size none (bareChildren children)
termination_by structural t

def bareChildren (children : List (UInt8 × Trie)) : List (UInt8 × Trie) :=
  match children with
  | [] => []
  | (b, child) :: rest => (b, bare child) :: bareChildren rest
termination_by structural children

end

theorem eq_node (t : Trie) : t = .node t.size t.replacement t.children := by
  cases t
  rfl

theorem bare_eq (t : Trie) : t.bare = .node t.size none (bareChildren t.children) := by
  cases t
  rfl

end Trie

section Levels

variable {size : String} {replacement : Option String} {b : UInt8} {old child : Trie}
  {done rest : List (UInt8 × Trie)}

theorem childOrNew_new (h : b ∉ done.map Prod.fst) :
    (Trie.node size replacement done).childOrNew b = .node size none [] := by
  have hnone : Keyed.get? b done = none := Keyed.get?_eq_none_iff.mpr h
  rw [Trie.childOrNew, Trie.child?, Trie.children, hnone]
  rfl

theorem setChild_new (h : b ∉ done.map Prod.fst) :
    (Trie.node size replacement done).setChild b child =
      .node size replacement (done ++ [(b, child)]) :=
  congrArg (Trie.node size replacement) (Keyed.put_of_new h)

theorem childOrNew_there (h : b ∉ done.map Prod.fst) :
    (Trie.node size replacement (done ++ (b, old) :: rest)).childOrNew b = old := by
  have hnone : Keyed.get? b done = none := Keyed.get?_eq_none_iff.mpr h
  rw [Trie.childOrNew, Trie.child?, Trie.children, Keyed.get?_append, hnone]
  simp [Keyed.get?]

theorem setChild_there (h : b ∉ done.map Prod.fst) :
    (Trie.node size replacement (done ++ (b, old) :: rest)).setChild b child =
      .node size replacement (done ++ (b, child) :: rest) :=
  congrArg (Trie.node size replacement) (Keyed.put_append_cons h)

variable {t : Trie} {pairs more : List (Node × Node)}

theorem lengthPairs_leaf [Host] (s : String) :
    Loading.lengthPairs t ((byteNode b, .ofText s) :: more) =
      Loading.lengthPairs (t.setChild b ((t.childOrNew b).withSize s)) more := by
  rw [Loading.lengthPairs, keyText_byteNode_level, if_neg (by decide), byte_byteNode]
  have hread : (t.childOrNew b).withSize <$> Loading.sizeText (.ofText s) =
      .ok ((t.childOrNew b).withSize s) := by
    rw [sizeText_ofText]
    rfl
  exact congrArg (fun c => c >>= fun child => Loading.lengthPairs (t.setChild b child) more) hread

theorem lengthPairs_level [Host]
    (h : Loading.lengths (t.childOrNew b) (.ofPairs pairs) = .ok child) :
    Loading.lengthPairs t ((byteNode b, .ofPairs pairs) :: more) =
      Loading.lengthPairs (t.setChild b child) more := by
  rw [Loading.lengthPairs, keyText_byteNode_level, if_neg (by decide), byte_byteNode]
  exact congrArg (fun c => c >>= fun child => Loading.lengthPairs (t.setChild b child) more) h

theorem replacementPairs_leaf [Host] (s : String) :
    Loading.replacementPairs t ((byteNode b, .ofText s) :: more) =
      Loading.replacementPairs (t.setChild b ((t.childOrNew b).withReplacement s)) more := by
  rw [Loading.replacementPairs, keyText_byteNode_level, if_neg (by decide), byte_byteNode]
  rfl

theorem replacementPairs_level [Host]
    (h : Loading.replacements (t.childOrNew b) (.ofPairs pairs) = .ok child) :
    Loading.replacementPairs t ((byteNode b, .ofPairs pairs) :: more) =
      Loading.replacementPairs (t.setChild b child) more := by
  rw [Loading.replacementPairs, keyText_byteNode_level, if_neg (by decide), byte_byteNode]
  exact congrArg (fun c => c >>= fun child => Loading.replacementPairs (t.setChild b child) more) h

/-- What was read of a level does not matter for the bytes. -/
theorem distinct_done (h : Keyed.Distinct (done ++ (b, child) :: rest)) :
    Keyed.Distinct ((done ++ [(b, old)]) ++ rest) := by
  simpa [Keyed.Distinct] using h

end Levels

mutual

/-- The sizes of a tree give the tree without its texts. -/
theorem lengthPairs_read [Host] (t : Trie) (ht : t.Proper) (size : String) :
    Loading.lengthPairs (.node size none []) t.lengthPairs =
      .ok (.node size none (Trie.bareChildren t.children)) := by
  match t with
  | .node own replacement children =>
    rw [Trie.lengthPairs]
    exact childLengths_read children [] size ht.distinct ht.of_mem
termination_by structural t

theorem childLengths_read [Host] (children done : List (UInt8 × Trie)) (size : String)
    (hdistinct : Keyed.Distinct (done ++ children)) (hproper : ∀ p ∈ children, p.2.Proper) :
    Loading.lengthPairs (.node size none done) (Trie.childLengths children) =
      .ok (.node size none (done ++ Trie.bareChildren children)) := by
  match children with
  | [] => rw [Trie.childLengths, Trie.bareChildren, List.append_nil, Loading.lengthPairs]
  | (b, child) :: rest =>
    have hnew : b ∉ done.map Prod.fst := hdistinct.new
    have hchild : child.Proper := hproper (b, child) List.mem_cons_self
    have hrest := childLengths_read rest (done ++ [(b, child.bare)]) size (distinct_done hdistinct)
      fun p hp => hproper p (List.mem_cons_of_mem _ hp)
    rw [List.append_assoc, List.singleton_append, ← setChild_new hnew] at hrest
    rw [Trie.childLengths, Trie.bareChildren]
    by_cases hleaf : child.children.isEmpty = true
    · have hbare : child.bare = .node child.size none [] := by
        rw [child.bare_eq, List.isEmpty_iff.mp hleaf, Trie.bareChildren]
      rw [if_pos hleaf, lengthPairs_leaf, childOrNew_new hnew, ← hrest, hbare]
      rfl
    · have hlengths : Loading.lengths ((Trie.node size none done).childOrNew b)
          (.ofPairs ((.ofText ownKey, .ofText child.size) :: child.lengthPairs)) =
            .ok child.bare := by
        rw [childOrNew_new hnew, lengths_ownSize, child.bare_eq]
        exact lengthPairs_read child hchild child.size
      rw [if_neg hleaf, lengthPairs_level hlengths, hrest]
termination_by structural children

end

/-! ### Texts -/

/-- A level that has a text of its own takes it before the levels below are read. -/
theorem replacements_own [Host] (start t : Trie) :
    Loading.replacements start (.ofPairs (t.ownReplacement ++ t.replacementPairs)) =
      Loading.replacementPairs ((t.replacement.map fun s => start.withReplacement s).getD start)
        t.replacementPairs := by
  rw [Node.ofPairs, Loading.replacements, Trie.ownReplacement]
  cases t.replacement with
  | none => rfl
  | some s =>
    rw [List.singleton_append, Loading.replacementPairs, if_pos (by rfl)]
    rfl

/-- What the text of a level and those below it make of the level without them. -/
theorem replacements_bare [Host] (t : Trie) :
    Loading.replacements t.bare (.ofPairs (t.ownReplacement ++ t.replacementPairs)) =
      Loading.replacementPairs (.node t.size t.replacement (Trie.bareChildren t.children))
        t.replacementPairs := by
  rw [replacements_own, t.bare_eq]
  cases t.replacement with
  | none => rfl
  | some s => rfl

mutual

/-- The texts of a tree are read onto its levels. -/
theorem replacementPairs_read [Host] (t : Trie) (ht : t.Proper) (size : String)
    (replacement : Option String) :
    Loading.replacementPairs (.node size replacement (Trie.bareChildren t.children))
      t.replacementPairs = .ok (.node size replacement t.children) := by
  match t with
  | .node _ _ children =>
    rw [Trie.replacementPairs]
    exact childReplacements_read children [] size replacement ht.distinct ht.of_mem
termination_by structural t

/-- The levels that were read are complete, the others wait for their texts. -/
theorem childReplacements_read [Host] (children done : List (UInt8 × Trie)) (size : String)
    (replacement : Option String) (hdistinct : Keyed.Distinct (done ++ children))
    (hproper : ∀ p ∈ children, p.2.Proper) :
    Loading.replacementPairs (.node size replacement (done ++ Trie.bareChildren children))
      (Trie.childReplacements children) = .ok (.node size replacement (done ++ children)) := by
  match children with
  | [] => rw [Trie.childReplacements, Trie.bareChildren, Loading.replacementPairs]
  | (b, child) :: rest =>
    have hthere : b ∉ done.map Prod.fst := hdistinct.new
    have hchild : child.Proper := hproper (b, child) List.mem_cons_self
    have hrest := childReplacements_read rest (done ++ [(b, child)]) size replacement
      (distinct_done hdistinct) fun p hp => hproper p (List.mem_cons_of_mem _ hp)
    rw [List.append_assoc, List.append_assoc, List.singleton_append, List.singleton_append] at hrest
    rw [Trie.childReplacements, Trie.bareChildren]
    by_cases hleaf : child.children.isEmpty = true
    · have hnone : child.children = [] := List.isEmpty_iff.mp hleaf
      rw [if_pos hleaf]
      cases hown : child.replacement with
      | none =>
        have hbare : child.bare = child := by
          rw [child.eq_node, Trie.bare_eq, hown, hnone]
          rfl
        rw [hbare]
        exact hrest
      | some s =>
        have hbare : child.bare.withReplacement s = child := by
          rw [child.eq_node, Trie.bare_eq, hown, hnone]
          rfl
        simp only [List.singleton_append]
        rw [replacementPairs_leaf, childOrNew_there hthere, hbare, setChild_there hthere, hrest]
    · have hreplacements : Loading.replacements
          ((Trie.node size replacement (done ++ (b, child.bare) ::
            Trie.bareChildren rest)).childOrNew b)
          (.ofPairs (child.ownReplacement ++ child.replacementPairs)) = .ok child := by
        rw [childOrNew_there hthere, replacements_bare, replacementPairs_read child hchild,
          ← child.eq_node]
      rw [if_neg hleaf, List.singleton_append, replacementPairs_level hreplacements,
        setChild_there hthere, hrest]
termination_by structural children

end

/-! ### Tables -/

/-- A tree is read back whole, apart from a text at its root, which is not written. -/
theorem trie_read [Host] {t : Trie} (ht : t.Proper) : Loading.trie
    [(.ofText "Lengths", .ofPairs ((.ofText ownKey, .ofText t.size) :: t.lengthPairs)),
     (.ofText "Replacements", .ofPairs t.replacementPairs)] =
      .ok (.node t.size none t.children) := by
  have hlengths : Loading.lengths .empty
      (.ofPairs ((.ofText ownKey, .ofText t.size) :: t.lengthPairs)) =
        .ok (.node t.size none (Trie.bareChildren t.children)) :=
    (lengths_ownSize .empty t.size t).trans (lengthPairs_read t ht t.size)
  have hreplacements : Loading.replacements (.node t.size none (Trie.bareChildren t.children))
      (.ofPairs t.replacementPairs) = .ok (.node t.size none t.children) :=
    replacementPairs_read t ht t.size none
  exact bind_eq_ok_iff.mpr ⟨_, hlengths, hreplacements⟩

namespace Table

/-- What is written of a table: its tree without the text at the root, or its patterns. -/
def written (t : Table) : Table :=
  if t.patterns.isEmpty then { name := t.name, root := .node t.root.size none t.root.children }
  else { name := t.name, patterns := t.patterns }

/-- The description of a table that was read is read again. -/
theorem ofNode_toNode [Host] (name : String) {t : Table} (h : t.Sound) :
    ofNode name t.toNode = .ok { t.written with name := name } := by
  rw [toNode, written]
  split
  · rw [Yaml.Node.ofPairs, ofNode, trie_read h.root]
    rfl
  · have hpatterns : (t.patterns.map Pattern.toNode).mapM Loading.pattern = .ok t.patterns :=
      mapM_map fun p hp => pattern_toNode (h.patterns p hp)
    rw [Yaml.Node.ofItems, ofNode, hpatterns]
    rfl

/-- Neither the text at the root nor the tree behind patterns has a part in any run. -/
theorem runAt_written [Host] (t : Table) : t.written.runAt = t.runAt := by
  funext position b rest
  by_cases hpatterns : t.patterns.isEmpty = true
  · have hruns : (Trie.node t.root.size none t.root.children).runAt b rest = t.root.runAt b rest :=
      rfl
    rw [written, if_pos hpatterns, runAt, runAt, if_pos (by rfl), if_pos hpatterns, hruns]
    rfl
  · rw [written, if_neg hpatterns, runAt, runAt, if_neg hpatterns, if_neg hpatterns]

theorem decode_written [Host] (t : Table) (input : List UInt8) :
    t.written.decode input = t.decode input := by
  rw [decode, decode, runs, runs, runAt_written]

theorem name_written (t : Table) : t.written.name = t.name := by
  rw [written]
  split <;> rfl

/-- A table that was read is read again from its own description, and the table that this gives has
the same text for every input, or fails alike at the same place. -/
theorem decode_redescribed [Host] {name : String} {n : Node} {t : Table}
    (h : ofNode name n = .ok t) :
    ∃ r, ofNode t.name t.toNode = .ok r ∧ ∀ input, r.decode input = t.decode input := by
  have hread := ofNode_toNode t.name (sound_of_ofNode h)
  refine ⟨t.written, ?_, t.decode_written⟩
  rw [hread, ← t.name_written]

/-- A byte whose run has the size of the level above, and one with two parameters, unless the byte
behind it has a text of its own. -/
def sampleDescription : Node :=
  .ofPairs
    [(.ofText "Lengths", .ofPairs
      [(.ofText "default", .ofText "2"), (byteNode 0x80, .ofPairs [(.ofText ownKey, .ofInt 3)])]),
     (.ofText "Replacements", .ofPairs
      [(byteNode 0x41, .ofText "A"),
       (byteNode 0x80, .ofPairs
        [(byteNode 0x02, .ofText "<two>"), (.ofText ownKey, .ofText "<wait>")])])]

def describedTable : Table where
  name := "Main"
  root := .node "2" none
    [(0x80, .node "3" (some "<wait>") [(0x02, .node "3" (some "<two>") [])]),
     (0x41, .node "2" (some "A") [])]

theorem sampleDescription_redescribed :
    ofNode "Main" sampleDescription = .ok describedTable ∧
      ∃ r, ofNode "Main" describedTable.toNode = .ok r ∧
        r.decode [0x80, 0x02, 0x05, 0x41, 0x07, 0x80, 0x09, 0x09] =
          .ok "<two>[05]A[07]<wait>[09][09]" := by
  have hload : ofNode "Main" sampleDescription = .ok describedTable := rfl
  have hdecode : describedTable.decode [0x80, 0x02, 0x05, 0x41, 0x07, 0x80, 0x09, 0x09] =
      .ok "<two>[05]A[07]<wait>[09][09]" := rfl
  obtain ⟨r, hread, hsame⟩ := decode_redescribed hload
  refine ⟨hload, r, hread, ?_⟩
  rw [hsame, hdecode]

end Table

end GameAtlas.Script
