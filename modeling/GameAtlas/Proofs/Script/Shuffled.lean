import Mathlib.Tactic
import GameAtlas.Proofs.Script.Levels
import GameAtlas.Proofs.Script.Segments
import GameAtlas.Script.Description

/-!
The order of pairs in the description of a table. Sizes are inherited when levels come to be, and
two passes make them; still the tree is what is said of paths, which has no order. So a table
decodes alike whatever the order of the pairs of its mappings, at any depth.
-/

namespace GameAtlas.Script

open Schema (SizeError)
open Yaml (Node)

/-! ### Trees that say the same -/

namespace Trie

variable {t t' : Trie}

/-- The same levels with the same sizes and texts, in whatever order. -/
def Alike (t t' : Trie) : Prop :=
  ∀ path, (t.level? path).map (fun level => (level.size, level.replacement)) =
    (t'.level? path).map (fun level => (level.size, level.replacement))

theorem Alike.size (h : t.Alike t') : t.size = t'.size :=
  (Prod.ext_iff.mp (Option.some.inj (h []))).1

theorem Alike.replacement (h : t.Alike t') : t.replacement = t'.replacement :=
  (Prod.ext_iff.mp (Option.some.inj (h []))).2

theorem Alike.runSize [Host] (h : t.Alike t') (input : List UInt8) :
    t.runSize input = t'.runSize input := by
  rw [Trie.runSize, Trie.runSize, h.size]

/-- Below a byte there is nothing in both trees, or the trees below are alike. -/
theorem Alike.child (h : t.Alike t') (b : UInt8) :
    Option.Rel Alike (t.child? b) (t'.child? b) := by
  have hbelow (path : List UInt8) := h (b :: path)
  simp only [level?] at hbelow
  cases hchild : t.child? b with
  | none =>
    cases hchild' : t'.child? b with
    | none => exact .none
    | some next' =>
      have hroot := hbelow []
      simp [hchild, hchild', level?] at hroot
  | some next =>
    cases hchild' : t'.child? b with
    | none =>
      have hroot := hbelow []
      simp [hchild, hchild', level?] at hroot
    | some next' =>
      apply Option.Rel.some
      intro path
      simpa [hchild, hchild'] using hbelow path

/-- What of the end of a descent makes its run: the text, how deep it is and its size. -/
def outcome (found : Trie × Nat × Nat) : Option String × Nat × Nat := (found.1.replacement, found.2)

def runOf (input : List UInt8) (found : Option String × Nat × Nat) : Run :=
  let bytes := input.take (max found.2.1 found.2.2)
  .ofEntry found.1 bytes (bytes.drop found.2.1)

theorem runAt_eq [Host] (t : Trie) (b : UInt8) (rest : List UInt8) :
    t.runAt b rest =
      match t.child? b with
      | none => .ok (.single b)
      | some first =>
        ((first.descend (b :: rest) 1 rest).map outcome).map (runOf (b :: rest)) := by
  rw [runAt]
  cases t.child? b with
  | none => rfl
  | some first =>
    dsimp only
    cases first.descend (b :: rest) 1 rest <;> rfl

/-- Descents through alike trees end alike. -/
theorem Alike.descend [Host] (h : t.Alike t') (input : List UInt8) (depth : Nat)
    (rest : List UInt8) :
    (t.descend input depth rest).map outcome = (t'.descend input depth rest).map outcome := by
  induction rest generalizing t t' depth with
  | nil =>
    rw [Trie.descend, Trie.descend, h.runSize]
    cases t'.runSize input with
    | error e => rfl
    | ok size => simp [bind, Except.bind, pure, Except.pure, Except.map, outcome, h.replacement]
  | cons b rest ih =>
    rw [Trie.descend, Trie.descend, h.runSize]
    cases t'.runSize input with
    | error e => rfl
    | ok size =>
      simp only [bind, Except.bind]
      split
      · have hchild := h.child b
        generalize t.child? b = child at hchild
        generalize t'.child? b = child' at hchild
        cases hchild with
        | none => simp [pure, Except.pure, Except.map, outcome, h.replacement]
        | some hnext => exact ih hnext (depth + 1)
      · simp [pure, Except.pure, Except.map, outcome, h.replacement]

theorem Alike.runAt [Host] (h : t.Alike t') (b : UInt8) (rest : List UInt8) :
    t.runAt b rest = t'.runAt b rest := by
  have hchild := h.child b
  rw [runAt_eq, runAt_eq]
  generalize t.child? b = child at hchild
  generalize t'.child? b = child' at hchild
  cases hchild with
  | none => rfl
  | some hfirst => simp only [hfirst.descend]

end Trie

/-- Tables with alike trees decode alike. -/
theorem Table.decode_alike [Host] {t t' : Table} (hname : t'.name = t.name)
    (hpatterns : t.patterns = [])
    (hpatterns' : t'.patterns = []) (h : t'.root.Alike t.root) (input : List UInt8) :
    t'.decode input = t.decode input := by
  apply decode_congr
  intro position b rest
  simp only [runAt, hpatterns, hpatterns', h.runAt, place, hname]

/-! ### Keys in another order -/

namespace Loading

variable {read : Node → Loading String} {n n' k v : Node} {b : UInt8}
  {pairs pairs' before after : List (Node × Node)}

/-- Nodes whose mappings have the same pairs in another order, at any depth. -/
inductive Shuffled : Node → Node → Prop where
  | refl (n : Node) : Shuffled n n
  | trans {n n' n'' : Node} : Shuffled n n' → Shuffled n' n'' → Shuffled n n''
  | pairs {tag : String} {pairs pairs' : List (Node × Node)} {flow : Bool} {share : Option Nat} :
      pairs.Perm pairs' → Shuffled (.mapping tag pairs flow share) (.mapping tag pairs' flow share)
  | value {tag : String} {before after : List (Node × Node)} {k v v' : Node} {flow : Bool}
      {share : Option Nat} :
      Shuffled v v' →
      Shuffled (.mapping tag (before ++ (k, v) :: after) flow share)
        (.mapping tag (before ++ (k, v') :: after) flow share)

theorem Shuffled.isMapping_eq (h : Shuffled n n') : n'.isMapping = n.isMapping := by
  induction h with
  | refl => rfl
  | trans _ _ ih ih' => exact ih'.trans ih
  | pairs => rfl
  | value => rfl

theorem Shuffled.eq_of_scalar (h : Shuffled n n') (hn : n.isScalar = true) : n' = n := by
  induction h with
  | refl => rfl
  | trans _ _ ih ih' =>
    obtain rfl := ih hn
    exact ih' hn
  | pairs => cases hn
  | value => cases hn

/-- What a description says is kept: of which paths something is said, and what is given there. -/
structure Kept [Host] (read : Node → Loading String) (n n' : Node) : Prop where
  shaped : Shaped read n'
  level : ∀ path, (at? n' path).isSome = (at? n path).isSome
  given : ∀ path, given? read n' path = given? read n path

theorem Kept.refl [Host] (h : Shaped read n) : Kept read n n := ⟨h, fun _ => rfl, fun _ => rfl⟩

theorem Kept.trans [Host] {n'' : Node} (h : Kept read n n')
    (h' : Kept read n' n'') : Kept read n n'' where
  shaped := h'.shaped
  level path := (h'.level path).trans (h.level path)
  given path := (h'.given path).trans (h.given path)

/-- Mappings that say the same of their own levels keep what they say if what lies below does. -/
theorem kept_mapping [Host] {tag : String} {flow : Bool} {share : Option Nat}
    (hshaped : Shaped read (.mapping tag pairs' flow share))
    (hmarked : marked? read pairs' = marked? read pairs)
    (hbelow : ∀ b path, (at? (.mapping tag pairs' flow share) (b :: path)).isSome =
        (at? (.mapping tag pairs flow share) (b :: path)).isSome ∧
      given? read (.mapping tag pairs' flow share) (b :: path) =
        given? read (.mapping tag pairs flow share) (b :: path)) :
    Kept read (.mapping tag pairs flow share) (.mapping tag pairs' flow share) := by
  refine ⟨hshaped, fun path => ?_, fun path => ?_⟩
  · cases path with
    | nil => simp [at?]
    | cons b path => exact (hbelow b path).1
  · cases path with
    | nil => simpa [given?, at?, own?] using hmarked
    | cons b path => exact (hbelow b path).2

theorem marked?_perm (hone : (marks pairs).length ≤ 1) (hperm : pairs.Perm pairs') :
    marked? read pairs' = marked? read pairs := by
  have hmarks : (marks pairs).Perm (marks pairs') := hperm.filter _
  rw [marked?, marked?]
  cases hp : marks pairs with
  | nil =>
    rw [hp] at hmarks
    rw [← hmarks.nil_eq]
  | cons p rest =>
    rw [hp] at hmarks hone
    have hrest : rest = [] := by
      rw [List.length_cons] at hone
      exact List.length_eq_zero_iff.mp (by omega)
    rw [hrest] at hmarks
    rw [hrest, List.singleton_perm.mp hmarks]

theorem Shaped.kept_perm [Host] {tag : String} {flow : Bool} {share : Option Nat}
    (h : Shaped read (.mapping tag pairs flow share)) (hperm : pairs.Perm pairs') :
    Kept read (.mapping tag pairs flow share) (.mapping tag pairs' flow share) := by
  cases h with
  | value hscalar => cases hscalar
  | mapping hmarks hone hbytes hdistinct hshaped =>
    have hmarksperm : (marks pairs).Perm (marks pairs') := hperm.filter _
    have hbranches : (branches pairs).Perm (branches pairs') := hperm.filterMap _
    have hat (b : UInt8) (path : List UInt8) : at? (.mapping tag pairs' flow share) (b :: path) =
        at? (.mapping tag pairs flow share) (b :: path) := by
      rw [at?, at?, Keyed.get?_perm hdistinct hbranches]
    refine kept_mapping (.mapping ?_ ?_ ?_ ?_ ?_) (marked?_perm hone hperm) fun b path => ?_
    · exact fun p hp => hmarks p (hmarksperm.mem_iff.mpr hp)
    · rwa [← hmarksperm.length_eq]
    · exact fun p hp => hbytes p (hperm.mem_iff.mpr hp)
    · exact (hbranches.map Prod.fst).nodup_iff.mp hdistinct
    · exact fun p hp => hshaped p (hperm.mem_iff.mpr hp)
    · rw [given?, given?, hat]
      exact ⟨rfl, rfl⟩

theorem marks_middle (h : isLevelKey k = false) (before after : List (Node × Node)) (v : Node) :
    marks (before ++ (k, v) :: after) = marks (before ++ after) := by
  simp [marks, h]

theorem branches_middle [Host] (hb : byte k = .ok b) (h : isLevelKey k = false)
    (before after : List (Node × Node)) (v : Node) :
    branches (before ++ (k, v) :: after) = branches before ++ (b, v) :: branches after := by
  rw [← branches_cons (k, v) after hb h, branches, branches, branches, List.filterMap_append]

/-- Below a byte there is the value of a pair, or what is there does not depend on it. -/
theorem get?_branches_middle [Host] (hb : byte k = .ok b) (h : isLevelKey k = false)
    (before after : List (Node × Node)) (b' : UInt8) :
    (∀ v, Keyed.get? b' (branches (before ++ (k, v) :: after)) = some v) ∨
      ∃ found, ∀ v, Keyed.get? b' (branches (before ++ (k, v) :: after)) = found := by
  simp only [branches_middle hb h, Keyed.get?_append, Keyed.get?]
  cases Keyed.get? b' (branches before) with
  | some w => exact .inr ⟨some w, fun _ => rfl⟩
  | none =>
    split
    · exact .inl fun _ => rfl
    · exact .inr ⟨_, fun _ => rfl⟩

theorem Shaped.kept_value [Host] {tag : String} {flow : Bool} {share : Option Nat} {v' : Node}
    (h : Shaped read (.mapping tag (before ++ (k, v) :: after) flow share)) (hv : Shuffled v v')
    (hkept : Shaped read v → Kept read v v') :
    Kept read (.mapping tag (before ++ (k, v) :: after) flow share)
      (.mapping tag (before ++ (k, v') :: after) flow share) := by
  cases h with
  | value hscalar => cases hscalar
  | mapping hmarks hone hbytes hdistinct hshaped =>
    have hmem : (k, v) ∈ before ++ (k, v) :: after := by
      simp
    cases hlevel : isLevelKey k with
    | true =>
      have hscalar := (hmarks (k, v) (List.mem_filter.mpr ⟨hmem, hlevel⟩)).2.1
      obtain rfl := hv.eq_of_scalar hscalar
      exact .refl (.mapping hmarks hone hbytes hdistinct hshaped)
    | false =>
      obtain ⟨b, hb⟩ := hbytes (k, v) hmem hlevel
      have hkept := hkept (hshaped (k, v) hmem hlevel)
      have hmarked : marks (before ++ (k, v') :: after) = marks (before ++ (k, v) :: after) := by
        rw [marks_middle hlevel, marks_middle hlevel]
      refine kept_mapping (.mapping ?_ ?_ ?_ ?_ ?_) ?_ fun b' path => ?_
      · rwa [hmarked]
      · rwa [hmarked]
      · simp only [List.forall_mem_append, List.forall_mem_cons] at hbytes ⊢
        exact hbytes
      · rw [branches_middle hb hlevel, Keyed.Distinct] at hdistinct ⊢
        simpa using hdistinct
      · simp only [List.forall_mem_append, List.forall_mem_cons] at hshaped ⊢
        exact ⟨hshaped.1, fun _ => hkept.shaped, hshaped.2.2⟩
      · rw [marked?, marked?, hmarked]
      · rcases get?_branches_middle hb hlevel before after b' with hvalue | ⟨found, hfound⟩
        · rw [given?, given?, at?_mapping_some (hvalue v'), at?_mapping_some (hvalue v)]
          exact ⟨hkept.level path, hkept.given path⟩
        · rw [given?, given?, at?, at?, hfound, hfound]
          exact ⟨rfl, rfl⟩

/-- A description says the same in any order. The induction is on how it is shuffled. -/
theorem Shuffled.kept [Host] (h : Shuffled n n') (hn : Shaped read n) : Kept read n n' := by
  induction h with
  | refl => exact .refl hn
  | trans _ _ ih ih' =>
    have hfirst := ih hn
    exact hfirst.trans (ih' hfirst.shaped)
  | pairs hperm => exact hn.kept_perm hperm
  | value hv ih => exact hn.kept_value hv ih

/-! ### Tables in another order -/

theorem get?_cons (key : String) (p : Node × Node) (rest : List (Node × Node)) :
    Node.get? key (p :: rest) =
      if p.1.isScalar = true ∧ p.1.keyText = key then some p.2 else Node.get? key rest := by
  obtain ⟨k, v⟩ := p
  cases k <;> simp [Node.get?, Node.isScalar, Node.keyText]

theorem get?_append (key : String) (ps qs : List (Node × Node)) :
    Node.get? key (ps ++ qs) = (Node.get? key ps).or (Node.get? key qs) := by
  induction ps with
  | nil => rfl
  | cons p rest ih =>
    rw [List.cons_append, get?_cons, get?_cons, ih]
    split <;> rfl

/-- A key that is spelled once finds its value in any order. -/
theorem get?_perm (hperm : pairs.Perm pairs') (honce : (pairs.map fun p => p.1.keyText).Nodup)
    (key : String) : Node.get? key pairs = Node.get? key pairs' := by
  induction hperm with
  | nil => rfl
  | cons p _ ih => rw [get?_cons, get?_cons, ih (List.nodup_cons.mp honce).2]
  | swap p q rest =>
    have hne : q.1.keyText ≠ p.1.keyText := by
      intro heq
      simp [heq] at honce
    rw [get?_cons, get?_cons, get?_cons, get?_cons]
    by_cases hq : q.1.isScalar = true ∧ q.1.keyText = key
    · have hp : ¬(p.1.isScalar = true ∧ p.1.keyText = key) := fun hp => hne (hq.2.trans hp.2.symm)
      rw [if_pos hq, if_neg hp, if_pos hq]
    · rw [if_neg hq, if_neg hq]
  | trans hfirst _ ih ih' => exact (ih honce).trans (ih' ((hfirst.map _).nodup_iff.mp honce))

/-- The description of a table with its pairs in another order: its own ones, if no key is there
twice, and those of the mappings below. -/
inductive TableShuffled : Node → Node → Prop where
  | refl (n : Node) : TableShuffled n n
  | trans {n n' n'' : Node} : TableShuffled n n' → TableShuffled n' n'' → TableShuffled n n''
  | keys {tag : String} {pairs pairs' : List (Node × Node)} {flow : Bool} {share : Option Nat} :
      (pairs.map fun p => p.1.keyText).Nodup → pairs.Perm pairs' →
      TableShuffled (.mapping tag pairs flow share) (.mapping tag pairs' flow share)
  | value {tag : String} {before after : List (Node × Node)} {k v v' : Node} {flow : Bool}
      {share : Option Nat} :
      Shuffled v v' →
      TableShuffled (.mapping tag (before ++ (k, v) :: after) flow share)
        (.mapping tag (before ++ (k, v') :: after) flow share)

theorem TableShuffled.isMapping_eq (h : TableShuffled n n') : n'.isMapping = n.isMapping := by
  induction h with
  | refl => rfl
  | trans _ _ ih ih' => exact ih'.trans ih
  | keys => rfl
  | value => rfl

theorem TableShuffled.known (h : TableShuffled n n')
    (hn : ∀ p ∈ pairsOf n, p.1.keyText ∈ tableKeys) :
    ∀ p ∈ pairsOf n', p.1.keyText ∈ tableKeys := by
  induction h with
  | refl => exact hn
  | trans _ _ ih ih' => exact ih' (ih hn)
  | keys _ hperm => exact fun p hp => hn p (hperm.mem_iff.mpr hp)
  | value =>
    simp only [pairsOf, List.forall_mem_append, List.forall_mem_cons] at hn ⊢
    exact hn

theorem TableShuffled.part (h : TableShuffled n n') (key : String) :
    Shuffled (part key n) (part key n') := by
  induction h with
  | refl n => exact .refl _
  | trans _ _ ih ih' => exact ih.trans ih'
  | keys honce hperm =>
    rw [Loading.part, Loading.part, pairsOf, pairsOf, get?_perm hperm honce]
    exact .refl _
  | @value tag before after k v v' flow share hv =>
    rw [Loading.part, Loading.part, pairsOf, pairsOf, get?_append, get?_append, get?_cons,
      get?_cons]
    cases Node.get? key before with
    | some w => exact .refl w
    | none =>
      rw [Option.none_or, Option.none_or]
      split
      · exact hv
      · exact .refl _

/-- The description of a table is one in any order, and says the same of every path. -/
theorem TableShaped.shuffled [Host] (hn : TableShaped n) (h : TableShuffled n n') :
    TableShaped n' ∧ Kept sizeText (part "Lengths" n) (part "Lengths" n') ∧
      Kept textOf (part "Replacements" n) (part "Replacements" n') := by
  have hsizes := (h.part "Lengths").kept hn.sizes
  have htexts := (h.part "Replacements").kept hn.texts
  exact ⟨⟨h.isMapping_eq.trans hn.mapping, h.known hn.known,
    (h.part "Lengths").isMapping_eq.trans hn.lengths, hsizes.shaped,
    (h.part "Replacements").isMapping_eq.trans hn.replacements, htexts.shaped⟩, hsizes, htexts⟩

theorem Described.alike [Host] {root root' : Trie} (h : Described root n) (h' : Described root' n')
    (hsizes : Kept sizeText (part "Lengths" n) (part "Lengths" n'))
    (htexts : Kept textOf (part "Replacements" n) (part "Replacements" n')) :
    root'.Alike root := by
  intro path
  have hsome : (root'.level? path).isSome = (root.level? path).isSome := by
    rw [h.level, h'.level, hsizes.level, htexts.level]
  cases hlevel : root.level? path with
  | none =>
    rw [hlevel] at hsome
    have hnone : root'.level? path = none := by
      simpa using hsome
    rw [hnone]
  | some level =>
    rw [hlevel] at hsome
    obtain ⟨level', hlevel'⟩ := Option.isSome_iff_exists.mp hsome
    have hsize : level'.size = level.size := by
      rw [h.size path level hlevel, h'.size path level' hlevel', funext hsizes.given]
    have htext : level'.replacement = level.replacement := by
      rw [h.text path level hlevel, h'.text path level' hlevel', htexts.given]
    rw [hlevel', Option.map_some, Option.map_some, hsize, htext]

end Loading

open Loading (TableShaped TableShuffled Described)

namespace Table

theorem ofNode_described [Host] (name : String) {n : Node} (h : TableShaped n) :
    ∃ t, Table.ofNode name n = .ok t ∧ t.name = name ∧ t.patterns = [] ∧ Described t.root n := by
  obtain ⟨root, hroot, hdescribed⟩ := Loading.trie_described h
  cases n with
  | mapping tag pairs flow share =>
    refine ⟨{ name := name, root := root }, ?_, rfl, rfl, hdescribed⟩
    exact bind_eq_ok_iff.mpr ⟨root, hroot, rfl⟩
  | scalar => cases h.mapping
  | sequence => cases h.mapping

/-- A table is read from mappings of sizes and of texts, each with distinct bytes and at most one
size or text of its own at every level. Its tree is what they say of paths: it has the levels that
they lead to, each with the size at the longest prefix of its path that has one and with the text at
its path. So the pairs of every mapping may stand in any order, and inputs decode the same. -/
theorem ofNode_levels [Host] (name : String) {n : Node} (h : TableShaped n) :
    ∃ t, Table.ofNode name n = .ok t ∧ t.patterns = [] ∧ Described t.root n ∧
      ∀ n', TableShuffled n n' →
        ∃ t', Table.ofNode name n' = .ok t' ∧ ∀ input, t'.decode input = t.decode input := by
  obtain ⟨t, ht, hname, hpatterns, hdescribed⟩ := ofNode_described name h
  refine ⟨t, ht, hpatterns, hdescribed, fun n' hshuffled => ?_⟩
  obtain ⟨h', hsizes, htexts⟩ := h.shuffled hshuffled
  obtain ⟨t', ht', hname', hpatterns', hdescribed'⟩ := ofNode_described name h'
  refine ⟨t', ht', decode_alike (hname'.trans hname.symm) hpatterns hpatterns' ?_⟩
  exact hdescribed.alike hdescribed' hsizes htexts

end Table

section Sample

variable (order : List (Node × Node) → List (Node × Node))

/-- The sizes below a byte: one of the level itself and one of a level below it. -/
def sampleSizes : Node := .ofPairs (order [(.ofText "=", .ofInt 2), (byteNode 0x01, .ofInt 3)])

/-- The texts below the byte: they add a level, which takes its size from above. -/
def sampleTexts : Node :=
  .ofPairs (order [(byteNode 0x02, .ofText "<two>"), (.ofText "default", .ofText "<any>")])

def sampleLengths : Node :=
  .ofPairs (order [(byteNode 0x80, .ofInt 2), (byteNode 0xE0, sampleSizes order)])

def sampleReplacements : Node :=
  .ofPairs (order [(byteNode 0x00, .ofText "A"), (byteNode 0xE0, sampleTexts order)])

def sampleTiers : Node :=
  .ofPairs (order
    [(.ofText "Lengths", sampleLengths order), (.ofText "Replacements", sampleReplacements order)])

end Sample

namespace Loading

theorem forall_mem_two {α : Type} {P : α → Prop} {a b : α} (ha : P a) (hb : P b) :
    ∀ x ∈ [a, b], P x := by
  simp [ha, hb]

theorem shaped_sampleLengths : Shaped sizeText (sampleLengths id) := by
  have hsizes : Shaped sizeText (sampleSizes id) := by
    refine .mapping ?_ (by decide +kernel) ?_ (by unfold Keyed.Distinct; decide +kernel) ?_
    · intro p hp
      obtain rfl : p = (.ofText "=", .ofInt 2) := List.mem_singleton.mp hp
      exact ⟨rfl, rfl, "2", rfl⟩
    · exact forall_mem_two nofun fun _ => ⟨0x01, rfl⟩
    · exact forall_mem_two nofun fun _ => .value rfl rfl
  refine .mapping ?_ (by decide +kernel) ?_ (by unfold Keyed.Distinct; decide +kernel) ?_
  · exact fun p hp => nomatch (hp : p ∈ ([] : List (Node × Node)))
  · exact forall_mem_two (fun _ => ⟨0x80, rfl⟩) fun _ => ⟨0xE0, rfl⟩
  · exact forall_mem_two (fun _ => .value rfl rfl) fun _ => hsizes

theorem shaped_sampleReplacements : Shaped textOf (sampleReplacements id) := by
  have htexts : Shaped textOf (sampleTexts id) := by
    refine .mapping ?_ (by decide +kernel) ?_ (by unfold Keyed.Distinct; decide +kernel) ?_
    · intro p hp
      obtain rfl : p = (.ofText "default", .ofText "<any>") := List.mem_singleton.mp hp
      exact ⟨rfl, rfl, "<any>", rfl⟩
    · exact forall_mem_two (fun _ => ⟨0x02, rfl⟩) nofun
    · exact forall_mem_two (fun _ => .value rfl rfl) nofun
  refine .mapping ?_ (by decide +kernel) ?_ (by unfold Keyed.Distinct; decide +kernel) ?_
  · exact fun p hp => nomatch (hp : p ∈ ([] : List (Node × Node)))
  · exact forall_mem_two (fun _ => ⟨0x00, rfl⟩) fun _ => ⟨0xE0, rfl⟩
  · exact forall_mem_two (fun _ => .value rfl rfl) fun _ => htexts

/-- Two pairs may change places, the second with another order within. -/
theorem Shuffled.two {a b w w' : Node} {k : Node} (h : Shuffled w w') :
    Shuffled (.ofPairs [(a, b), (k, w)]) (.ofPairs [(k, w'), (a, b)]) :=
  .trans (@Shuffled.value _ [(a, b)] [] k w w' _ _ h) (.pairs (List.reverse_perm _).symm)

theorem shuffled_sampleTiers :
    TableShuffled (sampleTiers id) (sampleTiers List.reverse) := by
  have hlengths : Shuffled (sampleLengths id) (sampleLengths List.reverse) :=
    .two (.pairs (List.reverse_perm _).symm)
  have hreplacements : Shuffled (sampleReplacements id) (sampleReplacements List.reverse) :=
    .two (.pairs (List.reverse_perm _).symm)
  apply TableShuffled.trans
  · exact @TableShuffled.value _ [] [(.ofText "Replacements", sampleReplacements id)]
      (.ofText "Lengths") _ _ _ _ hlengths
  apply TableShuffled.trans
  · exact @TableShuffled.value _ [(.ofText "Lengths", sampleLengths List.reverse)] []
      (.ofText "Replacements") _ _ _ _ hreplacements
  exact .keys (by decide) (List.reverse_perm _).symm

end Loading

namespace Table

/-- The level that a text adds has the size of the level above, whichever of its pairs says so. -/
theorem sampleTiers_levels :
    TableShaped (sampleTiers id) ∧
      TableShuffled (sampleTiers id) (sampleTiers List.reverse) ∧
      ∃ t t', Table.ofNode "Main" (sampleTiers id) = .ok t ∧
        Table.ofNode "Main" (sampleTiers List.reverse) = .ok t' ∧
        (∃ level, t.root.level? [0xE0, 0x02] = some level ∧
          level.size = "2" ∧ level.replacement = some "<two>") ∧
        t.decode [0x00, 0xE0, 0x02, 0xE0, 0x01, 0x07, 0x80] = .ok "A<two>[E0][01][07][80]" ∧
        t'.decode [0x00, 0xE0, 0x02, 0xE0, 0x01, 0x07, 0x80] = .ok "A<two>[E0][01][07][80]" := by
  have hshaped : TableShaped (sampleTiers id) :=
    ⟨rfl, by decide, rfl, Loading.shaped_sampleLengths, rfl, Loading.shaped_sampleReplacements⟩
  have hshuffled := Loading.shuffled_sampleTiers
  obtain ⟨t, ht, _, hdescribed, hsame⟩ := ofNode_levels "Main" hshaped
  obtain ⟨t', ht', hdecode'⟩ := hsame _ hshuffled
  have hdecode : t.decode [0x00, 0xE0, 0x02, 0xE0, 0x01, 0x07, 0x80] =
      .ok "A<two>[E0][01][07][80]" := by
    have hrun : (Table.ofNode "Main" (sampleTiers id)).toOption.bind (fun t =>
        (t.decode [0x00, 0xE0, 0x02, 0xE0, 0x01, 0x07, 0x80]).toOption) =
          some "A<two>[E0][01][07][80]" := by
      decide +kernel
    rw [ht] at hrun
    exact toOption_eq_some hrun
  have hsome : (t.root.level? [0xE0, 0x02]).isSome = true := by
    rw [hdescribed.level]
    decide +kernel
  obtain ⟨level, hlevel⟩ := Option.isSome_iff_exists.mp hsome
  refine ⟨hshaped, hshuffled, t, t', ht, ht', ⟨level, hlevel, ?_, ?_⟩, hdecode, ?_⟩
  · rw [hdescribed.size _ level hlevel]
    decide +kernel
  · rw [hdescribed.text _ level hlevel]
    decide +kernel
  · rw [hdecode', hdecode]

end Table

end GameAtlas.Script
