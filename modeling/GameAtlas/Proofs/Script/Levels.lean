import Mathlib.Tactic
import GameAtlas.Proofs.Script.Loaded
import GameAtlas.Proofs.Script.Obstacles
import GameAtlas.Yaml.Build

/-!
The trees of tables, path by path. Sizes are read first and texts are added to what is there. Which
levels there are, what size each has and which text is said here of the paths of bytes, without the
order in which the levels came to be.
-/

namespace GameAtlas.Script

open Yaml (Node)

/-! ### Paths in trees -/

namespace Trie

variable {t child : Trie} {b : UInt8} {path : List UInt8}

/-- The level at the end of a path. -/
def level? : Trie → List UInt8 → Option Trie
  | t, [] => some t
  | t, b :: path =>
    match t.child? b with
    | some next => level? next path
    | none => none

/-- The size of the last level on a path. -/
def sizeAlong : Trie → List UInt8 → String
  | t, [] => t.size
  | t, b :: path =>
    match t.child? b with
    | some next => sizeAlong next path
    | none => t.size

/-- The text of the level at the end of a path. -/
def textAt? (t : Trie) (path : List UInt8) : Option String := (t.level? path).bind replacement

theorem size_of_level? {level : Trie} (h : t.level? path = some level) :
    level.size = t.sizeAlong path := by
  induction path generalizing t with
  | nil =>
    cases h
    rfl
  | cons b path ih =>
    rw [level?] at h
    rw [sizeAlong]
    cases hchild : t.child? b with
    | none =>
      rw [hchild] at h
      cases h
    | some next =>
      rw [hchild] at h
      exact ih h

@[simp] theorem size_withSize (t : Trie) (s : String) : (t.withSize s).size = s := by
  cases t
  rfl

@[simp] theorem replacement_withSize (t : Trie) (s : String) :
    (t.withSize s).replacement = t.replacement := by
  cases t
  rfl

@[simp] theorem children_withSize (t : Trie) (s : String) :
    (t.withSize s).children = t.children := by
  cases t
  rfl

theorem withSize_size (t : Trie) : t.withSize t.size = t := by
  cases t
  rfl

@[simp] theorem size_withReplacement (t : Trie) (s : String) :
    (t.withReplacement s).size = t.size := by
  cases t
  rfl

@[simp] theorem replacement_withReplacement (t : Trie) (s : String) :
    (t.withReplacement s).replacement = some s := by
  cases t
  rfl

@[simp] theorem child?_withReplacement (t : Trie) (s : String) (b : UInt8) :
    (t.withReplacement s).child? b = t.child? b := by
  cases t
  rfl

theorem child?_setChild (t child : Trie) (b b' : UInt8) :
    (t.setChild b child).child? b' = if b = b' then some child else t.child? b' :=
  Keyed.get?_put b b' child t.children

theorem child?_of_bare (h : t.children = []) (b : UInt8) : t.child? b = none := by
  rw [child?, h]
  rfl

/-- A level that is there on demand: what lies below it lies there already, and a new one takes its
size from above. -/
theorem childOrNew_along (t : Trie) (b : UInt8) (path : List UInt8) :
    ((t.childOrNew b).level? path).isSome = ((t.level? (b :: path)).isSome || path.isEmpty) ∧
      (t.childOrNew b).sizeAlong path = t.sizeAlong (b :: path) ∧
      (t.childOrNew b).textAt? path = t.textAt? (b :: path) := by
  rw [textAt?, textAt?, childOrNew, level?, sizeAlong]
  cases t.child? b with
  | some next =>
    refine ⟨?_, rfl, rfl⟩
    cases path with
    | nil => rfl
    | cons => simp
  | none =>
    cases path with
    | nil => exact ⟨rfl, rfl, rfl⟩
    | cons => exact ⟨rfl, rfl, rfl⟩

end Trie

namespace Loading

/-! ### Paths in descriptions -/

section

variable [Host]

/-- The byte of a key that does not speak of the level itself. -/
def keyByte? (k : Node) : Option UInt8 := if isLevelKey k then none else (byte k).toOption

/-- What stands under bytes. -/
def branches (pairs : List (Node × Node)) : Keyed UInt8 Node :=
  pairs.filterMap fun p => (keyByte? p.1).map fun b => (b, p.2)

/-- The pairs in which a level speaks of itself. -/
def marks (pairs : List (Node × Node)) : List (Node × Node) := pairs.filter fun p => isLevelKey p.1

/-- What stands at the end of a path of bytes. -/
def at? : Node → List UInt8 → Option Node
  | n, [] => some n
  | .mapping _ pairs _ _, b :: path =>
    match Keyed.get? b (branches pairs) with
    | some v => at? v path
    | none => none
  | _, _ :: _ => none

/-- What a level says of itself. -/
def marked? (read : Node → Loading String) (pairs : List (Node × Node)) : Option String :=
  (marks pairs).head?.bind fun p => (read p.2).toOption

/-- What is said of a level: by a mapping in a pair of its own, by anything else as a whole. -/
def own? (read : Node → Loading String) : Node → Option String
  | .mapping _ pairs _ _ => marked? read pairs
  | n => (read n).toOption

/-- What a description says of the level at the end of a path. -/
def given? (read : Node → Loading String) (n : Node) (path : List UInt8) : Option String :=
  (at? n path).bind (own? read)

/-- What is given at the longest prefix of a path that something is given at. -/
def inherited (default : String) (given : List UInt8 → Option String) (path : List UInt8) :
    String :=
  (path.inits.filterMap given).getLast?.getD default

/-- The text of a level. -/
def textOf (n : Node) : Loading String := ofConversion n.scalarText

/-- A description of sizes or of texts: values, or mappings with distinct bytes and at most one pair
in which the level speaks of itself. -/
inductive Shaped (read : Node → Loading String) : Node → Prop where
  | value {n : Node} {s : String} : n.isScalar = true → read n = .ok s → Shaped read n
  | mapping {tag : String} {pairs : List (Node × Node)} {flow : Bool} {share : Option Nat} :
      (∀ p ∈ marks pairs, p.1.isScalar = true ∧ p.2.isScalar = true ∧ ∃ s, read p.2 = .ok s) →
      (marks pairs).length ≤ 1 →
      (∀ p ∈ pairs, isLevelKey p.1 = false → ∃ b, byte p.1 = .ok b) →
      (branches pairs).Distinct →
      (∀ p ∈ pairs, isLevelKey p.1 = false → Shaped read p.2) →
      Shaped read (.mapping tag pairs flow share)

end

section Inherited

variable {default : String} {given : List UInt8 → Option String}

theorem inherited_nil : inherited default given [] = (given []).getD default := by
  have hinits : ([] : List UInt8).inits = [[]] := rfl
  rw [inherited, hinits, List.filterMap_cons, List.filterMap_nil]
  cases given [] <;> rfl

/-- What is given above a path is the default for what lies below. -/
theorem inherited_cons (b : UInt8) (path : List UInt8) :
    inherited default given (b :: path) =
      inherited ((given []).getD default) (fun below => given (b :: below)) path := by
  have hbelow : (path.inits.map (b :: ·)).filterMap given =
      path.inits.filterMap fun below => given (b :: below) := by
    rw [List.filterMap_map]
    rfl
  rw [inherited, inherited, List.inits_cons, List.filterMap_cons, hbelow]
  cases given [] with
  | none => rfl
  | some s => rw [List.getLast?_cons]; rfl

theorem inherited_none (h : ∀ below, given below = none) (path : List UInt8) :
    inherited default given path = default := by
  have hnothing : path.inits.filterMap given = [] := List.filterMap_eq_nil_iff.mpr fun q _ => h q
  rw [inherited, hnothing]
  rfl

end Inherited

section Below

variable {read : Node → Loading String} {tag : String} {pairs : List (Node × Node)} {flow : Bool}
  {share : Option Nat} {b : UInt8} {v n : Node}

theorem at?_mapping_some [Host] (h : Keyed.get? b (branches pairs) = some v) (path : List UInt8) :
    at? (.mapping tag pairs flow share) (b :: path) = at? v path := by
  rw [at?, h]

theorem at?_mapping_none [Host] (h : Keyed.get? b (branches pairs) = none) (path : List UInt8) :
    at? (.mapping tag pairs flow share) (b :: path) = none := by
  rw [at?, h]

theorem at?_scalar [Host] (h : n.isScalar = true) (path : List UInt8) :
    at? n (b :: path) = none := by
  cases n with
  | scalar => rfl
  | sequence => cases h
  | mapping => cases h

theorem isMapping_of_isScalar (h : n.isScalar = true) : n.isMapping = false := by
  cases n with
  | scalar => rfl
  | sequence => rfl
  | mapping => cases h

theorem own?_scalar (h : n.isScalar = true) : own? read n = (read n).toOption := by
  cases n with
  | scalar => rfl
  | sequence => cases h
  | mapping => cases h

theorem marks_cons {p : Node × Node} (rest : List (Node × Node)) (h : isLevelKey p.1 = true) :
    marks (p :: rest) = p :: marks rest :=
  List.filter_cons_of_pos h

theorem marks_cons_byte {p : Node × Node} (rest : List (Node × Node))
    (h : isLevelKey p.1 = false) : marks (p :: rest) = marks rest :=
  List.filter_cons_of_neg (by simp [h])

theorem branches_cons [Host] (p : Node × Node) (rest : List (Node × Node)) (h : byte p.1 = .ok b)
    (hlevel : isLevelKey p.1 = false) : branches (p :: rest) = (b, p.2) :: branches rest := by
  simp [branches, keyByte?, hlevel, h, Except.toOption]

theorem branches_cons_level [Host] (p : Node × Node) (rest : List (Node × Node))
    (hlevel : isLevelKey p.1 = true) : branches (p :: rest) = branches rest := by
  simp [branches, keyByte?, hlevel]

end Below

/-! ### What lies below a level -/

/-- A level that has read what stands under bytes: the levels of these bytes have read it, in their
turn as they were or new, and nothing else lies below that did not before. -/
structure Grown (load : Trie → Node → Loading Trie) (t r : Trie) (below : Keyed UInt8 Node) :
    Prop where
  size : r.size = t.size
  kept : ∀ b, Keyed.get? b below = none → r.child? b = t.child? b
  grown : ∀ b v, Keyed.get? b below = some v →
    ∃ child, load (t.childOrNew b) v = .ok child ∧ r.child? b = some child

section Growing

variable {load : Trie → Node → Loading Trie} {t r child : Trie} {below : Keyed UInt8 Node}
  {b : UInt8} {v : Node}

theorem Grown.nil (t : Trie) : Grown load t t [] where
  size := rfl
  kept _ _ := rfl
  grown := nofun

theorem Grown.cons (hload : load (t.childOrNew b) v = .ok child) (hnew : b ∉ below.map Prod.fst)
    (h : Grown load (t.setChild b child) r below) : Grown load t r ((b, v) :: below) where
  size := h.size
  kept b' hb' := by
    rw [Keyed.get?] at hb'
    split at hb'
    · cases hb'
    · next hne => rw [h.kept b' hb', Trie.child?_setChild, if_neg hne]
  grown b' v' hb' := by
    rw [Keyed.get?] at hb'
    split at hb'
    · next heq =>
      cases hb'
      subst heq
      refine ⟨child, hload, ?_⟩
      rw [h.kept b (Keyed.get?_eq_none_iff.mpr hnew), Trie.child?_setChild, if_pos rfl]
    · next hne =>
      obtain ⟨child', hload', hchild'⟩ := h.grown b' v' hb'
      rw [Trie.childOrNew, Trie.child?_setChild, if_neg hne] at hload'
      exact ⟨child', hload', hchild'⟩

theorem Grown.of_withReplacement {s : String} (h : Grown load (t.withReplacement s) r below) :
    Grown load t r below where
  size := h.size.trans (t.size_withReplacement s)
  kept b hb := (h.kept b hb).trans (t.child?_withReplacement s b)
  grown b v hb := by
    have hgrown := h.grown b v hb
    rwa [Trie.childOrNew, Trie.child?_withReplacement, Trie.size_withReplacement] at hgrown

end Growing

section

variable [Host]

/-- A size or a mapping of sizes is read into a level. -/
def readSizes (t : Trie) (n : Node) : Loading Trie :=
  if n.isMapping then lengths t n else t.withSize <$> sizeText n

/-- A text or a mapping of texts is read into a level. -/
def readTexts (t : Trie) (n : Node) : Loading Trie :=
  if n.isMapping then replacements t n else t.withReplacement <$> textOf n

/-- Under a byte, something is read into any level. -/
structure Readable (load : Trie → Node → Loading Trie) (p : Node × Node) : Prop where
  key : ∃ b, byte p.1 = .ok b
  kind : p.2.isMapping = true ∨ p.2.isScalar = true
  load : ∀ t, ∃ r, load t p.2 = .ok r

/-- A step over the pairs of a level: something is read under a byte that no later pair has, and the
rest is read with it. -/
theorem grown_step {load : Trie → Node → Loading Trie} {tree value : Trie → Loading Trie}
    {defect : Defect} {k v : Node} {rest : List (Node × Node)} {t : Trie}
    (next : Trie → Loading Trie) (P : Trie → Prop)
    (hload : ∀ t, load t v = if v.isMapping then tree t else value t)
    (hreadable : Readable load (k, v)) (hlevel : isLevelKey k = false)
    (hdistinct : (branches ((k, v) :: rest)).Distinct)
    (hnext : ∀ b child, (branches rest).Distinct → ∃ r, next (t.setChild b child) = .ok r ∧
      Grown load (t.setChild b child) r (branches rest) ∧ P r) :
    ∃ r, (do
      let b ← byte k
      if v.isMapping then tree (t.childOrNew b) >>= fun child => next (t.setChild b child)
      else if v.isScalar then value (t.childOrNew b) >>= fun child => next (t.setChild b child)
      else refuse defect >>= fun child => next (t.setChild b child)) = .ok r ∧
        Grown load t r (branches ((k, v) :: rest)) ∧ P r := by
  obtain ⟨⟨b, hb⟩, hkind, hchild⟩ := hreadable
  obtain ⟨child, hchild⟩ := hchild (t.childOrNew b)
  rw [branches_cons _ _ hb hlevel] at hdistinct ⊢
  obtain ⟨hnew, hdistinct⟩ := List.nodup_cons.mp hdistinct
  obtain ⟨r, hr, hgrown, hP⟩ := hnext b child hdistinct
  refine ⟨r, bind_eq_ok_iff.mpr ⟨b, hb, ?_⟩, .cons hchild hnew hgrown, hP⟩
  rw [hload] at hchild
  split
  · next hmapping =>
    rw [if_pos hmapping] at hchild
    exact bind_eq_ok_iff.mpr ⟨child, hchild, hr⟩
  · next hmapping =>
    rw [if_neg hmapping] at hchild
    rw [if_pos (hkind.resolve_left hmapping)]
    exact bind_eq_ok_iff.mpr ⟨child, hchild, hr⟩

/-- The sizes below a level are read. -/
theorem lengthPairs_grown {pairs : List (Node × Node)}
    (h : ∀ p ∈ pairs, isLevelKey p.1 = false → Readable readSizes p)
    (hdistinct : (branches pairs).Distinct) (t : Trie) :
    ∃ r, lengthPairs t pairs = .ok r ∧ Grown readSizes t r (branches pairs) ∧
      r.replacement = t.replacement := by
  induction pairs generalizing t with
  | nil => exact ⟨t, rfl, .nil t, rfl⟩
  | cons p rest ih =>
    obtain ⟨k, v⟩ := p
    have ih := ih fun q hq => h q (List.mem_cons_of_mem _ hq)
    rw [lengthPairs, ← isLevelKey]
    split
    · next hlevel =>
      rw [branches_cons_level _ _ hlevel] at hdistinct ⊢
      exact ih hdistinct t
    · next hlevel =>
      have hlevel : isLevelKey k = false := Bool.eq_false_of_not_eq_true hlevel
      have hload (t : Trie) : readSizes t v =
          if v.isMapping then lengths t v else t.withSize <$> sizeText v := rfl
      exact grown_step (fun t => lengthPairs t rest) (fun r => r.replacement = t.replacement) hload
        (h (k, v) List.mem_cons_self hlevel) hlevel hdistinct
        fun b child hrest => ih hrest (t.setChild b child)

/-- The texts of a level and below it are read. A pair in which the level speaks of itself changes
nothing below, so it may stand anywhere among the others. -/
theorem replacementPairs_grown {pairs : List (Node × Node)}
    (hmarks : ∀ p ∈ marks pairs, ∃ s, textOf p.2 = .ok s) (hone : (marks pairs).length ≤ 1)
    (h : ∀ p ∈ pairs, isLevelKey p.1 = false → Readable readTexts p)
    (hdistinct : (branches pairs).Distinct) (t : Trie) :
    ∃ r, replacementPairs t pairs = .ok r ∧ Grown readTexts t r (branches pairs) ∧
      r.replacement = (marked? textOf pairs).or t.replacement := by
  induction pairs generalizing t with
  | nil => exact ⟨t, rfl, .nil t, rfl⟩
  | cons p rest ih =>
    obtain ⟨k, v⟩ := p
    have hrest : ∀ q ∈ rest, isLevelKey q.1 = false → Readable readTexts q :=
      fun q hq => h q (List.mem_cons_of_mem _ hq)
    rw [replacementPairs, ← isLevelKey]
    split
    · next hlevel =>
      rw [marks_cons rest hlevel] at hmarks hone
      have hnone : marks rest = [] := by
        rw [List.length_cons] at hone
        exact List.length_eq_zero_iff.mp (by omega)
      obtain ⟨s, hs⟩ := hmarks (k, v) List.mem_cons_self
      rw [branches_cons_level _ _ hlevel] at hdistinct ⊢
      obtain ⟨r, hr, hgrown, hreplacement⟩ :=
        ih (by simp [hnone]) (by simp [hnone]) hrest hdistinct (t.withReplacement s)
      refine ⟨r, bind_eq_ok_iff.mpr ⟨s, hs, hr⟩, hgrown.of_withReplacement, ?_⟩
      rw [hreplacement, marked?, marked?, hnone, marks_cons rest hlevel, List.head?_cons,
        Option.bind_some, hs]
      simp [Except.toOption]
    · next hlevel =>
      have hlevel : isLevelKey k = false := Bool.eq_false_of_not_eq_true hlevel
      rw [marked?, marks_cons_byte rest hlevel]
      rw [marks_cons_byte rest hlevel] at hmarks hone
      have hload (t : Trie) : readTexts t v =
          if v.isMapping then replacements t v else t.withReplacement <$> textOf v := rfl
      exact grown_step (fun t => replacementPairs t rest)
        (fun r => r.replacement = (marked? textOf rest).or t.replacement) hload
        (h (k, v) List.mem_cons_self hlevel) hlevel hdistinct
        fun b child hbelow => ih hmarks hone hrest hbelow (t.setChild b child)

end

/-! ### Sizes -/

/-- A level finds its own size among the pairs in which it speaks of itself. -/
theorem get?_marks {key : String} (hkey : key ∈ levelKeys) (pairs : List (Node × Node)) :
    Node.get? key pairs = Node.get? key (marks pairs) := by
  induction pairs with
  | nil => rfl
  | cons p rest ih =>
    obtain ⟨k, v⟩ := p
    cases hlevel : isLevelKey k with
    | true =>
      rw [marks_cons rest hlevel]
      cases k <;> simp only [Node.get?, ih]
    | false =>
      rw [marks_cons_byte rest hlevel, ← ih]
      cases k with
      | scalar tag text style share =>
        have hne : text ≠ key := by
          rintro rfl
          simp [isLevelKey, Node.keyText, hkey] at hlevel
        rw [Node.get?, if_neg hne]
      | sequence => rfl
      | mapping => rfl

theorem levelSize_marks [Host] {keys : List String} (hkeys : ∀ key ∈ keys, key ∈ levelKeys)
    (pairs : List (Node × Node)) (t : Trie) :
    levelSize t pairs keys = levelSize t (marks pairs) keys := by
  induction keys generalizing t with
  | nil => rfl
  | cons key rest ih =>
    have ih := ih fun other hother => hkeys other (List.mem_cons_of_mem key hother)
    rw [levelSize, levelSize, get?_marks (hkeys key List.mem_cons_self)]
    simp only [ih]

theorem levelSize_marked [Host] {pairs : List (Node × Node)}
    (hmarks : ∀ p ∈ marks pairs, p.1.isScalar = true ∧ p.2.isScalar = true ∧
      ∃ s, sizeText p.2 = .ok s)
    (hone : (marks pairs).length ≤ 1) (t : Trie) :
    levelSize t pairs levelKeys = .ok (t.withSize ((marked? sizeText pairs).getD t.size)) := by
  have hlevel : ∀ p ∈ marks pairs, isLevelKey p.1 = true := fun p hp => (List.mem_filter.mp hp).2
  rw [levelSize_marks fun _ h => h, marked?]
  match marks pairs, hmarks, hlevel, hone with
  | [], _, _, _ => exact congrArg Except.ok t.withSize_size.symm
  | [(k, v)], hmarks, hlevel, _ =>
    obtain ⟨hscalar, _, s, hs⟩ := hmarks (k, v) List.mem_cons_self
    have hkey : levelKeys.contains k.keyText = true := hlevel (k, v) List.mem_cons_self
    cases k with
    | scalar tag text style share =>
      have htext : text = "=" ∨ text = "default" := by
        simpa [levelKeys, Node.keyText] using hkey
      rcases htext with rfl | rfl
      · simp [levelSize, levelKeys, Node.get?, hs, Except.toOption, bind, Except.bind]
      · simp [levelSize, levelKeys, Node.get?, hs, Except.toOption, bind, Except.bind]
    | sequence => cases hscalar
    | mapping => cases hscalar
  | _ :: _ :: _, _, _, hone =>
    simp at hone

/-! ### Both passes -/

section Passes

variable {read : Node → Loading String} {tag : String} {pairs : List (Node × Node)} {flow : Bool}
  {share : Option Nat} {n v : Node} {t r new child : Trie} {b : UInt8} {path : List UInt8}

variable [Host]

theorem Shaped.kind (h : Shaped read n) : n.isMapping = true ∨ n.isScalar = true := by
  cases h with
  | value hscalar _ => exact .inr hscalar
  | mapping => exact .inl rfl

theorem mem_of_branch (h : Keyed.get? b (branches pairs) = some v) :
    ∃ k, (k, v) ∈ pairs ∧ isLevelKey k = false := by
  obtain ⟨⟨k, v'⟩, hp, hbyte⟩ := List.mem_filterMap.mp (Keyed.mem_of_get? h)
  obtain ⟨b', hb', heq⟩ := Option.map_eq_some_iff.mp hbyte
  cases heq
  rw [keyByte?] at hb'
  split at hb'
  · cases hb'
  · next hlevel => exact ⟨k, hp, Bool.eq_false_of_not_eq_true hlevel⟩

/-- What is said of the levels of a tree by the sizes that it has read. -/
structure Sized (t r : Trie) (n : Node) (path : List UInt8) : Prop where
  level : (r.level? path).isSome = (at? n path).isSome
  size : r.sizeAlong path = inherited t.size (given? sizeText n) path
  text : r.textAt? path = t.textAt? path

theorem sized_nil (hsize : r.size = (own? sizeText n).getD t.size)
    (htext : r.replacement = t.replacement) : Sized t r n [] where
  level := by rw [at?]; rfl
  size := by rw [inherited_nil, given?, at?]; exact hsize
  text := htext

/-- A byte that nothing stands under leads nowhere. -/
theorem sized_end (hr : r.child? b = none) (ht : t.child? b = none)
    (hsize : r.size = (own? sizeText n).getD t.size) (hat : ∀ path, at? n (b :: path) = none)
    (path : List UInt8) : Sized t r n (b :: path) where
  level := by rw [Trie.level?, hr, hat]; rfl
  size := by
    rw [Trie.sizeAlong, hr, inherited_cons, inherited_none fun below => by rw [given?, hat]; rfl]
    rw [given?, at?]
    exact hsize
  text := by rw [Trie.textAt?, Trie.textAt?, Trie.level?, Trie.level?, hr, ht]

theorem Sized.below (h : Sized new child v path) (hchild : r.child? b = some child)
    (hsize : new.size = (own? sizeText n).getD t.size)
    (htext : new.textAt? path = t.textAt? (b :: path))
    (hat : ∀ path, at? n (b :: path) = at? v path) : Sized t r n (b :: path) where
  level := by rw [Trie.level?, hchild, hat]; exact h.level
  size := by
    have hgiven : (fun below => given? sizeText n (b :: below)) = given? sizeText v := by
      funext below
      rw [given?, given?, hat]
    rw [Trie.sizeAlong, hchild, inherited_cons, hgiven, given?, at?]
    exact h.size.trans (by rw [hsize]; rfl)
  text := by
    rw [← htext, ← h.text, Trie.textAt?, Trie.textAt?, Trie.level?, hchild]

/-- Sizes can be read into any level, and where nothing lies below it, they say which levels there
are and what sizes these have. The induction is on the shape of the sizes, for every level: a new
one takes the size that the level above has before its bytes are read. -/
theorem Shaped.readSizes (h : Shaped sizeText n) (t : Trie) :
    ∃ r, readSizes t n = .ok r ∧ (t.children = [] → ∀ path, Sized t r n path) := by
  induction h generalizing t with
  | @value n s hscalar hs =>
    have hmapping := isMapping_of_isScalar hscalar
    have hsize : (t.withSize s).size = (own? sizeText n).getD t.size := by
      rw [own?_scalar hscalar, hs, Trie.size_withSize]
      rfl
    refine ⟨t.withSize s, by rw [Loading.readSizes, hmapping, hs]; rfl, fun hbare path => ?_⟩
    cases path with
    | nil => exact sized_nil hsize (t.replacement_withSize s)
    | cons b path =>
      have hr : (t.withSize s).child? b = none :=
        Trie.child?_of_bare ((t.children_withSize s).trans hbare) b
      exact sized_end hr (Trie.child?_of_bare hbare b) hsize (at?_scalar hscalar) path
  | @mapping tag pairs flow share hmarks hone hbytes hdistinct hshaped ih =>
    have hreadable (p : Node × Node) (hp : p ∈ pairs) (hlevel : isLevelKey p.1 = false) :
        Readable Loading.readSizes p :=
      ⟨hbytes p hp hlevel, (hshaped p hp hlevel).kind,
        fun t => (ih p hp hlevel t).imp fun _ h => h.1⟩
    let level := t.withSize ((marked? sizeText pairs).getD t.size)
    obtain ⟨r, hr, hgrown, htext⟩ := lengthPairs_grown hreadable hdistinct level
    have hload : Loading.readSizes t (.mapping tag pairs flow share) = .ok r := by
      have hlengths : Loading.readSizes t (.mapping tag pairs flow share) =
          lengths t (.mapping tag pairs flow share) := rfl
      rw [hlengths, lengths, levelSize_marked hmarks hone]
      exact hr
    have hlevel : level.size = (marked? sizeText pairs).getD t.size := t.size_withSize _
    have hsize : r.size = (own? sizeText (.mapping tag pairs flow share)).getD t.size :=
      hgrown.size.trans hlevel
    refine ⟨r, hload, fun hbare path => ?_⟩
    cases path with
    | nil => exact sized_nil hsize (htext.trans (t.replacement_withSize _))
    | cons b path =>
      have hnone : level.child? b = none :=
        Trie.child?_of_bare ((t.children_withSize _).trans hbare) b
      have hnone' : t.child? b = none := Trie.child?_of_bare hbare b
      cases hv : Keyed.get? b (branches pairs) with
      | none =>
        exact sized_end ((hgrown.kept b hv).trans hnone) hnone' hsize (at?_mapping_none hv) path
      | some v =>
        obtain ⟨k, hk, hbyte⟩ := mem_of_branch hv
        obtain ⟨child, hchild, hbelow⟩ := hgrown.grown b v hv
        obtain ⟨child', hchild', hsized⟩ := ih (k, v) hk hbyte (level.childOrNew b)
        cases hchild.symm.trans hchild'
        have hnew : level.childOrNew b = .node level.size none [] := by
          rw [Trie.childOrNew, hnone]
          rfl
        refine (hsized (by rw [hnew]; rfl) path).below hbelow ?_ ?_ (at?_mapping_some hv)
        · rw [hnew]
          exact hlevel
        · rw [(level.childOrNew_along b path).2.2, Trie.textAt?, Trie.textAt?, Trie.level?, hnone,
            Trie.level?, hnone']

/-- What is said of the levels of a tree by the texts that are added to it. -/
structure Told (t r : Trie) (n : Node) (path : List UInt8) : Prop where
  level : (r.level? path).isSome = ((t.level? path).isSome || (at? n path).isSome)
  size : r.sizeAlong path = t.sizeAlong path
  text : r.textAt? path = (given? textOf n path).or (t.textAt? path)

theorem told_nil (hsize : r.size = t.size)
    (htext : r.replacement = (own? textOf n).or t.replacement) : Told t r n [] where
  level := rfl
  size := hsize
  text := by rw [given?, at?]; exact htext

/-- Below a byte that nothing stands under, everything stays as it is. -/
theorem told_end (hr : r.child? b = t.child? b) (hsize : r.size = t.size)
    (hat : ∀ path, at? n (b :: path) = none) (path : List UInt8) : Told t r n (b :: path) where
  level := by rw [Trie.level?, Trie.level?, hr, hat]; exact (Bool.or_false _).symm
  size := by rw [Trie.sizeAlong, Trie.sizeAlong, hr, hsize]
  text := by rw [Trie.textAt?, Trie.textAt?, Trie.level?, Trie.level?, hr, given?, hat]; rfl

theorem Told.below (h : Told (t.childOrNew b) child v path) (hchild : r.child? b = some child)
    (hat : ∀ path, at? n (b :: path) = at? v path) : Told t r n (b :: path) := by
  obtain ⟨hlevel, hsize, htext⟩ := t.childOrNew_along b path
  refine ⟨?_, ?_, ?_⟩
  · have hroot : (path.isEmpty || (at? v path).isSome) = (at? v path).isSome := by
      cases path with
      | nil => rw [at?]; rfl
      | cons => rfl
    rw [Trie.level?, hchild, h.level, hlevel, hat, Bool.or_assoc, hroot]
  · rw [Trie.sizeAlong, hchild]
    exact h.size.trans hsize
  · rw [given?, hat, ← htext, ← given?, ← h.text, Trie.textAt?, Trie.textAt?, Trie.level?, hchild]

/-- Texts can be read into any level. They add the levels that they are given for, with the size of
the level above, and change no size. -/
theorem Shaped.readTexts (h : Shaped textOf n) (t : Trie) :
    ∃ r, readTexts t n = .ok r ∧ ∀ path, Told t r n path := by
  induction h generalizing t with
  | @value n s hscalar hs =>
    have hmapping := isMapping_of_isScalar hscalar
    have htext : (t.withReplacement s).replacement = (own? textOf n).or t.replacement := by
      rw [own?_scalar hscalar, hs, Trie.replacement_withReplacement]
      rfl
    refine ⟨t.withReplacement s, by rw [Loading.readTexts, hmapping, hs]; rfl, fun path => ?_⟩
    cases path with
    | nil => exact told_nil (t.size_withReplacement s) htext
    | cons b path =>
      exact told_end (t.child?_withReplacement s b) (t.size_withReplacement s)
        (at?_scalar hscalar) path
  | @mapping tag pairs flow share hmarks hone hbytes hdistinct hshaped ih =>
    have hreadable (p : Node × Node) (hp : p ∈ pairs) (hlevel : isLevelKey p.1 = false) :
        Readable Loading.readTexts p :=
      ⟨hbytes p hp hlevel, (hshaped p hp hlevel).kind,
        fun t => (ih p hp hlevel t).imp fun _ h => h.1⟩
    have htexts (p : Node × Node) (hp : p ∈ marks pairs) : ∃ s, textOf p.2 = .ok s :=
      (hmarks p hp).2.2
    obtain ⟨r, hr, hgrown, htext⟩ := replacementPairs_grown htexts hone hreadable hdistinct t
    have hload : Loading.readTexts t (.mapping tag pairs flow share) = .ok r := by
      have hreplacements : Loading.readTexts t (.mapping tag pairs flow share) =
          replacements t (.mapping tag pairs flow share) := rfl
      rw [hreplacements, replacements]
      exact hr
    refine ⟨r, hload, fun path => ?_⟩
    cases path with
    | nil => exact told_nil hgrown.size htext
    | cons b path =>
      cases hv : Keyed.get? b (branches pairs) with
      | none => exact told_end (hgrown.kept b hv) hgrown.size (at?_mapping_none hv) path
      | some v =>
        obtain ⟨k, hk, hbyte⟩ := mem_of_branch hv
        obtain ⟨child, hchild, hbelow⟩ := hgrown.grown b v hv
        obtain ⟨child', hchild', htold⟩ := ih (k, v) hk hbyte (t.childOrNew b)
        cases hchild.symm.trans hchild'
        exact (htold path).below hbelow (at?_mapping_some hv)

end Passes

/-! ### Tables -/

def pairsOf : Node → List (Node × Node)
  | .mapping _ pairs _ _ => pairs
  | _ => []

/-- A part of the description of a table. One that is not there says nothing. -/
def part (key : String) (n : Node) : Node := (Node.get? key (pairsOf n)).getD (.ofPairs [])

/-- The description of a table with a tree: mappings of sizes and of texts, and nothing else. -/
structure TableShaped [Host] (n : Node) : Prop where
  mapping : n.isMapping = true
  known : ∀ p ∈ pairsOf n, p.1.keyText ∈ tableKeys
  lengths : (part "Lengths" n).isMapping = true
  sizes : Shaped sizeText (part "Lengths" n)
  replacements : (part "Replacements" n).isMapping = true
  texts : Shaped textOf (part "Replacements" n)

/-- A tree is what the description of a table says. It has the levels that sizes or texts are said
of; a level has the size that is given at the longest prefix of its path, the path itself included,
and the text that is given at its path. -/
structure Described [Host] (root : Trie) (n : Node) : Prop where
  level : ∀ path, (root.level? path).isSome =
    ((at? (part "Lengths" n) path).isSome || (at? (part "Replacements" n) path).isSome)
  size : ∀ path level, root.level? path = some level →
    level.size = inherited Trie.defaultSize (given? sizeText (part "Lengths" n)) path
  text : ∀ path level, root.level? path = some level →
    level.replacement = given? textOf (part "Replacements" n) path

/-- What is done with a part that is there can be done with one that says nothing. -/
theorem read_part {α : Type} (key : String) (n : Node) (read : Node → α) :
    (match Node.get? key (pairsOf n) with
      | some v => read v
      | none => read (.ofPairs [])) = read (part key n) := by
  rw [part]
  cases Node.get? key (pairsOf n) <;> rfl

theorem trie_described [Host] {n : Node} (h : TableShaped n) :
    ∃ root, trie (pairsOf n) = .ok root ∧ Described root n := by
  have hknown : (pairsOf n).find? (fun p => !tableKeys.contains p.1.keyText) = none := by
    refine List.find?_eq_none.mpr fun p hp => ?_
    simp [h.known p hp]
  obtain ⟨sizes, hsizes, hsized⟩ := h.sizes.readSizes .empty
  obtain ⟨root, hroot, htold⟩ := h.texts.readTexts sizes
  rw [readSizes, if_pos h.lengths] at hsizes
  rw [readTexts, if_pos h.replacements] at hroot
  have hsized := hsized rfl
  refine ⟨root, ?_, fun path => ?_, fun path level hlevel => ?_, fun path level hlevel => ?_⟩
  · rw [trie, hknown]
    refine (read_part "Lengths" n fun v => lengths .empty v >>= _).trans ?_
    refine bind_eq_ok_iff.mpr ⟨sizes, hsizes, ?_⟩
    exact (read_part "Replacements" n fun v => replacements sizes v).trans hroot
  · rw [(htold path).level, (hsized path).level]
  · rw [Trie.size_of_level? hlevel, (htold path).size, (hsized path).size]
    rfl
  · have htext : root.textAt? path = level.replacement := by
      rw [Trie.textAt?, hlevel]
      rfl
    have hempty : Trie.empty.textAt? path = none := by
      cases path with
      | nil => rfl
      | cons => rfl
    rw [← htext, (htold path).text, (hsized path).text, hempty, Option.or_none]

end Loading

end GameAtlas.Script
