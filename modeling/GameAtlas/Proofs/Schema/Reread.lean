import Mathlib.Tactic
import GameAtlas.Proofs.Schema.Sound
import GameAtlas.Proofs.Schema.Tree

/-!
Descriptions of fields that are written as nodes and read back. The field that is read has the same
content, at every depth; its issues are those that the checks of whole fields find once more.
-/

namespace GameAtlas.Schema

open Yaml (Node)

/-! ### Keys -/

namespace Key

/-- The keys of the attributes of a description, with the name or without. -/
def described (withName : Bool) : List Key := (if withName then [.name] else []) ++ plain

theorem mem_all (k : Key) : k ∈ all := by
  cases k <;> decide

theorem canonical_text (k : Key) : canonical k.text = k.text := by
  have hall : all.all (fun k => canonical k.text == k.text) = true := by
    decide +kernel
  exact eq_of_beq (List.all_eq_true.mp hall k (mem_all k))

theorem canonical_canonical (s : String) : canonical (canonical s) = canonical s := by
  cases hknown : ofSmall? (Text.toLower s) with
  | some k =>
    have hs : canonical s = k.text := by rw [canonical, hknown]
    rw [hs, canonical_text]
  | none =>
    have hs : canonical s = s := by rw [canonical, hknown]
    rw [hs, hs]

theorem ofText?_text (k : Key) : ofText? k.text = some k := by
  cases k <;> rfl

theorem text_injective : Function.Injective text := by
  intro k l h
  have hkey := congrArg ofText? h
  rw [ofText?_text, ofText?_text] at hkey
  exact Option.some.inj hkey

end Key

namespace Kind

theorem ofTag?_tag (kind : Kind) : ofTag? kind.tag = some kind := by
  cases kind <;> rfl

theorem local?_tag (kind : Kind) : Yaml.Tag.local? ("!" ++ kind.tag) = some kind.tag := by
  cases kind <;> rfl

end Kind

/-! ### Views of canonical keys -/

/-- Canonical keys without repetition are their own view, and nothing is said of them. -/
theorem View.ofPairs_canonical {α : Type} {pairs : List (String × α)}
    (hkeys : ∀ p ∈ pairs, Key.canonical p.1 = p.1) (hdistinct : Keyed.Distinct pairs) :
    View.ofPairs pairs = { pairs := pairs } := by
  have hfold : ∀ (v : View α) (rest : List (String × α)), (∀ p ∈ rest, Key.canonical p.1 = p.1) →
      Keyed.Distinct (v.pairs ++ rest) →
        rest.foldl (fun v p => v.add p.1 p.2) v = { v with pairs := v.pairs ++ rest } := by
    intro v rest
    induction rest generalizing v with
    | nil => simp
    | cons p rest ih =>
      intro hcanonical hall
      have hnew : p.1 ∉ v.pairs.map Prod.fst := hall.new
      have hadd : v.add p.1 p.2 = { v with pairs := v.pairs ++ [p] } := by
        rw [View.add, if_pos (hcanonical p (by simp)), Keyed.get?_eq_none_iff.mpr hnew]
        simp only [Keyed.put_of_new hnew]
      rw [List.foldl_cons, hadd, ih]
      · simp
      · exact fun q hq => hcanonical q (List.mem_cons_of_mem p hq)
      · simpa [Keyed.Distinct] using hall
  simpa [View.ofPairs] using hfold {} pairs hkeys (by simpa using hdistinct)

/-! ### Attributes -/

namespace Attributes

/-- Attributes as they are read back, before anything is said of them. -/
def reread (withName : Bool) (a : Attributes) : Attributes :=
  { a.restated with name := if withName then a.name else "", issues := [] }

theorem restated_written {a : Attributes} {k : Key} (h : a.written? k = none) :
    a.restated.written? k = none := by
  cases k with
  | size =>
    have hsize : a.size = none := Option.map_eq_none_iff.mp h
    simp [restated, written?, hsize]
  | _ => exact h

theorem trim_writtenSize {s : String} (h : Text.trim s ≠ "") : Text.trim (writtenSize s) ≠ "" := by
  rw [writtenSize]
  cases Describe.plainSize? s with
  | none => exact h
  | some n => exact trim_ne_empty_of_plainSize? (plainSize?_toString n)

theorem restated_fits {a : Attributes} {k : Key} (h : a.Fits k) : a.restated.Fits k := by
  cases k with
  | size =>
    intro s hs
    obtain ⟨t, ht, rfl⟩ := Option.map_eq_some_iff.mp hs
    exact trim_writtenSize (h t ht)
  | _ => exact h

/-- What stands under the keys of a list. -/
def partsOf (a : Attributes) (keys : List Key) : Keyed String Part :=
  keys.filterMap fun k => (a.written? k).map fun n => (k.text, .value n)

end Attributes

namespace Field

variable {f : Field} {a : Attributes}

theorem readAll_append [Host] (f : Field) (ps qs : Keyed String Part) :
    f.readAll (ps ++ qs) = f.readAll ps >>= fun g => g.readAll qs := by
  induction ps generalizing f with
  | nil => rfl
  | cons p rest ih =>
    rw [List.cons_append, readAll, readAll]
    cases f.read p.1 p.2 with
    | error e => rfl
    | ok g => exact ih g

/-- A key that was written is read back. -/
theorem read_written [Host] {k : Key} {n : Node} (hkind : f.kind = a.kind) (ha : a.Sound)
    (hwritable : a.Writable) (hblank : f.Blank k) (hn : a.written? k = some n) :
    f.read k.text (.value n) =
      .ok { f with toAttributes := Attributes.adopt k a.restated f.toAttributes } := by
  have huse : f.kind.admits k = true := by
    rw [hkind]
    exact ha.admitted k n hn
  have hset := setValue_written hkind hwritable (ha.fits k) hblank hn
  rw [Field.read, Key.ofText?_text]
  cases k with
  | type => cases hn
  | _ => simp only [huse, if_true, Field.set, hset]

/-- Keys that were written are read back, one behind the other. -/
theorem readAll_written [Host] (ha : a.Sound) (hwritable : a.Writable) {keys : List Key}
    (hkeys : keys.Nodup) (hkind : f.kind = a.kind) (hblank : ∀ k ∈ keys, f.Blank k) :
    f.readAll (a.partsOf keys) =
      .ok { f with
        toAttributes :=
          keys.foldl (fun b k => Attributes.adopt k a.restated b) f.toAttributes } := by
  induction keys generalizing f with
  | nil =>
    cases f
    rfl
  | cons k rest ih =>
    obtain ⟨hnew, hrest⟩ := List.nodup_cons.mp hkeys
    have hnext : ∀ l ∈ rest, (Attributes.adopt k a.restated f.toAttributes).Blank l := by
      intro l hl
      have hne : k ≠ l := fun heq => hnew (heq ▸ hl)
      exact Attributes.blank_adopt hne (hblank l (List.mem_cons_of_mem k hl))
    cases hn : a.written? k with
    | none =>
      have hsame := Attributes.adopt_of_not_written (Attributes.restated_fits (ha.fits k))
        (hblank k (by simp)) (Attributes.restated_written hn)
      rw [Attributes.partsOf, List.filterMap_cons_none (by rw [hn]; rfl), List.foldl_cons, hsame]
      exact ih hrest hkind fun l hl => hblank l (List.mem_cons_of_mem k hl)
    | some n =>
      have hread := read_written hkind ha hwritable (hblank k (by simp)) hn
      rw [Attributes.partsOf, List.filterMap_cons_some (by rw [hn]; rfl), readAll, hread,
        List.foldl_cons]
      exact ih hrest (Attributes.adopt_kind.trans hkind) hnext

/-- All keys together give the attributes as they are read back. -/
theorem foldl_adopt (withName : Bool) (a : Attributes) :
    (Key.described withName).foldl (fun b k => Attributes.adopt k a.restated b) { kind := a.kind } =
      a.reread withName := by
  cases withName <;>
    simp only [Key.described, Key.plain, Bool.false_eq_true, if_true, if_false,
      List.singleton_append, List.nil_append, List.foldl_cons, List.foldl_nil, Attributes.adopt,
      Attributes.reread] <;>
    rfl

theorem readAll_attributes [Host] (withName : Bool) (ha : a.Sound) (hwritable : a.Writable) :
    Field.readAll { kind := a.kind } (a.partsOf (Key.described withName)) =
      .ok { toAttributes := a.reread withName } := by
  have hnodup : (Key.described withName).Nodup := by
    cases withName <;> decide
  rw [readAll_written ha hwritable hnodup rfl fun k _ => Attributes.blank_new a.kind [] k]
  simp only [foldl_adopt]

/-! ### Parts of a description -/

/-- What a node becomes under a key. -/
def partUnder [Host] (k : Key) (n : Node) : Part :=
  match k with
  | .entries => .members (membersOf n)
  | .itemType => .item (ofNode n)
  | _ => .value n

theorem partsOf_cons [Host] (k : Key) (n : Node) (rest : List Pair) :
    partsOf (Describe.pair k n :: rest) = (k.text, partUnder k n) :: partsOf rest := by
  rw [partsOf.eq_def]
  simp only [Describe.pair, Node.ofText, Node.text, Node.keyText, Key.canonical_text,
    Key.ofText?_text]
  cases k <;> rfl

theorem partsOf_append [Host] (xs ys : List Pair) :
    partsOf (xs ++ ys) = partsOf xs ++ partsOf ys := by
  induction xs with
  | nil => rfl
  | cons x rest ih =>
    rw [List.cons_append, partsOf, partsOf, ih]
    rfl

/-- The keys of attributes hold plain values. -/
theorem partsOf_pairsOf [Host] (a : Attributes) (keys : List Key) :
    partsOf (a.pairsOf keys) = a.partsOf keys := by
  induction keys with
  | nil => rfl
  | cons k rest ih =>
    rw [Attributes.pairsOf, Attributes.partsOf]
    cases hn : a.written? k with
    | none =>
      rw [List.filterMap_cons_none (by rw [hn]; rfl), List.filterMap_cons_none (by rw [hn]; rfl)]
      exact ih
    | some n =>
      have hplain : partUnder k n = .value n := by
        cases k with
        | entries | itemType => cases hn
        | _ => rfl
      rw [List.filterMap_cons_some (by rw [hn]; rfl), List.filterMap_cons_some (by rw [hn]; rfl),
        partsOf_cons, hplain]
      exact congrArg _ ih

theorem keys_partsOf (a : Attributes) (keys : List Key) :
    ((a.partsOf keys).map Prod.fst).Sublist (keys.map Key.text) := by
  induction keys with
  | nil => exact List.Sublist.refl []
  | cons k rest ih =>
    rw [Attributes.partsOf]
    cases hn : a.written? k with
    | none =>
      rw [List.filterMap_cons_none (by rw [hn]; rfl)]
      exact ih.cons k.text
    | some n =>
      rw [List.filterMap_cons_some (by rw [hn]; rfl)]
      exact ih.cons_cons k.text

/-- Keys of attributes and keys of fields within are read without a word about their spelling. -/
theorem ofPairs_parts {withName : Bool} {within : Keyed String Part}
    (hwithin : (within.map Prod.fst).Sublist ([Key.entries, Key.itemType].map Key.text)) :
    View.ofPairs (a.partsOf (Key.described withName) ++ within) =
      { pairs := a.partsOf (Key.described withName) ++ within } := by
  have hkeys : ((a.partsOf (Key.described withName) ++ within).map Prod.fst).Sublist
      ((Key.described withName ++ [Key.entries, Key.itemType]).map Key.text) := by
    rw [List.map_append, List.map_append]
    exact (keys_partsOf a _).append hwithin
  have hnodup : (Key.described withName ++ [Key.entries, Key.itemType]).Nodup := by
    cases withName <;> decide
  refine View.ofPairs_canonical (fun p hp => ?_) (hkeys.nodup (hnodup.map Key.text_injective))
  obtain ⟨k, -, hk⟩ := List.mem_map.mp (hkeys.subset (List.mem_map_of_mem hp))
  rw [← hk, Key.canonical_text]

/-! ### Whole fields -/

/-- A field that is looked at as a whole once more. -/
def rechecked [Host] (f : Field) : Field := f.check.toOption.getD f

theorem rechecked_of_check [Host] {g : Field} (h : f.check = .ok g) : f.rechecked = g := by
  rw [rechecked, h]
  rfl

mutual

/-- The field that the description of a field is read into. -/
def reread [Host] (withName : Bool) (f : Field) : Field :=
  match f with
  | ⟨attributes, members, itemType⟩ =>
    rechecked ⟨attributes.reread withName, rereadAll members, rereadItem itemType⟩
termination_by structural f

def rereadAll [Host] (fs : List Field) : List Field :=
  match fs with
  | [] => []
  | f :: rest => reread true f :: rereadAll rest
termination_by structural fs

def rereadItem [Host] (f : Option Field) : Option Field :=
  match f with
  | none => none
  | some f => some (checkItem (reread true f))
termination_by structural f

end

section

variable [Host]

/-- No check looks at the name of the field itself. -/
theorem check_named (f : Field) (name : String) :
    (f.named name).check = f.check.map fun g => g.named name := by
  have hkind : (f.named name).kind = f.kind := rfl
  have hpointer : (f.named name).pointerIssues = f.pointerIssues := rfl
  rw [check.eq_def, check.eq_def, hkind, hpointer]
  split
  · rfl
  · have hitem : (f.named name).itemType = f.itemType := rfl
    rw [hitem]
    split <;> rfl
  · cases f.pointerIssues <;> rfl
  · rfl

theorem rechecked_named (f : Field) (name : String) :
    (f.named name).rechecked = f.rechecked.named name := by
  rw [rechecked, rechecked, check_named]
  cases f.check <;> rfl

theorem named_reread (f : Field) : (reread false f).named f.name = reread true f := by
  obtain ⟨a, members, itemType⟩ := f
  rw [reread, reread, ← rechecked_named]
  rfl

theorem resolvedSize_reread (h : a.Writable) (withName : Bool) (bindings : Expression.Bindings) :
    (a.reread withName).resolvedSize bindings = a.resolvedSize bindings :=
  resolvedSize_writtenSize h.size bindings

/-- The size of a pointer is looked at alike. -/
theorem pointerIssues_reread (h : a.Writable) (withName : Bool) (ms ns : List Field)
    (i j : Option Field) :
    pointerIssues ⟨a.reread withName, ms, i⟩ = pointerIssues ⟨a, ns, j⟩ := by
  have hsize : (a.reread withName).size.isNone = a.size.isNone := Option.isNone_map
  simp only [pointerIssues, hsize, resolvedSize_reread h]

theorem check_reread (withName : Bool) {ms ns : List Field} {i j : Option Field}
    (h : Checked ⟨a, ns, j⟩) (hwritable : a.Writable) :
    Field.check ⟨a.reread withName, ms, i⟩ = .ok (rechecked ⟨a.reread withName, ms, i⟩) := by
  have hok : ∃ g, Field.check ⟨a.reread withName, ms, i⟩ = .ok g := by
    rw [check.eq_def]
    split
    · exact ⟨_, rfl⟩
    · exact ⟨_, rfl⟩
    · next hkind =>
      obtain ⟨issues, hissues⟩ := h.pointerSize hkind
      rw [pointerIssues_reread hwritable withName ms ns i j, hissues]
      exact ⟨_, rfl⟩
    · exact ⟨_, rfl⟩
  obtain ⟨g, hg⟩ := hok
  rw [hg, rechecked_of_check hg]

end

/-! ### Nodes -/

section

variable [Host]

theorem namedMembers_namedNodes {ms : List Field}
    (h : ∀ m ∈ ms, ofNode (toNode false m) = .ok (reread false m)) :
    namedMembers (namedNodes ms) = .ok (rereadAll ms) := by
  induction ms with
  | nil => rfl
  | cons m rest ih =>
    rw [namedNodes, namedMembers, rereadAll, h m (by simp),
      ih fun n hn => h n (List.mem_cons_of_mem m hn), ← named_reread]
    rfl

theorem plainMembers_memberNodes {ms : List Field}
    (h : ∀ m ∈ ms, ofNode (toNode true m) = .ok (reread true m)) :
    plainMembers (memberNodes ms) = .ok (rereadAll ms) := by
  induction ms with
  | nil => rfl
  | cons m rest ih =>
    rw [memberNodes, plainMembers, rereadAll, h m (by simp),
      ih fun n hn => h n (List.mem_cons_of_mem m hn)]
    rfl

/-- The members of a struct as they are read back. -/
def memberParts (kind : Kind) (members : List Field) : Keyed String Part :=
  if kind = .struct && !members.isEmpty then
    [(Key.entries.text, .members (.ok (rereadAll members)))]
  else []

/-- The item type of an array as it is read back. -/
def itemParts (kind : Kind) : Option Field → Keyed String Part
  | none => []
  | some f =>
    if kind = .array then [(Key.itemType.text, .item (.ok (reread true f)))] else []

theorem keys_within (kind : Kind) (members : List Field) (itemType : Option Field) :
    ((memberParts kind members ++ itemParts kind itemType).map Prod.fst).Sublist
      ([Key.entries, Key.itemType].map Key.text) := by
  have hmembers : ((memberParts kind members).map Prod.fst).Sublist [Key.entries.text] := by
    rw [memberParts]
    split <;> simp
  have hitem : ((itemParts kind itemType).map Prod.fst).Sublist [Key.itemType.text] := by
    cases itemType with
    | none => simp [itemParts]
    | some f =>
      rw [itemParts]
      split <;> simp
  rw [List.map_append]
  exact hmembers.append hitem

end

theorem pairsOf_described (withName : Bool) (a : Attributes) :
    (if withName then Describe.textPair .name a.name else []) ++ Describe.attributePairs a =
      a.pairsOf (Key.described withName) := by
  rw [Attributes.attributePairs_eq]
  cases withName with
  | false => rfl
  | true =>
    rw [Key.described, if_pos rfl, if_pos rfl, List.singleton_append, Attributes.pairsOf_cons,
      Describe.textPair, Attributes.pairIf_eq]
    rfl

variable [Host]

theorem partsOf_members (kind : Kind) {members : List Field}
    (h : ∀ m ∈ members, ∀ withName, ofNode (toNode withName m) = .ok (reread withName m)) :
    partsOf (if kind = .struct && !members.isEmpty then
      let entries :=
        if members.all fun m => m.name != "" then .ofPairs (namedNodes members)
        else .ofItems (memberNodes members)
      [Describe.pair .entries entries]
    else []) = memberParts kind members := by
  have hentries : membersOf (if members.all fun m => m.name != "" then
      .ofPairs (namedNodes members) else .ofItems (memberNodes members)) =
        .ok (rereadAll members) := by
    split
    · rw [Node.ofPairs, membersOf, namedMembers_namedNodes fun m hm => h m hm false]
      rfl
    · rw [Node.ofItems, membersOf, plainMembers_memberNodes fun m hm => h m hm true]
      rfl
  rw [memberParts]
  split
  · dsimp only
    rw [partsOf_cons, partUnder, hentries]
    rfl
  · rfl

theorem partsOf_item (kind : Kind) {itemType : Option Field}
    (h : ∀ i, itemType = some i → ofNode (toNode true i) = .ok (reread true i)) :
    partsOf (if kind = .array then itemPairs itemType else []) = itemParts kind itemType := by
  cases itemType with
  | none => simp [itemParts, itemPairs, partsOf]
  | some i =>
    rw [itemParts, itemPairs]
    split
    · rw [partsOf_cons, partUnder, h i rfl]
      rfl
    · rfl

theorem readAll_members {f : Field} (hkind : f.kind = .struct) (hf : f.members = [])
    (members : List Field) :
    f.readAll (memberParts f.kind members) = .ok { f with members := rereadAll members } := by
  cases members with
  | nil =>
    obtain ⟨a, ms, i⟩ := f
    obtain rfl : ms = [] := hf
    rw [memberParts, if_neg (by simp), readAll, rereadAll]
  | cons m rest =>
    have huse : f.kind.admits .entries = true := by
      rw [hkind]
      decide
    rw [memberParts, if_pos (by simp [hkind]), readAll, Field.read, Key.ofText?_text]
    simp only [huse, if_true]
    rfl

theorem readAll_item {f : Field} (hkind : f.kind = .array) (hf : f.itemType = none)
    (itemType : Option Field) :
    f.readAll (itemParts f.kind itemType) = .ok { f with itemType := rereadItem itemType } := by
  cases itemType with
  | none =>
    obtain ⟨a, ms, i⟩ := f
    obtain rfl : i = none := hf
    rw [itemParts, readAll, rereadItem]
  | some item =>
    have huse : f.kind.admits .itemType = true := by
      rw [hkind]
      decide
    rw [itemParts, if_pos hkind, readAll, Field.read, Key.ofText?_text]
    simp only [huse, if_true]
    rfl

/-- What is written of the fields within is read as their members and their item type. -/
theorem readAll_within {f : Field} {members : List Field} {itemType : Option Field}
    (hmembers : f.kind ≠ .struct → members = []) (hitem : f.kind ≠ .array → itemType = none)
    (hf : f.members = [] ∧ f.itemType = none) :
    f.readAll (memberParts f.kind members ++ itemParts f.kind itemType) =
      .ok { f with members := rereadAll members, itemType := rereadItem itemType } := by
  obtain ⟨a, ms, i⟩ := f
  obtain ⟨rfl, rfl⟩ : ms = [] ∧ i = none := hf
  by_cases hstruct : a.kind = .struct
  · have hnone : itemType = none := hitem (by rw [hstruct]; decide)
    rw [hnone, itemParts, List.append_nil]
    exact readAll_members hstruct rfl members
  · have hnone : members = [] := hmembers hstruct
    rw [hnone, memberParts, if_neg (by simp), List.nil_append]
    by_cases harray : a.kind = .array
    · exact readAll_item harray rfl itemType
    · rw [hitem harray]
      rfl

theorem ofTagged_kind (kind : Kind) (pairs : List (String × Part)) :
    ofTagged kind.tag (some pairs) =
      ofView kind (View.ofPairs pairs).pairs (View.ofPairs pairs).issues := by
  rw [ofTagged.eq_def, kind.ofTag?_tag]

/-- The description of a sound field is read back, if the host writes its numbers. -/
theorem ofNode_toNode (f : Field) : f.Sound → f.Writable → ∀ withName,
    ofNode (toNode withName f) = .ok (reread withName f) := by
  induction f using Field.tree_induction with
  | step a members itemType ihMembers ihItem =>
    intro hf hwritable withName
    obtain ⟨here, hmembers, hitem⟩ := hf
    obtain ⟨hwritten, hmembersWritten, hitemWritten⟩ := hwritable
    have ihMembers : ∀ m ∈ members, ∀ withName, ofNode (toNode withName m) =
        .ok (reread withName m) :=
      fun m hm => ihMembers m hm (hmembers m hm) (hmembersWritten m hm)
    have ihItem : ∀ i, itemType = some i → ofNode (toNode true i) = .ok (reread true i) :=
      fun i hi => ihItem i hi (hitem i hi) (hitemWritten i hi) true
    have htag := a.kind.local?_tag
    have hread : Field.readAll { kind := a.kind } (a.partsOf (Key.described withName) ++
        (memberParts a.kind members ++ itemParts a.kind itemType)) =
          .ok ⟨a.reread withName, rereadAll members, rereadItem itemType⟩ := by
      rw [readAll_append, readAll_attributes withName here.attributes hwritten]
      exact readAll_within here.onlyStructs here.onlyArrays ⟨rfl, rfl⟩
    rw [toNode, ofNode, ofParts, htag, pairsOf_described, partsOf_append, partsOf_append,
      partsOf_pairsOf, List.append_assoc, partsOf_members a.kind ihMembers,
      partsOf_item a.kind ihItem]
    dsimp only
    rw [ofTagged_kind, ofPairs_parts (keys_within a.kind members itemType), ofView, hread, reread]
    exact check_reread withName here hwritten

end Field

end GameAtlas.Schema
