import Mathlib.Tactic
import GameAtlas.Proofs.Schema.Migrated

/-!
Views in terms of the pairs that they are made of. A key stands in the view where its first spelling
stood, with the value of its first canonical spelling, or of its first older one if it has no other.
Of every pair something is said, but of the first one of a key that is spelled as it should be.
-/

namespace GameAtlas.Schema

open Yaml (Node)

namespace View

variable {α : Type}

/-- The pairs whose keys are spellings of a canonical key. -/
def spellings (key : String) (pairs : List (String × α)) : List (String × α) :=
  pairs.filter fun p => Key.canonical p.1 = key

/-- The pair that counts for a canonical key: the first that spells it so, or else the first. -/
def counting? (key : String) (pairs : List (String × α)) : Option (String × α) :=
  ((spellings key pairs).find? fun p => p.1 = key).or (spellings key pairs).head?

/-- The older spelling that counts for a canonical key. -/
def older? (key : String) (pairs : List (String × α)) : Option String :=
  (counting? key pairs).bind fun p => if p.1 = key then none else some p.1

/-- What is said of a pair by its key and the pairs before it. -/
def remark? (before : List (String × α)) (key : String) : Option Issue :=
  let canonical := Key.canonical key
  match counting? canonical before with
  | none => if canonical = key then none else some (respelled key canonical)
  | some p =>
    some <|
      if canonical = key then if p.1 = key then duplicate key else ignored p.1 key
      else ignored key canonical

/-- What is said of pairs, one after the other, behind those before. -/
def remarks (before : List (String × α)) : List (String × α) → List Issue
  | [] => []
  | p :: rest => (remark? before p.1).toList ++ remarks (before ++ [p]) rest

variable {pairs before : List (String × α)} {p : String × α} {key : String} {v : View α}

theorem counting?_eq_none_iff :
    counting? key pairs = none ↔ ∀ q ∈ pairs, Key.canonical q.1 ≠ key := by
  rw [counting?, Option.or_eq_none_iff, List.head?_eq_none_iff, spellings,
    List.filter_eq_nil_iff]
  constructor
  · rintro ⟨_, h⟩ q hq
    simpa using h q hq
  · intro h
    have hnone : ∀ q ∈ pairs, ¬ decide (Key.canonical q.1 = key) = true := by simpa using h
    exact ⟨by rw [List.filter_eq_nil_iff.mpr hnone]; rfl, hnone⟩

/-- Nothing is said of a pair exactly if its key is spelled as it should be and new. -/
theorem remark?_eq_none_iff :
    remark? before key = none ↔
      Key.canonical key = key ∧ ∀ q ∈ before, Key.canonical q.1 ≠ key := by
  rw [remark?]
  by_cases hself : Key.canonical key = key
  · rw [hself]
    cases hcount : counting? key before with
    | none => simpa using counting?_eq_none_iff.mp hcount
    | some q =>
      refine iff_of_false nofun ?_
      rintro ⟨_, hnew⟩
      rw [counting?_eq_none_iff.mpr hnew] at hcount
      cases hcount
  · refine iff_of_false ?_ fun h => hself h.1
    cases counting? (Key.canonical key) before <;> simp [hself]

theorem remarks_snoc (rest : List (String × α)) :
    remarks before (rest ++ [p]) =
      remarks before rest ++ (remark? (before ++ rest) p.1).toList := by
  induction rest generalizing before with
  | nil => simp [remarks]
  | cons q rest ih => simp [remarks, ih]

/-! ### One pair more -/

theorem counting?_snoc_other (h : Key.canonical p.1 ≠ key) :
    counting? key (pairs ++ [p]) = counting? key pairs := by
  simp [counting?, spellings, h]

/-- A canonical spelling counts unless there is one before. -/
theorem counting?_snoc_canonical (h : Key.canonical p.1 = p.1) :
    counting? p.1 (pairs ++ [p]) =
      some (match counting? p.1 pairs with
        | some q => if q.1 = p.1 then q else p
        | none => p) := by
  have hsnoc : spellings p.1 (pairs ++ [p]) = spellings p.1 pairs ++ [p] := by simp [spellings, h]
  rw [counting?, counting?, hsnoc, List.find?_append]
  cases hfind : (spellings p.1 pairs).find? fun q => q.1 = p.1 with
  | some q =>
    have hq : q.1 = p.1 := by simpa using List.find?_some hfind
    simp [hq]
  | none =>
    have hnone := List.find?_eq_none.mp hfind
    cases hhead : (spellings p.1 pairs).head? with
    | none => simp
    | some q =>
      have hq : q.1 ≠ p.1 := by simpa using hnone q (List.mem_of_mem_head? hhead)
      simp [hq]

/-- An older spelling counts if there is none before. -/
theorem counting?_snoc_older (h : Key.canonical p.1 ≠ p.1) :
    counting? (Key.canonical p.1) (pairs ++ [p]) =
      (counting? (Key.canonical p.1) pairs).or (some p) := by
  have hsnoc : spellings (Key.canonical p.1) (pairs ++ [p]) =
      spellings (Key.canonical p.1) pairs ++ [p] := by simp [spellings]
  have hne : p.1 ≠ Key.canonical p.1 := Ne.symm h
  rw [counting?, counting?, hsnoc, List.find?_append, List.head?_append, Option.or_assoc]
  simp [hne]

/-! ### The view of pairs -/

theorem eraseDups_snoc (keys : List String) (key : String) :
    (keys ++ [key]).eraseDups = if key ∈ keys then keys.eraseDups else keys.eraseDups ++ [key] := by
  rw [List.eraseDups_append]
  by_cases hkey : key ∈ keys
  · have hremove : [key].removeAll keys = [] := by simpa [List.removeAll] using hkey
    rw [hremove, if_pos hkey]
    simp
  · have hremove : [key].removeAll keys = [key] := by simpa [List.removeAll] using hkey
    have hself : [key].eraseDups = [key] := by simp [List.eraseDups_cons]
    rw [hremove, if_neg hkey, hself]

/-- A view on the way, in terms of the pairs that were added to it. -/
structure Normal (pairs : List (String × α)) (v : View α) : Prop where
  keys : v.pairs.map Prod.fst = (pairs.map fun p => Key.canonical p.1).eraseDups
  values : ∀ key, Keyed.get? key v.pairs = (counting? key pairs).map Prod.snd
  older : ∀ key, Keyed.get? key v.renamed = older? key pairs
  issues : v.issues = remarks [] pairs

theorem normal_nil : Normal ([] : List (String × α)) {} where
  keys := rfl
  values _ := rfl
  older _ := rfl
  issues := rfl

theorem Normal.mem_keys_iff (h : Normal pairs v) (key : String) :
    key ∈ v.pairs.map Prod.fst ↔ key ∈ pairs.map fun p => Key.canonical p.1 := by
  rw [h.keys, List.mem_eraseDups]

theorem Normal.mem_keys_of_counting (h : Normal pairs v) {q : String × α}
    (hq : counting? key pairs = some q) : key ∈ v.pairs.map Prod.fst := by
  by_contra hnew
  have hnone := h.values key
  rw [hq, Keyed.get?_eq_none_iff.mpr hnew] at hnone
  cases hnone

/-- The keys behind a pair whose key is there. -/
theorem Normal.keys_there (h : Normal pairs v)
    (hthere : Key.canonical p.1 ∈ v.pairs.map Prod.fst) :
    v.pairs.map Prod.fst = ((pairs ++ [p]).map fun q => Key.canonical q.1).eraseDups := by
  rw [List.map_append, List.map_singleton, eraseDups_snoc, if_pos ((h.mem_keys_iff _).mp hthere),
    h.keys]

/-- The keys behind a pair that is taken. -/
theorem Normal.keys_put (h : Normal pairs v) (p : String × α) :
    (Keyed.put (Key.canonical p.1) p.2 v.pairs).map Prod.fst =
      ((pairs ++ [p]).map fun q => Key.canonical q.1).eraseDups := by
  by_cases hthere : Key.canonical p.1 ∈ v.pairs.map Prod.fst
  · rw [Keyed.keys_put_of_mem hthere, h.keys_there hthere]
  · rw [Keyed.put_of_new hthere, List.map_append, List.map_append, List.map_singleton,
      List.map_singleton, eraseDups_snoc, if_neg (mt (h.mem_keys_iff _).mpr hthere), h.keys]

/-- One pair more changes a view at its own key only. -/
theorem Normal.snoc {w : View α} (h : Normal pairs v) (hp : Key.canonical p.1 = key)
    (hkeys : w.pairs.map Prod.fst = ((pairs ++ [p]).map fun q => Key.canonical q.1).eraseDups)
    (hvalue : Keyed.get? key w.pairs = (counting? key (pairs ++ [p])).map Prod.snd)
    (hvalues : ∀ k, key ≠ k → Keyed.get? k w.pairs = Keyed.get? k v.pairs)
    (holder : Keyed.get? key w.renamed = older? key (pairs ++ [p]))
    (holders : ∀ k, key ≠ k → Keyed.get? k w.renamed = Keyed.get? k v.renamed)
    (hissues : w.issues = v.issues ++ (remark? pairs p.1).toList) : Normal (pairs ++ [p]) w where
  keys := hkeys
  values k := by
    by_cases hk : key = k
    · rw [← hk]
      exact hvalue
    · rw [hvalues k hk, counting?_snoc_other (hp.trans_ne hk), h.values]
  older k := by
    by_cases hk : key = k
    · rw [← hk]
      exact holder
    · rw [holders k hk, h.older, older?, older?, counting?_snoc_other (hp.trans_ne hk)]
  issues := by rw [hissues, h.issues, remarks_snoc, List.nil_append]

theorem get?_put_other {β : Type} (b : β) (m : Keyed String β) {k : String} (h : key ≠ k) :
    Keyed.get? k (Keyed.put key b m) = Keyed.get? k m := by
  rw [Keyed.get?_put, if_neg h]

theorem get?_put_self {β : Type} (b : β) (m : Keyed String β) :
    Keyed.get? key (Keyed.put key b m) = some b := by
  rw [Keyed.get?_put, if_pos rfl]

section Canonical

variable {q : String × α}

/-- A pair of a new key that spells it as it should be. -/
theorem Normal.add_new (h : Normal pairs v) (hself : Key.canonical p.1 = p.1)
    (hbefore : counting? p.1 pairs = none) : Normal (pairs ++ [p]) (v.add p.1 p.2) := by
  have hvalue : Keyed.get? p.1 v.pairs = none := by rw [h.values, hbefore, Option.map_none]
  have holder : Keyed.get? p.1 v.renamed = none := by
    rw [h.older, older?, hbefore, Option.bind_none]
  have hcount : counting? p.1 (pairs ++ [p]) = some p := by
    rw [counting?_snoc_canonical hself, hbefore]
  have hremark : remark? pairs p.1 = none := by simp [remark?, hself, hbefore]
  have hkeys := h.keys_put p
  rw [hself] at hkeys
  rw [View.add, if_pos hself, hvalue]
  refine h.snoc hself hkeys ?_ (fun k => get?_put_other p.2 v.pairs) ?_ (fun _ _ => rfl) ?_
  · rw [get?_put_self, hcount, Option.map_some]
  · rw [older?, hcount, Option.bind_some, if_pos rfl]
    exact holder
  · rw [hremark, Option.toList_none, List.append_nil]

/-- A pair whose key is there in the same spelling. -/
theorem Normal.add_again (h : Normal pairs v) (hself : Key.canonical p.1 = p.1)
    (hbefore : counting? p.1 pairs = some q) (hq : q.1 = p.1) :
    Normal (pairs ++ [p]) (v.add p.1 p.2) := by
  have hvalue : Keyed.get? p.1 v.pairs = some q.2 := by rw [h.values, hbefore, Option.map_some]
  have holder : Keyed.get? p.1 v.renamed = none := by
    rw [h.older, older?, hbefore, Option.bind_some, if_pos hq]
  have hcount : counting? p.1 (pairs ++ [p]) = some q := by
    rw [counting?_snoc_canonical hself, hbefore]
    exact congrArg some (if_pos hq)
  have hremark : remark? pairs p.1 = some (duplicate p.1) := by
    simp [remark?, hself, hbefore, hq]
  rw [View.add, if_pos hself, hvalue, holder]
  refine h.snoc hself (h.keys_there ?_) ?_ (fun _ _ => rfl) ?_ (fun _ _ => rfl) ?_
  · rw [hself]
    exact h.mem_keys_of_counting hbefore
  · rw [hcount, Option.map_some]
    exact hvalue
  · rw [older?, hcount, Option.bind_some, if_pos hq]
    exact holder
  · rw [hremark]
    rfl

/-- A pair whose key is there in an older spelling, whose place it takes. -/
theorem Normal.add_instead (h : Normal pairs v) (hself : Key.canonical p.1 = p.1)
    (hbefore : counting? p.1 pairs = some q) (hq : q.1 ≠ p.1) :
    Normal (pairs ++ [p]) (v.add p.1 p.2) := by
  have hvalue : Keyed.get? p.1 v.pairs = some q.2 := by rw [h.values, hbefore, Option.map_some]
  have holder : Keyed.get? p.1 v.renamed = some q.1 := by
    rw [h.older, older?, hbefore, Option.bind_some, if_neg hq]
  have hcount : counting? p.1 (pairs ++ [p]) = some p := by
    rw [counting?_snoc_canonical hself, hbefore]
    exact congrArg some (if_neg hq)
  have hremark : remark? pairs p.1 = some (ignored q.1 p.1) := by
    simp [remark?, hself, hbefore, hq]
  have hkeys := h.keys_put p
  rw [hself] at hkeys
  rw [View.add, if_pos hself, hvalue, holder]
  refine h.snoc hself hkeys ?_ (fun k => get?_put_other p.2 v.pairs) ?_ (fun k hk => ?_) ?_
  · rw [get?_put_self, hcount, Option.map_some]
  · rw [Keyed.get?_erase, if_pos rfl, older?, hcount, Option.bind_some, if_pos rfl]
  · rw [Keyed.get?_erase, if_neg hk.symm]
  · rw [hremark]
    rfl

end Canonical

/-- A pair that spells its key as it should be. -/
theorem Normal.add_canonical (h : Normal pairs v) (hself : Key.canonical p.1 = p.1) :
    Normal (pairs ++ [p]) (v.add p.1 p.2) := by
  cases hbefore : counting? p.1 pairs with
  | none => exact h.add_new hself hbefore
  | some q =>
    by_cases hq : q.1 = p.1
    · exact h.add_again hself hbefore hq
    · exact h.add_instead hself hbefore hq

/-- A pair that spells its key in an older way: it is taken if no spelling is before it. -/
theorem Normal.add_older (h : Normal pairs v) (hself : Key.canonical p.1 ≠ p.1) :
    Normal (pairs ++ [p]) (v.add p.1 p.2) := by
  have hcount : counting? (Key.canonical p.1) (pairs ++ [p]) =
      (counting? (Key.canonical p.1) pairs).or (some p) := counting?_snoc_older hself
  cases hbefore : counting? (Key.canonical p.1) pairs with
  | none =>
    rw [hbefore, Option.none_or] at hcount
    have hvalue : Keyed.get? (Key.canonical p.1) v.pairs = none := by
      rw [h.values, hbefore, Option.map_none]
    have hremark : remark? pairs p.1 = some (respelled p.1 (Key.canonical p.1)) := by
      simp [remark?, hself, hbefore]
    rw [View.add, if_neg hself, Keyed.has, hvalue]
    refine h.snoc rfl (h.keys_put p) ?_ (fun k => get?_put_other p.2 v.pairs) ?_
      (fun k => get?_put_other p.1 v.renamed) ?_
    · rw [hcount, Option.map_some]
      exact get?_put_self p.2 v.pairs
    · rw [older?, hcount, Option.bind_some, if_neg hself.symm]
      exact get?_put_self p.1 v.renamed
    · rw [hremark]
      rfl
  | some q =>
    rw [hbefore, Option.some_or] at hcount
    have hvalue : Keyed.get? (Key.canonical p.1) v.pairs = some q.2 := by
      rw [h.values, hbefore, Option.map_some]
    have hremark : remark? pairs p.1 = some (ignored p.1 (Key.canonical p.1)) := by
      simp [remark?, hself, hbefore]
    rw [View.add, if_neg hself, Keyed.has, hvalue]
    refine h.snoc rfl (h.keys_there (h.mem_keys_of_counting hbefore)) ?_ (fun _ _ => rfl) ?_
      (fun _ _ => rfl) ?_
    · rw [hcount, Option.map_some]
      exact hvalue
    · rw [older?, hcount, ← hbefore]
      exact h.older _
    · rw [hremark]
      rfl

theorem normal_ofPairs (pairs : List (String × α)) : Normal pairs (ofPairs pairs) := by
  induction pairs using List.reverseRecOn with
  | nil => exact normal_nil
  | append_singleton rest p ih =>
    have hsnoc : ofPairs (rest ++ [p]) = (ofPairs rest).add p.1 p.2 := by
      rw [ofPairs, List.foldl_append]
      rfl
    rw [hsnoc]
    by_cases hself : Key.canonical p.1 = p.1
    · exact ih.add_canonical hself
    · exact ih.add_older hself

/-- An older spelling gives its place to the canonical one, and not to another older one. -/
example :
    ofPairs [("address", 1), ("Size", 2), ("Offset", 3), ("offset", 4), ("Size", 5)] =
      { pairs := [("Offset", 3), ("Size", 2)]
        issues := [respelled "address" "Offset", ignored "address" "Offset",
          ignored "offset" "Offset", duplicate "Size"] } := rfl

end View

namespace Description

/-- The keys of a mapping are normal: the canonical forms of the keys that stand there, each once,
in the order of their first spellings; each with the value of its first canonical spelling, or else
of its first older one. Of every pair something is said, but of one that is the first of its key and
spells it as it should be. The mapping of these keys has the same keys, and nothing is said of
it. -/
theorem keysOf_mapping (tag : String) (pairs : List (Node × Node)) (flow : Bool)
    (share : Option Nat) :
    let v := keysOf (.mapping tag pairs flow share)
    let spelled := pairs.map fun p => (p.1.keyText, p.2)
    v.pairs.map Prod.fst = (spelled.map fun p => Key.canonical p.1).eraseDups ∧
      (∀ key, Keyed.get? key v.pairs = (View.counting? key spelled).map Prod.snd) ∧
      v.issues = View.remarks [] spelled ∧
      (∀ before p after, spelled = before ++ p :: after →
        (View.remark? before p.1 = none ↔
          Key.canonical p.1 = p.1 ∧ ∀ q ∈ before, Key.canonical q.1 ≠ p.1)) ∧
      keysOf (.mapping tag (keyed v.pairs) flow share) = { pairs := v.pairs } := by
  intro v spelled
  have hnormal : View.Normal spelled v := View.normal_ofPairs spelled
  have hcanonical : ∀ q ∈ v.pairs, Key.canonical q.1 = q.1 := by
    intro q hq
    obtain ⟨p, _, rfl⟩ := Field.mem_ofPairs hq
    exact Key.canonical_canonical p.1
  have hkeyed : (keyed v.pairs).map (fun p => (p.1.keyText, p.2)) = v.pairs := by
    rw [keyed, List.map_map]
    exact List.map_id v.pairs
  refine ⟨hnormal.keys, hnormal.values, hnormal.issues, fun _ _ _ _ => View.remark?_eq_none_iff, ?_⟩
  rw [keysOf, hkeyed, View.ofPairs_canonical hcanonical (View.distinct_ofPairs spelled)]

end Description

end GameAtlas.Schema
