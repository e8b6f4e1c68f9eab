import Mathlib.Tactic
import GameAtlas.Data.Keyed

/-!
Keyed lists with each key once. Setting pairs one after the other makes such a list, and changes
nothing about one that is set over again.
-/

namespace GameAtlas

namespace Keyed

variable {κ α β : Type} [DecidableEq κ]

/-- No key stands twice. -/
def Distinct (m : Keyed κ α) : Prop := (m.map Prod.fst).Nodup

omit [DecidableEq κ] in
/-- A key does not stand before the place that it has. -/
theorem Distinct.new {p : κ × α} {before after : Keyed κ α}
    (h : Distinct (before ++ p :: after)) : p.1 ∉ before.map Prod.fst := by
  unfold Distinct at h
  rw [List.map_append, List.map_cons] at h
  intro hp
  exact List.disjoint_of_nodup_append h hp List.mem_cons_self

theorem get?_eq_none_iff {key : κ} {m : Keyed κ α} :
    get? key m = none ↔ key ∉ m.map Prod.fst := by
  induction m with
  | nil => simp [get?]
  | cons p rest ih =>
    by_cases hp : p.1 = key
    · simp [get?, hp]
    · simp only [get?, hp, if_false, ih, List.map_cons, List.mem_cons, not_or]
      exact ⟨fun h => ⟨fun heq => hp heq.symm, h⟩, And.right⟩

theorem mem_of_get? {key : κ} {value : α} {m : Keyed κ α} (h : get? key m = some value) :
    (key, value) ∈ m := by
  induction m with
  | nil => cases h
  | cons p rest ih =>
    rw [get?] at h
    split at h
    next heq =>
      cases h
      rw [← heq]
      exact List.mem_cons_self
    · exact List.mem_cons_of_mem p (ih h)

/-- In a list with each key once, every pair is found. -/
theorem get?_of_mem {key : κ} {value : α} {m : Keyed κ α} (h : m.Distinct)
    (hmem : (key, value) ∈ m) : get? key m = some value := by
  induction m with
  | nil => cases hmem
  | cons p rest ih =>
    obtain ⟨hnew, hrest⟩ := List.nodup_cons.mp h
    rcases List.mem_cons.mp hmem with rfl | hmem
    · rw [get?, if_pos rfl]
    · have hne : p.1 ≠ key := fun heq => hnew (heq ▸ List.mem_map_of_mem hmem)
      rw [get?, if_neg hne]
      exact ih hrest hmem

theorem get?_perm {m m' : Keyed κ α} (h : m.Distinct) (hperm : m.Perm m') (key : κ) :
    get? key m = get? key m' := by
  cases hvalue : get? key m with
  | none =>
    have habsent : key ∉ m'.map Prod.fst := fun hmem =>
      get?_eq_none_iff.mp hvalue ((hperm.map Prod.fst).mem_iff.mpr hmem)
    exact (get?_eq_none_iff.mpr habsent).symm
  | some value =>
    have hdistinct : m'.Distinct := (hperm.map Prod.fst).nodup_iff.mp h
    exact (get?_of_mem hdistinct (hperm.mem_iff.mp (mem_of_get? hvalue))).symm

theorem get?_append (key : κ) (m n : Keyed κ α) :
    get? key (m ++ n) = (get? key m).or (get? key n) := by
  induction m with
  | nil => rfl
  | cons p rest ih =>
    by_cases hp : p.1 = key
    · simp [get?, hp]
    · simpa [get?, hp] using ih

theorem get?_snoc {k : κ} {value : α} {m : Keyed κ α} (h : k ∉ m.map Prod.fst) (key : κ) :
    get? key (m ++ [(k, value)]) = if k = key then some value else get? key m := by
  rw [get?_append, get?, get?]
  split
  · next hkey =>
    rw [← hkey, get?_eq_none_iff.mpr h, Option.none_or]
  · rw [Option.or_none]

/-- Values may be replaced by what they and their keys give. -/
theorem get?_map (key : κ) (f : κ → α → β) (m : Keyed κ α) :
    get? key (m.map fun p => (p.1, f p.1 p.2)) = (get? key m).map (f key) := by
  induction m with
  | nil => rfl
  | cons p rest ih =>
    by_cases hp : p.1 = key
    · simp [get?, hp]
    · simpa [get?, hp] using ih

theorem put_map (key : κ) (value : α) (f : κ → α → β) (m : Keyed κ α) :
    put key (f key value) (m.map fun p => (p.1, f p.1 p.2)) =
      (put key value m).map fun p => (p.1, f p.1 p.2) := by
  induction m with
  | nil => rfl
  | cons p rest ih =>
    by_cases hp : p.1 = key
    · simp [put, hp]
    · simpa [put, hp] using ih

theorem erase_map (key : κ) (f : κ → α → β) (m : Keyed κ α) :
    erase key (m.map fun p => (p.1, f p.1 p.2)) =
      (erase key m).map fun p => (p.1, f p.1 p.2) := by
  simp [erase, List.filter_map, Function.comp_def]

/-- A key that stands once is found in a part of the list if its value belongs to the part. -/
theorem get?_filter (key : κ) (keep : α → Bool) {m : Keyed κ α} (h : m.Distinct) :
    get? key (m.filter fun p => keep p.2) = (get? key m).filter keep := by
  induction m with
  | nil => rfl
  | cons p rest ih =>
    obtain ⟨hnew, hrest⟩ := List.nodup_cons.mp h
    have hnone : get? p.1 rest = none := get?_eq_none_iff.mpr hnew
    by_cases hp : p.1 = key
    · subst hp
      cases hkeep : keep p.2 <;> simp [get?, hkeep, ih hrest, hnone, Option.filter]
    · cases hkeep : keep p.2 <;> simp [get?, hkeep, ih hrest, hp]

theorem put_of_new {key : κ} {value : α} {m : Keyed κ α} (h : key ∉ m.map Prod.fst) :
    put key value m = m ++ [(key, value)] := by
  induction m with
  | nil => rfl
  | cons p rest ih =>
    simp only [List.map_cons, List.mem_cons, not_or] at h
    have hp : p.1 ≠ key := fun heq => h.1 heq.symm
    simp [put, hp, ih h.2]

/-- A key that is not before a place is set at that place. -/
theorem put_append_cons {key : κ} {value old : α} {before after : Keyed κ α}
    (h : key ∉ before.map Prod.fst) :
    put key value (before ++ (key, old) :: after) = before ++ (key, value) :: after := by
  induction before with
  | nil => simp [put]
  | cons p rest ih =>
    simp only [List.map_cons, List.mem_cons, not_or] at h
    have hp : p.1 ≠ key := fun heq => h.1 heq.symm
    simp [put, hp, ih h.2]

theorem mem_keys_put {key k : κ} {value : α} {m : Keyed κ α} :
    k ∈ (put key value m).map Prod.fst ↔ k = key ∨ k ∈ m.map Prod.fst := by
  induction m with
  | nil => simp [put]
  | cons p rest ih =>
    by_cases hp : p.1 = key
    · simp [put, hp]
    · simp only [put, hp, if_false, List.map_cons, List.mem_cons, ih]
      tauto

/-- A key that is there keeps its place. -/
theorem keys_put_of_mem {key : κ} {value : α} {m : Keyed κ α} (h : key ∈ m.map Prod.fst) :
    (put key value m).map Prod.fst = m.map Prod.fst := by
  induction m with
  | nil => cases h
  | cons p rest ih =>
    by_cases hp : p.1 = key
    · simp [put, hp]
    · have hrest : key ∈ rest.map Prod.fst :=
        (List.mem_cons.mp h).resolve_left fun heq => hp heq.symm
      simp [put, hp, ih hrest]

theorem get?_put (key k : κ) (value : α) (m : Keyed κ α) :
    get? k (put key value m) = if key = k then some value else get? k m := by
  induction m with
  | nil => rfl
  | cons p rest ih =>
    by_cases hp : p.1 = key
    · by_cases hk : key = k <;> simp [put, get?, hp, hk]
    · simp only [put, hp, if_false, get?, ih]
      by_cases hk : p.1 = k
      · have hne : key ≠ k := fun heq => hp (hk.trans heq.symm)
        rw [if_pos hk, if_pos hk, if_neg hne]
      · rw [if_neg hk, if_neg hk]

theorem put_ne_nil (key : κ) (value : α) (m : Keyed κ α) : put key value m ≠ [] := by
  have hmem : key ∈ (put key value m).map Prod.fst := mem_keys_put.mpr (.inl rfl)
  intro hnil
  rw [hnil] at hmem
  cases hmem

theorem of_mem_put {key : κ} {value : α} {m : Keyed κ α} {p : κ × α} (h : p ∈ put key value m) :
    p = (key, value) ∨ p ∈ m := by
  induction m with
  | nil => exact .inl (List.mem_singleton.mp h)
  | cons q rest ih =>
    by_cases hq : q.1 = key
    · simp only [put, hq, if_true, List.mem_cons] at h
      exact h.imp_right (List.mem_cons_of_mem q)
    · simp only [put, hq, if_false, List.mem_cons] at h
      rcases h with rfl | h
      · exact .inr List.mem_cons_self
      · exact (ih h).imp_right (List.mem_cons_of_mem q)

theorem of_mem_ofPairs {pairs : List (κ × α)} {p : κ × α} (h : p ∈ ofPairs pairs) : p ∈ pairs := by
  have hfold : ∀ (rest : List (κ × α)) (m : Keyed κ α),
      p ∈ rest.foldl (fun m q => put q.1 q.2 m) m → p ∈ m ∨ p ∈ rest := by
    intro rest
    induction rest with
    | nil => exact fun m hp => .inl hp
    | cons q rest ih =>
      intro m hp
      rcases ih _ hp with hput | hrest
      · rcases of_mem_put hput with rfl | hm
        · exact .inr List.mem_cons_self
        · exact .inl hm
      · exact .inr (List.mem_cons_of_mem q hrest)
  exact (hfold pairs [] h).resolve_left List.not_mem_nil

theorem Distinct.put {m : Keyed κ α} (h : m.Distinct) (key : κ) (value : α) :
    (put key value m).Distinct := by
  induction m with
  | nil => simp [Distinct, Keyed.put]
  | cons p rest ih =>
    obtain ⟨hhead, hrest⟩ := List.nodup_cons.mp h
    by_cases hp : p.1 = key
    · subst hp
      simpa [Keyed.put, Distinct] using ⟨by simpa using hhead, hrest⟩
    · have hnew : p.1 ∉ (Keyed.put key value rest).map Prod.fst := by
        rw [mem_keys_put]
        rintro (heq | hmem)
        · exact hp heq
        · exact hhead hmem
      have hput : Keyed.put key value (p :: rest) = p :: Keyed.put key value rest := by
        simp [Keyed.put, hp]
      rw [hput]
      exact List.nodup_cons.mpr ⟨hnew, ih hrest⟩

theorem Distinct.erase {m : Keyed κ α} (h : m.Distinct) (key : κ) : (erase key m).Distinct :=
  List.Nodup.sublist (List.filter_sublist.map Prod.fst) h

theorem erase_of_new {key : κ} {m : Keyed κ α} (h : key ∉ m.map Prod.fst) : erase key m = m := by
  refine List.filter_eq_self.mpr fun p hp => ?_
  have hne : p.1 ≠ key := fun heq => h (List.mem_map.mpr ⟨p, hp, heq⟩)
  simpa using hne

/-- To leave out a key that stands once is to leave out its pair. -/
theorem erase_middle {p : κ × α} {before after : Keyed κ α}
    (h : Distinct (before ++ p :: after)) :
    erase p.1 (before ++ p :: after) = before ++ after ∧ ∀ q ∈ after, p.1 ≠ q.1 := by
  have hnew := h.new
  unfold Distinct at h
  rw [List.map_append, List.map_cons] at h
  have hbehind : p.1 ∉ after.map Prod.fst := (List.nodup_cons.mp h.of_append_right).1
  have hfilter : erase p.1 (before ++ p :: after) = erase p.1 before ++ erase p.1 after := by
    simp [erase]
  refine ⟨?_, fun q hq heq => hbehind (List.mem_map.mpr ⟨q, hq, heq.symm⟩)⟩
  rw [hfilter, erase_of_new hnew, erase_of_new hbehind]

theorem not_mem_keys_erase (key : κ) (m : Keyed κ α) : key ∉ (erase key m).map Prod.fst := by
  simp [Keyed.erase]

theorem get?_erase (key k : κ) (m : Keyed κ α) :
    get? k (erase key m) = if k = key then none else get? k m := by
  have hcons (p : κ × α) (rest : Keyed κ α) :
      erase key (p :: rest) = if p.1 = key then erase key rest else p :: erase key rest := by
    by_cases hp : p.1 = key <;> simp [erase, hp]
  induction m with
  | nil => simp [erase, get?]
  | cons p rest ih =>
    rw [hcons]
    by_cases hp : p.1 = key
    · rw [if_pos hp, ih, get?, hp]
      by_cases hk : k = key
      · rw [if_pos hk, if_pos hk]
      · rw [if_neg hk, if_neg hk, if_neg fun heq => hk heq.symm]
    · rw [if_neg hp, get?, get?, ih]
      by_cases hk : p.1 = k
      · rw [if_pos hk, if_pos hk, if_neg fun heq => hp (hk.trans heq)]
      · rw [if_neg hk, if_neg hk]

theorem distinct_ofPairs (pairs : List (κ × α)) : (ofPairs pairs).Distinct := by
  have hfold : ∀ (m : Keyed κ α), m.Distinct →
      (pairs.foldl (fun m p => put p.1 p.2 m) m).Distinct := by
    induction pairs with
    | nil => exact fun m h => h
    | cons p rest ih => exact fun m h => ih _ (h.put p.1 p.2)
  exact hfold [] List.nodup_nil

/-- Pairs with distinct keys, also from those that are there, are set one behind the other. -/
theorem foldl_put (pairs : List (κ × α)) (m : Keyed κ α) (h : (m ++ pairs).Distinct) :
    pairs.foldl (fun m p => put p.1 p.2 m) m = m ++ pairs := by
  induction pairs generalizing m with
  | nil => simp
  | cons p rest ih =>
    rw [List.foldl_cons, put_of_new h.new, ih]
    · simp
    · simpa [Distinct] using h

theorem ofPairs_of_distinct {pairs : List (κ × α)} (h : Distinct pairs) :
    ofPairs pairs = pairs := by
  simpa [ofPairs] using foldl_put pairs [] h

end Keyed

end GameAtlas
