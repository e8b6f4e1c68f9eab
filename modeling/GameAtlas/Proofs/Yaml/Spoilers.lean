import Mathlib.Tactic
import GameAtlas.Proofs.Yaml.Contained

/-!
All that spoils the values within a node, computed: whether anything does is decided by running
through the node once.
-/

namespace GameAtlas.Yaml

/-- A value does not fit what it is asked for. -/
def ConversionFault.isMisfit : ConversionFault → Bool
  | .misfit _ => true
  | _ => false

theorem ConversionFault.isMisfit_eq_false {fault : ConversionFault} :
    fault.isMisfit = false ↔ ∀ m, fault ≠ .misfit m := by
  cases fault <;> simp [isMisfit]

namespace Node

/-- A collection cannot be a key. -/
def keySpoilers (k : Node) : List ConversionFault :=
  if k.isScalar then [] else [.unhashable (if k.isMapping then "dict" else "list")]

mutual

/-- What spoils the values within a node. -/
def spoilers [Host] (n : Node) : List ConversionFault :=
  match n with
  | .scalar tag text _ _ =>
    (failures (scalarValue tag text)).filter fun fault => !fault.isMisfit
  | .sequence _ items _ _ => itemSpoilers items
  | .mapping _ pairs _ _ => pairSpoilers pairs
termination_by structural n

def itemSpoilers [Host] (ns : List Node) : List ConversionFault :=
  match ns with
  | [] => []
  | n :: rest => spoilers n ++ itemSpoilers rest
termination_by structural ns

def pairSpoilers [Host] (ps : List (Node × Node)) : List ConversionFault :=
  match ps with
  | [] => []
  | (k, v) :: rest => keySpoilers k ++ (spoilers k ++ (spoilers v ++ pairSpoilers rest))
termination_by structural ps

end

variable {fault : ConversionFault}

theorem mem_keySpoilers {k : Node} : fault ∈ keySpoilers k ↔
    k.isScalar = false ∧ fault = .unhashable (if k.isMapping then "dict" else "list") := by
  cases k <;> simp [keySpoilers, isScalar]

variable [Host]

theorem mem_itemSpoilers {ns : List Node} :
    fault ∈ itemSpoilers ns ↔ ∃ n ∈ ns, fault ∈ n.spoilers := by
  induction ns with
  | nil => simp [itemSpoilers]
  | cons n rest ih => simp [itemSpoilers, ih]

theorem mem_pairSpoilers {ps : List (Node × Node)} :
    fault ∈ pairSpoilers ps ↔
      ∃ p ∈ ps, fault ∈ keySpoilers p.1 ∨ fault ∈ p.1.spoilers ∨ fault ∈ p.2.spoilers := by
  induction ps with
  | nil => simp [pairSpoilers]
  | cons p rest ih =>
    simp only [pairSpoilers, List.mem_append, ih, List.exists_mem_cons_iff, or_assoc]

theorem spoils_scalar_iff {tag text : String} {style : ScalarStyle} {share : Option Nat} :
    (scalar tag text style share).Spoils fault ↔
      scalarValue tag text = .error fault ∧ ∀ m, fault ≠ .misfit m := by
  constructor
  · intro h
    cases h with
    | scalar hscalar hvalue hfault =>
      cases hscalar with
      | self => exact ⟨hvalue, hfault⟩
      | child hx _ => cases hx
    | key hmapping _ _ =>
      cases hmapping with
      | child hx _ => cases hx
  · rintro ⟨hvalue, hfault⟩
    exact .scalar (.self _) hvalue hfault

theorem spoils_sequence_iff {tag : String} {items : List Node} {flow : Bool} {share : Option Nat} :
    (sequence tag items flow share).Spoils fault ↔ ∃ x ∈ items, x.Spoils fault := by
  constructor
  · intro h
    cases h with
    | scalar hscalar hvalue hfault =>
      cases hscalar with
      | child hx hbelow => exact ⟨_, hx, .scalar hbelow hvalue hfault⟩
    | key hmapping hp hkey =>
      cases hmapping with
      | child hx hbelow => exact ⟨_, hx, .key hbelow hp hkey⟩
  · rintro ⟨x, hx, h⟩
    exact h.within (contains_child hx)

theorem spoils_mapping_iff {tag : String} {pairs : List (Node × Node)} {flow : Bool}
    {share : Option Nat} :
    (mapping tag pairs flow share).Spoils fault ↔
      ∃ p ∈ pairs, fault ∈ keySpoilers p.1 ∨ p.1.Spoils fault ∨ p.2.Spoils fault := by
  have hbelow {x : Node} (hx : x ∈ (mapping tag pairs flow share).children)
      (h : x.Spoils fault) :
      ∃ p ∈ pairs, fault ∈ keySpoilers p.1 ∨ p.1.Spoils fault ∨ p.2.Spoils fault := by
    obtain ⟨p, hp, hx⟩ := List.mem_flatMap.mp hx
    rcases List.mem_pair.mp hx with rfl | rfl
    · exact ⟨p, hp, .inr (.inl h)⟩
    · exact ⟨p, hp, .inr (.inr h)⟩
  constructor
  · intro h
    cases h with
    | scalar hscalar hvalue hfault =>
      cases hscalar with
      | child hx hscalar => exact hbelow hx (.scalar hscalar hvalue hfault)
    | key hmapping hp hkey =>
      cases hmapping with
      | self => exact ⟨_, hp, .inl (mem_keySpoilers.mpr ⟨hkey, rfl⟩)⟩
      | child hx hmapping => exact hbelow hx (.key hmapping hp hkey)
  · rintro ⟨p, hp, hkey | h | h⟩
    · obtain ⟨hscalar, rfl⟩ := mem_keySpoilers.mp hkey
      exact .key (.self _) hp hscalar
    · exact h.within (contains_key hp)
    · exact h.within (contains_value hp)

/-- The faults that are found spoil the node, and no others do. -/
theorem mem_spoilers (n : Node) : fault ∈ n.spoilers ↔ n.Spoils fault := by
  induction n using children_induction with
  | step n ih =>
    cases n with
    | scalar tag text style share =>
      rw [spoils_scalar_iff, spoilers, List.mem_filter, mem_failures, Bool.not_eq_true',
        ConversionFault.isMisfit_eq_false]
    | sequence tag items flow share =>
      rw [spoils_sequence_iff, spoilers, mem_itemSpoilers]
      exact exists_congr fun x => and_congr_right fun hx => ih x hx
    | mapping tag pairs flow share =>
      rw [spoils_mapping_iff, spoilers, mem_pairSpoilers]
      refine exists_congr fun p => and_congr_right fun hp => ?_
      have hkey : p.1 ∈ (mapping tag pairs flow share).children :=
        List.mem_flatMap.mpr ⟨p, hp, by simp⟩
      have hvalue : p.2 ∈ (mapping tag pairs flow share).children :=
        List.mem_flatMap.mpr ⟨p, hp, by simp⟩
      rw [ih p.1 hkey, ih p.2 hvalue]

end Node

end GameAtlas.Yaml
