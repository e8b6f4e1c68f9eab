import Mathlib.Tactic
import GameAtlas.Proofs.Data.Outcome
import GameAtlas.Yaml.Content

/-!
Nodes within nodes, and what spoils a value that is asked for: a fault that is no misfit comes from
a scalar within the node, or from a collection that is a key there.
-/

namespace GameAtlas.Yaml

namespace Node

/-! ### Nodes within nodes -/

/-- The nodes right below a node; keys and values of a mapping alike. -/
def children : Node → List Node
  | .scalar .. => []
  | .sequence _ items _ _ => items
  | .mapping _ pairs _ _ => pairs.flatMap fun p => [p.1, p.2]

/-- A node is the other one or lies within it. -/
inductive Contains : Node → Node → Prop where
  | self (n : Node) : Contains n n
  | child {n x m : Node} : x ∈ n.children → Contains x m → Contains n m

variable {n x m : Node}

theorem Contains.trans (h : n.Contains x) (hx : x.Contains m) : n.Contains m := by
  induction h with
  | self => exact hx
  | child hmem _ ih => exact .child hmem (ih hx)

theorem contains_child (h : x ∈ n.children) : n.Contains x := .child h (.self x)

section Pairs

variable {tag : String} {pairs : List (Node × Node)} {flow : Bool} {share : Option Nat}
  {p : Node × Node}

theorem contains_key (h : p ∈ pairs) : (mapping tag pairs flow share).Contains p.1 :=
  contains_child (List.mem_flatMap.mpr ⟨p, h, by simp⟩)

theorem contains_value (h : p ∈ pairs) : (mapping tag pairs flow share).Contains p.2 :=
  contains_child (List.mem_flatMap.mpr ⟨p, h, by simp⟩)

theorem mem_of_get? {key : String} {v : Node} (h : get? key pairs = some v) :
    ∃ p ∈ pairs, p.2 = v := by
  induction pairs with
  | nil => cases h
  | cons p rest ih =>
    obtain ⟨k, value⟩ := p
    have hbehind (hrest : get? key rest = some v) : ∃ p ∈ (k, value) :: rest, p.2 = v := by
      obtain ⟨q, hq, hvalue⟩ := ih hrest
      exact ⟨q, List.mem_cons_of_mem _ hq, hvalue⟩
    cases k with
    | scalar =>
      rw [get?] at h
      split at h
      · cases h
        exact ⟨_, List.mem_cons_self, rfl⟩
      · exact hbehind h
    | sequence => exact hbehind h
    | mapping => exact hbehind h

theorem contains_get? {key : String} {v : Node} (h : get? key pairs = some v) :
    (mapping tag pairs flow share).Contains v := by
  obtain ⟨p, hp, rfl⟩ := mem_of_get? h
  exact contains_value hp

end Pairs

/-- What holds of a node once it holds of the nodes right below holds of every node. -/
theorem children_induction {P : Node → Prop} (step : ∀ n, (∀ x ∈ n.children, P x) → P n)
    (n : Node) : P n := by
  refine @Node.rec P (fun items => ∀ x ∈ items, P x) (fun pairs => ∀ p ∈ pairs, P p.1 ∧ P p.2)
    (fun p => P p.1 ∧ P p.2) ?_ ?_ ?_ ?_ ?_ ?_ ?_ ?_ n
  · intro tag text style share
    exact step _ nofun
  · intro tag items flow share ih
    exact step _ ih
  · intro tag pairs flow share ih
    refine step _ fun x hx => ?_
    obtain ⟨p, hp, hx⟩ := List.mem_flatMap.mp hx
    rcases List.mem_pair.mp hx with rfl | rfl
    · exact (ih p hp).1
    · exact (ih p hp).2
  · exact nofun
  · intro head tail ihHead ihTail x hx
    rcases List.mem_cons.mp hx with rfl | hx
    · exact ihHead
    · exact ihTail x hx
  · exact nofun
  · intro head tail ihHead ihTail p hp
    rcases List.mem_cons.mp hp with rfl | hp
    · exact ihHead
    · exact ihTail p hp
  · intro k v ihKey ihValue
    exact ⟨ihKey, ihValue⟩

/-- The hypothesis may be had for whatever lies within a node, not only right below it. -/
theorem contains_induction {P : Node → Prop}
    (step : ∀ n, (∀ x ∈ n.children, ∀ m, x.Contains m → P m) → P n) (n : Node) : P n := by
  have hall : ∀ n m : Node, n.Contains m → P m := by
    intro n
    induction n using children_induction with
    | step n ih =>
      intro m hm
      cases hm with
      | self => exact step n ih
      | child hx hm => exact ih _ hx m hm
  exact hall n n (.self n)

/-! ### Values -/

/-- A fault of conversion other than a misfit lies in a node. -/
inductive Spoils [Host] (n : Node) : ConversionFault → Prop where
  /-- A scalar is tagged as something that its text is not. -/
  | scalar {tag text : String} {style : ScalarStyle} {share : Option Nat}
      {fault : ConversionFault} :
      n.Contains (.scalar tag text style share) → scalarValue tag text = .error fault →
      (∀ m, fault ≠ .misfit m) → Spoils n fault
  /-- A collection is a key of a mapping. -/
  | key {tag : String} {pairs : List (Node × Node)} {flow : Bool} {share : Option Nat}
      {p : Node × Node} :
      n.Contains (.mapping tag pairs flow share) → p ∈ pairs → p.1.isScalar = false →
      Spoils n (.unhashable (if p.1.isMapping then "dict" else "list"))

variable {fault : ConversionFault}

theorem Spoils.within [Host] (h : x.Spoils fault) (hx : n.Contains x) : n.Spoils fault := by
  cases h with
  | scalar hscalar hvalue hfault => exact .scalar (hx.trans hscalar) hvalue hfault
  | key hmapping hp hkey => exact .key (hx.trans hmapping) hp hkey

/-- A misfit spoils nothing. -/
theorem Spoils.not_misfit [Host] (h : n.Spoils fault) : ∀ m, fault ≠ .misfit m := by
  cases h with
  | scalar _ _ hfault => exact hfault
  | key _ _ _ => exact nofun

theorem checkKey_of_realOf {text : String} {d : Datum} (h : realOf text = .ok d) :
    d.checkKey = .ok () := by
  unfold realOf at h
  split at h
  · cases h
  · next c rest _ =>
    dsimp only at h
    generalize (if c == '-' || c == '+' then rest else c :: rest) = cs at h
    split at h
    · cases h
      rfl
    · split at h
      · cases h
        rfl
      · split at h
        · obtain ⟨_, _, h⟩ := bind_eq_ok_iff.mp h
          obtain ⟨_, _, h⟩ := bind_eq_ok_iff.mp h
          cases h
          rfl
        · obtain ⟨_, _, h⟩ := bind_eq_ok_iff.mp h
          cases h
          rfl

theorem checkKey_of_timestampOf {text : String} {d : Datum} (h : timestampOf text = .ok d) :
    d.checkKey = .ok () := by
  unfold timestampOf at h
  split at h
  · cases h
  all_goals
    split at h
    · cases h
      rfl
    · cases h

theorem checkKey_binaryOf (text : String) : (binaryOf text).checkKey = .ok () := by
  unfold binaryOf
  split
  · split <;> rfl
  · rfl

section

variable [Host]

/-- What stands for a scalar can be a key. -/
theorem checkKey_of_scalarValue {tag text : String} {d : Datum}
    (h : scalarValue tag text = .ok d) : d.checkKey = .ok () := by
  rw [scalarValue] at h
  split at h
  · cases h
    rfl
  · unfold scalarDatum at h
    split at h
    · cases h
      rfl
    · split at h
      · obtain ⟨b, _, rfl⟩ := map_eq_ok_iff.mp h
        rfl
      · split at h
        · obtain ⟨i, _, rfl⟩ := map_eq_ok_iff.mp h
          rfl
        · split at h
          · exact checkKey_of_realOf h
          · split at h
            · exact checkKey_of_timestampOf h
            · split at h
              · cases h
                exact checkKey_binaryOf text
              · cases h
                rfl

theorem checkKey_datum {d : Datum} (h : n.datum = .ok d) (hkey : d.checkKey = .error fault) :
    n.isScalar = false ∧ fault = .unhashable (if n.isMapping then "dict" else "list") := by
  cases n with
  | scalar tag text style share =>
    rw [checkKey_of_scalarValue h] at hkey
    cases hkey
  | sequence tag items flow share =>
    obtain ⟨_, _, h⟩ := bind_eq_ok_iff.mp h
    cases h
    cases hkey
    exact ⟨rfl, rfl⟩
  | mapping tag pairs flow share =>
    obtain ⟨_, _, h⟩ := bind_eq_ok_iff.mp h
    cases h
    cases hkey
    exact ⟨rfl, rfl⟩

theorem itemData_error {ns : List Node} (h : itemData ns = .error fault) :
    ∃ x ∈ ns, x.datum = .error fault := by
  induction ns with
  | nil => cases h
  | cons n rest ih =>
    rcases bind_eq_error_iff.mp h with hn | ⟨_, _, h⟩
    · exact ⟨n, List.mem_cons_self, hn⟩
    · rcases bind_eq_error_iff.mp h with hrest | ⟨_, _, h⟩
      · obtain ⟨x, hx, hfault⟩ := ih hrest
        exact ⟨x, List.mem_cons_of_mem n hx, hfault⟩
      · cases h

theorem pairData_error {ps : List (Node × Node)} {before : List (Datum × Datum)}
    (h : pairData before ps = .error fault) :
    ∃ p ∈ ps, p.1.datum = .error fault ∨ p.2.datum = .error fault ∨
      ∃ d, p.1.datum = .ok d ∧ d.checkKey = .error fault := by
  induction ps generalizing before with
  | nil => cases h
  | cons p rest ih =>
    rw [pairData] at h
    rcases bind_eq_error_iff.mp h with hkey | ⟨d, hd, h⟩
    · exact ⟨p, List.mem_cons_self, .inl hkey⟩
    · rcases bind_eq_error_iff.mp h with hvalue | ⟨_, _, h⟩
      · exact ⟨p, List.mem_cons_self, .inr (.inl hvalue)⟩
      · rcases bind_eq_error_iff.mp h with hcheck | ⟨_, _, h⟩
        · exact ⟨p, List.mem_cons_self, .inr (.inr ⟨d, hd, hcheck⟩)⟩
        · obtain ⟨q, hq, hfault⟩ := ih h
          exact ⟨q, List.mem_cons_of_mem p hq, hfault⟩

/-- The value of a node is spoiled by what lies within it. -/
theorem spoils_of_datum (n : Node) (fault : ConversionFault) (h : n.datum = .error fault)
    (hfault : ∀ m, fault ≠ .misfit m) : n.Spoils fault := by
  induction n using children_induction with
  | step n ih =>
    cases n with
    | scalar tag text style share => exact .scalar (.self _) h hfault
    | sequence tag items flow share =>
      rw [datum] at h
      rcases bind_eq_error_iff.mp h with hitems | ⟨_, _, h⟩
      · obtain ⟨x, hx, hdatum⟩ := itemData_error hitems
        exact (ih x hx hdatum).within (contains_child hx)
      · cases h
    | mapping tag pairs flow share =>
      rw [datum] at h
      rcases bind_eq_error_iff.mp h with hpairs | ⟨_, _, h⟩
      · obtain ⟨p, hp, hkey | hvalue | ⟨d, hd, hcheck⟩⟩ := pairData_error hpairs
        · have hbelow : p.1 ∈ (mapping tag pairs flow share).children :=
            List.mem_flatMap.mpr ⟨p, hp, by simp⟩
          exact (ih p.1 hbelow hkey).within (contains_child hbelow)
        · have hbelow : p.2 ∈ (mapping tag pairs flow share).children :=
            List.mem_flatMap.mpr ⟨p, hp, by simp⟩
          exact (ih p.2 hbelow hvalue).within (contains_child hbelow)
        · obtain ⟨hscalar, rfl⟩ := checkKey_datum hd hcheck
          exact .key (.self _) hp hscalar
      · cases h

theorem spoils_of_scalarDatum? (h : n.scalarDatum? = .error fault)
    (hfault : ∀ m, fault ≠ .misfit m) : n.Spoils fault := by
  cases n with
  | scalar tag text style share =>
    rw [scalarDatum?] at h
    refine .scalar (.self _) ?_ hfault
    cases hvalue : scalarValue tag text with
    | ok d =>
      rw [hvalue] at h
      cases h
    | error f =>
      rw [hvalue] at h
      cases h
      rfl
  | sequence => cases h
  | mapping => cases h

/-- An integer that is not there is a misfit, unless the scalar is spoiled. -/
theorem spoils_of_integer (h : n.integer = .error fault) (hfault : ∀ m, fault ≠ .misfit m) :
    n.Spoils fault := by
  rcases bind_eq_error_iff.mp h with hscalar | ⟨d, _, h⟩
  · exact spoils_of_scalarDatum? hscalar hfault
  · have hmisfit {m : Misfit} (hm : misfit m = (Except.error fault : Conversion Int)) :
        n.Spoils fault := by
      cases hm
      exact absurd rfl (hfault m)
    split at h
    · exact hmisfit h
    · exact hmisfit h
    · exact hmisfit h
    · cases h
    · split at h
      · cases h
      · exact hmisfit h

theorem spoils_of_bool (h : n.bool = .error fault) (hfault : ∀ m, fault ≠ .misfit m) :
    n.Spoils fault := by
  rcases bind_eq_error_iff.mp h with hscalar | ⟨d, _, h⟩
  · exact spoils_of_scalarDatum? hscalar hfault
  · split at h
    · cases h
    · split at h
      · cases h
      · split at h
        · cases h
        · cases h
          exact absurd rfl (hfault _)
    · cases h
      exact absurd rfl (hfault _)

/-- What keeps the text of a value from being written is a misfit. -/
theorem written_misfit {d : Datum} (h : d.written = .error fault) : ∃ m, fault = .misfit m := by
  unfold Datum.written at h
  split at h
  · cases h
    exact ⟨_, rfl⟩
  · cases h

theorem spoils_of_valueText (h : n.valueText = .error fault) (hfault : ∀ m, fault ≠ .misfit m) :
    n.Spoils fault := by
  rcases bind_eq_error_iff.mp h with hdatum | ⟨d, _, hwritten⟩
  · exact n.spoils_of_datum fault hdatum hfault
  · obtain ⟨m, rfl⟩ := written_misfit hwritten
    exact absurd rfl (hfault m)

end

/-- The text of a scalar is not looked into. -/
theorem scalarText_misfit (h : n.scalarText = .error fault) : ∃ m, fault = .misfit m := by
  cases n with
  | scalar => cases h
  | sequence =>
    cases h
    exact ⟨_, rfl⟩
  | mapping =>
    cases h
    exact ⟨_, rfl⟩

end Node

end GameAtlas.Yaml
