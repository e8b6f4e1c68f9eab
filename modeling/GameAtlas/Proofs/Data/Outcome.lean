import Mathlib.Tactic

/-!
Computations that may fail: what is known when one that is made of steps succeeds.
-/

namespace GameAtlas

variable {ε α β : Type}

theorem bind_eq_ok_iff {x : Except ε α} {f : α → Except ε β} {b : β} :
    x >>= f = .ok b ↔ ∃ a, x = .ok a ∧ f a = .ok b := by
  cases x with
  | ok a =>
    constructor
    · intro h
      exact ⟨a, rfl, h⟩
    · rintro ⟨_, ha, h⟩
      cases ha
      exact h
  | error e =>
    constructor
    · intro h
      cases h
    · rintro ⟨_, ha, _⟩
      cases ha

/-- A computation of two steps fails in the first or behind it. -/
theorem bind_eq_error_iff {x : Except ε α} {f : α → Except ε β} {e : ε} :
    x >>= f = .error e ↔ x = .error e ∨ ∃ a, x = .ok a ∧ f a = .error e := by
  cases x with
  | ok a =>
    constructor
    · intro h
      exact .inr ⟨a, rfl, h⟩
    · rintro (h | ⟨_, ha, h⟩)
      · cases h
      · cases ha
        exact h
  | error e' =>
    constructor
    · intro h
      cases h
      exact .inl rfl
    · rintro (h | ⟨_, ha, _⟩)
      · cases h
        rfl
      · cases ha

theorem map_eq_ok_iff {x : Except ε α} {f : α → β} {b : β} :
    f <$> x = .ok b ↔ ∃ a, x = .ok a ∧ f a = b := by
  cases x with
  | ok a =>
    constructor
    · intro h
      cases h
      exact ⟨a, rfl, rfl⟩
    · rintro ⟨_, ha, rfl⟩
      cases ha
      rfl
  | error e =>
    constructor
    · intro h
      cases h
    · rintro ⟨_, ha, _⟩
      cases ha

theorem map_eq_error_iff {x : Except ε α} {f : α → β} {e : ε} :
    f <$> x = .error e ↔ x = .error e := by
  cases x with
  | ok a =>
    constructor
    · exact nofun
    · exact nofun
  | error e' =>
    constructor
    · intro h
      cases h
      rfl
    · intro h
      cases h
      rfl

theorem toOption_eq_some {x : Except ε α} {a : α} (h : x.toOption = some a) : x = .ok a := by
  cases x with
  | ok b =>
    cases h
    rfl
  | error e => cases h

theorem mapError_eq_ok {ε' : Type} {x : Except ε α} {f : ε → ε'} {a : α}
    (h : x.mapError f = .ok a) : x = .ok a := by
  cases x with
  | ok b =>
    cases h
    rfl
  | error e => cases h

theorem mapError_eq_error {ε' : Type} {x : Except ε α} {f : ε → ε'} {e : ε'}
    (h : x.mapError f = .error e) : ∃ cause, x = .error cause ∧ f cause = e := by
  cases x with
  | ok a => cases h
  | error cause =>
    cases h
    exact ⟨cause, rfl, rfl⟩

/-- A list is read if every item of it is. -/
theorem mapM_eq_ok_iff (f : α → Except ε β) (as : List α) (bs : List β) :
    as.mapM f = .ok bs ↔ List.Forall₂ (fun a b => f a = .ok b) as bs := by
  induction as generalizing bs with
  | nil =>
    constructor
    · intro h
      cases h
      exact .nil
    · intro h
      cases h
      rfl
  | cons a as ih =>
    rw [List.mapM_cons]
    constructor
    · intro h
      obtain ⟨b, ha, h⟩ := bind_eq_ok_iff.mp h
      obtain ⟨more, has, h⟩ := bind_eq_ok_iff.mp h
      cases h
      exact .cons ha ((ih more).mp has)
    · intro h
      cases h with
      | cons ha has =>
        rw [ha, (ih _).mpr has]
        rfl

theorem exists_of_mapM_error {f : α → Except ε β} {as : List α} {e : ε}
    (h : as.mapM f = .error e) : ∃ a ∈ as, f a = .error e := by
  induction as with
  | nil => cases h
  | cons a rest ih =>
    rw [List.mapM_cons] at h
    rcases bind_eq_error_iff.mp h with ha | ⟨_, _, h⟩
    · exact ⟨a, List.mem_cons_self, ha⟩
    · rcases bind_eq_error_iff.mp h with hrest | ⟨_, _, h⟩
      · obtain ⟨b, hb, hfault⟩ := ih hrest
        exact ⟨b, List.mem_cons_of_mem a hb, hfault⟩
      · cases h

/-- What is written item by item is read back item by item. -/
theorem mapM_map {read : β → Except ε α} {write : α → β} {as : List α}
    (h : ∀ a ∈ as, read (write a) = .ok a) : (as.map write).mapM read = .ok as := by
  rw [mapM_eq_ok_iff]
  induction as with
  | nil => exact .nil
  | cons a rest ih =>
    exact .cons (h a (by simp)) (ih fun b hb => h b (List.mem_cons_of_mem a hb))

theorem exists_result_of_mapM_ok {f : α → Except ε β} {as : List α} {bs : List β}
    (h : as.mapM f = .ok bs) {a : α} (ha : a ∈ as) : ∃ b ∈ bs, f a = .ok b := by
  obtain ⟨i, hi, rfl⟩ := List.mem_iff_getElem.mp ha
  have hall := (mapM_eq_ok_iff f as bs).mp h
  have hi' : i < bs.length := by rw [← hall.length_eq]; exact hi
  exact ⟨bs[i], List.getElem_mem hi', hall.get hi hi'⟩

theorem exists_source_of_mapM_ok {f : α → Except ε β} {as : List α} {bs : List β}
    (h : as.mapM f = .ok bs) {b : β} (hb : b ∈ bs) : ∃ a ∈ as, f a = .ok b := by
  obtain ⟨i, hi, rfl⟩ := List.mem_iff_getElem.mp hb
  have hall := (mapM_eq_ok_iff f as bs).mp h
  have hi' : i < as.length := by rw [hall.length_eq]; exact hi
  exact ⟨as[i], List.getElem_mem hi', hall.get hi' hi⟩

theorem forall_of_mapM_ok {f : α → Except ε β} {P : β → Prop} (hf : ∀ a b, f a = .ok b → P b)
    {as : List α} {bs : List β} (h : as.mapM f = .ok bs) : ∀ b ∈ bs, P b := by
  intro b hb
  obtain ⟨a, _, ha⟩ := exists_source_of_mapM_ok h hb
  exact hf a b ha

/-! ### What is met first -/

/-- What a computation fails with, if it does. -/
def failures (x : Except ε α) : List ε :=
  match x with
  | .ok _ => []
  | .error e => [e]

theorem mem_failures {x : Except ε α} {e : ε} : e ∈ failures x ↔ x = .error e := by
  cases x with
  | ok a => exact ⟨nofun, nofun⟩
  | error e' =>
    constructor
    · intro h
      rw [List.mem_singleton.mp h]
    · intro h
      cases h
      exact List.mem_cons_self

theorem failures_map (f : α → β) (x : Except ε α) : failures (f <$> x) = failures x := by
  cases x <;> rfl

/-- A computation fails with the first of what is wrong, and does not if nothing is. -/
def StopsAt (x : Except ε α) (wrong : List ε) : Prop :=
  match x with
  | .ok _ => wrong = []
  | .error e => wrong.head? = some e

theorem stopsAt_failures (x : Except ε α) : StopsAt x (failures x) := by
  cases x <;> rfl

theorem StopsAt.error_iff {x : Except ε α} {wrong : List ε} (h : StopsAt x wrong) (e : ε) :
    x = .error e ↔ wrong.head? = some e := by
  cases x with
  | ok a =>
    obtain rfl : wrong = [] := h
    exact ⟨nofun, nofun⟩
  | error e' =>
    have hhead : wrong.head? = some e' := h
    rw [hhead]
    constructor
    · intro heq
      cases heq
      rfl
    · intro heq
      cases heq
      rfl

/-- What is wrong with the second step comes behind what is wrong with the first. -/
theorem StopsAt.bind {x : Except ε α} {next : α → Except ε β} {wrong more : List ε}
    (h : StopsAt x wrong) (hnext : ∀ a, x = .ok a → StopsAt (next a) more) :
    StopsAt (x >>= next) (wrong ++ more) := by
  cases x with
  | ok a =>
    obtain rfl : wrong = [] := h
    exact hnext a rfl
  | error e =>
    have hhead : wrong.head? = some e := h
    show (wrong ++ more).head? = some e
    rw [List.head?_append, hhead]
    rfl

theorem StopsAt.map {x : Except ε α} {wrong : List ε} (h : StopsAt x wrong) (f : α → β) :
    StopsAt (f <$> x) wrong := by
  cases x <;> exact h

theorem StopsAt.mapError {ε' : Type} {x : Except ε α} {wrong : List ε} (h : StopsAt x wrong)
    (f : ε → ε') : StopsAt (x.mapError f) (wrong.map f) := by
  cases x with
  | ok a =>
    obtain rfl : wrong = [] := h
    rfl
  | error e =>
    have hhead : wrong.head? = some e := h
    show (wrong.map f).head? = some (f e)
    rw [List.head?_map, hhead]
    rfl

theorem stopsAt_mapM {f : α → Except ε β} {wrong : α → List ε} {as : List α}
    (h : ∀ a ∈ as, StopsAt (f a) (wrong a)) : StopsAt (as.mapM f) (as.flatMap wrong) := by
  induction as with
  | nil => rfl
  | cons a rest ih =>
    rw [List.mapM_cons, List.flatMap_cons]
    refine (h a List.mem_cons_self).bind fun b _ => ?_
    exact (ih fun x hx => h x (List.mem_cons_of_mem a hx)).map (b :: ·)

end GameAtlas
