import Mathlib.Tactic
import GameAtlas.Proofs.Image.Refused

/-!
The place that a failure names. A field that fails says nothing of where it is; the fields around it
put their names in front, the innermost first, and an array puts in front which of its elements was
being read. So the place is the route to the field that fails, without the fields that have no name.
-/

namespace GameAtlas.Image

open Schema (Field)
open Expression (Bindings)

namespace DecodeFault

/-- A failure that has no place yet. -/
def ofCause (cause : DecodeCause) : DecodeFault := .failure { cause := cause }

theorem failure_within (name : String) (e : Located DecodeCause) :
    (failure e).within name =
      .failure { e with path := [name].filter (fun part => part ≠ "") ++ e.path } := by
  rw [within, Located.within]
  by_cases hname : name = "" <;> simp [hname]

theorem failure_along (route : List String) (e : Located DecodeCause) :
    (failure e).along route =
      .failure { e with path := route.filter (fun part => part ≠ "") ++ e.path } := by
  induction route with
  | nil => rfl
  | cons name route ih =>
    have hcons : (failure e).along (name :: route) = ((failure e).along route).within name := rfl
    rw [hcons, ih, failure_within, ← List.append_assoc, ← List.filter_append, List.singleton_append]

/-- Only a failure is a failure from the start of a route. -/
theorem along_eq_failure_iff {route : List String} {fault : DecodeFault}
    {e : Located DecodeCause} :
    fault.along route = .failure e ↔
      ∃ path, fault = .failure { e with path := path } ∧
        e.path = route.filter (fun part => part ≠ "") ++ path := by
  have hother (hfault : ¬ fault.IsReported) : fault.along route ≠ .failure e := by
    rw [(along_eq_iff hfault).mpr rfl]
    rintro rfl
    exact hfault trivial
  cases fault with
  | failure own =>
    rw [failure_along]
    constructor
    · intro h
      cases h
      exact ⟨own.path, rfl, rfl⟩
    · rintro ⟨path, hown, hpath⟩
      cases hown
      rw [← hpath]
  | refused r => exact iff_of_false (hother id) nofun
  | bare c => exact iff_of_false (hother id) nofun
  | noItemType => exact iff_of_false (hother id) nofun

/-! ### Causes -/

theorem path_of_ofSource {α : Type} {call : Source → Except ReadFault α × Source} {s : Source}
    {e : Located DecodeCause} (h : (Decoder.ofSource call s).1 = .error (.failure e)) :
    e.path = [] := by
  unfold Decoder.ofSource at h
  split at h
  · cases h
  · next fault after _ =>
    cases fault with
    | pastEnd p =>
      cases h
      rfl
    | refused r => cases h

end DecodeFault

/-- What goes wrong with a field itself says nothing of its place. -/
theorem Fails.path_eq_nil [Host] {g : Field} {inner : Bindings} {t : Source}
    {e : Located DecodeCause}
    (h : Fails g inner t (.failure e)) : e.path = [] := by
  generalize hfault : DecodeFault.failure e = fault at h
  cases h with
  | @size cause _ _ =>
    unfold DecodeFault.ofSize at hfault
    split at hfault
    · cases hfault
    · cases hfault
      rfl
  | bytes _ _ _ hread =>
    rw [← hfault] at hread
    exact DecodeFault.path_of_ofSource hread
  | terminator _ _ hread =>
    rw [← hfault] at hread
    exact DecodeFault.path_of_ofSource hread
  | noItem _ _ _ _ => cases hfault
  | element _ _ _ _ _ _ _ =>
    cases hfault
    rfl

/-- What stops a decoding: what stands before the address of the field is not to be had, or a field
fails that the decoding reaches behind it. -/
inductive FailsOn [Host] (f : Field) (bindings : Bindings) (s : Source) :
    List String → DecodeCause → Prop where
  | address {a : Int} {cause : DecodeCause} :
      f.address = some a → (Decoder.read a s).1 = .error (.ofCause cause) →
      FailsOn f bindings s [f.name] cause
  | field {g : Field} {inner : Bindings} {middle t : Source} {route : List String}
      {cause : DecodeCause} :
      seek f s = (.ok (), middle) → Reaches f bindings middle route g inner t →
      Fails g inner t (.ofCause cause) → FailsOn f bindings s route cause

theorem seek_failure_iff [Host] {f : Field} {s : Source} {e : Located DecodeCause} :
    (seek f s).1 = .error (.failure e) ↔
      ∃ a, f.address = some a ∧ (Decoder.read a s).1 = .error (.ofCause e.cause) ∧
        e.path = [f.name].filter (fun part => part ≠ "") := by
  unfold seek
  cases f.address with
  | none => exact iff_of_false nofun fun ⟨a, ha, _⟩ => nomatch ha
  | some a =>
    simp only [Decoder.discard_eq_bind, Decoder.bind_pure_error_iff, Decoder.within_error_iff,
      Option.some.injEq, exists_eq_left']
    constructor
    · rintro ⟨fault, hread, hfault⟩
      have halong : fault.along [f.name] = .failure e := hfault.symm
      obtain ⟨path, rfl, hpath⟩ := DecodeFault.along_eq_failure_iff.mp halong
      have hnil : path = [] := DecodeFault.path_of_ofSource hread
      subst hnil
      exact ⟨hread, by rw [hpath, List.append_nil]⟩
    · rintro ⟨hread, hpath⟩
      refine ⟨_, hread, ?_⟩
      rw [DecodeFault.ofCause, DecodeFault.failure_within, List.append_nil, ← hpath]

/-- Decoding fails exactly where what stands before the address is not to be had or a field that it
reaches fails, when everything before was read; and the place that the failure names is the route
from the outermost field to that one: the names that are not empty, in order, and behind each array
on the way the number of its elements that were read. -/
theorem decode_failure_iff [Host] (f : Field) (bindings : Bindings) (s : Source)
    (e : Located DecodeCause) :
    (decode f bindings s).1 = .error (.failure e) ↔
      ∃ route, FailsOn f bindings s route e.cause ∧
        e.path = route.filter fun part => part ≠ "" := by
  rw [decode_eq_seek, Decoder.bind_error_iff]
  constructor
  · rintro (hseek | ⟨_, middle, hseek, he⟩)
    · obtain ⟨a, ha, hread, hpath⟩ := seek_failure_iff.mp hseek
      exact ⟨[f.name], .address ha hread, hpath⟩
    · obtain ⟨route, g, inner, t, fault, hreaches, hfails, hfault⟩ :=
        (decodeField_error_iff f bindings middle _).mp he
      obtain ⟨path, rfl, hpath⟩ := DecodeFault.along_eq_failure_iff.mp hfault.symm
      have hnil : path = [] := hfails.path_eq_nil
      subst hnil
      exact ⟨route, .field hseek hreaches hfails, by rw [hpath, List.append_nil]⟩
  · rintro ⟨route, hfails, hpath⟩
    cases hfails with
    | address ha hread => exact .inl (seek_failure_iff.mpr ⟨_, ha, hread, hpath⟩)
    | @field g inner middle t _ _ hseek hreaches hfails =>
      refine .inr ⟨(), middle, hseek, (decodeField_error_iff f bindings middle _).mpr
        ⟨route, g, inner, t, _, hreaches, hfails, ?_⟩⟩
      rw [DecodeFault.ofCause, DecodeFault.failure_along, List.append_nil, ← hpath]

/-- In the second element of an array without a name, a member is longer than what is left. -/
example :
    (match (decode
        { kind := .struct, name := "STATS"
          members := [{ kind := .array, size := some "4"
                        itemType := some { kind := .struct, name := "ITEM"
                                           members := [{ kind := .integer, name := "LEVEL"
                                                         size := some "1" },
                                                       { kind := .undefined, name := "MORE"
                                                         size := some "ARG_00" }] } }] }
        [] (.ofBytes [1, 7, 2, 8])).1 with
      | .error (.failure e) => e.path
      | _ => []) = ["STATS", "[1]", "ITEM", "MORE"] := by
  decide +kernel

end GameAtlas.Image
