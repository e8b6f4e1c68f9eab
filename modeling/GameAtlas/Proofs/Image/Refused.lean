import Mathlib.Tactic
import GameAtlas.Proofs.Image.Reported

/-!
Which entries ask their source for a number of bytes that it refuses. The number is the address of
the entry or the size of a field that its decoding reaches. None is refused for which there is room.
-/

namespace GameAtlas.Image

open Schema (Field Game SizeError)
open Expression (Bindings)
open Yaml (Node)

/-! ### Sources -/

theorem read_refused_iff [Host] {n : Int} {s : Source} {r : Refusal} :
    (Decoder.read n s).1 = .error (.refused r) ↔ s.refusal? n = some r := by
  constructor
  · intro h
    rcases read_error_cases h with ⟨r', hr, heq⟩ | ⟨_, hreported⟩
    · cases heq
      exact hr
    · exact absurd hreported id
  · exact read_refused

/-- Only a negative number of bytes is refused as one. -/
theorem refusal_ne_negative [Host] {n : Int} {s : Source} (hn : 0 ≤ n) :
    s.refusal? n ≠ some .negative := by
  have hsign : ¬ n < -1 := by omega
  unfold Source.refusal? Source.bufferRefusal?
  rw [if_neg hsign]
  split_ifs <;> simp

/-- A number of bytes that a run can have and the host has room for. -/
def Fits [Host] (n : Int) : Prop := n ≤ Source.longestRun ∧ Host.hasRoom n = true

/-- Where there is room for a number of bytes, it is not refused. -/
theorem Fits.refusal [Host] {n : Int} {s : Source} (h : Fits n)
    (hn : 0 ≤ n) : s.refusal? n = none := by
  obtain ⟨hrun, hroom⟩ := h
  have hlimit : (Source.longestRun : Int) < Source.sizeLimit := by decide
  have hsize : ¬ ((Source.sizeLimit : Int) ≤ n ∨ n < -(Source.sizeLimit : Int)) := by omega
  have hsign : ¬ n < -1 := by omega
  simp [Source.refusal?, Source.bufferRefusal?, hsize, hsign, hroom, not_lt.mpr hrun]

/-! ### Fields -/

namespace DecodeFault

/-- A fault without a place is the same from the field around it. -/
theorem within_eq_iff {name : String} {e fault : DecodeFault} (h : ¬ fault.IsReported) :
    e.within name = fault ↔ e = fault := by
  cases e with
  | failure cause =>
    refine iff_of_false ?_ ?_
    · rintro rfl
      exact h trivial
    · rintro rfl
      exact h trivial
  | refused r => exact Iff.rfl
  | bare c => exact Iff.rfl
  | noItemType => exact Iff.rfl

theorem along_eq_iff {route : List String} {e fault : DecodeFault} (h : ¬ fault.IsReported) :
    e.along route = fault ↔ e = fault := by
  induction route with
  | nil => exact Iff.rfl
  | cons name route ih => exact (within_eq_iff h).trans ih

/-- A size that is not to be found is reported, or it spells a constant. -/
theorem ofSize_cases (e : SizeError) :
    (ofSize e).IsReported ∨ ∃ c, ofSize e = .bare c := by
  unfold ofSize
  cases e.bare? with
  | none => exact .inl trivial
  | some c => exact .inr ⟨c, rfl⟩

end DecodeFault

/-- A field is refused as many bytes as its size says. -/
theorem fails_refused_iff [Host] {g : Field} {bindings : Bindings} {t : Source} {r : Refusal} :
    Fails g bindings t (.refused r) ↔ ∃ n : Nat, UsesSize g ∧ g.kind.form ≠ .elements ∧
      g.resolvedSize bindings = .ok n ∧ t.refusal? n = some r := by
  constructor
  · generalize he : DecodeFault.refused r = e
    intro h
    cases h with
    | @size cause _ _ =>
      rcases DecodeFault.ofSize_cases cause with hreported | ⟨c, hc⟩
      · rw [← he] at hreported
        exact absurd hreported id
      · cases he.trans hc
    | @bytes n _ huses hform hsize hread =>
      rw [← he] at hread
      exact ⟨n, huses, hform, hsize, read_refused_iff.mp hread⟩
    | terminator _ _ hread =>
      rw [← he] at hread
      exact absurd (readUntil_reported hread) id
    | noItem _ _ _ _ => cases he
    | element _ _ _ _ _ _ _ => cases he
  · rintro ⟨n, huses, hform, hsize, hrefused⟩
    exact .bytes huses hform hsize (read_refused hrefused)

/-! ### Entries -/

variable [Host]

/-- An entry asks for a number of bytes that is refused: those in front of its address, or those of
a field that its decoding reaches. -/
inductive Refuses (f : Field) (bindings : Bindings) (s : Source) (r : Refusal) : Prop where
  | address {a : Int} : f.address = some a → s.refusal? a = some r → Refuses f bindings s r
  | within {g : Field} {inner : Bindings} {middle t : Source} {route : List String} {n : Nat} :
      seek f s = (.ok (), middle) → Reaches f bindings middle route g inner t →
      UsesSize g → g.kind.form ≠ .elements → g.resolvedSize inner = .ok n →
      t.refusal? n = some r → Refuses f bindings s r

theorem seek_error_iff {f : Field} {s : Source} {fault : DecodeFault} (h : ¬ fault.IsReported) :
    (seek f s).1 = .error fault ↔
      ∃ a, f.address = some a ∧ (Decoder.read a s).1 = .error fault := by
  unfold seek
  cases f.address with
  | none => exact iff_of_false nofun fun ⟨a, ha, _⟩ => nomatch ha
  | some a =>
    simp only [Decoder.discard_eq_bind, Decoder.bind_pure_error_iff, Decoder.within_error_iff,
      Option.some.injEq, exists_eq_left']
    constructor
    · rintro ⟨cause, hcause, heq⟩
      rw [← (DecodeFault.within_eq_iff h).mp heq.symm]
      exact hcause
    · intro hread
      exact ⟨fault, hread, ((DecodeFault.within_eq_iff h).mpr rfl).symm⟩

theorem decode_refused_iff {f : Field} {bindings : Bindings} {s : Source} {r : Refusal} :
    (decode f bindings s).1 = .error (.refused r) ↔ Refuses f bindings s r := by
  rw [decode_eq_seek, Decoder.bind_error_iff]
  constructor
  · rintro (hseek | ⟨_, middle, hseek, he⟩)
    · obtain ⟨a, ha, hread⟩ := (seek_error_iff id).mp hseek
      exact .address ha (read_refused_iff.mp hread)
    · obtain ⟨route, g, inner, t, cause, hreaches, hfails, heq⟩ :=
        (decodeField_error_iff f bindings middle _).mp he
      rw [(DecodeFault.along_eq_iff id).mp heq.symm] at hfails
      obtain ⟨n, huses, hform, hsize, hrefused⟩ := fails_refused_iff.mp hfails
      exact .within hseek hreaches huses hform hsize hrefused
  · intro h
    cases h with
    | address ha hrefused => exact .inl ((seek_error_iff id).mpr ⟨_, ha, read_refused hrefused⟩)
    | @within g inner middle t route n hseek hreaches huses hform hsize hrefused =>
      have hfails : Fails g inner t (.refused r) :=
        fails_refused_iff.mpr ⟨n, huses, hform, hsize, hrefused⟩
      refine .inr ⟨(), middle, hseek, (decodeField_error_iff f bindings middle _).mpr
        ⟨route, g, inner, t, _, hreaches, hfails, ((DecodeFault.along_eq_iff id).mpr rfl).symm⟩⟩

/-- An address and sizes that there is room for, whatever bytes stand before. -/
structure Roomy (f : Field) : Prop where
  address : ∀ a, f.address = some a → Fits a
  size : ∀ g ∈ f.walk, ∀ bindings n, g.resolvedSize bindings = .ok n → Fits n

theorem Roomy.not_refuses {f : Field} {bindings : Bindings} {s : Source} {r : Refusal}
    (h : Roomy f) (hsign : ∀ a, f.address = some a → 0 ≤ a) : ¬ Refuses f bindings s r := by
  intro hrefuses
  cases hrefuses with
  | address ha hrefused =>
    rw [(h.address _ ha).refusal (hsign _ ha)] at hrefused
    cases hrefused
  | @within g inner middle t route n _ hreaches _ _ hsize hrefused =>
    have hfits : Fits n := h.size g hreaches.mem_walk inner n hsize
    rw [hfits.refusal (by omega)] at hrefused
    cases hrefused

/-- The number that an entry is refused is not refused for being negative. -/
theorem Refuses.ne_negative {f : Field} {bindings : Bindings} {s : Source} {r : Refusal}
    (h : Refuses f bindings s r) (hsign : ∀ a, f.address = some a → 0 ≤ a) : r ≠ .negative := by
  rintro rfl
  cases h with
  | address ha hrefused => exact refusal_ne_negative (hsign _ ha) hrefused
  | within _ _ _ _ _ hrefused => exact refusal_ne_negative (by omega) hrefused

/-- A field that was read from a schema never lacks what to fill it with. -/
theorem not_fails_noItemType {g : Field} {bindings : Bindings} {t : Source}
    (hchecked : g.Checked) : ¬ Fails g bindings t .noItemType := by
  generalize he : DecodeFault.noItemType = e
  intro h
  cases h with
  | @size cause _ _ =>
    rcases DecodeFault.ofSize_cases cause with hreported | ⟨c, hc⟩
    · rw [← he] at hreported
      exact hreported
    · cases he.trans hc
  | bytes _ _ _ hread =>
    rw [← he] at hread
    rcases read_error_cases hread with ⟨r, _, hr⟩ | ⟨_, hreported⟩
    · cases hr
    · exact hreported
  | terminator _ _ hread =>
    rw [← he] at hread
    exact readUntil_reported hread
  | noItem hform hitem _ _ =>
    have hsome := hchecked.arrayItem (kind_of_form_elements hform)
    simp [hitem] at hsome
  | element _ _ _ _ _ _ _ => cases he

theorem decode_ne_noItemType {f : Field} {bindings : Bindings} {s : Source}
    (hchecked : ∀ g ∈ f.walk, g.Checked) : (decode f bindings s).1 ≠ .error .noItemType := by
  rw [decode_eq_seek]
  intro h
  rcases Decoder.bind_error_iff.mp h with hseek | ⟨_, middle, _, he⟩
  · obtain ⟨a, _, hread⟩ := (seek_error_iff id).mp hseek
    rcases read_error_cases hread with ⟨r, _, hr⟩ | ⟨_, hreported⟩
    · cases hr
    · exact hreported
  · obtain ⟨route, g, inner, t, cause, hreaches, hfails, heq⟩ :=
      (decodeField_error_iff f bindings middle _).mp he
    rw [(DecodeFault.along_eq_iff id).mp heq.symm] at hfails
    exact not_fails_noItemType (hchecked g hreaches.mem_walk) hfails

/-- Why an entry of a loaded game cannot be read: a reported failure, a size that spells a constant,
or a number of bytes that is refused, and not for being negative. -/
theorem decode_entry_cases {metadata definitions : Option Node} {g : Game} {name : String}
    {f : Field} (hload : Game.ofNodes metadata definitions = .ok g)
    (hentry : g.entry? name = some f) {s : Source} {fault : DecodeFault}
    (h : (decode f [] s).1 = .error fault) :
    fault.IsReported ∨ (∃ c, fault = .bare c) ∨
      ∃ r, fault = .refused r ∧ r ≠ .negative ∧ Refuses f [] s r := by
  cases fault with
  | failure e => exact .inl trivial
  | bare c => exact .inr (.inl ⟨c, rfl⟩)
  | refused r =>
    have hrefuses := decode_refused_iff.mp h
    have hsign : r ≠ .negative :=
      hrefuses.ne_negative fun a ha => entry_address_nonneg hload hentry ha
    exact .inr (.inr ⟨r, rfl, hsign, hrefuses⟩)
  | noItemType =>
    obtain ⟨_, hentries⟩ := Game.placed_of_ofNodes hload
    obtain ⟨hsound, _⟩ := hentries f (List.mem_of_find?_eq_some hentry)
    exact absurd h (decode_ne_noItemType hsound.of_mem_walk)

end GameAtlas.Image
