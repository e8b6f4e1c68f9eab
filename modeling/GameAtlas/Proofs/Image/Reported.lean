import Mathlib.Tactic
import GameAtlas.Proofs.Image.Patched
import GameAtlas.Proofs.Image.Route

/-!
Which faults of decoding are reported as failures. What a loaded schema says about an image either
fits it or is reported, with two exceptions: a source is asked for a number of bytes that it cannot
be asked for, or a size spells a constant.
-/

namespace GameAtlas.Image

open Schema (Attributes Field Game SizeError)
open Expression (Bindings)
open Yaml (Node)

/-- A failure is reported, with the place where it happened. All other faults escape. -/
def DecodeFault.IsReported : DecodeFault → Prop
  | .failure _ => True
  | _ => False

namespace DecodeFault

end DecodeFault

/-! ### Sources -/

/-- A read that fails is either refused, or too few bytes are left. -/
theorem read_error_cases [Host] {n : Int} {s : Source} {e : DecodeFault}
    (h : (Decoder.read n s).1 = .error e) :
    (∃ r, s.refusal? n = some r ∧ e = .refused r) ∨ s.refusal? n = none ∧ e.IsReported := by
  simp only [Decoder.read, Decoder.ofSource, Source.read] at h
  cases hrefusal : s.refusal? n with
  | some r =>
    simp only [hrefusal] at h
    cases h
    exact .inl ⟨r, rfl, rfl⟩
  | none =>
    simp only [hrefusal] at h
    refine .inr ⟨rfl, ?_⟩
    by_cases hsign : n < 0
    · simp only [hsign, if_true] at h
      cases h
    · simp only [hsign, if_false] at h
      by_cases hshort : (s.rest.take n.toNat).length < n.toNat
      · simp only [hshort, if_true] at h
        cases h
        trivial
      · simp only [hshort, if_false] at h
        cases h

theorem read_refused [Host] {n : Int} {s : Source} {r : Refusal} (h : s.refusal? n = some r) :
    (Decoder.read n s).1 = .error (.refused r) := by
  simp [Decoder.read, Decoder.ofSource, Source.read, h, DecodeFault.ofRead]

theorem readUntil_reported {ends : List UInt8} {s : Source} {e : DecodeFault}
    (h : (Decoder.readUntil ends s).1 = .error e) : e.IsReported := by
  simp only [Decoder.readUntil, Decoder.ofSource, Source.readUntil] at h
  cases hscan : Source.scan ends.reverse [] s.rest with
  | some found =>
    simp only [hscan] at h
    cases h
  | none =>
    simp only [hscan] at h
    cases h
    trivial

/-! ### Fields -/

/-- What is reached while a field is read lies within it. -/
theorem Enters.mem_children [Host] {f m : Field} {bindings inner : Bindings} {s t : Source}
    {names : List String} (h : Enters f bindings s names m inner t) : m ∈ f.children := by
  cases h with
  | member hform hsplit _ =>
    have hkind : f.kind ≠ .array := by
      intro harray
      simp [harray, Schema.Kind.form] at hform
    simp [Field.children_of_not_array hkind, hsplit]
  | element hform hitem _ _ _ =>
    simp [Field.children_of_array (kind_of_form_elements hform), hitem]

theorem Reaches.mem_walk [Host] {f g : Field} {bindings inner : Bindings} {s t : Source}
    {route : List String} (h : Reaches f bindings s route g inner t) : g ∈ f.walk := by
  induction h with
  | here => exact Field.self_mem_walk _
  | within henters _ ih => exact Field.mem_walk_of_child henters.mem_children ih

/-! ### Roots -/

section

variable [Host]

end

theorem buffered_of_takes {α : Type} {d : Decoder α} {P : List UInt8 → α → Prop} (h : d.Takes P)
    {s after : Source} {a : α} (hrun : d s = (.ok a, after)) : after.buffered = s.buffered := by
  obtain ⟨used, hrest, hgives, _⟩ := h s a after hrun
  have hafter := hrun.symm.trans (hgives s after.rest hrest)
  rw [(Prod.mk.inj hafter).2, Source.past]

theorem Series.buffered [Host] {item : Field} {run : List UInt8} {s after : Source}
    {items : List Value}
    (h : Series (decodeField item) run s items after) : after.buffered = s.buffered := by
  induction h with
  | nil => rfl
  | cons hv _ _ ih => exact ih.trans (buffered_of_takes (decodeField_takes item _) hv)

theorem Reaches.buffered [Host] {f g : Field} {bindings inner : Bindings} {s t : Source}
    {route : List String} (h : Reaches f bindings s route g inner t) :
    t.buffered = s.buffered := by
  induction h with
  | here => rfl
  | within henters _ ih =>
    refine ih.trans ?_
    cases henters with
    | @member _ before _ _ _ _ _ hparts =>
      have htakes := decodeMembers_takes before (fun m _ => decodeField_takes m) []
      exact buffered_of_takes htakes hparts
    | element _ _ _ hseries _ => exact hseries.buffered

end GameAtlas.Image
