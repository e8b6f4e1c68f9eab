import Mathlib.Tactic
import GameAtlas.Proofs.Image.RoundTrip

/-!
Decoding layer by layer: what stands before the address of a field, the field by the form of its
kind, and the elements of an array one behind the other.
-/

namespace GameAtlas.Image

open Schema (Field)
open Expression (Bindings)

/-! ### Fields -/

theorem kind_of_form_members {f : Field} (h : f.kind.form = .members) : f.kind = .struct := by
  revert h
  cases f.kind <;> decide

theorem kind_of_form_elements {g : Field} (h : g.kind.form = .elements) : g.kind = .array := by
  revert h
  cases g.kind <;> decide

/-- How a field is read, by the form of its kind, apart from that it is named in what goes wrong. -/
def content [Host] (f : Field) (bindings : Bindings) : Decoder Value :=
  match f.kind.form with
  | .members => do
    let parts ← decodeMembers f.members []
    return .members f (Value.encodeAll parts).length parts
  | .number => do
    let size ← Decoder.sizeOf f.toAttributes bindings
    let bytes ← Decoder.read size
    return .number f size (Value.numberOf bytes)
  | .raw => do
    let bytes ← Decoder.rawBytes f.toAttributes bindings
    return .raw f bytes.length bytes
  | .elements => do
    let total ← Decoder.sizeOf f.toAttributes bindings
    let items ← Decoder.elements (decodeItem f.itemType) total total 0 []
    return .elements f (Value.encodeAll items).length items

theorem decodeField_eq [Host] (f : Field) (bindings : Bindings) :
    decodeField f bindings = Decoder.within f.name (content f bindings) := by
  cases f
  rw [decodeField]
  rfl

/-- Reads what stands before the address of a field. -/
def seek [Host] (f : Field) : Decoder Unit :=
  match f.address with
  | some address => discard <| Decoder.within f.name (Decoder.read address)
  | none => pure ()

theorem decode_eq_seek [Host] (f : Field) (bindings : Bindings) :
    decode f bindings = seek f >>= fun _ => decodeField f bindings := by
  unfold decode seek
  cases f.address with
  | none => rfl
  | some address => rfl

/-! ### Elements -/

/-- Elements that are read one behind the other. None of them is empty, and each may speak of the
bytes of those before it, which are `run` at the start. -/
inductive Series (element : Bindings → Decoder Value) :
    List UInt8 → Source → List Value → Source → Prop where
  | nil {run : List UInt8} {s : Source} : Series element run s [] s
  | cons {run : List UInt8} {s middle after : Source} {v : Value} {rest : List Value} :
      element (Expression.bindBytes run) s = (.ok v, middle) → v.consumed ≠ 0 →
      Series element (run ++ v.encode) middle rest after → Series element run s (v :: rest) after

namespace Decoder

/-- Whether an element does not fit behind the bytes of those before it. -/
def Misfits (total before : Nat) (v : Value) : Prop :=
  v.consumed = 0 ∨ total < before + v.consumed

variable {element : Bindings → Decoder Value} {total fuel count : Nat} {run : List UInt8}
  {s after : Source} {items : List Value}

theorem consumed_of_takes {item : Field} {d : Decoder Value} (h : d.Takes (ReadsBack item))
    {v : Value} (hrun : d s = (.ok v, after)) : v.consumed = v.encode.length := by
  obtain ⟨_, _, _, _, hexact, _⟩ := h s v after hrun
  exact hexact.consumed

/-- Elements that are all read fill the array. -/
theorem elements_ok (item : Field)
    (helement : ∀ bindings, (element bindings).Takes (ReadsBack item))
    (hrun : run.length ≤ total) (hfuel : total ≤ run.length + fuel)
    (h : elements element total fuel count run s = (.ok items, after)) :
    Series element run s items after ∧ (run ++ Value.encodeAll items).length = total := by
  have hdone {run : List UInt8} {s : Source} {items : List Value} (hlength : run.length = total)
      (hpure : (pure [] : Decoder (List Value)) s = (.ok items, after)) :
      Series element run s items after ∧ (run ++ Value.encodeAll items).length = total := by
    cases hpure
    refine ⟨.nil, ?_⟩
    rw [Value.encodeAll, List.append_nil, hlength]
  induction fuel generalizing count run s items with
  | zero => exact hdone (by omega) h
  | succ fuel ih =>
    rw [elements] at h
    by_cases hroom : run.length < total
    · rw [if_pos hroom] at h
      obtain ⟨v, next, hv, h⟩ := bind_ok h
      have hv := within_ok hv
      have hcounts : v.consumed = v.encode.length := consumed_of_takes (helement _) hv
      by_cases hfit : Misfits total run.length v
      · rw [if_pos (by simpa [Misfits] using hfit)] at h
        cases h
      · rw [if_neg (by simpa [Misfits] using hfit)] at h
        obtain ⟨rest, last, hrest, hpure⟩ := bind_ok h
        cases hpure
        simp only [Misfits, not_or, not_lt] at hfit
        have hlength : (run ++ v.encode).length = run.length + v.consumed := by
          rw [List.length_append, hcounts]
        obtain ⟨hseries, hfilled⟩ := ih (by omega) (by omega) hrest
        refine ⟨.cons hv hfit.1 hseries, ?_⟩
        rw [Value.encodeAll, ← List.append_assoc]
        exact hfilled
    · rw [if_neg hroom] at h
      exact hdone (by omega) h

end Decoder

end GameAtlas.Image
