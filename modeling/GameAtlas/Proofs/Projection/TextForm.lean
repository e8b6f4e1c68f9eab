import Mathlib.Tactic
import GameAtlas.Projection.Rendering
import GameAtlas.Proofs.Data.Outcome
import GameAtlas.Proofs.Image.Layers

/-!
Which values have no text form. The form of a decoded value is that of its kind, so that its kind
alone decides it: scripts and integers have one. All other ways of showing a value are open to every
value, though they may fail.
-/

namespace GameAtlas.Image

open Schema (Field Kind)
open Expression (Bindings)

/-! ### Forms of values -/

namespace Value

/-- The form that a value has. -/
def form : Value → Kind.Form
  | .number .. => .number
  | .raw .. => .raw
  | .elements .. => .elements
  | .members .. => .members

/-- A value has the form of its kind. -/
def Formed (v : Value) : Prop := v.kind.form = v.form

end Value

theorem content_formed [Host] {f : Field} {bindings : Bindings} {s after : Source} {v : Value}
    (h : content f bindings s = (.ok v, after)) : v.Formed := by
  unfold content at h
  cases hform : f.kind.form with
  | members =>
    rw [hform] at h
    obtain ⟨parts, _, _, hpure⟩ := Decoder.bind_ok h
    cases hpure
    exact hform
  | number =>
    rw [hform] at h
    obtain ⟨size, _, _, h⟩ := Decoder.bind_ok h
    obtain ⟨bytes, _, _, hpure⟩ := Decoder.bind_ok h
    cases hpure
    exact hform
  | raw =>
    rw [hform] at h
    obtain ⟨bytes, _, _, hpure⟩ := Decoder.bind_ok h
    cases hpure
    exact hform
  | elements =>
    rw [hform] at h
    obtain ⟨total, _, _, h⟩ := Decoder.bind_ok h
    obtain ⟨items, _, _, hpure⟩ := Decoder.bind_ok h
    cases hpure
    exact hform

theorem decodeField_formed [Host] {f : Field} {bindings : Bindings} {s after : Source} {v : Value}
    (h : decodeField f bindings s = (.ok v, after)) : v.Formed := by
  rw [decodeField_eq] at h
  exact content_formed (Decoder.within_ok h)

theorem decodeFile_formed [Host] {image : List UInt8} {f : Field} {bindings : Bindings} {v : Value}
    (h : decodeFile image f bindings = .ok v) : v.Formed := by
  rw [decodeFile, decode_eq_seek] at h
  obtain ⟨_, _, _, hfield⟩ := Decoder.bind_ok (Prod.ext h rfl)
  exact decodeField_formed hfield

end GameAtlas.Image

namespace GameAtlas.Projection

open Image (Value)
open Schema (Field Game Kind)

/-! ### Faults that speak of texts -/

/-- Whatever goes wrong, it is not that a text is asked for where there is none. -/
def NeedsNoText {α : Type} (x : Except Fault α) : Prop := ∀ k, x ≠ .error (.noText k)

section Steps

variable {α β : Type}

theorem needsNoText_ok (a : α) : NeedsNoText (.ok a) := nofun

theorem NeedsNoText.bind {x : Except Fault α} {next : α → Except Fault β} (h : NeedsNoText x)
    (hnext : ∀ a, NeedsNoText (next a)) : NeedsNoText (x >>= next) := by
  intro k hk
  rcases bind_eq_error_iff.mp hk with hx | ⟨a, _, hmore⟩
  · exact h k hx
  · exact hnext a k hmore

theorem NeedsNoText.map {x : Except Fault α} (h : NeedsNoText x) (f : α → β) :
    NeedsNoText (x.map f) := by
  intro k hk
  cases x with
  | ok a => cases hk
  | error e =>
    cases hk
    exact h k rfl

end Steps

variable {game : Option Game} {form : ColorForm}

theorem scriptText_needsNoText [Host] (f : Field) (bytes : List UInt8) :
    NeedsNoText (scriptText game f bytes) := by
  intro k hk
  unfold scriptText at hk
  dsimp only at hk
  split at hk
  · split at hk <;> cases hk
  · split at hk <;> cases hk

theorem rawDoc_needsNoText [Host] (f : Field) (bytes : List UInt8) :
    NeedsNoText (rawDoc game form f bytes) := by
  unfold rawDoc
  split
  · exact (scriptText_needsNoText f bytes).map Doc.text
  · split
    · exact needsNoText_ok _
    · exact nofun
  · split
    · exact needsNoText_ok _
    · exact nofun
  · exact needsNoText_ok _

theorem numberText_needsNoText [Host] (n base : Int) : NeedsNoText (numberText n base) := by
  unfold numberText
  split
  · exact nofun
  · exact needsNoText_ok _

theorem Doc.written_needsNoText [Host] (write : Doc → String) (d : Doc) :
    NeedsNoText (d.written write) := by
  unfold written
  split
  · exact nofun
  · exact needsNoText_ok _

mutual

theorem document_needsNoText [Host] (v : Value) : NeedsNoText (document game form v) := by
  cases v with
  | number f width n => exact needsNoText_ok _
  | raw f consumed bytes => exact rawDoc_needsNoText f bytes
  | elements f consumed items =>
    exact (documents_needsNoText items).bind fun ds => needsNoText_ok _
  | members f consumed parts =>
    exact (memberDocs_needsNoText [] parts).bind fun ds => needsNoText_ok _
termination_by structural v

theorem documents_needsNoText [Host] (vs : List Value) : NeedsNoText (documents game form vs) := by
  cases vs with
  | nil => exact needsNoText_ok _
  | cons v rest =>
    exact (document_needsNoText v).bind fun d =>
      (documents_needsNoText rest).bind fun ds => needsNoText_ok _
termination_by structural vs

theorem memberDocs_needsNoText [Host] (seen : List String) (vs : List Value) :
    NeedsNoText (memberDocs game form seen vs) := by
  cases vs with
  | nil => exact needsNoText_ok _
  | cons v rest =>
    rw [memberDocs]
    split
    · exact memberDocs_needsNoText seen rest
    · exact (document_needsNoText v).bind fun d =>
        (memberDocs_needsNoText (v.name :: seen) rest).bind fun ds => needsNoText_ok _
termination_by structural vs

end

/-! ### Kinds without a text -/

theorem toText_noText_iff [Host] {v : Value} (hv : v.Formed) :
    (∃ k, toText game v = .error (.noText k)) ↔ v.kind ≠ .script ∧ v.kind ≠ .integer := by
  have hkind {k : Kind} (h : k.form ≠ v.form) : v.kind ≠ k := by
    rintro rfl
    exact h hv
  cases v with
  | number f width n =>
    rw [toText]
    by_cases hinteger : f.kind = .integer
    · rw [if_pos hinteger]
      exact iff_of_false (fun ⟨k, hk⟩ => numberText_needsNoText _ _ k hk) fun h => h.2 hinteger
    · rw [if_neg hinteger]
      exact iff_of_true ⟨_, rfl⟩ ⟨hkind nofun, hinteger⟩
  | raw f consumed bytes =>
    rw [toText]
    by_cases hscript : f.kind = .script
    · rw [if_pos hscript]
      exact iff_of_false (fun ⟨k, hk⟩ => scriptText_needsNoText f bytes k hk) fun h => h.1 hscript
    · rw [if_neg hscript]
      exact iff_of_true ⟨_, rfl⟩ ⟨hscript, hkind nofun⟩
  | elements f consumed items => exact iff_of_true ⟨_, rfl⟩ ⟨hkind nofun, hkind nofun⟩
  | members f consumed parts => exact iff_of_true ⟨_, rfl⟩ ⟨hkind nofun, hkind nofun⟩

/-- A rendering fails for want of a text exactly if a text is asked for, and the value is of a kind
that has none. -/
theorem render_noText_iff [Host] {v : Value} (hv : v.Formed) {format : Format} :
    (∃ k, render game v format = .error (.noText k)) ↔
      format = .text ∧ v.kind ≠ .script ∧ v.kind ≠ .integer := by
  cases format with
  | yaml =>
    have hdocument : NeedsNoText (render game v .yaml) :=
      (document_needsNoText v).bind (Doc.written_needsNoText _)
    exact iff_of_false (fun ⟨k, hk⟩ => hdocument k hk) nofun
  | json =>
    have hdocument : NeedsNoText (render game v .json) :=
      (document_needsNoText v).bind (Doc.written_needsNoText _)
    exact iff_of_false (fun ⟨k, hk⟩ => hdocument k hk) nofun
  | text =>
    rw [render, toText_noText_iff hv]
    exact (and_iff_right rfl).symm
  | hex => exact iff_of_false nofun nofun

end GameAtlas.Projection
