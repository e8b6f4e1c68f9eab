import Mathlib.Tactic
import GameAtlas.Proofs.Schema.Failures
import GameAtlas.Schema.Document

/-!
Where the faults come from that nothing guards when a schema is loaded. A conversion that fails
otherwise than by a misfit is spoiled by what lies in one of the documents, whether it is asked for
by the metadata, by a table or by an entry.
-/

namespace GameAtlas.Script.Loading

open Yaml (Node ConversionFault)

variable {n : Node} {fault : ConversionFault}

theorem ByteLeaks.spoils [Host] (h : ByteLeaks n fault) (hfault : ∀ m, fault ≠ .misfit m) :
    n.Spoils fault := by
  cases h with
  | value hinteger => exact Node.spoils_of_integer hinteger hfault
  | number => exact absurd rfl (hfault _)

theorem Leaks.spoils [Host] {values : List (Node × Node) → ConversionFault → Prop}
    (hvalues : ∀ tag pairs flow share fault, values pairs fault →
      (∀ m, fault ≠ .misfit m) → (Node.mapping tag pairs flow share).Spoils fault)
    (h : Leaks values n fault) (hfault : ∀ m, fault ≠ .misfit m) : n.Spoils fault := by
  induction h with
  | value hvalue => exact hvalues _ _ _ _ _ hvalue hfault
  | byte hp _ hbyte => exact (hbyte.spoils hfault).within (Node.contains_key hp)
  | deeper hp _ _ ih => exact (ih hfault).within (Node.contains_value hp)

section Values

variable {tag : String} {pairs : List (Node × Node)} {flow : Bool} {share : Option Nat}

theorem SizeLeaks.spoils [Host] (h : SizeLeaks pairs fault) (hfault : ∀ m, fault ≠ .misfit m) :
    (Node.mapping tag pairs flow share).Spoils fault := by
  obtain ⟨v, _, htext, hplace⟩ := h
  have hspoils : v.Spoils fault := Node.spoils_of_valueText htext hfault
  rcases hplace with ⟨key, _, hget⟩ | ⟨k, hpair, _⟩
  · exact hspoils.within (Node.contains_get? hget)
  · exact hspoils.within (Node.contains_value hpair)

/-- A text that is none is a misfit. -/
theorem TextLeaks.misfit (h : TextLeaks pairs fault) : ∃ m, fault = .misfit m := by
  obtain ⟨p, _, _, htext⟩ := h
  exact Node.scalarText_misfit htext

end Values

theorem PatternLeaks.spoils [Host] (h : PatternLeaks n fault) (hfault : ∀ m, fault ≠ .misfit m) :
    n.Spoils fault := by
  cases h with
  | @byte _ _ _ _ _ n item hget hitem _ hbyte =>
    refine Node.Spoils.within ?_ (Node.contains_get? hget)
    cases n with
    | sequence => exact (hbyte.spoils hfault).within (Node.contains_child hitem)
    | scalar =>
      rw [List.mem_singleton.mp hitem] at hbyte
      exact hbyte.spoils hfault
    | mapping =>
      rw [List.mem_singleton.mp hitem] at hbyte
      exact hbyte.spoils hfault
  | text _ _ htext =>
    obtain ⟨m, hm⟩ := Node.scalarText_misfit htext
    exact absurd hm (hfault m)

theorem TableLeaks.spoils [Host] (h : TableLeaks n fault) (hfault : ∀ m, fault ≠ .misfit m) :
    n.Spoils fault := by
  cases h with
  | sizes hget hleaks =>
    have hspoils := hleaks.spoils (fun _ _ _ _ _ h => h.spoils) hfault
    exact hspoils.within (Node.contains_get? hget)
  | texts hget hleaks =>
    refine (hleaks.spoils (fun _ _ _ _ _ h hfault => ?_) hfault).within (Node.contains_get? hget)
    obtain ⟨m, hm⟩ := h.misfit
    exact absurd hm (hfault m)
  | pattern hitem hleaks => exact (hleaks.spoils hfault).within (Node.contains_child hitem)

end GameAtlas.Script.Loading

namespace GameAtlas.Schema

open Yaml (Node ConversionFault)

variable {fault : ConversionFault} {metadata definitions : Option Node}

namespace Metadata

theorem value_of_keysOf {pairs : List (Node × Node)} {key : String} {v : Node}
    (h : Keyed.get? key (keysOf pairs) = some v) : ∃ p ∈ pairs, p.2 = v := by
  obtain ⟨p, hp, heq⟩ := List.mem_map.mp (Keyed.of_mem_ofPairs (Keyed.mem_of_get? h))
  exact ⟨p, hp, congrArg Prod.snd heq⟩

theorem LeaksIn.spoils [Host] (h : LeaksIn metadata fault) (hfault : ∀ m, fault ≠ .misfit m) :
    ∃ n, metadata = some n ∧ n.Spoils fault := by
  obtain ⟨tag, pairs, flow, share, rfl, hleaks⟩ := h
  refine ⟨_, rfl, ?_⟩
  have hbelow {key : String} {v : Node} (hget : Keyed.get? key (keysOf pairs) = some v)
      (hv : v.Spoils fault) : (Node.mapping tag pairs flow share).Spoils fault := by
    obtain ⟨p, hp, rfl⟩ := value_of_keysOf hget
    exact hv.within (Node.contains_value hp)
  cases hleaks with
  | text _ hget _ htext => exact hbelow hget (Node.spoils_of_valueText htext hfault)
  | setting hget hp htext =>
    exact hbelow hget ((Node.spoils_of_valueText htext hfault).within (Node.contains_value hp))
  | table hget hp hleaks =>
    exact hbelow hget ((hleaks.spoils hfault).within (Node.contains_value hp))

end Metadata

namespace Game

open Metadata

theorem spoils_of_ofMetadata [Host] (h : ofMetadata metadata = .error (.field (.conversion fault)))
    (hfault : ∀ m, fault ≠ .misfit m) : ∃ n, metadata = some n ∧ n.Spoils fault := by
  have hhead := ((stopsAt_ofMetadata metadata).error_iff _).mp h
  obtain ⟨found, heq, hleaks⟩ :=
    (tells_faults metadata (unguarded fault) rfl).mp (List.mem_of_mem_head? hhead)
  cases heq
  exact hleaks.spoils hfault

theorem spoils_of_ofNodes [Host]
    (h : ofNodes metadata definitions = .error (.field (.conversion fault)))
    (hfault : ∀ m, fault ≠ .misfit m) :
    ∃ n, (metadata = some n ∨ definitions = some n) ∧ n.Spoils fault := by
  rcases bind_eq_error_iff.mp h with hmetadata | ⟨game, _, h⟩
  · obtain ⟨n, hn, hspoils⟩ := spoils_of_ofMetadata hmetadata hfault
    exact ⟨n, .inl hn, hspoils⟩
  · split at h
    · cases h
    · split at h <;> cases h
    · rcases bind_eq_error_iff.mp h with hentries | ⟨fs, _, h⟩
      · obtain ⟨found, hfound, heq⟩ := mapError_eq_error hentries
        cases heq
        obtain ⟨p, hp, hupsets⟩ := Field.upsets_of_entriesOf hfound
        cases hupsets with
        | value hspoils => exact ⟨_, .inr rfl, hspoils.within (Node.contains_value hp)⟩
      · cases h
    · cases h

theorem ofNodes_ne_unreadable [Host] {f : Yaml.Fault} :
    ofNodes metadata definitions ≠ .error (.unreadable f) := by
  intro h
  rcases bind_eq_error_iff.mp h with hmetadata | ⟨game, _, h⟩
  · have hhead := ((stopsAt_ofMetadata metadata).error_iff _).mp hmetadata
    obtain ⟨found, heq, _⟩ := (tells_faults metadata _ rfl).mp (List.mem_of_mem_head? hhead)
    cases heq
  · split at h
    · cases h
    · split at h <;> cases h
    · rcases bind_eq_error_iff.mp h with hentries | ⟨fs, _, h⟩
      · obtain ⟨found, _, heq⟩ := mapError_eq_error hentries
        cases heq
      · cases h
    · cases h

theorem documents_error {stream : Yaml.Stream} {label : String} {e : LoadFault}
    (h : documents stream label = .error e) :
    e.isStructural = true ∨ ∃ f, e = .unreadable f ∧ Yaml.composeAll stream = .error f := by
  unfold documents at h
  split at h
  · cases h
  · cases h
    exact .inl rfl
  · next f _ hcompose =>
    cases h
    exact .inr ⟨f, rfl, hcompose⟩

theorem documents_ok {stream : Yaml.Stream} {label : String} {ns : List Node}
    (h : documents stream label = .ok ns) : Yaml.composeAll stream = .ok ns := by
  unfold documents at h
  split at h
  · next hcompose =>
    cases h
    exact hcompose
  · cases h
  · cases h

theorem exists_nodes_of_ofStream [Host] {stream : Yaml.Stream} {g : Game}
    (h : ofStream stream = .ok g) :
    ∃ metadata definitions, ofNodes metadata definitions = .ok g := by
  obtain ⟨ns, _, h⟩ := bind_eq_ok_iff.mp h
  split at h
  · exact ⟨_, _, h⟩
  · cases h
  · cases h

/-- A conversion that nothing guards is spoiled by what lies in one of the documents. -/
theorem spoils_of_ofStream [Host] {stream : Yaml.Stream}
    (h : ofStream stream = .error (.field (.conversion fault))) (hfault : ∀ m, fault ≠ .misfit m) :
    ∃ ns, Yaml.composeAll stream = .ok ns ∧ ∃ n ∈ ns, n.Spoils fault := by
  rcases bind_eq_error_iff.mp h with hdocuments | ⟨ns, hns, h⟩
  · rcases documents_error hdocuments with hstructural | ⟨f, heq, _⟩
    · cases hstructural
    · cases heq
  · refine ⟨ns, documents_ok hns, ?_⟩
    split at h
    · obtain ⟨n, hn | hn, hspoils⟩ := spoils_of_ofNodes h hfault
      · cases hn
        exact ⟨_, by simp, hspoils⟩
      · cases hn
        exact ⟨_, by simp, hspoils⟩
    · cases h
    · cases h

/-- Characters that cannot be read are met where documents are composed. -/
theorem composeAll_of_unreadable [Host] {stream : Yaml.Stream} {f : Yaml.Fault}
    (h : ofStream stream = .error (.unreadable f)) : Yaml.composeAll stream = .error f := by
  rcases bind_eq_error_iff.mp h with hdocuments | ⟨ns, _, h⟩
  · rcases documents_error hdocuments with hstructural | ⟨f', heq, hcompose⟩
    · cases hstructural
    · cases heq
      exact hcompose
  · split at h
    · exact absurd h ofNodes_ne_unreadable
    · cases h
    · cases h

end Game

end GameAtlas.Schema
