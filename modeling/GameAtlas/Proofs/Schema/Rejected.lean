import Mathlib.Tactic
import GameAtlas.Proofs.Schema.Absorbed

/-!
What rejected keys leave behind. A key that is unknown, that means nothing for the kind, or that has
a value that does not fit, leaves its issue and nothing else, but for one: label states are taken
one by one, so that those before the first that does not fit stay in the field.
-/

namespace GameAtlas.Schema

open Yaml (Node)

/-- A pair of a description is rejected for a kind, which an issue says. -/
inductive Rejects [Host] (kind : Kind) : String × Node → Issue → Prop where
  /-- The key is unknown. -/
  | unknown {text : String} {n : Node} : Key.ofText? text = none →
      Rejects kind (text, n)
        (.incomplete s!"Unknown key '{text}'" "Remove or correct the key")
  /-- The kind has no use for the key. -/
  | meaningless {text : String} {n : Node} {key : Key} : Key.ofText? text = some key →
      key ≠ .type → kind.admits key = false → Rejects kind (text, n) (Field.meaningless key kind)
  /-- What stands under the key does not fit. -/
  | invalid {text : String} {n : Node} {key : Key} {c : Complaint} :
      Key.ofText? text = some key → kind.admits key = true →
      (Field.set { kind := kind } key (Field.partOf text n)).2 = some (.complaint c) →
      Rejects kind (text, n)
        (.severe s!"Invalid {key.text}: {c.message}" s!"Fix the {key.text} value")

/-- Label states of which the first can be read. -/
def LeavesTrace [Host] (kind : Kind) (p : String × Node) : Prop :=
  kind = .assembly ∧ p.1 = Key.labelStates.text ∧
    ∃ tag first rest flow share state, p.2 = .sequence tag (first :: rest) flow share ∧
      Reading.labelState first = .ok state

variable {kind : Kind} {p : String × Node} {i : Issue}

theorem Rejects.findings [Host] (h : Rejects kind p i) :
    Field.findings kind p = [i] ∧ Field.fault? kind p = none := by
  cases h with
  | unknown hkey => exact ⟨Field.findings_unknown kind hkey, Field.fault?_unknown kind hkey⟩
  | meaningless hkey htype huse =>
    rw [Field.findings_known kind hkey htype, Field.fault?_known kind hkey, huse]
    exact ⟨rfl, rfl⟩
  | @invalid text n key c hkey huse hset =>
    have htype : key ≠ .type := by
      rintro rfl
      cases (Field.not_admits_type kind).symm.trans huse
    rw [Field.findings_known kind hkey htype, Field.fault?_known kind hkey, huse, hset]
    exact ⟨rfl, rfl⟩

namespace Field

variable {f : Field} {nodes : Keyed String Node} {issues : List Issue} {key : Key} {n : Node}
  {obstacle : Obstacle}

/-! ### What failing leaves -/

theorem take_of_obstacle {α : Type} {reading : Reading α} {update : α → Field}
    (h : (f.take reading update).2 = some obstacle) : (f.take reading update).1 = f := by
  cases reading with
  | ok a => cases h
  | error o => rfl

section

variable [Host]

/-- A value that is not taken changes nothing, unless it is a sequence of label states. -/
theorem setValue_of_obstacle (h : (f.setValue key n).2 = some obstacle)
    (hkey : key ≠ .labelStates) : (f.setValue key n).1 = f := by
  cases key with
  | base =>
    rw [setValue] at h ⊢
    by_cases hkind : f.kind = .pointer
    · rw [if_pos hkind] at h ⊢
      exact take_of_obstacle h
    · rw [if_neg hkind] at h ⊢
      exact take_of_obstacle h
  | labelStates => exact absurd rfl hkey
  | type | entries | itemType => rfl
  | _ => exact take_of_obstacle h

/-- A state at a label that cannot be read ends the reading. -/
theorem setValue_labelStates_error {first : Node} (h : Reading.labelState first = .error obstacle)
    (tag : String) (rest : List Node) (flow : Bool) (share : Option Nat) :
    (f.setValue .labelStates (.sequence tag (first :: rest) flow share)).1 = f := by
  obtain ⟨a, members, itemType⟩ := f
  simp only [setValue, Reading.labelStates, h]

theorem set_of_obstacle (h : (f.set key (partOf key.text n)).2 = some obstacle)
    (huse : f.kind.admits key = true) (htrace : ¬ LeavesTrace f.kind (key.text, n)) :
    (f.set key (partOf key.text n)).1 = f := by
  cases key with
  | entries => exact take_of_obstacle h
  | itemType => exact take_of_obstacle h
  | labelStates =>
    have hkind : f.kind = .assembly := by
      revert huse
      cases f.kind <;> decide
    cases n with
    | scalar => rfl
    | mapping => rfl
    | sequence tag items flow share =>
      cases items with
      | nil => cases h
      | cons first rest =>
        cases hfirst : Reading.labelState first with
        | ok state =>
          exact absurd ⟨hkind, rfl, tag, first, rest, flow, share, state, rfl, hfirst⟩ htrace
        | error o => exact setValue_labelStates_error hfirst tag rest flow share
  | _ => exact setValue_of_obstacle h (by decide)

/-- A rejected pair without a trace changes nothing about a field of the kind. -/
theorem absorb_of_rejects (h : Rejects kind p i) (hkind : f.kind = kind)
    (htrace : ¬ LeavesTrace kind p) : f.absorb p = f := by
  cases h with
  | unknown hkey => exact absorb_unknown hkey
  | meaningless hkey htype huse => rw [absorb_known hkey, hkind, huse, if_neg Bool.false_ne_true]
  | @invalid text n key c hkey huse hset =>
    obtain rfl := Key.text_of_ofText? hkey
    rw [← hkind] at huse htrace
    rw [absorb_known hkey, if_pos huse]
    have hobstacle : (f.set key (partOf key.text n)).2 = some (.complaint c) := by
      rw [← hset]
      exact set_obstacle_eq hkind
    exact set_of_obstacle hobstacle huse htrace

/-- To read such a pair is to say what is wrong with it. -/
theorem read_of_rejects (h : Rejects kind p i) (hkind : f.kind = kind)
    (htrace : ¬ LeavesTrace kind p) : f.read p.1 (partOf p.1 p.2) = .ok (f.addIssue i) := by
  obtain ⟨hfindings, hfault⟩ := h.findings
  rw [read_eq, hkind, hfault, hfindings, absorb_of_rejects h hkind htrace]
  rfl

end

/-! ### Traces -/

theorem labelStates_ne_nil [Host] (items : List Node) {m : Keyed String (Keyed String String)}
    (h : m ≠ []) : (Reading.labelStates items m).1 ≠ [] := by
  induction items generalizing m with
  | nil => exact h
  | cons x rest ih =>
    rw [Reading.labelStates]
    split
    · exact ih (Keyed.put_ne_nil _ _ _)
    · exact h

theorem absorb_of_leavesTrace [Host] (htrace : LeavesTrace kind p) (hkind : f.kind = kind) :
    f.absorb p = { f with labelStates := (f.absorb p).labelStates } ∧
      (f.absorb p).labelStates ≠ [] := by
  obtain ⟨rfl, htext, tag, first, rest, flow, share, ⟨offset, states⟩, hn, hfirst⟩ := htrace
  obtain ⟨text, n⟩ := p
  obtain rfl : text = Key.labelStates.text := htext
  obtain rfl : n = .sequence tag (first :: rest) flow share := hn
  have hkey : Key.ofText? Key.labelStates.text = some .labelStates := rfl
  have hown := absorb_eq (p := (Key.labelStates.text, .sequence tag (first :: rest) flow share)) f
    hkey
  refine ⟨hown, ?_⟩
  have huse : f.kind.admits .labelStates = true := by rw [hkind]; rfl
  have hread : (f.absorb (Key.labelStates.text,
      .sequence tag (first :: rest) flow share)).labelStates =
        (Reading.labelStates (first :: rest) f.labelStates).1 := by
    rw [absorb_known hkey, if_pos huse]
    rfl
  rw [hread, Reading.labelStates, hfirst]
  exact labelStates_ne_nil rest (Keyed.put_ne_nil _ _ _)

theorem absorbAll_labelStates [Host] (f : Field) (h : Key.labelStates.text ∉ nodes.map Prod.fst) :
    (f.absorbAll nodes).labelStates = f.labelStates := by
  induction nodes generalizing f with
  | nil => rfl
  | cons p rest ih =>
    rw [List.map_cons, List.mem_cons, not_or] at h
    refine (ih (f.absorb p) h.2).trans ?_
    cases hkey : Key.ofText? p.1 with
    | none => rw [absorb_unknown hkey]
    | some key =>
      have hne : key ≠ .labelStates := by
        rintro rfl
        exact h.1 (Key.text_of_ofText? hkey)
      rw [absorb_eq f hkey]
      cases key <;> first | rfl | exact absurd rfl hne

/-! ### Descriptions -/

theorem settled_labelStates (f : Field) : f.settled.labelStates = f.labelStates := by
  unfold settled
  split <;> rfl

/-- With the pair or without it, a field is looked at alike. -/
theorem settled_of_rejects [Host] (h : Rejects kind p i) (hkind : f.kind = kind) :
    (f.absorb p).overall = f.overall ∧
      (f.absorb p).settled = { f.settled with labelStates := (f.absorb p).labelStates } := by
  by_cases htrace : LeavesTrace kind p
  · have hplain {g : Field} (hg : g.kind = .assembly) : g.overall = .ok [] ∧ g.settled = g := by
      rw [overall, settled, hg]
      exact ⟨rfl, rfl⟩
    have hassembly : f.kind = .assembly := hkind.trans htrace.1
    obtain ⟨hoverall, hsettled⟩ := hplain hassembly
    obtain ⟨hoverall', hsettled'⟩ := hplain ((absorb_kind f p).trans hassembly)
    rw [hoverall, hsettled, hoverall', hsettled']
    exact ⟨rfl, (absorb_of_leavesTrace htrace hkind).1⟩
  · rw [absorb_of_rejects h hkind htrace, ← settled_labelStates]
    obtain ⟨a, members, itemType⟩ := f.settled
    exact ⟨rfl, rfl⟩

/-- There were no label states before, so that those that are left make a difference. -/
theorem labelStates_eq_iff [Host] (h : Rejects kind p i) (hnew : p.1 ∉ nodes.map Prod.fst) :
    ((drawn kind nodes).absorb p).labelStates = (drawn kind nodes).labelStates ↔
      ¬ LeavesTrace kind p := by
  constructor
  · intro hequal htrace
    rw [htrace.2.1] at hnew
    have hnone : (drawn kind nodes).labelStates = [] := absorbAll_labelStates _ hnew
    exact (absorb_of_leavesTrace htrace (drawn_kind kind nodes)).2 (hequal.trans hnone)
  · intro htrace
    rw [absorb_of_rejects h (drawn_kind kind nodes) htrace]

/-- A rejected pair leaves its issue and nothing else, unless it leaves a trace; then there are
label states that the field would not have without the pair. Nothing else depends on the pair, not
even whether there is a field. -/
theorem rejected_leaves_issue [Host] (hdistinct : nodes.Distinct) (hmem : p ∈ nodes)
    (hrejects : Rejects kind p i) :
    (∀ fault, ofDescription (.ofKind kind nodes issues) = .error fault ↔
      ofDescription (.ofKind kind (Keyed.erase p.1 nodes) issues) = .error fault) ∧
    (∀ f, ofDescription (.ofKind kind (Keyed.erase p.1 nodes) issues) = .ok f →
      ∃ before after states, f.issues = before ++ after ∧
        ofDescription (.ofKind kind nodes issues) =
          .ok { f with issues := before ++ i :: after, labelStates := states } ∧
        (states = f.labelStates ↔ ¬ LeavesTrace kind p)) ∧
    (¬ LeavesTrace kind p → ∀ f : Field, f.kind = kind →
      f.read p.1 (partOf p.1 p.2) = .ok (f.addIssue i)) := by
  have hnew := Keyed.not_mem_keys_erase p.1 nodes
  obtain ⟨before, after, rfl⟩ := List.append_of_mem hmem
  obtain ⟨herase, hbehind⟩ := Keyed.erase_middle hdistinct
  obtain ⟨hfindings, hfault⟩ := hrejects.findings
  have hsame : (before ++ p :: after).findSome? (fault? kind) =
      (before ++ after).findSome? (fault? kind) := by
    rw [List.findSome?_append, List.findSome?_cons, hfault, List.findSome?_append]
  have hfound : (before ++ p :: after).flatMap (findings kind) =
      before.flatMap (findings kind) ++ i :: after.flatMap (findings kind) := by
    rw [List.flatMap_append, List.flatMap_cons, hfindings, List.singleton_append]
  have hdrawn : drawn kind (before ++ p :: after) = (drawn kind (before ++ after)).absorb p :=
    absorbAll_middle _ hbehind
  obtain ⟨hoverall, hsettled⟩ := settled_of_rejects hrejects (drawn_kind kind (before ++ after))
  rw [herase] at hnew ⊢
  rw [ofDescription_eq, ofDescription_eq, hsame, hfound, hdrawn, hoverall, hsettled]
  refine and_assoc.mp ⟨?_, fun htrace f hkind => read_of_rejects hrejects hkind htrace⟩
  cases (before ++ after).findSome? (fault? kind) with
  | some fault => exact ⟨fun _ => Iff.rfl, nofun⟩
  | none =>
    refine ⟨fun fault => ?_, fun f hf => ?_⟩
    · rw [map_eq_error_iff, map_eq_error_iff]
    · obtain ⟨found, hok, rfl⟩ := map_eq_ok_iff.mp hf
      refine ⟨issues ++ before.flatMap (findings kind), after.flatMap (findings kind) ++ found,
        ((drawn kind (before ++ after)).absorb p).labelStates, ?_, ?_, ?_⟩
      · rw [withIssues_issues, List.flatMap_append]
        simp only [List.append_assoc]
      · rw [hok]
        simp only [List.append_assoc, List.cons_append]
        rfl
      · have hstates : ((drawn kind (before ++ after)).settled.withIssues
            (issues ++ ((before ++ after).flatMap (findings kind) ++ found))).labelStates =
              (drawn kind (before ++ after)).labelStates := settled_labelStates _
        rw [hstates]
        exact labelStates_eq_iff hrejects hnew

/-- A struct of one member with an address that is no number. -/
def sampleMisplaced : Keyed String Node :=
  [("Name", .ofText "PAIR"), ("Offset", .ofText "low"),
    ("Entries", .ofItems [.mapping "!int" [(.ofText "Name", .ofText "A")] false none])]

theorem sampleMisplaced_leaves_issue :
    let i : Issue := .severe "Invalid Offset: expected an integer, got 'low'" "Fix the Offset value"
    sampleMisplaced.Distinct ∧ ("Offset", .ofText "low") ∈ sampleMisplaced ∧
      Rejects .struct ("Offset", .ofText "low") i ∧
      ofDescription (.ofKind .struct (Keyed.erase "Offset" sampleMisplaced) []) =
        .ok { kind := .struct, name := "PAIR", members := [{ kind := .integer, name := "A" }] } ∧
      ofDescription (.ofKind .struct sampleMisplaced []) =
        .ok { kind := .struct, name := "PAIR", issues := [i],
              members := [{ kind := .integer, name := "A" }] } := by
  intro i
  have hdistinct : sampleMisplaced.Distinct := by
    unfold Keyed.Distinct
    decide
  have hmem : ("Offset", .ofText "low") ∈ sampleMisplaced := .tail _ (.head _)
  have hrejects : Rejects .struct ("Offset", .ofText "low") i := by
    have hkey : Key.ofText? "Offset" = some .offset := rfl
    exact .invalid (c := .misfit (.notInteger "'low'")) hkey rfl rfl
  have hwithout : ofDescription (.ofKind .struct (Keyed.erase "Offset" sampleMisplaced) []) =
      .ok { kind := .struct, name := "PAIR", members := [{ kind := .integer, name := "A" }] } := rfl
  obtain ⟨before, after, states, hissues, hwith, hstates⟩ :=
    (rejected_leaves_issue hdistinct hmem hrejects).2.1 _ hwithout
  obtain ⟨rfl, rfl⟩ := List.append_eq_nil_iff.mp hissues.symm
  obtain rfl := hstates.mpr fun htrace => nomatch htrace.1
  exact ⟨hdistinct, hmem, hrejects, hwithout, hwith⟩

/-- Label states of which the second is no mapping. -/
def sampleStates : Keyed String Node :=
  [("Label States", .ofItems
    [.ofPairs [(.ofText "Offset", .ofText "START"), (.ofText "A", .ofText "x")], .ofText "y"])]

/-- The first state stays in the field, although the key is rejected. -/
theorem sampleStates_leave_trace :
    let p := ("Label States", Node.ofItems
      [.ofPairs [(.ofText "Offset", .ofText "START"), (.ofText "A", .ofText "x")], .ofText "y"])
    let i : Issue := .severe "Invalid Label States: must be a mapping" "Fix the Label States value"
    p ∈ sampleStates ∧ Rejects .assembly p i ∧
      ofDescription (.ofKind .assembly (Keyed.erase p.1 sampleStates) []) =
        .ok { kind := .assembly } ∧
      ofDescription (.ofKind .assembly sampleStates []) =
        .ok { kind := .assembly, labelStates := [("START", [("A", "x")])], issues := [i] } := by
  intro p i
  have hkey : Key.ofText? "Label States" = some .labelStates := rfl
  exact ⟨.head _, .invalid (c := .notMapping) hkey rfl rfl, rfl, rfl⟩

end Field

end GameAtlas.Schema
