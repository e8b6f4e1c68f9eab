import GameAtlas.Proofs.Schema.Upsets

/-!
What every field that was read is like, on whichever way it was read and at whatever depth: each
attribute that its kind has no use for is as it is when nothing was read, its size and its place are
ones, and a pointer that is no pointer is found.
-/

namespace GameAtlas.Schema

open Yaml (Node)

/-! ### Attributes -/

namespace Attributes

variable {a : Attributes} {k : Key}

/-- What a kind has no use for is as it is when nothing was read. -/
theorem Sound.adopt_of_not_admitted (h : a.Sound) (huse : a.kind.admits k = false) :
    Attributes.adopt k a { kind := a.kind } = { kind := a.kind } := by
  have hnot : a.written? k = none := by
    by_contra hsome
    obtain ⟨n, hn⟩ := Option.ne_none_iff_exists'.mp hsome
    have hadmitted := h.admitted k n hn
    simp [huse] at hadmitted
  exact adopt_of_not_written (h.fits k) (blank_new a.kind [] k) hnot

end Attributes

/-- The kinds that have a use for a key that is not one of all kinds. -/
def Key.users : Key → List Kind
  | .signed | .base => [.integer, .pointer]
  | .endianness => [.integer, .pointer, .bitfield]
  | .values => [.integer]
  | .bitValues => [.integer, .bitfield]
  | .entries => [.struct]
  | .itemType => [.array]
  | .format => [.tile, .color]
  | .charset => [.script]
  | .locals | .arguments | .initialState | .finalState | .returnValues | .labelStates => [.assembly]
  | _ => []

theorem Key.mem_users {k : Key} {kind : Kind} (hown : k.isCommon = false)
    (h : kind.admits k = true) : kind ∈ k.users := by
  revert hown h
  cases k <;> cases kind <;> decide

namespace Field

variable {f g m item : Field} {n : Node}

/-! ### Where fields are read from -/

section

variable [Host]

/-- A field is read from a node, up to its name and to what else is said of it. -/
def ReadFrom (n : Node) (g : Field) : Prop :=
  ∃ f name issues, ofNode n = .ok f ∧ g = { f with name := name, issues := f.issues ++ issues }

theorem readFrom_of_ofNode (h : ofNode n = .ok f) : ReadFrom n f := by
  obtain ⟨a, members, itemType⟩ := f
  exact ⟨_, a.name, [], h, by simp⟩

theorem readFrom_checkItem (h : ofNode n = .ok f) : ReadFrom n (checkItem f) := by
  unfold checkItem
  split
  · exact ⟨f, f.name, _, h, rfl⟩
  · exact readFrom_of_ofNode h

/-- The item type of an array is the one that is assumed, or it is read from a node within. -/
theorem node_of_item (hg : ofNode n = .ok g) (hkind : g.kind = .array) (hitem : item ∈ g.itemType) :
    item = defaultItem ∨ ∃ v ∈ n.children, ReadFrom v item := by
  cases hn : Description.ofNode n with
  | unusable issue =>
    rw [ofNode_eq, hn] at hg
    cases hg
    cases hkind
  | ofKind kind nodes issues =>
    obtain ⟨f, hf, hcheck⟩ := drawn_of_ofNode hn hg
    have hfkind : f.kind = .array := (check_keeps hcheck).1.symm.trans hkind
    have hstated := hf.item_eq
    simp only [Field.check, hfkind] at hcheck
    cases hcheck
    split at hitem
    · rw [hstated, statedItem] at hitem
      split at hitem
      · obtain ⟨v, hv, hread⟩ := Option.bind_eq_some_iff.mp hitem
        obtain ⟨f', hf', rfl⟩ := Option.map_eq_some_iff.mp hread
        exact .inr ⟨v, Description.node_mem_children hn (Keyed.mem_of_get? hv),
          readFrom_checkItem (toOption_eq_some hf')⟩
      · cases hitem
    · obtain rfl : defaultItem = item := Option.some.inj hitem
      exact .inl rfl

/-- What lies right below a field that was read is read from a node within, but for the item types
that are assumed. -/
theorem source_of_child {c : Field} (hg : ofNode n = .ok g) (hc : c ∈ g.children) :
    c = defaultItem ∨ ∃ v ∈ n.children, ∃ x, v.Contains x ∧ ReadFrom x c := by
  by_cases harray : g.kind = .array
  · rw [children_of_array harray, Option.mem_toList] at hc
    rcases node_of_item hg harray hc with hassumed | ⟨v, hv, hread⟩
    · exact .inl hassumed
    · exact .inr ⟨v, hv, v, .self v, hread⟩
  · rw [children_of_not_array harray] at hc
    have hstruct : g.kind = .struct := by
      obtain ⟨here, _, _⟩ := sound_ofNode n hg
      by_contra hother
      rw [here.onlyStructs hother] at hc
      cases hc
    obtain ⟨v, hv, x, hx, f, name, issues, hf, rfl⟩ := node_of_member hg hstruct hc
    exact .inr ⟨v, hv, x, hx, f, name, issues, hf, rfl⟩

/-- Every field within a field that was read is read from a node within its node, but for the item
types that are assumed. -/
theorem source_of_mem_walk (n : Node) : ∀ f, ofNode n = .ok f → ∀ g ∈ f.walk,
    g = defaultItem ∨ ∃ x, n.Contains x ∧ ReadFrom x g := by
  induction n using Node.contains_induction with
  | step n ih =>
    intro f hf g hg
    rcases mem_walk_iff.mp hg with rfl | ⟨c, hc, hg⟩
    · exact .inr ⟨n, .self n, readFrom_of_ofNode hf⟩
    rcases source_of_child hf hc with rfl | ⟨v, hv, x, hx, hread⟩
    · obtain rfl : g = defaultItem := List.mem_singleton.mp hg
      exact .inl rfl
    · rcases mem_walk_iff.mp hg with rfl | ⟨inner, hinner, hbelow⟩
      · exact .inr ⟨x, .child hv hx, hread⟩
      · -- Below its own name and issues, `c` is what its node gives.
        obtain ⟨f', name, issues, hf', rfl⟩ := hread
        have hwithin : g ∈ f'.walk := mem_walk_of_child hinner hbelow
        rcases ih v hv x hx f' hf' g hwithin with hassumed | ⟨y, hy, hread⟩
        · exact .inl hassumed
        · exact .inr ⟨y, .child hv (hx.trans hy), hread⟩

end

/-! ### Well-formed fields -/

section

variable [Host]

/-- Which attributes a field of a kind may have. Pointers may have a size that no pointer has; then
one of their issues is severe. -/
structure WellFormed (f : Field) : Prop where
  address : ∀ a ∈ f.address, 0 ≤ a
  size : ∀ s ∈ f.size, Text.trim s ≠ ""
  itemType : f.itemType.isSome ↔ f.kind = .array
  members : f.kind ≠ .struct → f.members = []
  numberBases : f.numberBase ∈ [2, 8, 10, 16]
  numberBase : f.kind ≠ .integer → f.numberBase = 10
  pointerBase : f.kind ≠ .pointer → f.pointerBase = 0
  signed : f.kind ∉ [.integer, .pointer] → f.signed = false
  endianness : f.kind ∉ [.integer, .pointer, .bitfield] → f.endianness = .little
  values : f.kind ≠ .integer → f.values = []
  bitValues : f.kind ∉ [.integer, .bitfield] → f.bitValues = []
  charset : f.kind ≠ .script → f.charset = ""
  format : f.kind ∉ [.tile, .color] → f.format = ""
  places : f.kind ≠ .assembly → f.locals = [] ∧ f.arguments = []
  states : f.kind ≠ .assembly → f.initialState = [] ∧ f.finalState = [] ∧ f.returnValues = [] ∧
    f.labelStates = []
  pointerSize : f.kind = .pointer → f.size.isSome → ¬ (∃ n ≤ 8, f.staticSize = .ok n) →
    ∃ i ∈ f.issues, i.level = .severe

/-- A pointer whose size is not that of a pointer is found. -/
theorem severe_of_pointerIssues {issues : List Issue} (hissues : f.pointerIssues = .ok issues)
    (hsize : f.size.isSome) (hunfit : ¬ ∃ n ≤ 8, f.resolvedSize [] = .ok n) :
    ∃ i ∈ issues, i.level = .severe := by
  have hstated : f.size.isNone = false := by simpa using hsize
  simp only [pointerIssues, hstated, Bool.false_eq_true, if_false] at hissues
  cases hresolved : f.resolvedSize [] with
  | error e =>
    simp only [hresolved] at hissues
    cases hname : e.bare? with
    | some c =>
      simp only [hname] at hissues
      cases hissues
    | none =>
      simp only [hname] at hissues
      cases hissues
      exact ⟨_, List.mem_singleton_self _, rfl⟩
  | ok size =>
    have hlarge : maxPointerSize < size := by
      by_contra hsmall
      exact hunfit ⟨size, not_lt.mp hsmall, hresolved⟩
    simp only [hresolved, hlarge, if_true] at hissues
    split at hissues
    · cases hissues
    · cases hissues
      exact ⟨_, List.mem_singleton_self _, rfl⟩

/-- The size of a pointer is looked at when its keys were read, and what is found stays. -/
theorem ReadFrom.pointerSize (h : ReadFrom n g) (hkind : g.kind = .pointer)
    (hsize : g.size.isSome) (hunfit : ¬ ∃ n ≤ 8, g.staticSize = .ok n) :
    ∃ i ∈ g.issues, i.level = .severe := by
  obtain ⟨f, name, issues, hf, rfl⟩ := h
  have hkind : f.kind = .pointer := hkind
  have hresolved : f.staticSize = f.resolvedSize [] :=
    staticSize_of_not_struct (by simp [hkind])
  rw [staticSize_relabel, hresolved] at hunfit
  cases hn : Description.ofNode n with
  | unusable issue =>
    rw [ofNode_eq, hn] at hf
    cases hf
    cases hkind
  | ofKind kind nodes _ =>
    obtain ⟨f', hf', hcheck⟩ := drawn_of_ofNode hn hf
    have hkind' : f'.kind = .pointer := (check_keeps hcheck).1.symm.trans hkind
    rw [Field.check, hkind'] at hcheck
    obtain ⟨found, hfound, hcheck⟩ := bind_eq_ok_iff.mp hcheck
    cases hcheck
    obtain ⟨i, hi, hsevere⟩ := severe_of_pointerIssues hfound hsize hunfit
    exact ⟨i, List.mem_append_left _ (List.mem_append_right _ hi), hsevere⟩

/-- A key left no trace in a field of a kind that has no use for it. -/
theorem Checked.unused {k : Key} (h : g.Checked) (hown : k.isCommon = false)
    (hkind : g.kind ∉ k.users) :
    Attributes.adopt k g.toAttributes { kind := g.kind } = { kind := g.kind } := by
  have huse : g.kind.admits k = false := by
    by_contra hadmitted
    exact hkind (Key.mem_users hown (by simpa using hadmitted))
  exact h.attributes.adopt_of_not_admitted huse

theorem wellFormed_of_checked (h : g.Checked)
    (hpointer : g.kind = .pointer → g.size.isSome → ¬ (∃ n ≤ 8, g.staticSize = .ok n) →
      ∃ i ∈ g.issues, i.level = .severe) : g.WellFormed := by
  obtain ⟨hbases, hnumber, hplace⟩ := h.attributes.fits .base
  constructor
  case address => exact h.attributes.fits .offset
  case size => exact h.attributes.fits .size
  case itemType =>
    constructor
    · intro hsome
      by_contra hother
      rw [h.onlyArrays hother] at hsome
      cases hsome
    · exact h.arrayItem
  case members => exact h.onlyStructs
  case numberBases => exact hbases
  case numberBase => exact not_imp_comm.mp hnumber
  case pointerBase => exact not_imp_comm.mp hplace
  case signed =>
    intro hkind
    have hunused := h.unused (k := .signed) rfl hkind
    exact congrArg Attributes.signed hunused
  case endianness =>
    intro hkind
    have hunused := h.unused (k := .endianness) rfl hkind
    exact congrArg Attributes.endianness hunused
  case values =>
    intro hkind
    have hunused := h.unused (k := .values) rfl (by simpa [Key.users] using hkind)
    exact congrArg Attributes.values hunused
  case bitValues =>
    intro hkind
    have hunused := h.unused (k := .bitValues) rfl hkind
    exact congrArg Attributes.bitValues hunused
  case charset =>
    intro hkind
    have hunused := h.unused (k := .charset) rfl (by simpa [Key.users] using hkind)
    exact congrArg Attributes.charset hunused
  case format =>
    intro hkind
    have hunused := h.unused (k := .format) rfl hkind
    exact congrArg Attributes.format hunused
  case places =>
    intro hkind
    have hother : g.kind ∉ [Kind.assembly] := by simpa using hkind
    have hlocals := h.unused (k := .locals) rfl hother
    have harguments := h.unused (k := .arguments) rfl hother
    exact ⟨congrArg Attributes.locals hlocals, congrArg Attributes.arguments harguments⟩
  case states =>
    intro hkind
    have hother : g.kind ∉ [Kind.assembly] := by simpa using hkind
    have hinitial := h.unused (k := .initialState) rfl hother
    have hfinal := h.unused (k := .finalState) rfl hother
    have hreturn := h.unused (k := .returnValues) rfl hother
    have hlabels := h.unused (k := .labelStates) rfl hother
    exact ⟨congrArg Attributes.initialState hinitial, congrArg Attributes.finalState hfinal,
      congrArg Attributes.returnValues hreturn, congrArg Attributes.labelStates hlabels⟩
  case pointerSize => exact hpointer

end

/-- Every field that is read from a node is well-formed, and so is every field within it. -/
theorem ofNode_wellFormed [Host] (h : ofNode n = .ok f) : ∀ g ∈ f.walk, g.WellFormed := by
  intro g hg
  have hchecked : g.Checked := (sound_ofNode n h).of_mem_walk g hg
  refine wellFormed_of_checked hchecked ?_
  rcases source_of_mem_walk n f h g hg with rfl | ⟨x, _, hread⟩
  · exact nofun
  · exact hread.pointerSize

/-- A pointer of nine bytes within a struct. -/
def samplePointerNode : Node :=
  .mapping "!struct" [(.ofText "Offset", .ofHex 0),
    (.ofText "Entries", .ofPairs
      [(.ofText "FAR", .mapping "!pointer" [(.ofText "Size", .ofInt 9)] false none)])] false none

theorem samplePointerNode_wellFormed :
    ∃ f far, ofNode samplePointerNode = .ok f ∧ f.walk = [f, far] ∧ far.kind = .pointer ∧
      far.staticSize = .ok 9 ∧ far.WellFormed ∧ ∃ i ∈ far.issues, i.level = .severe := by
  obtain ⟨f, hf⟩ : ∃ f, ofNode samplePointerNode = .ok f := ⟨_, rfl⟩
  obtain ⟨far, hfar, hkind, hsize⟩ : ∃ far, f.walk = [f, far] ∧ far.kind = .pointer ∧
      far.staticSize = .ok 9 := by
    cases hf
    exact ⟨_, rfl, rfl, rfl⟩
  have hwell : far.WellFormed := by
    refine ofNode_wellFormed hf far ?_
    simp [hfar]
  refine ⟨f, far, hf, hfar, hkind, hsize, hwell, hwell.pointerSize hkind ?_ ?_⟩
  · rw [staticSize_of_not_struct (by simp [hkind])] at hsize
    exact isSome_of_resolvedSize hsize
  · rintro ⟨n, hn, hsmall⟩
    have heq : 9 = n := Except.ok.inj (hsize.symm.trans hsmall)
    omega

end Field

end GameAtlas.Schema
