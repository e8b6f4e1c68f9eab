import Mathlib.Tactic
import GameAtlas.Proofs.Expression.Meaning
import GameAtlas.Proofs.Script.Segments

/-!
What a table makes of an input that ends too early for its sizes. A size sees at most a window of
the bytes that are left. Where the window is cut short, the size is what it is on a full one, or a
name in it is missing, and then the run is the whole rest.
-/

namespace GameAtlas.Script

open Schema (SizeError)
open Expression (argumentName bindBytes maxArguments)

/-! ### Sizes on windows -/

namespace Trie

variable {t level : Trie} {input : List UInt8}

/-- The size of a level is to be had wherever the window is full. -/
def Measured [Host] (level : Trie) : Prop :=
  ∀ window : List UInt8, window.length = maxArguments →
    ∃ n, Schema.sizeOf level.size (bindBytes window) = .ok n

/-- At the end of the input a level looks up a name that stands for nothing in the window. -/
def Lacks [Host] (level : Trie) (input : List UInt8) (name : String) : Prop :=
  Expression.evaluateSize level.size (bindBytes (input.take maxArguments)) =
    .error (.failed (.unbound name))

theorem length_window (input : List UInt8) :
    (input.take maxArguments).length = min maxArguments input.length :=
  List.length_take

/-- For want of a byte the run takes all that is left. -/
theorem runSize_of_lacks [Host] {name : String} (h : level.Lacks input name)
    (hshort : input.length < maxArguments) : level.runSize input = .ok input.length := by
  have hlength : (input.take maxArguments).length = input.length := by
    rw [length_window]
    omega
  rw [runSize, Schema.sizeOf, h]
  simp [SizeError.isUnbound, hlength, hshort]

/-- Where bytes enough are left, a missing name is a fault. -/
theorem runSize_of_lacks_full [Host] {name : String} (h : level.Lacks input name)
    (hfull : maxArguments ≤ input.length) :
    level.runSize input = .error (.invalid level.size (.failed (.unbound name))) := by
  have hlength : (input.take maxArguments).length = maxArguments := by
    rw [length_window]
    omega
  rw [runSize, Schema.sizeOf, h]
  simp [hlength]

/-- A window that is cut short is filled up to a full one: on this the size is to be had. -/
theorem Measured.runSize [Host] (h : level.Measured) (input : List UInt8) :
    ∃ n, level.runSize input = .ok n := by
  by_cases hfull : maxArguments ≤ input.length
  · have hlength : (input.take maxArguments).length = maxArguments := by
      rw [length_window]
      omega
    obtain ⟨n, hn⟩ := h _ hlength
    exact ⟨n, by rw [Trie.runSize, hn]⟩
  · rw [not_le] at hfull
    have hwindow : input.take maxArguments = input := List.take_of_length_le hfull.le
    have hlength : (input ++ List.replicate (maxArguments - input.length) 0).length =
        maxArguments := by
      rw [List.length_append, List.length_replicate]
      omega
    obtain ⟨n, hn⟩ := h _ hlength
    rcases Expression.evaluateSize_fewer (Expression.fewer_bindBytes_append input _)
      (Expression.bindsArguments_bindBytes _) level.size with hsame | ⟨name, hmissing⟩
    · refine ⟨n, ?_⟩
      rw [Trie.runSize, hwindow, Schema.sizeOf, hsame, ← Schema.sizeOf, hn]
    · have hlacks : level.Lacks input name := by
        rw [Lacks, hwindow]
        exact hmissing
      exact ⟨input.length, runSize_of_lacks hlacks hfull⟩

/-- A level lies below another, at any depth. -/
inductive Below (level : Trie) : Trie → Prop where
  | child {t : Trie} {b : UInt8} : t.child? b = some level → Below level t
  | deeper {t next : Trie} {b : UInt8} : t.child? b = some next → Below level next → Below level t

theorem Below.exists_child (h : Below level t) :
    ∃ p ∈ t.children, level = p.2 ∨ Below level p.2 := by
  cases h with
  | child hchild => exact ⟨(_, level), Keyed.mem_of_get? hchild, .inl rfl⟩
  | deeper hchild hdeeper => exact ⟨(_, _), Keyed.mem_of_get? hchild, .inr hdeeper⟩

/-- Every level that a descent comes to has a size. -/
theorem descend_total [Host] (input rest : List UInt8) (t : Trie) (depth : Nat) (ht : t.Measured)
    (hbelow : ∀ level : Trie, level.Below t → level.Measured) :
    ∃ found, t.descend input depth rest = .ok found := by
  induction rest generalizing t depth with
  | nil =>
    obtain ⟨n, hn⟩ := ht.runSize input
    exact ⟨(t, depth, n), by rw [descend, hn]; rfl⟩
  | cons b rest ih =>
    obtain ⟨n, hn⟩ := ht.runSize input
    rw [descend, hn]
    dsimp only [bind, Except.bind]
    split
    · cases hchild : t.child? b with
      | none => exact ⟨_, rfl⟩
      | some next =>
        exact ih next (depth + 1) (hbelow next (.child hchild))
          fun level hlevel => hbelow level (.deeper hchild hlevel)
    · exact ⟨_, rfl⟩

theorem runAt_total [Host] (root : Trie) (hroot : ∀ level : Trie, level.Below root → level.Measured)
    (b : UInt8) (rest : List UInt8) : ∃ run, root.runAt b rest = .ok run := by
  rw [runAt]
  cases hchild : root.child? b with
  | none => exact ⟨_, rfl⟩
  | some first =>
    obtain ⟨⟨last, depth, size⟩, hfound⟩ := descend_total (b :: rest) rest first 1
      (hroot first (.child hchild)) fun level hlevel => hroot level (.deeper hchild hlevel)
    dsimp only
    rw [hfound]
    exact ⟨_, rfl⟩

end Trie

/-- Where there is a run at every byte, the input falls into runs. -/
theorem runsFrom_total {ε : Type} {at? : Nat → UInt8 → List UInt8 → Except ε Run}
    (h : ∀ position b rest, ∃ run, at? position b rest = .ok run) (skip position : Nat)
    (input : List UInt8) : ∃ runs, runsFrom at? skip position input = .ok runs := by
  induction input generalizing skip position with
  | nil => exact ⟨[], rfl⟩
  | cons b rest ih =>
    cases skip with
    | succ skip => exact ih skip (position + 1)
    | zero =>
      obtain ⟨run, hrun⟩ := h position b rest
      obtain ⟨runs, hruns⟩ := ih (run.length - 1) (position + 1)
      refine ⟨run :: runs, ?_⟩
      rw [runsFrom, hrun]
      simp only [bind, Except.bind, hruns]
      rfl

namespace Table

theorem runAt_total [Host] (t : Table)
    (h : t.patterns = [] → ∀ level : Trie, level.Below t.root → level.Measured) (position : Nat)
    (b : UInt8) (rest : List UInt8) : ∃ run, t.runAt position b rest = .ok run := by
  rw [runAt]
  split
  · next hpatterns =>
    obtain ⟨run, hrun⟩ := t.root.runAt_total (h (List.isEmpty_iff.mp hpatterns)) b rest
    exact ⟨run, by rw [hrun]⟩
  · exact ⟨_, rfl⟩

/-- A table of patterns decodes every input, and so does a tree of which every level has a size on
every full window: where the input is cut short, a level has the same size or takes the rest. -/
theorem decode_total [Host] (t : Table)
    (h : t.patterns = [] → ∀ level : Trie, level.Below t.root → level.Measured)
    (input : List UInt8) : ∃ text, t.decode input = .ok text := by
  obtain ⟨runs, hruns⟩ := runsFrom_total (t.runAt_total h) 0 0 input
  refine ⟨String.join (runs.map Run.text), ?_⟩
  rw [decode, Table.runs, hruns]
  rfl

end Table

/-- A run behind its first byte as long as the byte says. -/
def sampleCounted : Trie :=
  .node "ARG_01 + 2" (some "<run>") [(0x00, .node "ARG_01 + 2" (some "<none>") [])]

def sampleCountedTable : Table where
  name := "Main"
  root := .node "1" none [(0x41, .node "1" (some "A") []), (0x80, sampleCounted)]

theorem sizeOf_counted (b c : UInt8) (rest : List UInt8) :
    Schema.sizeOf "ARG_01 + 2" (bindBytes (b :: c :: rest)) = .ok (c.toNat + 2) := by
  let count : Expression.Arithmetic := .binary .add (.argument 1) (.literal 2)
  have hreadable : count.IsReadable := ⟨by decide, by decide⟩
  have hpowers : count.HasWholePowers (bindBytes (b :: c :: rest)) := ⟨trivial, trivial, nofun⟩
  have hspelled : Expression.Spells count.lexemes "ARG_01 + 2".toList := by
    refine .lexeme (s := "ARG_01") (by decide) (.blank ?_)
    refine .lexeme (s := "+") (by decide) (.blank ?_)
    exact .lexeme (s := "2") (by decide) .done
  have hguards := Expression.applicable_of_unbound fun _ =>
    (Expression.bindsArguments_bindBytes (b :: c :: rest)).lookup_reserved
  have hvalue : count.value (bindBytes (b :: c :: rest)) = .ok ((c.toNat + 2 : Nat) : Int) := rfl
  rw [Schema.sizeOf,
    Expression.evaluateSize_spells hreadable hguards hpowers hspelled (by decide +kernel) hvalue]

/-- On a full window the count is there, so that an input that ends in front of it has a text. -/
theorem sampleCountedTable_total :
    (∀ level : Trie, level.Below sampleCountedTable.root → level.Measured) ∧
      sampleCountedTable.decode [0x41, 0x80, 0x01, 0x07, 0x80] = .ok "A<run>[01][07]<run>" ∧
      ∃ text, sampleCountedTable.decode [0x41, 0x80, 0x01, 0x07, 0x80] = .ok text := by
  have hliteral (level : Trie) (h : level.size = "1") : level.Measured := by
    intro window _
    exact ⟨1, by rw [h]; rfl⟩
  have hcounted (level : Trie) (h : level.size = "ARG_01 + 2") : level.Measured := by
    intro window hwindow
    match window, hwindow with
    | b :: c :: rest, _ => exact ⟨c.toNat + 2, by rw [h]; exact sizeOf_counted b c rest⟩
  have hmeasured : ∀ level : Trie, level.Below sampleCountedTable.root → level.Measured := by
    intro level hbelow
    obtain ⟨p, hp, hlevel⟩ := hbelow.exists_child
    simp only [sampleCountedTable, Trie.children, List.mem_cons, List.not_mem_nil, or_false] at hp
    rcases hp with rfl | rfl
    · rcases hlevel with rfl | hbelow
      · exact hliteral _ rfl
      · obtain ⟨q, hq, _⟩ := hbelow.exists_child
        cases hq
    · rcases hlevel with rfl | hbelow
      · exact hcounted _ rfl
      · obtain ⟨q, hq, hlevel⟩ := hbelow.exists_child
        obtain rfl := List.mem_singleton.mp hq
        rcases hlevel with rfl | hbelow
        · exact hcounted _ rfl
        · obtain ⟨q, hq, _⟩ := hbelow.exists_child
          cases hq
  exact ⟨hmeasured, toOption_eq_some (by decide +kernel),
    Table.decode_total _ (fun _ => hmeasured) _⟩

/-! ### Missing names -/

namespace Trie

variable {t level : Trie} {input rest path : List UInt8} {depth : Nat} {e : SizeError}

/-- A descent at the front of an input comes to a level, whose size is then asked for. -/
def Visits [Host] (root : Trie) (input : List UInt8) (level : Trie) : Prop :=
  ∃ b rest first path, input = b :: rest ∧ root.child? b = some first ∧ path <+: rest ∧
    first.Leads input 1 path level

/-- Where a level that a descent comes to has no size, the descent fails. The induction is on the
path that leads there: on it every level has a size. -/
theorem Leads.descend_error [Host] (h : Leads input t depth path level) (hpath : path <+: rest)
    (he : level.runSize input = .error e) : t.descend input depth rest = .error e := by
  induction h generalizing rest with
  | stop t depth =>
    cases rest with
    | nil =>
      rw [descend, he]
      rfl
    | cons b rest =>
      rw [descend, he]
      rfl
  | step hsize hdeep hchild _ ih =>
    obtain ⟨left, rfl⟩ := hpath
    rw [List.cons_append, descend, hsize]
    simp only [bind, Except.bind, hdeep, if_true, hchild]
    exact ih (List.prefix_append _ left) he

theorem Visits.runAt_error [Host] {root : Trie} {b : UInt8} (h : root.Visits (b :: rest) level)
    (he : level.runSize (b :: rest) = .error e) : root.runAt b rest = .error e := by
  obtain ⟨_, _, first, path, hinput, hchild, hpath, hleads⟩ := h
  cases hinput
  simp only [runAt, hchild, hleads.descend_error hpath he]
  rfl

end Trie

namespace Table

variable {t : Table} {input rest : List UInt8} {position : Nat}

section

variable [Host]

/-- Decoding comes to a position with what is left of its input. -/
inductive Reaches (t : Table) (input : List UInt8) : Nat → List UInt8 → Prop where
  | start : Reaches t input 0 input
  | behind {position : Nat} {b : UInt8} {rest : List UInt8} {run : Run} :
      Reaches t input position (b :: rest) → t.runAt position b rest = .ok run →
      Reaches t input (position + run.length) ((b :: rest).drop run.length)

/-- Runs behind a run. -/
theorem runsFrom_behind (ht : t.WellFormed) {b : UInt8} {run : Run}
    (hrun : t.runAt position b rest = .ok run) :
    runsFrom t.runAt 0 position (b :: rest) = do
      return run ::
        (← runsFrom t.runAt 0 (position + run.length) ((b :: rest).drop run.length)) := by
  obtain ⟨s, _, hsegment⟩ := t.runAt_ok ht position b rest run hrun
  obtain ⟨k, hk⟩ : ∃ k, run.length = k + 1 := by
    refine Nat.exists_eq_add_one_of_ne_zero ?_
    rw [hsegment.length]
    exact (List.length_pos_iff.mpr hsegment.nonempty).ne'
  have hposition : position + 1 + k = position + (k + 1) := by omega
  rw [runsFrom, hrun]
  simp only [bind, Except.bind]
  rw [hk, List.drop_succ_cons, Nat.add_sub_cancel, runsFrom_skip, hposition]

/-- A fault at a position that decoding comes to is that of decoding. -/
theorem Reaches.decode_error (h : t.Reaches input position rest) (ht : t.WellFormed)
    {e : Located SizeError} (he : runsFrom t.runAt 0 position rest = .error e) :
    t.decode input = .error e := by
  induction h with
  | start =>
    rw [decode, Table.runs, he]
    rfl
  | behind _ hrun ih =>
    refine ih ?_
    rw [runsFrom_behind ht hrun, he]
    rfl

theorem runsFrom_error (hpatterns : t.patterns = []) {level : Trie} {e : SizeError}
    (hvisits : t.root.Visits rest level) (he : level.runSize rest = .error e) :
    runsFrom t.runAt 0 position rest = .error ⟨e, t.place position e⟩ := by
  obtain ⟨b, more, _, _, rfl, _⟩ := id hvisits
  have hpatterns : t.patterns.isEmpty = true := by rw [hpatterns]; rfl
  rw [runsFrom, Table.runAt, if_pos hpatterns, hvisits.runAt_error he]
  rfl

/-- A name that is missing at a level shortens the run only if it is the name of a byte behind the
input, and every other name is reported with the table and the position. -/
structure SparesBytesOnly (t : Table) (input : List UInt8) (position : Nat) (rest : List UInt8)
    (level : Trie) (name : String) : Prop where
  shortened : level.runSize rest = .ok rest.length → ∃ k, name = argumentName k ∧ rest.length ≤ k
  reported : (¬ ∃ k, name = argumentName k ∧ rest.length ≤ k) →
    t.decode input = .error ⟨.invalid level.size (.failed (.unbound name)),
      [t.name ++ Located.index position]⟩

end

/-- A name is missing at a level that decoding comes to. It is told apart from a byte that is not
there any more only by how much is left: the run takes the rest if the window is cut short, and the
name is reported if it is not. So only bytes are spared exactly if the name is that of a byte or the
window is full; in particular wherever sizes look up nothing but bytes. -/
theorem spares_bytes_only_iff [Host] (hpatterns : t.patterns = []) {level : Trie} {name : String}
    (hreaches : t.Reaches input position rest) (hvisits : t.root.Visits rest level)
    (hlacks : level.Lacks rest name) :
    level.runSize rest = (if rest.length < maxArguments then .ok rest.length
        else .error (.invalid level.size (.failed (.unbound name)))) ∧
      (t.SparesBytesOnly input position rest level name ↔
        (∃ k, name = argumentName k) ∨ maxArguments ≤ rest.length) ∧
      ((∀ e, Expression.Expr.read level.size = .ok e →
          ∀ x ∈ e.names, ∃ k, x = argumentName k) →
        t.SparesBytesOnly input position rest level name) := by
  have hformed : t.WellFormed := by
    intro p hp
    rw [hpatterns] at hp
    cases hp
  obtain ⟨e, hread, hname, hlookup⟩ := Expression.evaluateSize_unbound hlacks
  have hcut (hshort : rest.length < maxArguments) : level.runSize rest = .ok rest.length :=
    level.runSize_of_lacks hlacks hshort
  have hreport (hfull : maxArguments ≤ rest.length) :
      level.runSize rest = .error (.invalid level.size (.failed (.unbound name))) :=
    level.runSize_of_lacks_full hlacks hfull
  have hbehind (k : Nat) (hk : name = argumentName k) (hshort : rest.length < maxArguments) :
      rest.length ≤ k := by
    rw [List.take_of_length_le hshort.le, hk] at hlookup
    exact Expression.length_le_of_lookup_argumentName hshort.le hlookup
  have hspares : t.SparesBytesOnly input position rest level name ↔
      (∃ k, name = argumentName k) ∨ maxArguments ≤ rest.length := by
    constructor
    · intro h
      by_cases hfull : maxArguments ≤ rest.length
      · exact .inr hfull
      · obtain ⟨k, hk, _⟩ := h.shortened (hcut (not_le.mp hfull))
        exact .inl ⟨k, hk⟩
    · intro h
      by_cases hfull : maxArguments ≤ rest.length
      · refine ⟨fun hsize => ?_, fun _ => ?_⟩
        · rw [hreport hfull] at hsize
          cases hsize
        · exact hreaches.decode_error hformed (runsFrom_error hpatterns hvisits (hreport hfull))
      · have hshort := not_le.mp hfull
        obtain ⟨k, hk⟩ := h.resolve_right hfull
        exact ⟨fun _ => ⟨k, hk, hbehind k hk hshort⟩,
          fun hnone => absurd ⟨k, hk, hbehind k hk hshort⟩ hnone⟩
  refine ⟨?_, hspares, fun hnames => hspares.mpr (.inl (hnames e hread name hname))⟩
  split
  · next hshort => exact hcut hshort
  · next hfull => exact hreport (not_lt.mp hfull)

/-- The count of a run is behind the input: the run takes the byte that is left. -/
theorem sampleCountedTable_spares :
    sampleCountedTable.patterns = [] ∧ sampleCountedTable.Reaches [0x41, 0x80] 1 [0x80] ∧
      sampleCountedTable.root.Visits [0x80] sampleCounted ∧
      sampleCounted.Lacks [0x80] (argumentName 1) ∧ sampleCounted.runSize [0x80] = .ok 1 ∧
      sampleCountedTable.SparesBytesOnly [0x41, 0x80] 1 [0x80] sampleCounted (argumentName 1) := by
  have hrun : sampleCountedTable.runAt 0 0x41 [0x80] = .ok ⟨1, "A", []⟩ := rfl
  have hreaches : sampleCountedTable.Reaches [0x41, 0x80] 1 [0x80] := .behind .start hrun
  have hvisits : sampleCountedTable.root.Visits [0x80] sampleCounted :=
    ⟨0x80, [], sampleCounted, [], rfl, rfl, List.prefix_rfl, .stop _ _⟩
  have hlacks : sampleCounted.Lacks [0x80] (argumentName 1) := by
    unfold Trie.Lacks
    decide +kernel
  obtain ⟨hsize, hspares, _⟩ := spares_bytes_only_iff rfl hreaches hvisits hlacks
  exact ⟨rfl, hreaches, hvisits, hlacks, hsize, hspares.mpr (.inl ⟨1, rfl⟩)⟩

/-- A level whose size is a name that no byte has. -/
def sampleMisspelled : Trie := .node "LEN" none []

def sampleMisspelledTable : Table where
  name := "Main"
  root := .node "1" none [(0x80, sampleMisspelled)]

/-- A name that no byte has is spared where the window is cut short. -/
theorem sampleMisspelledTable_not_reported :
    sampleMisspelledTable.patterns = [] ∧ sampleMisspelledTable.Reaches [0x80] 0 [0x80] ∧
      sampleMisspelledTable.root.Visits [0x80] sampleMisspelled ∧
      sampleMisspelled.Lacks [0x80] "LEN" ∧ (¬ ∃ k, "LEN" = argumentName k) ∧
      sampleMisspelledTable.decode [0x80] = .ok "[80]" ∧
      ¬ sampleMisspelledTable.SparesBytesOnly [0x80] 0 [0x80] sampleMisspelled "LEN" := by
  have hname : ¬ ∃ k, "LEN" = argumentName k := by
    rintro ⟨k, hk⟩
    have hfirst : "LEN".toList.head? = some 'A' := by
      rw [hk]
      exact Expression.head?_argumentName k
    revert hfirst
    decide
  have hlacks : sampleMisspelled.Lacks [0x80] "LEN" := by
    unfold Trie.Lacks
    decide +kernel
  have hdecode : sampleMisspelledTable.decode [0x80] = .ok "[80]" :=
    toOption_eq_some (by decide +kernel)
  refine ⟨rfl, .start, ⟨0x80, [], sampleMisspelled, [], rfl, rfl, List.prefix_rfl, .stop _ _⟩,
    hlacks, hname, hdecode, fun hspares => ?_⟩
  have hreported := hspares.reported fun ⟨k, hk, _⟩ => hname ⟨k, hk⟩
  rw [hdecode] at hreported
  cases hreported

end Table

end GameAtlas.Script
