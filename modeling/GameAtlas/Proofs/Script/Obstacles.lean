import Mathlib.Tactic
import GameAtlas.Proofs.Data.Outcome
import GameAtlas.Proofs.Yaml.Contained
import GameAtlas.Script.Loading

/-!
All that is wrong with the description of a table, in the order in which it is met: a table is not
read because of the first of it. Most is a defect of the description. Some is the fault of a value
that is converted without a guard, and these values are told one by one.
-/

namespace GameAtlas.Script

open Yaml (Node ConversionFault)

namespace Loading

/-! ### Trees -/

/-- What is wrong with what stands under a key, if it is there. -/
def wrongUnder (key : String) (pairs : List (Node × Node)) (wrong : Node → List Obstacle) :
    List Obstacle :=
  match Node.get? key pairs with
  | some n => wrong n
  | none => []

/-- Whether a key speaks of a level itself. -/
def isLevelKey (k : Node) : Bool := levelKeys.contains k.keyText

/-- What is wrong with the parts of a tree. -/
structure Wrong where
  /-- with a level, before its pairs are read one by one -/
  first : List (Node × Node) → List Obstacle
  /-- with what stands under a key of a level itself, in its turn -/
  level : Node → List Obstacle
  /-- with a scalar under a byte -/
  value : Node → List Obstacle
  /-- with what is no mapping -/
  notTree : Defect
  /-- with a sequence under a byte -/
  notValue : String → Defect

mutual

/-- All that is wrong with a level and with what lies below it. -/
def Wrong.tree [Host] (w : Wrong) (n : Node) : List Obstacle :=
  match n with
  | .mapping _ pairs _ _ => w.first pairs ++ w.pairs pairs
  | _ => [.defect w.notTree]
termination_by structural n

def Wrong.pairs [Host] (w : Wrong) (pairs : List (Node × Node)) : List Obstacle :=
  match pairs with
  | [] => []
  | (k, v) :: rest =>
    (if isLevelKey k then w.level v
     else
      failures (byte k) ++
        (if v.isMapping then w.tree v
         else if v.isScalar then w.value v
         else [.defect (w.notValue k.keyText)])) ++ w.pairs rest
termination_by structural pairs

end

/-- Sizes are converted. Those of a level are read before its pairs. -/
def wrongSizes [Host] : Wrong where
  first pairs := levelKeys.flatMap fun key => wrongUnder key pairs fun v => failures (sizeText v)
  level _ := []
  value v := failures (sizeText v)
  notTree := .lengthsNotMapping
  notValue := .lengthNotSize

/-- Texts are taken as they stand. Those of a level are read in their turn. -/
def wrongTexts : Wrong where
  first _ := []
  level v := failures (ofConversion v.scalarText)
  value v := failures (ofConversion v.scalarText)
  notTree := .replacementsNotMapping
  notValue := .replacementNotText

theorem stopsAt_levelSize [Host] (pairs : List (Node × Node)) (keys : List String) (t : Trie) :
    StopsAt (levelSize t pairs keys)
      (keys.flatMap fun key => wrongUnder key pairs fun v => failures (sizeText v)) := by
  induction keys generalizing t with
  | nil => rfl
  | cons key rest ih =>
    rw [levelSize, List.flatMap_cons, wrongUnder]
    cases Node.get? key pairs with
    | none => exact ih t
    | some v => exact (stopsAt_failures (sizeText v)).bind fun size _ => ih (t.withSize size)

/-- A step over the pairs of a tree, where something is read under a byte and the rest is read with
it. -/
theorem stopsAt_below {α : Type} {v : Node} {tree value : Loading Trie} {defect : Defect}
    {next : Trie → Loading α} {below scalar more : List Obstacle} (htree : StopsAt tree below)
    (hvalue : StopsAt value scalar) (hnext : ∀ child, StopsAt (next child) more) :
    StopsAt
      (if v.isMapping then tree >>= next
       else if v.isScalar then value >>= next
       else refuse defect >>= next)
      ((if v.isMapping then below else if v.isScalar then scalar else [.defect defect]) ++
        more) := by
  split
  · exact htree.bind fun child _ => hnext child
  · split
    · exact hvalue.bind fun child _ => hnext child
    · rfl

theorem stopsAt_lengthPairs [Host] {pairs : List (Node × Node)}
    (h : ∀ p ∈ pairs, ∀ t, StopsAt (lengths t p.2) (wrongSizes.tree p.2)) (t : Trie) :
    StopsAt (lengthPairs t pairs) (wrongSizes.pairs pairs) := by
  induction pairs generalizing t with
  | nil => rfl
  | cons p rest ih =>
    obtain ⟨k, v⟩ := p
    have hrest := ih fun q hq => h q (List.mem_cons_of_mem _ hq)
    rw [lengthPairs, Wrong.pairs, isLevelKey]
    split
    · exact hrest t
    · rw [List.append_assoc]
      refine (stopsAt_failures (byte k)).bind fun b _ => ?_
      exact stopsAt_below (h (k, v) List.mem_cons_self _) ((stopsAt_failures (sizeText v)).map _)
        fun child => hrest _

theorem stopsAt_replacementPairs [Host] {pairs : List (Node × Node)}
    (h : ∀ p ∈ pairs, ∀ t, StopsAt (replacements t p.2) (wrongTexts.tree p.2)) (t : Trie) :
    StopsAt (replacementPairs t pairs) (wrongTexts.pairs pairs) := by
  induction pairs generalizing t with
  | nil => rfl
  | cons p rest ih =>
    obtain ⟨k, v⟩ := p
    have hrest := ih fun q hq => h q (List.mem_cons_of_mem _ hq)
    have htext := stopsAt_failures (ofConversion v.scalarText)
    rw [replacementPairs, Wrong.pairs, isLevelKey]
    split
    · exact htext.bind fun text _ => hrest _
    · rw [List.append_assoc]
      refine (stopsAt_failures (byte k)).bind fun b _ => ?_
      exact stopsAt_below (h (k, v) List.mem_cons_self _) (htext.map _) fun child => hrest _

/-- Trees of sizes are read up to the first thing wrong, whatever they are added to. -/
theorem stopsAt_lengths [Host] (n : Node) (t : Trie) :
    StopsAt (lengths t n) (wrongSizes.tree n) := by
  induction n using Node.children_induction generalizing t with
  | step n ih =>
    cases n with
    | scalar => rfl
    | sequence => rfl
    | mapping tag pairs flow share =>
      rw [lengths, Wrong.tree]
      refine (stopsAt_levelSize pairs levelKeys t).bind fun level _ => ?_
      refine stopsAt_lengthPairs (fun p hp => ih p.2 ?_) level
      exact List.mem_flatMap.mpr ⟨p, hp, by simp⟩

theorem stopsAt_replacements [Host] (n : Node) (t : Trie) :
    StopsAt (replacements t n) (wrongTexts.tree n) := by
  induction n using Node.children_induction generalizing t with
  | step n ih =>
    cases n with
    | scalar => rfl
    | sequence => rfl
    | mapping tag pairs flow share =>
      rw [replacements, Wrong.tree]
      refine stopsAt_replacementPairs (fun p hp => ih p.2 ?_) t
      exact List.mem_flatMap.mpr ⟨p, hp, by simp⟩

/-! ### Patterns -/

def isWildcard : Node → Bool
  | .scalar _ text _ _ => Text.toUpper text == wildcard
  | _ => false

/-- The items of a sequence, or the one that stands for it. -/
def itemsOf : Node → List Node
  | .sequence _ items _ _ => items
  | n => [n]

/-- A pattern has to start with a byte. -/
def wrongStart : List Node → List Obstacle
  | [] => [.defect .openStart]
  | n :: _ => if isWildcard n then [.defect .openStart] else []

section

variable [Host]

/-- All that is wrong with a pattern. -/
def wrongPattern : Node → List Obstacle
  | .mapping _ pairs _ _ =>
    match Node.get? "Sequence" pairs with
    | none => [.defect .noSequence]
    | some n =>
      (itemsOf n).flatMap (fun item => failures (patternByte item)) ++
        (wrongUnder "Replacement" pairs (fun v => failures (ofConversion v.scalarText)) ++
          wrongStart (itemsOf n))
  | _ => [.defect .noSequence]

theorem patternByte_eq (n : Node) :
    patternByte n = if isWildcard n then .ok none else some <$> byte n := by
  cases n with
  | scalar tag text style share => simp only [patternByte, isWildcard, beq_iff_eq]
  | sequence => rfl
  | mapping => rfl

theorem patternByte_ok {n : Node} {b : Option UInt8} (h : patternByte n = .ok b) :
    b.isNone = isWildcard n := by
  rw [patternByte_eq] at h
  split at h
  · next hwild =>
    cases h
    exact hwild.symm
  · next hwild =>
    obtain ⟨_, _, rfl⟩ := map_eq_ok_iff.mp h
    exact (Bool.eq_false_of_not_eq_true hwild).symm

theorem stopsAt_checked {items : List Node} {bytes : List (Option UInt8)}
    (h : items.mapM patternByte = .ok bytes) (replacement : Option String) :
    StopsAt (checked ⟨bytes, replacement⟩) (wrongStart items) := by
  cases items with
  | nil =>
    cases h
    rfl
  | cons n rest =>
    rw [List.mapM_cons] at h
    obtain ⟨b, hb, h⟩ := bind_eq_ok_iff.mp h
    obtain ⟨more, _, h⟩ := bind_eq_ok_iff.mp h
    cases h
    have hwild := patternByte_ok hb
    rw [checked, wrongStart, ← hwild]
    cases b <;> rfl

theorem stopsAt_pattern (n : Node) : StopsAt (pattern n) (wrongPattern n) := by
  cases n with
  | scalar => rfl
  | sequence => rfl
  | mapping tag pairs flow share =>
    rw [pattern, wrongPattern]
    cases hsequence : Node.get? "Sequence" pairs with
    | none => rfl
    | some n =>
      have hitems := stopsAt_mapM fun item (_ : item ∈ itemsOf n) =>
        stopsAt_failures (patternByte item)
      refine hitems.bind fun bytes hbytes => ?_
      rw [wrongUnder]
      cases Node.get? "Replacement" pairs with
      | none => exact stopsAt_checked hbytes none
      | some v =>
        have htext := (stopsAt_failures (ofConversion v.scalarText)).map some
        exact htext.bind fun replacement _ => stopsAt_checked hbytes replacement

end

/-! ### Tables -/

def wrongTrie [Host] (pairs : List (Node × Node)) : List Obstacle :=
  (match pairs.find? fun p => !tableKeys.contains p.1.keyText with
    | some (k, _) => [.defect (.unknownKey k.keyText)]
    | none => []) ++
    (wrongUnder "Lengths" pairs wrongSizes.tree ++ wrongUnder "Replacements" pairs wrongTexts.tree)

/-- All that is wrong with the description of a table. -/
def wrongTable [Host] : Node → List Obstacle
  | .sequence _ items _ _ => items.flatMap wrongPattern
  | .mapping _ pairs _ _ => wrongTrie pairs
  | .scalar .. => [.defect .notTable]

theorem stopsAt_trie [Host] (pairs : List (Node × Node)) :
    StopsAt (trie pairs) (wrongTrie pairs) := by
  have hreplacements (t : Trie) : StopsAt
      (match Node.get? "Replacements" pairs with
        | some n => replacements t n
        | none => pure t)
      (wrongUnder "Replacements" pairs wrongTexts.tree) := by
    rw [wrongUnder]
    cases Node.get? "Replacements" pairs with
    | none => rfl
    | some n => exact stopsAt_replacements n t
  rw [trie, wrongTrie]
  cases pairs.find? fun p => !tableKeys.contains p.1.keyText with
  | some p => rfl
  | none =>
    rw [List.nil_append, wrongUnder]
    cases Node.get? "Lengths" pairs with
    | none => exact hreplacements .empty
    | some n => exact (stopsAt_lengths n .empty).bind fun t _ => hreplacements t

/-- A table is read up to the first thing wrong. -/
theorem stopsAt_table [Host] (name : String) (n : Node) :
    StopsAt (Table.ofNode name n) (wrongTable n) := by
  cases n with
  | scalar => rfl
  | sequence tag items flow share =>
    have hitems := stopsAt_mapM fun item (_ : item ∈ items) => stopsAt_pattern item
    exact hitems.map fun patterns => ({ name := name, patterns := patterns } : Table)
  | mapping tag pairs flow share =>
    exact (stopsAt_trie pairs).map fun root => ({ name := name, root := root } : Table)

/-! ### Conversions without a guard -/

section

variable [Host]

/-- A key that is to be a byte is a scalar that faults, or a number that is no byte and too great to
be told of. Any other one that is no byte is a defect. -/
inductive ByteLeaks (k : Node) : ConversionFault → Prop where
  | value {fault : ConversionFault} : k.integer = .error fault → (∀ m, fault ≠ .misfit m) →
      ByteLeaks k fault
  | number {value : Int} {fault : DigitFault} : k.integer = .ok value →
      ¬ (0 ≤ value ∧ value ≤ 0xFF) → Host.writingFault? value = some fault →
      ByteLeaks k (.misfit (.digits fault))

/-- Something in a tree faults: a value of a level, or a key that is to be a byte. -/
inductive Leaks (values : List (Node × Node) → ConversionFault → Prop) :
    Node → ConversionFault → Prop where
  | value {tag : String} {pairs : List (Node × Node)} {flow : Bool} {share : Option Nat}
      {fault : ConversionFault} : values pairs fault →
      Leaks values (.mapping tag pairs flow share) fault
  | byte {tag : String} {pairs : List (Node × Node)} {flow : Bool} {share : Option Nat}
      {fault : ConversionFault} {p : Node × Node} : p ∈ pairs → isLevelKey p.1 = false →
      ByteLeaks p.1 fault → Leaks values (.mapping tag pairs flow share) fault
  | deeper {tag : String} {pairs : List (Node × Node)} {flow : Bool} {share : Option Nat}
      {fault : ConversionFault} {p : Node × Node} : p ∈ pairs → isLevelKey p.1 = false →
      Leaks values p.2 fault → Leaks values (.mapping tag pairs flow share) fault

/-- A scalar that is to be a size faults. -/
def SizeLeaks (pairs : List (Node × Node)) (fault : ConversionFault) : Prop :=
  ∃ v, v.isScalar = true ∧ v.valueText = .error fault ∧
    ((∃ key ∈ levelKeys, Node.get? key pairs = some v) ∨
      ∃ k, (k, v) ∈ pairs ∧ isLevelKey k = false)

/-- The text of a level is no scalar. -/
def TextLeaks (pairs : List (Node × Node)) (fault : ConversionFault) : Prop :=
  ∃ p ∈ pairs, isLevelKey p.1 = true ∧ p.2.scalarText = .error fault

/-- A byte of a pattern faults, or its text is no scalar. -/
inductive PatternLeaks : Node → ConversionFault → Prop where
  | byte {tag : String} {pairs : List (Node × Node)} {flow : Bool} {share : Option Nat}
      {fault : ConversionFault} {n item : Node} : Node.get? "Sequence" pairs = some n →
      item ∈ itemsOf n → isWildcard item = false → ByteLeaks item fault →
      PatternLeaks (.mapping tag pairs flow share) fault
  | text {tag : String} {pairs : List (Node × Node)} {flow : Bool} {share : Option Nat}
      {fault : ConversionFault} {n v : Node} : Node.get? "Sequence" pairs = some n →
      Node.get? "Replacement" pairs = some v → v.scalarText = .error fault →
      PatternLeaks (.mapping tag pairs flow share) fault

/-- Something in the description of a table faults, without a guard that makes a defect of it. -/
inductive TableLeaks : Node → ConversionFault → Prop where
  | sizes {tag : String} {pairs : List (Node × Node)} {flow : Bool} {share : Option Nat}
      {fault : ConversionFault} {n : Node} : Node.get? "Lengths" pairs = some n →
      Leaks SizeLeaks n fault → TableLeaks (.mapping tag pairs flow share) fault
  | texts {tag : String} {pairs : List (Node × Node)} {flow : Bool} {share : Option Nat}
      {fault : ConversionFault} {n : Node} : Node.get? "Replacements" pairs = some n →
      Leaks TextLeaks n fault → TableLeaks (.mapping tag pairs flow share) fault
  | pattern {tag : String} {items : List Node} {flow : Bool} {share : Option Nat}
      {fault : ConversionFault} {item : Node} : item ∈ items → PatternLeaks item fault →
      TableLeaks (.sequence tag items flow share) fault

end

variable {n : Node} {fault : ConversionFault}

theorem not_mem_defect {d : Defect} : .conversion fault ∉ [Obstacle.defect d] := by
  intro h
  cases List.mem_singleton.mp h

theorem mem_failures_byte [Host] : .conversion fault ∈ failures (byte n) ↔ ByteLeaks n fault := by
  rw [mem_failures, byte]
  constructor
  · intro h
    split at h
    · next value hvalue =>
      split at h
      · cases h
      · next hrange =>
        split at h
        · next d hd =>
          cases h
          exact .number hvalue hrange hd
        · cases h
    · cases h
    · next f hmisfit hfault =>
      cases h
      exact .value hfault hmisfit
  · intro h
    cases h with
    | value hfault hmisfit =>
      rw [hfault]
      split
      · next heq => cases heq
      · next m heq =>
        cases heq
        exact absurd rfl (hmisfit m)
      · next heq =>
        cases heq
        rfl
    | number hvalue hrange hd =>
      rw [hvalue]
      dsimp only
      rw [if_neg hrange, hd]

theorem mem_failures_ofConversion {α : Type} {c : Yaml.Conversion α} :
    .conversion fault ∈ failures (ofConversion c) ↔ c = .error fault := by
  rw [mem_failures]
  cases c with
  | ok text => exact ⟨nofun, nofun⟩
  | error f =>
    constructor
    · intro h
      cases h
      rfl
    · intro h
      cases h
      rfl

theorem mem_failures_size [Host] :
    .conversion fault ∈ failures (sizeText n) ↔
      n.isScalar = true ∧ n.valueText = .error fault := by
  rw [sizeText]
  split
  · next hscalar => rw [mem_failures_ofConversion, and_iff_right hscalar]
  · next hscalar => exact iff_of_false not_mem_defect fun h => hscalar h.1

theorem mem_wrongUnder {key : String} {pairs : List (Node × Node)} {wrong : Node → List Obstacle}
    {o : Obstacle} :
    o ∈ wrongUnder key pairs wrong ↔ ∃ n, Node.get? key pairs = some n ∧ o ∈ wrong n := by
  rw [wrongUnder]
  cases Node.get? key pairs with
  | none => simp
  | some n => simp

/-- The values of a tree that fault, as its list tells it. -/
def Wrong.values (w : Wrong) (pairs : List (Node × Node)) (fault : ConversionFault) : Prop :=
  .conversion fault ∈ w.first pairs ∨ ∃ p ∈ pairs,
    isLevelKey p.1 = true ∧ .conversion fault ∈ w.level p.2 ∨
      isLevelKey p.1 = false ∧ p.2.isScalar = true ∧ .conversion fault ∈ w.value p.2

/-- What is wrong with what stands under a byte: only mappings are looked into. -/
theorem mem_under_byte [Host] {w : Wrong} {v : Node} (key : String)
    (h : .conversion fault ∈ w.tree v ↔ Leaks w.values v fault) :
    .conversion fault ∈ (if v.isMapping then w.tree v
        else if v.isScalar then w.value v else [.defect (w.notValue key)]) ↔
      Leaks w.values v fault ∨ v.isScalar = true ∧ .conversion fault ∈ w.value v := by
  cases v with
  | mapping tag pairs flow share =>
    have hscalar : Node.isScalar (.mapping tag pairs flow share) = false := rfl
    simpa [Node.isMapping, hscalar] using h
  | scalar tag text style share =>
    constructor
    · exact fun hvalue => .inr ⟨rfl, hvalue⟩
    · rintro (hleaks | ⟨_, hvalue⟩)
      · cases hleaks
      · exact hvalue
  | sequence tag items flow share =>
    refine iff_of_false not_mem_defect ?_
    rintro (hleaks | ⟨hscalar, _⟩)
    · cases hleaks
    · cases hscalar

theorem mem_pairs [Host] {w : Wrong} {pairs : List (Node × Node)}
    (h : ∀ p ∈ pairs, .conversion fault ∈ w.tree p.2 ↔ Leaks w.values p.2 fault) :
    .conversion fault ∈ w.pairs pairs ↔ ∃ p ∈ pairs,
      isLevelKey p.1 = true ∧ .conversion fault ∈ w.level p.2 ∨
        isLevelKey p.1 = false ∧ (ByteLeaks p.1 fault ∨ Leaks w.values p.2 fault ∨
          p.2.isScalar = true ∧ .conversion fault ∈ w.value p.2) := by
  induction pairs with
  | nil => simp [Wrong.pairs]
  | cons p rest ih =>
    obtain ⟨k, v⟩ := p
    have hhere := mem_under_byte k.keyText (h (k, v) List.mem_cons_self)
    rw [Wrong.pairs, List.mem_append, List.exists_mem_cons_iff,
      ih fun q hq => h q (List.mem_cons_of_mem _ hq)]
    refine or_congr_left ?_
    cases isLevelKey k with
    | true => simp
    | false => simp [mem_failures_byte, hhere]

theorem mem_tree [Host] (w : Wrong) (n : Node) :
    .conversion fault ∈ w.tree n ↔ Leaks w.values n fault := by
  induction n using Node.children_induction with
  | step n ih =>
    cases n with
    | scalar => exact iff_of_false not_mem_defect nofun
    | sequence => exact iff_of_false not_mem_defect nofun
    | mapping tag pairs flow share =>
      have hbelow : ∀ p ∈ pairs, .conversion fault ∈ w.tree p.2 ↔ Leaks w.values p.2 fault :=
        fun p hp => ih p.2 (List.mem_flatMap.mpr ⟨p, hp, by simp⟩)
      rw [Wrong.tree, List.mem_append, mem_pairs hbelow]
      constructor
      · rintro (hfirst | ⟨p, hp, ⟨hlevel, hin⟩ | ⟨hlevel, hbyte | hdeeper | hvalue⟩⟩)
        · exact .value (.inl hfirst)
        · exact .value (.inr ⟨p, hp, .inl ⟨hlevel, hin⟩⟩)
        · exact .byte hp hlevel hbyte
        · exact .deeper hp hlevel hdeeper
        · exact .value (.inr ⟨p, hp, .inr ⟨hlevel, hvalue⟩⟩)
      · intro h
        cases h with
        | value hvalue =>
          rcases hvalue with hfirst | ⟨p, hp, hin | ⟨hlevel, hvalue⟩⟩
          · exact .inl hfirst
          · exact .inr ⟨p, hp, .inl hin⟩
          · exact .inr ⟨p, hp, .inr ⟨hlevel, .inr (.inr hvalue)⟩⟩
        | byte hp hlevel hbyte => exact .inr ⟨_, hp, .inr ⟨hlevel, .inl hbyte⟩⟩
        | deeper hp hlevel hdeeper => exact .inr ⟨_, hp, .inr ⟨hlevel, .inr (.inl hdeeper)⟩⟩

theorem values_wrongSizes [Host] : wrongSizes.values = SizeLeaks := by
  funext pairs fault
  apply propext
  constructor
  · rintro (hfirst | ⟨p, hp, ⟨_, hlevel⟩ | ⟨hlevel, _, hvalue⟩⟩)
    · obtain ⟨key, hkey, hunder⟩ := List.mem_flatMap.mp hfirst
      obtain ⟨v, hv, hsize⟩ := mem_wrongUnder.mp hunder
      obtain ⟨hscalar, hdatum⟩ := mem_failures_size.mp hsize
      exact ⟨v, hscalar, hdatum, .inl ⟨key, hkey, hv⟩⟩
    · cases hlevel
    · obtain ⟨hscalar, hdatum⟩ := mem_failures_size.mp hvalue
      exact ⟨p.2, hscalar, hdatum, .inr ⟨p.1, hp, hlevel⟩⟩
  · rintro ⟨v, hscalar, hdatum, ⟨key, hkey, hv⟩ | ⟨k, hk, hlevel⟩⟩
    · have hsize := mem_failures_size.mpr ⟨hscalar, hdatum⟩
      exact .inl (List.mem_flatMap.mpr ⟨key, hkey, mem_wrongUnder.mpr ⟨v, hv, hsize⟩⟩)
    · exact .inr ⟨(k, v), hk, .inr ⟨hlevel, hscalar, mem_failures_size.mpr ⟨hscalar, hdatum⟩⟩⟩

theorem values_wrongTexts : wrongTexts.values = TextLeaks := by
  funext pairs fault
  apply propext
  constructor
  · rintro (hfirst | ⟨p, hp, ⟨hlevel, htext⟩ | ⟨_, hscalar, htext⟩⟩)
    · cases hfirst
    · exact ⟨p, hp, hlevel, mem_failures_ofConversion.mp htext⟩
    · have hfault := mem_failures_ofConversion.mp htext
      cases hv : p.2 with
      | scalar =>
        rw [hv] at hfault
        cases hfault
      | sequence =>
        rw [hv] at hscalar
        cases hscalar
      | mapping =>
        rw [hv] at hscalar
        cases hscalar
  · rintro ⟨p, hp, hlevel, htext⟩
    exact .inr ⟨p, hp, .inl ⟨hlevel, mem_failures_ofConversion.mpr htext⟩⟩

theorem not_mem_wrongStart (items : List Node) : .conversion fault ∉ wrongStart items := by
  unfold wrongStart
  split
  · exact not_mem_defect
  · split
    · exact not_mem_defect
    · exact nofun

theorem mem_failures_patternByte [Host] : .conversion fault ∈ failures (patternByte n) ↔
    isWildcard n = false ∧ ByteLeaks n fault := by
  rw [patternByte_eq]
  split
  · next hwild => exact iff_of_false nofun fun h => nomatch hwild.symm.trans h.1
  · next hwild =>
    rw [failures_map, mem_failures_byte, Bool.eq_false_of_not_eq_true hwild, eq_self, true_and]

theorem mem_wrongPattern [Host] : .conversion fault ∈ wrongPattern n ↔ PatternLeaks n fault := by
  cases n with
  | scalar => exact iff_of_false not_mem_defect nofun
  | sequence => exact iff_of_false not_mem_defect nofun
  | mapping tag pairs flow share =>
    rw [wrongPattern]
    cases hsequence : Node.get? "Sequence" pairs with
    | none =>
      refine iff_of_false not_mem_defect fun h => ?_
      cases h with
      | byte hn => cases hsequence.symm.trans hn
      | text hn => cases hsequence.symm.trans hn
    | some n =>
      constructor
      · intro h
        rcases List.mem_append.mp h with hitem | h
        · obtain ⟨item, hitem, hfault⟩ := List.mem_flatMap.mp hitem
          obtain ⟨hwild, hbyte⟩ := mem_failures_patternByte.mp hfault
          exact .byte hsequence hitem hwild hbyte
        · rcases List.mem_append.mp h with htext | hstart
          · obtain ⟨v, hv, htext⟩ := mem_wrongUnder.mp htext
            exact .text hsequence hv (mem_failures_ofConversion.mp htext)
          · exact absurd hstart (not_mem_wrongStart _)
      · intro h
        cases h with
        | byte hn hitem hwild hbyte =>
          cases hsequence.symm.trans hn
          have hfault := mem_failures_patternByte.mpr ⟨hwild, hbyte⟩
          exact List.mem_append_left _ (List.mem_flatMap.mpr ⟨_, hitem, hfault⟩)
        | text hn hv htext =>
          have hunder : .conversion fault ∈ wrongUnder "Replacement" pairs
              fun v => failures (ofConversion v.scalarText) :=
            mem_wrongUnder.mpr ⟨_, hv, mem_failures_ofConversion.mpr htext⟩
          exact List.mem_append_right _ (List.mem_append_left _ hunder)

theorem mem_wrongTable [Host] : .conversion fault ∈ wrongTable n ↔ TableLeaks n fault := by
  cases n with
  | scalar => exact iff_of_false not_mem_defect nofun
  | sequence tag items flow share =>
    constructor
    · intro h
      obtain ⟨item, hitem, hpattern⟩ := List.mem_flatMap.mp h
      exact .pattern hitem (mem_wrongPattern.mp hpattern)
    · intro h
      cases h with
      | pattern hitem hpattern =>
        exact List.mem_flatMap.mpr ⟨_, hitem, mem_wrongPattern.mpr hpattern⟩
  | mapping tag pairs flow share =>
    have hsizes (x : Node) : .conversion fault ∈ wrongSizes.tree x ↔ Leaks SizeLeaks x fault := by
      rw [mem_tree, values_wrongSizes]
    have htexts (x : Node) : .conversion fault ∈ wrongTexts.tree x ↔ Leaks TextLeaks x fault := by
      rw [mem_tree, values_wrongTexts]
    rw [wrongTable, wrongTrie, List.mem_append, List.mem_append, mem_wrongUnder, mem_wrongUnder]
    constructor
    · rintro (hunknown | ⟨x, hx, hfault⟩ | ⟨x, hx, hfault⟩)
      · split at hunknown
        · exact absurd hunknown not_mem_defect
        · cases hunknown
      · exact .sizes hx ((hsizes x).mp hfault)
      · exact .texts hx ((htexts x).mp hfault)
    · intro h
      cases h with
      | sizes hx hleaks => exact .inr (.inl ⟨_, hx, (hsizes _).mpr hleaks⟩)
      | texts hx hleaks => exact .inr (.inr ⟨_, hx, (htexts _).mpr hleaks⟩)

end Loading

end GameAtlas.Script
