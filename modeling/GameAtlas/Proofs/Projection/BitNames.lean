import Mathlib.Tactic
import GameAtlas.Projection.Document
import GameAtlas.Proofs.Projection.ByteOrder

/-!
Names of bits. A number that is not below zero has the bits of its word, and no others. One below
zero has all bits behind its word as well, so that a signed field with more names than bits is said
to have all that the names behind its word stand for, as soon as its highest bit is set.
-/

namespace GameAtlas.Projection

open Expression (Bindings)
open Image (Source Value decode)
open Schema (Field Game)

/-! ### Bits -/

theorem hasBit_natCast (word i : Nat) : hasBit word i = word.testBit i := by
  rw [hasBit, Nat.testBit_eq_decide_div_mod_eq, Int.fdiv_eq_ediv_of_nonneg _ (by positivity)]
  have hdiv : (word : Int) / (Nat.pow 2 i : Nat) % 2 = (word / 2 ^ i % 2 : Nat) := by
    push_cast
    rfl
  rw [hdiv]
  rcases Nat.mod_two_eq_zero_or_one (word / 2 ^ i) with h | h <;> simp [h]

/-- To take away a higher power of two changes no bit. -/
theorem hasBit_sub_two_pow {width i : Nat} (word : Nat) (hi : i < width) :
    hasBit ((word : Int) - 2 ^ width) i = word.testBit i := by
  obtain ⟨k, rfl⟩ : ∃ k, width = i + 1 + k := ⟨width - (i + 1), by omega⟩
  have hpos : (0 : Int) < (Nat.pow 2 i : Nat) := by exact_mod_cast Nat.two_pow_pos i
  have hsplit : (word : Int) - 2 ^ (i + 1 + k) = word + -(2 * 2 ^ k) * (Nat.pow 2 i : Nat) := by
    have hcast : ((Nat.pow 2 i : Nat) : Int) = 2 ^ i := by norm_cast
    rw [hcast]
    ring
  have hshift : ((word : Int) - 2 ^ (i + 1 + k)).fdiv (Nat.pow 2 i : Nat) =
      (word : Int).fdiv (Nat.pow 2 i : Nat) - 2 * 2 ^ k := by
    rw [hsplit, Int.add_mul_fdiv_right _ _ hpos.ne']
    ring
  rw [← hasBit_natCast, hasBit, hasBit, hshift]
  congr 1
  omega

/-- Numbers below zero go on with ones. -/
theorem hasBit_of_neg {width i : Nat} {n : Int} (hlow : -2 ^ width ≤ n) (hneg : n < 0)
    (hi : width ≤ i) : hasBit n i = true := by
  have hpow : (2 : Int) ^ width ≤ 2 ^ i := pow_le_pow_right₀ (by decide) hi
  have hcast : ((Nat.pow 2 i : Nat) : Int) = 2 ^ i := by norm_cast
  have hdiv : n.fdiv (Nat.pow 2 i : Nat) = -1 := by
    rw [Int.fdiv_eq_ediv_of_nonneg _ (by positivity), hcast]
    exact Int.ediv_eq_neg_one_of_neg_of_le hneg (by omega)
  rw [hasBit, hdiv]
  rfl

/-! ### Names -/

/-- The names of the set bits of a word of so many bits, the lowest bit first. A name behind the
word is the name of no bit of it. -/
def namesIn (width word : Nat) (names : List String) : List String :=
  (names.zipIdx.filter fun p => p.2 < width && word.testBit p.2).map Prod.fst

theorem bitNames_natCast {width word : Nat} (hword : word < 2 ^ width) (names : List String) :
    bitNames word names = namesIn width word names := by
  have hsame (i : Nat) : hasBit word i = (decide (i < width) && word.testBit i) := by
    rw [hasBit_natCast]
    by_cases hi : i < width
    · simp [hi]
    · have hbehind : word.testBit i = false :=
        Nat.testBit_lt_two_pow (hword.trans_le (Nat.pow_le_pow_right (by decide) (not_lt.mp hi)))
      simp [hi, hbehind]
  simp only [bitNames, namesIn, hsame]

/-- The names are split where the word ends: before it the two keep the same, and behind it the one
keeps all and the other none. -/
theorem filter_zipIdx_eq_append {width : Nat} (keep within : Nat → Bool) (names : List String)
    (hbefore : ∀ i < width, keep i = within i)
    (hbehind : ∀ i, width ≤ i → keep i = true ∧ within i = false) :
    (names.zipIdx.filter fun p => keep p.2).map Prod.fst =
      (names.zipIdx.filter fun p => within p.2).map Prod.fst ++ names.drop width := by
  have hsplit : names.zipIdx = (names.take width).zipIdx ++
      (names.drop width).zipIdx (min width names.length) := by
    conv_lhs => rw [← List.take_append_drop width names]
    rw [List.zipIdx_append, List.length_take, Nat.zero_add]
  have hlow : ∀ p ∈ (names.take width).zipIdx, keep p.2 = within p.2 := by
    intro p hp
    have hlast := (List.mem_zipIdx hp).2.1
    rw [List.length_take] at hlast
    exact hbefore _ (by omega)
  have hhigh : ∀ p ∈ (names.drop width).zipIdx (min width names.length),
      keep p.2 = true ∧ within p.2 = false := by
    intro p hp
    obtain ⟨hfirst, hlast, _⟩ := List.mem_zipIdx hp
    rw [List.length_drop] at hlast
    exact hbehind _ (by omega)
  have hall := List.filter_eq_self.mpr fun p hp => (hhigh p hp).1
  have hnone := List.filter_eq_nil_iff.mpr fun p hp => Bool.eq_false_iff.mp (hhigh p hp).2
  rw [hsplit, List.filter_append, List.filter_append, List.filter_congr hlow, hall, hnone,
    List.append_nil, List.map_append]
  exact congrArg _ (List.zipIdx_map_fst _ _)

/-- Of a number below zero, all names behind the word are reported. -/
theorem bitNames_sub_two_pow {width word : Nat} (hword : word < 2 ^ width) (names : List String) :
    bitNames ((word : Int) - 2 ^ width) names =
      namesIn width word names ++ names.drop width := by
  have hbound : (word : Int) < 2 ^ width := by exact_mod_cast hword
  refine filter_zipIdx_eq_append (hasBit (word - 2 ^ width))
    (fun i => i < width && word.testBit i) names ?before ?behind
  case before =>
    intro i hi
    simp [hi, hasBit_sub_two_pow word hi]
  case behind =>
    intro i hi
    exact ⟨hasBit_of_neg (by omega) (by omega) hi, by simp [not_lt.mpr hi]⟩

theorem bitNames_numberIn {signed : Bool} {n word : Nat} (hword : word < 2 ^ (8 * n))
    (names : List String) :
    bitNames (numberIn signed n word) names =
      namesIn (8 * n) word names ++
        if IsNegative signed n word then names.drop (8 * n) else [] := by
  unfold numberIn
  split
  · exact bitNames_sub_two_pow hword names
  · rw [List.append_nil]
    exact bitNames_natCast hword names

/-! ### Documents -/

theorem numberDoc_bitNames {f : Field} {n : Int} (hkind : f.kind = .integer ∨ f.kind = .bitfield)
    (hnames : f.bitValues ≠ []) (hlabel : f.kind = .integer → Keyed.get? n f.values = none) :
    numberDoc f n = .list ((bitNames n f.bitValues).map .text) := by
  have hbits : numberDoc.bitsDoc f n = .list ((bitNames n f.bitValues).map .text) :=
    if_neg (by simpa using hnames)
  unfold numberDoc
  rcases hkind with hkind | hkind
  · rw [hkind]
    dsimp only
    rw [hlabel hkind]
    exact hbits
  · rw [hkind]
    exact hbits

theorem textList_inj {first second : List String}
    (h : Doc.list (first.map .text) = .list (second.map .text)) : first = second :=
  List.map_injective_iff.mpr (fun _ _ => Doc.text.inj) (Doc.list.inj h)

/-- The document of a field with names for its bits, if its number has no name of its own, has the
names of the bits that are set in the word which its bytes spell; behind them come, if the field is
signed and the highest bit is set, all names behind the word. So it has the names of set bits and no
others exactly unless there are such names and the number is below zero. -/
theorem document_bitNames [Host] {f : Field} {bindings : Bindings} {s : Source} {bytes : List UInt8}
    (hkind : f.kind = .integer ∨ f.kind = .bitfield) (hnames : f.bitValues ≠ [])
    (hsize : f.resolvedSize bindings = .ok bytes.length) (hlength : bytes.length < Source.sizeLimit)
    (hbytes : StandsAt f s bytes)
    (hlabel : f.kind = .integer → ∀ n ∈ readNumber? f bindings s, Keyed.get? n f.values = none)
    (game : Option Game) :
    let width := 8 * bytes.length
    let word := wordOf f.endianness bytes
    let names := namesIn width word f.bitValues
    let behind :=
      if IsNegative f.signed bytes.length word then f.bitValues.drop width else []
    ∃ v, (decode f bindings s).1 = .ok v ∧
      toDocument game v = .ok (.list ((names ++ behind).map .text)) ∧
      (toDocument game v = .ok (.list (names.map .text)) ↔
        ¬ (IsNegative f.signed bytes.length word ∧ width < f.bitValues.length)) := by
  intro width word names behind
  have hform : f.kind.form = .number := by
    rcases hkind with hkind | hkind <;> rw [hkind] <;> rfl
  have hdecode := decode_number hform hsize hlength hbytes
  have hnumber := signedNumber_numberOf f.endianness f.signed bytes
  have hdocument : toDocument game (.number f bytes.length (Value.numberOf bytes)) =
      .ok (.list ((names ++ behind).map .text)) := by
    have hread : readNumber? f bindings s = some (numberIn f.signed bytes.length word) := by
      rw [readNumber?, hdecode, ← hnumber]
      rfl
    rw [toDocument, document, hnumber, numberDoc_bitNames hkind hnames
      fun h => hlabel h _ hread, bitNames_numberIn (wordOf_lt f.endianness bytes)]
  refine ⟨_, hdecode, hdocument, ?_⟩
  rw [hdocument]
  constructor
  · rintro h ⟨hnegative, hmore⟩
    have hnone : behind = [] := List.append_right_eq_self.mp (textList_inj (Except.ok.inj h))
    rw [show behind = f.bitValues.drop width from if_pos hnegative,
      List.drop_eq_nil_iff] at hnone
    omega
  · intro h
    have hnone : behind = [] := by
      by_cases hnegative : IsNegative f.signed bytes.length word
      · rw [show behind = f.bitValues.drop width from if_pos hnegative, List.drop_eq_nil_iff]
        exact not_lt.mp fun hmore => h ⟨hnegative, hmore⟩
      · exact if_neg hnegative
    rw [hnone, List.append_nil]

/-- A signed byte with a name more than it has bits. -/
def sampleFlags : Field :=
  { kind := .integer, name := "FLAGS", size := some "1", signed := true
    bitValues := ["A", "B", "C", "D", "E", "F", "G", "H", "NONE"] }

theorem sampleFlags_document :
    sampleFlags.kind = .integer ∧ sampleFlags.bitValues ≠ [] ∧
      sampleFlags.resolvedSize [] = .ok [0x05].length ∧ [0x05].length < Source.sizeLimit ∧
      StandsAt sampleFlags (.ofBytes [0x05]) [0x05] ∧
      (∀ n ∈ readNumber? sampleFlags [] (.ofBytes [0x05]), Keyed.get? n sampleFlags.values = none) ∧
      ∃ v, (decode sampleFlags [] (.ofBytes [0x05])).1 = .ok v ∧
        toDocument none v = .ok (.list [.text "A", .text "C"]) := by
  have hnames : sampleFlags.bitValues ≠ [] := by decide
  have hsize : sampleFlags.resolvedSize [] = .ok [0x05].length := rfl
  have hlength : [0x05].length < Source.sizeLimit := by decide
  have hbytes : StandsAt sampleFlags (.ofBytes [0x05]) [0x05] :=
    ⟨.ofBytes [0x05], rfl, List.prefix_rfl⟩
  obtain ⟨v, hv, hdocument, _⟩ :=
    document_bitNames (.inl rfl) hnames hsize hlength hbytes (fun _ _ _ => rfl) none
  exact ⟨rfl, hnames, hsize, hlength, hbytes, fun _ _ => rfl, v, hv, hdocument⟩

/-- Of a byte with only its highest bit set, the ninth name is reported beside the eighth. -/
theorem sampleFlags_name_without_bit :
    let v := Value.number sampleFlags 1 0x80
    sampleFlags.resolvedSize [] = .ok 1 ∧
      (decode sampleFlags [] (.ofBytes [0x80])).1 = .ok v ∧
      number? v = some (-128) ∧ sampleFlags.values = [] ∧
      namesIn 8 (wordOf .little [0x80]) sampleFlags.bitValues = ["H"] ∧
      toDocument none v = .ok (.list [.text "H", .text "NONE"]) ∧
      toDocument none v ≠ .ok (.list [.text "H"]) := by
  intro v
  have hdocument : toDocument none v = .ok (.list [.text "H", .text "NONE"]) := rfl
  refine ⟨rfl, rfl, rfl, rfl, ?_, hdocument, ?_⟩
  · decide
  · rw [hdocument]
    intro h
    cases h

end GameAtlas.Projection
