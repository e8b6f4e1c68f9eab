import Mathlib.Tactic
import GameAtlas.Projection.Number
import GameAtlas.Proofs.Image.Layers

/-!
Numbers of fields in byte order. The bytes of a field are read the lowest first and turned round
later where the field says so; together that gives each byte the weight of its place in the order of
the field, and a signed field half of its numbers below zero. Of a given number of bytes no two runs
have the same number.
-/

namespace GameAtlas.Projection

open Expression (Bindings)
open Image (Decoder Source Value decode decodeField decodeField_eq decode_eq_seek seek)
open Schema (Endianness Field)

/-! ### Words -/

/-- The weight of a place in a word of `n` bytes, as a power of 256. -/
def weight (n : Nat) : Endianness → Nat → Nat
  | .little, i => i
  | .big, i => n - 1 - i

/-- The word that bytes spell in a byte order. -/
def wordOf (e : Endianness) (bytes : List UInt8) : Nat :=
  ∑ i ∈ Finset.range bytes.length, (bytes.getD i 0).toNat * 256 ^ weight bytes.length e i

theorem wordOf_little (bytes : List UInt8) : wordOf .little bytes = Value.numberOf bytes := by
  induction bytes with
  | nil => rfl
  | cons b rest ih =>
    rw [wordOf, List.length_cons, Finset.sum_range_succ', Value.numberOf, ← ih, wordOf,
      Finset.mul_sum, add_comm]
    congr 1
    · simp [weight]
    · refine Finset.sum_congr rfl fun i _ => ?_
      rw [List.getD_cons_succ, weight, weight, pow_succ]
      ring

theorem wordOf_big (bytes : List UInt8) : wordOf .big bytes = Value.numberOf bytes.reverse := by
  rw [← wordOf_little, wordOf, wordOf, List.length_reverse, ← Finset.sum_range_reflect]
  refine Finset.sum_congr rfl fun i hi => ?_
  have hi : i < bytes.length := Finset.mem_range.mp hi
  have hplace : bytes.length - 1 - (bytes.length - 1 - i) = i := by omega
  rw [weight, weight, hplace, List.getD_eq_getElem?_getD, List.getD_eq_getElem?_getD,
    List.getElem?_reverse hi]

theorem numberOf_lt (bytes : List UInt8) : Value.numberOf bytes < 2 ^ (8 * bytes.length) := by
  induction bytes with
  | nil => decide
  | cons b rest ih =>
    have hb : b.toNat < 256 := b.toNat_lt
    rw [Value.numberOf, List.length_cons, Nat.mul_succ, pow_add]
    omega

theorem wordOf_lt (e : Endianness) (bytes : List UInt8) :
    wordOf e bytes < 2 ^ (8 * bytes.length) := by
  cases e with
  | little =>
    rw [wordOf_little]
    exact numberOf_lt bytes
  | big =>
    rw [wordOf_big, ← List.length_reverse]
    exact numberOf_lt bytes.reverse

theorem numberOf_inj {first second : List UInt8} (hlength : first.length = second.length)
    (h : Value.numberOf first = Value.numberOf second) : first = second := by
  rw [← Value.bytesOf_numberOf first, ← Value.bytesOf_numberOf second, hlength, h]

theorem wordOf_inj {e : Endianness} {first second : List UInt8}
    (hlength : first.length = second.length) (h : wordOf e first = wordOf e second) :
    first = second := by
  cases e with
  | little =>
    rw [wordOf_little, wordOf_little] at h
    exact numberOf_inj hlength h
  | big =>
    rw [wordOf_big, wordOf_big] at h
    refine List.reverse_injective (numberOf_inj ?_ h)
    rw [List.length_reverse, List.length_reverse, hlength]

/-! ### Signs -/

/-- Whether a word of `n` bytes stands for a number below zero. -/
def IsNegative (signed : Bool) (n word : Nat) : Prop := signed ∧ 2 ^ (8 * n - 1) ≤ word

instance (signed : Bool) (n word : Nat) : Decidable (IsNegative signed n word) :=
  inferInstanceAs (Decidable (_ ∧ _))

/-- The number that a word of `n` bytes stands for. -/
def numberIn (signed : Bool) (n word : Nat) : Int :=
  if IsNegative signed n word then word - 2 ^ (8 * n) else word

/-- The numbers that words of `n` bytes stand for. -/
def numbersIn (signed : Bool) (n : Nat) : Set Int :=
  if n = 0 then {0}
  else if signed then Set.Ico (-2 ^ (8 * n - 1)) (2 ^ (8 * n - 1))
  else Set.Ico 0 (2 ^ (8 * n))

section

variable {signed : Bool} {n word : Nat}

theorem not_isNegative_zero (hword : word < 2 ^ (8 * 0)) : ¬ IsNegative signed 0 word := by
  rintro ⟨_, hlow⟩
  omega

theorem two_pow_split (hn : n ≠ 0) : 2 ^ (8 * n) = 2 * 2 ^ (8 * n - 1) := by
  rw [← pow_succ']
  congr 1
  omega

theorem numberIn_mem (hword : word < 2 ^ (8 * n)) :
    numberIn signed n word ∈ numbersIn signed n := by
  have hbound : (word : Int) < 2 ^ (8 * n) := by exact_mod_cast hword
  unfold numbersIn
  by_cases hn : n = 0
  · subst hn
    rw [if_pos rfl, numberIn, if_neg (not_isNegative_zero hword)]
    simpa using hbound
  · have hhalf : (2 : Int) ^ (8 * n) = 2 * 2 ^ (8 * n - 1) := by exact_mod_cast two_pow_split hn
    rw [if_neg hn, numberIn]
    by_cases hsigned : signed = true
    · rw [if_pos hsigned]
      by_cases hlow : 2 ^ (8 * n - 1) ≤ word
      · have hlow' : (2 : Int) ^ (8 * n - 1) ≤ word := by exact_mod_cast hlow
        rw [if_pos ⟨hsigned, hlow⟩]
        exact ⟨by omega, by omega⟩
      · have hhigh : (word : Int) < 2 ^ (8 * n - 1) := by exact_mod_cast not_le.mp hlow
        rw [if_neg fun h => hlow h.2]
        exact ⟨by omega, hhigh⟩
    · rw [if_neg hsigned, if_neg fun h => hsigned h.1]
      exact ⟨by omega, hbound⟩

/-- A word that is read as a number below zero is not read as the number of a word that is not: the
two lie on both sides of zero. -/
theorem numberIn_inj {first second : Nat} (hfirst : first < 2 ^ (8 * n))
    (hsecond : second < 2 ^ (8 * n)) (h : numberIn signed n first = numberIn signed n second) :
    first = second := by
  have hfirst : (first : Int) < 2 ^ (8 * n) := by exact_mod_cast hfirst
  have hsecond : (second : Int) < 2 ^ (8 * n) := by exact_mod_cast hsecond
  unfold numberIn at h
  split at h <;> split at h <;> omega

end

theorem signedNumber_little (signed : Bool) {n word : Nat} (hword : word < 2 ^ (8 * n)) :
    signedNumber .little signed n word = numberIn signed n word := by
  have hsame : (signed && n != 0 && decide (Nat.pow 2 (8 * n - 1) ≤ word)) = true ↔
      IsNegative signed n word := by
    by_cases hn : n = 0
    · subst hn
      simpa using not_isNegative_zero hword
    · simp [IsNegative, hn]
  simp only [signedNumber, hsame]
  rfl

/-- What is read the lowest byte first and turned round later is the word in the byte order. -/
theorem signedNumber_numberOf (e : Endianness) (signed : Bool) (bytes : List UInt8) :
    signedNumber e signed bytes.length (Value.numberOf bytes) =
      numberIn signed bytes.length (wordOf e bytes) := by
  rw [← signedNumber_little signed (wordOf_lt e bytes)]
  cases e with
  | little => rw [wordOf_little]
  | big =>
    have hturned : signedNumber .big signed bytes.length (Value.numberOf bytes) =
        signedNumber .little signed bytes.length
          (Value.numberOf (Value.bytesOf bytes.length (Value.numberOf bytes)).reverse) := rfl
    rw [hturned, Value.bytesOf_numberOf, wordOf_big]

/-! ### Reading -/

/-- A source that has bytes where a field is read: at its address, if it has one. -/
def StandsAt [Host] (f : Field) (s : Source) (bytes : List UInt8) : Prop :=
  ∃ start, seek f s = (.ok (), start) ∧ bytes <+: start.rest

/-- The number of the value that a field has in a source. -/
def readNumber? [Host] (f : Field) (bindings : Bindings) (s : Source) : Option Int :=
  (decode f bindings s).1.toOption.bind number?

theorem decode_number [Host] {f : Field} {bindings : Bindings} {s : Source} {bytes : List UInt8}
    (hform : f.kind.form = .number) (hsize : f.resolvedSize bindings = .ok bytes.length)
    (hlength : bytes.length < Source.sizeLimit) (hbytes : StandsAt f s bytes) :
    (decode f bindings s).1 = .ok (.number f bytes.length (Value.numberOf bytes)) := by
  obtain ⟨start, hseek, more, hmore⟩ := hbytes
  have hread := Decoder.gives_read bytes hlength start more hmore.symm
  have hcontent : Image.content f bindings start =
      (.ok (.number f bytes.length (Value.numberOf bytes)), start.past bytes more) := by
    rw [Image.content, hform]
    dsimp only
    rw [Decoder.sizeOf, hsize, Decoder.bind_run]
    dsimp only [pure, ExceptT.pure, ExceptT.mk, StateT.pure]
    rw [Decoder.bind_run, hread]
    rfl
  rw [decode_eq_seek, Decoder.bind_run, hseek]
  dsimp only
  rw [decodeField_eq, Decoder.within_run, hcontent]

/-- The number of a field is that of the word which its bytes spell in the byte order of the field,
less two to the number of bits if the field is signed and the word not below half of that. So it has
one of the numbers of its width, and other bytes give another. No source has as many bytes as the
limit of a size. -/
theorem number_of_bytes [Host] {f : Field} {bindings : Bindings} {n : Nat}
    (hform : f.kind.form = .number)
    (hsize : f.resolvedSize bindings = .ok n) (hlength : n < Source.sizeLimit) :
    (∀ s bytes, bytes.length = n → StandsAt f s bytes →
      readNumber? f bindings s = some (numberIn f.signed n (wordOf f.endianness bytes)) ∧
        numberIn f.signed n (wordOf f.endianness bytes) ∈ numbersIn f.signed n) ∧
    ∀ s t first second, first.length = n → second.length = n → StandsAt f s first →
      StandsAt f t second → readNumber? f bindings s = readNumber? f bindings t →
        first = second := by
  have hnumber (s : Source) (bytes : List UInt8) (hn : bytes.length = n)
      (hbytes : StandsAt f s bytes) :
      readNumber? f bindings s = some (numberIn f.signed n (wordOf f.endianness bytes)) := by
    subst hn
    rw [readNumber?, decode_number hform hsize hlength hbytes, ← signedNumber_numberOf]
    rfl
  have hword (bytes : List UInt8) (hn : bytes.length = n) :
      wordOf f.endianness bytes < 2 ^ (8 * n) := hn ▸ wordOf_lt f.endianness bytes
  constructor
  · intro s bytes hn hbytes
    exact ⟨hnumber s bytes hn hbytes, numberIn_mem (hword bytes hn)⟩
  · intro s t first second hfirst hsecond hs ht hsame
    rw [hnumber s first hfirst hs, hnumber t second hsecond ht] at hsame
    exact wordOf_inj (hfirst.trans hsecond.symm)
      (numberIn_inj (hword first hfirst) (hword second hsecond) (Option.some.inj hsame))

/-- A signed word of two bytes, the higher one first. -/
def sampleBalance : Field :=
  { kind := .integer, name := "BALANCE", size := some "2", signed := true, endianness := .big }

/-- The highest word but one is two below zero, and the lowest with its highest bit set is the
lowest number. -/
theorem sampleBalance_numbers :
    sampleBalance.kind.form = .number ∧ sampleBalance.resolvedSize [] = .ok 2 ∧
      2 < Source.sizeLimit ∧
      readNumber? sampleBalance [] (.ofBytes [0xFF, 0xFE]) = some (-2) ∧
      readNumber? sampleBalance [] (.ofBytes [0x80, 0x00]) = some (-32768) := by
  have hform : sampleBalance.kind.form = .number := rfl
  have hsize : sampleBalance.resolvedSize [] = .ok 2 := rfl
  have hlength : 2 < Source.sizeLimit := by decide
  have hthere (bytes : List UInt8) : StandsAt sampleBalance (.ofBytes bytes) bytes :=
    ⟨.ofBytes bytes, rfl, List.prefix_rfl⟩
  obtain ⟨hread, _⟩ := number_of_bytes hform hsize hlength
  obtain ⟨hlast, _⟩ := hread _ [0xFF, 0xFE] rfl (hthere _)
  obtain ⟨hfirst, _⟩ := hread _ [0x80, 0x00] rfl (hthere _)
  exact ⟨hform, hsize, hlength, hlast, hfirst⟩

end GameAtlas.Projection
