import Mathlib.Tactic
import GameAtlas.Proofs.Image.Consumption
import GameAtlas.Proofs.Schema.Tree

/-!
Decoding and encoding. What a decoder takes for a field is the encoding of the value that it gives,
and at every depth of a value the bytes that were counted are the bytes that are written.
-/

namespace GameAtlas.Image

open Schema (Attributes Field)
open Expression (Bindings)

/-! ### Numbers -/

namespace Value

theorem length_bytesOf (width n : Nat) : (bytesOf width n).length = width := by
  induction width generalizing n with
  | zero => rfl
  | succ width ih => simp [bytesOf, ih]

/-- As many bytes as a number was read from are the bytes that it was read from. -/
theorem bytesOf_numberOf (bs : List UInt8) : bytesOf bs.length (numberOf bs) = bs := by
  induction bs with
  | nil => rfl
  | cons b rest ih =>
    have hb : b.toNat < 256 := b.toNat_lt
    have hlow : (b.toNat + 256 * numberOf rest) % 256 = b.toNat := by omega
    have hhigh : (b.toNat + 256 * numberOf rest) / 256 = numberOf rest := by omega
    simp [bytesOf, numberOf, hlow, hhigh, ih]

/-! ### Values within values -/

/-- The values right below: the elements of an array, the parts of a struct. -/
def inner : Value → List Value
  | .number .. | .raw .. => []
  | .elements _ _ items => items
  | .members _ _ parts => parts

/-- Whether a value is made of values. -/
def isComposite : Value → Bool
  | .number .. | .raw .. => false
  | .elements .. | .members .. => true

mutual

/-- A value and all values below it, each before those below it. -/
def walk (v : Value) : List Value :=
  match v with
  | .number f consumed n => [.number f consumed n]
  | .raw f consumed bytes => [.raw f consumed bytes]
  | .elements f consumed items => .elements f consumed items :: walkAll items
  | .members f consumed parts => .members f consumed parts :: walkAll parts
termination_by structural v

def walkAll (vs : List Value) : List Value :=
  match vs with
  | [] => []
  | v :: rest => walk v ++ walkAll rest
termination_by structural vs

end

/-- A value counts the bytes of its own encoding, and if it is made of values, their encodings end
to end are its own. -/
def CountsItsBytes (v : Value) : Prop :=
  v.consumed = v.encode.length ∧ (v.isComposite → v.encode = v.inner.flatMap encode)

/-- All values within a value count their bytes. -/
def Exact (v : Value) : Prop := ∀ w ∈ v.walk, w.CountsItsBytes

theorem encodeAll_eq_flatMap (vs : List Value) : encodeAll vs = vs.flatMap encode := by
  induction vs with
  | nil => rfl
  | cons v rest ih => simp [encodeAll, ih]

theorem mem_walkAll {w : Value} {vs : List Value} : w ∈ walkAll vs ↔ ∃ v ∈ vs, w ∈ v.walk := by
  induction vs with
  | nil => simp [walkAll]
  | cons v rest ih => simp [walkAll, ih]

theorem self_mem_walk (v : Value) : v ∈ v.walk := by
  cases v <;> simp [walk]

theorem mem_walk_iff {v w : Value} : w ∈ v.walk ↔ w = v ∨ ∃ i ∈ v.inner, w ∈ i.walk := by
  cases v <;> simp [walk, inner, mem_walkAll]

theorem Exact.consumed {v : Value} (h : v.Exact) : v.consumed = v.encode.length :=
  (h v v.self_mem_walk).1

theorem exact_number (f : Field) (bs : List UInt8) :
    (Value.number f bs.length (numberOf bs)).Exact := by
  intro w hw
  simp only [walk, List.mem_singleton] at hw
  subst hw
  exact ⟨(length_bytesOf _ _).symm, by simp [isComposite]⟩

theorem exact_raw (f : Field) (bs : List UInt8) : (Value.raw f bs.length bs).Exact := by
  intro w hw
  simp only [walk, List.mem_singleton] at hw
  subst hw
  exact ⟨rfl, by simp [isComposite]⟩

theorem exact_elements (f : Field) (items : List Value) (h : ∀ v ∈ items, v.Exact) :
    (Value.elements f (encodeAll items).length items).Exact := by
  intro w hw
  simp only [walk, List.mem_cons, mem_walkAll] at hw
  rcases hw with rfl | ⟨v, hv, hw⟩
  · exact ⟨rfl, fun _ => encodeAll_eq_flatMap items⟩
  · exact h v hv w hw

theorem exact_members (f : Field) (parts : List Value) (h : ∀ v ∈ parts, v.Exact) :
    (Value.members f (encodeAll parts).length parts).Exact := by
  intro w hw
  simp only [walk, List.mem_cons, mem_walkAll] at hw
  rcases hw with rfl | ⟨v, hv, hw⟩
  · exact ⟨rfl, fun _ => encodeAll_eq_flatMap parts⟩
  · exact h v hv w hw

end Value

/-! ### What is taken is what is written -/

/-- The value of a field is exact and its encoding is what was taken. -/
def ReadsBack (f : Field) (used : List UInt8) (v : Value) : Prop :=
  v.encode = used ∧ v.Exact ∧ v.field = f

namespace Decoder

/-- Elements that are read back one by one are read back together. -/
theorem takes_elements (item : Field) {element : Bindings → Decoder Value}
    (helement : ∀ bindings, (element bindings).Takes (ReadsBack item)) (total : Nat) :
    ∀ (fuel count : Nat) (run : List UInt8),
      (elements element total fuel count run).Takes fun used vs =>
        Value.encodeAll vs = used ∧ ∀ v ∈ vs, v.Exact := by
  have hnone : (pure [] : Decoder (List Value)).Takes fun used vs =>
      Value.encodeAll vs = used ∧ ∀ v ∈ vs, v.Exact := by
    refine (takes_pure []).mono ?_
    rintro used vs ⟨rfl, rfl⟩
    exact ⟨rfl, by simp⟩
  intro fuel
  induction fuel with
  | zero =>
    intro count run
    exact hnone
  | succ fuel ih =>
    intro count run
    unfold elements
    split
    · refine ((helement (Expression.bindBytes run)).within (Located.index count)).bind ?_
      rintro first v ⟨hencode, hexact, _⟩
      split
      · exact (takes_throw _ fun _ _ => False).bind fun _ _ h => h.elim
      · refine (ih (count + 1) (run ++ v.encode)).bind ?_
        rintro second rest ⟨hrest, hexacts⟩
        refine (takes_pure (v :: rest)).mono ?_
        rintro used vs ⟨rfl, rfl⟩
        refine ⟨by simp [Value.encodeAll, hencode, hrest], ?_⟩
        intro w hw
        rcases List.mem_cons.mp hw with rfl | hw
        · exact hexact
        · exact hexacts w hw
    · exact hnone

end Decoder

section

variable [Host]

theorem decodeMembers_takes (members : List Field)
    (hmembers : ∀ m ∈ members, ∀ bindings, (decodeField m bindings).Takes (ReadsBack m)) :
    ∀ run, (decodeMembers members run).Takes fun used vs =>
      Value.encodeAll vs = used ∧ ∀ v ∈ vs, v.Exact := by
  induction members with
  | nil =>
    intro run
    unfold decodeMembers
    refine (Decoder.takes_pure []).mono ?_
    rintro used vs ⟨rfl, rfl⟩
    exact ⟨rfl, by simp⟩
  | cons m rest ih =>
    intro run
    unfold decodeMembers
    refine (hmembers m (by simp) (Expression.bindBytes run)).bind ?_
    rintro first v ⟨hencode, hexact, _⟩
    have hrest := ih fun m hm => hmembers m (List.mem_cons_of_mem _ hm)
    refine (hrest (run ++ v.encode)).bind ?_
    rintro second vs ⟨hvs, hexacts⟩
    refine (Decoder.takes_pure (v :: vs)).mono ?_
    rintro used ws ⟨rfl, rfl⟩
    refine ⟨by simp [Value.encodeAll, hencode, hvs], ?_⟩
    intro w hw
    rcases List.mem_cons.mp hw with rfl | hw
    · exact hexact
    · exact hexacts w hw

/-- Without an item type nothing is read for an element. -/
theorem takes_decodeItem (itemType : Option Field)
    (hitem : ∀ item ∈ itemType, ∀ bindings, (decodeField item bindings).Takes (ReadsBack item))
    (bindings : Bindings) :
    (decodeItem itemType bindings).Takes (ReadsBack (itemType.getD default)) := by
  cases itemType with
  | none => exact Decoder.takes_throw _ _
  | some item => exact hitem item rfl bindings

/-- The induction is on the field. Members and elements are read behind bytes of their own struct or
array, so that the hypothesis has to hold for all bindings. -/
theorem decodeField_takes (f : Field) :
    ∀ bindings, (decodeField f bindings).Takes (ReadsBack f) := by
  induction f using Field.tree_induction with
  | step attributes members itemType ihMembers ihItem =>
    intro bindings
    unfold decodeField
    refine Decoder.Takes.within ?_ attributes.name
    cases attributes.kind.form with
    | members =>
      refine (decodeMembers_takes members ihMembers []).bind ?_
      rintro used parts ⟨rfl, hexact⟩
      refine (Decoder.takes_pure _).mono ?_
      rintro _ v ⟨rfl, rfl⟩
      exact ⟨by simp [Value.encode], Value.exact_members _ parts hexact, rfl⟩
    | number =>
      refine (Decoder.takes_sizeOf attributes bindings).bind ?_
      rintro _ n ⟨rfl, _⟩
      refine (Decoder.takes_read n).bind ?_
      rintro used bs ⟨rfl, rfl⟩
      refine (Decoder.takes_pure _).mono ?_
      rintro _ v ⟨rfl, rfl⟩
      exact ⟨by simp [Value.encode, Value.bytesOf_numberOf], Value.exact_number _ used, rfl⟩
    | raw =>
      refine (Decoder.takes_rawBytes attributes bindings).bind ?_
      rintro used bs rfl
      refine (Decoder.takes_pure _).mono ?_
      rintro _ v ⟨rfl, rfl⟩
      exact ⟨by simp [Value.encode], Value.exact_raw _ used, rfl⟩
    | elements =>
      refine (Decoder.takes_sizeOf attributes bindings).bind ?_
      rintro _ total ⟨rfl, _⟩
      have hitem := takes_decodeItem itemType ihItem
      refine (Decoder.takes_elements _ hitem total total 0 []).bind ?_
      rintro used items ⟨rfl, hexact⟩
      refine (Decoder.takes_pure _).mono ?_
      rintro _ v ⟨rfl, rfl⟩
      exact ⟨by simp [Value.encode], Value.exact_elements _ items hexact, rfl⟩

theorem decodeItem_takes (itemType : Option Field) (bindings : Bindings) :
    (decodeItem itemType bindings).Takes (ReadsBack (itemType.getD default)) :=
  takes_decodeItem itemType (fun item _ => decodeField_takes item) bindings

/-- A root field takes the bytes up to its address and those of its value. -/
theorem decode_takes (f : Field) (bindings : Bindings) (haddress : 0 ≤ f.address.getD 0) :
    (decode f bindings).Takes fun used v =>
      ∃ skipped, used = skipped ++ v.encode ∧ skipped.length = (f.address.getD 0).toNat ∧
        v.Exact := by
  unfold decode
  cases hroot : f.address with
  | none =>
    refine (decodeField_takes f bindings).mono ?_
    rintro used v ⟨rfl, hexact, _⟩
    exact ⟨[], by simp, by simp, hexact⟩
  | some address =>
    rw [hroot] at haddress
    obtain ⟨n, rfl⟩ := Int.eq_ofNat_of_zero_le haddress
    refine (((Decoder.takes_read n).within f.name).discard).bind ?_
    rintro skipped _ ⟨bs, rfl, hlength⟩
    refine (decodeField_takes f bindings).mono ?_
    rintro used v ⟨rfl, hexact, _⟩
    exact ⟨skipped, rfl, by simpa using hlength, hexact⟩

end

/-- What was decoded from an image is found in it behind the address, is written by `encode` byte
for byte and was counted without error at every depth; the source stands behind it. -/
theorem decode_encode_image [Host] (f : Field) (bindings : Bindings) (image : List UInt8)
    (buffered : Bool) (v : Value) (after : Source) (haddress : 0 ≤ f.address.getD 0)
    (h : decode f bindings { rest := image, buffered := buffered } = (.ok v, after)) :
    let a := (f.address.getD 0).toNat
    a + v.consumed ≤ image.length ∧ v.encode = (image.drop a).take v.consumed ∧
      after.position = a + v.consumed ∧ v.Exact := by
  intro a
  obtain ⟨used, hrest, hgives, skipped, rfl, hlength, hexact⟩ :=
    decode_takes f bindings haddress _ _ _ h
  have himage : image = skipped ++ (v.encode ++ after.rest) := by simpa using hrest
  have hlength : skipped.length = a := hlength
  have hconsumed : v.consumed = v.encode.length := hexact.consumed
  have hdrop : image.drop a = v.encode ++ after.rest := by
    rw [himage, ← hlength, List.drop_left]
  have hafter : after = Source.past { rest := image, buffered := buffered } (skipped ++ v.encode)
      after.rest := by
    have hrun := hgives { rest := image, buffered := buffered } after.rest hrest
    rw [h] at hrun
    exact (Prod.mk.inj hrun).2
  refine ⟨?_, ?_, ?_, hexact⟩
  · rw [himage, hconsumed, ← hlength]
    simp only [List.length_append]
    omega
  · rw [hdrop, hconsumed, List.take_left]
  · rw [hafter, Source.past, hconsumed]
    simp only [List.length_append, hlength]
    omega

/-! ### A record -/

/-- An array of words that fills as many bytes as the text says. -/
def sampleWords (size : String) : Field :=
  { kind := .array, name := "WORDS", size := some size
    itemType := some { kind := .integer, size := some "2" } }

def sampleCount : Field := { kind := .integer, name := "COUNT", size := some "1" }

def sampleText : Field := { kind := .undefined, name := "TEXT", terminator := [0, 1] }

/-- A number, bytes up to a terminator, and two words. -/
def sampleRecord (address : Option Int) : Field :=
  { kind := .struct, name := "RECORD", address := address
    members := [sampleCount, sampleText, sampleWords "4"] }

def sampleValue (address : Option Int) : Value :=
  let word := fun n => Value.number { kind := .integer, size := some "2" } 2 n
  .members (sampleRecord address) 8
    [.number sampleCount 1 2, .raw sampleText 3 [7, 0, 1],
     .elements (sampleWords "4") 4 [word 0x201, word 0x403]]

theorem sampleRecord_encode_image :
    decode (sampleRecord (some 1)) [] { rest := [9, 2, 7, 0, 1, 1, 2, 3, 4, 5] } =
        (.ok (sampleValue (some 1)), ⟨[5], 9, false⟩) ∧
      (sampleValue (some 1)).encode = ([9, 2, 7, 0, 1, 1, 2, 3, 4, 5].drop 1).take 8 ∧
      (sampleValue (some 1)).Exact := by
  have hrun : decode (sampleRecord (some 1)) [] { rest := [9, 2, 7, 0, 1, 1, 2, 3, 4, 5] } =
      (.ok (sampleValue (some 1)), ⟨[5], 9, false⟩) := rfl
  obtain ⟨_, hencode, _, hexact⟩ :=
    decode_encode_image (sampleRecord (some 1)) [] _ false _ _ (by decide) hrun
  exact ⟨hrun, hencode, hexact⟩

end GameAtlas.Image
