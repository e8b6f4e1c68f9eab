import Mathlib.Tactic
import GameAtlas.Proofs.Image.Filling
import GameAtlas.Proofs.Image.InPlace
import GameAtlas.Proofs.Image.StaticSize

/-!
Arrays of elements that all have one size, which is known without any bytes. Such an element is
read alike behind any others, so that the array is read chunk by chunk: it has the values of its
chunks, and fails at the first chunk that is none of an element. Where the size of the elements does
not divide that of the array, the last element is read across the end of the array: it is reported
as one that does not fit only if the bytes behind the array make it whole.
-/

namespace GameAtlas.Image

open Schema (Field)
open Expression (Bindings BindsArguments)
open Filling

/-! ### Elements of one size -/

theorem bindsArguments_nil : BindsArguments [] := Expression.bindsArguments_bindBytes []

/-- A field that takes `m` bytes wherever it stands: its size is known without any bytes and not
zero, and no struct in it states a size. -/
structure FixedSize [Host] (item : Field) (m : Nat) : Prop where
  plain : Plain item
  size : item.staticSize = .ok m
  pos : 0 < m

theorem sizeOf_unbound [Host] {f : Field} {bindings : Bindings} {n : Nat}
    (hform : f.kind.form ≠ .members)
    (hsize : f.staticSize = .ok n) (hbind : BindsArguments bindings) :
    Decoder.sizeOf f.toAttributes bindings = Decoder.sizeOf f.toAttributes [] := by
  have hbound := resolvedSize_of_staticSize hform hbind hsize
  have hfree := resolvedSize_of_staticSize hform bindsArguments_nil hsize
  rw [Decoder.sizeOf, Decoder.sizeOf, hbound, hfree]

/-- A field with a size that is known without any bytes is read alike whatever bytes are bound. What
lies within a struct or an array has bytes of its own bound. -/
theorem decodeField_unbound [Host] {f : Field} {bindings : Bindings} {n : Nat}
    (hsize : f.staticSize = .ok n) (hbind : BindsArguments bindings) :
    decodeField f bindings = decodeField f [] := by
  have hcontent : content f bindings = content f [] := by
    unfold content
    cases hform : f.kind.form with
    | members => rfl
    | number =>
      have hsame := sizeOf_unbound (by simp [hform]) hsize hbind
      simp only [hsame]
    | raw =>
      have hsame := sizeOf_unbound (by simp [hform]) hsize hbind
      simp only [Decoder.rawBytes, hsame]
    | elements =>
      have hsame := sizeOf_unbound (by simp [hform]) hsize hbind
      simp only [hsame]
  rw [decodeField_eq, decodeField_eq, hcontent]

/-- The bytes of an index, where all elements have `m` of them. -/
def chunk (m : Nat) (bytes : List UInt8) (k : Nat) : List UInt8 := (bytes.drop (k * m)).take m

/-- A field read from a chunk, with nothing before it and nothing behind. -/
def decodeChunk [Host] (item : Field) (m : Nat) (bytes : List UInt8) (k : Nat) :
    Except DecodeFault Value :=
  (decodeField item [] (.ofBytes (chunk m bytes k))).1

/-- The source behind some bytes of it. -/
def Source.behind (s : Source) (n : Nat) : Source := s.past (s.rest.take n) (s.rest.drop n)

theorem Source.behind_behind (s : Source) (first second : Nat) :
    (s.behind first).behind second = s.behind (first + second) := by
  have hrest : (s.behind first).rest = s.rest.drop first := rfl
  rw [behind, hrest, behind, past_past, ← List.take_add, List.drop_drop, behind]

section

variable {item : Field} {bindings : Bindings} {m k total : Nat} {s t after : Source} {v : Value}

theorem FixedSize.takes [Host] (h : FixedSize item m) (hbind : BindsArguments bindings) :
    (decodeField item bindings).Takes fun used v =>
      used.length = m ∧ v.encode = used ∧ v.consumed = m := by
  intro s v after hrun
  obtain ⟨used, hrest, hgives, rfl, hexact, _⟩ := decodeField_takes item bindings s v after hrun
  obtain ⟨rfl, hwithin⟩ := measures_of_plain item h.plain bindings s v after hbind hrun
  have hconsumed : v.consumed = m := (hwithin v v.self_mem_walk).size m h.size
  exact ⟨v.encode, hrest, hgives, hexact.consumed.symm.trans hconsumed, rfl, hconsumed⟩

/-- An element is read from a source exactly if it is read from the next `m` bytes alone. -/
theorem FixedSize.decodeField_ok_iff [Host] (h : FixedSize item m)
    (hbind : BindsArguments bindings) :
    decodeField item bindings t = (.ok v, after) ↔
      (decodeField item [] (.ofBytes (t.rest.take m))).1 = .ok v ∧ after = t.behind m := by
  rw [decodeField_unbound h.size hbind]
  constructor
  · intro hrun
    obtain ⟨used, hrest, hgives, hlength, _, _⟩ := h.takes bindsArguments_nil t v after hrun
    have htake : t.rest.take m = used := by rw [hrest, ← hlength, List.take_left]
    have hdrop : t.rest.drop m = after.rest := by rw [hrest, ← hlength, List.drop_left]
    have halone := hgives (.ofBytes used) [] (List.append_nil used).symm
    have hthere := hgives t after.rest hrest
    rw [hrun] at hthere
    rw [htake, halone, Source.behind, htake, hdrop]
    exact ⟨rfl, (Prod.mk.inj hthere).2⟩
  · rintro ⟨hok, rfl⟩
    cases hrun : decodeField item [] (.ofBytes (t.rest.take m)) with
    | mk result last =>
      rw [hrun] at hok
      cases hok
      obtain ⟨used, hrest, hgives, hlength, _, _⟩ := h.takes bindsArguments_nil _ v last hrun
      have hwhole : used = t.rest.take m := by
        have hrest : t.rest.take m = used ++ last.rest := hrest
        have hshort := congrArg List.length hrest
        rw [List.length_take, List.length_append] at hshort
        have hnone : last.rest = [] := List.eq_nil_of_length_eq_zero (by omega)
        rw [hrest, hnone, List.append_nil]
      rw [hwhole] at hgives
      exact hgives t (t.rest.drop m) (List.take_append_drop m t.rest).symm

theorem FixedSize.decodeChunk_eq_ok [Host] (h : FixedSize item m) (hbind : BindsArguments bindings)
    (hrun : decodeField item bindings (s.behind (k * m)) = (.ok v, after)) :
    decodeChunk item m s.rest k = .ok v ∧ after = s.behind ((k + 1) * m) ∧
      v.encode = chunk m s.rest k ∧ (chunk m s.rest k).length = m ∧ v.consumed = m := by
  obtain ⟨hok, hafter⟩ := (h.decodeField_ok_iff hbind).mp hrun
  obtain ⟨used, hrest, _, hlength, hencode, hconsumed⟩ := h.takes hbind _ v after hrun
  have hchunk : used = chunk m s.rest k := by
    have hrest : s.rest.drop (k * m) = used ++ after.rest := hrest
    rw [chunk, hrest, ← hlength, List.take_left]
  refine ⟨hok, ?_, hencode.trans hchunk, hchunk ▸ hlength, hconsumed⟩
  rw [hafter, Source.behind_behind, Nat.succ_mul]

/-! ### Filling by chunks -/

variable [Host]

/-- An array that is filled with the first chunks of a source. -/
structure Chunked (item : Field) (m : Nat) (s : Source) (st : Filling) : Prop where
  bytes : st.items.length * m ≤ s.rest.length
  run : st.run = s.rest.take (st.items.length * m)
  source : st.source = s.behind (st.items.length * m)
  items : ∀ k e, st.items[k]? = some e → decodeChunk item m s.rest k = .ok e

theorem chunked_start (item : Field) (m : Nat) (s : Source) : Chunked item m s { source := s } where
  bytes := by simp
  run := by simp
  source := by simp [Source.behind, Source.past]
  items := nofun

theorem FixedSize.chunked_round (h : FixedSize item m) {st next : Filling}
    (hround : Round (decodeItem (some item)) total st next) (hst : Chunked item m s st) :
    Chunked item m s next := by
  cases hround with
  | @read v middle _ hread _ =>
    have hread : decodeField item (Expression.bindBytes st.run) st.source = (.ok v, middle) := hread
    rw [hst.source] at hread
    obtain ⟨hok, hmiddle, hencode, hlength, _⟩ :=
      h.decodeChunk_eq_ok (Expression.bindsArguments_bindBytes st.run) hread
    have hcount : (st.items ++ [v]).length = st.items.length + 1 := List.length_append
    refine ⟨?_, ?_, ?_, ?_⟩
    · rw [chunk, List.length_take, List.length_drop] at hlength
      have hpos := h.pos
      rw [hcount, Nat.succ_mul]
      omega
    · rw [hcount, Nat.succ_mul, List.take_add, hst.run, hencode, chunk]
    · rw [hcount, hmiddle]
    · intro k e hk
      have hk : (st.items ++ [v])[k]? = some e := hk
      rcases Nat.lt_trichotomy k st.items.length with hbefore | rfl | hbehind
      · rw [List.getElem?_append_left hbefore] at hk
        exact hst.items k e hk
      · rw [List.getElem?_concat_length] at hk
        cases hk
        exact hok
      · rw [List.getElem?_eq_none (by omega)] at hk
        cases hk

theorem FixedSize.chunked_rounds (h : FixedSize item m) {n : Nat} {st last : Filling}
    (hrounds : Rounds (decodeItem (some item)) total n st last) (hst : Chunked item m s st) :
    Chunked item m s last := by
  induction hrounds with
  | none => exact hst
  | more hround _ ih => exact ih (h.chunked_round hround hst)

/-- An array that ends after `n` elements of one size: it is full, or the next chunk is none of an
element, or it is one that does not fit. -/
inductive EndsAt (item : Field) (m total : Nat) (s : Source) (n : Nat) :
    Except DecodeFault (List Value) → Prop where
  | full {items : List Value} : items.length = n → n * m = total →
      (∀ k e, items[k]? = some e → decodeChunk item m s.rest k = .ok e) →
      EndsAt item m total s n (.ok items)
  | fault {cause : DecodeFault} : n * m < total → (∀ e, decodeChunk item m s.rest n ≠ .ok e) →
      (decodeField item (Expression.bindBytes (s.rest.take (n * m))) (s.behind (n * m))).1 =
        .error cause →
      EndsAt item m total s n (.error (cause.within (Located.index n)))
  | misfit {e : Value} : n * m < total → total < (n + 1) * m →
      decodeChunk item m s.rest n = .ok e → (n + 1) * m ≤ s.rest.length →
      EndsAt item m total s n (.error (Decoder.mismatch total (n * m) m))

theorem FixedSize.endsAt (h : FixedSize item m) {n : Nat} {last : Filling}
    {result : Except DecodeFault (List Value)}
    (hrun : Run (decodeItem (some item)) total s n last result after) :
    EndsAt item m total s n result ∧ ∀ k < n, ∃ e, decodeChunk item m s.rest k = .ok e := by
  have hcounted := hrun.counted (decodeItem_takes (some item))
  have hchunked := h.chunked_rounds hrun.rounds (chunked_start item m s)
  have hrounds := hcounted.rounds
  obtain ⟨hbytes, hbefore, hsource, hitems⟩ := hchunked
  rw [hrounds] at hbytes hbefore hsource
  have hlength : last.run.length = n * m := by
    rw [hbefore, List.length_take, Nat.min_eq_left hbytes]
  have hbind := Expression.bindsArguments_bindBytes last.run
  refine ⟨?_, ?_⟩
  · obtain ⟨_, hends⟩ := hrun
    cases hends with
    | full hfull =>
      have hroom := hcounted.room
      exact .full hrounds (by omega) hitems
    | @fault cause _ hroom hread =>
      have hread : decodeField item (Expression.bindBytes last.run) last.source =
        (.error cause, after) := hread
      rw [hsource] at hread
      rw [hrounds]
      refine .fault (by omega) ?_ ?_
      · intro e he
        have hok := (h.decodeField_ok_iff (t := s.behind (n * m)) hbind).mpr ⟨he, rfl⟩
        rw [hread] at hok
        cases hok
      · rw [← hbefore, hread]
    | @misfit v _ hroom hread hfit =>
      have hread : decodeField item (Expression.bindBytes last.run) last.source =
        (.ok v, after) := hread
      rw [hsource] at hread
      obtain ⟨hok, _, _, hwhole, hconsumed⟩ := h.decodeChunk_eq_ok hbind hread
      have hpos := h.pos
      rw [chunk, List.length_take, List.length_drop] at hwhole
      simp only [Decoder.Misfits, hconsumed, hlength] at hfit
      rw [hlength, hconsumed]
      refine .misfit (by omega) ?_ hok ?_
      · rw [Nat.succ_mul]
        omega
      · rw [Nat.succ_mul]
        omega
  · intro k hk
    have hthere : last.items[k]? = some last.items[k] := List.getElem?_eq_getElem (by omega)
    exact ⟨_, hitems k _ hthere⟩

/-- Where an array of elements of one size ends, and what it comes to behind its address. -/
theorem FixedSize.decode_array {f : Field} {start : Source} (h : FixedSize item m)
    (harray : f.kind = .array) (hitem : f.itemType = some item)
    (hsize : f.resolvedSize bindings = .ok total) (hstart : seek f s = (.ok (), start)) :
    ∃ n result, EndsAt item m total start n result ∧
      (∀ k < n, ∃ e, decodeChunk item m start.rest k = .ok e) ∧
      (decode f bindings s).1 =
        (result.map (.elements f total)).mapError (DecodeFault.within f.name) := by
  obtain ⟨n, last, result, after, hrun, hdecode⟩ := decodeField_array harray hsize start
  rw [hitem] at hrun
  obtain ⟨hends, hbefore⟩ := h.endsAt hrun
  refine ⟨n, result, hends, hbefore, ?_⟩
  rw [decode_eq_seek, Decoder.bind_run, hstart]
  exact congrArg Prod.fst hdecode

end

/-- An array of `q` elements of one size is decoded exactly if each of its chunks is decoded on its
own, and then it has their values, one behind the other. Where it is not, it fails while the element
is decoded whose chunk is the first that is not decoded on its own. -/
theorem decode_chunks [Host] {f item : Field} {bindings : Bindings} {m q : Nat}
    (harray : f.kind = .array)
    (hitem : f.itemType = some item) (hfixed : FixedSize item m)
    (hsize : f.resolvedSize bindings = .ok (q * m)) {s start : Source}
    (hstart : seek f s = (.ok (), start)) :
    ((∃ v, (decode f bindings s).1 = .ok v) ↔
      ∀ k < q, ∃ e, decodeChunk item m start.rest k = .ok e) ∧
    (∀ v, (decode f bindings s).1 = .ok v → v.inner.length = q ∧
      ∀ k e, v.inner[k]? = some e → decodeChunk item m start.rest k = .ok e) ∧
    ∀ fault, (decode f bindings s).1 = .error fault →
      ∃ k < q, (∀ j < k, ∃ e, decodeChunk item m start.rest j = .ok e) ∧
        (∀ e, decodeChunk item m start.rest k ≠ .ok e) ∧
        ∃ cause,
          (decodeField item (Expression.bindBytes (start.rest.take (k * m)))
            (start.behind (k * m))).1 = .error cause ∧
          fault = (cause.within (Located.index k)).within f.name := by
  obtain ⟨n, result, hends, hbefore, hdecode⟩ :=
    hfixed.decode_array harray hitem hsize hstart
  rw [hdecode]
  cases hends with
  | @full items hcount htotal hitems =>
    obtain rfl : n = q := Nat.eq_of_mul_eq_mul_right hfixed.pos htotal
    refine ⟨⟨fun _ => hbefore, fun _ => ⟨_, rfl⟩⟩, ?_, nofun⟩
    intro v hv
    cases hv
    exact ⟨hcount, hitems⟩
  | @fault cause hroom hnone hcause =>
    have hn : n < q := Nat.lt_of_mul_lt_mul_right hroom
    refine ⟨⟨nofun, ?_⟩, nofun, ?_⟩
    · intro hall
      obtain ⟨e, he⟩ := hall n hn
      exact absurd he (hnone e)
    · intro fault hfault
      exact ⟨n, hn, hbefore, hnone, cause, hcause, (Except.error.inj hfault).symm⟩
  | misfit hroom hlong _ _ =>
    have hn : n < q := Nat.lt_of_mul_lt_mul_right hroom
    have hfits : (n + 1) * m ≤ q * m := Nat.mul_le_mul_right m hn
    omega

/-- A list of texts in two bytes, which is as long as it should be if the first text says so. -/
def samplePair : Field :=
  { kind := .array, size := some "2", itemType := some sampleEntry }

def samplePairs : Field :=
  { kind := .array, name := "PAIRS", address := some 1, size := some "4"
    itemType := some samplePair }

def samplePairValue (b : UInt8) : Value :=
  .elements samplePair 2
    [.members sampleEntry 2
      [.number { kind := .integer, name := "LENGTH", size := some "1" } 1 1,
       .raw { kind := .undefined, name := "BODY", size := some "ARG_00" } 1 [b]]]

theorem fixedSize_samplePair : FixedSize samplePair 2 where
  plain := by
    unfold Plain
    decide
  size := rfl
  pos := by decide

/-- Two pairs, and two of which the second says that its text goes on behind it. -/
theorem samplePairs_chunks :
    let pairs := Source.ofBytes [9, 1, 7, 1, 8]
    let torn := Source.ofBytes [9, 1, 7, 2, 8, 5]
    samplePairs.resolvedSize [] = .ok (2 * 2) ∧
      (∃ v, (decode samplePairs [] pairs).1 = .ok v ∧ v.inner.length = 2 ∧
        ∀ k e, v.inner[k]? = some e → decodeChunk samplePair 2 [1, 7, 1, 8] k = .ok e) ∧
      (decode samplePairs [] torn).1 =
        .error (.failure ⟨.lengthMismatch 2 0 3, ["PAIRS", "[1]"]⟩) ∧
      ∃ k < 2, (∀ j < k, ∃ e, decodeChunk samplePair 2 [1, 7, 2, 8, 5] j = .ok e) ∧
        ∀ e, decodeChunk samplePair 2 [1, 7, 2, 8, 5] k ≠ .ok e := by
  intro pairs torn
  have harray : samplePairs.kind = .array := rfl
  have hitem : samplePairs.itemType = some samplePair := rfl
  have hsize : samplePairs.resolvedSize [] = .ok (2 * 2) := rfl
  have hpairs : seek samplePairs pairs = (.ok (), ⟨[1, 7, 1, 8], 1, false⟩) := rfl
  have htorn : seek samplePairs torn = (.ok (), ⟨[1, 7, 2, 8, 5], 1, false⟩) := rfl
  have hchunks : ∀ k < 2, ∃ e, decodeChunk samplePair 2 [1, 7, 1, 8] k = .ok e := by
    intro k hk
    obtain rfl | rfl : k = 0 ∨ k = 1 := by omega
    · exact ⟨samplePairValue 7, rfl⟩
    · exact ⟨samplePairValue 8, rfl⟩
  obtain ⟨hdecodes, hvalue, _⟩ := decode_chunks harray hitem fixedSize_samplePair hsize hpairs
  obtain ⟨_, _, hfault⟩ := decode_chunks harray hitem fixedSize_samplePair hsize htorn
  obtain ⟨v, hv⟩ := hdecodes.mpr hchunks
  have hbroken : (decode samplePairs [] torn).1 =
      .error (.failure ⟨.lengthMismatch 2 0 3, ["PAIRS", "[1]"]⟩) := rfl
  obtain ⟨k, hk, hbefore, hnone, _⟩ := hfault _ hbroken
  exact ⟨hsize, ⟨v, hv, hvalue v hv⟩, hbroken, k, hk, hbefore, hnone⟩

/-- An array that its elements cannot fill ends behind the last that is whole. -/
theorem EndsAt.eq_div [Host] {item : Field} {m total n : Nat} {s : Source}
    {result : Except DecodeFault (List Value)} (h : EndsAt item m total s n result) (hpos : 0 < m)
    (hrest : ¬ m ∣ total) (hwhole : ∀ k < total / m, ∃ e, decodeChunk item m s.rest k = .ok e) :
    n = total / m := by
  cases h with
  | full _ htotal _ => exact absurd (Dvd.intro_left _ htotal) hrest
  | fault hroom hnone _ =>
    apply le_antisymm ((Nat.le_div_iff_mul_le hpos).mpr hroom.le)
    by_contra hmore
    obtain ⟨e, he⟩ := hwhole n (not_le.mp hmore)
    exact hnone e he
  | misfit hroom hlong _ _ => exact (Nat.div_eq_of_lt_le hroom.le hlong).symm

/-- Where the size of the elements does not divide that of the array and each whole element is
decoded, the array is reported as one with an element that does not fit exactly if one more element
is decoded from the bytes that are left, those behind the array among them. At the end of an image
it never is: it fails while that element is decoded. -/
theorem decode_overshoot [Host] {f item : Field} {bindings : Bindings} {m total : Nat}
    (harray : f.kind = .array) (hitem : f.itemType = some item) (hfixed : FixedSize item m)
    (hsize : f.resolvedSize bindings = .ok total) (hrest : ¬ m ∣ total) {s start : Source}
    (hstart : seek f s = (.ok (), start))
    (hwhole : ∀ k < total / m, ∃ e, decodeChunk item m start.rest k = .ok e) :
    let q := total / m
    let mismatch := (Decoder.mismatch total (q * m) m).within f.name
    ((decode f bindings s).1 = .error mismatch ↔ ∃ e, decodeChunk item m start.rest q = .ok e) ∧
    ((decode f bindings s).1 = .error mismatch → (q + 1) * m ≤ start.rest.length) ∧
    ((decode f bindings s).1 ≠ .error mismatch →
      ∃ cause,
        (decodeField item (Expression.bindBytes (start.rest.take (q * m)))
          (start.behind (q * m))).1 = .error cause ∧
        (decode f bindings s).1 = .error ((cause.within (Located.index q)).within f.name)) := by
  intro q mismatch
  obtain ⟨n, result, hends, _, hdecode⟩ := hfixed.decode_array harray hitem hsize hstart
  obtain rfl : n = q := hends.eq_div hfixed.pos hrest hwhole
  rw [hdecode]
  cases hends with
  | full _ htotal _ => exact absurd (Dvd.intro_left _ htotal) hrest
  | @fault cause _ hnone hcause =>
    have hnot : Except.error ((cause.within (Located.index q)).within f.name) ≠
        (.error mismatch : Except DecodeFault Value) := by
      intro h
      exact within_index_ne_mismatch f.name cause q _ _ _ (Except.error.inj h)
    refine ⟨⟨fun h => absurd h hnot, ?_⟩, fun h => absurd h hnot, fun _ => ⟨cause, hcause, rfl⟩⟩
    rintro ⟨e, he⟩
    exact absurd he (hnone e)
  | @misfit e _ _ hok hbytes =>
    exact ⟨⟨fun _ => ⟨e, hok⟩, fun _ => rfl⟩, fun _ => hbytes, fun h => absurd rfl h⟩

def sampleWord : Field := { kind := .integer, size := some "2" }

theorem fixedSize_sampleWord : FixedSize sampleWord 2 where
  plain := by
    unfold Plain
    decide
  size := rfl
  pos := by decide

/-- Words in three bytes, with a byte behind them. -/
theorem sampleWords_overshoot :
    let words := sampleWords "3"
    let source := Source.ofBytes [1, 2, 3, 4]
    words.itemType = some sampleWord ∧ words.resolvedSize [] = .ok 3 ∧ ¬ 2 ∣ 3 ∧
      (∀ k < 3 / 2, ∃ e, decodeChunk sampleWord 2 source.rest k = .ok e) ∧
      (decode words [] source).1 = .error ((Decoder.mismatch 3 2 2).within "WORDS") := by
  intro words source
  have hitem : words.itemType = some sampleWord := rfl
  have hsize : words.resolvedSize [] = .ok 3 := rfl
  have hrest : ¬ 2 ∣ 3 := by decide
  have hstart : seek words source = (.ok (), source) := rfl
  have hwhole : ∀ k < 3 / 2, ∃ e, decodeChunk sampleWord 2 source.rest k = .ok e := by
    intro k hk
    obtain rfl : k = 0 := by omega
    exact ⟨_, rfl⟩
  obtain ⟨hmismatch, _⟩ :=
    decode_overshoot rfl hitem fixedSize_sampleWord hsize hrest hstart hwhole
  exact ⟨hitem, hsize, hrest, hwhole, hmismatch.mpr ⟨_, rfl⟩⟩

/-- Words in three bytes at the end of an image: the one word that is whole is decoded, and the
array has all its bytes, but no element of it is reported as one that does not fit. -/
theorem sampleWords_cut_off :
    let words := sampleWords "3"
    let source := Source.ofBytes [1, 2, 3]
    words.itemType = some sampleWord ∧ FixedSize sampleWord 2 ∧ words.resolvedSize [] = .ok 3 ∧
      ¬ 2 ∣ 3 ∧ 3 ≤ source.rest.length ∧
      (∀ k < 3 / 2, ∃ e, decodeChunk sampleWord 2 source.rest k = .ok e) ∧
      (decode words [] source).1 = .error (.failure ⟨.pastEnd ⟨2, 1, 2⟩, ["WORDS", "[1]"]⟩) ∧
      (decode words [] source).1 ≠ .error ((Decoder.mismatch 3 2 2).within "WORDS") := by
  intro words source
  have hfault : (decode words [] source).1 =
      .error (.failure ⟨.pastEnd ⟨2, 1, 2⟩, ["WORDS", "[1]"]⟩) := rfl
  refine ⟨rfl, fixedSize_sampleWord, rfl, by decide, by decide, ?_, hfault, ?_⟩
  · intro k hk
    obtain rfl : k = 0 := by omega
    exact ⟨_, rfl⟩
  · rw [hfault]
    intro h
    cases h

end GameAtlas.Image
