import Mathlib.Tactic
import GameAtlas.Proofs.Image.Place

/-!
Arrays filled round by round. A round begins while the elements so far leave room; it reads one
more element and adds the element's bytes, if there are any and they fit. A round that is done adds
a byte at least, so that there are no more rounds than the array has bytes, and no count of rounds
is needed to tell what an array is filled with. It ends full, or at an element that fails or does
not fit.
-/

namespace GameAtlas.Image

open Schema (Field)
open Expression (Bindings)

/-- How far an array is filled: the elements that were read, their bytes, and the source behind
them. -/
structure Filling where
  items : List Value := []
  run : List UInt8 := []
  source : Source

namespace Filling

section

variable (element : Bindings → Decoder Value) (total : Nat)

/-- One round that is done: an element is read behind the others, and it fits. -/
inductive Round : Filling → Filling → Prop where
  | read {st : Filling} {v : Value} {after : Source} :
      st.run.length < total →
      element (Expression.bindBytes st.run) st.source = (.ok v, after) →
      ¬ Decoder.Misfits total st.run.length v →
      Round st ⟨st.items ++ [v], st.run ++ v.encode, after⟩

/-- As many rounds, one behind the other. -/
inductive Rounds : Nat → Filling → Filling → Prop where
  | none {st : Filling} : Rounds 0 st st
  | more {n : Nat} {st next last : Filling} :
      Round element total st next → Rounds n next last → Rounds (n + 1) st last

/-- What comes of an array where no further round is done: it is full, or a round began that read no
element or one that does not fit. -/
inductive Ends : Filling → Except DecodeFault (List Value) → Source → Prop where
  | full {st : Filling} : total ≤ st.run.length → Ends st (.ok st.items) st.source
  | fault {st : Filling} {cause : DecodeFault} {after : Source} :
      st.run.length < total →
      element (Expression.bindBytes st.run) st.source = (.error cause, after) →
      Ends st (.error (cause.within (Located.index st.items.length))) after
  | misfit {st : Filling} {v : Value} {after : Source} :
      st.run.length < total →
      element (Expression.bindBytes st.run) st.source = (.ok v, after) →
      Decoder.Misfits total st.run.length v →
      Ends st (.error (Decoder.mismatch total st.run.length v.consumed)) after

end

variable {element : Bindings → Decoder Value} {total n k : Nat} {st next last : Filling}
  {s after : Source}

/-! ### What rounds add up to -/

/-- What an array is filled with after `n` rounds. -/
structure Counted (total n : Nat) (st : Filling) : Prop where
  rounds : st.items.length = n
  run : st.run = Value.encodeAll st.items
  full : ∀ e ∈ st.items, 1 ≤ e.consumed
  sum : (st.items.map Value.consumed).sum = st.run.length
  room : st.run.length ≤ total

theorem counted_start (total : Nat) (s : Source) : Counted total 0 { source := s } where
  rounds := rfl
  run := rfl
  full := nofun
  sum := rfl
  room := Nat.zero_le total

/-- Each element has a byte at least, so that there were no more rounds than there are bytes. -/
theorem Counted.rounds_le (h : Counted total n st) : n ≤ st.run.length := by
  have hfull : ∀ size ∈ st.items.map Value.consumed, 1 ≤ size := by
    intro size hsize
    obtain ⟨e, he, rfl⟩ := List.mem_map.mp hsize
    exact h.full e he
  have hlength := List.length_le_sum_of_one_le _ hfull
  rw [List.length_map, h.rounds, h.sum] at hlength
  exact hlength

theorem encodeAll_append (first second : List Value) :
    Value.encodeAll (first ++ second) = Value.encodeAll first ++ Value.encodeAll second := by
  simp only [Value.encodeAll_eq_flatMap, List.flatMap_append]

/-- A round adds one element, and to the bytes as many as the element was counted with. -/
theorem Round.adds {item : Field} (helement : ∀ bindings, (element bindings).Takes (ReadsBack item))
    (h : Round element total st next) :
    ∃ v, next.items = st.items ++ [v] ∧ next.run = st.run ++ v.encode ∧
      next.run.length = st.run.length + v.consumed ∧ 1 ≤ v.consumed ∧
      next.run.length ≤ total := by
  cases h with
  | @read v after _ hv hfit =>
    have hcounts : v.consumed = v.encode.length := Decoder.consumed_of_takes (helement _) hv
    simp only [Decoder.Misfits, not_or, not_lt] at hfit
    obtain ⟨hnonempty, hroom⟩ := hfit
    refine ⟨v, rfl, rfl, ?_, by omega, ?_⟩
    · rw [List.length_append, hcounts]
    · rw [List.length_append, ← hcounts]
      exact hroom

theorem Round.counted {item : Field}
    (helement : ∀ bindings, (element bindings).Takes (ReadsBack item))
    (h : Round element total st next) (hst : Counted total n st) : Counted total (n + 1) next := by
  obtain ⟨v, hitems, hrun, hlength, hnonempty, hroom⟩ := h.adds helement
  refine ⟨?_, ?_, ?_, ?_, hroom⟩
  · rw [hitems, List.length_append, hst.rounds, List.length_singleton]
  · rw [hitems, hrun, hst.run, encodeAll_append, Value.encodeAll, Value.encodeAll, List.append_nil]
  · intro e he
    rw [hitems, List.mem_append, List.mem_singleton] at he
    rcases he with he | rfl
    · exact hst.full e he
    · exact hnonempty
  · rw [hitems, List.map_append, List.sum_append, hst.sum, hlength, List.map_singleton,
      List.sum_singleton]

theorem Rounds.counted {item : Field}
    (helement : ∀ bindings, (element bindings).Takes (ReadsBack item))
    (h : Rounds element total n st last) (hst : Counted total k st) :
    Counted total (k + n) last := by
  induction h generalizing k with
  | none => exact hst
  | more hround _ ih =>
    have hnext := ih (hround.counted helement hst)
    rwa [Nat.add_assoc, Nat.add_comm 1] at hnext

/-! ### The decoder's rounds -/

/-- Behind a round that is done the decoder goes on with the elements so far and one more. -/
theorem elements_of_round {fuel : Nat} {v : Value} {middle : Source}
    (hroom : st.run.length < total)
    (hread : element (Expression.bindBytes st.run) st.source = (.ok v, middle))
    (hfit : ¬ Decoder.Misfits total st.run.length v) {rest : Except DecodeFault (List Value)}
    (h : Decoder.elements element total (fuel + 1) k st.run st.source = (rest, after)) :
    ∃ more, Decoder.elements element total fuel (k + 1) (st.run ++ v.encode) middle =
        (more, after) ∧ rest = more.map (v :: ·) := by
  rw [Decoder.elements, if_pos hroom, Decoder.bind_run, Decoder.within_run, hread] at h
  dsimp only at h
  rw [if_neg (by simpa [Decoder.Misfits] using hfit), Decoder.bind_run] at h
  cases hmore : Decoder.elements element total fuel (k + 1) (st.run ++ v.encode) middle with
  | mk more last =>
    rw [hmore] at h
    cases more with
    | ok items =>
      cases h
      exact ⟨.ok items, rfl, rfl⟩
    | error e =>
      cases h
      exact ⟨.error e, rfl, rfl⟩

/-- Where no round is done any more the decoder ends as the array does. -/
theorem ends_of_elements {fuel : Nat} {rest : Except DecodeFault (List Value)}
    (h : Decoder.elements element total (fuel + 1) st.items.length st.run st.source = (rest, after))
    (hlast : ∀ next, ¬ Round element total st next) :
    Ends element total st (rest.map (st.items ++ ·)) after := by
  by_cases hroom : st.run.length < total
  · rw [Decoder.elements, if_pos hroom, Decoder.bind_run, Decoder.within_run] at h
    cases hread : element (Expression.bindBytes st.run) st.source with
    | mk result middle =>
      rw [hread] at h
      cases result with
      | error cause =>
        cases h
        exact .fault hroom hread
      | ok v =>
        by_cases hfit : Decoder.Misfits total st.run.length v
        · dsimp only at h
          rw [if_pos (by simpa [Decoder.Misfits] using hfit)] at h
          cases h
          exact .misfit hroom hread hfit
        · exact absurd (.read hroom hread hfit) (hlast _)
  · rw [Decoder.elements, if_neg hroom] at h
    cases h
    have hfull : Ends element total st (.ok st.items) st.source := .full (not_lt.mp hroom)
    simpa [Except.map] using hfull

/-- The decoder does rounds until they end, if it may do as many as there are bytes to fill. The
induction is on the rounds that it may still do. -/
theorem run_of_elements {item : Field} {fuel : Nat}
    (helement : ∀ bindings, (element bindings).Takes (ReadsBack item))
    (hfuel : total ≤ st.run.length + fuel) {rest : Except DecodeFault (List Value)}
    (h : Decoder.elements element total fuel st.items.length st.run st.source = (rest, after)) :
    ∃ n last, Rounds element total n st last ∧
      Ends element total last (rest.map (st.items ++ ·)) after := by
  induction fuel generalizing st rest with
  | zero =>
    cases h
    have hfull : Ends element total st (.ok st.items) st.source := .full hfuel
    refine ⟨0, st, .none, ?_⟩
    simpa [Except.map] using hfull
  | succ fuel ih =>
    by_cases hdone : ∃ next, Round element total st next
    · obtain ⟨next, hround⟩ := hdone
      obtain ⟨_, _, _, hlength, hnonempty, _⟩ := hround.adds helement
      cases hround with
      | @read v middle hroom hread hfit =>
        obtain ⟨more, hmore, rfl⟩ := elements_of_round hroom hread hfit h
        have hnext : (st.items ++ [v]).length = st.items.length + 1 := List.length_append
        rw [← hnext] at hmore
        obtain ⟨n, last, hrounds, hends⟩ := @ih ⟨_, _, middle⟩ (by omega) _ hmore
        refine ⟨n + 1, last, .more (.read hroom hread hfit) hrounds, ?_⟩
        cases more with
        | ok items => simpa [Except.map] using hends
        | error e => exact hends
    · exact ⟨0, st, .none, ends_of_elements h fun next hround => hdone ⟨next, hround⟩⟩

/-- The rounds of an array of `total` bytes over a source, and what comes of them. -/
structure Run (element : Bindings → Decoder Value) (total : Nat) (s : Source) (n : Nat)
    (last : Filling) (result : Except DecodeFault (List Value)) (after : Source) : Prop where
  rounds : Rounds element total n { source := s } last
  ends : Ends element total last result after

theorem Run.counted {item : Field} {result : Except DecodeFault (List Value)}
    (helement : ∀ bindings, (element bindings).Takes (ReadsBack item))
    (h : Run element total s n last result after) : Counted total n last := by
  have hcounted := h.rounds.counted helement (counted_start total s)
  rwa [Nat.zero_add] at hcounted

/-- A full array has just as many bytes as its size says. -/
theorem Run.filled {item : Field} {items : List Value}
    (helement : ∀ bindings, (element bindings).Takes (ReadsBack item))
    (h : Run element total s n last (.ok items) after) :
    items = last.items ∧ after = last.source ∧ last.run.length = total := by
  have hcounted := h.counted helement
  obtain ⟨_, hends⟩ := h
  cases hends with
  | full hfull => exact ⟨rfl, rfl, le_antisymm hcounted.room hfull⟩

/-! ### The array's own mismatch -/

theorem index_ne_empty (k : Nat) : Located.index k ≠ "" := by
  intro h
  have hlength := congrArg String.length h
  simp [Located.index] at hlength

/-- What an element fails with is no mismatch of the array around it: it names the element. -/
theorem within_index_ne_mismatch (name : String) (cause : DecodeFault) (k : Nat)
    (expected consumed size : Nat) :
    (cause.within (Located.index k)).within name ≠
      (Decoder.mismatch expected consumed size).within name := by
  intro h
  rw [Decoder.mismatch, DecodeFault.failure_within] at h
  cases cause with
  | failure inner =>
    rw [DecodeFault.failure_within, DecodeFault.failure_within] at h
    simp [index_ne_empty] at h
  | refused r => cases h
  | bare c => cases h
  | noItemType => cases h

theorem Ends.mismatch {name : String} {e : DecodeFault} {expected consumed size : Nat}
    (h : Ends element total last (.error e) after)
    (hown : e.within name = (Decoder.mismatch expected consumed size).within name) :
    e = Decoder.mismatch expected consumed size ∧ expected = total ∧
      consumed = last.run.length ∧ consumed < total ∧ (size = 0 ∨ total < consumed + size) := by
  cases h with
  | @fault cause _ _ _ => exact absurd hown (within_index_ne_mismatch name cause _ _ _ _)
  | @misfit v _ hroom _ hfit =>
    rw [Decoder.mismatch, Decoder.mismatch, DecodeFault.failure_within,
      DecodeFault.failure_within] at hown
    cases hown
    exact ⟨rfl, rfl, rfl, hroom, hfit⟩

end Filling

open Filling

/-- An array is decoded by rounds over its bytes. -/
theorem decodeField_array [Host] {f : Field} {bindings : Bindings} {total : Nat}
    (harray : f.kind = .array) (hsize : f.resolvedSize bindings = .ok total) (s : Source) :
    ∃ n last result after, Run (decodeItem f.itemType) total s n last result after ∧
      decodeField f bindings s =
        ((result.map (.elements f total)).mapError (DecodeFault.within f.name), after) := by
  have hform : f.kind.form = .elements := by rw [harray]; rfl
  have helement := decodeItem_takes f.itemType
  have hread : Decoder.sizeOf f.toAttributes bindings = pure total := by
    rw [Decoder.sizeOf, hsize]
  cases hitems : Decoder.elements (decodeItem f.itemType) total total 0 [] s with
  | mk rest after =>
    have hfuel : total ≤ ({ source := s } : Filling).run.length + total := by simp
    obtain ⟨n, last, hrounds, hends⟩ := run_of_elements helement hfuel hitems
    have hmap : rest.map (fun items => [] ++ items) = rest := by
      cases rest <;> rfl
    rw [hmap] at hends
    have hrun : Run (decodeItem f.itemType) total s n last rest after := ⟨hrounds, hends⟩
    refine ⟨n, last, rest, after, hrun, ?_⟩
    have hcontent : content f bindings =
        (Decoder.elements (decodeItem f.itemType) total total 0 [] >>= fun items =>
          pure (.elements f (Value.encodeAll items).length items)) := by
      simp only [content, hform, hread, pure_bind]
    rw [decodeField_eq, Decoder.within_run, hcontent, Decoder.bind_run, hitems]
    cases rest with
    | ok items =>
      obtain ⟨rfl, _, hfilled⟩ := hrun.filled helement
      rw [(hrun.counted helement).run] at hfilled
      dsimp only
      rw [hfilled]
      rfl
    | error e => rfl

/-- The rounds of an array end: each that is done adds an element's bytes, of which there is one at
least, and no more rounds begin than the array has bytes. An array that is decoded is filled to the
last byte by elements that are not empty. Where it fails by a mismatch of its own, the bytes that it
names are those of the elements before, and the element that it names is empty or longer than what
is left. -/
theorem array_fills [Host] {f : Field} {bindings : Bindings} {total : Nat}
    (harray : f.kind = .array)
    (hsize : f.resolvedSize bindings = .ok total) (s : Source) :
    let element := decodeItem f.itemType
    (∀ n st, Rounds element total n { source := s } st →
      n ≤ total ∧ (st.run.length < total → n + 1 ≤ total) ∧
        ∀ next, Round element total st next → ∃ v, next.items = st.items ++ [v] ∧
          next.run.length = st.run.length + v.consumed ∧ 1 ≤ v.consumed) ∧
    (∃ n last result after, Run element total s n last result after ∧
      decodeField f bindings s =
        ((result.map (.elements f total)).mapError (DecodeFault.within f.name), after)) ∧
    (∀ v after, decodeField f bindings s = (.ok v, after) →
      (∀ e ∈ v.inner, 1 ≤ e.consumed) ∧ (v.inner.map Value.consumed).sum = total) ∧
    ∀ expected consumed size,
      (decodeField f bindings s).1 =
        .error ((Decoder.mismatch expected consumed size).within f.name) →
      expected = total ∧ (size = 0 ∨ total - consumed < size) ∧
        ∃ n last after,
          Run element total s n last (.error (Decoder.mismatch expected consumed size)) after ∧
          consumed = (last.items.map Value.consumed).sum := by
  intro element
  have helement := decodeItem_takes f.itemType
  obtain ⟨n, last, result, after, hrun, hdecode⟩ := decodeField_array harray hsize s
  have hlast : Counted total n last := hrun.counted helement
  refine ⟨?_, ⟨n, last, result, after, hrun, hdecode⟩, ?_, ?_⟩
  · intro k st hrounds
    have hst := hrounds.counted helement (counted_start total s)
    rw [Nat.zero_add] at hst
    have hbytes := hst.rounds_le
    have hroom := hst.room
    refine ⟨by omega, by omega, ?_⟩
    intro next hround
    obtain ⟨v, hitems, _, hlength, hnonempty, _⟩ := hround.adds helement
    exact ⟨v, hitems, hlength, hnonempty⟩
  · intro v middle h
    rw [hdecode] at h
    cases result with
    | ok items =>
      obtain ⟨rfl, _, hfilled⟩ := hrun.filled helement
      cases h
      exact ⟨hlast.full, hlast.sum.trans hfilled⟩
    | error e => cases h
  · intro expected consumed size h
    rw [hdecode] at h
    cases result with
    | ok items => cases h
    | error e =>
      have hown := Except.error.inj h
      obtain ⟨rfl, rfl, hconsumed, hroom, hfit⟩ := hrun.ends.mismatch hown
      refine ⟨rfl, by omega, n, last, after, hrun, ?_⟩
      rw [hlast.sum, hconsumed]

/-- Of two words in three bytes the second does not fit. -/
theorem sampleWords_fills :
    let words := sampleWords "3"
    let source := Source.ofBytes [1, 2, 3, 4]
    words.resolvedSize [] = .ok 3 ∧
      (decodeField words [] source).1 = .error ((Decoder.mismatch 3 2 2).within "WORDS") ∧
      ∃ n last after, Run (decodeItem words.itemType) 3 source n last
          (.error (Decoder.mismatch 3 2 2)) after ∧
        n ≤ 3 ∧ (last.items.map Value.consumed).sum = 2 := by
  intro words source
  have hsize : words.resolvedSize [] = .ok 3 := rfl
  have hfault : (decodeField words [] source).1 =
      .error ((Decoder.mismatch 3 2 2).within "WORDS") := rfl
  obtain ⟨hrounds, _, _, hmismatch⟩ := array_fills (f := words) rfl hsize source
  obtain ⟨_, _, n, last, after, hrun, hsum⟩ := hmismatch 3 2 2 hfault
  obtain ⟨hn, _⟩ := hrounds n last hrun.rounds
  exact ⟨hsize, hfault, n, last, after, hrun, hn, hsum.symm⟩

end GameAtlas.Image
