import Mathlib.Tactic
import GameAtlas.Proofs.Image.InPlace
import GameAtlas.Proofs.Image.Route

/-!
Bytes up to an end mark. Bytes are taken one by one until those taken end with the mark, so that
none of the shorter beginnings does. The run that is read is the shortest beginning of what is left
that ends with the mark, and there is one just where the mark stands somewhere in what is left.
-/

namespace GameAtlas.Image

open Schema (Field)
open Expression (Bindings)

/-- The shortest beginning of `bytes` that ends with an end mark. -/
structure IsFirstRun (mark bytes run : List UInt8) : Prop where
  front : run <+: bytes
  ends : mark <:+ run
  shortest : ∀ other, other <+: bytes → mark <:+ other → run.length ≤ other.length

variable {mark bytes run : List UInt8}

/-- In the run the mark stands at the end and nowhere before, not even overlapping its end. -/
theorem IsFirstRun.mark_last (h : IsFirstRun mark bytes run) {before after : List UInt8}
    (hsplit : run = before ++ mark ++ after) : after = [] := by
  have hfront : before ++ mark <+: bytes :=
    List.IsPrefix.trans ⟨after, hsplit.symm⟩ h.front
  have hlength := h.shortest (before ++ mark) hfront (List.suffix_append before mark)
  rw [hsplit, List.length_append] at hlength
  exact List.eq_nil_of_length_eq_zero (by omega)

theorem IsFirstRun.mark_occurs (h : IsFirstRun mark bytes run) : mark <:+: bytes :=
  h.ends.isInfix.trans h.front.isInfix

/-! ### Sources -/

/-- The test at a place of the scan: whether the bytes up to there end with the mark. -/
theorem isPrefixOf_reverse_iff {taken : List UInt8} :
    mark.reverse.isPrefixOf (taken.reverse ++ []) = true ↔ mark <:+ taken := by
  rw [List.append_nil, List.isPrefixOf_iff_prefix, List.reverse_prefix]

/-- A scan ends behind the first run, and fails only where no mark stands. -/
theorem scan_first (mark bytes : List UInt8) :
    match Source.scan mark.reverse [] bytes with
    | some (taken, more) =>
      bytes = taken.reverse ++ more ∧ IsFirstRun mark bytes taken.reverse
    | none => ¬ mark <:+: bytes := by
  rw [InPlace.scan_eq_find?]
  cases hfind : (List.range (bytes.length + 1)).find? fun n =>
      mark.reverse.isPrefixOf ((bytes.take n).reverse ++ []) with
  | none =>
    have hnever := List.find?_eq_none.mp hfind
    rintro ⟨before, after, rfl⟩
    have htake : (before ++ mark ++ after).take (before ++ mark).length = before ++ mark :=
      List.take_left
    refine hnever (before ++ mark).length (by simp) ?_
    rw [htake]
    exact isPrefixOf_reverse_iff.mpr (List.suffix_append before mark)
  | some n =>
    obtain ⟨hends, hmem, hearlier⟩ := List.find?_range_eq_some.mp hfind
    have hn : n ≤ bytes.length := Nat.lt_succ_iff.mp (List.mem_range.mp hmem)
    have htaken : ((bytes.take n).reverse ++ []).reverse = bytes.take n := by
      rw [List.append_nil, List.reverse_reverse]
    dsimp only [Option.map_some]
    rw [htaken]
    refine ⟨(List.take_append_drop n bytes).symm, List.take_prefix n bytes,
      isPrefixOf_reverse_iff.mp hends, ?_⟩
    intro other hfront hmark
    rw [List.length_take_of_le hn]
    by_contra hshort
    -- a shorter beginning that ends with the mark would have stopped the scan before
    have hother : bytes.take other.length = other := (List.prefix_iff_eq_take.mp hfront).symm
    have hno := hearlier other.length (not_le.mp hshort)
    rw [hother, isPrefixOf_reverse_iff.mpr hmark] at hno
    cases hno

/-- What is known of a source behind which no mark is found. -/
def Source.missing (s : Source) (mark : List UInt8) : PastEnd :=
  ⟨s.rest.length + mark.length, s.rest.length, s.position + s.rest.length⟩

/-- Where the mark stands, the first run is read and no byte more. -/
theorem readUntil_found {s : Source} (h : mark <:+: s.rest) :
    ∃ run more, s.rest = run ++ more ∧ IsFirstRun mark s.rest run ∧
      s.readUntil mark = (.ok run, s.past run more) := by
  have hscan := scan_first mark s.rest
  rw [Source.readUntil]
  cases hfound : Source.scan mark.reverse [] s.rest with
  | none =>
    rw [hfound] at hscan
    exact absurd h hscan
  | some found =>
    rw [hfound] at hscan
    obtain ⟨hsplit, hfirst⟩ := hscan
    refine ⟨found.1.reverse, found.2, hsplit, hfirst, ?_⟩
    simp [Source.past]

/-- Where it does not, everything is consumed, and the source is said to be too short. -/
theorem readUntil_missing {s : Source} (h : ¬ mark <:+: s.rest) :
    s.readUntil mark = (.error (.pastEnd (s.missing mark)), s.past s.rest []) := by
  have hscan := scan_first mark s.rest
  rw [Source.readUntil]
  cases hfound : Source.scan mark.reverse [] s.rest with
  | none => rfl
  | some found =>
    rw [hfound] at hscan
    exact absurd hscan.2.mark_occurs h

/-! ### Fields -/

/-- A field of bytes with an end mark and no size is read up to the mark, whatever is bound. -/
theorem decodeField_terminated [Host] {f : Field} (hraw : f.kind.form = .raw)
    (hsize : f.size = none)
    (hmark : f.terminator ≠ []) (bindings : Bindings) (s : Source) :
    decodeField f bindings s =
      match s.readUntil f.terminator with
      | (.ok run, after) => (.ok (.raw f run.length run), after)
      | (.error e, after) => (.error ((DecodeFault.ofRead e).within f.name), after) := by
  have hbytes : Decoder.rawBytes f.toAttributes bindings = Decoder.readUntil f.terminator := by
    rw [Decoder.rawBytes, if_pos (by simp [hsize, hmark])]
  have hcontent : content f bindings =
      (Decoder.readUntil f.terminator >>= fun run => pure (.raw f run.length run)) := by
    simp only [content, hraw, hbytes]
  rw [decodeField_eq, Decoder.within_run, hcontent, Decoder.bind_run, Decoder.readUntil,
    Decoder.ofSource]
  cases s.readUntil f.terminator with
  | mk result after => cases result <;> rfl

/-- A field of bytes that has an end mark and no size takes the shortest beginning of what is left
that ends with the mark: the mark stands at the end of the value and nowhere else in it, and the
source moves on by just the value's bytes. Where the mark does not stand in what is left, and only
there, the field fails, and what it reports is that the source is too short. A root is read so
behind its address. -/
theorem decode_terminated [Host] {f : Field} (hraw : f.kind.form = .raw) (hsize : f.size = none)
    (hmark : f.terminator ≠ []) (bindings : Bindings) (s : Source) :
    (f.terminator <:+: s.rest → ∃ run more, s.rest = run ++ more ∧
      IsFirstRun f.terminator s.rest run ∧
      (∀ before after, run = before ++ f.terminator ++ after → after = []) ∧
      decodeField f bindings s = (.ok (.raw f run.length run),
        { s with rest := more, position := s.position + run.length })) ∧
    (∀ e, (decodeField f bindings s).1 = .error e ↔
      ¬ f.terminator <:+: s.rest ∧
        e = .within f.name (.failure { cause := .pastEnd (s.missing f.terminator) })) ∧
    ∀ start, seek f start = (.ok (), s) →
      decode f bindings start = decodeField f bindings s := by
  have hdecode := decodeField_terminated hraw hsize hmark bindings s
  refine ⟨?_, ?_, ?_⟩
  · intro hthere
    obtain ⟨run, more, hsplit, hfirst, hread⟩ := readUntil_found hthere
    rw [hread] at hdecode
    exact ⟨run, more, hsplit, hfirst, fun _ _ => hfirst.mark_last, hdecode⟩
  · intro e
    by_cases hthere : f.terminator <:+: s.rest
    · obtain ⟨run, more, _, _, hread⟩ := readUntil_found hthere
      rw [hread] at hdecode
      rw [hdecode]
      exact iff_of_false nofun fun ⟨hmissing, _⟩ => hmissing hthere
    · rw [readUntil_missing hthere] at hdecode
      rw [hdecode]
      constructor
      · intro h
        cases h
        exact ⟨hthere, rfl⟩
      · rintro ⟨_, rfl⟩
        rfl
  · intro start hseek
    rw [decode_eq_seek, Decoder.bind_run, hseek]

/-- A script whose end mark can overlap itself. -/
def sampleMarked : Field := { kind := .script, name := "LINE", terminator := [1, 1, 2] }

/-- Of three ones before a two the first is no part of the mark; two ones alone are none. -/
theorem sampleMarked_terminated :
    let line := Source.ofBytes [1, 1, 1, 2, 1, 1]
    sampleMarked.kind.form = .raw ∧ sampleMarked.size = none ∧ sampleMarked.terminator ≠ [] ∧
      decodeField sampleMarked [] line =
        (.ok (.raw sampleMarked 4 [1, 1, 1, 2]), ⟨[1, 1], 4, false⟩) ∧
      IsFirstRun sampleMarked.terminator line.rest [1, 1, 1, 2] ∧
      (decodeField sampleMarked [] ⟨[1, 1], 4, false⟩).1 =
        .error (.failure ⟨.pastEnd ⟨5, 2, 6⟩, ["LINE"]⟩) := by
  intro line
  have hmark : sampleMarked.terminator ≠ [] := by decide
  have hrun : decodeField sampleMarked [] line =
      (.ok (.raw sampleMarked 4 [1, 1, 1, 2]), ⟨[1, 1], 4, false⟩) := rfl
  obtain ⟨hfound, _, _⟩ := decode_terminated (f := sampleMarked) rfl rfl hmark [] line
  obtain ⟨_, hmissing, _⟩ :=
    decode_terminated (f := sampleMarked) rfl rfl hmark [] ⟨[1, 1], 4, false⟩
  obtain ⟨run, more, _, hfirst, _, hdecode⟩ := hfound ⟨[1], [1, 1], rfl⟩
  have hvalue : Value.raw sampleMarked 4 [1, 1, 1, 2] = .raw sampleMarked run.length run :=
    Except.ok.inj (congrArg Prod.fst (hrun.symm.trans hdecode))
  obtain ⟨_, _, rfl⟩ := Value.raw.inj hvalue
  exact ⟨rfl, rfl, hmark, hrun, hfirst, (hmissing _).mpr ⟨by decide, rfl⟩⟩

end GameAtlas.Image
