import Mathlib.Tactic
import GameAtlas.Proofs.Image.Layers

/-!
Where decoding fails. A fault belongs to one field that the decoding reaches: its size is not to be
found, its bytes are not to be had, or an element of it does not fit. The fault is seen from the
fields on the way there, the outermost first, with the index of an element behind its array.
-/

namespace GameAtlas.Image

open Schema (Attributes Field SizeError)
open Expression (Bindings)

/-- The fault of a field whose size is not to be found. -/
def DecodeFault.ofSize (e : SizeError) : DecodeFault :=
  match e.bare? with
  | some c => .bare c
  | none => .failure { cause := .size e }

/-! ### Steps that fail -/

namespace Decoder

variable {α β : Type} {d : Decoder α} {s : Source} {e : DecodeFault}

theorem bind_error_iff {next : α → Decoder β} :
    ((d >>= next) s).1 = .error e ↔
      (d s).1 = .error e ∨ ∃ a middle, d s = (.ok a, middle) ∧ (next a middle).1 = .error e := by
  rw [bind_run]
  cases hrun : d s with
  | mk result middle =>
    cases result with
    | ok a =>
      constructor
      · intro h
        exact .inr ⟨a, middle, rfl, h⟩
      · rintro (h | ⟨_, _, ha, h⟩)
        · cases h
        · cases ha
          exact h
    | error fault =>
      constructor
      · intro h
        cases h
        exact .inl rfl
      · rintro (h | ⟨_, _, ha, _⟩)
        · cases h
          rfl
        · cases ha

/-- What is only handed on fails where it comes from. -/
theorem bind_pure_error_iff {f : α → β} :
    ((d >>= fun a => pure (f a)) s).1 = .error e ↔ (d s).1 = .error e := by
  rw [bind_error_iff]
  constructor
  · rintro (h | ⟨a, middle, _, h⟩)
    · exact h
    · cases h
  · exact .inl

theorem within_error_iff {name : String} :
    (within name d s).1 = .error e ↔ ∃ cause, (d s).1 = .error cause ∧ e = cause.within name := by
  rw [within_run]
  cases d s with
  | mk result after =>
    cases result with
    | ok a =>
      constructor
      · exact nofun
      · rintro ⟨_, h, _⟩
        cases h
    | error cause =>
      constructor
      · intro h
        cases h
        exact ⟨cause, rfl, rfl⟩
      · rintro ⟨_, h, rfl⟩
        cases h
        rfl

/-- A size is found or not; nothing is read for it. -/
theorem bind_sizeOf_error_iff [Host] {a : Attributes} {bindings : Bindings}
    {next : Nat → Decoder β} :
    ((sizeOf a bindings >>= next) s).1 = .error e ↔
      (∃ cause, a.resolvedSize bindings = .error cause ∧ e = .ofSize cause) ∨
        ∃ n, a.resolvedSize bindings = .ok n ∧ (next n s).1 = .error e := by
  unfold sizeOf
  cases a.resolvedSize bindings with
  | ok n =>
    rw [bind_error_iff]
    constructor
    · rintro (h | ⟨_, _, ha, h⟩)
      · cases h
      · cases ha
        exact .inr ⟨n, rfl, h⟩
    · rintro (⟨_, h, _⟩ | ⟨_, hn, h⟩)
      · cases h
      · cases hn
        exact .inr ⟨n, s, rfl, h⟩
  | error cause =>
    simp only [reduceCtorEq, false_and, exists_false, or_false, Except.error.injEq,
      exists_eq_left', DecodeFault.ofSize]
    cases cause.bare? with
    | some c =>
      constructor
      · intro h
        cases h
        rfl
      · rintro rfl
        rfl
    | none =>
      constructor
      · intro h
        cases h
        rfl
      · rintro rfl
        rfl

end Decoder

/-! ### Members and elements -/

/-- Members fail at one of them, when those before it were read. -/
theorem decodeMembers_error_iff [Host] (fs : List Field) (run : List UInt8) (s : Source)
    (e : DecodeFault) :
    (decodeMembers fs run s).1 = .error e ↔
      ∃ before m after parts middle, fs = before ++ m :: after ∧
        decodeMembers before run s = (.ok parts, middle) ∧
        (decodeField m (Expression.bindBytes (run ++ Value.encodeAll parts)) middle).1 =
          .error e := by
  induction fs generalizing run s with
  | nil =>
    constructor
    · intro h
      cases h
    · rintro ⟨before, m, after, _, _, hsplit, _⟩
      simp at hsplit
  | cons f rest ih =>
    rw [decodeMembers, Decoder.bind_error_iff]
    simp only [Decoder.bind_pure_error_iff, ih]
    constructor
    · rintro (h | ⟨v, next, hv, before, m, after, parts, middle, rfl, hparts, h⟩)
      · exact ⟨[], f, rest, [], s, rfl, rfl, by simpa [Value.encodeAll] using h⟩
      · refine ⟨f :: before, m, after, v :: parts, middle, rfl, ?_, ?_⟩
        · rw [decodeMembers, Decoder.bind_run, hv]
          dsimp only
          rw [Decoder.bind_run, hparts]
          rfl
        · simpa [Value.encodeAll] using h
    · rintro ⟨before, m, after, parts, middle, hsplit, hparts, h⟩
      cases before with
      | nil =>
        obtain ⟨rfl, rfl⟩ := List.cons.inj hsplit
        cases hparts
        exact .inl (by simpa [Value.encodeAll] using h)
      | cons first before =>
        obtain ⟨rfl, rfl⟩ := List.cons.inj hsplit
        rw [decodeMembers] at hparts
        obtain ⟨v, next, hv, hmore⟩ := Decoder.bind_ok hparts
        obtain ⟨more, last, hmore, hpure⟩ := Decoder.bind_ok hmore
        cases hpure
        exact .inr ⟨v, next, hv, before, m, after, more, _, rfl, hmore,
          by simpa [Value.encodeAll] using h⟩

namespace Decoder

section

variable {element : Bindings → Decoder Value} {total fuel count : Nat} {run : List UInt8}
  {s : Source} {e : DecodeFault}

/-- The fault of an array of which an element is empty or too long for what is left. -/
def mismatch (total before consumed : Nat) : DecodeFault :=
  .failure { cause := .lengthMismatch total before consumed }

/-- What stops an array behind `run`, the bytes of `count` elements: the next element fails, or it
does not fit. -/
def Stops (element : Bindings → Decoder Value) (total count : Nat) (run : List UInt8) (s : Source)
    (e : DecodeFault) : Prop :=
  run.length < total ∧
    ((∃ cause, (element (Expression.bindBytes run) s).1 = .error cause ∧
        e = cause.within (Located.index count)) ∨
      ∃ v after, element (Expression.bindBytes run) s = (.ok v, after) ∧
        Misfits total run.length v ∧ e = mismatch total run.length v.consumed)

/-- One round of an array that is not full. -/
theorem elements_step_error_iff (hroom : run.length < total) :
    (elements element total (fuel + 1) count run s).1 = .error e ↔
      Stops element total count run s e ∨
        ∃ v next, element (Expression.bindBytes run) s = (.ok v, next) ∧
          ¬ Misfits total run.length v ∧
          (elements element total fuel (count + 1) (run ++ v.encode) next).1 = .error e := by
  rw [elements, if_pos hroom, bind_error_iff, within_error_iff]
  constructor
  · rintro (hcause | ⟨v, next, hv, h⟩)
    · exact .inl ⟨hroom, .inl hcause⟩
    by_cases hfit : Misfits total run.length v
    · rw [if_pos (by simpa [Misfits] using hfit)] at h
      cases h
      exact .inl ⟨hroom, .inr ⟨v, next, within_ok hv, hfit, rfl⟩⟩
    · rw [if_neg (by simpa [Misfits] using hfit)] at h
      exact .inr ⟨v, next, within_ok hv, hfit, bind_pure_error_iff.mp h⟩
  · rintro (⟨_, hcause | ⟨v, next, hv, hfit, rfl⟩⟩ | ⟨v, next, hv, hfit, h⟩)
    · exact .inl hcause
    · refine .inr ⟨v, next, by rw [within_run, hv], ?_⟩
      rw [if_pos (by simpa [Misfits] using hfit)]
      rfl
    · refine .inr ⟨v, next, by rw [within_run, hv], ?_⟩
      rw [if_neg (by simpa [Misfits] using hfit)]
      exact bind_pure_error_iff.mpr h

theorem not_stops_of_full (hfull : total ≤ run.length) (more : List UInt8) :
    ¬ Stops element total count (run ++ more) s e := by
  rintro ⟨hroom, _⟩
  rw [List.length_append] at hroom
  omega

/-- Elements fail exactly if one of them stops the array, when those before it were read. The
induction is on the rounds that are left, of which there are enough because no element is empty. -/
theorem elements_error_iff (item : Field)
    (helement : ∀ bindings, (element bindings).Takes (ReadsBack item))
    (hfuel : total ≤ run.length + fuel) :
    (elements element total fuel count run s).1 = .error e ↔
      ∃ items middle, Series element run s items middle ∧
        Stops element total (count + items.length) (run ++ Value.encodeAll items) middle e := by
  induction fuel generalizing count run s with
  | zero =>
    constructor
    · intro h
      cases h
    · rintro ⟨items, middle, _, hstops⟩
      exact absurd hstops (not_stops_of_full hfuel _)
  | succ fuel ih =>
    by_cases hroom : run.length < total
    · have hleft {v : Value} {next : Source}
          (hv : element (Expression.bindBytes run) s = (.ok v, next)) (hsize : v.consumed ≠ 0) :
          total ≤ (run ++ v.encode).length + fuel := by
        rw [List.length_append, ← consumed_of_takes (helement _) hv]
        omega
      rw [elements_step_error_iff hroom]
      constructor
      · rintro (hstops | ⟨v, next, hv, hfit, h⟩)
        · refine ⟨[], s, .nil, ?_⟩
          rwa [Value.encodeAll, List.append_nil]
        · have hsize : v.consumed ≠ 0 := fun hzero => hfit (.inl hzero)
          obtain ⟨items, middle, hseries, hstops⟩ := (ih (hleft hv hsize)).mp h
          refine ⟨v :: items, middle, .cons hv hsize hseries, ?_⟩
          rwa [Value.encodeAll, ← List.append_assoc, List.length_cons, ← Nat.add_assoc,
            Nat.add_right_comm]
      · rintro ⟨items, middle, hseries, hstops⟩
        cases hseries with
        | nil =>
          rw [Value.encodeAll, List.append_nil] at hstops
          exact .inl hstops
        | @cons _ _ next _ v rest hv hsize hseries =>
          rw [Value.encodeAll, ← List.append_assoc] at hstops
          have hfit : ¬ Misfits total run.length v := by
            rintro (hzero | hlong)
            · exact hsize hzero
            · rw [consumed_of_takes (helement _) hv, ← List.length_append] at hlong
              exact not_stops_of_full hlong.le _ hstops
          refine .inr ⟨v, next, hv, hfit, (ih (hleft hv hsize)).mpr ⟨rest, middle, hseries, ?_⟩⟩
          rwa [List.length_cons, ← Nat.add_assoc, Nat.add_right_comm] at hstops
    · rw [elements, if_neg hroom]
      constructor
      · intro h
        cases h
      · rintro ⟨items, middle, _, hstops⟩
        exact absurd hstops (not_stops_of_full (not_lt.mp hroom) _)

end

end Decoder

/-! ### Fields -/

/-- Whether the size of a field is looked at when the field is read: not that of a struct, nor of
bytes that have an end mark and no size. -/
def UsesSize (f : Field) : Prop :=
  match f.kind.form with
  | .members => False
  | .number | .elements => True
  | .raw => (f.size.isNone && !f.terminator.isEmpty) = false

/-- What goes wrong with a field itself, and not with a field within it. -/
inductive Fails [Host] (f : Field) (bindings : Bindings) (s : Source) : DecodeFault → Prop where
  /-- Its size is not to be found. -/
  | size {cause : SizeError} : UsesSize f → f.resolvedSize bindings = .error cause →
      Fails f bindings s (.ofSize cause)
  /-- As many bytes as its size says are not to be had. -/
  | bytes {n : Nat} {e : DecodeFault} : UsesSize f → f.kind.form ≠ .elements →
      f.resolvedSize bindings = .ok n → (Decoder.read n s).1 = .error e → Fails f bindings s e
  /-- Its end mark is not to be found. -/
  | terminator {e : DecodeFault} : f.kind.form = .raw → ¬ UsesSize f →
      (Decoder.readUntil f.terminator s).1 = .error e → Fails f bindings s e
  /-- There is nothing to fill it with. -/
  | noItem {total : Nat} : f.kind.form = .elements → f.itemType = none →
      f.resolvedSize bindings = .ok total → 0 < total → Fails f bindings s .noItemType
  /-- An element that was read does not fit behind those before it. -/
  | element {item : Field} {total : Nat} {items : List Value} {middle after : Source} {v : Value} :
      f.kind.form = .elements → f.itemType = some item → f.resolvedSize bindings = .ok total →
      Series (decodeField item) [] s items middle → (Value.encodeAll items).length < total →
      decodeField item (Expression.bindBytes (Value.encodeAll items)) middle = (.ok v, after) →
      Decoder.Misfits total (Value.encodeAll items).length v →
      Fails f bindings s (Decoder.mismatch total (Value.encodeAll items).length v.consumed)

/-- While a field is read, the reading of a field right within it begins: behind which names and
where in the source. Only in front of an element stands one, its index. -/
inductive Enters [Host] (f : Field) (bindings : Bindings) (s : Source) :
    List String → Field → Bindings → Source → Prop where
  | member {m : Field} {before after : List Field} {parts : List Value} {middle : Source} :
      f.kind.form = .members → f.members = before ++ m :: after →
      decodeMembers before [] s = (.ok parts, middle) →
      Enters f bindings s [] m (Expression.bindBytes (Value.encodeAll parts)) middle
  | element {item : Field} {total : Nat} {items : List Value} {middle : Source} :
      f.kind.form = .elements → f.itemType = some item → f.resolvedSize bindings = .ok total →
      Series (decodeField item) [] s items middle → (Value.encodeAll items).length < total →
      Enters f bindings s [Located.index items.length] item
        (Expression.bindBytes (Value.encodeAll items)) middle

/-- While a field is read, the reading of a field begins, itself or one at any depth within it. The
route holds the names of all fields from the one to the other, with the indices of elements. -/
inductive Reaches
    [Host] : Field → Bindings → Source → List String → Field → Bindings → Source → Prop where
  | here {f : Field} {bindings : Bindings} {s : Source} :
      Reaches f bindings s [f.name] f bindings s
  | within {f m g : Field} {bindings middle inner : Bindings} {s t u : Source}
      {names route : List String} :
      Enters f bindings s names m middle t → Reaches m middle t route g inner u →
      Reaches f bindings s (f.name :: names ++ route) g inner u

/-- A fault seen from the start of a route. -/
def DecodeFault.along (route : List String) (e : DecodeFault) : DecodeFault :=
  route.foldr DecodeFault.within e

theorem DecodeFault.along_append (names route : List String) (e : DecodeFault) :
    e.along (names ++ route) = (e.along route).along names :=
  List.foldr_append

section

variable {f : Field} {bindings : Bindings} {s : Source} {e : DecodeFault}
variable [Host]

/-- A field of as many bytes as its size says. -/
theorem fails_iff_of_usesSize (huses : UsesSize f) (hform : f.kind.form ≠ .elements) :
    Fails f bindings s e ↔
      (∃ cause, f.resolvedSize bindings = .error cause ∧ e = .ofSize cause) ∨
        ∃ n : Nat, f.resolvedSize bindings = .ok n ∧ (Decoder.read n s).1 = .error e := by
  constructor
  · intro h
    cases h with
    | size _ hcause => exact .inl ⟨_, hcause, rfl⟩
    | bytes _ _ hn he => exact .inr ⟨_, hn, he⟩
    | terminator _ hfree _ => exact absurd huses hfree
    | noItem harray _ _ _ => exact absurd harray hform
    | element harray _ _ _ _ _ _ => exact absurd harray hform
  · rintro (⟨cause, hcause, rfl⟩ | ⟨n, hn, he⟩)
    · exact .size huses hcause
    · exact .bytes huses hform hn he

/-- A field of the bytes up to its end mark. -/
theorem fails_iff_of_terminator (hform : f.kind.form = .raw) (hfree : ¬ UsesSize f) :
    Fails f bindings s e ↔ (Decoder.readUntil f.terminator s).1 = .error e := by
  constructor
  · intro h
    cases h with
    | size huses _ => exact absurd huses hfree
    | bytes huses _ _ _ => exact absurd huses hfree
    | terminator _ _ he => exact he
    | noItem harray _ _ _ => simp [harray] at hform
    | element harray _ _ _ _ _ _ => simp [harray] at hform
  · exact .terminator hform hfree

/-- A struct fails only where one of its members does. -/
theorem not_fails_of_members (hform : f.kind.form = .members) : ¬ Fails f bindings s e := by
  intro h
  cases h with
  | size huses _ => simp [UsesSize, hform] at huses
  | bytes huses _ _ _ => simp [UsesSize, hform] at huses
  | terminator hraw _ _ => simp [hraw] at hform
  | noItem harray _ _ _ => simp [harray] at hform
  | element harray _ _ _ _ _ _ => simp [harray] at hform

/-- Only structs and arrays have fields within. -/
theorem not_enters_of_bytes {names : List String} {m : Field} {inner : Bindings} {t : Source}
    (hmembers : f.kind.form ≠ .members) (helements : f.kind.form ≠ .elements) :
    ¬ Enters f bindings s names m inner t := by
  intro h
  cases h with
  | member hform _ _ => exact hmembers hform
  | element hform _ _ _ _ => exact helements hform

/-- What an array of nothing fails with. -/
theorem elements_none_error_iff {total : Nat} :
    (Decoder.elements (decodeItem none) total total 0 [] s).1 = .error e ↔
      0 < total ∧ e = .noItemType := by
  rw [Decoder.elements_error_iff default (decodeItem_takes none) (by simp)]
  constructor
  · rintro ⟨items, middle, hseries, hroom, hstops⟩
    cases hseries with
    | nil =>
      rcases hstops with ⟨cause, hcause, rfl⟩ | ⟨v, after, hv, _⟩
      · cases hcause
        exact ⟨hroom, rfl⟩
      · cases hv
    | cons hv _ _ => cases hv
  · rintro ⟨hroom, rfl⟩
    exact ⟨[], s, .nil, hroom, .inl ⟨.noItemType, rfl, rfl⟩⟩

theorem elements_some_error_iff {item : Field} {total : Nat} :
    (Decoder.elements (decodeItem (some item)) total total 0 [] s).1 = .error e ↔
      ∃ items middle, Series (decodeField item) [] s items middle ∧
        Decoder.Stops (decodeField item) total items.length (Value.encodeAll items) middle e := by
  rw [Decoder.elements_error_iff item (decodeItem_takes (some item)) (by simp)]
  simp only [Nat.zero_add, List.nil_append]
  rfl

/-- A field fails itself, or a field right within it does. -/
def FailsInside (f : Field) (bindings : Bindings) (s : Source) (e : DecodeFault) : Prop :=
  Fails f bindings s e ∨
    ∃ names m inner t cause, Enters f bindings s names m inner t ∧
      (decodeField m inner t).1 = .error cause ∧ e = cause.along names

theorem failsInside_iff_fails (hmembers : f.kind.form ≠ .members)
    (helements : f.kind.form ≠ .elements) : FailsInside f bindings s e ↔ Fails f bindings s e := by
  constructor
  · rintro (h | ⟨_, _, _, _, _, henters, _⟩)
    · exact h
    · exact absurd henters (not_enters_of_bytes hmembers helements)
  · exact .inl

theorem rawBytes_error_iff (hform : f.kind.form = .raw) :
    (Decoder.rawBytes f.toAttributes bindings s).1 = .error e ↔ Fails f bindings s e := by
  unfold Decoder.rawBytes
  by_cases huses : UsesSize f
  · rw [if_neg (by simpa [UsesSize, hform] using huses), Decoder.bind_sizeOf_error_iff,
      fails_iff_of_usesSize huses (by simp [hform])]
  · rw [if_pos (by simpa [UsesSize, hform] using huses),
      fails_iff_of_terminator hform huses]

theorem array_error_iff (hform : f.kind.form = .elements) :
    ((∃ cause, f.resolvedSize bindings = .error cause ∧ e = .ofSize cause) ∨
        ∃ total, f.resolvedSize bindings = .ok total ∧
          (Decoder.elements (decodeItem f.itemType) total total 0 [] s).1 = .error e) ↔
      FailsInside f bindings s e := by
  constructor
  · rintro (⟨cause, hsize, rfl⟩ | ⟨total, hsize, he⟩)
    · exact .inl (.size (by simp [UsesSize, hform]) hsize)
    cases hitem : f.itemType with
    | none =>
      rw [hitem, elements_none_error_iff] at he
      obtain ⟨htotal, rfl⟩ := he
      exact .inl (.noItem hform hitem hsize htotal)
    | some item =>
      rw [hitem, elements_some_error_iff] at he
      obtain ⟨items, middle, hseries, hroom, ⟨cause, hcause, rfl⟩ | ⟨v, after, hv, hfit, rfl⟩⟩ := he
      · exact .inr ⟨_, item, _, middle, cause, .element hform hitem hsize hseries hroom, hcause,
          rfl⟩
      · exact .inl (.element hform hitem hsize hseries hroom hv hfit)
  · rintro (hfails | ⟨names, m, inner, t, cause, henters, hcause, rfl⟩)
    · cases hfails with
      | size _ hsize => exact .inl ⟨_, hsize, rfl⟩
      | bytes _ hnot _ _ => exact absurd hform hnot
      | terminator hraw _ _ => simp [hraw] at hform
      | noItem _ hitem hsize htotal =>
        refine .inr ⟨_, hsize, ?_⟩
        rw [hitem, elements_none_error_iff]
        exact ⟨htotal, rfl⟩
      | element _ hitem hsize hseries hroom hv hfit =>
        refine .inr ⟨_, hsize, ?_⟩
        rw [hitem, elements_some_error_iff]
        exact ⟨_, _, hseries, hroom, .inr ⟨_, _, hv, hfit, rfl⟩⟩
    · cases henters with
      | member hmembers _ _ => simp [hmembers] at hform
      | element _ hitem hsize hseries hroom =>
        refine .inr ⟨_, hsize, ?_⟩
        rw [hitem, elements_some_error_iff]
        exact ⟨_, _, hseries, hroom, .inl ⟨cause, hcause, rfl⟩⟩

theorem content_error_iff : (content f bindings s).1 = .error e ↔ FailsInside f bindings s e := by
  unfold content
  cases hform : f.kind.form with
  | members =>
    rw [Decoder.bind_pure_error_iff, decodeMembers_error_iff]
    constructor
    · rintro ⟨before, m, after, parts, middle, hsplit, hparts, he⟩
      exact .inr ⟨_, m, _, middle, e, .member hform hsplit hparts, he, rfl⟩
    · rintro (hfails | ⟨names, m, inner, t, cause, henters, hcause, rfl⟩)
      · exact absurd hfails (not_fails_of_members hform)
      · cases henters with
        | member _ hsplit hparts => exact ⟨_, m, _, _, _, hsplit, hparts, hcause⟩
        | element harray _ _ _ _ => simp [harray] at hform
  | number =>
    simp only [Decoder.bind_sizeOf_error_iff, Decoder.bind_pure_error_iff]
    rw [failsInside_iff_fails (by simp [hform]) (by simp [hform]),
      fails_iff_of_usesSize (by simp [UsesSize, hform]) (by simp [hform])]
  | raw =>
    rw [Decoder.bind_pure_error_iff, rawBytes_error_iff hform,
      failsInside_iff_fails (by simp [hform]) (by simp [hform])]
  | elements =>
    simp only [Decoder.bind_sizeOf_error_iff, Decoder.bind_pure_error_iff]
    exact array_error_iff hform

end

/-- Decoding fails exactly if a field that it reaches fails. The fault is that of the field, seen
along the route to it. -/
theorem decodeField_error_iff [Host] (f : Field) (bindings : Bindings) (s : Source)
    (e : DecodeFault) :
    (decodeField f bindings s).1 = .error e ↔
      ∃ route g inner t cause, Reaches f bindings s route g inner t ∧ Fails g inner t cause ∧
        e = cause.along route := by
  constructor
  · induction f using Field.tree_induction generalizing bindings s e with
    | step attributes members itemType ihMembers ihItem =>
      rw [decodeField_eq, Decoder.within_error_iff]
      simp only [content_error_iff]
      rintro ⟨_, hfails | ⟨names, m, inner, t, cause, henters, hcause, rfl⟩, rfl⟩
      · exact ⟨_, _, _, _, _, .here, hfails, rfl⟩
      · have hreached : ∃ route g inner' u cause', Reaches m inner t route g inner' u ∧
            Fails g inner' u cause' ∧ cause = cause'.along route := by
          cases henters with
          | member _ hmembers _ =>
            have hmembers : members = _ := hmembers
            exact ihMembers m (by simp [hmembers]) _ _ _ hcause
          | element _ hitem => exact ihItem m hitem _ _ _ hcause
        obtain ⟨route, g, inner', u, cause', hreaches, hfails, rfl⟩ := hreached
        refine ⟨_, g, inner', u, cause', .within henters hreaches, hfails, ?_⟩
        rw [List.cons_append, ← DecodeFault.along_append]
        rfl
  · rintro ⟨route, g, inner, t, cause, hreaches, hfails, rfl⟩
    induction hreaches with
    | here =>
      rw [decodeField_eq, Decoder.within_error_iff]
      exact ⟨cause, content_error_iff.mpr (.inl hfails), rfl⟩
    | within henters _ ih =>
      rw [decodeField_eq, Decoder.within_error_iff]
      refine ⟨_, content_error_iff.mpr (.inr ⟨_, _, _, _, _, henters, ih hfails, rfl⟩), ?_⟩
      rw [← DecodeFault.along_append]
      rfl

end GameAtlas.Image
