import Mathlib.Tactic
import GameAtlas.Proofs.Image.Calls

/-!
What is reported where a source is too short: how many bytes were needed, how many there were, and a
position. A number of bytes that is asked for is reported with the position that it was asked for
at. A search for an end mark is reported with the position behind all the bytes that were searched,
so that its position and its bytes do not belong together unless there were none. And a position
that was turned back by a negative number of bytes stays wrong.
-/

namespace GameAtlas.Image

open Schema (Field)
open Expression (Bindings)

variable {s begun : Source} {r : Read} {c : Call} {p : PastEnd}

/-! ### Reads -/

/-- A number of bytes is missed where fewer are left. -/
theorem read_pastEnd_iff [Host] {n : Int} :
    (s.read n).1 = .error (.pastEnd p) ↔
      0 ≤ n ∧ s.refusal? n = none ∧ s.rest.length < n.toNat ∧
        p = ⟨n.toNat, s.rest.length, s.position⟩ := by
  rw [Source.read]
  cases hrefusal : s.refusal? n with
  | some r =>
    refine iff_of_false (fun h => by cases h) ?_
    rintro ⟨_, h, _⟩
    cases h
  | none =>
    by_cases hsign : n < 0
    · simp only [if_pos hsign]
      refine iff_of_false (fun h => by cases h) ?_
      rintro ⟨hn, _⟩
      exact absurd hsign (not_lt.mpr hn)
    · simp only [if_neg hsign, List.length_take]
      by_cases hshort : s.rest.length < n.toNat
      · rw [if_pos (by omega), Nat.min_eq_right hshort.le]
        constructor
        · intro h
          cases h
          exact ⟨not_lt.mp hsign, trivial, hshort, rfl⟩
        · rintro ⟨_, _, _, rfl⟩
          rfl
      · rw [if_neg (by omega)]
        refine iff_of_false (fun h => by cases h) ?_
        rintro ⟨_, _, h, _⟩
        exact hshort h

theorem readUntil_pastEnd_iff {mark : List UInt8} :
    (s.readUntil mark).1 = .error (.pastEnd p) ↔ ¬ mark <:+: s.rest ∧ p = s.missing mark := by
  by_cases h : mark <:+: s.rest
  · obtain ⟨run, more, _, _, hread⟩ := readUntil_found h
    rw [hread]
    exact iff_of_false nofun fun ⟨hmissing, _⟩ => hmissing h
  · rw [readUntil_missing h]
    constructor
    · intro heq
      cases heq
      exact ⟨h, rfl⟩
    · rintro ⟨_, rfl⟩
      rfl

/-- Whether a number of bytes is asked for, and no end mark. -/
def Read.IsCount : Read → Prop
  | .count _ => True
  | .upTo _ => False

/-- Whether what is reported belongs together: the position is that of the read, and the bytes that
there were reach from it to the end of a source of so many bytes. -/
def PastEnd.IsTrue (p : PastEnd) (begun : Source) (length : Nat) : Prop :=
  p.position = begun.position ∧ p.position + p.available = length

/-- More bytes are needed than there were. -/
theorem available_lt_needed [Host] (h : (r.perform begun).1 = .error (.pastEnd p)) :
    p.available < p.needed := by
  cases r with
  | count n =>
    obtain ⟨_, _, hshort, rfl⟩ := read_pastEnd_iff.mp h
    exact hshort
  | upTo mark =>
    obtain ⟨hmissing, rfl⟩ := readUntil_pastEnd_iff.mp h
    have hmark : mark ≠ [] := by
      rintro rfl
      exact hmissing (List.nil_infix)
    exact Nat.lt_add_of_pos_right (List.length_pos_iff.mpr hmark)

/-- What a read reports belongs together where the position is right, if it asks for a number of
bytes or if there are no bytes. -/
theorem isTrue_iff [Host] (h : (r.perform begun).1 = .error (.pastEnd p)) (length : Nat) :
    p.IsTrue begun length ↔ begun.limit = length ∧ (r.IsCount ∨ begun.rest = []) := by
  cases r with
  | count n =>
    obtain ⟨_, _, _, rfl⟩ := read_pastEnd_iff.mp h
    simp [PastEnd.IsTrue, Read.IsCount, Source.limit]
  | upTo mark =>
    obtain ⟨_, rfl⟩ := readUntil_pastEnd_iff.mp h
    simp only [PastEnd.IsTrue, Read.IsCount, Source.limit, Source.missing, false_or,
      ← List.length_eq_zero_iff]
    omega

/-! ### Calls -/

/-- A call that asks for more bytes than are left does not turn back. -/
theorem Call.not_turnsBack_of_short [Host] {n : Int} (hasked : c.asked? = some n)
    (h : (s.read n).1 = .error (.pastEnd p)) : ¬ c.TurnsBack s := by
  rw [turnsBack_iff hasked]
  rintro ⟨hneg, _⟩
  obtain ⟨hn, _⟩ := read_pastEnd_iff.mp h
  omega

/-- Where a read of a call begins that falls short, the source ends where it did before the call,
unless the call turned it back. -/
theorem Call.Begins.got [Host] (h : c.Begins s r begun)
    (hshort : (r.perform begun).1 = .error (.pastEnd p)) : s.Got begun (c.TurnsBack s) := by
  cases h with
  | read => exact Source.got_of_eq rfl (not_turnsBack_of_short rfl hshort)
  | byte => exact Source.got_of_eq rfl (not_turnsBack_of_short rfl hshort)
  | skip => exact Source.got_of_eq rfl (not_turnsBack_of_short rfl hshort)
  | readUntil => exact Source.got_of_eq rfl (not_turnsBack rfl)
  | address ha => exact Source.got_of_eq rfl (not_turnsBack_of_short ha hshort)
  | @field f _ bindings _ middle _ _ _ hseek hreaches _ =>
    have hsought := got_seek f bindings s
    rw [hseek] at hsought
    have hbegun := hsought.trans (Source.got_of_eq hreaches.limit id)
    rwa [or_false] at hbegun

/-- Calls on one source, and the last of them falls short: this happens exactly where a read of it
does. More bytes are needed than there were. What is reported belongs together, the position being
that of the failing read and the bytes reaching from there to the end of the source, exactly if none
of the calls turned the source back by a negative number of bytes and the failing read asked for a
number of bytes or, if it looked for an end mark, had no bytes to look at. -/
theorem shortage_isTrue_iff [Host] (image : List UInt8) (buffered : Bool) (before : List Call)
    (c : Call)
    (p : PastEnd) :
    let start : Source := { rest := image, buffered := buffered }
    let s := start.afterCalls before
    (c.FallsShort s p ↔
        ∃ r begun, c.Begins s r begun ∧ (r.perform begun).1 = .error (.pastEnd p)) ∧
      ∀ r begun, c.Begins s r begun → (r.perform begun).1 = .error (.pastEnd p) →
        p.available < p.needed ∧
          (p.IsTrue begun image.length ↔
            ¬ start.IsTurnedBack (before ++ [c]) ∧ (r.IsCount ∨ begun.rest = [])) := by
  intro start s
  refine ⟨c.fallsShort_iff s p, fun r begun hbegins hshort => ⟨available_lt_needed hshort, ?_⟩⟩
  have hlimit : start.limit = image.length := by simp [start, Source.limit]
  have hbegun : start.Got begun (start.IsTurnedBack before ∨ c.TurnsBack s) :=
    (start.got_afterCalls before).trans (hbegins.got hshort)
  rw [isTrue_iff hshort, ← hlimit, hbegun.limit_eq_iff, start.isTurnedBack_append]
  simp only [Source.IsTurnedBack, or_false]
  rfl

/-- Behind a negative number of bytes the position counts from nowhere. -/
example : (Call.read 1).FallsShort ((Source.ofBytes [5]).afterCalls [.read (-1)]) ⟨1, 0, -1⟩ :=
  ⟨[], rfl⟩

/-- Behind a title that was decoded, four bytes are asked for and two are left. -/
theorem sampleTitle_shortage :
    let start : Source := { rest := [1, 2, 72, 105, 0, 3, 4], buffered := false }
    let before : List Call := [.decode sampleTitle [], .exhausted]
    let begun : Source := ⟨[3, 4], 5, false⟩
    start.afterCalls before = begun ∧ (Call.read 4).Begins begun (.count 4) begun ∧
      ((Read.count 4).perform begun).1 = .error (.pastEnd ⟨4, 2, 5⟩) ∧
      (Call.read 4).FallsShort begun ⟨4, 2, 5⟩ ∧ PastEnd.IsTrue ⟨4, 2, 5⟩ begun 7 := by
  intro start before begun
  have hbegun : start.afterCalls before = begun := rfl
  have hshort : ((Read.count 4).perform begun).1 = .error (.pastEnd ⟨4, 2, 5⟩) := rfl
  have hforward : ¬ start.IsTurnedBack (before ++ [.read 4]) := by
    simp [before, Source.IsTurnedBack, Call.TurnsBack, Call.asked?, sampleTitle]
  obtain ⟨hfalls, htrue⟩ := shortage_isTrue_iff start.rest false before (.read 4) ⟨4, 2, 5⟩
  obtain ⟨_, hiff⟩ := htrue (.count 4) begun .read hshort
  exact ⟨hbegun, .read, hshort, hfalls.mpr ⟨.count 4, begun, .read, hshort⟩,
    hiff.mpr ⟨hforward, .inl trivial⟩⟩

/-- Two bytes are searched for a zero from the start. What is reported is the position behind them,
as if there were two bytes more. -/
theorem unmarked_reported_behind :
    let text := Source.ofBytes [110, 111]
    let p : PastEnd := ⟨3, 2, 2⟩
    (Call.readUntil [0]).FallsShort text p ∧ (Call.readUntil [0]).Begins text (.upTo [0]) text ∧
      ((Read.upTo [0]).perform text).1 = .error (.pastEnd p) ∧ text.position = 0 ∧
      ¬ p.IsTrue text 2 := by
  intro text p
  refine ⟨⟨[], rfl⟩, .readUntil, rfl, rfl, ?_⟩
  rintro ⟨hposition, _⟩
  cases hposition

end GameAtlas.Image
