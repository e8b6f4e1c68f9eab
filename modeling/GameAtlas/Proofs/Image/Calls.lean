import Mathlib.Tactic
import GameAtlas.Proofs.Image.Terminated
import GameAtlas.Proofs.Image.Place

/-!
Calls on one source, one behind the other. A call is answered by reads: a call of the source by one,
a decoding by those of the address and of the fields that it reaches. The position and the number of
bytes that are left add up to the place where the source ends. Every call keeps it, one that fails
as well, except one that asks for a negative number of bytes: this takes all that is left and turns
the position back.
-/

namespace GameAtlas.Image

open Schema (Field)
open Expression (Bindings)

/-! ### Calls -/

/-- What is read at one go: a number of bytes, or those up to an end mark. -/
inductive Read where
  | count (n : Int)
  | upTo (mark : List UInt8)

def Read.perform [Host] : Read → Source → Except ReadFault (List UInt8) × Source
  | .count n, s => s.read n
  | .upTo mark, s => s.readUntil mark

/-- What can be asked of a source. -/
inductive Call where
  | read (n : Int)
  | byte
  | skip (n : Int)
  | readUntil (mark : List UInt8)
  | exhausted
  | decode (f : Field) (bindings : Bindings)

/-- What a call answers. -/
inductive Reply where
  | bytes (bs : List UInt8)
  | byte (b : UInt8)
  | nothing
  | truth (b : Bool)
  | value (v : Value)

def Call.answer [Host] : Call → Decoder Reply
  | .read n => do return .bytes (← Decoder.read n)
  | .byte => do return .byte (← Decoder.ofSource Source.byte)
  | .skip n => do
    Decoder.ofSource fun s => s.skip n
    return .nothing
  | .readUntil mark => do return .bytes (← Decoder.readUntil mark)
  | .exhausted => fun s => (.ok (.truth s.exhausted), s)
  | .decode f bindings => do return .value (← Image.decode f bindings)

/-- The source after calls that were made one after the other, whatever came of them. -/
def Source.afterCalls [Host] (s : Source) : List Call → Source
  | [] => s
  | c :: rest => (c.answer s).2.afterCalls rest

/-! ### Reads -/

/-- What a field asks its source for, apart from the fields within it. -/
inductive Requests [Host] (g : Field) (inner : Bindings) : Read → Prop where
  | bytes {n : Nat} : UsesSize g → g.kind.form ≠ .elements → g.resolvedSize inner = .ok n →
      Requests g inner (.count n)
  | mark : g.kind.form = .raw → ¬ UsesSize g → Requests g inner (.upTo g.terminator)

/-- While a call is answered a read begins: which one, and where in the source. -/
inductive Call.Begins [Host] (s : Source) : Call → Read → Source → Prop where
  | read {n : Int} : Begins s (.read n) (.count n) s
  | byte : Begins s .byte (.count 1) s
  | skip {n : Int} : Begins s (.skip n) (.count n) s
  | readUntil {mark : List UInt8} : Begins s (.readUntil mark) (.upTo mark) s
  | address {f : Field} {bindings : Bindings} {a : Int} :
      f.address = some a → Begins s (.decode f bindings) (.count a) s
  | field {f g : Field} {bindings inner : Bindings} {middle t : Source} {route : List String}
      {r : Read} :
      seek f s = (.ok (), middle) → Reaches f bindings middle route g inner t →
      Requests g inner r → Begins s (.decode f bindings) r t

/-- A call fails because the source is too short. -/
def Call.FallsShort [Host] (c : Call) (s : Source) (p : PastEnd) : Prop :=
  ∃ path, (c.answer s).1 = .error (.failure ⟨.pastEnd p, path⟩)

theorem ofSource_pastEnd_iff {α : Type} {call : Source → Except ReadFault α × Source} {s : Source}
    {p : PastEnd} {path : List String} :
    (Decoder.ofSource call s).1 = .error (.failure ⟨.pastEnd p, path⟩) ↔
      (call s).1 = .error (.pastEnd p) ∧ path = [] := by
  rw [Decoder.ofSource]
  rcases call s with ⟨result | result, after⟩
  · cases result with
    | pastEnd q =>
      constructor
      · intro h
        cases h
        exact ⟨rfl, rfl⟩
      · rintro ⟨h, rfl⟩
        cases h
        rfl
    | refused r =>
      refine iff_of_false (fun h => by cases h) ?_
      rintro ⟨h, _⟩
      cases h
  · refine iff_of_false (fun h => by cases h) ?_
    rintro ⟨h, _⟩
    cases h

/-- A call that is one read of the source falls short where the read does. -/
theorem fallsShort_iff_of_single [Host] {α : Type} {call : Source → Except ReadFault α × Source}
    {f : α → Reply} {c : Call} {r : Read} {s : Source} {p : PastEnd}
    (hanswer : c.answer = Decoder.ofSource call >>= fun a => pure (f a))
    (hcall : (call s).1 = .error (.pastEnd p) ↔ (r.perform s).1 = .error (.pastEnd p))
    (hbegins : ∀ r' begun, c.Begins s r' begun ↔ r' = r ∧ begun = s) :
    c.FallsShort s p ↔
      ∃ r begun, c.Begins s r begun ∧ (r.perform begun).1 = .error (.pastEnd p) := by
  simp only [Call.FallsShort, hanswer, Decoder.bind_pure_error_iff, ofSource_pastEnd_iff, hbegins,
    hcall, exists_and_left, exists_eq, and_true]
  constructor
  · intro h
    exact ⟨r, s, ⟨rfl, rfl⟩, h⟩
  · rintro ⟨_, _, ⟨rfl, rfl⟩, h⟩
    exact h

theorem fails_pastEnd_iff [Host] {g : Field} {inner : Bindings} {t : Source} {p : PastEnd} :
    Fails g inner t (.ofCause (.pastEnd p)) ↔
      ∃ r, Requests g inner r ∧ (r.perform t).1 = .error (.pastEnd p) := by
  constructor
  · generalize hfault : DecodeFault.ofCause (.pastEnd p) = fault
    intro h
    cases h with
    | @size cause _ _ =>
      unfold DecodeFault.ofSize at hfault
      split at hfault <;> cases hfault
    | @bytes n _ huses hform hsize hread =>
      rw [← hfault] at hread
      exact ⟨.count n, .bytes huses hform hsize, (ofSource_pastEnd_iff.mp hread).1⟩
    | terminator hform huses hread =>
      rw [← hfault] at hread
      exact ⟨.upTo g.terminator, .mark hform huses, (ofSource_pastEnd_iff.mp hread).1⟩
    | noItem _ _ _ _ => cases hfault
    | element _ _ _ _ _ _ _ => cases hfault
  · rintro ⟨r, hrequests, hperform⟩
    cases hrequests with
    | bytes huses hform hsize =>
      exact .bytes huses hform hsize (ofSource_pastEnd_iff.mpr ⟨hperform, rfl⟩)
    | mark hform huses =>
      exact .terminator hform huses (ofSource_pastEnd_iff.mpr ⟨hperform, rfl⟩)

/-- A decoding falls short where the read of its address does, or that of a field it reaches. -/
theorem decode_fallsShort_iff [Host] {f : Field} {bindings : Bindings} {s : Source} {p : PastEnd} :
    (∃ path, (decode f bindings s).1 = .error (.failure ⟨.pastEnd p, path⟩)) ↔
      ∃ r begun, (Call.decode f bindings).Begins s r begun ∧
        (r.perform begun).1 = .error (.pastEnd p) := by
  simp only [decode_eq_seek, Decoder.bind_error_iff]
  constructor
  · rintro ⟨path, hseek | ⟨_, middle, hseek, he⟩⟩
    · obtain ⟨a, ha, hread, _⟩ := seek_failure_iff.mp hseek
      exact ⟨.count a, s, .address ha, (ofSource_pastEnd_iff.mp hread).1⟩
    · obtain ⟨route, g, inner, t, fault, hreaches, hfails, hfault⟩ :=
        (decodeField_error_iff f bindings middle _).mp he
      obtain ⟨own, rfl, _⟩ := DecodeFault.along_eq_failure_iff.mp hfault.symm
      have hnil : own = [] := hfails.path_eq_nil
      subst hnil
      obtain ⟨r, hrequests, hperform⟩ := fails_pastEnd_iff.mp hfails
      exact ⟨r, t, .field hseek hreaches hrequests, hperform⟩
  · rintro ⟨r, begun, hbegins, hperform⟩
    cases hbegins with
    | address ha =>
      have hread := ofSource_pastEnd_iff.mpr ⟨hperform, rfl⟩
      exact ⟨_, .inl (seek_failure_iff.mpr ⟨_, ha, hread, rfl⟩)⟩
    | @field _ g _ inner middle t route _ hseek hreaches hrequests =>
      have hfails := fails_pastEnd_iff.mpr ⟨r, hrequests, hperform⟩
      have hfault := (DecodeFault.failure_along route ⟨.pastEnd p, []⟩).symm
      exact ⟨_, .inr ⟨(), middle, hseek, (decodeField_error_iff f bindings middle _).mpr
        ⟨route, g, inner, begun, _, hreaches, hfails, hfault⟩⟩⟩

/-- A call falls short exactly where a read that it begins does. -/
theorem Call.fallsShort_iff [Host] (c : Call) (s : Source) (p : PastEnd) :
    c.FallsShort s p ↔
      ∃ r begun, c.Begins s r begun ∧ (r.perform begun).1 = .error (.pastEnd p) := by
  cases c with
  | read n =>
    refine fallsShort_iff_of_single (r := .count n) rfl Iff.rfl fun r begun => ?_
    constructor
    · rintro ⟨⟩
      exact ⟨rfl, rfl⟩
    · rintro ⟨rfl, rfl⟩
      exact .read
  | byte =>
    refine fallsShort_iff_of_single (r := .count 1) rfl ?_ fun r begun => ?_
    · rw [Source.byte, Read.perform]
      rcases s.read 1 with ⟨_ | _, _⟩ <;> simp
    · constructor
      · rintro ⟨⟩
        exact ⟨rfl, rfl⟩
      · rintro ⟨rfl, rfl⟩
        exact .byte
  | skip n =>
    refine fallsShort_iff_of_single (r := .count n) (f := fun _ => .nothing) rfl ?_
      fun r begun => ?_
    · rw [Source.skip, Read.perform]
      rcases s.read n with ⟨_ | _, _⟩ <;> simp
    · constructor
      · rintro ⟨⟩
        exact ⟨rfl, rfl⟩
      · rintro ⟨rfl, rfl⟩
        exact .skip
  | readUntil mark =>
    refine fallsShort_iff_of_single (r := .upTo mark) rfl Iff.rfl fun r begun => ?_
    constructor
    · rintro ⟨⟩
      exact ⟨rfl, rfl⟩
    · rintro ⟨rfl, rfl⟩
      exact .readUntil
  | exhausted =>
    constructor
    · rintro ⟨path, h⟩
      cases h
    · rintro ⟨_, _, ⟨⟩, _⟩
  | decode f bindings =>
    simp only [FallsShort, answer, Decoder.bind_pure_error_iff]
    exact decode_fallsShort_iff

/-! ### Where a source ends -/

/-- The place where a source ends, if its position is right. -/
def Source.limit (s : Source) : Int := s.position + s.rest.length

theorem Source.limit_past {s : Source} {used more : List UInt8} (h : s.rest = used ++ more) :
    (s.past used more).limit = s.limit := by
  simp [limit, past, h]
  omega

theorem readUntil_limit (mark : List UInt8) (s : Source) :
    (s.readUntil mark).2.limit = s.limit := by
  by_cases h : mark <:+: s.rest
  · obtain ⟨run, more, hsplit, _, hread⟩ := readUntil_found h
    rw [hread]
    exact Source.limit_past hsplit
  · rw [readUntil_missing h]
    exact Source.limit_past (List.append_nil _).symm

/-- A number of bytes that is refused leaves the source as it is; what is consumed of those that are
asked for is counted. -/
theorem read_limit [Host] {n : Int} {s : Source} (h : 0 ≤ n ∨ s.refusal? n ≠ none) :
    (s.read n).2.limit = s.limit := by
  rw [Source.read]
  cases hrefusal : s.refusal? n with
  | some r => rfl
  | none =>
    have hsign : ¬ n < 0 := by
      rcases h with hn | hrefused
      · omega
      · exact absurd hrefusal hrefused
    have htaken : (s.past (s.rest.take n.toNat) (s.rest.drop n.toNat)).limit = s.limit :=
      Source.limit_past (List.take_append_drop n.toNat s.rest).symm
    dsimp only
    rw [if_neg hsign]
    split <;> exact htaken

/-- A negative number of bytes that is not refused moves the end. -/
theorem read_limit_lt [Host] {n : Int} {s : Source} (hn : n < 0) (h : s.refusal? n = none) :
    (s.read n).2.limit < s.limit := by
  simp only [Source.read, h, if_pos hn, Source.limit, List.length_nil]
  omega

namespace Decoder

variable {α β : Type}

/-- Whether it succeeds or not, a decoder leaves the end of the source where it is. -/
def KeepsLimit (d : Decoder α) : Prop := ∀ s, (d s).2.limit = s.limit

theorem KeepsLimit.after {d : Decoder α} (hd : d.KeepsLimit) {s after : Source}
    {result : Except DecodeFault α} (hrun : d s = (result, after)) : after.limit = s.limit := by
  have hkeeps := hd s
  rwa [hrun] at hkeeps

theorem keepsLimit_pure (a : α) : (pure a : Decoder α).KeepsLimit := fun _ => rfl

theorem keepsLimit_throw (e : DecodeFault) : (throw e : Decoder α).KeepsLimit := fun _ => rfl

theorem KeepsLimit.bind {d : Decoder α} {next : α → Decoder β} (hd : d.KeepsLimit)
    (hnext : ∀ a, (next a).KeepsLimit) : (d >>= next).KeepsLimit := by
  intro s
  rw [bind_run]
  cases hrun : d s with
  | mk result middle =>
    cases result with
    | error e => exact hd.after hrun
    | ok a => exact (hnext a middle).trans (hd.after hrun)

theorem ofSource_after (call : Source → Except ReadFault α × Source) (s : Source) :
    (ofSource call s).2 = (call s).2 := by
  rw [ofSource]
  rcases call s with ⟨_ | _, _⟩ <;> rfl

theorem within_after (name : String) (d : Decoder α) (s : Source) :
    (within name d s).2 = (d s).2 := by
  rw [within_run]
  rcases d s with ⟨_ | _, _⟩ <;> rfl

theorem bind_pure_after (d : Decoder α) (f : α → β) (s : Source) :
    ((d >>= fun a => pure (f a)) s).2 = (d s).2 := by
  rw [bind_run]
  rcases d s with ⟨_ | _, _⟩ <;> rfl

theorem KeepsLimit.within {d : Decoder α} (hd : d.KeepsLimit) (name : String) :
    (within name d).KeepsLimit := fun s => (congrArg _ (within_after name d s)).trans (hd s)

theorem keepsLimit_read [Host] (n : Nat) : (read n).KeepsLimit := fun s =>
  (congrArg _ (ofSource_after _ s)).trans (read_limit (.inl (Int.natCast_nonneg n)))

theorem keepsLimit_readUntil (mark : List UInt8) : (readUntil mark).KeepsLimit := fun s =>
  (congrArg _ (ofSource_after _ s)).trans (readUntil_limit mark s)

theorem keepsLimit_sizeOf [Host] (a : Schema.Attributes) (bindings : Bindings) :
    (sizeOf a bindings).KeepsLimit := by
  unfold sizeOf
  split
  · exact keepsLimit_pure _
  · split
    · exact keepsLimit_throw _
    · exact keepsLimit_throw _

theorem keepsLimit_rawBytes [Host] (a : Schema.Attributes) (bindings : Bindings) :
    (rawBytes a bindings).KeepsLimit := by
  unfold rawBytes
  split
  · exact keepsLimit_readUntil a.terminator
  · exact (keepsLimit_sizeOf a bindings).bind fun n => keepsLimit_read n

theorem keepsLimit_elements {element : Bindings → Decoder Value}
    (helement : ∀ bindings, (element bindings).KeepsLimit) (total fuel count : Nat)
    (run : List UInt8) : (elements element total fuel count run).KeepsLimit := by
  induction fuel generalizing count run with
  | zero => exact keepsLimit_pure _
  | succ fuel ih =>
    unfold elements
    split
    · refine ((helement _).within _).bind fun v => ?_
      have hrest : (do
          let rest ← elements element total fuel (count + 1) (run ++ v.encode)
          pure (v :: rest)).KeepsLimit :=
        (ih _ _).bind fun _ => keepsLimit_pure _
      split
      · exact (keepsLimit_throw _).bind fun _ => hrest
      · exact hrest
    · exact keepsLimit_pure _

end Decoder

open Decoder (KeepsLimit)

theorem decodeMembers_keepsLimit [Host] (members : List Field)
    (hmembers : ∀ m ∈ members, ∀ bindings, (decodeField m bindings).KeepsLimit)
    (run : List UInt8) : (decodeMembers members run).KeepsLimit := by
  induction members generalizing run with
  | nil =>
    unfold decodeMembers
    exact Decoder.keepsLimit_pure _
  | cons m rest ih =>
    unfold decodeMembers
    refine (hmembers m List.mem_cons_self _).bind fun v => ?_
    exact (ih (fun m hm => hmembers m (List.mem_cons_of_mem _ hm)) _).bind fun _ =>
      Decoder.keepsLimit_pure _

/-- Sizes are never negative, so that reading a field keeps the end of the source. The induction is
on the tree of fields. -/
theorem decodeField_keepsLimit [Host] (f : Field) (bindings : Bindings) :
    (decodeField f bindings).KeepsLimit := by
  induction f using Field.tree_induction generalizing bindings with
  | step attributes members itemType ihMembers ihItem =>
    rw [decodeField_eq]
    refine KeepsLimit.within ?_ _
    unfold content
    cases attributes.kind.form with
    | members =>
      exact (decodeMembers_keepsLimit members ihMembers []).bind fun _ => Decoder.keepsLimit_pure _
    | number =>
      exact (Decoder.keepsLimit_sizeOf _ _).bind fun n => (Decoder.keepsLimit_read n).bind fun _ =>
        Decoder.keepsLimit_pure _
    | raw => exact (Decoder.keepsLimit_rawBytes _ _).bind fun _ => Decoder.keepsLimit_pure _
    | elements =>
      have hitem : ∀ bindings, (decodeItem itemType bindings).KeepsLimit := by
        intro bindings
        cases itemType with
        | none => exact Decoder.keepsLimit_throw _
        | some item => exact ihItem item rfl bindings
      exact (Decoder.keepsLimit_sizeOf _ _).bind fun total =>
        (Decoder.keepsLimit_elements hitem total total 0 []).bind fun _ => Decoder.keepsLimit_pure _

theorem Series.limit [Host] {item : Field} {run : List UInt8} {s after : Source}
    {items : List Value}
    (h : Series (decodeField item) run s items after) : after.limit = s.limit := by
  induction h with
  | nil => rfl
  | cons hv _ _ ih => exact ih.trans ((decodeField_keepsLimit item _).after hv)

/-- Where the reading of a field within begins the source ends where it did. -/
theorem Reaches.limit [Host] {f g : Field} {bindings inner : Bindings} {s t : Source}
    {route : List String} (h : Reaches f bindings s route g inner t) : t.limit = s.limit := by
  induction h with
  | here => rfl
  | within henters _ ih =>
    refine ih.trans ?_
    cases henters with
    | @member _ before _ _ _ _ _ hparts =>
      have hkeeps := decodeMembers_keepsLimit before (fun m _ => decodeField_keepsLimit m) []
      exact hkeeps.after hparts
    | element _ _ _ hseries _ => exact hseries.limit

/-! ### What a call does to it -/

/-- The number of bytes that a call asks for itself: of a decoding it is the address. -/
def Call.asked? : Call → Option Int
  | .read n | .skip n => some n
  | .byte => some 1
  | .readUntil _ | .exhausted => none
  | .decode f _ => f.address

/-- A call asks for a negative number of bytes, and it is not refused. -/
def Call.TurnsBack [Host] (c : Call) (s : Source) : Prop :=
  ∃ n, c.asked? = some n ∧ n < 0 ∧ s.refusal? n = none

/-- One of the calls that are made one after the other turns the source back. -/
def Source.IsTurnedBack [Host] (s : Source) : List Call → Prop
  | [] => False
  | c :: rest => c.TurnsBack s ∨ (c.answer s).2.IsTurnedBack rest

/-- Where a source ends when it has got to `after`: where it did, unless it was turned back. -/
structure Source.Got (s after : Source) (turned : Prop) : Prop where
  limit_le : after.limit ≤ s.limit
  limit_eq_iff : after.limit = s.limit ↔ ¬ turned

theorem Source.got_of_eq {s after : Source} {turned : Prop} (h : after.limit = s.limit)
    (hturned : ¬ turned) : s.Got after turned :=
  ⟨h.le, iff_of_true h hturned⟩

theorem Source.Got.trans {s middle after : Source} {first second : Prop}
    (h : s.Got middle first) (h' : middle.Got after second) : s.Got after (first ∨ second) := by
  have hle := h.limit_le
  have hle' := h'.limit_le
  refine ⟨hle'.trans hle, ?_⟩
  rw [not_or, ← h.limit_eq_iff, ← h'.limit_eq_iff]
  omega

variable [Host]

theorem Source.got_read (n : Int) (s : Source) :
    s.Got (s.read n).2 (n < 0 ∧ s.refusal? n = none) := by
  by_cases h : n < 0 ∧ s.refusal? n = none
  · have hlt := read_limit_lt h.1 h.2
    exact ⟨hlt.le, iff_of_false hlt.ne (not_not_intro h)⟩
  · refine got_of_eq (read_limit ?_) h
    rcases not_and_or.mp h with hn | hrefused
    · exact .inl (not_lt.mp hn)
    · exact .inr hrefused

theorem Call.turnsBack_iff {c : Call} {s : Source} {n : Int} (h : c.asked? = some n) :
    c.TurnsBack s ↔ n < 0 ∧ s.refusal? n = none := by
  simp [TurnsBack, h]

theorem Call.not_turnsBack {c : Call} {s : Source} (h : c.asked? = none) : ¬ c.TurnsBack s := by
  simp [TurnsBack, h]

theorem Call.got_read {c : Call} {s : Source} {n : Int} (h : c.asked? = some n) :
    s.Got (s.read n).2 (c.TurnsBack s) := by
  rw [turnsBack_iff h]
  exact s.got_read n

theorem seek_after {f : Field} {s : Source} {a : Int} (h : f.address = some a) :
    (seek f s).2 = (s.read a).2 := by
  rw [seek, h]
  dsimp only
  rw [Decoder.discard_eq_bind, Decoder.bind_pure_after, Decoder.within_after]
  exact Decoder.ofSource_after _ s

/-- What stands before the address of a field is taken, and nothing else moves the end. -/
theorem got_seek (f : Field) (bindings : Bindings) (s : Source) :
    s.Got (seek f s).2 ((Call.decode f bindings).TurnsBack s) := by
  cases haddress : f.address with
  | none =>
    have hseek : (seek f s).2 = s := by rw [seek, haddress]; rfl
    rw [hseek]
    exact Source.got_of_eq rfl (Call.not_turnsBack haddress)
  | some a =>
    rw [seek_after haddress]
    exact Call.got_read haddress

theorem got_decode (f : Field) (bindings : Bindings) (s : Source) :
    s.Got (decode f bindings s).2 ((Call.decode f bindings).TurnsBack s) := by
  have hsought := got_seek f bindings s
  rw [decode_eq_seek, Decoder.bind_run]
  cases hseek : seek f s with
  | mk result middle =>
    rw [hseek] at hsought
    cases result with
    | error e => exact hsought
    | ok a =>
      have hkeeps : s.Got _ _ :=
        hsought.trans (Source.got_of_eq (decodeField_keepsLimit f bindings middle) id)
      rwa [or_false] at hkeeps

/-- A call leaves the source ending where it did, unless it turns it back. -/
theorem Call.got_answer (c : Call) (s : Source) : s.Got (c.answer s).2 (c.TurnsBack s) := by
  cases c with
  | read n =>
    rw [answer, Decoder.bind_pure_after, Decoder.read, Decoder.ofSource_after]
    exact got_read rfl
  | byte =>
    have hbyte : (s.byte).2 = (s.read 1).2 := by
      rw [Source.byte]
      rcases s.read 1 with ⟨_ | _, _⟩ <;> rfl
    rw [answer, Decoder.bind_pure_after, Decoder.ofSource_after, hbyte]
    exact got_read rfl
  | skip n =>
    have hskip : (s.skip n).2 = (s.read n).2 := by
      rw [Source.skip]
      rcases s.read n with ⟨_ | _, _⟩ <;> rfl
    rw [answer, Decoder.bind_pure_after, Decoder.ofSource_after, hskip]
    exact got_read rfl
  | readUntil mark =>
    rw [answer, Decoder.bind_pure_after, Decoder.readUntil, Decoder.ofSource_after]
    exact Source.got_of_eq (readUntil_limit mark s) (not_turnsBack rfl)
  | exhausted => exact Source.got_of_eq rfl (not_turnsBack rfl)
  | decode f bindings =>
    rw [answer, Decoder.bind_pure_after]
    exact got_decode f bindings s

/-- So do any calls, one after the other. -/
theorem Source.got_afterCalls (s : Source) (calls : List Call) :
    s.Got (s.afterCalls calls) (s.IsTurnedBack calls) := by
  induction calls generalizing s with
  | nil => exact got_of_eq rfl id
  | cons c rest ih => exact (c.got_answer s).trans (ih _)

theorem Source.isTurnedBack_append (s : Source) (first second : List Call) :
    s.IsTurnedBack (first ++ second) ↔
      s.IsTurnedBack first ∨ (s.afterCalls first).IsTurnedBack second := by
  induction first generalizing s with
  | nil => simp [IsTurnedBack, afterCalls]
  | cons c rest ih => simp only [List.cons_append, IsTurnedBack, afterCalls, ih, or_assoc]

end GameAtlas.Image
