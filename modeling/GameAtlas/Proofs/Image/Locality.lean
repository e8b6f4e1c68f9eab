import Mathlib.Tactic
import GameAtlas.Proofs.Image.RoundTrip

/-!
Decoding is local. A value is decided by the bytes that it takes, wherever they stand. A fault other
than the end of the source is decided by the bytes that led to it, so that it stays when an image
gets longer.
-/

namespace GameAtlas.Image

open Schema (Attributes Field)
open Expression (Bindings)

namespace Source

/-- A number of bytes that bytes in memory refuse is refused by every source. -/
theorem refusal_of_unbuffered [Host] (s t : Source) (n : Int) (r : Refusal)
    (hs : s.buffered = false)
    (h : s.refusal? n = some r) : t.refusal? n = some r := by
  simp only [refusal?, hs] at h ⊢
  split at h
  next hsize =>
    rw [if_pos hsize]
    exact h
  · cases h

end Source

namespace Decoder

variable {α β : Type}

/-- Faults of a decoder that do not come from the end of the source are met by every source that
starts with the same bytes. Only bytes in memory are looked at: what a buffered source refuses
depends on how much it holds. -/
def Stable (d : Decoder α) : Prop :=
  ∀ s e after, s.buffered = false → d s = (.error e, after) → e.isPastEnd = false →
    ∀ t, s.rest <+: t.rest → (d t).1 = .error e

theorem stable_pure (a : α) : (pure a : Decoder α).Stable := by
  intro s e after _ h
  cases h

theorem stable_throw (e : DecodeFault) : (throw e : Decoder α).Stable := by
  intro s fault after _ h _ t _
  cases h
  rfl

theorem Stable.bind {d : Decoder α} {next : α → Decoder β} {P : List UInt8 → α → Prop}
    (hd : d.Stable) (htakes : d.Takes P) (hnext : ∀ a, (next a).Stable) :
    (d >>= next).Stable := by
  intro s e after hs h he t ht
  rw [bind_run] at h ⊢
  cases hfirst : d s with
  | mk result middle =>
    cases result with
    | error fault =>
      rw [hfirst] at h
      cases h
      have hsame := hd s e after hs hfirst he t ht
      cases hrun : d t with
      | mk result' middle' =>
        rw [hrun] at hsame
        cases hsame
        rfl
    | ok a =>
      rw [hfirst] at h
      obtain ⟨used, hrest, hgives, _⟩ := htakes s a middle hfirst
      obtain ⟨extra, hextra⟩ := ht
      have hmiddle : middle = s.past used middle.rest := by
        have hrun := hgives s middle.rest hrest
        rw [hfirst] at hrun
        exact (Prod.mk.inj hrun).2
      have hbuffered : middle.buffered = false := by rw [hmiddle]; exact hs
      have ht : t.rest = used ++ (middle.rest ++ extra) := by
        rw [← hextra, hrest, List.append_assoc]
      rw [hgives t (middle.rest ++ extra) ht]
      exact hnext a middle e after hbuffered h he _ ⟨extra, rfl⟩

theorem Stable.discard {d : Decoder α} (hd : d.Stable) {P : List UInt8 → α → Prop}
    (htakes : d.Takes P) : (discard d).Stable := by
  rw [discard_eq_bind]
  exact hd.bind htakes fun _ => stable_pure _

theorem Stable.within {d : Decoder α} (hd : d.Stable) (name : String) :
    (within name d).Stable := by
  intro s e after hs h he t ht
  rw [within_run] at h ⊢
  cases hrun : d s with
  | mk result middle =>
    cases result with
    | ok a =>
      rw [hrun] at h
      cases h
    | error fault =>
      rw [hrun] at h
      cases h
      have hsame := hd s fault after hs hrun (by simpa using he) t ht
      cases hrun' : d t with
      | mk result' middle' =>
        rw [hrun'] at hsame
        cases hsame
        rfl

theorem stable_read [Host] (n : Int) : (read n).Stable := by
  intro s e after hs h he t _
  cases hrefusal : s.refusal? n with
  | some r =>
    have hsame := Source.refusal_of_unbuffered s t n r hs hrefusal
    simp only [read, ofSource, Source.read, hrefusal] at h
    cases h
    simp only [read, ofSource, Source.read, hsame]
  | none =>
    -- what is not refused can only fail at the end of the source
    exfalso
    simp only [read, ofSource, Source.read, hrefusal] at h
    by_cases hsign : n < 0
    · rw [if_pos hsign] at h
      cases h
    · rw [if_neg hsign] at h
      split at h
      next heq =>
        split at heq <;> cases heq
        cases h
      next heq =>
        split at heq <;> cases heq
        cases h
        cases he

theorem stable_readUntil (terminator : List UInt8) : (readUntil terminator).Stable := by
  intro s e after _ h he
  cases hscan : Source.scan terminator.reverse [] s.rest with
  | some found =>
    simp only [readUntil, ofSource, Source.readUntil, hscan] at h
    cases h
  | none =>
    simp only [readUntil, ofSource, Source.readUntil, hscan] at h
    cases h
    cases he

theorem stable_sizeOf [Host] (a : Attributes) (bindings : Bindings) :
    (sizeOf a bindings).Stable := by
  unfold sizeOf
  split
  · exact stable_pure _
  · split
    · exact stable_throw _
    · exact stable_throw _

theorem stable_rawBytes [Host] (a : Attributes) (bindings : Bindings) :
    (rawBytes a bindings).Stable := by
  unfold rawBytes
  split
  · exact stable_readUntil a.terminator
  · exact (stable_sizeOf a bindings).bind (takes_sizeOf a bindings) fun n => stable_read n

theorem stable_elements (item : Field) {element : Bindings → Decoder Value}
    (htakes : ∀ bindings, (element bindings).Takes (ReadsBack item))
    (hstable : ∀ bindings, (element bindings).Stable) (total : Nat) :
    ∀ (fuel count : Nat) (run : List UInt8), (elements element total fuel count run).Stable := by
  intro fuel
  induction fuel with
  | zero =>
    intro count run
    exact stable_pure []
  | succ fuel ih =>
    intro count run
    unfold elements
    split
    · refine ((hstable _).within _).bind ((htakes _).within _) fun v => ?_
      have hrest : (do
          let rest ← elements element total fuel (count + 1) (run ++ v.encode)
          pure (v :: rest)).Stable :=
        (ih _ _).bind (takes_elements item htakes total fuel _ _) fun _ => stable_pure _
      split
      · exact (stable_throw _).bind (takes_throw _ fun _ _ => False) fun _ => hrest
      · exact hrest
    · exact stable_pure []

end Decoder

theorem decodeMembers_stable [Host] (members : List Field)
    (hmembers : ∀ m ∈ members, ∀ bindings, (decodeField m bindings).Stable) :
    ∀ run, (decodeMembers members run).Stable := by
  induction members with
  | nil =>
    intro run
    unfold decodeMembers
    exact Decoder.stable_pure []
  | cons m rest ih =>
    intro run
    unfold decodeMembers
    refine (hmembers m (by simp) _).bind (decodeField_takes m _) fun v => ?_
    have htakes := decodeMembers_takes rest (fun m _ => decodeField_takes m) (run ++ v.encode)
    have hstable := ih (fun m hm => hmembers m (List.mem_cons_of_mem _ hm)) (run ++ v.encode)
    exact hstable.bind htakes fun _ => Decoder.stable_pure _

theorem decodeField_stable [Host] (f : Field) : ∀ bindings, (decodeField f bindings).Stable := by
  induction f using Field.tree_induction with
  | step attributes members itemType ihMembers ihItem =>
    intro bindings
    unfold decodeField
    refine Decoder.Stable.within ?_ attributes.name
    cases attributes.kind.form with
    | members =>
      have htakes := decodeMembers_takes members (fun m _ => decodeField_takes m) []
      exact (decodeMembers_stable members ihMembers []).bind htakes fun _ =>
        Decoder.stable_pure _
    | number =>
      refine (Decoder.stable_sizeOf attributes bindings).bind (Decoder.takes_sizeOf _ _) fun n => ?_
      exact (Decoder.stable_read n).bind (Decoder.takes_read n) fun _ => Decoder.stable_pure _
    | raw =>
      exact (Decoder.stable_rawBytes attributes bindings).bind (Decoder.takes_rawBytes _ _)
        fun _ => Decoder.stable_pure _
    | elements =>
      refine (Decoder.stable_sizeOf attributes bindings).bind (Decoder.takes_sizeOf _ _)
        fun total => ?_
      have htakes := decodeItem_takes itemType
      have hstable : ∀ bindings, (decodeItem itemType bindings).Stable := by
        intro bindings
        cases itemType with
        | none => exact Decoder.stable_throw _
        | some item => exact ihItem item rfl bindings
      exact (Decoder.stable_elements _ htakes hstable total total 0 []).bind
        (Decoder.takes_elements _ htakes total total 0 []) fun _ => Decoder.stable_pure _

theorem decode_stable [Host] (f : Field) (bindings : Bindings) (haddress : 0 ≤ f.address.getD 0) :
    (decode f bindings).Stable := by
  unfold decode
  cases hroot : f.address with
  | none => exact decodeField_stable f bindings
  | some address =>
    rw [hroot] at haddress
    obtain ⟨n, rfl⟩ := Int.eq_ofNat_of_zero_le haddress
    have htakes := (Decoder.takes_read n).within f.name
    have hskip := ((Decoder.stable_read n).within f.name).discard htakes
    exact hskip.bind htakes.discard fun _ => decodeField_stable f bindings

theorem decode_of_no_address [Host] (f : Field) (bindings : Bindings) (h : f.address = none) :
    decode f bindings = decodeField f bindings := by
  unfold decode
  rw [h]

/-- The value of a field without an address is that of the bytes it takes: the same window between
other bytes gives it, and so does its own encoding. What goes wrong in an image, other than that the
image ends, goes wrong in the same way in every image that it is the beginning of. -/
theorem decode_depends_on_window [Host] (f : Field) (bindings : Bindings) :
    (f.address = none → ∀ (buffered buffered' : Bool) (pre pre' d post post' : List UInt8)
      (v : Value) (after : Source),
      decode f bindings (.readUpTo (pre ++ d ++ post) pre.length buffered) = (.ok v, after) →
      v.consumed = d.length →
      (decode f bindings (.readUpTo (pre' ++ d ++ post') pre'.length buffered')).1 = .ok v ∧
        (decode f bindings (.ofBytes v.encode)).1 = .ok v) ∧
    (0 ≤ f.address.getD 0 → ∀ (image longer : List UInt8) (fault : DecodeFault),
      image <+: longer → (decode f bindings (.ofBytes image)).1 = .error fault →
      fault.isPastEnd = false → (decode f bindings (.ofBytes longer)).1 = .error fault) := by
  constructor
  · intro hroot buffered buffered' pre pre' d post post' v after h hconsumed
    rw [decode_of_no_address f bindings hroot] at h ⊢
    obtain ⟨used, hrest, hgives, hencode, hexact, _⟩ := decodeField_takes f bindings _ _ _ h
    have hwindow : d ++ post = used ++ after.rest := by
      simpa [Source.readUpTo] using hrest
    have hlength : d.length = used.length := by
      rw [← hconsumed, hexact.consumed, hencode]
    obtain ⟨rfl, _⟩ := List.append_inj hwindow hlength
    constructor
    · have hthere : (Source.readUpTo (pre' ++ d ++ post') pre'.length buffered').rest =
          d ++ post' := by
        simp [Source.readUpTo]
      rw [hgives _ post' hthere]
    · have halone : (Source.ofBytes v.encode).rest = d ++ [] := by
        simp [Source.ofBytes, hencode]
      rw [hgives _ [] halone]
  · intro haddress image longer fault hlonger h he
    cases hrun : decode f bindings (.ofBytes image) with
    | mk result after =>
      rw [hrun] at h
      cases h
      exact decode_stable f bindings haddress _ fault after rfl hrun he (.ofBytes longer) hlonger

/-- The record in the middle of two images, and an array of three bytes whose words do not fit. -/
theorem sampleRecord_depends_on_window :
    decode (sampleRecord none) [] (.readUpTo [9, 2, 7, 0, 1, 1, 2, 3, 4, 5] 1 false) =
        (.ok (sampleValue none), ⟨[5], 9, false⟩) ∧
      (decode (sampleRecord none) [] (.readUpTo [6, 6, 2, 7, 0, 1, 1, 2, 3, 4] 2 true)).1 =
        .ok (sampleValue none) ∧
      (decode (sampleWords "3") [] (.ofBytes [1, 2, 3, 4, 5])).1 =
        .error (.failure ⟨.lengthMismatch 3 2 2, ["WORDS"]⟩) := by
  have hrun : decode (sampleRecord none) []
      (.readUpTo ([9] ++ [2, 7, 0, 1, 1, 2, 3, 4] ++ [5]) 1 false) =
        (.ok (sampleValue none), ⟨[5], 9, false⟩) := rfl
  have hwindow := (decode_depends_on_window (sampleRecord none) []).1 rfl false true
    [9] [6, 6] [2, 7, 0, 1, 1, 2, 3, 4] [5] [] (sampleValue none) _ hrun rfl
  have hfault := (decode_depends_on_window (sampleWords "3") []).2 (by decide)
    [1, 2, 3, 4] [1, 2, 3, 4, 5] (.failure ⟨.lengthMismatch 3 2 2, ["WORDS"]⟩) ⟨[5], rfl⟩ rfl rfl
  exact ⟨hrun, hwindow.1, hfault⟩

end GameAtlas.Image
