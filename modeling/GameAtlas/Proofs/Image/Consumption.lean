import Mathlib.Tactic
import GameAtlas.Image.Decode

/-!
What decoders take from a source. A decoder that succeeds takes a run of bytes from the front of
what is left. The run alone decides the result: any other source that starts with it gives the same
one, whatever its position and whatever follows.
-/

namespace GameAtlas.Image

namespace Source

/-- A source over an image of which the first `n` bytes were read. -/
def readUpTo (image : List UInt8) (n : Nat) (buffered : Bool) : Source :=
  { rest := image.drop n, position := n, buffered := buffered }

/-- The source that is left with `more` when `used` was taken. -/
def past (s : Source) (used more : List UInt8) : Source :=
  { s with rest := more, position := s.position + used.length }

theorem past_past (s : Source) (first second middle more : List UInt8) :
    (s.past first middle).past second more = s.past (first ++ second) more := by
  simp [past, add_assoc]

theorem past_nil (s : Source) : s.past [] s.rest = s := by
  simp [past]

/-- No number of bytes that a source holds is refused, except one that is no size at all. -/
theorem refusal_of_available [Host] (s : Source) (n : Nat) (hsize : n < sizeLimit)
    (hn : n ≤ s.rest.length) : s.refusal? n = none := by
  have hlow : ¬ ((sizeLimit : Int) ≤ n) := by omega
  have hhigh : ¬ ((n : Int) < -(sizeLimit : Int)) := by omega
  have hbuffer : bufferRefusal? s.rest n = none := by
    have hsign : ¬ ((n : Int) < -1) := by omega
    have hthere : (n : Int) ≤ (s.rest.length : Int) := by omega
    simp [bufferRefusal?, hsign, hthere]
  simp [refusal?, hlow, hhigh, hbuffer]

/-- Bytes that stand in front of a source are what it gives when as many are asked for. -/
theorem read_front [Host] (s : Source) (used more : List UInt8) (hs : s.rest = used ++ more)
    (hsize : used.length < sizeLimit) :
    s.read (used.length : Int) = (.ok used, s.past used more) := by
  have hfree : s.refusal? (used.length : Int) = none :=
    refusal_of_available s used.length hsize (by simp [hs])
  have hsign : ¬ ((used.length : Int) < 0) := by omega
  simp [read, hfree, hsign, hs, past]

/-- A read of `n` bytes that succeeds gives the next `n` bytes. -/
theorem read_ok [Host] (s after : Source) (n : Nat) (bs : List UInt8)
    (h : s.read (n : Int) = (.ok bs, after)) :
    n < sizeLimit ∧ bs.length = n ∧ s.rest = bs ++ after.rest := by
  unfold read at h
  cases hrefusal : s.refusal? n with
  | some r => simp [hrefusal] at h
  | none =>
    have hsize : n < sizeLimit := by
      by_contra hlarge
      have : (sizeLimit : Int) ≤ n := by omega
      simp [refusal?, this] at hrefusal
    have hsign : ¬ ((n : Int) < 0) := by omega
    simp only [hrefusal, hsign, if_false, Int.toNat_natCast] at h
    split at h
    · cases h
    next hlength =>
      obtain ⟨hbs, hafter⟩ := Prod.mk.inj h
      have hbs : s.rest.take n = bs := Except.ok.inj hbs
      subst hbs hafter
      refine ⟨hsize, ?_, (List.take_append_drop n s.rest).symm⟩
      simp only [List.length_take] at hlength ⊢
      omega

/-- The bytes up to a terminator are found whatever follows them. -/
theorem scan_front (ends taken bytes : List UInt8) (found : List UInt8 × List UInt8)
    (h : scan ends taken bytes = some found) :
    ∃ used, bytes = used ++ found.2 ∧ found.1 = used.reverse ++ taken ∧
      ∀ more, scan ends taken (used ++ more) = some (found.1, more) := by
  induction bytes generalizing taken with
  | nil =>
    unfold scan at h
    split at h
    next hends =>
      cases h
      refine ⟨[], rfl, rfl, ?_⟩
      intro more
      cases more <;> simp [scan, hends]
    · cases h
  | cons b rest ih =>
    unfold scan at h
    split at h
    next hends =>
      cases h
      refine ⟨[], rfl, rfl, ?_⟩
      intro more
      cases more <;> simp [scan, hends]
    next hends =>
      obtain ⟨used, hrest, htaken, hscan⟩ := ih (b :: taken) h
      refine ⟨b :: used, by simp [hrest], by simp [htaken], ?_⟩
      intro more
      simp [scan, hends, hscan]

end Source

namespace DecodeFault

/-- Whether a source ended too early. -/
def isPastEnd : DecodeFault → Bool
  | .failure ⟨.pastEnd _, _⟩ => true
  | _ => false

@[simp]
theorem isPastEnd_within (name : String) (e : DecodeFault) :
    (e.within name).isPastEnd = e.isPastEnd := by
  rcases e with ⟨⟨cause, path⟩⟩ | _ | _ | _
  · cases cause <;> simp only [within, Located.within] <;> split <;> rfl
  all_goals rfl

end DecodeFault

namespace Decoder

variable {α β : Type}

/-- Every source that starts with `used` gives `a` and loses just these bytes. -/
def Gives (d : Decoder α) (used : List UInt8) (a : α) : Prop :=
  ∀ s more, s.rest = used ++ more → d s = (.ok a, s.past used more)

/-- What succeeds took a run of bytes, gives the same for every source that starts with it, and
stands in `P` to it. -/
def Takes (d : Decoder α) (P : List UInt8 → α → Prop) : Prop :=
  ∀ s a after, d s = (.ok a, after) →
    ∃ used, s.rest = used ++ after.rest ∧ d.Gives used a ∧ P used a

theorem bind_run (d : Decoder α) (next : α → Decoder β) (s : Source) :
    (d >>= next) s =
      match d s with
      | (.ok a, after) => next a after
      | (.error e, after) => (.error e, after) := by
  simp only [bind, ExceptT.bind, ExceptT.mk, StateT.bind, ExceptT.bindCont]
  cases d s with
  | mk result after => cases result <;> rfl

theorem bind_ok {d : Decoder α} {next : α → Decoder β} {s after : Source} {b : β}
    (h : (d >>= next) s = (.ok b, after)) :
    ∃ a middle, d s = (.ok a, middle) ∧ next a middle = (.ok b, after) := by
  rw [bind_run] at h
  cases hd : d s with
  | mk result middle =>
    cases result with
    | ok a => exact ⟨a, middle, rfl, by simpa [hd] using h⟩
    | error e =>
      simp only [hd] at h
      cases h

theorem discard_eq_bind (d : Decoder α) : discard d = d >>= fun _ => pure PUnit.unit := by
  funext s
  rw [bind_run]
  simp only [discard, Functor.discard, Functor.mapConst, Function.comp_def, ExceptT.map, ExceptT.mk,
    bind, StateT.bind]
  cases d s with
  | mk result after => cases result <;> rfl

theorem within_run (name : String) (d : Decoder α) (s : Source) :
    within name d s =
      match d s with
      | (.ok a, after) => (.ok a, after)
      | (.error e, after) => (.error (e.within name), after) := rfl

theorem within_ok {name : String} {d : Decoder α} {s after : Source} {a : α}
    (h : within name d s = (.ok a, after)) : d s = (.ok a, after) := by
  rw [within_run] at h
  cases hrun : d s with
  | mk result middle =>
    cases result with
    | ok b =>
      simp only [hrun] at h
      exact h
    | error e =>
      simp only [hrun] at h
      cases h

theorem ofSource_ok {call : Source → Except ReadFault α × Source} {s after : Source} {a : α}
    (h : ofSource call s = (.ok a, after)) : call s = (.ok a, after) := by
  cases hcall : call s with
  | mk result middle =>
    cases result with
    | ok b =>
      simp only [ofSource, hcall] at h
      cases h
      rfl
    | error e =>
      simp only [ofSource, hcall] at h
      cases h

/-! ### Runs that decoders take -/

theorem Gives.bind {d : Decoder α} {next : α → Decoder β} {first second : List UInt8} {a : α}
    {b : β} (hd : d.Gives first a) (hnext : (next a).Gives second b) :
    (d >>= next).Gives (first ++ second) b := by
  intro s more hs
  have hfirst := hd s (second ++ more) (by simp [hs])
  have hsecond := hnext (s.past first (second ++ more)) more rfl
  rw [bind_run, hfirst]
  exact hsecond.trans (by rw [Source.past_past])

theorem Takes.mono {d : Decoder α} {P Q : List UInt8 → α → Prop} (hd : d.Takes P)
    (h : ∀ used a, P used a → Q used a) : d.Takes Q := by
  intro s a after hrun
  obtain ⟨used, hrest, hgives, hP⟩ := hd s a after hrun
  exact ⟨used, hrest, hgives, h used a hP⟩

theorem takes_pure (a : α) : (pure a : Decoder α).Takes fun used b => used = [] ∧ b = a := by
  intro s b after h
  cases h
  refine ⟨[], rfl, ?_, rfl, rfl⟩
  intro t more ht
  have ht : t.rest = more := ht
  subst ht
  exact congrArg (Prod.mk _) (Source.past_nil t).symm

theorem takes_throw (e : DecodeFault) (P : List UInt8 → α → Prop) :
    (throw e : Decoder α).Takes P := by
  intro s a after h
  cases h

theorem Takes.bind {d : Decoder α} {next : α → Decoder β} {P : List UInt8 → α → Prop}
    {Q : List UInt8 → β → Prop} (hd : d.Takes P)
    (hnext : ∀ first a, P first a → (next a).Takes fun second b => Q (first ++ second) b) :
    (d >>= next).Takes Q := by
  intro s b after h
  obtain ⟨a, middle, hfirst, hsecond⟩ := bind_ok h
  obtain ⟨first, hrest, hgives, hP⟩ := hd s a middle hfirst
  obtain ⟨second, hmiddle, hgives', hQ⟩ := hnext first a hP middle b after hsecond
  exact ⟨first ++ second, by simp [hrest, hmiddle], hgives.bind hgives', hQ⟩

theorem Gives.within {d : Decoder α} {used : List UInt8} {a : α} (hd : d.Gives used a)
    (name : String) : (within name d).Gives used a := by
  intro s more hs
  rw [within_run, hd s more hs]

theorem Takes.within {d : Decoder α} {P : List UInt8 → α → Prop} (hd : d.Takes P)
    (name : String) : (within name d).Takes P := by
  intro s a after h
  obtain ⟨used, hrest, hgives, hP⟩ := hd s a after (within_ok h)
  exact ⟨used, hrest, hgives.within name, hP⟩

theorem Takes.discard {d : Decoder α} {P : List UInt8 → α → Prop} (hd : d.Takes P) :
    (discard d).Takes fun used _ => ∃ a, P used a := by
  rw [discard_eq_bind]
  refine hd.bind ?_
  intro first a hP
  refine (takes_pure PUnit.unit).mono ?_
  rintro used _ ⟨rfl, _⟩
  exact ⟨a, by simpa using hP⟩

theorem gives_read [Host] (bytes : List UInt8) (hsize : bytes.length < Source.sizeLimit) :
    (read bytes.length).Gives bytes bytes := by
  intro s more hs
  have hread := Source.read_front s bytes more hs hsize
  simp only [read, ofSource, hread]

theorem takes_read [Host] (n : Nat) : (read n).Takes fun used bs => used = bs ∧ bs.length = n := by
  intro s bs after h
  obtain ⟨hsize, hlength, hrest⟩ := Source.read_ok s after n bs (ofSource_ok h)
  have hgives := gives_read bs (hlength ▸ hsize)
  rw [hlength] at hgives
  exact ⟨bs, hrest, hgives, rfl, hlength⟩

theorem takes_readUntil (terminator : List UInt8) :
    (readUntil terminator).Takes fun used bs => used = bs := by
  intro s bs after h
  cases hscan : Source.scan terminator.reverse [] s.rest with
  | none =>
    simp only [readUntil, ofSource, Source.readUntil, hscan] at h
    cases h
  | some found =>
    simp only [readUntil, ofSource, Source.readUntil, hscan] at h
    cases h
    obtain ⟨used, hrest, htaken, hfront⟩ := Source.scan_front _ _ _ _ hscan
    have hused : found.1.reverse = used := by simp [htaken]
    refine ⟨used, hrest, ?_, hused.symm⟩
    intro t more ht
    simp [readUntil, ofSource, Source.readUntil, ht, hfront, Source.past, htaken]

theorem takes_sizeOf [Host] (a : Schema.Attributes) (bindings : Expression.Bindings) :
    (sizeOf a bindings).Takes fun used n => used = [] ∧ a.resolvedSize bindings = .ok n := by
  unfold sizeOf
  split
  next n hsize =>
    refine (takes_pure n).mono ?_
    rintro used m ⟨rfl, rfl⟩
    exact ⟨rfl, hsize⟩
  · split
    · exact takes_throw _ _
    · exact takes_throw _ _

theorem takes_rawBytes [Host] (a : Schema.Attributes) (bindings : Expression.Bindings) :
    (rawBytes a bindings).Takes fun used bs => used = bs := by
  unfold rawBytes
  split
  · exact takes_readUntil a.terminator
  · refine (takes_sizeOf a bindings).bind ?_
    rintro _ n ⟨rfl, _⟩
    refine (takes_read n).mono ?_
    rintro used bs ⟨rfl, _⟩
    rfl

end Decoder

end GameAtlas.Image
