import Mathlib.Tactic
import GameAtlas.Proofs.Image.Calls

/-!
How a source over bytes keeps account of them. Below it is a stream that can be turned to any place,
and the position is a number beside it that every request moves by itself: no bytes are asked for
without the stream, an end mark is looked for byte by byte, and a look at the end turns the stream
back. What is seen of both is the source, and after any requests the position is the place of the
stream.
-/

namespace GameAtlas.Image

open InPlace (window)

/-! ### Streams -/

/-- Bytes in memory, and the place that they are read from. -/
structure Stream where
  bytes : List UInt8
  place : Nat
deriving DecidableEq, Repr

namespace Stream

/-- The bytes that are left. -/
def left (t : Stream) : List UInt8 := t.bytes.drop t.place

/-- Gives `n` bytes, or those that are left, and stands behind them. -/
def give (t : Stream) (n : Nat) : List UInt8 × Stream :=
  (t.left.take n, { t with place := t.place + (t.left.take n).length })

def turnTo (t : Stream) (place : Nat) : Stream := { t with place := place }

theorem left_turnTo (t : Stream) (n : Nat) : (t.turnTo (t.place + n)).left = t.left.drop n := by
  simp [left, turnTo, List.drop_drop]

theorem give_of_left_nil {t : Stream} (h : t.left = []) : t.give 1 = ([], t) := by
  simp [give, h]

theorem give_of_left_cons {t : Stream} {b : UInt8} {rest : List UInt8} (h : t.left = b :: rest) :
    t.give 1 = ([b], t.turnTo (t.place + 1)) := by
  simp [give, h, turnTo]

/-- A byte that is given is the first one of those that were left. -/
theorem left_of_give {t after : Stream} {b : UInt8} {more : List UInt8}
    (h : t.give 1 = (b :: more, after)) : t.left = b :: after.left := by
  cases hleft : t.left with
  | nil =>
    rw [give_of_left_nil hleft] at h
    cases h
  | cons c rest =>
    rw [give_of_left_cons hleft] at h
    cases h
    rw [left_turnTo, hleft]
    rfl

end Stream

/-- A stream, and the number of bytes that were taken from it. -/
structure Metered where
  stream : Stream
  position : Nat
deriving DecidableEq, Repr

namespace Metered

/-- Reads `n` bytes; the stream is not asked for none. What it gives is counted even if it is too
little. -/
def read (m : Metered) (n : Nat) : Except PastEnd (List UInt8) × Metered :=
  let (chunk, stream) := if n = 0 then ([], m.stream) else m.stream.give n
  if chunk.length < n then
    (.error ⟨n, chunk.length, m.position⟩, ⟨stream, m.position + chunk.length⟩)
  else (.ok chunk, ⟨stream, m.position + n⟩)

def byte (m : Metered) : Except PastEnd UInt8 × Metered :=
  ((m.read 1).1.map fun chunk => chunk.headD 0, (m.read 1).2)

def skip (m : Metered) (n : Nat) : Except PastEnd Unit × Metered :=
  ((m.read n).1.map fun _ => (), (m.read n).2)

/-- Takes bytes onto `taken` one by one, until it ends with the mark. -/
def search (mark taken : List UInt8) (m : Metered) : Except PastEnd (List UInt8) × Metered :=
  if mark.isSuffixOf taken then (.ok taken, m)
  else
    match hgive : m.stream.give 1 with
    | ([], stream) =>
      (.error ⟨taken.length + mark.length, taken.length, m.position⟩, { m with stream })
    | (b :: more, stream) => search mark (taken ++ b :: more) ⟨stream, m.position + 1⟩
termination_by m.stream.left.length
decreasing_by
  rw [Stream.left_of_give hgive]
  exact Nat.lt_succ_self _

/-- Whether a byte more could be read. The stream is turned back from it. -/
def exhausted (m : Metered) : Bool × Metered :=
  let here := m.stream.place
  let (more, stream) := m.stream.give 1
  (more.isEmpty, { m with stream := stream.turnTo here })

end Metered

/-! ### Requests -/

/-- What is asked of a source over bytes. -/
inductive Request where
  | read (n : Nat)
  | byte
  | skip (n : Nat)
  | readUntil (mark : List UInt8)
  | exhausted

namespace Request

/-- The number of bytes that is asked for is one that a source can be asked for. -/
def IsSized : Request → Prop
  | .read n | .skip n => n < Source.sizeLimit
  | .byte | .readUntil _ | .exhausted => True

def call : Request → Call
  | .read n => .read n
  | .byte => .byte
  | .skip n => .skip n
  | .readUntil mark => .readUntil mark
  | .exhausted => .exhausted

/-- How a request is answered from a stream. -/
def answer : Request → Metered → Except PastEnd Reply × Metered
  | .read n, m => ((m.read n).1.map .bytes, (m.read n).2)
  | .byte, m => (m.byte.1.map .byte, m.byte.2)
  | .skip n, m => ((m.skip n).1.map fun _ => .nothing, (m.skip n).2)
  | .readUntil mark, m => ((m.search mark []).1.map .bytes, (m.search mark []).2)
  | .exhausted, m => (.ok (.truth m.exhausted.1), m.exhausted.2)

/-- The answer to a request for which the bytes `used` are taken. -/
inductive Takes : Request → List UInt8 → Reply → Prop where
  | read {used : List UInt8} : Takes (.read used.length) used (.bytes used)
  | byte {b : UInt8} : Takes .byte [b] (.byte b)
  | skip {used : List UInt8} : Takes (.skip used.length) used .nothing
  | readUntil {mark used : List UInt8} : mark <:+ used → Takes (.readUntil mark) used (.bytes used)
  | exhausted {b : Bool} : Takes .exhausted [] (.truth b)

end Request

namespace Metered

/-- The stream after requests that were made one after the other, whatever came of them. -/
def afterRequests (m : Metered) : List Request → Metered
  | [] => m
  | r :: rest => (r.answer m).2.afterRequests rest

/-- A stream of which the first `n` bytes were read and counted. -/
def readUpTo (image : List UInt8) (n : Nat) : Metered := ⟨⟨image, n⟩, n⟩

/-- What is seen of a stream and its position. -/
def source (m : Metered) : Source := { rest := m.stream.left, position := m.position }

/-- The stream with `n` bytes more taken and counted. -/
def past (m : Metered) (n : Nat) : Metered :=
  ⟨m.stream.turnTo (m.stream.place + n), m.position + n⟩

theorem past_past (m : Metered) (first second : Nat) :
    (m.past first).past second = m.past (first + second) := by
  simp [past, Stream.turnTo, add_assoc]

theorem source_past (m : Metered) (n : Nat) :
    (m.past n).source =
      { m.source with rest := m.stream.left.drop n, position := m.position + n } := by
  simp [source, past, Stream.left_turnTo]

/-! ### Each request -/

/-- The bytes that are asked for are given and counted, or all that are left. -/
theorem read_eq (m : Metered) (n : Nat) :
    m.read n =
      (if m.stream.left.length < n then
        .error ⟨n, m.stream.left.length, m.position⟩ else .ok (m.stream.left.take n),
      m.past (min n m.stream.left.length)) := by
  have hgive : (if n = 0 then ([], m.stream) else m.stream.give n) = m.stream.give n := by
    split
    · next hzero =>
      subst hzero
      rfl
    · rfl
  rw [read, hgive]
  dsimp only [Stream.give]
  rw [List.length_take]
  by_cases hshort : m.stream.left.length < n
  · rw [if_pos (by omega), if_pos hshort, Nat.min_eq_right hshort.le]
    rfl
  · rw [if_neg (by omega), if_neg hshort, Nat.min_eq_left (not_lt.mp hshort)]
    rfl

theorem exhausted_eq (m : Metered) : m.exhausted = (m.stream.left.isEmpty, m) := by
  rw [exhausted]
  cases hleft : m.stream.left with
  | nil => rw [Stream.give_of_left_nil hleft]; rfl
  | cons b rest => rw [Stream.give_of_left_cons hleft]; rfl

/-- What comes of a search that does not find the mark: all bytes that are left are taken. -/
def overrun (mark taken : List UInt8) (m : Metered) : Except PastEnd (List UInt8) × Metered :=
  let available := taken.length + m.stream.left.length
  (.error ⟨available + mark.length, available, m.position + m.stream.left.length⟩,
    m.past m.stream.left.length)

section

variable {mark taken rest : List UInt8} {m : Metered} {b : UInt8}

theorem left_past_one (hleft : m.stream.left = b :: rest) : (m.past 1).stream.left = rest := by
  rw [past, Stream.left_turnTo, hleft]
  rfl

/-- A byte that was taken counts as one that was left before. -/
theorem overrun_snoc (hleft : m.stream.left = b :: rest) :
    (m.past 1).overrun mark (taken ++ [b]) = m.overrun mark taken := by
  have htaken : (taken ++ [b]).length + rest.length = taken.length + (rest.length + 1) := by
    rw [List.length_append, List.length_singleton]
    omega
  have hposition : ((m.past 1).position : Int) + rest.length =
      m.position + ((rest.length + 1 : Nat) : Int) := by
    rw [past]
    push_cast
    ring
  rw [overrun, overrun, left_past_one hleft, hleft, List.length_cons, past_past, htaken, hposition,
    Nat.add_comm 1]

theorem search_of_ends (h : mark.isSuffixOf taken = true) :
    m.search mark taken = (.ok taken, m) := by
  rw [search, if_pos h]

theorem search_of_left_nil (h : ¬ mark.isSuffixOf taken = true) (hleft : m.stream.left = []) :
    m.search mark taken = m.overrun mark taken := by
  have hnone : m.overrun mark taken =
      (.error ⟨taken.length + mark.length, taken.length, m.position⟩, m) := by
    rw [overrun, hleft, List.length_nil, Nat.cast_zero, add_zero]
    rfl
  rw [search, if_neg h, hnone]
  split
  · next hgive =>
    rw [Stream.give_of_left_nil hleft] at hgive
    cases hgive
    rfl
  · next hgive =>
    rw [Stream.give_of_left_nil hleft] at hgive
    cases hgive

theorem search_of_left_cons (h : ¬ mark.isSuffixOf taken = true)
    (hleft : m.stream.left = b :: rest) :
    m.search mark taken = (m.past 1).search mark (taken ++ [b]) := by
  rw [search, if_neg h]
  split
  · next hgive =>
    rw [Stream.give_of_left_cons hleft] at hgive
    cases hgive
  · next hgive =>
    rw [Stream.give_of_left_cons hleft] at hgive
    cases hgive
    rfl

end

/-- What comes of a search: the bytes that a scan of those that are left takes, or all of them. The
induction is on the bytes that are left. -/
theorem search_eq (mark taken : List UInt8) (m : Metered) :
    match Source.scan mark.reverse taken.reverse m.stream.left with
    | some (found, more) => ∃ used, m.stream.left = used ++ more ∧ found.reverse = taken ++ used ∧
        m.search mark taken = (.ok (taken ++ used), m.past used.length)
    | none => m.search mark taken = m.overrun mark taken := by
  generalize hleft : m.stream.left = left
  -- The end is tested in front of every byte, and behind the last one.
  have hended (more : List UInt8) (taken : List UInt8) (m : Metered)
      (hends : mark.reverse.isPrefixOf taken.reverse = true) :
      ∃ used, more = used ++ more ∧ taken.reverse.reverse = taken ++ used ∧
        m.search mark taken = (.ok (taken ++ used), m.past used.length) :=
    ⟨[], rfl, by simp, by rw [search_of_ends hends, List.append_nil]; rfl⟩
  induction left generalizing taken m with
  | nil =>
    rw [Source.scan]
    by_cases hends : mark.reverse.isPrefixOf taken.reverse = true
    · rw [if_pos hends]
      exact hended [] taken m hends
    · rw [if_neg hends]
      exact search_of_left_nil hends hleft
  | cons b rest ih =>
    rw [Source.scan]
    by_cases hends : mark.reverse.isPrefixOf taken.reverse = true
    · rw [if_pos hends]
      exact hended (b :: rest) taken m hends
    · have hsearch := ih (taken ++ [b]) (m.past 1) (left_past_one hleft)
      rw [List.reverse_append, List.reverse_singleton, List.singleton_append] at hsearch
      rw [if_neg hends, search_of_left_cons hends hleft]
      cases hscan : Source.scan mark.reverse (b :: taken.reverse) rest with
      | none =>
        rw [hscan] at hsearch
        exact hsearch.trans (overrun_snoc hleft)
      | some found =>
        rw [hscan] at hsearch
        obtain ⟨used, hused, hfound, heq⟩ := hsearch
        refine ⟨b :: used, by rw [hused]; rfl, by simp [hfound], ?_⟩
        rw [heq, past_past, List.append_assoc, List.singleton_append, List.length_cons,
          Nat.add_comm 1]

/-! ### What is seen of them -/

theorem read_source [Host] (m : Metered) {n : Nat} (hn : n < Source.sizeLimit) :
    m.source.read n = ((m.read n).1.mapError .pastEnd, (m.read n).2.source) := by
  have hrefusal : m.source.refusal? n = none := by
    have hhigh : ¬ (Source.sizeLimit : Int) ≤ n := by omega
    have hlow : ¬ (n : Int) < -(Source.sizeLimit : Int) := by omega
    simp [Source.refusal?, source, hhigh, hlow]
  have hsign : ¬ (n : Int) < 0 := by omega
  have hrest : m.source.rest = m.stream.left := rfl
  rw [Source.read, hrefusal, read_eq, source_past]
  dsimp only
  rw [if_neg hsign, Int.toNat_natCast, hrest, List.length_take]
  by_cases hshort : m.stream.left.length < n
  · rw [Nat.min_eq_right hshort.le, if_pos hshort, if_pos hshort, List.drop_length,
      List.drop_eq_nil_of_le hshort.le]
    rfl
  · rw [Nat.min_eq_left (not_lt.mp hshort), if_neg (lt_irrefl n), if_neg hshort]
    rfl

theorem byte_source [Host] (m : Metered) :
    m.source.byte = (m.byte.1.mapError .pastEnd, m.byte.2.source) := by
  have hread : m.source.read 1 = _ := m.read_source (n := 1) (by decide)
  rw [Source.byte, hread, byte]
  cases (m.read 1).1 <;> rfl

theorem skip_source [Host] (m : Metered) {n : Nat} (hn : n < Source.sizeLimit) :
    m.source.skip n = ((m.skip n).1.mapError .pastEnd, (m.skip n).2.source) := by
  rw [Source.skip, m.read_source hn, skip]
  cases (m.read n).1 <;> rfl

theorem readUntil_source (m : Metered) (mark : List UInt8) :
    m.source.readUntil mark =
      ((m.search mark []).1.mapError .pastEnd, (m.search mark []).2.source) := by
  have hsearch := m.search_eq mark []
  have hrest : m.source.rest = m.stream.left := rfl
  rw [List.reverse_nil] at hsearch
  rw [Source.readUntil, hrest]
  cases hscan : Source.scan mark.reverse [] m.stream.left with
  | none =>
    rw [hscan] at hsearch
    dsimp only at hsearch ⊢
    rw [hsearch, overrun, source_past, List.drop_length, List.length_nil, Nat.zero_add]
    rfl
  | some found =>
    rw [hscan] at hsearch
    obtain ⟨used, hleft, hfound, heq⟩ := hsearch
    have hlength : found.1.length = used.length := by
      rw [← List.length_reverse, hfound, List.nil_append]
    dsimp only
    rw [heq, source_past, hfound, hlength, hleft, List.drop_left]
    rfl

end Metered

/-- A call that is one reading of the source is answered as the reading comes out. -/
theorem answer_of_reading {α : Type} {call : Source → Except ReadFault α × Source} {f : α → Reply}
    {s after : Source} {outcome : Except PastEnd α}
    (h : call s = (outcome.mapError .pastEnd, after)) :
    (Decoder.ofSource call >>= fun a => pure (f a)) s =
      ((outcome.map f).mapError fun p => .failure { cause := .pastEnd p }, after) := by
  rw [Decoder.bind_run, Decoder.ofSource, h]
  cases outcome <;> rfl

/-- A request is answered alike by the source and by the stream below it, and what is seen of the
stream afterwards is the source. -/
theorem Request.call_answer [Host] {r : Request} (hr : r.IsSized) (m : Metered) :
    r.call.answer m.source =
      ((r.answer m).1.mapError fun p => .failure { cause := .pastEnd p },
        (r.answer m).2.source) := by
  cases r with
  | read n => exact answer_of_reading (m.read_source hr)
  | byte => exact answer_of_reading m.byte_source
  | skip n => exact answer_of_reading (m.skip_source hr)
  | readUntil mark => exact answer_of_reading (m.readUntil_source mark)
  | exhausted =>
    rw [answer, m.exhausted_eq]
    rfl

/-! ### Account -/

/-- What comes of bytes that are read from one place of an image up to another: an answer that they
give, or a failure that has consumed all bytes of the image. -/
structure Moves {ε α : Type} (image : List UInt8) (start stop : Nat)
    (gives : List UInt8 → α → Prop) (outcome : Except ε α) : Prop where
  forward : start ≤ stop
  inside : stop ≤ image.length
  given : ∀ a, outcome = .ok a → gives (window image start stop) a
  failed : ∀ e, outcome = .error e → stop = image.length

section

variable {ε δ α β : Type} {image : List UInt8} {start stop : Nat} {gives : List UInt8 → α → Prop}

theorem Moves.map {gives' : List UInt8 → β → Prop} {f : α → β} {outcome : Except ε α}
    (h : Moves image start stop gives outcome) (hf : ∀ used a, gives used a → gives' used (f a)) :
    Moves image start stop gives' (outcome.map f) := by
  refine ⟨h.forward, h.inside, ?_, ?_⟩
  · intro b hb
    cases outcome with
    | error e => cases hb
    | ok a =>
      cases hb
      exact hf _ a (h.given a rfl)
  · intro e he
    cases outcome with
    | error e => exact h.failed e rfl
    | ok a => cases he

theorem Moves.mapError {f : ε → δ} {outcome : Except ε α}
    (h : Moves image start stop gives outcome) :
    Moves image start stop gives (outcome.mapError f) := by
  refine ⟨h.forward, h.inside, ?_, ?_⟩
  · intro a ha
    cases outcome with
    | error e => cases ha
    | ok a' =>
      cases ha
      exact h.given _ rfl
  · intro e he
    cases outcome with
    | error e => exact h.failed e rfl
    | ok a => cases he

end

namespace Metered

variable {image : List UInt8} {position : Nat}

theorem left_readUpTo : (readUpTo image position).stream.left = image.drop position := rfl

theorem past_readUpTo (n : Nat) :
    (readUpTo image position).past n = readUpTo image (position + n) := rfl

theorem read_moves (hposition : position ≤ image.length) (n : Nat) :
    ∃ stop, ((readUpTo image position).read n).2 = readUpTo image stop ∧
      Moves image position stop (fun used bs => bs = used ∧ used.length = n)
        ((readUpTo image position).read n).1 := by
  rw [read_eq, left_readUpTo, past_readUpTo, List.length_drop]
  refine ⟨_, rfl, Nat.le_add_right _ _, by omega, ?_, ?_⟩
  · intro bs hbs
    split at hbs
    · cases hbs
    · next hlong =>
      cases hbs
      have hmin : min n (image.length - position) = n := by omega
      rw [hmin, window, Nat.add_sub_cancel_left]
      refine ⟨rfl, ?_⟩
      rw [List.length_take, List.length_drop, hmin]
  · intro p hp
    split at hp
    · omega
    · cases hp

theorem search_moves (hposition : position ≤ image.length) (mark : List UInt8) :
    ∃ stop, ((readUpTo image position).search mark []).2 = readUpTo image stop ∧
      Moves image position stop (fun used bs => bs = used ∧ mark <:+ used)
        ((readUpTo image position).search mark []).1 := by
  have hsearch := (readUpTo image position).search_eq mark []
  have hfirst := scan_first mark (image.drop position)
  rw [left_readUpTo, List.reverse_nil] at hsearch
  cases hscan : Source.scan mark.reverse [] (image.drop position) with
  | none =>
    rw [hscan] at hsearch
    dsimp only at hsearch
    rw [hsearch, overrun, past_readUpTo, left_readUpTo, List.length_drop]
    exact ⟨_, rfl, Nat.le_add_right _ _, by omega, nofun, fun _ _ => by omega⟩
  | some found =>
    rw [hscan] at hsearch hfirst
    obtain ⟨used, hleft, hfound, heq⟩ := hsearch
    have hlength := congrArg List.length hleft
    rw [List.length_append, List.length_drop] at hlength
    rw [heq, past_readUpTo]
    refine ⟨_, rfl, Nat.le_add_right _ _, by omega, ?_, nofun⟩
    intro bs hbs
    cases hbs
    have hused : window image position (position + used.length) = used := by
      rw [window, Nat.add_sub_cancel_left, hleft, List.take_left]
    rw [hused]
    refine ⟨rfl, ?_⟩
    have hends := hfirst.2.ends
    rwa [hfound] at hends

end Metered

/-- A request moves the position forward over the bytes that it takes, and the stream with it. -/
theorem Request.answer_moves (r : Request) {image : List UInt8} {position : Nat}
    (hposition : position ≤ image.length) :
    ∃ stop, (r.answer (.readUpTo image position)).2 = .readUpTo image stop ∧
      Moves image position stop r.Takes (r.answer (.readUpTo image position)).1 := by
  cases r with
  | read n =>
    obtain ⟨stop, hafter, hmoves⟩ := Metered.read_moves hposition n
    refine ⟨stop, hafter, hmoves.map ?_⟩
    rintro used _ ⟨rfl, rfl⟩
    exact .read
  | byte =>
    obtain ⟨stop, hafter, hmoves⟩ := Metered.read_moves hposition 1
    have hbyte : Moves image position stop (fun used b => used = [b])
        (Metered.readUpTo image position).byte.1 := by
      refine hmoves.map ?_
      rintro used _ ⟨rfl, hone⟩
      obtain ⟨b, rfl⟩ := List.length_eq_one_iff.mp hone
      rfl
    refine ⟨stop, hafter, hbyte.map ?_⟩
    rintro _ b rfl
    exact .byte
  | skip n =>
    obtain ⟨stop, hafter, hmoves⟩ := Metered.read_moves hposition n
    have hskip : Moves image position stop (fun used _ => used.length = n)
        ((Metered.readUpTo image position).skip n).1 := by
      refine hmoves.map ?_
      rintro used _ ⟨_, hlength⟩
      exact hlength
    refine ⟨stop, hafter, hskip.map ?_⟩
    rintro used _ rfl
    exact .skip
  | readUntil mark =>
    obtain ⟨stop, hafter, hmoves⟩ := Metered.search_moves hposition mark
    refine ⟨stop, hafter, hmoves.map ?_⟩
    rintro used _ ⟨rfl, hends⟩
    exact .readUntil hends
  | exhausted =>
    refine ⟨position, congrArg Prod.snd (Metered.exhausted_eq _), le_refl _, hposition, ?_, nofun⟩
    intro reply hreply
    cases hreply
    rw [window, Nat.sub_self, List.take_zero]
    exact .exhausted

/-- After requests, the position is the place of the stream, and the source is what is seen of
it. -/
theorem afterRequests_readUpTo [Host] (image : List UInt8) {position : Nat}
    (hposition : position ≤ image.length) {requests : List Request}
    (hsized : ∀ q ∈ requests, q.IsSized) :
    ∃ stop, stop ≤ image.length ∧
      (Metered.readUpTo image position).afterRequests requests = .readUpTo image stop ∧
      (Source.readUpTo image position false).afterCalls (requests.map Request.call) =
        .readUpTo image stop false := by
  induction requests generalizing position with
  | nil => exact ⟨position, hposition, rfl, rfl⟩
  | cons q rest ih =>
    obtain ⟨middle, hafter, hmoves⟩ := q.answer_moves hposition
    have hcall := congrArg Prod.snd
      (q.call_answer (hsized q List.mem_cons_self) (.readUpTo image position))
    dsimp only at hcall
    rw [hafter] at hcall
    obtain ⟨stop, hstop, hstream, hsource⟩ :=
      ih hmoves.inside fun q hq => hsized q (List.mem_cons_of_mem _ hq)
    refine ⟨stop, hstop, ?_, ?_⟩
    · rw [Metered.afterRequests, hafter, hstream]
    · rw [List.map_cons, Source.afterCalls]
      exact (congrArg (Source.afterCalls · _) hcall).trans hsource

/-- Requests to a source over bytes, one behind the other, that ask for no more than a source can be
asked for. Before and after the last of them the position is the number of bytes that were taken
from the stream, which is the place of the stream, and what is left are the bytes from there on. The
position never moves back; a request that is answered gives just the bytes between the positions, or
passes over them, and one that is not finds the source too short and has moved to its end. Whether
the source is exhausted is asked without any change, and it is exactly at its end. -/
theorem requests_accounted [Host] (image : List UInt8) (before : List Request) (r : Request)
    (hsized : ∀ q ∈ before ++ [r], q.IsSized) :
    let s := (Source.ofBytes image).afterCalls (before.map Request.call)
    let m := (Metered.readUpTo image 0).afterRequests before
    ∃ position stop : Nat,
      (s = .readUpTo image position false ∧ m = .readUpTo image position) ∧
      ((r.call.answer s).2 = .readUpTo image stop false ∧ (r.answer m).2 = .readUpTo image stop) ∧
      (r.call.answer s).1 = ((r.answer m).1.mapError fun p => .failure { cause := .pastEnd p }) ∧
      Moves image position stop r.Takes (r.call.answer s).1 ∧
      Call.exhausted.answer s = (.ok (.truth (decide (position = image.length))), s) ∧
      m.exhausted = (decide (position = image.length), m) := by
  intro s m
  obtain ⟨position, hposition, hm, hs⟩ := afterRequests_readUpTo image (Nat.zero_le _)
    fun q hq => hsized q (List.mem_append_left _ hq)
  obtain ⟨stop, hafter, hmoves⟩ := r.answer_moves hposition
  have hs : s = .readUpTo image position false := hs
  have hm : m = .readUpTo image position := hm
  have hcall : r.call.answer s =
      ((r.answer m).1.mapError fun p => .failure { cause := .pastEnd p },
        (r.answer m).2.source) := by
    rw [hs, hm]
    exact r.call_answer (hsized r (List.mem_append_right _ (List.mem_singleton_self r)))
      (.readUpTo image position)
  have hend : (image.drop position).isEmpty = decide (position = image.length) := by
    rw [Bool.eq_iff_iff, List.isEmpty_iff, List.drop_eq_nil_iff, decide_eq_true_iff]
    omega
  rw [← hm] at hafter hmoves
  refine ⟨position, stop, ⟨hs, hm⟩, ⟨?_, hafter⟩, ?_, ?_, ?_, ?_⟩
  · rw [hcall, hafter]
    rfl
  · rw [hcall]
  · rw [hcall]
    exact hmoves.mapError
  · rw [hs, ← hend]
    rfl
  · rw [m.exhausted_eq, hm, Metered.left_readUpTo, hend]

/-- A read that falls short, behind one of no bytes, a look at the end and a search. -/
theorem sampleRequests_accounted :
    let image : List UInt8 := [5, 6, 0, 7]
    let before : List Request := [.byte, .read 0, .exhausted, .readUntil [0]]
    (∀ q ∈ before ++ [.read 9], q.IsSized) ∧
      (Metered.readUpTo image 0).afterRequests before = .readUpTo image 3 ∧
      ((Request.read 9).answer (.readUpTo image 3)).2 = .readUpTo image 4 ∧
      Moves image 3 4 (Request.read 9).Takes ((Call.read 9).answer (.readUpTo image 3 false)).1 ∧
      (Metered.readUpTo image 3).exhausted = (false, .readUpTo image 3) := by
  intro image before
  have hsized : ∀ q ∈ before ++ [.read 9], q.IsSized := by
    simp [before, Request.IsSized, Source.sizeLimit]
  obtain ⟨position, stop, ⟨hs, hm⟩, ⟨hsource, hstream⟩, _, hmoves, _, hexhausted⟩ :=
    requests_accounted image before (.read 9) hsized
  have hposition : 3 = position := Int.ofNat_inj.mp (congrArg Source.position hs)
  subst hposition
  rw [hs] at hsource hmoves
  have hstop : 4 = stop := Int.ofNat_inj.mp (congrArg Source.position hsource)
  subst hstop
  rw [hm] at hstream hexhausted
  exact ⟨hsized, hm, hstream, hmoves, hexhausted⟩

end GameAtlas.Image
