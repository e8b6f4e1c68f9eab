import Mathlib.Tactic
import GameAtlas.Proofs.Image.RoundTrip

/-!
Reading in place. The decoder of this module writes no value back: it remembers where the struct or
array around a field starts, and takes the bytes that a size may speak of from the image, from that
place up to the one that it reads at, a hundred at most. It gives the same value or the same fault
as the decoder that collects the encodings of what it has read.
-/

namespace GameAtlas.Image

open Schema (Attributes Field)
open Expression (Bindings)

namespace InPlace

/-! ### The decoder -/

/-- The bytes of an image from one place up to another. -/
def window (image : List UInt8) (start stop : Nat) : List UInt8 :=
  (image.drop start).take (stop - start)

/-- What the size of a field may speak of: what the caller has bound, or the bytes behind the start
of the struct or array that the field stands in. -/
inductive Scope where
  | caller (bindings : Bindings)
  | run (start : Nat)

/-- The names of a scope for a field that is read at `position`. -/
def Scope.bindings (image : List UInt8) (position : Nat) : Scope → Bindings
  | .caller bindings => bindings
  | .run start =>
    (window image start (min position (start + Expression.maxArguments))).zipIdx.map
      fun (b, i) => (Expression.argumentName i, (b.toNat : Int))

/-- What comes of reading at a place. A reader gives the place behind what it has read as well. -/
abbrev Attempt := Except DecodeFault

/-- Names the field in which a fault happens. -/
def within {α : Type} (name : String) (attempt : Attempt α) : Attempt α :=
  attempt.mapError (DecodeFault.within name)

/-- The size that a field states. -/
def sizeOf [Host] (a : Attributes) (bindings : Bindings) : Attempt Nat :=
  match a.resolvedSize bindings with
  | .ok n => .ok n
  | .error e =>
    match e.bare? with
    | some c => .error (.bare c)
    | none => .error (.failure { cause := .size e })

/-- Reads elements up to `start + total`. Each ends behind the place where it starts. -/
def elements (element : Nat → Attempt (Value × Nat)) (start total count position : Nat) :
    Attempt (List Value × Nat) :=
  if position < start + total then do
    let (v, next) ← within (Located.index count) (element position)
    if position < next ∧ next ≤ start + total then
      let (rest, stop) ← elements element start total (count + 1) next
      return (v :: rest, stop)
    else
      throw (.failure { cause := .lengthMismatch total (position - start) (next - position) })
  else return ([], position)
termination_by start + total - position

section

variable (image : List UInt8) (buffered : Bool)

/-- Reads `n` bytes at a place. -/
def read [Host] (n position : Nat) : Attempt (List UInt8 × Nat) :=
  match (Source.readUpTo image position buffered).refusal? n with
  | some r => .error (.refused r)
  | none =>
    if position + n ≤ image.length then
      .ok (window image position (position + n), position + n)
    else
      .error (.failure { cause := .pastEnd ⟨n, image.length - position, position⟩ })

/-- The first place up to which the bytes from `position` on end with a terminator. -/
def terminated? (terminator : List UInt8) (position : Nat) : Option Nat :=
  (List.range' position (image.length - position + 1)).find? fun stop =>
    terminator.isSuffixOf (window image position stop)

/-- Reads up to and with a terminator. -/
def readUntil (terminator : List UInt8) (position : Nat) : Attempt (List UInt8 × Nat) :=
  match terminated? image terminator position with
  | some stop => .ok (window image position stop, stop)
  | none =>
    let available := image.length - position
    .error (.failure
      { cause := .pastEnd ⟨available + terminator.length, available, image.length⟩ })

/-- A run of bytes: up to the terminator if there is one and no size. -/
def rawBytes [Host] (a : Attributes) (bindings : Bindings) (position : Nat) :
    Attempt (List UInt8 × Nat) :=
  if a.size.isNone && !a.terminator.isEmpty then readUntil image a.terminator position
  else do
    let n ← sizeOf a bindings
    read image buffered n position

mutual

/-- Reads a field at a place. What is counted is how far the place has moved. -/
def decodeField [Host] (f : Field) (scope : Scope) (position : Nat) : Attempt (Value × Nat) :=
  match f with
  | ⟨attributes, members, itemType⟩ =>
    within attributes.name <|
      match attributes.kind.form with
      | .members => do
        let (parts, stop) ← decodeMembers members position position
        return (.members ⟨attributes, members, itemType⟩ (stop - position) parts, stop)
      | .number => do
        let size ← sizeOf attributes (scope.bindings image position)
        let (bytes, stop) ← read image buffered size position
        return (.number ⟨attributes, members, itemType⟩ (stop - position) (Value.numberOf bytes),
          stop)
      | .raw => do
        let bindings := scope.bindings image position
        let (bytes, stop) ← rawBytes image buffered attributes bindings position
        return (.raw ⟨attributes, members, itemType⟩ (stop - position) bytes, stop)
      | .elements => do
        let total ← sizeOf attributes (scope.bindings image position)
        let (items, stop) ← elements (decodeItem itemType (.run position)) position total 0 position
        return (.elements ⟨attributes, members, itemType⟩ (stop - position) items, stop)
termination_by structural f

/-- Reads an element of an array. -/
def decodeItem [Host] (f : Option Field) (scope : Scope) (position : Nat) : Attempt (Value × Nat) :=
  match f with
  | none => .error .noItemType
  | some f => decodeField f scope position
termination_by structural f

/-- Reads members of a struct that starts at `start`. -/
def decodeMembers [Host] (fs : List Field) (start position : Nat) : Attempt (List Value × Nat) :=
  match fs with
  | [] => .ok ([], position)
  | f :: rest => do
    let (v, next) ← decodeField f (.run start) position
    let (more, stop) ← decodeMembers rest start next
    return (v :: more, stop)
termination_by structural fs

end

/-- Reads a field behind its address. Only its own size may speak of what the caller has bound. -/
def decodeRoot [Host] (f : Field) (bindings : Bindings) : Attempt (Value × Nat) :=
  match f.address with
  | none => decodeField image buffered f (.caller bindings) 0
  | some address => do
    let (_, start) ← within f.name (read image buffered address.toNat 0)
    decodeField image buffered f (.caller bindings) start

/-- The value of a field in an image. -/
def decode [Host] (f : Field) (bindings : Bindings) : Attempt Value :=
  (decodeRoot image buffered f bindings).map Prod.fst

end

/-! ### Windows -/

theorem length_window {image : List UInt8} (start : Nat) {stop : Nat} (h : stop ≤ image.length) :
    (window image start stop).length = stop - start := by
  simp only [window, List.length_take, List.length_drop]
  omega

theorem window_self (image : List UInt8) (position : Nat) :
    window image position position = [] := by
  rw [window, Nat.sub_self, List.take_zero]

theorem window_append (image : List UInt8) {start middle stop : Nat} (hstart : start ≤ middle)
    (hstop : middle ≤ stop) :
    window image start middle ++ window image middle stop = window image start stop := by
  have hlength : stop - start = (middle - start) + (stop - middle) := by omega
  have hmiddle : start + (middle - start) = middle := by omega
  simp only [window]
  rw [hlength, List.take_add, List.drop_drop, hmiddle]

theorem window_append_drop (image : List UInt8) {start stop : Nat} (h : start ≤ stop) :
    window image start stop ++ image.drop stop = image.drop start := by
  have hstop : start + (stop - start) = stop := by omega
  calc
    window image start stop ++ image.drop stop =
        (image.drop start).take (stop - start) ++ (image.drop start).drop (stop - start) := by
      rw [window, List.drop_drop, hstop]
    _ = image.drop start := List.take_append_drop _ _

theorem window_add (image : List UInt8) (position n : Nat) :
    window image position (position + n) = (image.drop position).take n := by
  rw [window, Nat.add_sub_cancel_left]

/-- The bytes of a run are named like those of the image from its start on. -/
theorem bindBytes_window (image : List UInt8) (start position : Nat) :
    Expression.bindBytes (window image start position) =
      (Scope.run start).bindings image position := by
  have hcut : min Expression.maxArguments (position - start) =
      min position (start + Expression.maxArguments) - start := by omega
  have hwindow : (window image start position).take Expression.maxArguments =
      window image start (min position (start + Expression.maxArguments)) := by
    simp only [window, List.take_take, hcut]
  rw [Expression.bindBytes, hwindow, Scope.bindings]

/-! ### Agreement -/

section

variable (image : List UInt8) (buffered : Bool) {α β : Type}

/-- What a decoder does at a place of an image is what an attempt came to. -/
def Agrees (d : Decoder α) (position : Nat) (attempt : Attempt (α × Nat)) : Prop :=
  match attempt with
  | .ok (a, stop) =>
    position ≤ stop ∧ stop ≤ image.length ∧
      d (.readUpTo image position buffered) = (.ok a, .readUpTo image stop buffered)
  | .error e => (d (.readUpTo image position buffered)).1 = .error e

variable {image : List UInt8} {buffered : Bool} {position : Nat}

theorem agrees_pure (a : α) (h : position ≤ image.length) :
    Agrees image buffered (pure a) position (.ok (a, position)) :=
  ⟨le_rfl, h, rfl⟩

theorem agrees_throw (e : DecodeFault) :
    Agrees image buffered (throw e : Decoder α) position (.error e) :=
  rfl

theorem Agrees.bind {d : Decoder α} {next : α → Decoder β} {attempt : Attempt (α × Nat)}
    {more : α × Nat → Attempt (β × Nat)} (hd : Agrees image buffered d position attempt)
    (hnext : ∀ a stop, attempt = .ok (a, stop) → stop ≤ image.length →
      Agrees image buffered (next a) stop (more (a, stop))) :
    Agrees image buffered (d >>= next) position (attempt >>= more) := by
  cases attempt with
  | error e =>
    change ((d >>= next) (.readUpTo image position buffered)).1 = .error e
    have hd : (d (.readUpTo image position buffered)).1 = .error e := hd
    rw [Decoder.bind_run]
    cases hrun : d (.readUpTo image position buffered) with
    | mk result after =>
      rw [hrun] at hd
      cases hd
      rfl
  | ok found =>
    obtain ⟨a, middle⟩ := found
    obtain ⟨hmiddle, hinside, hrun⟩ := hd
    have hmore := hnext a middle rfl hinside
    change Agrees image buffered (d >>= next) position (more (a, middle))
    cases hfound : more (a, middle) with
    | error e =>
      rw [hfound] at hmore
      change ((d >>= next) (.readUpTo image position buffered)).1 = .error e
      rw [Decoder.bind_run, hrun]
      exact hmore
    | ok result =>
      rw [hfound] at hmore
      obtain ⟨hstop, hend, hlast⟩ := hmore
      refine ⟨hmiddle.trans hstop, hend, ?_⟩
      rw [Decoder.bind_run, hrun]
      exact hlast

theorem Agrees.within {d : Decoder α} {attempt : Attempt (α × Nat)}
    (hd : Agrees image buffered d position attempt) (name : String) :
    Agrees image buffered (Decoder.within name d) position (within name attempt) := by
  cases attempt with
  | error e =>
    have hd : (d (.readUpTo image position buffered)).1 = .error e := hd
    change (Decoder.within name d (.readUpTo image position buffered)).1 = .error (e.within name)
    rw [Decoder.within_run]
    cases hrun : d (.readUpTo image position buffered) with
    | mk result after =>
      rw [hrun] at hd
      cases hd
      rfl
  | ok found =>
    obtain ⟨hstop, hend, hrun⟩ := hd
    refine ⟨hstop, hend, ?_⟩
    rw [Decoder.within_run, hrun]

/-- The size of a field is found alike under the same names, and nothing is read for it. -/
theorem Agrees.bind_sizeOf [Host] {a : Attributes} {bindings : Bindings} {next : Nat → Decoder β}
    {more : Nat → Attempt (β × Nat)}
    (hnext : ∀ n, Agrees image buffered (next n) position (more n)) :
    Agrees image buffered (Decoder.sizeOf a bindings >>= next) position
      (sizeOf a bindings >>= more) := by
  unfold Decoder.sizeOf sizeOf
  cases a.resolvedSize bindings with
  | ok n => exact hnext n
  | error e =>
    dsimp only
    cases e.bare? with
    | some c => exact agrees_throw _
    | none => exact agrees_throw _

/-! ### Reading bytes -/

theorem agrees_read [Host] (n : Nat) (hinside : position ≤ image.length) :
    Agrees image buffered (Decoder.read n) position (read image buffered n position) := by
  have hsign : ¬ ((n : Int) < 0) := by omega
  have hchunk : ((image.drop position).take n).length = min n (image.length - position) := by
    rw [List.length_take, List.length_drop]
  unfold read
  cases hrefusal : (Source.readUpTo image position buffered).refusal? n with
  | some r =>
    change (Decoder.read n (.readUpTo image position buffered)).1 = _
    simp only [Decoder.read, Decoder.ofSource, Source.read, hrefusal]
    rfl
  | none =>
    dsimp only
    split
    next hn =>
      have hfull : ((image.drop position).take n).length = n := by omega
      refine ⟨Nat.le_add_right position n, hn, ?_⟩
      simp only [Decoder.read, Decoder.ofSource, Source.read, hrefusal, hsign, if_false,
        Int.toNat_natCast]
      simp only [Source.readUpTo, hfull, window_add, List.drop_drop, lt_irrefl, if_false,
        Nat.cast_add]
    next hn =>
      have hshort : image.length - position < n := by omega
      have hleft : ((image.drop position).take n).length = image.length - position := by omega
      change (Decoder.read n (.readUpTo image position buffered)).1 = _
      simp only [Decoder.read, Decoder.ofSource, Source.read, hrefusal, hsign, if_false,
        Int.toNat_natCast]
      simp only [Source.readUpTo, hleft, hshort, if_true]
      rfl

/-- The bytes that a scan takes are the shortest that end with the terminator. -/
theorem scan_eq_find? (ends taken bytes : List UInt8) :
    Source.scan ends taken bytes =
      ((List.range (bytes.length + 1)).find? fun n =>
        ends.isPrefixOf ((bytes.take n).reverse ++ taken)).map fun n =>
          ((bytes.take n).reverse ++ taken, bytes.drop n) := by
  induction bytes generalizing taken with
  | nil =>
    cases hends : ends.isPrefixOf taken with
    | true => simp [Source.scan, hends]
    | false => simp [Source.scan, hends]
  | cons b rest ih =>
    have hrange : List.range ((b :: rest).length + 1) =
        0 :: (List.range (rest.length + 1)).map Nat.succ := List.range_succ_eq_map
    rw [hrange, Source.scan]
    cases hends : ends.isPrefixOf taken with
    | true => simp [hends]
    | false =>
      rw [if_neg (by simp), ih (b :: taken), List.find?_cons_of_neg (by simp [hends]),
        List.find?_map, Option.map_map]
      simp [Function.comp_def]

/-- The search for a terminator counts from the place where the reading starts. -/
theorem terminated?_eq (image terminator : List UInt8) (position : Nat) :
    terminated? image terminator position =
      ((List.range ((image.drop position).length + 1)).find? fun n =>
        terminator.reverse.isPrefixOf (((image.drop position).take n).reverse ++ [])).map
          (position + ·) := by
  rw [terminated?, List.range'_eq_map_range, List.find?_map, List.length_drop]
  simp only [Function.comp_def, window_add, List.isSuffixOf, List.append_nil]

theorem agrees_readUntil (terminator : List UInt8) (hinside : position ≤ image.length) :
    Agrees image buffered (Decoder.readUntil terminator) position
      (readUntil image terminator position) := by
  have hscan := scan_eq_find? terminator.reverse [] (image.drop position)
  have hplace := terminated?_eq image terminator position
  generalize hfind : (List.range ((image.drop position).length + 1)).find? (fun n =>
    terminator.reverse.isPrefixOf (((image.drop position).take n).reverse ++ [])) = found
    at hscan hplace
  unfold readUntil
  rw [hplace]
  cases found with
  | none =>
    have hend : (position : Int) + ((image.length - position : Nat) : Int) = image.length := by
      omega
    change (Decoder.readUntil terminator (.readUpTo image position buffered)).1 = _
    simp only [Decoder.readUntil, Decoder.ofSource, Source.readUntil, Source.readUpTo, hscan,
      Option.map_none, List.length_drop, hend]
    rfl
  | some n =>
    have hn : n ≤ image.length - position := by
      have hmem := List.mem_range.mp (List.mem_of_find?_eq_some hfind)
      rw [List.length_drop] at hmem
      omega
    have hlength : ((image.drop position).take n).length = n := by
      simp only [List.length_take, List.length_drop]
      omega
    have hstop : position + n ≤ image.length := by omega
    refine ⟨Nat.le_add_right position n, hstop, ?_⟩
    simp only [Decoder.readUntil, Decoder.ofSource, Source.readUntil, Source.readUpTo, hscan,
      Option.map_some, List.append_nil, List.reverse_reverse, List.length_reverse, hlength,
      window_add, List.drop_drop, Nat.cast_add]

theorem agrees_rawBytes [Host] (a : Attributes) (bindings : Bindings)
    (hinside : position ≤ image.length) :
    Agrees image buffered (Decoder.rawBytes a bindings) position
      (rawBytes image buffered a bindings position) := by
  unfold Decoder.rawBytes rawBytes
  split
  next => exact agrees_readUntil a.terminator hinside
  next =>
    apply Agrees.bind_sizeOf
    intro n
    exact agrees_read n hinside

/-! ### Reading fields -/

/-- What was taken between two places is the window between them. -/
theorem Agrees.taken {d : Decoder α} {P : List UInt8 → α → Prop} {a : α} {stop : Nat}
    (h : Agrees image buffered d position (.ok (a, stop))) (htakes : d.Takes P) :
    P (window image position stop) a := by
  obtain ⟨hstop, _, hrun⟩ := h
  obtain ⟨used, hrest, _, hP⟩ := htakes _ _ _ hrun
  have hused : used = window image position stop := by
    have hsplit : used ++ image.drop stop = window image position stop ++ image.drop stop := by
      rw [window_append_drop image hstop]
      exact hrest.symm
    exact List.append_cancel_right hsplit
  rwa [hused] at hP

/-- The induction is on the rounds that the decoder may still take: as many as there are bytes to
fill. The run of the decoder is the window from the start of the array on. -/
theorem agrees_elements {item : Field} {element : Bindings → Decoder Value}
    {inPlace : Nat → Attempt (Value × Nat)} {start : Nat}
    (htakes : ∀ bindings, (element bindings).Takes (ReadsBack item))
    (helement : ∀ position, position ≤ image.length →
      Agrees image buffered (element (Expression.bindBytes (window image start position))) position
        (inPlace position))
    (total fuel count position : Nat) (hstart : start ≤ position)
    (hinside : position ≤ image.length) (hfuel : start + total ≤ position + fuel) :
    Agrees image buffered
      (Decoder.elements element total fuel count (window image start position)) position
      (elements inPlace start total count position) := by
  induction fuel generalizing count position with
  | zero =>
    have hfull : ¬ (position < start + total) := by omega
    rw [elements, if_neg hfull]
    exact agrees_pure [] hinside
  | succ fuel ih =>
    have hlength : (window image start position).length = position - start :=
      length_window start hinside
    rw [elements]
    unfold Decoder.elements
    by_cases hopen : position < start + total
    · have hroom : (window image start position).length < total := by omega
      rw [if_pos hopen, if_pos hroom]
      have hfirst := (helement position hinside).within (Located.index count)
      refine hfirst.bind fun v next hfound hend => ?_
      rw [hfound] at hfirst
      obtain ⟨hencode, hexact, _⟩ := hfirst.taken ((htakes _).within _)
      have hconsumed : v.consumed = next - position := by
        rw [hexact.consumed, hencode, length_window position hend]
      have hnext : position ≤ next := hfirst.1
      rw [hconsumed, hlength]
      dsimp only
      by_cases hfits : position < next ∧ next ≤ start + total
      · have hkept : ¬ (next - position = 0 ∨ total < position - start + (next - position)) := by
          omega
        have hrun : window image start position ++ v.encode = window image start next := by
          rw [hencode, window_append image hstart hnext]
        rw [if_pos hfits, if_neg (by simpa using hkept), hrun]
        have hmore := ih (count + 1) next (hstart.trans hnext) hend (by omega)
        refine hmore.bind fun rest stop _ hstop => ?_
        exact agrees_pure (v :: rest) hstop
      · have hrefused : next - position = 0 ∨ total < position - start + (next - position) := by
          omega
        rw [if_neg hfits, if_pos (by simpa using hrefused)]
        exact agrees_throw _
    · have hfull : ¬ ((window image start position).length < total) := by omega
      rw [if_neg hopen, if_neg hfull]
      exact agrees_pure [] hinside

theorem agrees_decodeMembers [Host] (members : List Field)
    (hmembers : ∀ m ∈ members, ∀ scope position, position ≤ image.length →
      Agrees image buffered (Image.decodeField m (scope.bindings image position)) position
        (decodeField image buffered m scope position))
    (start position : Nat) (hstart : start ≤ position) (hinside : position ≤ image.length) :
    Agrees image buffered (Image.decodeMembers members (window image start position)) position
      (decodeMembers image buffered members start position) := by
  induction members generalizing position with
  | nil =>
    rw [decodeMembers]
    unfold Image.decodeMembers
    exact agrees_pure [] hinside
  | cons m rest ih =>
    rw [decodeMembers]
    unfold Image.decodeMembers
    rw [bindBytes_window]
    have hfirst := hmembers m List.mem_cons_self (.run start) position hinside
    refine hfirst.bind fun v next hfound hend => ?_
    rw [hfound] at hfirst
    obtain ⟨hencode, _⟩ := hfirst.taken (decodeField_takes m _)
    have hnext : position ≤ next := hfirst.1
    have hrun : window image start position ++ v.encode = window image start next := by
      rw [hencode, window_append image hstart hnext]
    rw [hrun]
    have hmore := ih (fun n hn => hmembers n (List.mem_cons_of_mem m hn)) next
      (hstart.trans hnext) hend
    refine hmore.bind fun more stop _ hstop => ?_
    exact agrees_pure (v :: more) hstop

theorem agrees_decodeItem [Host] (itemType : Option Field)
    (hitem : ∀ item ∈ itemType, ∀ scope position, position ≤ image.length →
      Agrees image buffered (Image.decodeField item (scope.bindings image position)) position
        (decodeField image buffered item scope position))
    (start : Nat) (hinside : position ≤ image.length) :
    Agrees image buffered
      (Image.decodeItem itemType (Expression.bindBytes (window image start position))) position
      (decodeItem image buffered itemType (.run start) position) := by
  cases itemType with
  | none => exact agrees_throw _
  | some item =>
    rw [bindBytes_window]
    exact hitem item rfl (.run start) position hinside

/-- The induction is on the field: members and elements have scopes of their own, so that the
hypothesis has to hold for every scope and place. -/
theorem agrees_decodeField [Host] (f : Field) :
    ∀ scope position, position ≤ image.length →
      Agrees image buffered (Image.decodeField f (scope.bindings image position)) position
        (decodeField image buffered f scope position) := by
  induction f using Field.tree_induction with
  | step attributes members itemType ihMembers ihItem =>
    intro scope position hinside
    rw [decodeField]
    unfold Image.decodeField
    apply Agrees.within
    cases attributes.kind.form with
    | members =>
      have hmembers := agrees_decodeMembers members ihMembers position position le_rfl hinside
      rw [window_self] at hmembers
      refine hmembers.bind fun parts stop hfound hend => ?_
      rw [hfound] at hmembers
      obtain ⟨hencode, _⟩ := hmembers.taken (decodeMembers_takes members
        (fun m _ => decodeField_takes m) [])
      rw [hencode, length_window position hend]
      exact agrees_pure _ hend
    | number =>
      apply Agrees.bind_sizeOf
      intro size
      have hread : Agrees image buffered (Decoder.read size) position
          (read image buffered size position) := agrees_read size hinside
      refine hread.bind fun bytes stop hfound hend => ?_
      rw [hfound] at hread
      obtain ⟨hbytes, hsize⟩ := hread.taken (Decoder.takes_read size)
      rw [← hsize, ← hbytes, length_window position hend]
      exact agrees_pure _ hend
    | raw =>
      have hread : Agrees image buffered
          (Decoder.rawBytes attributes (scope.bindings image position)) position
          (rawBytes image buffered attributes (scope.bindings image position) position) :=
        agrees_rawBytes attributes (scope.bindings image position) hinside
      refine hread.bind fun bytes stop hfound hend => ?_
      rw [hfound] at hread
      have hbytes := hread.taken (Decoder.takes_rawBytes attributes _)
      rw [← hbytes, length_window position hend]
      exact agrees_pure _ hend
    | elements =>
      apply Agrees.bind_sizeOf
      intro total
      have hitems := agrees_elements (decodeItem_takes itemType)
        (fun place => agrees_decodeItem itemType ihItem position) total total 0 position
        le_rfl hinside le_rfl
      rw [window_self] at hitems
      refine hitems.bind fun items stop hfound hend => ?_
      rw [hfound] at hitems
      obtain ⟨hencode, _⟩ := hitems.taken
        (Decoder.takes_elements _ (decodeItem_takes itemType) total total 0 [])
      rw [hencode, length_window position hend]
      exact agrees_pure _ hend

/-- What comes of a decoder that agrees with an attempt is what came of the attempt. -/
theorem Agrees.result {d : Decoder α} {attempt : Attempt (α × Nat)}
    (h : Agrees image buffered d position attempt) :
    (d (.readUpTo image position buffered)).1 = attempt.map Prod.fst := by
  cases attempt with
  | error e => exact h
  | ok found =>
    obtain ⟨_, _, hrun⟩ := h
    rw [hrun]
    rfl

theorem agrees_decodeRoot [Host] (f : Field) (bindings : Bindings)
    (haddress : 0 ≤ f.address.getD 0) :
    Agrees image buffered (Image.decode f bindings) 0
      (decodeRoot image buffered f bindings) := by
  have hfield : ∀ start, start ≤ image.length →
      Agrees image buffered (Image.decodeField f bindings) start
        (decodeField image buffered f (.caller bindings) start) :=
    agrees_decodeField f (.caller bindings)
  unfold Image.decode decodeRoot
  cases hroot : f.address with
  | none => exact hfield 0 (Nat.zero_le _)
  | some address =>
    rw [hroot] at haddress
    obtain ⟨n, rfl⟩ := Int.eq_ofNat_of_zero_le haddress
    have hread : Agrees image buffered (Decoder.read n) 0 (read image buffered n 0) :=
      agrees_read n (Nat.zero_le image.length)
    have hskip := hread.within f.name
    simp only [Decoder.discard_eq_bind, bind_assoc, pure_bind]
    refine hskip.bind fun _ start _ hstart => ?_
    exact hfield start hstart

end

end InPlace

/-- Sizes that are evaluated over the bytes read so far, collected from the encodings of values,
come out as over the image itself: a field decodes to the value, or fails with the fault, that
reading in place gives. -/
theorem decode_eq_inPlace [Host] (f : Field) (bindings : Bindings) (image : List UInt8)
    (buffered : Bool)
    (haddress : 0 ≤ f.address.getD 0) :
    (decode f bindings { rest := image, buffered := buffered }).1 =
      InPlace.decode image buffered f bindings := by
  have hagrees : InPlace.Agrees image buffered (decode f bindings) 0
      (InPlace.decodeRoot image buffered f bindings) :=
    InPlace.agrees_decodeRoot f bindings haddress
  exact hagrees.result

/-- A text behind its length. -/
def sampleEntry : Field :=
  { kind := .struct
    members :=
      [{ kind := .integer, name := "LENGTH", size := some "1" },
       { kind := .undefined, name := "BODY", size := some "ARG_00" }] }

/-- Texts behind the number of bytes that they take together. -/
def sampleList : Field :=
  { kind := .struct, name := "LIST", address := some 1
    members :=
      [{ kind := .integer, name := "TOTAL", size := some "1" },
       { kind := .array, name := "TEXTS", size := some "ARG_00", itemType := some sampleEntry }] }

def sampleListValue : Value :=
  let entry := fun b =>
    Value.members sampleEntry 2
      [.number { kind := .integer, name := "LENGTH", size := some "1" } 1 1,
       .raw { kind := .undefined, name := "BODY", size := some "ARG_00" } 1 [b]]
  .members sampleList 5
    [.number { kind := .integer, name := "TOTAL", size := some "1" } 1 4,
     .elements
      { kind := .array, name := "TEXTS", size := some "ARG_00", itemType := some sampleEntry } 4
      [entry 7, entry 8]]

/-- The list in an image, whatever the caller has bound, and one whose second text is longer than
the image. -/
theorem sampleList_inPlace :
    (decode sampleList [("ARG_00", 99)] { rest := [9, 4, 1, 7, 1, 8, 5] }).1 =
        .ok sampleListValue ∧
      InPlace.decode [9, 4, 1, 7, 1, 8, 5] false sampleList [("ARG_00", 99)] =
        .ok sampleListValue ∧
      InPlace.decode [9, 4, 1, 7, 3, 8, 5] true sampleList [] =
        .error (.failure ⟨.pastEnd ⟨3, 2, 5⟩, ["LIST", "TEXTS", "[1]", "BODY"]⟩) := by
  have haddress : 0 ≤ sampleList.address.getD 0 := by decide
  have hvalue : (decode sampleList [("ARG_00", 99)] { rest := [9, 4, 1, 7, 1, 8, 5] }).1 =
      .ok sampleListValue := rfl
  have hfault : (decode sampleList [] { rest := [9, 4, 1, 7, 3, 8, 5], buffered := true }).1 =
      .error (.failure ⟨.pastEnd ⟨3, 2, 5⟩, ["LIST", "TEXTS", "[1]", "BODY"]⟩) := rfl
  have hread := decode_eq_inPlace sampleList [("ARG_00", 99)] [9, 4, 1, 7, 1, 8, 5] false haddress
  have hfailed := decode_eq_inPlace sampleList [] [9, 4, 1, 7, 3, 8, 5] true haddress
  exact ⟨hvalue, hread.symm.trans hvalue, hfailed.symm.trans hfault⟩

end GameAtlas.Image
