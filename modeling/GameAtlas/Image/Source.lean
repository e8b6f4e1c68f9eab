import GameAtlas.Host

/-!
Sources: bytes that are read forward. Every call returns the source behind it, also one that fails.
A negative number of bytes asks for all that are left, and the position counts what was asked for.
A buffered source makes room for all that it is asked for before it reads more than it has.
-/

namespace GameAtlas.Image

/-- A source ended too early. -/
structure PastEnd where
  needed : Nat
  available : Nat
  position : Int
deriving DecidableEq, Repr

def PastEnd.message (p : PastEnd) : String :=
  s!"Source too short: need {p.needed} bytes at position {p.position}, {p.available} available"

/-- A number of bytes that cannot be asked for. -/
inductive Refusal where
  /-- It is no size. -/
  | tooMany
  | negative
  /-- No run of bytes is that long. -/
  | tooLong
  /-- There is no room for them. -/
  | noRoom
deriving DecidableEq, Repr

def Refusal.message : Refusal → String
  | .tooMany => "cannot fit 'int' into an index-sized integer"
  | .negative => "read length must be non-negative or -1"
  | .tooLong => "byte string is too large"
  | .noRoom => ""

inductive ReadFault where
  | pastEnd (p : PastEnd)
  | refused (r : Refusal)
deriving DecidableEq, Repr

/-- The bytes that are left and the position in front of them. A buffered source takes no negative
number of bytes but -1. -/
structure Source where
  rest : List UInt8
  position : Int := 0
  buffered : Bool := false
deriving DecidableEq, Repr

namespace Source

/-- A source over bytes. -/
def ofBytes (bs : List UInt8) : Source := { rest := bs }

/-- A source over the bytes of a file. -/
def ofFile (bs : List UInt8) : Source := { rest := bs, buffered := true }

/-- Sizes are below this one. -/
def sizeLimit : Nat := Nat.pow 2 63

/-- The length of the longest run of bytes: a run takes 33 bytes more than it holds. -/
def longestRun : Nat := sizeLimit - 1 - 33

variable [Host]

/-- Why a buffered source cannot be asked for a number of bytes. -/
def bufferRefusal? (available : List UInt8) (n : Int) : Option Refusal :=
  if n < -1 then some .negative
  else if n ≤ (available.length : Int) then none
  else if (longestRun : Int) < n then some .tooLong
  else if Host.hasRoom n then none
  else some .noRoom

/-- Why a number of bytes cannot be asked for. -/
def refusal? (s : Source) (n : Int) : Option Refusal :=
  if (sizeLimit : Int) ≤ n || n < -(sizeLimit : Int) then some .tooMany
  else if s.buffered then bufferRefusal? s.rest n
  else none

/-- Reads `n` bytes. What is there is consumed even if it is too little. -/
def read (s : Source) (n : Int) : Except ReadFault (List UInt8) × Source :=
  match s.refusal? n with
  | some r => (.error (.refused r), s)
  | none =>
    if n < 0 then (.ok s.rest, { s with rest := [], position := s.position + n })
    else
      let chunk := s.rest.take n.toNat
      let after := { s with
        rest := s.rest.drop n.toNat
        position := s.position + chunk.length }
      if chunk.length < n.toNat then
        (.error (.pastEnd ⟨n.toNat, chunk.length, s.position⟩), after)
      else (.ok chunk, after)

def byte (s : Source) : Except ReadFault UInt8 × Source :=
  match s.read 1 with
  | (.ok chunk, after) => (.ok (chunk.headD 0), after)
  | (.error e, after) => (.error e, after)

def skip (s : Source) (n : Int) : Except ReadFault Unit × Source :=
  match s.read n with
  | (.ok _, after) => (.ok (), after)
  | (.error e, after) => (.error e, after)

/-- Takes bytes onto `taken`, the latest first, until it starts with `ends`. -/
def scan (ends taken : List UInt8) : List UInt8 → Option (List UInt8 × List UInt8)
  | [] => if ends.isPrefixOf taken then some (taken, []) else none
  | b :: rest =>
    if ends.isPrefixOf taken then some (taken, b :: rest) else scan ends (b :: taken) rest

/-- Reads up to and with a terminator. Without one all bytes are consumed. -/
def readUntil (s : Source) (terminator : List UInt8) : Except ReadFault (List UInt8) × Source :=
  match scan terminator.reverse [] s.rest with
  | some (taken, rest) =>
    (.ok taken.reverse, { s with rest := rest, position := s.position + taken.length })
  | none =>
    let available := s.rest.length
    let stop := s.position + available
    (.error (.pastEnd ⟨available + terminator.length, available, stop⟩),
      { s with rest := [], position := stop })

def exhausted (s : Source) : Bool := s.rest.isEmpty

end Source

end GameAtlas.Image
