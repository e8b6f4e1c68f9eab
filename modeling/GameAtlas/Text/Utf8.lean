/-!
UTF-8 and ASCII read from bytes: strictly, with the place and cause of the first fault, or with
every fault replaced by the replacement character.
-/

namespace GameAtlas.Text

/-- Why bytes are not UTF-8. -/
inductive Utf8Cause where
  | invalidStart
  | invalidContinuation
  | unexpectedEnd
deriving DecidableEq, Repr

def Utf8Cause.message : Utf8Cause → String
  | .invalidStart => "invalid start byte"
  | .invalidContinuation => "invalid continuation byte"
  | .unexpectedEnd => "unexpected end of data"

/-- What stands at the head of a byte string: a character or a fault, and the bytes it takes. -/
inductive Utf8Step where
  | char (c : Char) (length : Nat)
  | fault (cause : Utf8Cause) (length : Nat)

def isContinuation (b : UInt8) : Bool := 0x80 ≤ b && b < 0xC0

/-- The second bytes that a start byte admits: no overlong form, no surrogate, nothing above
U+10FFFF. -/
def admitsSecond (start second : UInt8) : Bool :=
  isContinuation second &&
    !(start == 0xE0 && second < 0xA0) && !(start == 0xED && 0xA0 ≤ second) &&
    !(start == 0xF0 && second < 0x90) && !(start == 0xF4 && 0x90 ≤ second)

/-- The length of the sequence that a byte starts. -/
def sequenceLength? (b : UInt8) : Option Nat :=
  if b < 0x80 then some 1
  else if 0xC2 ≤ b && b < 0xE0 then some 2
  else if 0xE0 ≤ b && b < 0xF0 then some 3
  else if 0xF0 ≤ b && b < 0xF5 then some 4
  else none

def payload (b : UInt8) : Nat := b.toNat % 64

/-- Reads the sequence that starts with `b`. -/
def readSequence (b : UInt8) (rest : List UInt8) : Utf8Step :=
  match sequenceLength? b with
  | none => .fault .invalidStart 1
  | some 1 => .char (Char.ofNat b.toNat) 1
  | some n =>
    match rest with
    | [] => .fault .unexpectedEnd 1
    | second :: more =>
      if !admitsSecond b second then .fault .invalidContinuation 1
      else if n = 2 then .char (Char.ofNat (b.toNat % 32 * 64 + payload second)) 2
      else
        match more with
        | [] => .fault .unexpectedEnd 2
        | third :: more =>
          if !isContinuation third then .fault .invalidContinuation 2
          else if n = 3 then
            .char (Char.ofNat ((b.toNat % 16 * 64 + payload second) * 64 + payload third)) 3
          else
            match more with
            | [] => .fault .unexpectedEnd 3
            | fourth :: _ =>
              if !isContinuation fourth then .fault .invalidContinuation 3
              else
                .char (Char.ofNat
                  (((b.toNat % 8 * 64 + payload second) * 64 + payload third) * 64
                    + payload fourth)) 4

/-- Every fault becomes one replacement character. `skip` bytes were taken already. -/
def lossyFrom (skip : Nat) : List UInt8 → List Char
  | [] => []
  | b :: rest =>
    match skip with
    | k + 1 => lossyFrom k rest
    | 0 =>
      match readSequence b rest with
      | .char c length => c :: lossyFrom (length - 1) rest
      | .fault _ length => '\uFFFD' :: lossyFrom (length - 1) rest

def utf8Lossy (bs : List UInt8) : String := String.ofList (lossyFrom 0 bs)

/-- Bytes above 0x7F become replacement characters. -/
def asciiLossy (bs : List UInt8) : String :=
  String.ofList (bs.map fun b => if b < 0x80 then Char.ofNat b.toNat else '\uFFFD')

/-- A fault of strict reading: the bytes from `start` on that do not fit. -/
structure Utf8Fault where
  start : Nat
  bytes : List UInt8
  cause : Utf8Cause
deriving DecidableEq, Repr

/-- Where a fault lies, which bytes it covers and why. -/
def Utf8Fault.message (fault : Utf8Fault) : String :=
  let place :=
    match fault.bytes with
    | [b] => s!"byte 0x{String.ofList (Nat.toDigits 16 b.toNat)} in position {fault.start}"
    | bytes => s!"bytes in position {fault.start}-{fault.start + bytes.length - 1}"
  s!"'utf-8' codec can't decode {place}: {fault.cause.message}"

/-- Reads one chunk onto `acc`, the latest character first. An unfinished sequence at its end is
left over. `skip` bytes were taken already. -/
def readChunk (position skip : Nat) (acc : List Char) :
    List UInt8 → Except Utf8Fault (List Char × List UInt8)
  | [] => .ok (acc, [])
  | b :: rest =>
    match skip with
    | k + 1 => readChunk (position + 1) k acc rest
    | 0 =>
      match readSequence b rest with
      | .char c length => readChunk (position + 1) (length - 1) (c :: acc) rest
      | .fault .unexpectedEnd _ => .ok (acc, b :: rest)
      | .fault cause length => .error ⟨position, (b :: rest).take length, cause⟩

/-- Every line end becomes a line feed. -/
def unifyLineEnds : List Char → List Char
  | [] => []
  | '\r' :: '\n' :: rest => '\n' :: unifyLineEnds rest
  | '\r' :: rest => '\n' :: unifyLineEnds rest
  | c :: rest => c :: unifyLineEnds rest

end GameAtlas.Text
