/-!
What the program runs on. A host may bound the decimal digits of the integers that are read from
texts and written as texts, and the room that there is for bytes. Numerals whose base is a power of
two are not bounded.
-/

namespace GameAtlas

/-- The bounds of a host, none where there is nothing to keep to. -/
class Host where
  /-- The most decimal digits of an integer that is read or written. -/
  digits : Option Nat
  /-- There is room for runs of bytes that are shorter than this. -/
  room : Option Nat

/-- An integer with more decimal digits than the host reads or writes. -/
inductive DigitFault where
  | reading (limit digits : Nat)
  | writing (limit : Nat)
deriving DecidableEq, Repr

def DigitFault.message : DigitFault → String
  | .reading limit digits =>
    s!"Exceeds the limit ({limit} digits) for integer string conversion: value has {digits} " ++
      "digits; use sys.set_int_max_str_digits() to increase the limit"
  | .writing limit =>
    s!"Exceeds the limit ({limit} digits) for integer string conversion; " ++
      "use sys.set_int_max_str_digits() to increase the limit"

namespace Host

/-- The decimal digits that are read and written unless something else is asked for. -/
def usualDigits : Nat := 4300

/-- The host that most run on, which is meant where no other is spoken of. There is room for all
that they ask for. -/
instance (priority := low) usual : Host := ⟨some usualDigits, none⟩

/-- Whether a number has so many decimal digits at most. -/
def fitsDigits : Nat → Nat → Bool
  | 0, _ => false
  | limit + 1, n => n < 10 || fitsDigits limit (n / 10)

section

variable [Host]

/-- Why a numeral of so many decimal digits is not read. -/
def readingFault? (count : Nat) : Option DigitFault :=
  match digits with
  | some limit => if limit < count then some (.reading limit count) else none
  | none => none

/-- Where a numeral is read, so is every shorter one. -/
theorem readingFault?_of_le {count more : Nat} (h : count ≤ more)
    (hmore : readingFault? more = none) : readingFault? count = none := by
  unfold readingFault? at hmore ⊢
  split
  · next limit heq =>
    rw [heq] at hmore
    dsimp only at hmore
    split at hmore
    · cases hmore
    · next hle => exact if_neg fun hlt => hle (Nat.lt_of_lt_of_le hlt h)
  · rfl

@[simp] theorem readingFault?_zero : readingFault? 0 = none := by
  unfold readingFault?
  split
  · next limit _ => exact if_neg (Nat.not_lt_zero limit)
  · rfl

/-- Why an integer is not written in decimal digits. -/
def writingFault? (n : Int) : Option DigitFault :=
  match digits with
  | some limit => if fitsDigits limit n.natAbs then none else some (.writing limit)
  | none => none

/-- Whether there is room for so many bytes. -/
def hasRoom (n : Int) : Bool :=
  match room with
  | some limit => n < limit
  | none => true

end

end Host

end GameAtlas
