import GameAtlas.Decimal.Reading
import GameAtlas.Text.CaseMapping
import GameAtlas.Yaml.Datum
import GameAtlas.Yaml.Node

/-!
Values of scalars by their tags. A tag that fits no scalar leaves the text as it is; a known tag
whose text does not fit is a fault.
-/

namespace GameAtlas.Yaml

/-- Why a node has no value of the kind that is asked for. -/
inductive Misfit where
  | badNumeral (base : Nat) (text : String)
  | digits (fault : DigitFault)
  | badReal (text : String)
  | badDate (fault : CalendarFault)
  | notScalar (kind : String)
  | notInteger (shown : String)
  | notBool (shown : String)
deriving DecidableEq, Repr

/-- Faults of conversion. A misfit is a complaint about the document; the others are not looked
for by those who ask for a value. -/
inductive ConversionFault where
  | misfit (m : Misfit)
  | emptyNumeral
  | unknownTruth (text : String)
  | notTimestamp
  | unitTooLarge
  | unhashable (kind : String)
deriving DecidableEq, Repr

/-- As many characters of a text that is no integer are shown, quotes included. -/
def shownNumeral : Nat := 200

def Misfit.message : Misfit → String
  | .badNumeral base text =>
    s!"invalid literal for int() with base {base}: " ++
      ((Text.quoted text).take shownNumeral).toString
  | .digits fault => fault.message
  | .badReal text => s!"could not convert string to float: {Text.quoted text}"
  | .badDate fault => fault.message
  | .notScalar kind => s!"expected a scalar, got a {kind}"
  | .notInteger shown => s!"expected an integer, got {shown}"
  | .notBool shown => s!"expected a boolean, got {shown}"

def ConversionFault.message : ConversionFault → String
  | .misfit m => m.message
  | .emptyNumeral => "string index out of range"
  | .unknownTruth text => text
  | .notTimestamp => "'NoneType' object has no attribute 'groupdict'"
  | .unitTooLarge => "int too large to convert to float"
  | .unhashable kind => s!"unhashable type: '{kind}'"

abbrev Conversion := Except ConversionFault

def misfit (m : Misfit) : Conversion α := .error (.misfit m)

/-- Reads a numeral in a base. -/
def numeral (base : Nat) (cs : List Char) : Conversion Int :=
  match Text.readSigned? (Text.readMagnitude? base) cs with
  | some n => .ok n
  | none => misfit (.badNumeral base (String.ofList cs))

variable [Host]

/-- Reads a decimal numeral. The digits are counted first. -/
def decimalNumeral (cs : List Char) : Conversion Int :=
  match Host.readingFault? (Text.signedDigitCount cs) with
  | some fault => misfit (.digits fault)
  | none => numeral 10 cs

def realNumeral (cs : List Char) : Conversion Float :=
  match Decimal.readFloat? (String.ofList cs) with
  | some x => .ok x
  | none => misfit (.badReal (String.ofList cs))

/-- Splits at colons. -/
def splitColons (cs : List Char) : List (List Char) := cs.splitOn ':'

def withoutBars (s : String) : List Char := s.toList.filter (· != '_')

/-- An integer: binary, octal, decimal, hexadecimal or in sixtieths, underscores anywhere. -/
def integerOf (text : String) : Conversion Int :=
  match withoutBars text with
  | [] => .error .emptyNumeral
  | c :: rest => do
    let negative := c == '-'
    let cs := if c == '-' || c == '+' then rest else c :: rest
    let magnitude ←
      match cs with
      | ['0'] => pure 0
      | '0' :: 'b' :: digits => numeral 2 digits
      | '0' :: 'x' :: digits => numeral 16 digits
      | '0' :: _ => numeral 8 cs
      | [] => .error .emptyNumeral
      | _ =>
        if cs.contains ':' then do
          let digits ← (splitColons cs).mapM decimalNumeral
          pure (digits.foldl (fun n d => n * 60 + d) 0)
        else decimalNumeral cs
    return if negative then -magnitude else magnitude

/-- The sum of digits in base sixty, the lowest first. `unit` is what the first of them counts. -/
def sumSixtieths (sum : Float) (unit : Nat) : List Float → Conversion Float
  | [] => .ok sum
  | d :: rest =>
    match Binary64.ofInt? unit with
    | some x => sumSixtieths (sum + d * x) (unit * 60) rest
    | none => .error .unitTooLarge

/-- A double: decimal, infinite, none, or in sixtieths. -/
def realOf (text : String) : Conversion Datum :=
  match (Text.toLower (String.ofList (withoutBars text))).toList with
  | [] => .error .emptyNumeral
  | c :: rest => do
    let sign : Float := if c == '-' then -1 else 1
    let cs := if c == '-' || c == '+' then rest else c :: rest
    if cs = ".inf".toList then return .real (sign * Binary64.infinity false)
    else if cs = ".nan".toList then return .notANumber
    else if cs.contains ':' then
      let digits ← (splitColons cs).mapM realNumeral
      return .real (sign * (← sumSixtieths 0 1 digits.reverse))
    else return .real (sign * (← realNumeral cs))

def boolOf (text : String) : Conversion Bool :=
  let word := Text.toLower text
  if ["yes", "true", "on"].contains word then .ok true
  else if ["no", "false", "off"].contains word then .ok false
  else .error (.unknownTruth word)

/-- Reads from `least` to `most` digits. -/
def digitsBetween? (least most : Nat) (cs : List Char) : Option (Nat × List Char) :=
  let digits := (cs.take most).takeWhile Char.isDigit
  if digits.length < least then none
  else some (Decimal.digitsValue digits, cs.drop digits.length)

def expect? (c : Char) : List Char → Option (List Char)
  | d :: rest => if c == d then some rest else none
  | [] => none

/-- The zone of a moment: nothing, `Z`, or signed hours with optional minutes. -/
def zone? (cs : List Char) : Option (Option Int) :=
  match cs with
  | [] => some none
  | _ =>
    match cs.dropWhile fun c => c == ' ' || c == '\t' with
    | ['Z'] => some (some 0)
    | c :: rest =>
      if c == '+' || c == '-' then do
        let (hours, rest) ← digitsBetween? 1 2 rest
        let minutes ←
          match rest with
          | [] => some 0
          | _ => do
            let (minutes, rest) ← digitsBetween? 2 2 (← expect? ':' rest)
            if rest.isEmpty then some minutes else none
        let span : Int := hours * 60 + minutes
        some (some (if c == '-' then -span else span))
      else none
    | [] => none

/-- The first six digits of a fraction as microseconds. -/
def microseconds (digits : List Char) : Nat :=
  Decimal.digitsValue (digits.take 6 ++ List.replicate (6 - digits.length) '0')

/-- The clock of a moment, behind its date. -/
def clock? (date : Date) (cs : List Char) : Option Moment := do
  let (hour, cs) ← digitsBetween? 1 2 cs
  let (minute, cs) ← digitsBetween? 2 2 (← expect? ':' cs)
  let (second, cs) ← digitsBetween? 2 2 (← expect? ':' cs)
  let (fraction, cs) :=
    match cs with
    | '.' :: rest => (rest.takeWhile Char.isDigit, rest.dropWhile Char.isDigit)
    | _ => ([], cs)
  let zone ← zone? cs
  some ⟨date, hour, minute, second, microseconds fraction, zone⟩

/-- A date, or a date and a clock with `T` or blanks between them. -/
def dateOrMoment? (cs : List Char) : Option (Date ⊕ Moment) := do
  let (year, cs) ← digitsBetween? 4 4 cs
  let (month, cs) ← digitsBetween? 1 2 (← expect? '-' cs)
  let (day, cs) ← digitsBetween? 1 2 (← expect? '-' cs)
  let date : Date := ⟨year, month, day⟩
  match cs with
  | [] => some (.inl date)
  | c :: rest =>
    if c == 'T' || c == 't' then (clock? date rest).map .inr
    else if c == ' ' || c == '\t' then
      (clock? date (rest.dropWhile fun c => c == ' ' || c == '\t')).map .inr
    else none

def timestampOf (text : String) : Conversion Datum :=
  match dateOrMoment? (Text.withoutLastLineFeed text.toList) with
  | none => .error .notTimestamp
  | some (.inl date) =>
    match date.check with
    | .ok () => .ok (.date date)
    | .error fault => misfit (.badDate fault)
  | some (.inr moment) =>
    match moment.check with
    | .ok () => .ok (.moment moment)
    | .error fault => misfit (.badDate fault)

/-- The value of a base 64 digit. -/
def base64Digit? (c : Char) : Option Nat :=
  if 'A' ≤ c ∧ c ≤ 'Z' then some (c.toNat - 'A'.toNat)
  else if 'a' ≤ c ∧ c ≤ 'z' then some (c.toNat - 'a'.toNat + 26)
  else if c.isDigit then some (c.toNat - '0'.toNat + 52)
  else if c == '+' then some 62
  else if c == '/' then some 63
  else none

/-- Decodes base 64. `place` digits of a group are read, `held` are the bits not yet put out, and
`pads` padding characters stand behind the last digit. Other characters are passed over. -/
def base64? (place held pads : Nat) : List Char → Option (List UInt8)
  | [] => if place = 0 then some [] else none
  | c :: rest =>
    if c == '=' then
      if 2 ≤ place then
        if 4 ≤ place + (pads + 1) then some [] else base64? place held (pads + 1) rest
      else base64? place held pads rest
    else
      match base64Digit? c with
      | none => base64? place held pads rest
      | some d =>
        if place = 0 then base64? 1 d 0 rest
        else if place = 1 then
          (base64? 2 (d % 16) 0 rest).map (UInt8.ofNat (held * 4 + d / 16) :: ·)
        else if place = 2 then
          (base64? 3 (d % 4) 0 rest).map (UInt8.ofNat (held * 16 + d / 4) :: ·)
        else (base64? 0 0 0 rest).map (UInt8.ofNat (held * 64 + d) :: ·)

/-- The bytes of a base 64 text; a text that is not base 64 stays. -/
def binaryOf (text : String) : Datum :=
  if text.toList.all (·.toNat < 0x80) then
    match base64? 0 0 0 text.toList with
    | some bs => .bytes bs
    | none => .text text
  else .text text

/-- The value of a scalar. Local tags and tags that no scalar has leave the text. -/
def scalarDatum (tag text : String) : Conversion Datum :=
  if tag = Tag.null then .ok .null
  else if tag = Tag.bool then (boolOf text).map .bool
  else if tag = Tag.int then (integerOf text).map .integer
  else if tag = Tag.float then realOf text
  else if tag = Tag.timestamp then timestampOf text
  else if tag = Tag.binary then .ok (binaryOf text)
  else .ok (.text text)

end GameAtlas.Yaml
