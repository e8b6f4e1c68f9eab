import GameAtlas.Decimal.Reading
import GameAtlas.Host
import GameAtlas.Text.CharacterName
import GameAtlas.Text.Identifier
import GameAtlas.Text.Normalization
import GameAtlas.Text.Utf8

/-!
Tokens of expression texts. Line ends count only outside brackets; a comment runs to the end of its
line; a backslash before a line end joins two lines.
-/

namespace GameAtlas.Expression

/-- What a quoted literal holds. The body of a formatted one is read later. -/
inductive Literal where
  | text
  | bytes
  | formatted (raw : Bool) (body : List Char)

inductive Token where
  | integer (n : Nat)
  | real (x : Float)
  | imaginary
  | name (text : String)
  | keyword (text : String)
  | quoted (literal : Literal)
  | symbol (text : String)
  | lineEnd

namespace Token

def keywords : List String :=
  ["False", "None", "True", "and", "as", "assert", "async", "await", "break", "class", "continue",
   "def", "del", "elif", "else", "except", "finally", "for", "from", "global", "if", "import", "in",
   "is", "lambda", "nonlocal", "not", "or", "pass", "raise", "return", "try", "while", "with",
   "yield"]

/-- Symbols of several characters, the longest first. -/
def longSymbols : List String :=
  ["**=", "//=", ">>=", "<<=", "...", "!=", "%=", "&=", "**", "*=", "+=", "-=", "->", "//", "/=",
   ":=", "<<", "<=", "<>", "==", ">=", ">>", "@=", "|="]

def shortSymbols : List Char :=
  ['(', ')', '[', ']', '{', '}', ':', ',', ';', '+', '-', '*', '/', '|', '&', '<', '>', '=', '.',
   '%', '~', '@']

/-- A character that continues a word; what stands above ASCII is checked once the word is known. -/
def isWordChar (c : Char) : Bool := c.isAlphanum || c == '_' || 0x80 ≤ c.toNat

def startsWith (start : String) (cs : List Char) : Bool := start.toList.isPrefixOf cs

variable [Host]

/-! ### Numbers -/

/-- The digits up to the first other character, without the underscores that stand singly between
them; `none` if an underscore has no digit behind it. -/
def digitRun? (isDigit : Char → Bool) : List Char → Option (List Char × List Char)
  | '_' :: c :: rest =>
    if isDigit c then (digitRun? isDigit rest).map fun (ds, rest) => (c :: ds, rest) else none
  | ['_'] => none
  | c :: rest =>
    if isDigit c then (digitRun? isDigit rest).map fun (ds, rest) => (c :: ds, rest)
    else some ([], c :: rest)
  | [] => some ([], [])

/-- A number may be followed by a keyword that can stand behind it, and by no other word. -/
def numberEnds (cs : List Char) : Bool :=
  ["and", "else", "for", "if", "in", "is", "or", "not"].any (startsWith · cs) ||
    match cs with
    | [] => true
    | c :: _ => !isWordChar c

/-- A number behind a base mark. -/
def markedNumber? (base : Nat) (cs : List Char) : Option (Token × List Char) :=
  let isDigit c := (Text.digitOf? base c).isSome
  let digits := match cs with
    | '_' :: rest => rest
    | _ => cs
  match digits with
  | [] => none
  | c :: _ =>
    if !isDigit c then none
    else
      (digitRun? isDigit digits).bind fun (ds, rest) =>
        if numberEnds rest then
          some (.integer (ds.foldl (fun n c => n * base + (Text.digitValue? c).getD 0) 0), rest)
        else none

/-- What follows the digits of a decimal: the mark of an imaginary number, or the end. -/
def finishReal? (x : Float) : List Char → Option (Token × List Char)
  | cs =>
    match cs with
    | 'j' :: rest | 'J' :: rest => if numberEnds rest then some (.imaginary, rest) else none
    | _ => if numberEnds cs then some (.real x, cs) else none

def startsWithDigit : List Char → Bool
  | c :: _ => c.isDigit
  | [] => false

/-- The exponent of a decimal, if one stands there. -/
def exponent? (cs : List Char) : Option (Option Int × List Char) :=
  match cs with
  | 'e' :: rest | 'E' :: rest =>
    match rest with
    | '+' :: more | '-' :: more =>
      if startsWithDigit more then
        (digitRun? Char.isDigit more).map fun (ds, after) =>
          (some (Text.applySign (rest.head? == some '-') (Decimal.digitsValue ds)), after)
      else none
    | _ =>
      if startsWithDigit rest then
        (digitRun? Char.isDigit rest).map fun (ds, after) =>
          (some (Decimal.digitsValue ds : Int), after)
      else some (none, cs)
  | _ => some (none, cs)

/-- The rest of a decimal behind its point. -/
def fraction? (whole : List Char) (cs : List Char) : Option (Token × List Char) :=
  let digits := if startsWithDigit cs then digitRun? Char.isDigit cs else some ([], cs)
  digits.bind fun (fraction, rest) =>
    (exponent? rest).bind fun (exponent, rest) =>
      finishReal? (Decimal.nearest false (Decimal.digitsValue (whole ++ fraction))
        (exponent.getD 0 - fraction.length)) rest

/-- A decimal integer starts with zero only if it is zero. If it does not, the host bounds its
digits. -/
def decimal? (cs : List Char) : Option (Token × List Char) :=
  (digitRun? Char.isDigit cs).bind fun (whole, rest) =>
    let integer :=
      if whole.head? == some '0' && whole.any (· != '0') then none
      else if (Host.readingFault? whole.length).isSome && whole.head? != some '0' then none
      else if numberEnds rest then some (.integer (Decimal.digitsValue whole), rest)
      else none
    match rest with
    | '.' :: more => fraction? whole more
    | 'j' :: _ | 'J' :: _ => finishReal? 0 rest
    | 'e' :: _ | 'E' :: _ =>
      (exponent? rest).bind fun (exponent, after) =>
        match exponent with
        | some e => finishReal? (Decimal.nearest false (Decimal.digitsValue whole) e) after
        | none => integer
    | _ => integer

def number? (cs : List Char) : Option (Token × List Char) :=
  match cs with
  | '0' :: c :: rest =>
    match Text.markedBase? c with
    | some base => markedNumber? base rest
    | none => decimal? cs
  | '.' :: rest => fraction? [] rest
  | _ => decimal? cs

/-! ### Quoted literals -/

/-- The letters before a quote say what the literal is. -/
structure QuoteMarks where
  bytes : Bool
  raw : Bool
  formatted : Bool

def quoteMarks? (letters : List Char) : Option QuoteMarks :=
  match letters.map Char.toLower with
  | [] | ['u'] => some ⟨false, false, false⟩
  | ['b'] => some ⟨true, false, false⟩
  | ['r'] => some ⟨false, true, false⟩
  | ['f'] => some ⟨false, false, true⟩
  | ['b', 'r'] | ['r', 'b'] => some ⟨true, true, false⟩
  | ['f', 'r'] | ['r', 'f'] => some ⟨false, true, true⟩
  | _ => none

/-- The body up to the closing quotes; a backslash takes the next character along. -/
def quotedBody? (quote : Char) (triple : Bool) : List Char → Option (List Char × List Char)
  | [] => none
  | '\\' :: c :: rest =>
    (quotedBody? quote triple rest).map fun (body, rest) => ('\\' :: c :: body, rest)
  | c :: rest =>
    let go := (quotedBody? quote triple rest).map fun (body, rest) => (c :: body, rest)
    if c == quote then
      if !triple then some ([], rest)
      else
        match rest with
        | d :: e :: more => if d == quote && e == quote then some ([], more) else go
        | _ => go
    else if c == '\n' && !triple then none
    else go

/-- Whether the next `count` characters are hexadecimal digits. -/
def hexAhead (count : Nat) (cs : List Char) : Bool :=
  (cs.take count).length == count && (cs.take count).all fun c => (Text.digitOf? 16 c).isSome

/-- The name of a character in braces. -/
def nameAhead (cs : List Char) : Bool :=
  match cs with
  | '{' :: rest =>
    let name := rest.takeWhile (· != '}')
    name.length < rest.length && Text.isCharacterName name
  | _ => false

/-- Whether every escape of a body is complete. -/
def escapesComplete (bytes : Bool) : List Char → Bool
  | [] => true
  | '\\' :: c :: rest =>
    (match c with
      | 'x' => hexAhead 2 rest
      | 'u' => bytes || hexAhead 4 rest
      | 'U' => bytes || (hexAhead 8 rest &&
          (rest.take 8).foldl (fun n c => n * 16 + (Text.digitValue? c).getD 0) 0 ≤ 0x10FFFF)
      | 'N' => bytes || nameAhead rest
      | _ => true) && escapesComplete bytes rest
  | _ :: rest => escapesComplete bytes rest

def literal? (marks : QuoteMarks) (body : List Char) : Option Literal :=
  if marks.formatted then some (.formatted marks.raw body)
  else if marks.bytes then
    if body.all (·.toNat < 0x80) && (marks.raw || escapesComplete true body) then some .bytes
    else none
  else if marks.raw || escapesComplete false body then some .text
  else none

/-- A quoted literal whose marks are read already. -/
def quoted? (marks : QuoteMarks) (quote : Char) (cs : List Char) : Option (Token × List Char) :=
  let found := match cs with
    | c :: d :: rest =>
      if c == quote && d == quote then quotedBody? quote true rest else quotedBody? quote false cs
    | _ => quotedBody? quote false cs
  found.bind fun (body, rest) => (literal? marks body).map fun literal => (.quoted literal, rest)

/-! ### Words and symbols -/

def isQuote (c : Char) : Bool := c == '\'' || c == '"'

/-- A word, or the quoted literal that it marks. -/
def word? (cs : List Char) : Option (Token × List Char) :=
  let word := cs.takeWhile isWordChar
  let rest := cs.dropWhile isWordChar
  match rest, quoteMarks? word with
  | quote :: more, some marks =>
    if isQuote quote then quoted? marks quote more else named word rest
  | _, _ => named word rest
where
  named (word rest : List Char) : Option (Token × List Char) :=
    let text := String.ofList word
    if keywords.contains text then some (.keyword text, rest)
    else if Text.isIdentifier word then some (.name (Text.normalize text), rest)
    else none

def symbol? (cs : List Char) : Option (Token × List Char) :=
  match longSymbols.find? (startsWith · cs) with
  | some s => some (.symbol s, cs.drop s.length)
  | none =>
    match cs with
    | c :: rest => if shortSymbols.contains c then some (.symbol c.toString, rest) else none
    | [] => none

/-- The token at the head of a text that starts with neither a blank nor a comment. -/
def next? (cs : List Char) : Option (Token × List Char) :=
  match cs with
  | [] => none
  | c :: rest =>
    if c.isDigit || (c == '.' && startsWithDigit rest) then number? cs
    else if isQuote c then quoted? ⟨false, false, false⟩ c rest
    else if isWordChar c then word? cs
    else symbol? cs

/-- The most brackets that may be open at one place. -/
def maxNesting : Nat := 200

/-- How a token changes the number of open brackets, if one more may be open. -/
def depthAfter? (depth : Nat) : Token → Option Nat
  | .symbol "(" | .symbol "[" | .symbol "\x7b" =>
    if depth < maxNesting then some (depth + 1) else none
  | .symbol ")" | .symbol "]" | .symbol "\x7d" => some (depth - 1)
  | _ => some depth

/-- Where the scan stands: at the start of a line, indented so far by `column`, with `joined` the
column before the first joined line; or within a line. -/
inductive Place where
  | lineStart (column joined : Nat)
  | within

/-- Skips the rest of a comment. -/
def afterComment (cs : List Char) : List Char := cs.dropWhile (· != '\n')

/-- Reads tokens; `fuel` bounds their number and that of the blanks between them. A line outside
brackets must not be indented. -/
def scanFrom : Nat → Place → Nat → List Char → Option (List Token)
  | 0, _, _, _ => none
  | _ + 1, _, _, [] => some []
  | fuel + 1, .lineStart column joined, depth, c :: rest =>
    if c == ' ' then scanFrom fuel (.lineStart (column + 1) joined) depth rest
    else if c == '\t' then scanFrom fuel (.lineStart ((column / 8 + 1) * 8) joined) depth rest
    else if c == '\x0c' then scanFrom fuel (.lineStart 0 joined) depth rest
    else if c == '\\' then
      match rest with
      | '\n' :: d :: more =>
        scanFrom fuel (.lineStart column (if joined = 0 then column else joined)) depth (d :: more)
      | _ => none
    else if c == '#' then scanFrom fuel (.lineStart 0 0) depth (afterComment rest)
    else if c == '\n' then scanFrom fuel (.lineStart 0 0) depth rest
    else if depth = 0 ∧ (if joined = 0 then column else joined) ≠ 0 then none
    else scanFrom fuel .within depth (c :: rest)
  | fuel + 1, .within, depth, c :: rest =>
    if c == ' ' || c == '\t' || c == '\x0c' then scanFrom fuel .within depth rest
    else if c == '#' then scanFrom fuel .within depth (afterComment rest)
    else if c == '\n' then
      if depth = 0 then (scanFrom fuel (.lineStart 0 0) 0 rest).map (.lineEnd :: ·)
      else scanFrom fuel .within depth rest
    else if c == '\\' then
      match rest with
      | '\n' :: d :: more => scanFrom fuel .within depth (d :: more)
      | _ => none
    else
      (next? (c :: rest)).bind fun (token, rest) =>
        (token.depthAfter? depth).bind fun depth =>
          (scanFrom fuel .within depth rest).map (token :: ·)

/-- The tokens of a text; line ends of every kind count as one. -/
def scan? (cs : List Char) : Option (List Token) :=
  if cs.contains '\x00' then none
  else scanFrom (2 * cs.length + 2) (.lineStart 0 0) 0 (Text.unifyLineEnds cs)

end Token

end GameAtlas.Expression
