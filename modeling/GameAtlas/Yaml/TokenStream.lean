import GameAtlas.Yaml.ScalarText
import GameAtlas.Yaml.Stream

/-!
The tokens of a text. Indentation opens and closes block collections; a colon turns the token before
it into a key, if that one stands on the same line and within 1024 characters.
-/

namespace GameAtlas.Yaml.Scan

def emit (t : Token) : Scan Unit := modify fun s => { s with tokens := s.tokens.push t }

/-! ### Names, tags and directives -/

/-- A handle: an exclamation mark, or a name between two. -/
def tagHandle : Scan String := do
  if (← peek) != '!' then malformed
  if (← peekAt 1) == ' ' then
    forward 1
    return "!"
  else
    let name := ((← get).rest.drop 1).takeWhile isNameChar
    if (← peekAt (name.length + 1)) != '!' then malformed
    forward (name.length + 2)
    return String.ofList ('!' :: (name ++ ['!']))

def isUriChar (c : Char) : Bool :=
  c.isAlphanum || "-;/?:@&=+$,_.!~*'()[]%".toList.contains c

/-- Strict UTF-8 of a whole byte string. -/
def utf8? (bs : List UInt8) : Option (List Char) :=
  match Text.readChunk 0 0 [] bs with
  | .ok (cs, []) => some cs.reverse
  | _ => none

/-- Bytes written as percent signs with two hexadecimal digits. -/
def uriEscapes : Nat → Scan (List UInt8)
  | 0 => malformed
  | fuel + 1 => do
    if (← peek) == '%' then
      let digits ← hexDigits 1 2
      forward 3
      return UInt8.ofNat (hexValue digits) :: (← uriEscapes fuel)
    else return []

def tagUriFrom : Nat → Scan (List Char)
  | 0 => malformed
  | fuel + 1 => do
    let run ← takeWhile fun c => isUriChar c && c != '%'
    if (← peek) == '%' then
      match utf8? (← uriEscapes (← bound)) with
      | some cs => return run ++ cs ++ (← tagUriFrom fuel)
      | none => malformed
    else return run

def tagUri : Scan String := do
  let c ← peek
  if !isUriChar c then malformed
  return String.ofList (← tagUriFrom (← bound))

def tagToken : Scan Token := do
  let next ← peekAt 1
  let token ←
    if next == '<' then do
      forward 2
      let uri ← tagUri
      if (← peek) != '>' then malformed
      forward 1
      pure (Token.tag none uri)
    else if isBlankOrEnd next then do
      forward 1
      pure (Token.tag none "!")
    else do
      let word := ((← get).rest.drop 1).takeWhile fun c => !(isSpaceOrEnd c || c == '!')
      let handle ← if (← peekAt (word.length + 1)) == '!' then tagHandle else do
        forward 1
        pure "!"
      pure (Token.tag (some handle) (← tagUri))
  if !isSpaceOrEnd (← peek) then malformed
  return token

/-- The name of an anchor or alias behind its mark. -/
def anchorName : Scan String := do
  forward 1
  let name ← takeWhile isNameChar
  if name.isEmpty then malformed
  let c ← peek
  if !(isBlankOrEnd c || "?:,]\x7d%@\x60".toList.contains c) then malformed
  return String.ofList name

def versionNumber : Scan Nat := do
  let digits ← takeWhile Char.isDigit
  if digits.isEmpty then malformed
  return Decimal.digitsValue digits

def directive : Scan Token := do
  forward 1
  let name ← takeWhile isNameChar
  if name.isEmpty || !isSpaceOrEnd (← peek) then malformed
  let token ←
    if name = "YAML".toList then do
      skipSpaces
      let major ← versionNumber
      if (← peek) != '.' then malformed
      forward 1
      discard versionNumber
      if !isSpaceOrEnd (← peek) then malformed
      pure (Token.versionDirective major)
    else if name = "TAG".toList then do
      skipSpaces
      let handle ← tagHandle
      if (← peek) != ' ' then malformed
      skipSpaces
      let start ← tagUri
      if !isSpaceOrEnd (← peek) then malformed
      pure (Token.tagDirective handle start)
    else do
      discard <| takeWhile fun c => !isBreakOrEnd c
      pure Token.otherDirective
  ignoredLine
  return token

/-! ### Keys and indentation -/

/-- Whether a possible key is too far back to be one. -/
def isStale (s : Scanner) (key : KeyPlace) : Bool :=
  key.line != s.line || 1024 < s.index - key.index

/-- Forgets the possible keys that are too far back; a required one must not be among them. -/
def dropStaleKeys : Scan Unit := do
  let s ← get
  if s.keys.any fun (_, key) => isStale s key && key.required then malformed
  set { s with keys := s.keys.filter fun (_, key) => !isStale s key }

/-- Forgets the possible key of the current flow depth. -/
def dropKey : Scan Unit := do
  let s ← get
  match s.keys.lookup s.flowDepth with
  | some key =>
    if key.required then malformed
    set { s with keys := s.keys.filter fun (depth, _) => depth != s.flowDepth }
  | none => pure ()

/-- Remembers that the next token may begin a key. -/
def saveKey : Scan Unit := do
  let s ← get
  if s.keyAllowed then
    dropKey
    let required := s.flowDepth == 0 && s.indent == (s.column : Int)
    let place : KeyPlace := ⟨s.tokens.size, required, s.index, s.line, s.column⟩
    modify fun s => { s with keys := (s.flowDepth, place) :: s.keys }

/-- Closes the block collections that are indented further than a column. -/
def unwind (column : Int) : Scan Unit := do
  let s ← get
  if s.flowDepth = 0 then
    let rec close (s : Scanner) : List Int → Scanner
      | [] => s
      | outer :: indents =>
        if column < s.indent then
          close { s with indent := outer, indents := indents, tokens := s.tokens.push .blockEnd }
            indents
        else s
    set (close s s.indents)

/-- Opens a block collection at a column; says whether it is a new one. -/
def openIndent (column : Nat) : Scan Bool := do
  let s ← get
  if s.indent < (column : Int) then
    set { s with indent := (column : Int), indents := s.indent :: s.indents }
    return true
  else return false

def allowKey (allowed : Bool) : Scan Unit := modify fun s => { s with keyAllowed := allowed }

/-! ### Tokens -/

def documentMark (t : Token) : Scan Unit := do
  unwind (-1)
  dropKey
  allowKey false
  forward 3
  emit t

def flowStart (t : Token) : Scan Unit := do
  saveKey
  modify fun s => { s with flowDepth := s.flowDepth + 1 }
  allowKey true
  forward 1
  emit t

def flowEnd (t : Token) : Scan Unit := do
  dropKey
  modify fun s => { s with flowDepth := s.flowDepth - 1 }
  allowKey false
  forward 1
  emit t

def flowEntry : Scan Unit := do
  allowKey true
  dropKey
  forward 1
  emit .flowEntry

def blockEntry : Scan Unit := do
  let s ← get
  if s.flowDepth = 0 then
    if !s.keyAllowed then malformed
    if ← openIndent s.column then emit .blockSequenceStart
  allowKey true
  dropKey
  forward 1
  emit .blockEntry

def explicitKey : Scan Unit := do
  let s ← get
  if s.flowDepth = 0 then
    if !s.keyAllowed then malformed
    if ← openIndent s.column then emit .blockMappingStart
  allowKey (s.flowDepth == 0)
  dropKey
  forward 1
  emit .key

/-- A colon. If a possible key is there, its mark is put before the token that began it. -/
def mappingValue : Scan Unit := do
  let s ← get
  match s.keys.lookup s.flowDepth with
  | some key =>
    set { s with
      keys := s.keys.filter fun (depth, _) => depth != s.flowDepth
      tokens := s.tokens.insertIdxIfInBounds key.token .key }
    if s.flowDepth = 0 then
      if ← openIndent key.column then
        modify fun s =>
          { s with tokens := s.tokens.insertIdxIfInBounds key.token .blockMappingStart }
    allowKey false
  | none =>
    if s.flowDepth = 0 then
      if !s.keyAllowed then malformed
      if ← openIndent s.column then emit .blockMappingStart
    allowKey (s.flowDepth == 0)
    dropKey
  forward 1
  emit .value

/-- A token that may begin a key, and behind which none may begin. -/
def keyedToken (scan : Scan Token) : Scan Unit := do
  saveKey
  allowKey false
  emit (← scan)

def blockScalarToken (folded : Bool) : Scan Unit := do
  allowKey true
  dropKey
  emit (← blockScalar folded)

/-- Skips spaces, comments and line ends. Outside flow collections a new line may begin a key. -/
def skipToToken : Nat → Scan Unit
  | 0 => malformed
  | fuel + 1 => do
    skipSpaces
    if (← peek) == '#' then discard <| takeWhile fun c => !isBreakOrEnd c
    let found ← lineBreak
    if !found.isEmpty then
      if (← get).flowDepth = 0 then allowKey true
      skipToToken fuel

def nextIsBlank : Scan Bool := return isBlankOrEnd (← peekAt 1)

/-- Whether a plain scalar can begin here. -/
def startsPlain (flow : Bool) (c : Char) : Scan Bool := do
  if isBlankOrEnd c || "-?:,[]\x7b\x7d#&*!|>'\"%@\x60".toList.contains c then
    return !(← nextIsBlank) && (c == '-' || (!flow && (c == '?' || c == ':')))
  else return true

/-- Reads the next token and what has to stand before it; says whether there was one. -/
def fetch : Scan Bool := do
  skipToToken (← bound)
  dropStaleKeys
  unwind (← get).column
  let s ← get
  let flow := s.flowDepth != 0
  let c ← peek
  if c == endMark then
    unwind (-1)
    dropKey
    return false
  else
    if c == '%' && s.column == 0 then
      unwind (-1)
      dropKey
      allowKey false
      emit (← directive)
    else if ← whenever (c == '-' && s.column == 0) (atMark '-') then documentMark .documentStart
    else if ← whenever (c == '.' && s.column == 0) (atMark '.') then documentMark .documentEnd
    else if c == '[' then flowStart .flowSequenceStart
    else if c == '{' then flowStart .flowMappingStart
    else if c == ']' then flowEnd .flowSequenceEnd
    else if c == '}' then flowEnd .flowMappingEnd
    else if c == ',' then flowEntry
    else if ← whenever (c == '-') nextIsBlank then blockEntry
    else if ← whenever (c == '?') (if flow then return true else nextIsBlank) then explicitKey
    else if ← whenever (c == ':') (if flow then return true else nextIsBlank) then mappingValue
    else if c == '*' then keyedToken (return .alias (← anchorName))
    else if c == '&' then keyedToken (return .anchor (← anchorName))
    else if c == '!' then keyedToken tagToken
    else if c == '|' && !flow then blockScalarToken false
    else if c == '>' && !flow then blockScalarToken true
    else if c == '\'' then keyedToken (quotedScalar false)
    else if c == '"' then keyedToken (quotedScalar true)
    else if ← startsPlain flow c then keyedToken plainScalar
    else malformed
    return true

/-- How many tokens are settled: those before the first that may still turn out to be a key. The
next token is looked for only when these are used up. -/
def settledTokens (s : Scanner) : Nat :=
  s.keys.foldl (fun n (_, key) => if isStale s key then n else min n key.token) s.tokens.size

/-- All tokens up to the end, or those that are settled before the first fault. -/
def fetchAll (s : Scanner) : Nat → Array Token × Option Fault
  | 0 => (s.tokens, some .malformed)
  | fuel + 1 =>
    match fetch.run s with
    | .error fault => (s.tokens.take (settledTokens s), some fault)
    | .ok (false, s) => (s.tokens, none)
    | .ok (true, s) => fetchAll s fuel

end Scan

/-- The tokens of a stream, and the fault behind them if there is one. -/
def tokens (stream : Stream) : List Token × Option Fault :=
  let start : Scanner := { rest := stream.chars, behind := stream.fault }
  let start := if start.rest.head? == some byteOrderMark then Scan.stepOver start else start
  let (ts, fault) := Scan.fetchAll start (stream.chars.length + 2)
  (ts.toList, fault)

end GameAtlas.Yaml
