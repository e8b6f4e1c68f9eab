import GameAtlas.Expression.Basic
import GameAtlas.Expression.Token

/-!
The expression grammar. Each reader takes a phrase from the head of a token list and returns what is
left. Operators of one level associate to the left; a power binds tighter than a sign before it and
looser than one behind it. Readers take fuel, of which `read?` gives more than a text can use. The
stack that a deep text needs is taken to be there.
-/

namespace GameAtlas.Expression

open Token

abbrev Reader (α : Type) := List Token → Option (α × List Token)

/-- Takes one symbol. -/
def symbol (s : String) : List Token → Option (List Token)
  | .symbol t :: ts => if s = t then some ts else none
  | _ => none

def keyword (s : String) : List Token → Option (List Token)
  | .keyword t :: ts => if s = t then some ts else none
  | _ => none

def isStarred : List Token → Bool
  | .symbol "*" :: _ => true
  | _ => false

def isAssignment : List Token → Bool
  | .name _ :: .symbol ":=" :: _ => true
  | _ => false

/-- The binary operators from the loosest level to the tightest. -/
inductive Operation where
  | arithmetic (op : BinaryOp)
  | matrixProduct

def operationAt? : Nat → Token → Option Operation
  | 0, .symbol "|" => some (.arithmetic .bitOr)
  | 1, .symbol "&" => some (.arithmetic .bitAnd)
  | 2, .symbol "<<" => some (.arithmetic .shiftLeft)
  | 2, .symbol ">>" => some (.arithmetic .shiftRight)
  | 3, .symbol "+" => some (.arithmetic .add)
  | 3, .symbol "-" => some (.arithmetic .subtract)
  | 4, .symbol "*" => some (.arithmetic .multiply)
  | 4, .symbol "/" => some (.arithmetic .divide)
  | 4, .symbol "//" => some (.arithmetic .floorDivide)
  | 4, .symbol "%" => some (.arithmetic .modulo)
  | 4, .symbol "@" => some .matrixProduct
  | _, _ => none

def operationLevels : Nat := 5

def Operation.apply : Operation → Phrase → Phrase → Phrase
  | .arithmetic op => .binary op
  | .matrixProduct => .matrixProduct

def signOf? : Token → Option UnaryOp
  | .symbol "-" => some .negate
  | .symbol "+" => some .plus
  | .symbol "~" => some .invert
  | _ => none

/-- The tokens behind a comparison operator. -/
def comparisonRest? : List Token → Option (List Token)
  | .symbol s :: ts => if ["==", "!=", "<", "<=", ">", ">="].contains s then some ts else none
  | .keyword "in" :: ts => some ts
  | .keyword "not" :: .keyword "in" :: ts => some ts
  | .keyword "is" :: .keyword "not" :: ts => some ts
  | .keyword "is" :: ts => some ts
  | _ => none

/-- What a lambda's parameters have shown so far. -/
structure Parameters where
  seen : Bool := false
  positionalOnly : Bool := false
  star : Bool := false
  /-- A bare star still needs a named parameter. -/
  starPending : Bool := false
  defaults : Bool := false
  rest : Bool := false

/-- The brackets that a formatted literal's expression has open, and the quotes it is within. -/
structure Nesting where
  quote : Option (Char × Bool) := none
  brackets : List Char := []

def closes (opening closing : Char) : Bool :=
  (opening == '(' && closing == ')') || (opening == '[' && closing == ']') ||
    (opening == '{' && closing == '}')

/-- Splits the expression of a replacement field off; the rest starts with the character that ends
it. -/
def fieldExpression? (nesting : Nesting) : List Char → Option (List Char × List Char)
  | [] => none
  | c :: rest =>
    let go (nesting : Nesting) :=
      (fieldExpression? nesting rest).map fun (body, rest) => (c :: body, rest)
    if c == '\\' then none
    else
      match nesting.quote with
      | some (quote, triple) =>
        if c != quote then go nesting
        else if !triple then go { nesting with quote := none }
        else
          match rest with
          | d :: e :: more =>
            if d == quote && e == quote then
              (fieldExpression? { nesting with quote := none } more).map fun (body, rest) =>
                (c :: d :: e :: body, rest)
            else go nesting
          | _ => go nesting
      | none =>
        if isQuote c then
          match rest with
          | d :: e :: more =>
            if d == c && e == c then
              (fieldExpression? { nesting with quote := some (c, true) } more).map
                fun (body, rest) => (c :: d :: e :: body, rest)
            else go { nesting with quote := some (c, false) }
          | _ => go { nesting with quote := some (c, false) }
        else if c == '[' || c == '(' || c == '{' then
          go { nesting with brackets := c :: nesting.brackets }
        else if c == '#' then none
        else if nesting.brackets.isEmpty && ['!', ':', '}', '=', '>', '<'].contains c then
          match rest with
          | '=' :: more =>
            if ['!', '=', '<', '>'].contains c then
              (fieldExpression? nesting more).map fun (body, rest) => (c :: '=' :: body, rest)
            else some ([], c :: rest)
          | _ => if c == '>' || c == '<' then go nesting else some ([], c :: rest)
        else if c == ']' || c == ')' || c == '}' then
          match nesting.brackets with
          | opening :: outer =>
            if closes opening c then go { nesting with brackets := outer } else none
          | [] => none
        else go nesting

/-- The literal text up to the next replacement field or the end. In a format specification, which
is nested, braces are not doubled. The braces of a character's name, which the text is within if
`named`, belong to it. -/
def fieldLiteral? (raw nested named : Bool) : List Char → Option (List Char × List Char)
  | [] => some ([], [])
  | c :: rest =>
    let go := (fieldLiteral? raw nested false rest).map fun (body, rest) => (c :: body, rest)
    if named then
      (fieldLiteral? raw nested (c != '}') rest).map fun (body, rest) => (c :: body, rest)
    else if c == '\\' && !raw then
      match rest with
      | 'N' :: '{' :: more =>
        (fieldLiteral? raw nested true more).map fun (body, rest) =>
          (c :: 'N' :: '{' :: body, rest)
      | d :: more =>
        if d == '{' || d == '}' then go
        else (fieldLiteral? raw nested false more).map fun (body, rest) => (c :: d :: body, rest)
      | [] => go
    else if c == '{' || c == '}' then
      if nested then some ([], c :: rest)
      else
        match rest with
        | d :: more =>
          if d == c then
            (fieldLiteral? raw nested false more).map fun (body, rest) => (c :: body, rest)
          else if c == '}' then none
          else some ([], c :: rest)
        | [] => if c == '}' then none else some ([], c :: rest)
    else go

/-- The format conversion, if there is one. -/
def conversion? : List Char → Option (List Char)
  | '!' :: c :: rest => if c == 's' || c == 'r' || c == 'a' then some rest else none
  | ['!'] => none
  | cs => some cs

/-- An equals sign after a field's expression, with the blanks behind it. -/
def afterEquals : List Char → List Char
  | '=' :: rest => rest.dropWhile Text.isAsciiBlank
  | cs => cs

variable [Host]

mutual

/-- A condition, a lambda or what binds tighter. -/
def expression : Nat → Reader Phrase
  | 0, _ => none
  | fuel + 1, .keyword "lambda" :: ts =>
    (parameters fuel {} ts).bind fun ((), ts) => do
      let (_, ts) ← expression fuel ts
      some (.other "Lambda" false, ts)
  | fuel + 1, ts => do
    let (e, ts) ← disjunction fuel ts
    match ts with
    | .keyword "if" :: ts =>
      let (_, ts) ← disjunction fuel ts
      let ts ← keyword "else" ts
      let (_, ts) ← expression fuel ts
      some (.other "IfExp" false, ts)
    | _ => some (e, ts)
termination_by structural fuel => fuel

/-- A lambda's parameters and its colon. -/
def parameters : Nat → Parameters → Reader Unit
  | 0, _, _ => none
  | fuel + 1, ps, ts =>
    let next (ps : Parameters) (ts : List Token) : Option (Unit × List Token) :=
      match ts with
      | .symbol "," :: ts => parameters fuel ps ts
      | .symbol ":" :: ts => if ps.starPending then none else some ((), ts)
      | _ => none
    match ts with
    | .symbol ":" :: ts => if ps.starPending then none else some ((), ts)
    | .symbol "/" :: ts =>
      if ps.seen && !ps.positionalOnly && !ps.star && !ps.rest then
        next { ps with positionalOnly := true } ts
      else none
    | .symbol "*" :: ts =>
      if ps.star || ps.rest then none
      else
        match ts with
        | .name _ :: ts => next { ps with star := true, seen := true } ts
        | .symbol "," :: _ => next { ps with star := true, starPending := true, seen := true } ts
        | _ => none
    | .symbol "**" :: .name _ :: ts =>
      if ps.rest || ps.starPending then none else next { ps with rest := true, seen := true } ts
    | .name _ :: .symbol "=" :: ts =>
      if ps.rest then none
      else do
        let (_, ts) ← expression fuel ts
        next { ps with defaults := true, seen := true, starPending := false } ts
    | .name _ :: ts =>
      if ps.rest || (ps.defaults && !ps.star) then none
      else next { ps with seen := true, starPending := false } ts
    | _ => none
termination_by structural fuel => fuel

def disjunction : Nat → Reader Phrase
  | 0, _ => none
  | fuel + 1, ts => do
    let (e, ts) ← conjunction fuel ts
    match ts with
    | .keyword "or" :: ts =>
      let (_, ts) ← disjunction fuel ts
      some (.other "BoolOp" false, ts)
    | _ => some (e, ts)
termination_by structural fuel => fuel

def conjunction : Nat → Reader Phrase
  | 0, _ => none
  | fuel + 1, ts => do
    let (e, ts) ← inversion fuel ts
    match ts with
    | .keyword "and" :: ts =>
      let (_, ts) ← conjunction fuel ts
      some (.other "BoolOp" false, ts)
    | _ => some (e, ts)
termination_by structural fuel => fuel

def inversion : Nat → Reader Phrase
  | 0, _ => none
  | fuel + 1, .keyword "not" :: ts => do
    let (e, ts) ← inversion fuel ts
    some (.not e, ts)
  | fuel + 1, ts => do
    let (e, ts) ← operation fuel 0 ts
    comparisons fuel e ts
termination_by structural fuel => fuel

/-- Any number of comparisons behind an operand. -/
def comparisons : Nat → Phrase → Reader Phrase
  | 0, _, _ => none
  | fuel + 1, e, ts =>
    match comparisonRest? ts with
    | some ts => do
      let (_, ts) ← operation fuel 0 ts
      comparisons fuel (.other "Compare" false) ts
    | none => some (e, ts)
termination_by structural fuel => fuel

/-- Operations of a level and the tighter ones. -/
def operation : Nat → Nat → Reader Phrase
  | 0, _, _ => none
  | fuel + 1, level, ts =>
    if level < operationLevels then do
      let (e, ts) ← operation fuel (level + 1) ts
      operations fuel level e ts
    else signed fuel ts
termination_by structural fuel => fuel

/-- Any number of operations of a level behind their first operand. -/
def operations : Nat → Nat → Phrase → Reader Phrase
  | 0, _, _, _ => none
  | _ + 1, _, e, [] => some (e, [])
  | fuel + 1, level, e, t :: ts =>
    match operationAt? level t with
    | some op => do
      let (right, ts) ← operation fuel (level + 1) ts
      operations fuel level (op.apply e right) ts
    | none => some (e, t :: ts)
termination_by structural fuel => fuel

/-- Signs before a power. -/
def signed : Nat → Reader Phrase
  | 0, _ => none
  | _ + 1, [] => none
  | fuel + 1, t :: ts =>
    match signOf? t with
    | some op => do
      let (e, ts) ← signed fuel ts
      some (.unary op e, ts)
    | none => do
      let (base, ts) ← awaited fuel (t :: ts)
      match ts with
      | .symbol "**" :: ts =>
        let (exponent, ts) ← signed fuel ts
        some (.binary .power base exponent, ts)
      | _ => some (base, ts)
termination_by structural fuel => fuel

def awaited : Nat → Reader Phrase
  | 0, _ => none
  | fuel + 1, .keyword "await" :: ts => do
    let (_, ts) ← primary fuel ts
    some (.other "Await" false, ts)
  | fuel + 1, ts => primary fuel ts
termination_by structural fuel => fuel

def primary : Nat → Reader Phrase
  | 0, _ => none
  | fuel + 1, ts => do
    let (e, ts) ← atom fuel ts
    trailers fuel e ts
termination_by structural fuel => fuel

/-- Attributes, calls and subscripts. -/
def trailers : Nat → Phrase → Reader Phrase
  | 0, _, _ => none
  | fuel + 1, _, .symbol "." :: .name _ :: ts => trailers fuel (.other "Attribute" true) ts
  | fuel + 1, _, .symbol "(" :: ts => do
    let ts ← arguments fuel ts
    trailers fuel (.other "Call" false) ts
  | fuel + 1, _, .symbol "[" :: ts => do
    let ts ← slices fuel ts
    trailers fuel (.other "Subscript" true) ts
  | _ + 1, e, ts => some (e, ts)
termination_by structural fuel => fuel

def atom : Nat → Reader Phrase
  | 0, _ => none
  | fuel + 1, ts =>
    match ts with
    | .integer n :: ts => some (.integer n, ts)
    | .real x :: ts => some (.real x, ts)
    | .imaginary :: ts => some (.constant, ts)
    | .name s :: ts => some (.name s, ts)
    | .keyword "True" :: ts | .keyword "False" :: ts | .keyword "None" :: ts => some (.constant, ts)
    | .symbol "..." :: ts => some (.constant, ts)
    | .quoted .bytes :: ts => bytesRun fuel ts
    | .quoted _ :: _ => textRun fuel false ts
    | .symbol "(" :: ts => parenthesized fuel ts
    | .symbol "[" :: ts => listDisplay fuel ts
    | .symbol "\x7b" :: ts => braceDisplay fuel ts
    | _ => none
termination_by structural fuel => fuel

/-- Byte literals stand beside byte literals only. -/
def bytesRun : Nat → Reader Phrase
  | 0, _ => none
  | fuel + 1, .quoted .bytes :: ts => bytesRun fuel ts
  | _ + 1, .quoted _ :: _ => none
  | _ + 1, ts => some (.constant, ts)
termination_by structural fuel => fuel

/-- Text literals that stand side by side, one formatted among them or not. -/
def textRun : Nat → Bool → Reader Phrase
  | 0, _, _ => none
  | fuel + 1, formatted, .quoted .text :: ts => textRun fuel formatted ts
  | fuel + 1, _, .quoted (.formatted raw body) :: ts =>
    if formattedBody fuel raw 0 body = some [] then textRun fuel true ts else none
  | _ + 1, _, .quoted .bytes :: _ => none
  | _ + 1, formatted, ts => some (if formatted then .other "JoinedStr" false else .constant, ts)
termination_by structural fuel => fuel

/-- What is left of a formatted literal's body. One level deep, in a format specification, a closing
brace ends it. -/
def formattedBody : Nat → Bool → Nat → List Char → Option (List Char)
  | 0, _, _, _ => none
  | fuel + 1, raw, depth, cs => do
    let (literal, rest) ← fieldLiteral? raw (0 < depth) false cs
    if !raw && !escapesComplete false literal then none
    else
      match rest with
      | '{' :: rest => do
        let rest ← replacement fuel raw depth rest
        formattedBody fuel raw depth rest
      | _ => some rest
termination_by structural fuel => fuel

/-- A replacement field behind its opening brace. -/
def replacement : Nat → Bool → Nat → List Char → Option (List Char)
  | 0, _, _, _ => none
  | fuel + 1, raw, depth, cs =>
    if 2 ≤ depth then none
    else do
      let (body, rest) ← fieldExpression? {} cs
      let ts ← if body.all Text.isBlank then none else scan? ('(' :: (body ++ [')']))
      let (_, left) ← atom fuel ts
      if !left.isEmpty then none
      else
        let rest ← conversion? (afterEquals rest)
        let rest ←
          match rest with
          | ':' :: spec => formattedBody fuel raw (depth + 1) spec
          | _ => some rest
        match rest with
        | '}' :: rest => some rest
        | _ => none
termination_by structural fuel => fuel

/-- An assignment or an expression. -/
def named : Nat → Reader Phrase
  | 0, _ => none
  | fuel + 1, .name _ :: .symbol ":=" :: ts => do
    let (_, ts) ← expression fuel ts
    some (.other "NamedExpr" false, ts)
  | fuel + 1, ts => expression fuel ts
termination_by structural fuel => fuel

/-- An assignment, an expression or a starred operand. -/
def starredOr : Nat → Reader Phrase
  | 0, _ => none
  | fuel + 1, .symbol "*" :: ts => do
    let (e, ts) ← operation fuel 0 ts
    some (.other "Starred" e.isAssignable, ts)
  | fuel + 1, ts => named fuel ts
termination_by structural fuel => fuel

/-- Items up to a closing symbol, with a comma between two and perhaps one at the end; says whether
all are assignable. -/
def items : Nat → String → Bool → Reader Bool
  | 0, _, _, _ => none
  | fuel + 1, close, assignable, ts =>
    match symbol close ts with
    | some ts => some (assignable, ts)
    | none => do
      let (e, ts) ← starredOr fuel ts
      let assignable := assignable && e.isAssignable
      match ts with
      | .symbol "," :: ts => items fuel close assignable ts
      | _ => (symbol close ts).map fun ts => (assignable, ts)
termination_by structural fuel => fuel

/-- What follows an opening parenthesis: a group, a tuple, a generator or a yield. -/
def parenthesized : Nat → Reader Phrase
  | 0, _ => none
  | _ + 1, .symbol ")" :: ts => some (.other "Tuple" true, ts)
  | fuel + 1, .keyword "yield" :: ts => do
    let (e, ts) ← yielded fuel ts
    let ts ← symbol ")" ts
    some (e, ts)
  | fuel + 1, ts => do
    let (e, rest) ← starredOr fuel ts
    match rest with
    | .symbol "," :: rest => do
      let (assignable, ts) ← items fuel ")" e.isAssignable rest
      some (.other "Tuple" assignable, ts)
    | .symbol ")" :: rest => if isStarred ts then none else some (e, rest)
    | _ =>
      if isStarred ts then none
      else do
        let ts ← comprehension fuel rest
        let ts ← symbol ")" ts
        some (.other "GeneratorExp" false, ts)
termination_by structural fuel => fuel

/-- What follows `yield`. -/
def yielded : Nat → Reader Phrase
  | 0, _ => none
  | fuel + 1, .keyword "from" :: ts => do
    let (_, ts) ← expression fuel ts
    some (.other "YieldFrom" false, ts)
  | _ + 1, .symbol ")" :: ts => some (.other "Yield" false, .symbol ")" :: ts)
  | fuel + 1, ts => do
    let ts ← starExpressions fuel ts
    some (.other "Yield" false, ts)
termination_by structural fuel => fuel

/-- Expressions and starred operands before a closing parenthesis. -/
def starExpressions : Nat → List Token → Option (List Token)
  | 0, _ => none
  | fuel + 1, ts => do
    let ts ←
      match ts with
      | .symbol "*" :: ts => (operation fuel 0 ts).map (·.2)
      | _ => (expression fuel ts).map (·.2)
    match ts with
    | .symbol "," :: .symbol ")" :: ts => some (.symbol ")" :: ts)
    | .symbol "," :: ts => starExpressions fuel ts
    | _ => some ts
termination_by structural fuel => fuel

def listDisplay : Nat → Reader Phrase
  | 0, _ => none
  | _ + 1, .symbol "]" :: ts => some (.other "List" true, ts)
  | fuel + 1, ts => do
    let (e, rest) ← starredOr fuel ts
    match rest with
    | .symbol "," :: rest => do
      let (assignable, ts) ← items fuel "]" e.isAssignable rest
      some (.other "List" assignable, ts)
    | .symbol "]" :: rest => some (.other "List" e.isAssignable, rest)
    | _ =>
      if isStarred ts then none
      else do
        let ts ← comprehension fuel rest
        let ts ← symbol "]" ts
        some (.other "ListComp" false, ts)
termination_by structural fuel => fuel

/-- What follows an opening brace: a dictionary, a set or a comprehension of either. -/
def braceDisplay : Nat → Reader Phrase
  | 0, _ => none
  | _ + 1, .symbol "\x7d" :: ts => some (.other "Dict" false, ts)
  | fuel + 1, .symbol "**" :: ts => do
    let ts ← dictItems fuel (.symbol "**" :: ts)
    some (.other "Dict" false, ts)
  | fuel + 1, ts => do
    let (_, rest) ← starredOr fuel ts
    match rest with
    | .symbol ":" :: rest =>
      if isStarred ts || isAssignment ts then none
      else do
        let (_, rest) ← expression fuel rest
        match rest with
        | .symbol "\x7d" :: rest => some (.other "Dict" false, rest)
        | .symbol "," :: rest => do
          let ts ← dictItems fuel rest
          some (.other "Dict" false, ts)
        | _ => do
          let ts ← comprehension fuel rest
          let ts ← symbol "\x7d" ts
          some (.other "DictComp" false, ts)
    | .symbol "\x7d" :: rest => some (.other "Set" false, rest)
    | .symbol "," :: rest => do
      let (_, ts) ← items fuel "\x7d" false rest
      some (.other "Set" false, ts)
    | _ =>
      if isStarred ts then none
      else do
        let ts ← comprehension fuel rest
        let ts ← symbol "\x7d" ts
        some (.other "SetComp" false, ts)
termination_by structural fuel => fuel

/-- Pairs and unpackings up to the closing brace. -/
def dictItems : Nat → List Token → Option (List Token)
  | 0, _ => none
  | _ + 1, .symbol "\x7d" :: ts => some ts
  | fuel + 1, ts => do
    let ts ←
      match ts with
      | .symbol "**" :: ts => (operation fuel 0 ts).map (·.2)
      | _ => do
        let (_, ts) ← expression fuel ts
        let ts ← symbol ":" ts
        let (_, ts) ← expression fuel ts
        some ts
    match ts with
    | .symbol "," :: ts => dictItems fuel ts
    | _ => symbol "\x7d" ts
termination_by structural fuel => fuel

/-- One or more loops, each with any number of conditions. -/
def comprehension : Nat → List Token → Option (List Token)
  | 0, _ => none
  | fuel + 1, ts => do
    let ts ←
      match ts with
      | .keyword "async" :: .keyword "for" :: ts => some ts
      | .keyword "for" :: ts => some ts
      | _ => none
    let ts ← targets fuel ts
    let (_, ts) ← disjunction fuel ts
    let ts ← conditions fuel ts
    match ts with
    | .keyword "async" :: _ | .keyword "for" :: _ => comprehension fuel ts
    | _ => some ts
termination_by structural fuel => fuel

def conditions : Nat → List Token → Option (List Token)
  | 0, _ => none
  | fuel + 1, .keyword "if" :: ts => do
    let (_, ts) ← disjunction fuel ts
    conditions fuel ts
  | _ + 1, ts => some ts
termination_by structural fuel => fuel

/-- The variables of a loop, up to and including `in`. -/
def targets : Nat → List Token → Option (List Token)
  | 0, _ => none
  | fuel + 1, ts => do
    let operand :=
      match ts with
      | .symbol "*" :: ts => ts
      | _ => ts
    let (e, ts) ← primary fuel operand
    if !e.isAssignable then none
    else
      match ts with
      | .keyword "in" :: ts | .symbol "," :: .keyword "in" :: ts => some ts
      | .symbol "," :: ts => targets fuel ts
      | _ => none
termination_by structural fuel => fuel

/-- The arguments of a call: either a lone generator, or arguments separated by commas. -/
def arguments : Nat → List Token → Option (List Token)
  | 0, _ => none
  | _ + 1, .symbol ")" :: ts => some ts
  | fuel + 1, ts =>
    match ts with
    | .symbol "*" :: _ | .symbol "**" :: _ | .name _ :: .symbol "=" :: _ =>
      argumentList fuel false false ts
    | _ => do
      let (_, rest) ← named fuel ts
      match rest with
      | .keyword "for" :: _ | .keyword "async" :: _ => do
        let ts ← comprehension fuel rest
        symbol ")" ts
      | _ => argumentList fuel false false ts
termination_by structural fuel => fuel

/-- Arguments up to the closing parenthesis. Once one is named, only starred and named ones follow;
once one is unpacked, no starred one does. -/
def argumentList : Nat → Bool → Bool → List Token → Option (List Token)
  | 0, _, _, _ => none
  | _ + 1, _, _, .symbol ")" :: ts => some ts
  | fuel + 1, byName, unpacked, ts => do
    let (byName, unpacked, ts) ←
      match ts with
      | .symbol "**" :: ts => do
        let (_, ts) ← expression fuel ts
        some (true, true, ts)
      | .symbol "*" :: ts => do
        let (_, ts) ← expression fuel ts
        if unpacked then none else some (byName, unpacked, ts)
      | .name _ :: .symbol "=" :: ts => do
        let (_, ts) ← expression fuel ts
        some (true, unpacked, ts)
      | _ => do
        let (_, ts) ← named fuel ts
        if byName then none else some (byName, unpacked, ts)
    match ts with
    | .symbol "," :: ts => argumentList fuel byName unpacked ts
    | _ => symbol ")" ts
termination_by structural fuel => fuel

/-- One or more slices up to the closing bracket. -/
def slices : Nat → List Token → Option (List Token)
  | 0, _ => none
  | fuel + 1, ts => do
    let ts ←
      match ts with
      | .symbol "*" :: ts => do
        let (_, ts) ← expression fuel ts
        some ts
      | .symbol ":" :: _ => sliceRest fuel 2 ts
      | _ => do
        let (_, rest) ← named fuel ts
        match rest with
        | .symbol ":" :: _ => if isAssignment ts then none else sliceRest fuel 2 rest
        | _ => some rest
    match ts with
    | .symbol "," :: .symbol "]" :: ts => some ts
    | .symbol "," :: ts => slices fuel ts
    | _ => symbol "]" ts
termination_by structural fuel => fuel

/-- Up to `colons` colons, each with an expression behind it or not. -/
def sliceRest : Nat → Nat → List Token → Option (List Token)
  | 0, _, _ => none
  | fuel + 1, colons + 1, .symbol ":" :: ts =>
    match ts with
    | .symbol ":" :: _ | .symbol "," :: _ | .symbol "]" :: _ => sliceRest fuel colons ts
    | _ => do
      let (_, ts) ← expression fuel ts
      sliceRest fuel colons ts
  | _ + 1, _, ts => some ts
termination_by structural fuel => fuel


end

/-- Expressions separated by commas are a tuple. -/
def tupleRest : Nat → Nat → List Token → Option (List Token)
  | 0, _, _ => none
  | _ + 1, _, [] => some []
  | fuel + 1, depth, ts => do
    let (_, ts) ← expression depth ts
    match ts with
    | .symbol "," :: ts => tupleRest fuel depth ts
    | _ => some ts

/-- Drops the line ends behind the last token. -/
def dropLineEnds (ts : List Token) : List Token :=
  (ts.reverse.dropWhile (· matches .lineEnd)).reverse

/-- The phrase that a whole text is. -/
def Phrase.read? (cs : List Char) : Option Phrase := do
  let depth := 32 * (cs.length + 2)
  let ts := dropLineEnds (← scan? cs)
  let (e, rest) ← expression depth ts
  match rest with
  | [] => some e
  | .symbol "," :: rest => do
    let rest ← tupleRest depth depth rest
    if rest.isEmpty then some (.other "Tuple" false) else none
  | _ => none

end GameAtlas.Expression
