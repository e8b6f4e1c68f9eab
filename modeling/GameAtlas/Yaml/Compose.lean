import GameAtlas.Yaml.Resolution
import GameAtlas.Yaml.TokenStream

/-!
Nodes from tokens. Each document is one node; anchors name nodes within a document, and an alias is
the node that its name was given to. A node has its name from its first token on, so that it may lie
within itself. Trees cannot show that, and such documents are left out by a fault of their own.
Readers take fuel, of which there is more than tokens can use.
-/

namespace GameAtlas.Yaml

structure Composer where
  tokens : List Token
  /-- The fault that stands behind the last token. -/
  fault : Option Fault
  handles : List (String × String) := []
  /-- Names of anchors, those of unfinished nodes included. -/
  names : List String := []
  anchors : List (String × Node) := []

abbrev Compose := StateT Composer (Except Fault)

namespace Compose

def malformed : Compose α := throw .malformed

/-- The next token, none at the end. -/
def peek : Compose (Option Token) := do
  let s ← get
  match s.tokens with
  | t :: _ => return some t
  | [] =>
    match s.fault with
    | some fault => throw fault
    | none => return none

def advance : Compose Unit := modify fun s => { s with tokens := s.tokens.tail }

/-- Takes a token if it is the next one. -/
def takes (t : Token) : Compose Bool := do
  if (← peek) == some t then advance; return true else return false

def next : Compose (Option Token) := do
  let t ← peek
  advance
  return t

/-- An empty plain scalar. -/
def emptyNode : Node := .scalar (plainTag "") "" .plain none

/-! ### Properties -/

/-- What stands before the content of a node. -/
structure Properties where
  anchor : Option String := none
  tag : Option (Option String × String) := none

def properties : Compose Properties := do
  match ← peek with
  | some (.anchor name) =>
    advance
    match ← peek with
    | some (.tag handle suffix) =>
      advance
      return { anchor := some name, tag := some (handle, suffix) }
    | _ => return { anchor := some name }
  | some (.tag handle suffix) =>
    advance
    match ← peek with
    | some (.anchor name) =>
      advance
      return { anchor := some name, tag := some (handle, suffix) }
    | _ => return { tag := some (handle, suffix) }
  | _ => return {}

/-- A tag with its handle written out. -/
def expandTag : Option (Option String × String) → Compose (Option String)
  | none => return none
  | some (none, suffix) => return some suffix
  | some (some handle, suffix) => do
    match (← get).handles.lookup handle with
    | some start => return some (start ++ suffix)
    | none => malformed

/-- Gives a node's name away; a name is given once in a document. Returns the node's number. -/
def reserve : Option String → Compose (Option Nat)
  | none => return none
  | some name => do
    let s ← get
    if s.names.contains name then malformed
    set { s with names := name :: s.names }
    return some s.names.length

def define (anchor : Option String) (n : Node) : Compose Node := do
  match anchor with
  | some name => modify fun s => { s with anchors := (name, n) :: s.anchors }
  | none => pure ()
  return n

/-- A tag that leaves the choice open is no tag. -/
def givenTag? (tag : Option String) : Option String :=
  tag.filter (· != "!")

/-- The tag of a scalar. One that only says that there is a tag lets the text decide. -/
def scalarTag (tag : Option String) (text : String) (style : ScalarStyle) : String :=
  match tag with
  | none => if style = .plain then plainTag text else Tag.str
  | some t => if t = "!" then plainTag text else t

/-! ### Content -/

mutual

/-- A node. Block collections are admitted where `block` says so, and entries without an
indentation of their own where `indentless` does. -/
def node (block indentless : Bool) : Nat → Compose Node
  | 0 => malformed
  | fuel + 1 => do
    match ← peek with
    | some (.alias name) =>
      advance
      let s ← get
      match s.anchors.lookup name with
      | some n => return n
      | none => if s.names.contains name then throw .selfReference else malformed
    | _ =>
      let props ← properties
      let tag ← expandTag props.tag
      let token ← peek
      let share ← reserve props.anchor
      let sequenceTag := (givenTag? tag).getD Tag.seq
      let mappingTag := (givenTag? tag).getD Tag.map
      match token with
      | some .blockEntry =>
        if indentless then
          let items ← indentlessItems fuel
          define props.anchor (.sequence sequenceTag items false share)
        else emptyOr props tag share
      | some (.scalar text style) =>
        advance
        define props.anchor (.scalar (scalarTag tag text style) text style share)
      | some .flowSequenceStart =>
        advance
        let items ← flowItems true fuel
        define props.anchor (.sequence sequenceTag items true share)
      | some .flowMappingStart =>
        advance
        let pairs ← flowPairs true fuel
        define props.anchor (.mapping mappingTag pairs true share)
      | some .blockSequenceStart =>
        if block then
          advance
          let items ← blockItems fuel
          define props.anchor (.sequence sequenceTag items false share)
        else emptyOr props tag share
      | some .blockMappingStart =>
        if block then
          advance
          let pairs ← blockPairs fuel
          define props.anchor (.mapping mappingTag pairs false share)
        else emptyOr props tag share
      | _ => emptyOr props tag share
termination_by structural fuel => fuel

/-- Entries of a block sequence, up to its end. -/
def blockItems : Nat → Compose (List Node)
  | 0 => malformed
  | fuel + 1 => do
    match ← next with
    | some .blockEntry =>
      let item ←
        match ← peek with
        | some .blockEntry | some .blockEnd => pure emptyNode
        | _ => node true false fuel
      return item :: (← blockItems fuel)
    | some .blockEnd => return []
    | _ => malformed
termination_by structural fuel => fuel

/-- Entries at the indentation of the mapping around them. -/
def indentlessItems : Nat → Compose (List Node)
  | 0 => malformed
  | fuel + 1 => do
    if ← takes .blockEntry then
      let item ←
        match ← peek with
        | some .blockEntry | some .key | some .value | some .blockEnd => pure emptyNode
        | _ => node true false fuel
      return item :: (← indentlessItems fuel)
    else return []
termination_by structural fuel => fuel

/-- A key or value in a block mapping, or nothing. -/
def blockPart : Nat → Compose Node
  | 0 => malformed
  | fuel + 1 => do
    match ← peek with
    | some .key | some .value | some .blockEnd => return emptyNode
    | _ => node true true fuel
termination_by structural fuel => fuel

/-- Pairs of a block mapping, up to its end. -/
def blockPairs : Nat → Compose (List (Node × Node))
  | 0 => malformed
  | fuel + 1 => do
    match ← next with
    | some .key =>
      let key ← blockPart fuel
      let value ← if ← takes .value then blockPart fuel else pure emptyNode
      return (key, value) :: (← blockPairs fuel)
    | some .blockEnd => return []
    | _ => malformed
termination_by structural fuel => fuel

/-- A key or value in a flow collection, or nothing before one of the closing tokens. -/
def flowPart (close : Token) : Nat → Compose Node
  | 0 => malformed
  | fuel + 1 => do
    let t ← peek
    if t == some .flowEntry || t == some close then return emptyNode
    else node false false fuel
termination_by structural fuel => fuel

/-- The value behind a key in a flow collection. -/
def flowValue (close : Token) : Nat → Compose Node
  | 0 => malformed
  | fuel + 1 => do
    if ← takes .value then flowPart close fuel else return emptyNode
termination_by structural fuel => fuel

/-- Entries of a flow sequence, up to its end; a pair among them is a mapping of its own. -/
def flowItems (first : Bool) : Nat → Compose (List Node)
  | 0 => malformed
  | fuel + 1 => do
    if ← takes .flowSequenceEnd then return []
    else
      if !first then
        if !(← takes .flowEntry) then malformed
      if ← takes .key then
        let key ← if (← peek) == some .value then pure emptyNode else flowPart .flowSequenceEnd fuel
        let value ← flowValue .flowSequenceEnd fuel
        return .mapping Tag.map [(key, value)] true none :: (← flowItems false fuel)
      else if ← takes .flowSequenceEnd then return []
      else
        let item ← node false false fuel
        return item :: (← flowItems false fuel)
termination_by structural fuel => fuel

/-- Pairs of a flow mapping, up to its end; an entry without a mark is a key without a value. -/
def flowPairs (first : Bool) : Nat → Compose (List (Node × Node))
  | 0 => malformed
  | fuel + 1 => do
    if ← takes .flowMappingEnd then return []
    else
      if !first then
        if !(← takes .flowEntry) then malformed
      if ← takes .key then
        let key ← if (← peek) == some .value then pure emptyNode else flowPart .flowMappingEnd fuel
        let value ← flowValue .flowMappingEnd fuel
        return (key, value) :: (← flowPairs false fuel)
      else if ← takes .flowMappingEnd then return []
      else
        let key ← node false false fuel
        return (key, emptyNode) :: (← flowPairs false fuel)
termination_by structural fuel => fuel

/-- A node with properties may lack content. -/
def emptyOr (props : Properties) (tag : Option String) (share : Option Nat) : Compose Node :=
  if props.anchor.isSome || tag.isSome then
    define props.anchor (.scalar (scalarTag tag "" .plain) "" .plain share)
  else malformed

end

/-! ### Documents -/

def defaultHandles : List (String × String) := [("!", "!"), ("!!", Tag.core)]

/-- Directives before a document: a version once, each handle once. -/
def directives (versionSeen : Bool) (handles : List (String × String)) :
    Nat → Compose (List (String × String))
  | 0 => malformed
  | fuel + 1 => do
    match ← peek with
    | some (.versionDirective major) =>
      if versionSeen || major != 1 then malformed
      advance
      directives true handles fuel
    | some (.tagDirective handle start) =>
      if (handles.lookup handle).isSome then malformed
      advance
      directives versionSeen ((handle, start) :: handles) fuel
    | some .otherDirective =>
      advance
      directives versionSeen handles fuel
    | _ => return handles ++ defaultHandles

def skipDocumentEnds : Nat → Compose Unit
  | 0 => malformed
  | fuel + 1 => do
    if ← takes .documentEnd then skipDocumentEnds fuel

/-- The node of a document. -/
def content (fuel : Nat) : Compose Node := do
  match ← peek with
  | none => return emptyNode
  | some t =>
    match t with
    | .versionDirective _ | .tagDirective .. | .otherDirective | .documentStart | .documentEnd =>
      return emptyNode
    | _ => node true false fuel

/-- Anchors hold within one document. -/
def beginDocument (handles : List (String × String)) : Compose Unit :=
  modify fun s => { s with handles := handles, names := [], anchors := [] }

/-- Reads up to where the content of a marked document begins; says whether there is a document. -/
def markedStart (depth : Nat) : Compose Bool := do
  skipDocumentEnds depth
  match ← peek with
  | none => return false
  | some _ =>
    let handles ← directives false [] depth
    if !(← takes .documentStart) then malformed
    beginDocument handles
    return true

/-- A document that begins with its mark, if there is one. -/
def markedDocument (depth : Nat) : Compose (Option Node) := do
  if ← markedStart depth then
    let n ← content depth
    discard <| takes .documentEnd
    return some n
  else return none

/-- The first document, which may lack its mark. -/
def firstDocument (depth : Nat) : Compose (Option Node) := do
  match ← peek with
  | none => return none
  | some t =>
    match t with
    | .versionDirective _ | .tagDirective .. | .otherDirective | .documentStart =>
      markedDocument depth
    | _ =>
      beginDocument defaultHandles
      let n ← node true false depth
      discard <| takes .documentEnd
      return some n

/-- Documents that begin with a mark, up to the end. -/
def markedDocuments (depth : Nat) : Nat → Compose (List Node)
  | 0 => malformed
  | fuel + 1 => do
    match ← markedDocument depth with
    | none => return []
    | some n => return n :: (← markedDocuments depth fuel)

/-- All documents. -/
def documents (depth : Nat) : Compose (List Node) := do
  match ← firstDocument depth with
  | none => return []
  | some n => return n :: (← markedDocuments depth depth)

/-- The only document. What a second one holds is not looked at. -/
def onlyDocument (depth : Nat) : Compose (Option Node) := do
  match ← firstDocument depth with
  | none => return none
  | some n =>
    if ← markedStart depth then malformed
    return some n

/-- Reads a stream; there is more fuel than its tokens can use. -/
def ofStream (read : Nat → Compose α) (stream : Stream) : Except Fault α :=
  let (ts, fault) := tokens stream
  (read (4 * ts.length + 8)).run' { tokens := ts, fault := fault }

end Compose

/-- The documents of a stream. -/
def composeAll (stream : Stream) : Except Fault (List Node) :=
  Compose.ofStream Compose.documents stream

/-- The only document of a stream, none if it has no document. -/
def compose (stream : Stream) : Except Fault (Option Node) :=
  Compose.ofStream Compose.onlyDocument stream

end GameAtlas.Yaml
