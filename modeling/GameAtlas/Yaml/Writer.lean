import GameAtlas.Yaml.Output

/-!
Nodes written as YAML text. Block collections are indented by two columns; a sequence that is a
value stands at the indentation of its mapping; a node that stands at several places is written once
under a name.
-/

namespace GameAtlas.Yaml

/-- What holds for a whole text: whether characters beyond ASCII stand as they are, whether every
document has its mark, and the names of shared nodes. -/
structure Style where
  unicode : Bool
  marked : Bool

/-- Where a node stands. -/
structure Position where
  root : Bool := false
  mapping : Bool := false
  simpleKey : Bool := false
  flow : Bool := false
  /-- The indentation of the collection around it. -/
  indentation : Option Nat := none

namespace Position

def step : Nat := 2

/-- The indentation of what stands within a flow collection or scalar. -/
def inner (p : Position) : Nat :=
  match p.indentation with
  | none => step
  | some n => n + step

/-- The indentation of the items of a block collection. -/
def items (p : Position) (indentless : Bool) : Nat :=
  match p.indentation with
  | none => 0
  | some n => if indentless then n else n + step

end Position

/-! ### Shared nodes -/

/-- The shared nodes that were met, and the numbers of those met again. -/
structure Shares where
  met : List Nat := []
  numbers : List (Nat × Nat) := []

/-- Notes that a node is met; says whether what it holds has to be looked at. -/
def Shares.meet (s : Shares) (share : Option Nat) : Shares × Bool :=
  match share with
  | none => (s, true)
  | some id =>
    if s.met.contains id then
      if (s.numbers.lookup id).isSome then (s, false)
      else ({ s with numbers := (id, s.numbers.length + 1) :: s.numbers }, false)
    else ({ s with met := id :: s.met }, true)

mutual

def Shares.ofNode (s : Shares) (n : Node) : Shares :=
  match n with
  | .scalar _ _ _ share => (s.meet share).1
  | .sequence _ items _ share =>
    let (s, fresh) := s.meet share
    if fresh then s.ofNodes items else s
  | .mapping _ pairs _ share =>
    let (s, fresh) := s.meet share
    if fresh then s.ofPairs pairs else s
termination_by structural n

def Shares.ofNodes (s : Shares) (ns : List Node) : Shares :=
  match ns with
  | [] => s
  | n :: rest => (s.ofNode n).ofNodes rest
termination_by structural ns

def Shares.ofPairs (s : Shares) (ps : List (Node × Node)) : Shares :=
  match ps with
  | [] => s
  | (k, v) :: rest => ((s.ofNode k).ofNode v).ofPairs rest
termination_by structural ps

end

/-- The name of a shared node: at least three digits. -/
def shareName (number : Nat) : String := "id" ++ Text.padLeft 3 '0' (toString number)

/-! ### Tags -/

def isTagChar (c : Char) : Bool :=
  c.isAlphanum || "-;/?:@&=+$,_.~*'()[]".toList.contains c

/-- The characters of a tag; others are written as bytes behind percent signs. -/
def tagText (bangs : Bool) (cs : List Char) : String :=
  String.join <| cs.map fun c =>
    if isTagChar c || (bangs && c == '!') then c.toString
    else
      String.join <| c.toString.toUTF8.toList.map fun b =>
        "%" ++ Text.padLeft 2 '0' (Text.upperHex b.toNat)

/-- A tag with its handle, or in full between angle brackets. -/
def writtenTag (tag : String) : String :=
  let cs := tag.toList
  let core := Tag.core.toList
  if tag = "!" then tag
  else if core.isPrefixOf cs && core.length < cs.length then
    "!!" ++ tagText true (cs.drop core.length)
  else
    match cs with
    | '!' :: name => "!" ++ tagText false name
    | _ => "!<" ++ tagText true cs ++ ">"

/-! ### Nodes -/

namespace Writer

/-- The name under which a node has to be written, if it stands at several places. -/
def name? (numbers : List (Nat × Nat)) (n : Node) : Option String :=
  (n.share.bind fun id => numbers.lookup id).map shareName

/-- Whether a node was written before, and only its name stands here. -/
def isRepeat (o : Output) (n : Node) : Bool :=
  match n.share with
  | some id => o.written.contains id
  | none => false

def isEmptyCollection : Node → Bool
  | .sequence _ [] _ _ | .mapping _ [] _ _ => true
  | _ => false

/-- Whether a node may be a key without a mark: an alias, an empty collection or a line of text,
shorter than 128 characters with its name and tag. -/
def isSimpleKey (style : Style) (numbers : List (Nat × Nat)) (o : Output) (n : Node) : Bool :=
  let nameLength := ((name? numbers n).map String.length).getD 0
  if (name? numbers n).isSome && isRepeat o n then nameLength < 128
  else
    let length := nameLength + (writtenTag n.tag).length
    match n with
    | .scalar _ text _ _ =>
      let a := admitted style.unicode text.toList
      length + text.length < 128 && !a.empty && !a.multiline
    | _ => length < 128 && isEmptyCollection n

/-- Writes the tag of a collection unless it goes without saying. -/
def collectionTag (o : Output) (tag usual : String) : Output :=
  if tag = usual then o else o.indicator (writtenTag tag) true

def scalar (style : Style) (p : Position) (o : Output) (tag text : String) (wanted : ScalarStyle) :
    Output :=
  let cs := text.toList
  let plainReads := tag == plainTag text
  let chosen := chooseStyle (admitted style.unicode cs) wanted plainReads p.flow p.simpleKey
  let reads := if chosen = .plain then plainReads else tag == Tag.str
  let o := if reads then o else o.indicator (writtenTag tag) true
  let split := !p.simpleKey
  match chosen with
  | .plain => o.plain cs split p.root p.inner
  | .singleQuoted => o.singleQuoted cs split p.inner
  | .doubleQuoted => o.doubleQuoted cs style.unicode split p.inner
  | .literal => o.literal cs p.inner
  | .folded => o.folded cs p.inner

/-- Breaks a line that is too long. -/
def wrap (o : Output) (indentation : Nat) : Output :=
  if Output.width < o.column then o.indent indentation else o

mutual

def node (style : Style) (numbers : List (Nat × Nat)) (p : Position) (o : Output) (n : Node) :
    Output :=
  match n with
  | .scalar tag text wanted share =>
    enter numbers o share fun o => scalar style p o tag text wanted
  | .sequence tag items flow share =>
    enter numbers o share fun o =>
      let o := collectionTag o tag Tag.seq
      if p.flow || flow || items.isEmpty then
        let o := o.indicator "[" true true
        (flowItems style numbers p.inner true o items).indicator "]" false
      else
        blockItems style numbers (p.items (p.mapping && !o.indenting)) o items
  | .mapping tag pairs flow share =>
    enter numbers o share fun o =>
      let o := collectionTag o tag Tag.map
      if p.flow || flow || pairs.isEmpty then
        let o := o.indicator "\x7b" true true
        (flowPairs style numbers p.inner true o pairs).indicator "\x7d" false
      else
        blockPairs style numbers (p.items false) o pairs
termination_by structural n

/-- Writes the name of a shared node, and its content the first time. -/
def enter (numbers : List (Nat × Nat)) (o : Output) (share : Option Nat)
    (content : Output → Output) : Output :=
  match share with
  | none => content o
  | some id =>
    match numbers.lookup id with
    | none => content o
    | some number =>
      if o.written.contains id then o.indicator ("*" ++ shareName number) true
      else
        let o := { o with written := id :: o.written }
        content (o.indicator ("&" ++ shareName number) true)

def flowItems (style : Style) (numbers : List (Nat × Nat)) (indentation : Nat) (first : Bool)
    (o : Output) (items : List Node) : Output :=
  match items with
  | [] => o
  | n :: rest =>
    let o := wrap (if first then o else o.indicator "," false) indentation
    let o := node style numbers { flow := true, indentation := some indentation } o n
    flowItems style numbers indentation false o rest
termination_by structural items

def flowPairs (style : Style) (numbers : List (Nat × Nat)) (indentation : Nat) (first : Bool)
    (o : Output) (pairs : List (Node × Node)) : Output :=
  match pairs with
  | [] => o
  | (k, v) :: rest =>
    let p : Position := { mapping := true, flow := true, indentation := some indentation }
    let o := wrap (if first then o else o.indicator "," false) indentation
    let o :=
      if isSimpleKey style numbers o k then
        (node style numbers { p with simpleKey := true } o k).indicator ":" false
      else
        (wrap (node style numbers p (o.indicator "?" true) k) indentation).indicator ":" true
    flowPairs style numbers indentation false (node style numbers p o v) rest
termination_by structural pairs

def blockItems (style : Style) (numbers : List (Nat × Nat)) (indentation : Nat) (o : Output)
    (items : List Node) : Output :=
  match items with
  | [] => o
  | n :: rest =>
    let o := (o.indent indentation).indicator "-" true false true
    let o := node style numbers { indentation := some indentation } o n
    blockItems style numbers indentation o rest
termination_by structural items

def blockPairs (style : Style) (numbers : List (Nat × Nat)) (indentation : Nat) (o : Output)
    (pairs : List (Node × Node)) : Output :=
  match pairs with
  | [] => o
  | (k, v) :: rest =>
    let p : Position := { mapping := true, indentation := some indentation }
    let o := o.indent indentation
    let o :=
      if isSimpleKey style numbers o k then
        (node style numbers { p with simpleKey := true } o k).indicator ":" false
      else
        let o := node style numbers p (o.indicator "?" true false true) k
        (o.indent indentation).indicator ":" true false true
    blockPairs style numbers indentation (node style numbers p o v) rest
termination_by structural pairs

end

/-- A document onto what was written. -/
def document (style : Style) (o : Output) (n : Node) : Output :=
  let o := if style.marked then (o.indent 0).indicator "---" true else o
  let numbers := (Shares.ofNode {} n).numbers
  (node style numbers { root := true } { o with written := [] } n).indent 0

end Writer

/-- Documents as one text. An open end is closed. -/
def write (style : Style) (ns : List Node) : String :=
  let o := ns.foldl (Writer.document style) {}
  (if o.openEnded then (o.indicator "..." true).indent 0 else o).text

end GameAtlas.Yaml
