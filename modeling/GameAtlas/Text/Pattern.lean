/-!
Regular patterns over characters. A text matches if what is left of the pattern after all its
characters admits the empty text.
-/

namespace GameAtlas.Text

inductive Pattern where
  | never
  | empty
  | char (admits : Char → Bool)
  | seq (first second : Pattern)
  | alt (first second : Pattern)
  | many (item : Pattern)

namespace Pattern

/-- Whether the empty text matches. -/
def admitsEmpty : Pattern → Bool
  | .never | .char _ => false
  | .empty | .many _ => true
  | .seq p q => p.admitsEmpty && q.admitsEmpty
  | .alt p q => p.admitsEmpty || q.admitsEmpty

/-- A sequence, kept small. -/
def join : Pattern → Pattern → Pattern
  | .never, _ | _, .never => .never
  | .empty, q => q
  | p, q => .seq p q

/-- An alternative, kept small. -/
def either : Pattern → Pattern → Pattern
  | .never, q => q
  | p, .never => p
  | p, q => .alt p q

/-- What has to follow a first character. -/
def after (c : Char) : Pattern → Pattern
  | .never | .empty => .never
  | .char admits => if admits c then .empty else .never
  | .seq p q => either (join (p.after c) q) (if p.admitsEmpty then q.after c else .never)
  | .alt p q => either (p.after c) (q.after c)
  | .many p => join (p.after c) (.many p)

def admits (p : Pattern) (cs : List Char) : Bool :=
  (cs.foldl (fun p c => p.after c) p).admitsEmpty

def one (c : Char) : Pattern := .char (· == c)

def oneOf (s : String) : Pattern := .char fun c => s.toList.contains c

def digit : Pattern := .char Char.isDigit

def word (s : String) : Pattern := s.toList.foldr (fun c p => .seq (one c) p) .empty

def all (ps : List Pattern) : Pattern := ps.foldr .seq .empty

def any (ps : List Pattern) : Pattern := ps.foldr .alt .never

def words (ss : List String) : Pattern := any (ss.map word)

def optional (p : Pattern) : Pattern := .alt p .empty

def some (p : Pattern) : Pattern := .seq p (.many p)

end Pattern

end GameAtlas.Text
