import GameAtlas.Text.Decomposition

/-!
Normalization: characters are taken apart, marks are put in the order of their classes, and what
composes is put together again. ASCII stays as it is.
-/

namespace GameAtlas.Text

namespace Normalization

/-! ### Syllables that are composed by rule -/

def syllableBase : Nat := 0xAC00
def leadBase : Nat := 0x1100
def vowelBase : Nat := 0x1161
def tailBase : Nat := 0x11A7
def leadCount : Nat := 19
def vowelCount : Nat := 21
def tailCount : Nat := 28

def isSyllable (n : Nat) : Bool :=
  syllableBase ≤ n && n < syllableBase + leadCount * vowelCount * tailCount

/-- The letters of a syllable; one without a tail has two. -/
def letters (n : Nat) : List Nat :=
  let i := n - syllableBase
  let lead := leadBase + i / (vowelCount * tailCount)
  let vowel := vowelBase + i % (vowelCount * tailCount) / tailCount
  let tail := i % tailCount
  if tail = 0 then [lead, vowel] else [lead, vowel, tailBase + tail]

/-- The syllable of two letters, or of a syllable without a tail and a tail. -/
def syllable? (a b : Nat) : Option Nat :=
  if leadBase ≤ a && a < leadBase + leadCount && vowelBase ≤ b && b < vowelBase + vowelCount then
    some (syllableBase + ((a - leadBase) * vowelCount + (b - vowelBase)) * tailCount)
  else if isSyllable a && (a - syllableBase) % tailCount == 0 && tailBase < b &&
      b < tailBase + tailCount then
    some (a + (b - tailBase))
  else none

/-! ### The three steps -/

/-- What a character is made of. -/
def decompose (n : Nat) : List Nat :=
  if isSyllable n then letters n
  else
    match decompositions.find? fun r => r.holds n with
    | some r => if r.length = 1 then r.image else r.image.map fun k => k + (n - r.first)
    | none => [n]

def combiningClass (n : Nat) : Nat :=
  match combiningRuns.find? fun r => r.holds n with
  | some r => r.image.headD 0
  | none => 0

/-- Puts a mark behind the marks of its class and below. -/
def insertMark (mark : Nat × Nat) : List (Nat × Nat) → List (Nat × Nat)
  | [] => [mark]
  | m :: rest => if m.2 ≤ mark.2 then m :: insertMark mark rest else mark :: m :: rest

/-- Orders marks by class. `marks` are those since the last character that is none. -/
def order (marks : List (Nat × Nat)) : List Nat → List Nat
  | [] => marks.map Prod.fst
  | n :: rest =>
    let c := combiningClass n
    if c = 0 then marks.map Prod.fst ++ n :: order [] rest
    else order (insertMark (n, c) marks) rest

def compose? (a b : Nat) : Option Nat :=
  match syllable? a b with
  | some n => some n
  | none => (compositions.find? fun r => r.image == [a, b]).map fun r => r.first

/-- Composes. `starter` is the last character that is no mark, `marks` are the marks behind it that
did not compose, the latest first, and `last` is the class of the latest. -/
def compose (starter : Option Nat) (marks : List Nat) (last : Nat) : List Nat → List Nat
  | [] => starter.toList ++ marks.reverse
  | n :: rest =>
    let c := combiningClass n
    match starter with
    | none => if c = 0 then compose (some n) [] 0 rest else n :: compose none [] 0 rest
    | some s =>
      let free := marks.isEmpty || last < c
      match if free then compose? s n else none with
      | some composed => compose (some composed) marks last rest
      | none =>
        if c = 0 then s :: marks.reverse ++ compose (some n) [] 0 rest
        else compose starter (n :: marks) c rest

end Normalization

/-- The normal form of a text. -/
def normalize (s : String) : String :=
  if s.toList.all fun c => c.toNat < 0x80 then s
  else
    let parts := s.toList.flatMap fun c => Normalization.decompose c.toNat
    String.ofList ((Normalization.compose none [] 0 (Normalization.order [] parts)).map Char.ofNat)

end GameAtlas.Text
