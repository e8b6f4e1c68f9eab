import Mathlib.Tactic
import GameAtlas.Projection.Document
import GameAtlas.Proofs.Data.Outcome
import GameAtlas.Proofs.Image.RoundTrip
import GameAtlas.Proofs.Text.Numeral

/-!
Documents in both forms of colors. Where a value has no colors, its documents are the same, and
they fail alike; where it has some, their triples of numbers are the texts of the other form. A text
has two capital digits for each number, so that it denotes the color that the triple is.
-/

namespace GameAtlas.Projection

open Image (Value)
open Schema (Field Game)

/-! ### Hexadecimal texts -/

/-- The value of a capital hexadecimal digit. -/
def hexValue? (c : Char) : Option Nat := "0123456789ABCDEF".toList.idxOf? c

theorem hexValue?_capitalDigit : ∀ d < 16, hexValue? (Text.capitalDigit d) = some d := by
  decide

/-- The number that two capital hexadecimal digits denote. -/
def hexPair? (high low : Char) : Option Nat := do return 16 * (← hexValue? high) + (← hexValue? low)

theorem toList_paddedHex {n : Nat} (h : n < 256) :
    (Text.padLeft 2 '0' (Text.upperHex n)).toList =
      [Text.capitalDigit (n / 16), Text.capitalDigit (n % 16)] := by
  have hlength : (Text.upperHex n).length = (Text.capitalDigits 16 n).length := by
    rw [← Text.upperHex_toList, String.length_toList]
  rw [Text.padLeft, String.toList_append, String.toList_ofList, Text.upperHex_toList, hlength]
  by_cases hsmall : n < 16
  · rw [Text.capitalDigits_of_lt hsmall, Nat.div_eq_of_lt hsmall, Nat.mod_eq_of_lt hsmall]
    rfl
  · rw [Text.capitalDigits_of_le (by decide) (not_lt.mp hsmall),
      Text.capitalDigits_of_lt (by omega : n / 16 < 16)]
    rfl

theorem hexPair?_capitalDigit {n : Nat} (h : n < 256) :
    hexPair? (Text.capitalDigit (n / 16)) (Text.capitalDigit (n % 16)) = some n := by
  rw [hexPair?, hexValue?_capitalDigit _ (by omega), hexValue?_capitalDigit _ (by omega)]
  exact congrArg some (Nat.div_add_mod n 16)

namespace Rgb

/-- The color that a number sign and two capital hexadecimal digits for each part denote. -/
def ofHex? (s : String) : Option Rgb :=
  match s.toList with
  | ['#', r, r', g, g', b, b'] => do
    return ⟨← hexPair? r r', ← hexPair? g g', ← hexPair? b b'⟩
  | _ => none

/-- The parts of a color are bytes. -/
structure IsBytes (c : Rgb) : Prop where
  red : c.red ≤ 255
  green : c.green ≤ 255
  blue : c.blue ≤ 255

theorem ofHex?_hex {c : Rgb} (h : c.IsBytes) : ofHex? c.hex = some c := by
  have hred : c.red < 256 := Nat.lt_succ_of_le h.red
  have hgreen : c.green < 256 := Nat.lt_succ_of_le h.green
  have hblue : c.blue < 256 := Nat.lt_succ_of_le h.blue
  have htext : c.hex.toList =
      ['#', Text.capitalDigit (c.red / 16), Text.capitalDigit (c.red % 16),
        Text.capitalDigit (c.green / 16), Text.capitalDigit (c.green % 16),
        Text.capitalDigit (c.blue / 16), Text.capitalDigit (c.blue % 16)] := by
    simp [hex, toList, toList_paddedHex hred, toList_paddedHex hgreen, toList_paddedHex hblue]
  simp only [ofHex?, htext, hexPair?_capitalDigit hred, hexPair?_capitalDigit hgreen,
    hexPair?_capitalDigit hblue]
  rfl

end Rgb

/-! ### Colors of bytes -/

theorem expand5_le {channel : Nat} (h : channel < 32) : expand5 channel ≤ 255 := by
  unfold expand5
  omega

theorem isBytes_colorOfWord (word : Nat) : (colorOfWord word).IsBytes where
  red := expand5_le (Nat.mod_lt _ (by decide))
  green := expand5_le (Nat.mod_lt _ (by decide))
  blue := expand5_le (Nat.mod_lt _ (by decide))

theorem isBytes_of_wordColors {data : List UInt8} {colors : List Rgb}
    (h : wordColors data = .ok colors) : ∀ c ∈ colors, c.IsBytes := by
  induction data using wordColors.induct generalizing colors with
  | case1 =>
    cases h
    exact nofun
  | case2 => cases h
  | case3 low high rest ih =>
    rw [wordColors] at h
    obtain ⟨more, hmore, hpure⟩ := bind_eq_ok_iff.mp h
    cases hpure
    intro c hc
    rcases List.mem_cons.mp hc with rfl | hc
    · exact isBytes_colorOfWord _
    · exact ih hmore c hc

theorem isBytes_of_byteColors {data : List UInt8} {colors : List Rgb}
    (h : byteColors data = .ok colors) : ∀ c ∈ colors, c.IsBytes := by
  induction data using byteColors.induct generalizing colors with
  | case1 =>
    cases h
    exact nofun
  | case2 r g b rest ih =>
    rw [byteColors] at h
    obtain ⟨more, hmore, hpure⟩ := bind_eq_ok_iff.mp h
    cases hpure
    intro c hc
    rcases List.mem_cons.mp hc with rfl | hc
    · exact ⟨Nat.le_of_lt_succ r.toNat_lt, Nat.le_of_lt_succ g.toNat_lt,
        Nat.le_of_lt_succ b.toNat_lt⟩
    · exact ih hmore c hc
  | case3 data hnone hshort =>
    rw [byteColors] at h
    · cases h
    · exact hnone
    · exact hshort

theorem isBytes_of_colorValues {data : List UInt8} {format : String} {colors : List Rgb}
    (h : colorValues data format = .ok colors) : ∀ c ∈ colors, c.IsBytes := by
  unfold colorValues at h
  generalize Text.toUpper (if format = "" then defaultColorFormat else format) = name at h
  dsimp only at h
  split at h
  · exact isBytes_of_wordColors h
  · split at h
    · exact isBytes_of_byteColors h
    · cases h

/-! ### Documents with hexadecimal colors -/

/-- The three numbers of a color as its hexadecimal text. -/
def hexOfTriple : Doc → Doc
  | .list [.number r, .number g, .number b] => .text (Rgb.hex ⟨r.toNat, g.toNat, b.toNat⟩)
  | d => d

mutual

/-- The document of a value with the triples of its colors, wherever it has some, as hexadecimal
texts, and everything else as it is. -/
def recolored (v : Value) (d : Doc) : Doc :=
  match v, d with
  | .raw f _ _, .list items => .list (if f.kind = .color then items.map hexOfTriple else items)
  | .elements _ _ vs, .list items => .list (recoloredAll vs items)
  | .members _ _ parts, .map pairs =>
    .map (pairs.map fun p => (p.1, recoloredMember parts p.1 p.2))
  | _, d => d
termination_by structural v

def recoloredAll (vs : List Value) (ds : List Doc) : List Doc :=
  match vs, ds with
  | v :: rest, d :: more => recolored v d :: recoloredAll rest more
  | _, ds => ds
termination_by structural vs

/-- The document of the first member of a name. -/
def recoloredMember (parts : List Value) (name : String) (d : Doc) : Doc :=
  match parts with
  | [] => d
  | v :: rest => if v.name = name then recolored v d else recoloredMember rest name d
termination_by structural parts

end

section

variable {game : Option Game} {form : ColorForm}

theorem keys_memberDocs [Host] {seen : List String} {vs : List Value} {pairs : List (String × Doc)}
    (h : memberDocs game form seen vs = .ok pairs) : ∀ p ∈ pairs, p.1 ∉ seen := by
  induction vs generalizing seen pairs with
  | nil =>
    cases h
    exact nofun
  | cons v rest ih =>
    rw [memberDocs] at h
    split at h
    · exact ih h
    next hnew =>
      obtain ⟨d, _, h⟩ := bind_eq_ok_iff.mp h
      obtain ⟨more, hmore, hpure⟩ := bind_eq_ok_iff.mp h
      cases hpure
      intro p hp
      rcases List.mem_cons.mp hp with rfl | hp
      · simpa using hnew
      · exact fun hseen => ih hmore p hp (List.mem_cons_of_mem _ hseen)

/-- A name that has been seen is none of those behind it: the first member of a name is the one that
has the document. -/
theorem recoloredMember_behind [Host] {seen : List String} {v : Value} {rest : List Value}
    {pairs : List (String × Doc)} (hv : v.name ∈ seen)
    (h : memberDocs game form seen rest = .ok pairs) :
    pairs.map (fun p => (p.1, recoloredMember rest p.1 p.2)) =
      pairs.map fun p => (p.1, recoloredMember (v :: rest) p.1 p.2) := by
  refine List.map_congr_left fun p hp => ?_
  have hne : v.name ≠ p.1 := fun heq => keys_memberDocs h p hp (heq ▸ hv)
  rw [recoloredMember, if_neg hne]

theorem recolored_of_ne_color {f : Field} (h : f.kind ≠ .color) (consumed : Nat)
    (bytes : List UInt8) (d : Doc) : recolored (.raw f consumed bytes) d = d := by
  cases d <;> simp [recolored, h]

theorem rawDoc_of_ne_color [Host] {f : Field} (h : f.kind ≠ .color) (bytes : List UInt8) :
    rawDoc game .hex f bytes = rawDoc game .triples f bytes := by
  unfold rawDoc
  split
  · rfl
  · rfl
  next hcolor => exact absurd hcolor h
  · rfl

theorem rawDoc_of_color [Host] {f : Field} (h : f.kind = .color) (bytes : List UInt8) :
    rawDoc game form f bytes =
      ((colorValues bytes f.format).mapError .color).map fun colors =>
        .list (colors.map form.doc) := by
  unfold rawDoc
  rw [h]
  dsimp only
  cases colorValues bytes f.format <;> rfl

theorem hexOfTriple_doc (c : Rgb) : hexOfTriple (ColorForm.triples.doc c) = ColorForm.hex.doc c :=
  rfl

theorem rawDoc_hex [Host] (f : Field) (consumed : Nat) (bytes : List UInt8) :
    rawDoc game .hex f bytes =
      (rawDoc game .triples f bytes).map (recolored (.raw f consumed bytes)) := by
  by_cases h : f.kind = .color
  · rw [rawDoc_of_color h, rawDoc_of_color h]
    cases colorValues bytes f.format with
    | error e => rfl
    | ok colors => simp [Except.mapError, Except.map, recolored, h, hexOfTriple_doc]
  · rw [rawDoc_of_ne_color h]
    cases rawDoc game .triples f bytes with
    | error e => rfl
    | ok d => exact congrArg Except.ok (recolored_of_ne_color h consumed bytes d).symm

mutual

/-- The induction is on the value; `memberDocs_hex` has what needs an argument. -/
theorem document_hex [Host] (v : Value) :
    document game .hex v = (document game .triples v).map (recolored v) := by
  cases v with
  | number f width n => rfl
  | raw f consumed bytes => exact rawDoc_hex f consumed bytes
  | elements f consumed items =>
    rw [document, document, documents_hex items]
    cases documents game .triples items <;> rfl
  | members f consumed parts =>
    rw [document, document, memberDocs_hex [] parts]
    cases memberDocs game .triples [] parts <;> rfl
termination_by structural v

theorem documents_hex [Host] (vs : List Value) :
    documents game .hex vs = (documents game .triples vs).map (recoloredAll vs) := by
  cases vs with
  | nil => rfl
  | cons v rest =>
    rw [documents, documents, document_hex v, documents_hex rest]
    cases document game .triples v with
    | error e => rfl
    | ok d => cases documents game .triples rest <;> rfl
termination_by structural vs

theorem memberDocs_hex [Host] (seen : List String) (vs : List Value) :
    memberDocs game .hex seen vs =
      (memberDocs game .triples seen vs).map fun pairs =>
        pairs.map fun p => (p.1, recoloredMember vs p.1 p.2) := by
  cases vs with
  | nil => rfl
  | cons v rest =>
    rw [memberDocs, memberDocs]
    by_cases hseen : seen.contains v.name
    · rw [if_pos hseen, if_pos hseen, memberDocs_hex seen rest]
      cases hrest : memberDocs game .triples seen rest with
      | error e => rfl
      | ok pairs => exact congrArg Except.ok (recoloredMember_behind (by simpa using hseen) hrest)
    · rw [if_neg hseen, if_neg hseen, document_hex v, memberDocs_hex (v.name :: seen) rest]
      cases document game .triples v with
      | error e => rfl
      | ok d =>
        cases hrest : memberDocs game .triples (v.name :: seen) rest with
        | error e => rfl
        | ok pairs =>
          have hfirst : recoloredMember (v :: rest) v.name d = recolored v d := by
            rw [recoloredMember, if_pos rfl]
          have hmore := recoloredMember_behind List.mem_cons_self hrest
          exact congrArg₂ (fun d ds => Except.ok ((v.name, d) :: ds)) hfirst.symm hmore
termination_by structural vs

end

end

/-- A value has both documents or fails alike in both forms. Its document with hexadecimal colors is
the other with the triples of its colors as texts, and nothing else changed: the same keys, in the
same order, as many items, the same leaves. Each triple is made of bytes and of no other color than
the one that its text denotes. -/
theorem toJson_recolored [Host] (game : Option Game) (v : Value) :
    toJson game v = (toDocument game v).map (recolored v) ∧
    ∀ f consumed bytes d, f.kind = .color → Value.raw f consumed bytes ∈ v.walk →
      toDocument game (.raw f consumed bytes) = .ok d →
        ∃ colors : List Rgb, d = .list (colors.map ColorForm.triples.doc) ∧
          recolored (.raw f consumed bytes) d = .list (colors.map fun c => .text c.hex) ∧
          ∀ c ∈ colors, c.IsBytes ∧ Rgb.ofHex? c.hex = some c := by
  refine ⟨document_hex v, ?_⟩
  intro f consumed bytes d hcolor _ hd
  rw [toDocument, document, rawDoc_of_color hcolor] at hd
  cases hcolors : colorValues bytes f.format with
  | error e =>
    rw [hcolors] at hd
    cases hd
  | ok colors =>
    rw [hcolors] at hd
    cases hd
    refine ⟨colors, rfl, ?_, ?_⟩
    · rw [recolored, if_pos hcolor, List.map_map]
      rfl
    · intro c hc
      have hbytes := isBytes_of_colorValues hcolors c hc
      exact ⟨hbytes, Rgb.ofHex?_hex hbytes⟩

/-- A palette of one color, and three bytes that are no color. -/
def samplePalette : Value :=
  .members { kind := .struct } 5
    [.raw { kind := .color, name := "PALETTE" } 2 [0x1F, 0x7C],
      .raw { kind := .undefined, name := "BLANK" } 3 [255, 0, 255]]

/-- The color becomes a text, and three numbers that are no color stay three numbers. -/
theorem samplePalette_recolored :
    let numbers := Doc.list [.number 255, .number 0, .number 255]
    toDocument none samplePalette = .ok (.map [("PALETTE", .list [numbers]), ("BLANK", numbers)]) ∧
      toJson none samplePalette =
        .ok (.map [("PALETTE", .list [.text "#FF00FF"]), ("BLANK", numbers)]) ∧
      ∃ colors : List Rgb, Doc.list [numbers] = .list (colors.map ColorForm.triples.doc) ∧
        ∀ c ∈ colors, Rgb.ofHex? c.hex = some c := by
  intro numbers
  have hdocument : toDocument none samplePalette =
      .ok (.map [("PALETTE", .list [numbers]), ("BLANK", numbers)]) := rfl
  obtain ⟨hjson, hcolors⟩ := toJson_recolored none samplePalette
  obtain ⟨colors, hnumbers, _, hexact⟩ :=
    hcolors { kind := .color, name := "PALETTE" } 2 [0x1F, 0x7C] (.list [numbers]) rfl
      (.tail _ (.head _)) rfl
  refine ⟨hdocument, ?_, colors, hnumbers, fun c hc => (hexact c hc).2⟩
  rw [hjson, hdocument]
  rfl

end GameAtlas.Projection
