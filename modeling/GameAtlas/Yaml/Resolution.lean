import GameAtlas.Text.Blank
import GameAtlas.Text.Pattern
import GameAtlas.Yaml.Node

/-!
Tags of plain scalars without one. The text decides: each kind has its shapes, the kinds are tried
in a fixed order, and what fits none is text.
-/

namespace GameAtlas.Yaml

open Text

namespace Shape

def sign : Pattern := .optional (.oneOf "+-")

/-- Digits and underscores. -/
def digitsAndBars : Pattern := .many (.char fun c => c.isDigit || c == '_')

/-- A colon and a number below sixty. -/
def sixtieth : Pattern :=
  .all [.one ':', .optional (.char fun c => '0' ≤ c && c ≤ '5'), .digit]

/-- An exponent, which must have a sign. -/
def exponent : Pattern := .optional (.all [.oneOf "eE", .oneOf "+-", .some .digit])

def bool : Pattern :=
  .words ["yes", "Yes", "YES", "no", "No", "NO", "true", "True", "TRUE", "false", "False", "FALSE",
    "on", "On", "ON", "off", "Off", "OFF"]

def float : Pattern :=
  .any [
    .all [sign, .digit, digitsAndBars, .one '.', digitsAndBars, exponent],
    .all [.one '.', .digit, digitsAndBars, exponent],
    .all [sign, .digit, digitsAndBars, .some sixtieth, .one '.', digitsAndBars],
    .all [sign, .words [".inf", ".Inf", ".INF"]],
    .words [".nan", ".NaN", ".NAN"]]

def int : Pattern :=
  .any [
    .all [sign, .word "0b", .some (.oneOf "01_")],
    .all [sign, .one '0', .some (.oneOf "01234567_")],
    .all [sign, .any [.one '0', .all [.oneOf "123456789", digitsAndBars]]],
    .all [sign, .word "0x", .some (.oneOf "0123456789abcdefABCDEF_")],
    .all [sign, .oneOf "123456789", digitsAndBars, .some sixtieth]]

def null : Pattern := .words ["~", "null", "Null", "NULL", ""]

def twoDigits : Pattern := .all [.digit, .digit]

def oneOrTwoDigits : Pattern := .all [.digit, .optional .digit]

def timestamp : Pattern :=
  let year := Pattern.all [.digit, .digit, .digit, .digit]
  let zone := Pattern.all [.many (.oneOf " \t"), .any [.one 'Z',
    .all [.oneOf "+-", oneOrTwoDigits, .optional (.all [.one ':', twoDigits])]]]
  .any [
    .all [year, .one '-', twoDigits, .one '-', twoDigits],
    .all [year, .one '-', oneOrTwoDigits, .one '-', oneOrTwoDigits,
      .any [.oneOf "Tt", .some (.oneOf " \t")], oneOrTwoDigits, .one ':', twoDigits, .one ':',
      twoDigits, .optional (.all [.one '.', .many .digit]), .optional zone]]

end Shape

/-- The shapes of plain scalars, in the order in which they are tried. -/
def shapes : List (String × Pattern) :=
  [(Tag.bool, Shape.bool), (Tag.float, Shape.float), (Tag.int, Shape.int),
   (Tag.merge, .word "<<"), (Tag.null, Shape.null), (Tag.timestamp, Shape.timestamp),
   (Tag.value, .word "="), (Tag.yaml, .words ["!", "&", "*"])]

/-- The text of a scalar that shapes are compared with. A line feed at its end does not count, but
one alone has no shape. -/
def shaped (cs : List Char) : List Char :=
  if cs = ['\n'] then cs else Text.withoutLastLineFeed cs

/-- The tag that a plain scalar has by its text. -/
def plainTag (text : String) : String :=
  match shapes.find? fun (_, shape) => shape.admits (shaped text.toList) with
  | some (tag, _) => tag
  | none => Tag.str

end GameAtlas.Yaml
