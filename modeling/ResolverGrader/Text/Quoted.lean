import ResolverGrader.Text.Unicode

/-!
# Quoted text

A text in double quotes that shows every character unambiguously: quotes and
backslashes get a backslash, five control characters have letters of their own,
and a character that has no visible form, or that would be drawn onto its
neighbour, is written by its number.  Because a backslash always begins an
escape, different texts have different quotations, and no quotation spans
lines.
-/

namespace ResolverGrader.Text.Quoted

/--
Whether a character is drawn onto its neighbour.  The halfwidth sound marks
extend a grapheme too, but each of them is drawn in a place of its own.
-/
def isDrawnOnNeighbour (character : Char) : Bool :=
  Unicode.graphemeExtend.contains character &&
    !Unicode.halfwidthSoundMarks.contains character

/-- Whether a character is written by its number. -/
def needsNumber (character : Char) : Bool :=
  isDrawnOnNeighbour character || Unicode.unprintable.contains character ||
    Unicode.fillers.contains character

/-- A character by its number, in lower-case hexadecimal between braces. -/
def byNumber (character : Char) : List Char :=
  ['\\', 'u', '\x7b'] ++ Nat.toDigits 16 character.toNat ++ ['\x7d']

/-- One character inside quotes. -/
def escapeChar (character : Char) : List Char :=
  if character = '\x00' then ['\\', '0']
  else if character = '\t' then ['\\', 't']
  else if character = '\r' then ['\\', 'r']
  else if character = '\n' then ['\\', 'n']
  else if character = '\\' then ['\\', '\\']
  else if character = '"' then ['\\', '"']
  else if needsNumber character then byNumber character
  else [character]

/-- The inside of the quotation of a text. -/
def escape (text : List Char) : List Char :=
  text.flatMap escapeChar

/-- A text in quotes. -/
def quote (text : List Char) : List Char :=
  '"' :: escape text ++ ['"']

example :
    quote "a\"b\\\n".toList = "\"a\\\"b\\\\\\n\"".toList := by
  decide +kernel

end ResolverGrader.Text.Quoted
