import Reckoner.Text.Unprintable

/-!
# Quoted characters and texts

A character is shown between single quotes and a text between double quotes.
Inside the quotes the backslash, the surrounding quote and four common controls
are written with a backslash, and every other character without a glyph of its
own is written by its code point in lower-case hexadecimal digits.  All other
characters stand for themselves.
-/

namespace Reckoner.Quoted

/-- The quote that stands on both sides of what is shown. -/
inductive Mark where
  | single
  | double
  deriving DecidableEq, Repr

/-- The character that writes the quote. -/
def Mark.character : Mark → Char
  | .single => '\''
  | .double => '"'

/-- A character written by its code point. -/
def byCodePoint (character : Char) : List Char :=
  ['\\', 'u', '\x7b'] ++ Nat.toDigits 16 character.toNat ++ ['\x7d']

/-- The characters that stand for one character inside quotes. -/
def escape (mark : Mark) (character : Char) : List Char :=
  if character = '\x00' then
    ['\\', '0']
  else if character = '\t' then
    ['\\', 't']
  else if character = '\r' then
    ['\\', 'r']
  else if character = '\n' then
    ['\\', 'n']
  else if character = '\\' || character = mark.character then
    ['\\', character]
  else if Unprintable.contains character then
    byCodePoint character
  else
    [character]

/-- A sequence of characters between two quotes of one kind. -/
def enclose (mark : Mark) (characters : List Char) : String :=
  String.ofList
    (mark.character :: characters.flatMap (escape mark) ++ [mark.character])

/-- A character between single quotes. -/
def character (shown : Char) : String :=
  enclose .single [shown]

/-- A text between double quotes. -/
def text (shown : String) : String :=
  enclose .double shown.toList

end Reckoner.Quoted
