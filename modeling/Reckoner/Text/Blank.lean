/-!
# White space

Which characters count as white space where a line is trimmed or tested for
being blank: those with the white space property of the Unicode character
database.  Between the tokens of a formula only the plain space is skipped, so
this class plays no part there.
-/

namespace Reckoner.Blank

/-- Whether a character is white space. -/
def isSpace (character : Char) : Bool :=
  let point := character.toNat
  (0x09 ≤ point && point ≤ 0x0D) || point == 0x20 || point == 0x85 ||
    point == 0xA0 || point == 0x1680 || (0x2000 ≤ point && point ≤ 0x200A) ||
    point == 0x2028 || point == 0x2029 || point == 0x202F || point == 0x205F ||
    point == 0x3000

/-- Whether a text holds nothing but white space. -/
def isBlank (text : String) : Bool :=
  text.toList.all isSpace

/-- The characters that are left without the white space at the end. -/
def dropRight (characters : List Char) : List Char :=
  (characters.reverse.dropWhile isSpace).reverse

/-- A text without the white space at its end. -/
def trimRight (text : String) : String :=
  String.ofList (dropRight text.toList)

/-- A text without the white space at its two ends. -/
def trim (text : String) : String :=
  String.ofList (dropRight (text.toList.dropWhile isSpace))

end Reckoner.Blank
