import Reckoner.FileTree

/-!
# Sources and their lines

A source is a sequence of bytes.  A line ends at a line feed; one carriage
return right before the line feed belongs to the line end too.  What follows
the last line feed is a line of its own unless it is empty, and a carriage
return at its end is part of it.  A line whose bytes are not valid UTF-8 is a
fault in its place, and the lines around it are not affected.
-/

namespace Reckoner

/-- A line as it was read: a text, or why it could not be read. -/
abbrev Line : Type :=
  Except FileFault String

namespace Line

/-- The byte that ends a line. -/
def lineFeed : UInt8 := 10

/-- The byte that may stand before the end of a line. -/
def carriageReturn : UInt8 := 13

/-- The text that bytes encode. -/
def ofBytes (bytes : List UInt8) : Line :=
  match String.fromUTF8? ⟨bytes.toArray⟩ with
  | some text => .ok text
  | none => .error .invalidEncoding

/-- The bytes that encode a text. -/
def toBytes (text : String) : List UInt8 :=
  text.toUTF8.data.toList

/-- The bytes of a text decode to the text. -/
@[simp]
theorem ofBytes_toBytes
    (text : String) :
    ofBytes (toBytes text) = .ok text := by
  have whole : (⟨(toBytes text).toArray⟩ : ByteArray) = text.toByteArray := by
    simp [toBytes]
  have decoded : String.fromUTF8? text.toByteArray = some text := by
    unfold String.fromUTF8?
    rw [dif_pos text.isValidUTF8]
    rfl
  rw [ofBytes, whole, decoded]

/-- The bytes of two texts, one after the other, are those of the whole. -/
@[simp]
theorem toBytes_append (first second : String) :
    toBytes (first ++ second) = toBytes first ++ toBytes second := by
  simp [toBytes]

/-- Without the carriage return at its end, a line being given in reverse. -/
def dropReturn : List UInt8 → List UInt8
  | byte :: earlier =>
      if byte = carriageReturn then earlier else byte :: earlier
  | [] => []

/--
The bytes of each line, the current one having begun with `current`, in reverse.
-/
def splitFrom (current : List UInt8) : List UInt8 → List (List UInt8)
  | [] => if current.isEmpty then [] else [current.reverse]
  | byte :: rest =>
      if byte = lineFeed then
        (dropReturn current).reverse :: splitFrom [] rest
      else
        splitFrom (byte :: current) rest

/-- The bytes of each line of a source, without the line ends. -/
def split (source : List UInt8) : List (List UInt8) :=
  splitFrom [] source

end Line

/-- The lines of a source. -/
def linesOf (source : List UInt8) : List Line :=
  (Line.split source).map Line.ofBytes

/-- The lines read from an entry of a tree; a directory cannot be read. -/
def Entry.lines : Entry → List Line
  | .directory => [.error .isADirectory]
  | .file content => linesOf content

end Reckoner
