import Reckoner.Token

/-!
# Reading a text token by token

A cursor stands in a text: it holds the characters that are still unread and
the number of those already read.  One step skips spaces, and only spaces, and
then reads the longest run that belongs together, which becomes one lexeme: a
token or a fault, with its columns.  A faulty run is read like any other, so
stepping can go on after it.

Every step that finds a lexeme makes the unread text shorter, which is why the
list of all lexemes ahead is well defined.
-/

namespace Reckoner

/-- A run of characters read as a token or as a fault, at its columns. -/
abbrev Lexeme : Type :=
  Placed (Except TokenFault Token)

/-- The token of a lexeme at its columns, or its fault at the first of them. -/
def Placed.token (lexeme : Lexeme) : Except TokenError (Placed Token) :=
  match lexeme.item with
  | .ok token => .ok ⟨token, lexeme.start, lexeme.stop⟩
  | .error fault => .error ⟨fault, lexeme.start⟩

/-- A place in a text. -/
structure Cursor where
  unread : List Char
  consumed : Nat
  deriving DecidableEq, Repr

namespace Cursor

/-- The place before the first character of a text. -/
def ofText (text : String) : Cursor :=
  ⟨text.toList, 0⟩

/-- The column of the next unread character, or the one past the text's end. -/
def column (cursor : Cursor) : Nat :=
  cursor.consumed + 1

/-- The column one past the end of the text. -/
def endColumn (cursor : Cursor) : Nat :=
  cursor.consumed + cursor.unread.length + 1

/--
The place after `count` more characters, or after all of them if
there are fewer.
-/
def advance (cursor : Cursor) (count : Nat) : Cursor :=
  ⟨cursor.unread.drop count,
    cursor.consumed + (cursor.unread.take count).length⟩

/-- The place after the spaces that come next. -/
def skipSpaces (cursor : Cursor) : Cursor :=
  cursor.advance (cursor.unread.takeWhile (· == ' ')).length

/-- The characters that follow the first of a run and belong to it. -/
def runAfter (first : Char) (rest : List Char) : List Char :=
  rest.takeWhile (Token.joins first)

/-- The lexeme of a run whose first character is at a column. -/
def lexemeAt (column : Nat) (first : Char) (others : List Char) : Lexeme :=
  ⟨Token.ofRun first others, column, column + others.length⟩

/-- One step: the next lexeme, or none at the end, and the place after it. -/
def next (cursor : Cursor) : Option Lexeme × Cursor :=
  match cursor.skipSpaces.unread with
  | [] => (none, cursor.skipSpaces)
  | first :: rest =>
      (some (lexemeAt cursor.skipSpaces.column first (runAfter first rest)),
        cursor.skipSpaces.advance ((runAfter first rest).length + 1))

@[simp]
theorem unread_advance (cursor : Cursor) (count : Nat) :
    (cursor.advance count).unread = cursor.unread.drop count :=
  rfl

/-- However a place is advanced, the end of the text stays where it is. -/
@[simp]
theorem endColumn_advance (cursor : Cursor) (count : Nat) :
    (cursor.advance count).endColumn = cursor.endColumn := by
  simp only [endColumn, advance, List.length_drop, List.length_take]
  omega

theorem length_unread_skipSpaces (cursor : Cursor) :
    cursor.skipSpaces.unread.length ≤ cursor.unread.length := by
  simp [skipSpaces]

/-- A step that finds a lexeme leaves less to read. -/
theorem length_unread_next
    {cursor after : Cursor}
    {lexeme : Lexeme}
    (found : cursor.next = (some lexeme, after)) :
    after.unread.length < cursor.unread.length := by
  have skipped := length_unread_skipSpaces cursor
  unfold next at found
  split at found
  · simp at found
  · next first rest ahead =>
      simp only [Prod.mk.injEq, Option.some.injEq] at found
      obtain ⟨-, rfl⟩ := found
      rw [ahead] at skipped
      simp only [unread_advance, ahead, List.length_drop,
        List.length_cons] at skipped ⊢
      omega

/-- All lexemes ahead, faulty ones included. -/
def lexemes (cursor : Cursor) : List Lexeme :=
  match _found : cursor.next with
  | (none, _) => []
  | (some lexeme, after) => lexeme :: after.lexemes
termination_by cursor.unread.length
decreasing_by exact length_unread_next _found

theorem lexemes_of_next_none
    {cursor after : Cursor}
    (found : cursor.next = (none, after)) :
    cursor.lexemes = [] := by
  rw [lexemes]
  split <;> simp_all

theorem lexemes_of_next_some
    {cursor after : Cursor}
    {lexeme : Lexeme}
    (found : cursor.next = (some lexeme, after)) :
    cursor.lexemes = lexeme :: after.lexemes := by
  rw [lexemes]
  split <;> simp_all

/-- The place after a number of steps. -/
def skip (cursor : Cursor) : Nat → Cursor
  | 0 => cursor
  | count + 1 => cursor.next.2.skip count

end Cursor

/-- The tokens of a text, or its first fault. -/
def tokens (text : String) : Except TokenError (List (Placed Token)) :=
  (Cursor.ofText text).lexemes.mapM Placed.token

end Reckoner
