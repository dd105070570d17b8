import Reckoner.Storage

/-!
# The history of entered lines

The lines that a user has entered, the oldest first, and the file that keeps
them between sessions.  An empty line or one equal to the line before it is not
recorded, and only the newest lines are kept.

The file starts with a marker; each line after it is one entry, in which the
backslash and the line feed are written with a backslash.  A file without the
marker holds plain lines.  The file is written anew as a whole, and only when it
misses something that was recorded.
-/

namespace Reckoner

/-- Entered lines, and whether the file misses some of them. -/
structure History where
  path : String
  entries : List String
  unsaved : Bool
  deriving DecidableEq, Repr

namespace History

/-- The number of entries that are kept. -/
def capacity : Nat :=
  100

/-- The first line of a file whose entries are escaped. -/
def marker : String :=
  "#V2"

/-! ## Escaping -/

/-- The characters that stand for one character of an entry. -/
def escapeCharacter (character : Char) : List Char :=
  if character = '\\' then
    ['\\', '\\']
  else if character = '\n' then
    ['\\', 'n']
  else
    [character]

/-- An entry as it is written in the file. -/
def escape (entry : List Char) : List Char :=
  entry.flatMap escapeCharacter

/--
The entry that was written, unless a backslash stands before some
other character.
-/
def unescape? : List Char → Option (List Char)
  | [] => some []
  | '\\' :: 'n' :: rest => (unescape? rest).map ('\n' :: ·)
  | '\\' :: '\\' :: rest => (unescape? rest).map ('\\' :: ·)
  | '\\' :: _ => none
  | character :: rest => (unescape? rest).map (character :: ·)

theorem escape_cons (character : Char) (rest : List Char) :
    escape (character :: rest) = escapeCharacter character ++ escape rest :=
  rfl

/-- Every entry can be read back. -/
@[simp]
theorem unescape?_escape
    (entry : List Char) :
    unescape? (escape entry) = some entry := by
  induction entry with
  | nil => rfl
  | cons character rest hypothesis =>
      rw [escape_cons, escapeCharacter]
      split
      · next isBackslash => simp [unescape?, hypothesis, isBackslash]
      · next notBackslash =>
          split
          · next isLineFeed => simp [unescape?, hypothesis, isLineFeed]
          · next notLineFeed =>
              rw [List.singleton_append, unescape?, hypothesis]
              · rfl
              all_goals simp_all

/-- The entry that a line of an escaped file stands for. -/
def decode (line : String) : String :=
  match unescape? line.toList with
  | some entry => String.ofList entry
  | none => line

/-- The text of the file that keeps some entries. -/
def fileText (entries : List String) : String :=
  String.join
    ((marker ::
        entries.map fun entry => String.ofList (escape entry.toList)).map
      fun line => line ++ "\n")

/-! ## Recording -/

/-- The history that is kept at a path, before anything is known of it. -/
def atPath (path : String) : History :=
  ⟨path, [], false⟩

/-- The newest entries, as many as are kept. -/
def newest (entries : List String) : List String :=
  entries.drop (entries.length - capacity)

/-- Record a line. -/
def add (history : History) (line : String) : History :=
  if line = "" || history.entries.getLast? = some line then
    history
  else
    { history with
      entries := newest (history.entries ++ [line])
      unsaved := true }

/--
Bring the file up to date, if it misses something.  If that fails, the file goes
on to miss it.
-/
def save
    {World : Type}
    [Storage World]
    (history : History)
    (files : World) :
    History × World × Option FileFault :=
  if history.entries.isEmpty || !history.unsaved then
    (history, files, none)
  else
    let content := Line.toBytes (fileText history.entries)
    let written := Storage.writeFile files history.path content
    ({ history with unsaved := written.2.isSome }, written)

/-! ## Loading -/

/--
Record the entries of a file line by line.  Once all are recorded the file is
up to date; a line that cannot be read ends loading before that.
-/
def addLines
    (read : String → String)
    (history : History) :
    List Line → History × Option FileFault
  | [] => ({ history with unsaved := false }, none)
  | .error fault :: _ => (history, some fault)
  | .ok line :: rest => (history.add (read line)).addLines read rest

/-- Record the entries of a file, given as its lines. -/
def addFile (history : History) : List Line → History × Option FileFault
  | .ok first :: rest =>
      if first = marker then
        history.addLines decode rest
      else
        history.addLines id (.ok first :: rest)
  | lines => history.addLines id lines

/-- Record the entries of the file, if it can be read. -/
def load
    {World : Type}
    [Storage World]
    (history : History)
    (files : World) :
    History × Option FileFault :=
  match Storage.linesAt files history.path with
  | .error fault => (history, some fault)
  | .ok lines => history.addFile lines

end History

end Reckoner
