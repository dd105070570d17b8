/-!
# Arguments of the command line

The options that the program knows, and how a list of arguments is read.

Arguments are read from left to right.  Option reading ends at the first word
of the expression or at the separator `--`; all that follows belongs to the
expression, whatever it looks like.  What looks like an option but is not known
is an ordinary word, so that a formula may begin with a minus sign.

An option that needs a value and stands alone waits for the next ordinary word.
It is entered among the given ones only when the next option, the expression or
the end comes, and it is then that a missing value or a repetition shows.
-/

namespace Reckoner.CommandLine

/-- An option without a value. -/
inductive Switch where
  | debug
  | noHistory
  | help
  | version
  deriving DecidableEq, Repr

/-- An option with a value. -/
inductive Parameter where
  | code
  | file
  | historyPath
  deriving DecidableEq, Repr

namespace Switch

/-- Every switch. -/
def all : List Switch :=
  [debug, noHistory, help, version]

/-- The long name. -/
def name : Switch → String
  | debug => "debug"
  | noHistory => "no-history"
  | help => "help"
  | version => "version"

/-- The letter, if the switch has one. -/
def letter? : Switch → Option Char
  | debug => some 'd'
  | noHistory => none
  | help => some 'h'
  | version => some 'V'

/-- The switch in messages. -/
def label (switch : Switch) : String :=
  "--" ++ switch.name

end Switch

namespace Parameter

/-- Every parameter. -/
def all : List Parameter :=
  [code, file, historyPath]

/-- The long name. -/
def name : Parameter → String
  | code => "code"
  | file => "file"
  | historyPath => "history-path"

/-- The letter, if the parameter has one. -/
def letter? : Parameter → Option Char
  | code => some 'c'
  | file => some 'f'
  | historyPath => none

/-- The name of the value. -/
def valueName : Parameter → String
  | code => "code"
  | file => "file"
  | historyPath => "history_path"

/-- The parameter in messages. -/
def label (parameter : Parameter) : String :=
  "--" ++ parameter.name ++ " <" ++ parameter.valueName ++ ">"

end Parameter

/-- What an argument may be about. -/
inductive Subject where
  | switch (switch : Switch)
  | parameter (parameter : Parameter)
  | expression
  deriving DecidableEq, Repr

/-- The subject in messages. -/
def Subject.label : Subject → String
  | .switch known => known.label
  | .parameter known => known.label
  | .expression => "[expression]..."

/-- Only one of the subjects that say what to evaluate may be given. -/
def Subject.isExclusive : Subject → Bool
  | .parameter .code => true
  | .parameter .file => true
  | .expression => true
  | _ => false

/-! ## One argument -/

/-- An option as it is written. -/
inductive Item where
  | switch (switch : Switch)
  | switchWithValue (switch : Switch) (value : String)
  | parameter (parameter : Parameter) (value : Option String)
  deriving DecidableEq, Repr

/-- An argument where options are still read. -/
inductive Argument where
  | separator
  | items (items : List Item)
  | word (text : String)
  deriving DecidableEq, Repr

/-- The option with a long name, and the value that is attached to it. -/
def longItem? (name : String) (value : Option String) : Option Item :=
  match Switch.all.find? fun switch => switch.name == name with
  | some switch =>
      match value with
      | none => some (.switch switch)
      | some value => some (.switchWithValue switch value)
  | none =>
      (Parameter.all.find? fun parameter => parameter.name == name).map
        fun parameter =>
        .parameter parameter value

/-- The value after the first equals sign, if there is one. -/
def attachedValue? (body : List Char) : Option String :=
  match body.dropWhile (· ≠ '=') with
  | [] => none
  | _ :: value => some (String.ofList value)

/-- The switch with a letter. -/
def switchOf? (letter : Char) : Option Switch :=
  Switch.all.find? fun switch => switch.letter? == some letter

/-- The parameter with a letter. -/
def parameterOf? (letter : Char) : Option Parameter :=
  Parameter.all.find? fun parameter => parameter.letter? == some letter

/-- Whether a letter stands for some option. -/
def isLetter (letter : Char) : Bool :=
  (switchOf? letter).isSome || (parameterOf? letter).isSome

/--
The options of a cluster of letters; a parameter takes the rest as its value.
-/
def clusterItems : List Char → List Item
  | [] => []
  | letter :: rest =>
      match switchOf? letter with
      | some switch => .switch switch :: clusterItems rest
      | none =>
          match parameterOf? letter with
          | some parameter =>
              [.parameter parameter
                (if rest = [] then none else some (String.ofList rest))]
          | none => clusterItems rest

/-- How an argument is understood where options are still read. -/
def Argument.ofText (text : String) : Argument :=
  match text.toList with
  | ['-', '-'] => .separator
  | '-' :: '-' :: body =>
      match
        longItem? (String.ofList (body.takeWhile (· ≠ '=')))
          (attachedValue? body) with
      | some item => .items [item]
      | none => .word text
  | '-' :: letter :: letters =>
      if (letter :: letters).all isLetter then
        .items (clusterItems (letter :: letters))
      else
        .word text
  | _ => .word text

/-! ## All arguments -/

/-- What is wrong with a list of arguments. -/
inductive Misuse where
  | missingValue (parameter : Parameter)
  | unexpectedValue (switch : Switch) (value : String)
  | repeated (subject : Subject)
  | conflict (first : Subject) (others : List Subject)
  deriving DecidableEq, Repr

/-- The wording of a misuse. -/
def Misuse.message : Misuse → String
  | missingValue parameter =>
      "error: a value is required for '" ++ parameter.label ++
        "' but none was supplied"
  | unexpectedValue switch value =>
      "error: unexpected value '" ++ value ++ "' for '" ++ switch.label ++
        "' found; no more were expected"
  | repeated subject =>
      "error: the argument '" ++ subject.label ++
        "' cannot be used multiple times"
  | conflict first [other] =>
      "error: the argument '" ++ first.label ++ "' cannot be used with '" ++
        other.label ++ "'"
  | conflict first others =>
      "error: the argument '" ++ first.label ++ "' cannot be used with:" ++
        String.join (others.map fun other => "\n  " ++ other.label)

/-- Why reading stops before the end. -/
inductive Stop where
  | misuse (misuse : Misuse)
  | help
  | version
  deriving DecidableEq, Repr

/-- What has been given. -/
inductive Given where
  | switch (switch : Switch)
  | parameter (parameter : Parameter) (value : String)
  | expression (words : List String)
  deriving DecidableEq, Repr

/-- What something given is about. -/
def Given.subject : Given → Subject
  | .switch known => .switch known
  | .parameter known _ => .parameter known
  | .expression _ => .expression

/--
What has been read: the given ones in order, and a parameter that is
not yet entered.
-/
structure Reading where
  given : List Given
  waiting : Option (Parameter × Option String)
  deriving DecidableEq, Repr

namespace Reading

/-- Nothing has been read. -/
def start : Reading :=
  ⟨[], none⟩

/-- Enter something given, which must not have been given before. -/
def enter (reading : Reading) (given : Given) : Except Stop Reading :=
  if reading.given.any fun earlier => earlier.subject == given.subject then
    .error (.misuse (.repeated given.subject))
  else
    .ok { reading with given := reading.given ++ [given] }

/-- Enter the parameter that waits, if one does. -/
def settle (reading : Reading) : Except Stop Reading :=
  match reading.waiting with
  | none => .ok reading
  | some (parameter, none) => .error (.misuse (.missingValue parameter))
  | some (parameter, some value) =>
      { reading with waiting := none }.enter (.parameter parameter value)

/-- Read an option; help and version act at once. -/
def take (reading : Reading) (item : Item) : Except Stop Reading :=
  match item with
  | .switchWithValue switch value =>
      .error (.misuse (.unexpectedValue switch value))
  | .parameter parameter none => do
      let settled ← reading.settle
      return { settled with waiting := some (parameter, none) }
  | .parameter parameter (some value) => do
      (← reading.settle).enter (.parameter parameter value)
  | .switch .help => do
      let _ ← reading.settle
      throw .help
  | .switch .version => do
      let _ ← reading.settle
      throw .version
  | .switch switch => do
      (← reading.settle).enter (.switch switch)

/-- End option reading; the words make up the expression, if there are any. -/
def finish (reading : Reading) (words : List String) : Except Stop Reading := do
  let settled ← reading.settle
  if words = [] then
    return settled
  else
    settled.enter (.expression words)

/-- Read arguments from left to right. -/
def readAll (reading : Reading) : List String → Except Stop Reading
  | [] => reading.finish []
  | argument :: rest =>
      match Argument.ofText argument with
      | .separator => reading.finish rest
      | .items items => do
          let next ← items.foldlM take reading
          next.readAll rest
      | .word text =>
          match reading.waiting with
          | some (parameter, none) =>
              { reading with
                waiting := some (parameter, some text) }.readAll rest
          | _ => reading.finish (text :: rest)

/--
The first subject given of those that exclude each other, against all others.
-/
def checkConflicts (reading : Reading) : Except Stop Unit :=
  match (reading.given.map Given.subject).filter Subject.isExclusive with
  | first :: other :: others =>
      .error (.misuse (.conflict first (other :: others)))
  | _ => .ok ()

end Reading

/-- All that is given, or why reading stops. -/
def readArguments (arguments : List String) : Except Stop (List Given) := do
  let reading ← Reading.start.readAll arguments
  reading.checkConflicts
  return reading.given

/-- Whether a switch is given. -/
def hasSwitch (given : List Given) (switch : Switch) : Bool :=
  given.any fun known => known == .switch switch

/-- The value given for a parameter. -/
def valueOf? (given : List Given) (parameter : Parameter) : Option String :=
  given.findSome? fun known =>
    match known with
    | .parameter other value => if other = parameter then some value else none
    | _ => none

/-- The words of the expression, if there are any. -/
def wordsOf? (given : List Given) : Option (List String) :=
  given.findSome? fun known =>
    match known with
    | .expression words => some words
    | _ => none

end Reckoner.CommandLine
