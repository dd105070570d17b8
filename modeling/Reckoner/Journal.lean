import Reckoner.FileTree
import Reckoner.Formula

/-!
# The journal

What the program notes down about its own work, beside what it shows to its
user: every token read, every group opened and closed, every formula and its
outcome, and the failures of the history that are passed over in silence.
-/

namespace Reckoner

/-- How much a note matters. -/
inductive Severity where
  | trace
  | debug
  | warning
  deriving DecidableEq, Repr

/-- The word that stands for a severity. -/
def Severity.text : Severity → String
  | trace => "TRACE"
  | debug => "DEBUG"
  | warning => "WARN"

/-- A note in the journal. -/
inductive Note where
  | tokenRead (placed : Placed Token)
  | groupOpened (openedAt : Option Nat)
  | groupClosed (openedAt : Option Nat) (expr : Expr)
  | formulaTaken (text : String)
  | formulaSolved (outcome : Outcome)
  | sourceOpened (path : String)
  | historyDirectoryFailed (fault : FileFault)
  | historyNotLoaded (fault : FileFault)

/-! ## Values written out in the journal -/

/-- A name and its fields, the fields in braces. -/
def recordText (name : String) (fields : List (String × String)) : String :=
  name ++ " \x7b " ++
    String.intercalate ", "
      (fields.map fun field => field.1 ++ ": " ++ field.2) ++ " \x7d"

/-- A name and its parts, the parts in parentheses. -/
def variantText (name : String) (parts : List String) : String :=
  name ++ "(" ++ String.intercalate ", " parts ++ ")"

/-- A column written out. -/
def columnOutline (column : Nat) : String :=
  recordText "Location" [("col", Decimal.natural column)]

/-- A column that may be missing, written out. -/
def openedAtOutline : Option Nat → String
  | none => "None"
  | some column => variantText "Some" [columnOutline column]

/-- The cause of a bad token, written out. -/
def TokenFault.outline : TokenFault → String
  | unexpectedCharacter character =>
      variantText "UnexpectedCharacter" [Quoted.character character]
  | unknownOperator run => variantText "UnknownOperator" [Quoted.text run]
  | literalOutOfRange digits =>
      variantText "IntLiteralOutOfRange" [Quoted.text digits]

/-- A bad token, written out. -/
def TokenError.outline (error : TokenError) : String :=
  recordText "ScanErr"
    [("kind", error.fault.outline), ("location", columnOutline error.column)]

/-- The cause of a malformed formula, written out. -/
def SyntaxFault.outline (fault : SyntaxFault) (column : Nat) : String :=
  match fault with
  | badToken cause => variantText "ScanErr" [TokenError.outline ⟨cause, column⟩]
  | twoNumbersInARow => "TwoNumbersInARow"
  | twoOperatorsInARow => "TwoOperatorsInARow"
  | operatorAtEnd => "OperatorAtEnd"
  | emptyGroup => "EmptyGroup"
  | unclosedParen => "UnclosedParen"
  | unexpectedClosingParen => "UnexpectedClosingParen"

/-- A malformed formula, written out. -/
def SyntaxError.outline (error : SyntaxError) : String :=
  recordText "ParseErr"
    [("kind", error.fault.outline error.column),
      ("location", columnOutline error.column)]

/-- The cause of a failed formula, written out. -/
def FormulaError.outline : FormulaError → String
  | invalidToken error => variantText "InvalidToken" [error.outline]
  | malformed error => variantText "MalformedFormula" [error.outline]
  | arithmetic .divisionByZero => "DivisionByZero"
  | arithmetic (.overflow left operator right) =>
      variantText "Overflow"
        [Decimal.signed left, operator.text, Decimal.signed right]

/-- What a formula comes to, written out. -/
def Outcome.outline : Outcome → String
  | .ok value => variantText "Ok" [Decimal.signed value]
  | .error error =>
      variantText "Err" [recordText "FormulaErr" [("kind", error.outline)]]

/-! ## Notes -/

namespace Note

/-- How much the note matters. -/
def severity : Note → Severity
  | tokenRead _ => .trace
  | groupOpened _ => .trace
  | groupClosed _ _ => .trace
  | formulaTaken _ => .debug
  | formulaSolved _ => .debug
  | sourceOpened _ => .debug
  | historyDirectoryFailed _ => .warning
  | historyNotLoaded _ => .debug

/-- The wording of the note. -/
def message : Note → String
  | tokenRead placed => "TOKEN: " ++ placed.text
  | groupOpened openedAt => "BEGIN: group @ " ++ openedAtOutline openedAt
  | groupClosed openedAt expr =>
      "END: group @ " ++ openedAtOutline openedAt ++ " -> " ++ expr.outline
  | formulaTaken text => "EXECUTE: " ++ Quoted.text text
  | formulaSolved outcome => "RESULT: " ++ outcome.outline
  | sourceOpened path => "READ: " ++ path
  | historyDirectoryFailed fault =>
      "Could not create REPL history directory: " ++ fault.message
  | historyNotLoaded fault => "Could not load REPL history: " ++ fault.message

/-- The note with its severity in front. -/
def text (note : Note) : String :=
  note.severity.text ++ " " ++ note.message

end Note

/-! ## Notes of reading a text -/

/-- The notes of reading one lexeme. -/
def Nesting.notes (nesting : Nesting) (lexeme : Lexeme) : List Note :=
  match lexeme.token with
  | .error _ => []
  | .ok placed =>
      .tokenRead placed ::
        match placed.item, nesting.openGroups with
        | .leftParen, _ => [.groupOpened (some placed.start)]
        | .rightParen, group :: _ =>
            match nesting.content.close placed.start with
            | .ok expr => [.groupClosed (some group.openedAt) expr]
            | .error _ => []
        | _, _ => []

/-- The notes of a run over lexemes, up to its end or its first fault. -/
def Nesting.journal (endColumn : Nat) : Nesting → List Lexeme → List Note
  | nesting, [] =>
      match nesting.finish endColumn with
      | .ok expr => [.groupClosed none expr]
      | .error _ => []
  | nesting, lexeme :: rest =>
      nesting.notes lexeme ++
        match nesting.read lexeme with
        | .ok next => next.journal endColumn rest
        | .error _ => []

/-- The notes of splitting a text into tokens, up to its first fault. -/
def tokensJournal (text : String) : List Note :=
  ((Cursor.ofText text).lexemes.map Placed.token).takeWhile (·.isOk)
    |>.filterMap fun token =>
    token.toOption.map .tokenRead

/-- The notes of reading a text into a tree. -/
def parseJournal (text : String) : List Note :=
  let cursor := Cursor.ofText text
  .groupOpened none :: Nesting.start.journal cursor.endColumn cursor.lexemes

end Reckoner
