import Reckoner.Notice
import Reckoner.Text.Blank
import Reckoner.Storage

/-!
# Evaluating formulas and sheets

What is told while a formula is evaluated, and the evaluation of a sheet: a
source with one formula on each line.  The outcome of a formula depends on its
text alone; whether it is inspected on the way only changes what is told.

Blank lines of a sheet are passed over but counted.  A line that cannot be read
ends the sheet, which then has no outcomes at all; what was told about the
lines before it stays told.
-/

namespace Reckoner

/-- What is told while a formula is evaluated. -/
def evaluationTranscript (inspecting : Bool) (text : String) : Transcript :=
  [.note (.formulaTaken text)] ++
    (if inspecting then
      .inspection text :: (tokensJournal text ++ parseJournal text).map .note
    else
      []) ++
    (parseJournal text).map .note ++
    [.note (.formulaSolved (calculate text))]

/-- Why a whole run fails. -/
inductive RunError where
  | unreadableSource (path : String) (fault : FileFault)
  | unreadableLine (fault : FileFault)
  | unreadableInput (fault : FileFault)
  | formula (error : FormulaError)
  deriving DecidableEq, Repr

namespace RunError

/-- The wording of the error. -/
def message : RunError → String
  | unreadableSource path fault =>
      "Could not read source file: " ++ path ++ ": " ++ fault.message
  | unreadableLine fault => "Could not read line: " ++ fault.message
  | unreadableInput fault =>
      "REPL error: Could not read line: " ++ fault.message
  | formula error => error.message

/-- The exit code of a program that fails with the error. -/
def exitCode : RunError → UInt8
  | formula error => error.exitCode
  | _ => 5

end RunError

/--
The outcome of a formula on a line of a sheet, lines being counted from one.
-/
structure LineOutcome where
  number : Nat
  outcome : Outcome

namespace Sheet

/--
The outcomes of the lines that are not blank, the first line having a number.
-/
def outcomesFrom
    (number : Nat) :
    List Line → Except FileFault (List LineOutcome)
  | [] => .ok []
  | .error fault :: _ => .error fault
  | .ok text :: rest => do
      let others ← outcomesFrom (number + 1) rest
      return if Blank.isBlank text then others
        else ⟨number, calculate text⟩ :: others

/-- What is told while the lines are evaluated. -/
def transcript (inspecting : Bool) : List Line → Transcript
  | [] => []
  | .error _ :: _ => []
  | .ok text :: rest =>
      (if Blank.isBlank text then []
        else evaluationTranscript inspecting text) ++ transcript inspecting rest

/-- The outcomes of a sheet. -/
def outcomes (lines : List Line) : Except RunError (List LineOutcome) :=
  (outcomesFrom 1 lines).mapError .unreadableLine

section Files

variable {World : Type} [Storage World]

/-- The outcomes of the sheet at a path. -/
def outcomesAt
    (files : World)
    (path : String) :
    Except RunError (List LineOutcome) :=
  match Storage.linesAt files path with
  | .error fault => .error (.unreadableSource path fault)
  | .ok lines => outcomes lines

/-- What is told while the sheet at a path is evaluated. -/
def transcriptAt
    (inspecting : Bool)
    (files : World)
    (path : String) :
    Transcript :=
  .note (.sourceOpened path) ::
    match Storage.linesAt files path with
    | .error _ => []
    | .ok lines => transcript inspecting lines

end Files

end Sheet

end Reckoner
