import Reckoner.CommandLine.Arguments
import Reckoner.CommandLine.Usage
import Reckoner.Session

/-!
# The program

What a run of the program does with its arguments: evaluate one formula,
evaluate every line of a sheet, or hold a session.  A run is a function of its
arguments, its surroundings, its input and the files it finds; it gives what it
writes, the exit code and the files it leaves.
-/

namespace Reckoner

/-- What a run finds around it. -/
structure Surroundings where
  home : Option String
  terminal : String
  debugVariable : Option String
  deriving DecidableEq, Repr

/-- What a run writes, how it ends and what files it leaves. -/
structure Report (World : Type := FileTree) where
  exitCode : UInt8
  output : String
  errors : String
  files : World
  deriving DecidableEq, Repr

/-- What a run is asked to do. -/
inductive Job where
  | formula (text : String)
  | inputSheet
  | fileSheet (path : String)
  | session (historyPath : Option String)
  deriving DecidableEq, Repr

/-- Whether the job reads the input. -/
def Job.readsInput : Job → Bool
  | formula _ => false
  | inputSheet => true
  | fileSheet _ => false
  | session _ => true

/-- The one path at which the job reads or writes a file, if there is one. -/
def Job.path? : Job → Option String
  | formula _ => none
  | inputSheet => none
  | fileSheet path => some path
  | session historyPath => historyPath

/-- A job, and whether formulas are inspected on the way. -/
structure Plan where
  inspecting : Bool
  job : Job
  deriving DecidableEq, Repr

/-- The values of a variable that mean no, in lower case. -/
def negativeWords : List String :=
  ["n", "no", "f", "false", "off", "0"]

/--
Whether the value of a variable means yes: it is neither empty nor
a word for no.
-/
def isAffirmative (value : String) : Bool :=
  value ≠ "" &&
    !negativeWords.any fun word => value.toList.map Char.toLower == word.toList

/-- A path as seen from a directory. -/
def joinPath (directory path : String) : String :=
  if path.toList.head? = some '/' then
    path
  else if directory.toList.getLast? = some '/' then
    directory ++ path
  else
    directory ++ "/" ++ path

/--
A path whose leading tilde stands for the home directory, if there is one.
-/
def expandHome (home : Option String) (path : String) : String :=
  match path.toList, home with
  | '~' :: '/' :: rest, some directory =>
      if directory = "" then path else joinPath directory (String.ofList rest)
  | _, _ => path

/-- Words with one space between each two. -/
def joinWords (words : List String) : String :=
  String.ofList ([' '].intercalate (words.map String.toList))

open CommandLine in
/-- What the given arguments ask for. -/
def Plan.ofGiven (surroundings : Surroundings) (given : List Given) : Plan where
  inspecting :=
    hasSwitch given .debug ||
      (surroundings.debugVariable.map isAffirmative).getD false
  job :=
    match valueOf? given .code, wordsOf? given, valueOf? given .file with
    | some text, _, _ => .formula text
    | none, some words, _ => .formula (joinWords words)
    | none, none, some path =>
        if path = "-" then .inputSheet else .fileSheet path
    | none, none, none =>
        if hasSwitch given .noHistory then
          .session none
        else
          let path := (valueOf? given .historyPath).getD defaultHistoryPath
          .session (some (expandHome surroundings.home path))

section Worlds

variable {World : Type}

namespace Report

/-- A report of what was told on the two channels that are written out. -/
def ofTranscript
    (exitCode : UInt8)
    (transcript : Transcript)
    (files : World) :
    Report World :=
  ⟨exitCode, transcript.textOn .output, transcript.textOn .errors, files⟩

/-- A report of a run that failed after telling something. -/
def ofError
    (error : RunError)
    (transcript : Transcript)
    (files : World) :
    Report World :=
  ⟨error.exitCode, transcript.textOn .output,
    transcript.textOn .errors ++ page [error.message], files⟩

end Report

/-- Evaluate one formula. -/
def runFormula
    (inspecting : Bool)
    (files : World)
    (text : String) :
    Report World :=
  let told := evaluationTranscript inspecting text
  match calculate text with
  | .ok value => .ofTranscript 0 (told ++ [.answer value]) files
  | .error error => .ofError (.formula error) told files

/-- How the outcome on a line of a sheet is told. -/
def LineOutcome.notice (line : LineOutcome) : Notice :=
  match line.outcome with
  | .ok value => .answer value
  | .error error => .lineFailure line.number error

/-- The exit code of a sheet: that of the last line that failed, if any did. -/
def sheetExitCode (lines : List LineOutcome) : UInt8 :=
  lines.foldl (fun code line =>
    match line.outcome with
    | .ok _ => code
    | .error error => error.exitCode) 0

/-- Tell the outcomes of a sheet after what was told while it was evaluated. -/
def runSheet
    (files : World)
    (told : Transcript)
    (outcomes : Except RunError (List LineOutcome)) :
    Report World :=
  match outcomes with
  | .error error => .ofError error told files
  | .ok lines =>
      .ofTranscript (sheetExitCode lines) (told ++ lines.map LineOutcome.notice)
        files

variable [Storage World]

/-- Hold a session. -/
def runSession (session : Session World) (input : List Line) : Report World :=
  let reply := session.run input
  match reply.phase with
  | .over (.unreadable fault) =>
      .ofError (.unreadableInput fault) reply.transcript reply.session.files
  | _ => .ofTranscript 0 reply.transcript reply.session.files

/-- Carry out a plan. -/
def Plan.run
    (plan : Plan)
    (surroundings : Surroundings)
    (input : List UInt8)
    (files : World) :
    Report World :=
  match plan.job with
  | .formula text => runFormula plan.inspecting files text
  | .inputSheet =>
      let lines := linesOf input
      runSheet files (Sheet.transcript plan.inspecting lines)
        (Sheet.outcomes lines)
  | .fileSheet path =>
      runSheet files (Sheet.transcriptAt plan.inspecting files path)
        (Sheet.outcomesAt files path)
  | .session historyPath =>
      runSession
        ⟨plan.inspecting, promptsOn surroundings.terminal,
          historyPath.map .atPath, files⟩
        (linesOf input)

/-- The job of a run, unless its arguments end it at once. -/
def jobOf?
    (arguments : List String)
    (surroundings : Surroundings) :
    Option Job :=
  match CommandLine.readArguments arguments with
  | .error _ => none
  | .ok given => some (Plan.ofGiven surroundings given).job

/-- A whole run of the program. -/
def runProgram
    (arguments : List String)
    (surroundings : Surroundings)
    (input : List UInt8)
    (files : World) :
    Report World :=
  match CommandLine.readArguments arguments with
  | .error .help =>
      ⟨0, CommandLine.helpText surroundings.debugVariable, "", files⟩
  | .error .version => ⟨0, CommandLine.versionText, "", files⟩
  | .error (.misuse misuse) => ⟨2, "", page [misuse.message], files⟩
  | .ok given => (Plan.ofGiven surroundings given).run surroundings input files

end Worlds

end Reckoner
