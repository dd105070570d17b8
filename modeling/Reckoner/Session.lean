import Reckoner.Evaluation
import Reckoner.History

/-!
# Interactive sessions

A session takes lines of input one by one.  It is ready for a new formula, or it
gathers the lines of a formula whose parenthesis is still open, or it is over.
A formula is answered as soon as no parenthesis is left open; a blank line gives
up on an open one, and so does breaking off the line that goes on with it.
Lines of the form `.name` are commands, but only where a new formula may begin.

Every line that is not blank is recorded in the history before it is evaluated.
A history that cannot be kept is complained about and changes nothing else.  The
files may be in any storage; a tree of files is meant where none is named.
-/

namespace Reckoner

/-- What a session remembers between two lines of input. -/
structure Session (World : Type := FileTree) where
  inspecting : Bool
  prompting : Bool
  history : Option History
  files : World
  deriving DecidableEq, Repr

/-- How a session ends. -/
inductive Ending where
  | finished
  | unreadable (fault : FileFault)
  deriving DecidableEq, Repr

/-- What a session does with the next line of input. -/
inductive Phase where
  | ready
  | gathering (formula : String)
  | over (ending : Ending)
  deriving DecidableEq, Repr

/-- A line that is not a formula. -/
inductive Command where
  | exit
  | help
  | debug
  deriving DecidableEq, Repr

/-- The command that a line gives, white space around it left aside. -/
def Command.ofText? (text : String) : Option Command :=
  let name := Blank.trim text
  if name = ".exit" || name = ".quit" then
    some exit
  else if name = "?" || name = ".help" then
    some help
  else if name = ".debug" then
    some debug
  else
    none

/-- How the outcome of a formula is told. -/
def Outcome.notice : Outcome → Notice
  | .ok value => .answer value
  | .error error => .failure error

/-- What comes of one line of input. -/
structure Turn (World : Type := FileTree) where
  session : Session World
  phase : Phase
  transcript : Transcript

/-- What comes of many lines of input. -/
structure Reply (World : Type := FileTree) extends Turn World where
  unread : List Line

section Worlds

variable {World : Type}

/-- A turn before which something else was told. -/
def Turn.after (turn : Turn World) (told : Transcript) : Turn World :=
  { turn with transcript := told ++ turn.transcript }

/-- A reply before which something else was told. -/
def Reply.after (reply : Reply World) (told : Transcript) : Reply World :=
  { reply with transcript := told ++ reply.transcript }

namespace Session

variable [Storage World]

/-- Record a line in the history, if one is kept. -/
def record
    (session : Session World)
    (line : String) :
    Session World × Transcript :=
  match session.history with
  | none => (session, [])
  | some history =>
      let saved := (history.add line).save session.files
      ({ session with history := some saved.1, files := saved.2.1 },
        (saved.2.2.map .historyNotSaved).toList)

/-- Evaluate a formula, or go on gathering it. -/
def attempt (session : Session World) (formula : String) : Turn World :=
  let told := evaluationTranscript session.inspecting formula
  let outcome := calculate formula
  if outcome.isUnclosed then
    ⟨session, .gathering formula, told⟩
  else
    ⟨session, .ready, told ++ [outcome.notice]⟩

/-- Carry out a command. -/
def perform (session : Session World) : Command → Turn World
  | .exit => ⟨session, .over .finished, []⟩
  | .help => ⟨session, .ready, [.help]⟩
  | .debug =>
      let inspecting := !session.inspecting
      ⟨{ session with inspecting }, .ready, [.debugSwitched inspecting]⟩

/-- Take a line where a new formula may begin. -/
def enter (session : Session World) (line : String) : Turn World :=
  let recorded := session.record line
  match Command.ofText? line with
  | some command => (recorded.1.perform command).after recorded.2
  | none => (recorded.1.attempt line).after recorded.2

/-- Take a line that goes on with a formula. -/
def extend (session : Session World) (formula line : String) : Turn World :=
  if Blank.isBlank line then
    ⟨session, .ready, [(calculate formula).notice]⟩
  else
    let recorded := session.record line
    (recorded.1.attempt (formula ++ " " ++ Blank.trimRight line)).after
      recorded.2

/-- Take one line of input. -/
def take (session : Session World) (phase : Phase) (line : Line) : Turn World :=
  match phase, line with
  | .over ending, _ => ⟨session, .over ending, []⟩
  | .ready, .error .interrupted => ⟨session, .ready, [.interruptionHint]⟩
  | .gathering formula, .error .interrupted =>
      ⟨session, .ready, [(calculate formula).notice]⟩
  | _, .error fault => ⟨session, .over (.unreadable fault), []⟩
  | .ready, .ok text =>
      if Blank.isBlank text then ⟨session, .ready, []⟩ else session.enter text
  | .gathering formula, .ok text => session.extend formula text

/-- How the next line of input is asked for, if it is. -/
def ask (session : Session World) (phase : Phase) : Transcript :=
  match session.prompting, phase with
  | true, .ready => [.prompt .formula]
  | true, .gathering _ => [.prompt .continuation]
  | _, _ => []

/--
Take lines of input for as long as the phase goes on.  A session whose input
ends while it goes on is over.
-/
def feed
    (goesOn : Phase → Bool)
    (session : Session World)
    (phase : Phase) :
    List Line → Reply World
  | [] =>
      if goesOn phase then
        ⟨⟨session, .over .finished, session.ask phase⟩, []⟩
      else
        ⟨⟨session, phase, []⟩, []⟩
  | line :: rest =>
      if goesOn phase then
        let turn := session.take phase line
        (turn.session.feed goesOn turn.phase rest).after
          (session.ask phase ++ turn.transcript)
      else
        ⟨⟨session, phase, []⟩, line :: rest⟩

/-- A formula is being gathered. -/
def gathers : Phase → Bool
  | .gathering _ => true
  | _ => false

/-- The session is not over. -/
def lasts : Phase → Bool
  | .over _ => false
  | _ => true

/-- Take a new line, and lines of input until it has been dealt with. -/
def evaluate
    (session : Session World)
    (line : String)
    (input : List Line) :
    Reply World :=
  let turn := session.enter line
  (turn.session.feed gathers turn.phase input).after turn.transcript

/-- Look up what earlier sessions recorded. -/
def loadHistory (session : Session World) : Session World × Transcript :=
  match session.history with
  | none => (session, [])
  | some history =>
      let made := Storage.makeParents session.files history.path
      let loaded := history.load made.1
      ({ session with history := some loaded.1, files := made.1 },
        [.historyKept history.path] ++
          (made.2.map fun fault =>
            .note (.historyDirectoryFailed fault)).toList ++
          (loaded.2.map fun fault => .note (.historyNotLoaded fault)).toList)

/-- A whole session, from the greeting to its end. -/
def run (session : Session World) (input : List Line) : Reply World :=
  let loaded := session.loadHistory
  (loaded.1.feed lasts .ready input).after ([.greeting] ++ loaded.2 ++ [.hint])

end Session

end Worlds

/-- Terminals on which lines are asked for even though nobody edits them. -/
def plainTerminals : List String :=
  ["dumb", "cons25", "emacs"]

/-- Whether lines are asked for on a terminal of some kind. -/
def promptsOn (terminal : String) : Bool :=
  plainTerminals.any fun known =>
    terminal.toList.map Char.toLower == known.toList

end Reckoner
