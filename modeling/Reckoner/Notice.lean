import Reckoner.Journal

/-!
# Notices

All that the program tells while it works, in the order in which it tells it.
Every notice belongs to one of three channels: answers and prompts go to the
output, failures, help and the inspection of formulas to the error output, and
notes to the journal.  A transcript is a list of notices; what one channel
carries is obtained from the transcript by selection.
-/

namespace Reckoner

/-- Where a notice is told. -/
inductive Channel where
  | output
  | errors
  | journal
  deriving DecidableEq, Repr

/-- What a line of input is asked for. -/
inductive Prompt where
  | formula
  | continuation
  deriving DecidableEq, Repr

/-- The text of a prompt. -/
def Prompt.text : Prompt → String
  | formula => "→ "
  | continuation => "+ "

/-- Something that the program tells. -/
inductive Notice where
  | answer (value : Int64)
  | failure (error : FormulaError)
  | lineFailure (number : Nat) (error : FormulaError)
  | inspection (text : String)
  | greeting
  | historyKept (path : String)
  | hint
  | interruptionHint
  | prompt (prompt : Prompt)
  | help
  | debugSwitched (on : Bool)
  | historyNotSaved (fault : FileFault)
  | note (note : Note)

/-- Notices in the order in which they are told. -/
abbrev Transcript : Type :=
  List Notice

/-- A line made of one character, as wide as a page. -/
def ruler (character : Char) : String :=
  String.ofList (List.replicate 72 character)

/-- Lines one below the other, each with its end. -/
def page (lines : List String) : String :=
  String.join (lines.map fun line => line ++ "\n")

/-- The tokens of a formula, or the first bad one. -/
def tokenLines (text : String) : List String :=
  match tokens text with
  | .ok found => found.map Placed.text
  | .error error => [error.message]

/-- The tree of a formula and its measures, if the formula has a tree. -/
def treeLines (text : String) : List String :=
  match parse text with
  | .error _ => []
  | .ok expr =>
      ["TREE (" ++ Decimal.natural expr.size ++ " nodes, depth " ++
          Decimal.natural expr.depth ++ "):",
        expr.outline]

/-- A formula with its tokens and its tree, between rulers. -/
def inspect (text : String) : List String :=
  [ruler '=', "FORMULA: " ++ text, ruler '-'] ++ tokenLines text ++
    [ruler '-'] ++ treeLines text ++ [ruler '=']

/-- The help for someone who types formulas. -/
def helpLines : List String :=
  [ruler '=',
    "Formula Help",
    ruler '-',
    "Operators: * / + - (* and / bind tighter than + and -)",
    "Group with parentheses: (1 + 2) * 3",
    ruler '-',
    ".help      -> show this help",
    ".exit      -> exit",
    ".debug     -> toggle display of tokens and tree",
    ruler '=']

namespace Notice

/-- Where the notice is told. -/
def channel : Notice → Channel
  | answer _ => .output
  | failure _ => .errors
  | lineFailure _ _ => .errors
  | inspection _ => .errors
  | greeting => .output
  | historyKept _ => .output
  | hint => .output
  | interruptionHint => .output
  | prompt _ => .output
  | help => .errors
  | debugSwitched _ => .errors
  | historyNotSaved _ => .errors
  | note _ => .journal

/-- The text of the notice; all but a prompt end their line. -/
def text : Notice → String
  | answer value => page [Decimal.signed value]
  | failure error => page [error.message]
  | lineFailure number error =>
      page ["Line " ++ Decimal.natural number ++ ": " ++ error.message]
  | inspection formula => page (inspect formula)
  | greeting =>
      page
        ["Welcome to the Formula REPL (read/eval/print loop)",
          "Type a formula, then hit Enter to evaluate it"]
  | historyKept path => page ["REPL history will be saved to " ++ path]
  | hint => page ["Type .help for help or .exit to exit"]
  | interruptionHint => page ["Use Ctrl-D or .exit to exit"]
  | prompt shown => shown.text
  | help => page helpLines
  | debugSwitched on => page ["Debug " ++ if on then "on" else "off"]
  | historyNotSaved fault =>
      page ["WARNING: Could not save REPL history: " ++ fault.message]
  | note recorded => page [recorded.text]

end Notice

namespace Transcript

/-- The notices of one channel. -/
def select (transcript : Transcript) (channel : Channel) : List Notice :=
  transcript.filter fun notice => notice.channel = channel

/-- The text that one channel carries. -/
def textOn (transcript : Transcript) (channel : Channel) : String :=
  String.join ((Transcript.select transcript channel).map Notice.text)

/-- The notes in the journal. -/
def notes (transcript : Transcript) : List Note :=
  transcript.filterMap fun notice =>
    match notice with
    | .note recorded => some recorded
    | _ => none

end Transcript

end Reckoner
