/-!
# The help text

What the program says about its own use.  Descriptions stand in a column of
their own, right of the widest option.
-/

namespace Reckoner.CommandLine

/-- The name of the program. -/
def programName : String :=
  "formula"

/-- The version of the program. -/
def versionText : String :=
  programName ++ " 0.0.0\n"

/-- The path at which the history is kept unless another is given. -/
def defaultHistoryPath : String :=
  "~/.config/formula/repl-history"

/-- The width of the labels of arguments. -/
def argumentWidth : Nat := 19

/-- The width of the labels of options. -/
def optionWidth : Nat := 37

/-- A label, filled up with spaces to a width. -/
def pad (width : Nat) (label : String) : String :=
  label ++ String.ofList (List.replicate (width - label.length) ' ')

/-- A description, each line after the first moved to the right by a width. -/
def indented (width : Nat) (description : String) : String :=
  String.ofList
    (description.toList.flatMap fun character =>
      if character = '\n' then '\n' :: List.replicate width ' '
        else [character])

/-- An entry: a label and, beside it, a description. -/
def entry (width : Nat) (label description : String) : String :=
  pad width label ++ indented width description ++ "\n"

/--
The help text; it shows the value of the variable that turns inspection on.
-/
def helpText (debugVariable : Option String) : String :=
  String.join
    ["Evaluate integer arithmetic formulas\n",
      "\n",
      "Usage: formula [OPTIONS] [expression]...\n",
      "\n",
      "Arguments:\n",
      entry argumentWidth "  [expression]..."
        ("Formula to evaluate. Multiple args are joined with spaces, so\n" ++
          "quoting is optional: formula 1 + 2 '*' 3"),
      "\n",
      "Options:\n",
      entry optionWidth "  -c, --code <code>" "Evaluate a single formula",
      entry optionWidth "  -f, --file <file>"
        ("Evaluate each non-blank line of a file and print one result\n" ++
          "per line. Use a single dash to read from stdin."),
      entry optionWidth "  -d, --debug"
        ("Show tokens and expression tree? [env: FORMULA_DEBUG=" ++
          debugVariable.getD "" ++ "]"),
      entry optionWidth "      --history-path <history_path>"
        ("Path to REPL history file [default: " ++ defaultHistoryPath ++ "]"),
      entry optionWidth "      --no-history"
        "Disable REPL history? [default: history enabled]",
      entry optionWidth "  -h, --help" "Print help",
      entry optionWidth "  -V, --version" "Print version"]

end Reckoner.CommandLine
