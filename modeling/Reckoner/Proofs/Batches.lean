import Reckoner.Proofs.Invocation
import Reckoner.Proofs.Sheets

/-!
# Sheets against single formulas

A run on a sheet tells what runs on its formulas tell, each formula being
given in an option by itself: their answers one behind the other, their
complaints with the number of the line in front, and the exit code of the last
of them that fails.

The two kinds of runs tell this in different ways.  One stops at its only
outcome, the other goes through all outcomes and carries an exit code along.
What one more formula adds to the report of a sheet is said first, for a formula
that succeeds (`Report.Gathers.append_ok`) and for one that fails
(`Report.Gathers.append_error`); that the whole sheet gathers its runs follows
formula by formula.

It makes no difference whether a sheet is a file or the input.  If one line
encodes no text, nothing is answered, whatever the lines before it come to
(`runProgram_sheet`).
-/

namespace Reckoner

namespace CommandLine

/-! ## One thing to evaluate -/

theorem mem_of_valueOf?
    {given : List Given}
    {parameter : Parameter}
    {value : String}
    (found : valueOf? given parameter = some value) :
    .parameter parameter value ∈ given := by
  rcases List.exists_of_findSome?_eq_some found with ⟨known, member, same⟩
  cases known with
  | parameter other text =>
      rcases Option.ite_none_right_eq_some.mp same with ⟨rfl, sameValue⟩
      rw [← Option.some.inj sameValue]
      exact member
  | switch _ => cases same
  | expression _ => cases same

theorem mem_of_wordsOf?
    {given : List Given}
    {words : List String}
    (found : wordsOf? given = some words) :
    .expression words ∈ given := by
  rcases List.exists_of_findSome?_eq_some found with ⟨known, member, same⟩
  cases known with
  | expression _ =>
      cases same
      exact member
  | switch _ => cases same
  | parameter _ _ => cases same

/-- At most one of the subjects that exclude each other is given. -/
theorem subject_eq_of_readArguments
    {arguments : List String}
    {given : List Given}
    {first second : Given}
    (read : readArguments arguments = .ok given)
    (firstGiven : first ∈ given)
    (secondGiven : second ∈ given)
    (firstExclusive : first.subject.isExclusive = true)
    (secondExclusive : second.subject.isExclusive = true) :
    first.subject = second.subject := by
  rcases readArguments_eq_ok_iff.mp read with ⟨reading, -, unopposed, rfl⟩
  have among {item : Given} (member : item ∈ reading.given)
      (exclusive : item.subject.isExclusive = true) :
      item.subject ∈
        (reading.given.map Given.subject).filter Subject.isExclusive :=
    List.mem_filter.mpr ⟨List.mem_map_of_mem member, exclusive⟩
  have firstAmong := among firstGiven firstExclusive
  have secondAmong := among secondGiven secondExclusive
  rw [Reading.checkConflicts] at unopposed
  split at unopposed
  · cases unopposed
  · next alone =>
      cases found :
        (reading.given.map Given.subject).filter Subject.isExclusive with
      | nil =>
          rw [found] at firstAmong
          cases firstAmong
      | cons subject others =>
          cases others with
          | nil =>
              rw [found, List.mem_singleton] at firstAmong secondAmong
              rw [firstAmong, secondAmong]
          | cons other more => exact absurd found (alone subject other more)

end CommandLine

open CommandLine

/--
The arguments ask for the sheet at a path, and formulas are not inspected.
-/
def AsksForSheet
    (surroundings : Surroundings)
    (arguments : List String)
    (path : String) :
    Prop :=
  ∃ given,
    readArguments arguments = .ok given ∧
      valueOf? given .file = some path ∧
        (Plan.ofGiven surroundings given).inspecting = false

section Asked

variable
    {surroundings : Surroundings}
    {arguments : List String}
    {path : String}

theorem AsksForSheet.runProgram_eq
    (asked : AsksForSheet surroundings arguments path)
    (input : List UInt8)
    (files : FileTree) :
    runProgram arguments surroundings input files =
      (⟨false, if path = "-" then .inputSheet else .fileSheet path⟩ : Plan).run
        surroundings input
        files := by
  rcases asked with ⟨given, read, onFile, uninspected⟩
  have fileGiven := mem_of_valueOf? onFile
  have noCode : valueOf? given .code = none := by
    rw [Option.eq_none_iff_forall_ne_some]
    intro text onCode
    cases subject_eq_of_readArguments read fileGiven (mem_of_valueOf? onCode)
      rfl rfl
  have noWords : wordsOf? given = none := by
    rw [Option.eq_none_iff_forall_ne_some]
    intro words inWords
    cases subject_eq_of_readArguments read fileGiven (mem_of_wordsOf? inWords)
      rfl rfl
  have job : (Plan.ofGiven surroundings given).job =
      if path = "-" then .inputSheet else .fileSheet path := by
    rw [Plan.ofGiven, noCode, noWords, onFile]
  rw [runProgram, read, ← uninspected, ← job]

/-- Where a sheet is evaluated without inspection, so is a single formula. -/
theorem AsksForSheet.runProgram_code
    (asked : AsksForSheet surroundings arguments path)
    (input : List UInt8)
    (files : FileTree)
    (text : String) :
    runProgram ["--code=" ++ text] surroundings input files =
      runFormula false files text := by
  rcases asked with ⟨given, -, -, uninspected⟩
  have switched := Reading.switched_start
  have quiet :
      (Plan.ofGiven surroundings Reading.start.given).inspecting = false :=
    (Bool.or_eq_false_iff.mp uninspected).2
  rw [← quiet]
  exact runProgram_of_readAll surroundings input files switched
    (switched.readAll_code text)
    (switched.ofGiven_code surroundings text)

end Asked

/-! ## What is told while a sheet is evaluated -/

theorem Sheet.shown_transcript (lines : List Line) :
    Transcript.shown (Sheet.transcript false lines) = [] := by
  induction lines with
  | nil => rfl
  | cons line rest hypothesis =>
      cases line with
      | error fault => rfl
      | ok text =>
          rw [Sheet.transcript, Transcript.shown_append, hypothesis,
            List.append_nil]
          split
          · rfl
          · exact shown_evaluationTranscript false text

/-- What is not shown makes no difference to the report of a sheet. -/
theorem runSheet_of_shown
    {told : Transcript}
    (quiet : Transcript.shown told = [])
    (files : FileTree)
    (outcomes : Except RunError (List LineOutcome)) :
    runSheet files told outcomes = runSheet files [] outcomes := by
  have nothing {channel : Channel} (isShown : channel ≠ .journal) :
      told.textOn channel = Transcript.textOn [] channel := by
    rw [← Transcript.textOn_shown isShown, quiet]
  have onOutput : told.textOn .output = Transcript.textOn [] .output :=
    nothing (by decide)
  have onErrors : told.textOn .errors = Transcript.textOn [] .errors :=
    nothing (by decide)
  cases outcomes with
  | error error =>
      rw [runSheet, runSheet, Report.ofError, Report.ofError, onOutput,
        onErrors]
  | ok lines =>
      simp only [runSheet, Report.ofTranscript, Transcript.textOn_append,
        onOutput, onErrors]

section Places

variable
    {surroundings : Surroundings}
    {arguments : List String}
    {path : String}
    {files : FileTree}
    {source : List UInt8}

theorem AsksForSheet.runProgram_file
    (asked : AsksForSheet surroundings arguments path)
    (named : path ≠ "-")
    (stored : files.openPath path = .ok (.file source))
    (input : List UInt8) :
    runProgram arguments surroundings input files =
      runSheet files [] (Sheet.outcomes (linesOf source)) := by
  have lines : Storage.linesAt files path = .ok (linesOf source) :=
    congrArg (Except.map Entry.lines) stored
  have quiet : Transcript.shown (Sheet.transcriptAt false files path) = [] := by
    rw [Sheet.transcriptAt, lines]
    exact Sheet.shown_transcript (linesOf source)
  have outcomes :
      Sheet.outcomesAt files path = Sheet.outcomes (linesOf source) := by
    rw [Sheet.outcomesAt, lines]
  rw [asked.runProgram_eq, if_neg named, ← outcomes]
  exact runSheet_of_shown quiet files _

theorem AsksForSheet.runProgram_input
    (asked : AsksForSheet surroundings arguments "-")
    (source : List UInt8)
    (files : FileTree) :
    runProgram arguments surroundings source files =
      runSheet files [] (Sheet.outcomes (linesOf source)) := by
  rw [asked.runProgram_eq, if_pos rfl]
  exact runSheet_of_shown (Sheet.shown_transcript (linesOf source)) files _

end Places

/-! ## Gathering runs -/

/--
The formulas among the lines of a sheet, each with the number of its line.
-/
def Sheet.formulas (texts : List String) : List (String × Nat) :=
  (texts.zipIdx 1).filter fun line => Blank.trim line.1 ≠ ""

/-- The formulas whose runs fail. -/
def failing
    (run : String → Report)
    (formulas : List (String × Nat)) :
    List (String × Nat) :=
  formulas.filter fun formula => (run formula.1).exitCode ≠ 0

/--
The report tells what the runs on some formulas tell, complaints being numbered.
-/
structure Report.Gathers
    (report : Report)
    (run : String → Report)
    (formulas : List (String × Nat)) :
    Prop where
  output :
    report.output =
      String.join (formulas.map fun formula => (run formula.1).output)
  errors :
    report.errors =
      String.join
        ((failing run formulas).map fun formula =>
          "Line " ++ Decimal.natural formula.2 ++ ": " ++
            (run formula.1).errors)
  exitCode :
    report.exitCode =
      ((failing run formulas).getLast?.map fun formula =>
        (run formula.1).exitCode).getD 0

/-- The outcome on the line of a formula. -/
def Sheet.outcomeOf (formula : String × Nat) : LineOutcome :=
  ⟨formula.2, calculate formula.1⟩

theorem Sheet.entries_eq_map (texts : List String) :
    Sheet.entries texts = (Sheet.formulas texts).map Sheet.outcomeOf :=
  rfl

theorem FormulaError.exitCode_ne_zero
    (error : FormulaError) :
    error.exitCode ≠ 0 := by
  cases error with
  | invalidToken _ => simp [exitCode]
  | malformed _ => simp [exitCode]
  | arithmetic error => cases error <;> simp [exitCode]

section Gathering

variable
    {run : String → Report}
    {files : FileTree}
    {formulas : List (String × Nat)}
    {lines : List LineOutcome}

theorem runSheet_append
    (files : FileTree)
    (lines : List LineOutcome)
    (line : LineOutcome) :
    (runSheet files [] (.ok (lines ++ [line]))).output =
        (runSheet files [] (.ok lines)).output ++
          Transcript.textOn [line.notice] .output ∧
      (runSheet files [] (.ok (lines ++ [line]))).errors =
        (runSheet files [] (.ok lines)).errors ++
          Transcript.textOn [line.notice] .errors := by
  have onChannel (channel : Channel) :
      Transcript.textOn ((lines ++ [line]).map LineOutcome.notice) channel =
        Transcript.textOn (lines.map LineOutcome.notice) channel ++
          Transcript.textOn [line.notice] channel := by
    rw [List.map_append, List.map_singleton, Transcript.textOn_append]
  exact ⟨onChannel .output, onChannel .errors⟩

theorem sheetExitCode_append (lines : List LineOutcome) (line : LineOutcome) :
    sheetExitCode (lines ++ [line]) =
      match line.outcome with
      | .ok _ => sheetExitCode lines
      | .error error => error.exitCode := by
  rw [sheetExitCode, List.foldl_append]
  rfl

theorem page_numbered
    (label line : String) :
    label ++ page [line] = page [label ++ line] := by
  show label ++ String.join [line ++ "\n"] = String.join [label ++ line ++ "\n"]
  rw [String.join_cons, String.join_nil, String.append_empty, String.join_cons,
    String.join_nil, String.append_empty, String.append_assoc]

/-- A formula more that succeeds adds its answer. -/
theorem Report.Gathers.append_ok
    {text : String}
    {value : Int64}
    (gathers : (runSheet files [] (.ok lines)).Gathers run formulas)
    (tells : (run text).Tells "" (.ok value))
    (number : Nat) :
    (runSheet files [] (.ok (lines ++ [⟨number, .ok value⟩]))).Gathers run
      (formulas ++ [(text, number)]) := by
  have same :
      failing run (formulas ++ [(text, number)]) = failing run formulas := by
    have succeeds : (run text).exitCode = 0 := tells.exitCode
    rw [failing, List.filter_append,
      List.filter_cons_of_neg (by simp [succeeds]), List.filter_nil,
      List.append_nil, failing]
  rcases runSheet_append files lines ⟨number, .ok value⟩ with
    ⟨onOutput, onErrors⟩
  refine ⟨?_, ?_, ?_⟩
  · rw [onOutput, gathers.output, List.map_append, String.join_append,
      List.map_singleton, tells.output]
    rfl
  · rw [onErrors, gathers.errors, same]
    exact String.append_empty
  · rw [same, ← gathers.exitCode]
    exact sheetExitCode_append lines ⟨number, .ok value⟩

/--
A formula more that fails adds its complaint, and the exit code becomes its own.
-/
theorem Report.Gathers.append_error
    {text : String}
    {error : FormulaError}
    (gathers : (runSheet files [] (.ok lines)).Gathers run formulas)
    (tells : (run text).Tells "" (.error error))
    (number : Nat) :
    (runSheet files [] (.ok (lines ++ [⟨number, .error error⟩]))).Gathers run
      (formulas ++ [(text, number)]) := by
  have more : failing run (formulas ++ [(text, number)]) =
      failing run formulas ++ [(text, number)] := by
    have fails : (run text).exitCode ≠ 0 :=
      tells.exitCode ▸ error.exitCode_ne_zero
    rw [failing, List.filter_append,
      List.filter_cons_of_pos (by simpa using fails), List.filter_nil, failing]
  rcases runSheet_append files lines ⟨number, .error error⟩ with
    ⟨onOutput, onErrors⟩
  refine ⟨?_, ?_, ?_⟩
  · rw [onOutput, gathers.output, List.map_append, String.join_append,
      List.map_singleton, tells.output]
    rfl
  · rw [onErrors, gathers.errors, more, List.map_append, String.join_append,
      List.map_singleton, tells.errors, String.empty_append, Outcome.complaint,
      page_numbered]
    rfl
  · rw [more, List.getLast?_concat]
    exact (sheetExitCode_append lines ⟨number, .error error⟩).trans
      tells.exitCode.symm

theorem gathers_runSheet
    (tells : ∀ text, (run text).Tells "" (calculate text))
    (formulas : List (String × Nat)) :
    (runSheet files [] (.ok (formulas.map Sheet.outcomeOf))).Gathers run
      formulas := by
  induction formulas using List.reverseRecOn with
  | nil => exact ⟨rfl, rfl, rfl⟩
  | append_singleton formulas formula hypothesis =>
      rcases formula with ⟨text, number⟩
      have told := tells text
      rw [List.map_append, List.map_singleton, Sheet.outcomeOf]
      cases outcome : calculate text with
      | ok value =>
          rw [outcome] at told
          exact hypothesis.append_ok told number
      | error error =>
          rw [outcome] at told
          exact hypothesis.append_error told number

end Gathering

/--
A run on a sheet agrees with runs on its formulas, where formulas are
not inspected.

Whether the sheet is a file or the input, the report is the same, and a run on
one formula tells what the formula comes to.  If a line encodes no text, nothing
is answered, however many lines stand before it, and the exit code is that of a
line that cannot be read.  Otherwise the report gathers those of runs on the
lines that hold more than white space, each given by itself: all their answers,
the complaints of those that fail with their numbers, and the exit code of the
last one that fails.
-/
theorem runProgram_sheet
    {surroundings : Surroundings}
    {arguments inputArguments : List String}
    {path : String}
    {files : FileTree}
    {source : List UInt8}
    (asked : AsksForSheet surroundings arguments path)
    (named : path ≠ "-")
    (stored : files.openPath path = .ok (.file source))
    (inputAsked : AsksForSheet surroundings inputArguments "-")
    (input : List UInt8) :
    runProgram arguments surroundings input files =
        runProgram inputArguments surroundings source files ∧
      (∀ text,
        (runProgram ["--code=" ++ text] surroundings [] files).Tells ""
          (calculate text)) ∧
      ∀ lines, Line.Lined source lines →
        ((∃ line ∈ lines, ∀ text, Line.toBytes text ≠ line) →
          (runProgram arguments surroundings input files).output = "" ∧
            (runProgram arguments surroundings input files).exitCode = 5) ∧
        ∀ texts, texts.map Line.toBytes = lines →
          (runProgram arguments surroundings input files).Gathers
            (fun text => runProgram ["--code=" ++ text] surroundings [] files)
            (Sheet.formulas texts) := by
  have report := asked.runProgram_file named stored input
  have tells (text : String) :
      (runProgram ["--code=" ++ text] surroundings [] files).Tells ""
        (calculate text) := by
    rw [asked.runProgram_code]
    exact runFormula_tells false files text
  refine
    ⟨report.trans (inputAsked.runProgram_input source files).symm, tells, ?_⟩
  rw [report]
  intro lines lined
  refine ⟨?_, ?_⟩
  · intro invalid
    rw [Sheet.outcomes_eq_error lined invalid]
    exact ⟨rfl, rfl⟩
  · rintro texts rfl
    have found : Sheet.outcomes (linesOf source) =
        .ok ((Sheet.formulas texts).map Sheet.outcomeOf) :=
      Sheet.outcomes_eq_ok_iff.mpr
        ⟨texts, lined, (Sheet.entries_eq_map texts).symm⟩
    rw [found]
    exact gathers_runSheet tells (Sheet.formulas texts)

/-- A sheet with a sum, an empty line and a formula that ends too early. -/
theorem runProgram_sheet_sum :
    ∃ files : FileTree,
      files.openPath "sums" = .ok (.file [49, 43, 50, 10, 10, 52, 47]) ∧
        runProgram ["-f", "sums"] ⟨none, "dumb", none⟩ [] files =
            runProgram ["-f", "-"] ⟨none, "dumb", none⟩
              [49, 43, 50, 10, 10, 52, 47] files ∧
          (runProgram ["-f", "sums"] ⟨none, "dumb", none⟩ [] files).Gathers
            (fun text =>
              runProgram ["--code=" ++ text] ⟨none, "dumb", none⟩ [] files)
            [("1+2", 1), ("4/", 3)] := by
  have asked : AsksForSheet ⟨none, "dumb", none⟩ ["-f", "sums"] "sums" :=
    ⟨[.parameter .file "sums"], by decide, by decide, by decide⟩
  have inputAsked : AsksForSheet ⟨none, "dumb", none⟩ ["-f", "-"] "-" :=
    ⟨[.parameter .file "-"], by decide, by decide, by decide⟩
  have stored :
      FileTree.openPath ⟨[], [(["sums"], .file [49, 43, 50, 10, 10, 52, 47])]⟩
          "sums" =
        .ok (.file [49, 43, 50, 10, 10, 52, 47]) := by
    decide +kernel
  have lined :
      Line.Lined [49, 43, 50, 10, 10, 52, 47] [[49, 43, 50], [], [52, 47]] :=
    Line.lined_iff.mpr (by decide)
  have formulas :
      Sheet.formulas ["1+2", "", "4/"] = [("1+2", 1), ("4/", 3)] := by
    decide +kernel
  rcases runProgram_sheet asked (by decide) stored inputAsked [] with
    ⟨same, -, read⟩
  have gathers := (read _ lined).2 ["1+2", "", "4/"] (by decide +kernel)
  rw [formulas] at gathers
  exact ⟨_, stored, same, gathers⟩

end Reckoner
