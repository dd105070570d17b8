import Reckoner.Session
import Mathlib.Data.List.Basic
import Mathlib.Data.List.DropRight
import Mathlib.Data.List.TakeWhile

/-!
# What a session answers

A session reads its input line by line and keeps a phase between two lines.  The
relation `Answers` says the same of the input as a whole: which lines are passed
over, which are commands, and which belong together and are answered once.  A
formula takes as many lines as it needs for its parentheses to be closed, and no
more; a blank line gives up on it, and so does the end of the input, without an
answer.

The notes in the journal are left aside, as they are not shown.
`run_answers` is the main theorem: a session shows exactly what the relation
gives for its input, which is one transcript and no other.
-/

namespace Reckoner

/-! ## Blank lines and commands -/

namespace Blank

theorem dropRight_eq (characters : List Char) :
    dropRight characters = characters.rdropWhile isSpace :=
  rfl

/-- A text is blank exactly if trimming leaves nothing of it. -/
theorem trim_eq_empty_iff
    {text : String} :
    trim text = "" ↔ isBlank text = true := by
  rw [trim, String.ofList_eq_empty_iff, dropRight_eq,
    List.rdropWhile_eq_nil_iff, isBlank, List.all_eq_true]
  constructor
  · intro inside character member
    rw [← List.takeWhile_append_dropWhile (p := isSpace)
      (l := text.toList)] at member
    rcases List.mem_append.mp member with front | back
    · exact List.mem_takeWhile_imp front
    · exact inside character back
  · intro blank character member
    exact blank character ((List.dropWhile_sublist isSpace).subset member)

theorem mem_of_mem_trim
    {text : String}
    {character : Char}
    (member : character ∈ (trim text).toList) :
    character ∈ text.toList := by
  rw [trim, String.toList_ofList, dropRight_eq] at member
  have inside := (List.rdropWhile_prefix isSpace _).subset member
  exact (List.dropWhile_sublist isSpace).subset inside

theorem isBlank_eq_false
    {text : String}
    (shown : trim text ≠ "") :
    isBlank text = false := by
  rw [← Bool.not_eq_true, ← trim_eq_empty_iff]
  exact shown

end Blank

/--
A line where a formula begins: trimmed, it is neither empty nor a command.
-/
def StartsFormula (line : String) : Prop :=
  Blank.trim line ∉ ["", ".exit", ".quit", "?", ".help", ".debug"]

instance : DecidablePred StartsFormula := fun line =>
  inferInstanceAs
    (Decidable
      (Blank.trim line ∉ ["", ".exit", ".quit", "?", ".help", ".debug"]))

theorem StartsFormula.trim_ne_empty
    {line : String}
    (starts : StartsFormula line) :
    Blank.trim line ≠ "" := by
  intro empty
  simp [StartsFormula, empty] at starts

theorem StartsFormula.ofText?_eq_none
    {line : String}
    (starts : StartsFormula line) :
    Command.ofText? line = none := by
  simp only [StartsFormula, List.mem_cons, List.not_mem_nil, or_false,
    not_or] at starts
  simp [Command.ofText?, starts]

theorem ofText?_eq_exit
    {line : String}
    (given : Blank.trim line = ".exit" ∨ Blank.trim line = ".quit") :
    Command.ofText? line = some .exit := by
  rcases given with name | name <;> simp [Command.ofText?, name]

theorem ofText?_eq_help
    {line : String}
    (given : Blank.trim line = "?" ∨ Blank.trim line = ".help") :
    Command.ofText? line = some .help := by
  rcases given with name | name <;> simp [Command.ofText?, name]

theorem ofText?_eq_debug
    {line : String}
    (given : Blank.trim line = ".debug") :
    Command.ofText? line = some .debug := by
  simp [Command.ofText?, given]

/-! ## What is shown -/

/-- The notices that are shown; those in the journal are not. -/
def Transcript.shown (transcript : Transcript) : Transcript :=
  transcript.filter fun notice => notice.channel ≠ .journal

@[simp]
theorem Transcript.shown_append (front back : Transcript) :
    Transcript.shown (front ++ back) =
      Transcript.shown front ++ Transcript.shown back :=
  List.filter_append front back

/-- What the channels that are shown carry does not depend on the journal. -/
theorem Transcript.select_shown
    {channel : Channel}
    (isShown : channel ≠ .journal)
    (transcript : Transcript) :
    Transcript.select (Transcript.shown transcript) channel =
      transcript.select channel := by
  have same : ∀ notice : Notice,
      (decide (notice.channel = channel) &&
        decide (notice.channel ≠ .journal)) =
        decide (notice.channel = channel) := by
    intro notice
    by_cases onChannel : notice.channel = channel
    · simp [onChannel, isShown]
    · simp [onChannel]
  simp only [select, shown, List.filter_filter, same]

theorem Transcript.textOn_shown
    {channel : Channel}
    (isShown : channel ≠ .journal)
    (transcript : Transcript) :
    Transcript.textOn (Transcript.shown transcript) channel =
      transcript.textOn channel := by
  rw [textOn, select_shown isShown, textOn]

theorem Transcript.select_append (front back : Transcript) (channel : Channel) :
    Transcript.select (front ++ back) channel =
      front.select channel ++ back.select channel :=
  List.filter_append front back

theorem Transcript.textOn_append (front back : Transcript) (channel : Channel) :
    Transcript.textOn (front ++ back) channel =
      front.textOn channel ++ back.textOn channel := by
  rw [textOn, select_append, List.map_append, String.join_append]
  rfl

/--
A formula is shown with its tokens and its tree while formulas are inspected.
-/
def inspected (inspecting : Bool) (text : String) : Transcript :=
  if inspecting then [.inspection text] else []

theorem Transcript.shown_notes (notes : List Note) :
    Transcript.shown (notes.map .note) = [] := by
  rw [Transcript.shown, List.filter_eq_nil_iff]
  intro notice member
  rcases List.mem_map.mp member with ⟨note, -, rfl⟩
  simp [Notice.channel]

/-- Evaluating a formula shows nothing but its inspection. -/
@[simp]
theorem shown_evaluationTranscript (inspecting : Bool) (text : String) :
    Transcript.shown (evaluationTranscript inspecting text) =
      inspected inspecting text := by
  have taken := Transcript.shown_notes [.formulaTaken text]
  have solved := Transcript.shown_notes [.formulaSolved (calculate text)]
  rw [List.map_singleton] at taken solved
  rw [evaluationTranscript, Transcript.shown_append, Transcript.shown_append,
    Transcript.shown_append, taken, solved, Transcript.shown_notes, inspected]
  cases inspecting with
  | false => rfl
  | true =>
      have inspection :
          Transcript.shown [.inspection text] = [.inspection text] := rfl
      rw [if_pos rfl, if_pos rfl, ← List.singleton_append,
        Transcript.shown_append, Transcript.shown_notes, inspection]
      rfl

@[simp]
theorem Outcome.shown_notice (outcome : Outcome) :
    Transcript.shown [outcome.notice] = [outcome.notice] := by
  cases outcome <;> rfl

/-! ## What is answered -/

/-- A formula and the lines that go on with it, as one text. -/
def joinLines (formula : String) (more : List String) : String :=
  more.foldl (fun formula line => formula ++ " " ++ Blank.trimRight line)
    formula

/--
The texts that are evaluated while lines go on with a formula, one
for each line.
-/
def attempts (formula : String) (more : List String) : List String :=
  (List.range (more.length + 1)).map fun count =>
    joinLines formula (more.take count)

theorem attempts_cons (formula line : String) (more : List String) :
    attempts formula (line :: more) =
      formula :: attempts (formula ++ " " ++ Blank.trimRight line) more := by
  rw [attempts, List.length_cons, List.range_succ_eq_map, List.map_cons,
    List.map_map]
  rfl

/--
These lines go on with a formula: none of them is blank, and a parenthesis is
open before each of them.
-/
structure GoOn (formula : String) (more : List String) : Prop where
  nonblank : ∀ line ∈ more, Blank.trim line ≠ ""
  unclosed : ∀ count < more.length,
    (calculate (joinLines formula (more.take count))).isUnclosed = true

theorem goOn_nil (formula : String) : GoOn formula [] :=
  ⟨by simp, by simp⟩

theorem goOn_cons_iff {formula line : String} {more : List String} :
    GoOn formula (line :: more) ↔
      Blank.trim line ≠ "" ∧ (calculate formula).isUnclosed = true ∧
        GoOn (formula ++ " " ++ Blank.trimRight line) more := by
  constructor
  · rintro ⟨nonblank, unclosed⟩
    refine ⟨nonblank line List.mem_cons_self, unclosed 0 (by simp), ?_, ?_⟩
    · exact fun other member => nonblank other (List.mem_cons_of_mem _ member)
    · intro count less
      exact unclosed (count + 1) (by simpa using less)
  · rintro ⟨lineNonblank, isOpen, nonblank, unclosed⟩
    constructor
    · intro other member
      rcases List.mem_cons.mp member with rfl | inMore
      · exact lineNonblank
      · exact nonblank other inMore
    · intro count less
      cases count with
      | zero => exact isOpen
      | succ count => exact unclosed count (by simpa using less)

/--
What is shown for some lines of input, and which of them are left unread.  The
first argument says whether formulas are inspected.
-/
inductive Answers : Bool → List String → Transcript → List String → Prop where
  | ended {inspecting : Bool} :
      Answers inspecting [] [] []
  | blank {inspecting : Bool} {line : String} {rest unread : List String}
      {told : Transcript} :
      Blank.trim line = "" →
      Answers inspecting rest told unread →
      Answers inspecting (line :: rest) told unread
  | exit {inspecting : Bool} {line : String} {rest : List String} :
      Blank.trim line = ".exit" ∨ Blank.trim line = ".quit" →
      Answers inspecting (line :: rest) [] rest
  | help {inspecting : Bool} {line : String} {rest unread : List String}
      {told : Transcript} :
      Blank.trim line = "?" ∨ Blank.trim line = ".help" →
      Answers inspecting rest told unread →
      Answers inspecting (line :: rest) (.help :: told) unread
  | debug {inspecting : Bool} {line : String} {rest unread : List String}
      {told : Transcript} :
      Blank.trim line = ".debug" →
      Answers (!inspecting) rest told unread →
      Answers inspecting (line :: rest) (.debugSwitched (!inspecting) :: told)
        unread
  | formula {inspecting : Bool} {first : String}
      {more rest unread : List String}
      {told : Transcript} :
      StartsFormula first →
      GoOn first more →
      (calculate (joinLines first more)).isUnclosed = false →
      Answers inspecting rest told unread →
      Answers inspecting (first :: (more ++ rest))
        ((attempts first more).flatMap (inspected inspecting) ++
          (calculate (joinLines first more)).notice :: told)
        unread
  | givenUp {inspecting : Bool} {first blank : String}
      {more rest unread : List String}
      {told : Transcript} :
      StartsFormula first →
      GoOn first more →
      (calculate (joinLines first more)).isUnclosed = true →
      Blank.trim blank = "" →
      Answers inspecting rest told unread →
      Answers inspecting (first :: (more ++ blank :: rest))
        ((attempts first more).flatMap (inspected inspecting) ++
          (calculate (joinLines first more)).notice :: told)
        unread
  | cutOff {inspecting : Bool} {first : String} {more : List String} :
      StartsFormula first →
      GoOn first more →
      (calculate (joinLines first more)).isUnclosed = true →
      Answers inspecting (first :: more)
        ((attempts first more).flatMap (inspected inspecting)) []

/-! ## One line of input -/

section Worlds

variable {World : Type}

@[simp]
theorem Reply.after_after (reply : Reply World) (second first : Transcript) :
    (reply.after second).after first = reply.after (first ++ second) := by
  simp [Reply.after]

@[simp]
theorem Reply.after_phase (reply : Reply World) (told : Transcript) :
    (reply.after told).phase = reply.phase :=
  rfl

@[simp]
theorem Reply.after_unread (reply : Reply World) (told : Transcript) :
    (reply.after told).unread = reply.unread :=
  rfl

namespace Session

variable
    {goesOn : Phase → Bool}
    {session : Session World}
    {phase : Phase}

/-- Nobody is asked for lines and no history is kept. -/
structure Quiet (session : Session World) : Prop where
  prompting : session.prompting = false
  history : session.history = none

theorem Quiet.ask
    (quiet : session.Quiet)
    (phase : Phase) :
    session.ask phase = [] := by
  simp only [Session.ask, quiet.prompting]

variable [Storage World]

theorem feed_nil (goes : goesOn phase = true) :
    session.feed goesOn phase [] =
      ⟨⟨session, .over .finished, session.ask phase⟩, []⟩ := by
  rw [feed, if_pos goes]

theorem feed_cons
    (goes : goesOn phase = true)
    (line : Line)
    (rest : List Line) :
    session.feed goesOn phase (line :: rest) =
      ((session.take phase line).session.feed goesOn
        (session.take phase line).phase rest).after
        (session.ask phase ++ (session.take phase line).transcript) := by
  rw [feed, if_pos goes]

theorem feed_of_stops
    (stops : goesOn phase = false)
    (input : List Line) :
    session.feed goesOn phase input = ⟨⟨session, phase, []⟩, input⟩ := by
  cases input with
  | nil => rw [feed, if_neg (by simp [stops])]
  | cons line rest => rw [feed, if_neg (by simp [stops])]

theorem take_ready_of_blank
    {line : String}
    (empty : Blank.trim line = "") :
    session.take .ready (.ok line) = ⟨session, .ready, []⟩ := by
  rw [take, if_pos (Blank.trim_eq_empty_iff.mp empty)]

theorem take_ready
    {line : String}
    (nonblank : Blank.trim line ≠ "") :
    session.take .ready (.ok line) = session.enter line := by
  rw [take, if_neg (by simp [Blank.isBlank_eq_false nonblank])]

theorem take_gathering_of_blank
    {formula line : String}
    (empty : Blank.trim line = "") :
    session.take (.gathering formula) (.ok line) =
      ⟨session, .ready, [(calculate formula).notice]⟩ := by
  rw [take, extend, if_pos (Blank.trim_eq_empty_iff.mp empty)]

namespace Quiet

theorem record
    (quiet : session.Quiet)
    (line : String) :
    session.record line = (session, []) := by
  rw [Session.record, quiet.history]

theorem enter_command
    {line : String}
    {command : Command}
    (quiet : session.Quiet)
    (given : Command.ofText? line = some command) :
    session.enter line = session.perform command := by
  rw [enter, quiet.record, given]
  rfl

theorem enter_formula
    {line : String}
    (quiet : session.Quiet)
    (starts : StartsFormula line) :
    session.enter line = session.attempt line := by
  rw [enter, quiet.record, starts.ofText?_eq_none]
  rfl

theorem take_gathering
    {formula line : String}
    (quiet : session.Quiet)
    (nonblank : Blank.trim line ≠ "") :
    session.take (.gathering formula) (.ok line) =
      session.attempt (formula ++ " " ++ Blank.trimRight line) := by
  rw [take, extend, if_neg (by simp [Blank.isBlank_eq_false nonblank]),
    quiet.record]
  rfl

end Quiet

/-! ## The lines of one formula -/

/--
Evaluate a formula, and take lines of input for as long as the phase goes on.
-/
def pursue
    (goesOn : Phase → Bool)
    (session : Session World)
    (formula : String)
    (input : List Line) :
    Reply World :=
  ((session.attempt formula).session.feed goesOn (session.attempt formula).phase
    input).after
    (session.attempt formula).transcript

theorem pursue_of_closed
    {formula : String}
    (closed : (calculate formula).isUnclosed = false)
    (input : List Line) :
    session.pursue goesOn formula input =
      (session.feed goesOn .ready input).after
        (evaluationTranscript session.inspecting formula ++
          [(calculate formula).notice]) := by
  rw [pursue, attempt, if_neg (by simp [closed])]

theorem pursue_of_unclosed
    {formula : String}
    (unclosed : (calculate formula).isUnclosed = true)
    (input : List Line) :
    session.pursue goesOn formula input =
      (session.feed goesOn (.gathering formula) input).after
        (evaluationTranscript session.inspecting formula) := by
  rw [pursue, attempt, if_pos unclosed]

/--
What a formula and the lines that go on with it come to, before any
other line is read.
-/
theorem pursue_lines
    (gathers : ∀ formula, goesOn (.gathering formula) = true)
    (quiet : session.Quiet)
    {formula : String}
    {more : List String}
    (goOn : GoOn formula more)
    (rest : List Line) :
    ∃ told,
      session.pursue goesOn formula (more.map .ok ++ rest) =
          (session.pursue goesOn (joinLines formula more) rest).after told ∧
        told.shown ++ inspected session.inspecting (joinLines formula more) =
          (attempts formula more).flatMap (inspected session.inspecting) := by
  induction more generalizing formula with
  | nil => exact ⟨[], rfl, by simp [attempts, joinLines, Transcript.shown]⟩
  | cons line others hypothesis =>
      rcases goOn_cons_iff.mp goOn with ⟨nonblank, unclosed, othersGoOn⟩
      rcases hypothesis othersGoOn with ⟨told, following, shown⟩
      refine ⟨evaluationTranscript session.inspecting formula ++ told, ?_, ?_⟩
      · rw [List.map_cons, List.cons_append, pursue_of_unclosed unclosed,
          feed_cons (gathers _), quiet.ask, List.nil_append,
          quiet.take_gathering nonblank]
        change (session.pursue goesOn _ (others.map .ok ++ rest)).after _ = _
        rw [following, Reply.after_after]
        rfl
      · rw [attempts_cons, List.flatMap_cons, ← shown, Transcript.shown_append,
          shown_evaluationTranscript, List.append_assoc]
        rfl

theorem shown_answer
    {told before : Transcript}
    {inspecting : Bool}
    {formula : String}
    (shown : told.shown ++ inspected inspecting formula = before) :
    Transcript.shown
        (told ++
          (evaluationTranscript inspecting formula ++
            [(calculate formula).notice])) =
      before ++ [(calculate formula).notice] := by
  rw [Transcript.shown_append, Transcript.shown_append,
    shown_evaluationTranscript, Outcome.shown_notice, ← List.append_assoc,
    shown]

section Outcomes

variable
    {first : String}
    {more : List String}

/-- As soon as no parenthesis is open the formula is answered. -/
theorem pursue_answered
    (gathers : ∀ formula, goesOn (.gathering formula) = true)
    (quiet : session.Quiet)
    (goOn : GoOn first more)
    (closed : (calculate (joinLines first more)).isUnclosed = false)
    (rest : List Line) :
    ∃ told,
      session.pursue goesOn first (more.map .ok ++ rest) =
          (session.feed goesOn .ready rest).after told ∧
        told.shown =
          (attempts first more).flatMap (inspected session.inspecting) ++
            [(calculate (joinLines first more)).notice] := by
  rcases pursue_lines gathers quiet goOn rest with ⟨told, following, shown⟩
  refine
    ⟨told ++
        (evaluationTranscript session.inspecting (joinLines first more) ++
          [(calculate (joinLines first more)).notice]),
      ?_, shown_answer shown⟩
  rw [following, pursue_of_closed closed, Reply.after_after]

/--
A blank line is taken, and the formula is answered although a
parenthesis is open.
-/
theorem pursue_givenUp
    (gathers : ∀ formula, goesOn (.gathering formula) = true)
    (quiet : session.Quiet)
    (goOn : GoOn first more)
    (unclosed : (calculate (joinLines first more)).isUnclosed = true)
    {blank : String}
    (empty : Blank.trim blank = "")
    (rest : List Line) :
    ∃ told,
      session.pursue goesOn first (more.map .ok ++ .ok blank :: rest) =
          (session.feed goesOn .ready rest).after told ∧
        told.shown =
          (attempts first more).flatMap (inspected session.inspecting) ++
            [(calculate (joinLines first more)).notice] := by
  rcases pursue_lines gathers quiet goOn (.ok blank :: rest) with
    ⟨told, following, shown⟩
  refine
    ⟨told ++
        (evaluationTranscript session.inspecting (joinLines first more) ++
          [(calculate (joinLines first more)).notice]),
      ?_, shown_answer shown⟩
  rw [following, pursue_of_unclosed unclosed, feed_cons (gathers _), quiet.ask,
    List.nil_append, take_gathering_of_blank empty, Reply.after_after,
    Reply.after_after, List.append_assoc]

/--
If the input ends while a parenthesis is open, the formula is not answered.
-/
theorem pursue_cutOff
    (gathers : ∀ formula, goesOn (.gathering formula) = true)
    (quiet : session.Quiet)
    (goOn : GoOn first more)
    (unclosed : (calculate (joinLines first more)).isUnclosed = true) :
    ∃ told,
      session.pursue goesOn first (more.map .ok) =
        ⟨⟨session, .over .finished, told⟩, []⟩ ∧
        told.shown =
          (attempts first more).flatMap (inspected session.inspecting) := by
  rcases pursue_lines gathers quiet goOn [] with ⟨told, following, shown⟩
  rw [List.append_nil] at following
  refine
    ⟨told ++ evaluationTranscript session.inspecting (joinLines first more), ?_,
      ?_⟩
  · rw [following, pursue_of_unclosed unclosed, feed_nil (gathers _), quiet.ask,
      Reply.after_after]
    simp [Reply.after]
  · rw [Transcript.shown_append, shown_evaluationTranscript, shown]

end Outcomes

/-! ## A whole session -/

theorem lasts_gathering
    (formula : String) :
    lasts (.gathering formula) = true :=
  rfl

theorem feed_lasts_formula
    (quiet : session.Quiet)
    {line : String}
    (starts : StartsFormula line)
    (rest : List Line) :
    session.feed lasts .ready (.ok line :: rest) =
      session.pursue lasts line rest := by
  rw [feed_cons rfl, quiet.ask, List.nil_append,
    take_ready starts.trim_ne_empty, quiet.enter_formula starts]
  rfl

theorem feed_lasts_command
    (quiet : session.Quiet)
    {line : String}
    {command : Command}
    (nonblank : Blank.trim line ≠ "")
    (given : Command.ofText? line = some command)
    (rest : List Line) :
    session.feed lasts .ready (.ok line :: rest) =
      ((session.perform command).session.feed lasts
        (session.perform command).phase rest).after
        (session.perform command).transcript := by
  rw [feed_cons rfl, quiet.ask, List.nil_append, take_ready nonblank,
    quiet.enter_command given]

end Session

/-- The session is over, some lines are left unread, and this has been shown. -/
structure Reply.Ends
    (reply : Reply World)
    (told : Transcript)
    (unread : List String) :
    Prop where
  phase : reply.phase = .over .finished
  unread : reply.unread = unread.map .ok
  shown : reply.transcript.shown = told

theorem Reply.Ends.after
    {reply : Reply World}
    {told : Transcript}
    {unread : List String}
    (ends : reply.Ends told unread)
    (before : Transcript) :
    (reply.after before).Ends (before.shown ++ told) unread := by
  refine ⟨ends.phase, ends.unread, ?_⟩
  rw [← ends.shown]
  exact Transcript.shown_append before reply.transcript

variable [Storage World]

/--
A session that is ready shows what its input is answered with, and is then over.
-/
theorem Answers.feed
    {inspecting : Bool}
    {lines unread : List String}
    {told : Transcript}
    (answers : Answers inspecting lines told unread)
    {session : Session World}
    (quiet : session.Quiet)
    (inspects : session.inspecting = inspecting) :
    (session.feed Session.lasts .ready (lines.map .ok)).Ends told unread := by
  induction answers generalizing session with
  | ended =>
      rw [List.map_nil, Session.feed_nil rfl, quiet.ask]
      exact ⟨rfl, rfl, rfl⟩
  | blank empty _ hypothesis =>
      rw [List.map_cons, Session.feed_cons rfl, quiet.ask, List.nil_append,
        Session.take_ready_of_blank empty]
      exact hypothesis quiet inspects
  | @exit inspecting line rest given =>
      have nonblank : Blank.trim line ≠ "" := by
        rcases given with name | name <;> simp [name]
      rw [List.map_cons,
        Session.feed_lasts_command quiet nonblank (ofText?_eq_exit given)]
      change
        ((session.feed Session.lasts (.over .finished) (rest.map .ok)).after
          []).Ends [] rest
      rw [Session.feed_of_stops rfl]
      exact ⟨rfl, rfl, rfl⟩
  | @help inspecting line rest unread told given _ hypothesis =>
      have nonblank : Blank.trim line ≠ "" := by
        rcases given with name | name <;> simp [name]
      rw [List.map_cons,
        Session.feed_lasts_command quiet nonblank (ofText?_eq_help given)]
      exact (hypothesis quiet inspects).after [.help]
  | @debug inspecting line rest unread told given _ hypothesis =>
      have nonblank : Blank.trim line ≠ "" := by simp [given]
      let switched : Session World :=
        { session with inspecting := !session.inspecting }
      have switchedQuiet : switched.Quiet := ⟨quiet.prompting, quiet.history⟩
      have switchedInspects : switched.inspecting = !inspecting :=
        congrArg (!·) inspects
      rw [List.map_cons,
        Session.feed_lasts_command quiet nonblank (ofText?_eq_debug given)]
      rw [← switchedInspects]
      exact (hypothesis switchedQuiet switchedInspects).after
        [.debugSwitched switched.inspecting]
  | @formula inspecting first more rest unread told starts goOn closed _
        hypothesis =>
      rcases Session.pursue_answered Session.lasts_gathering quiet goOn closed
        (rest.map .ok) with
        ⟨before, answered, shown⟩
      have ends := (hypothesis quiet inspects).after before
      rw [shown, inspects, List.append_assoc] at ends
      rw [List.map_cons, List.map_append,
        Session.feed_lasts_formula quiet starts, answered]
      exact ends
  | @givenUp inspecting first blank more rest unread told starts goOn unclosed
        empty _ hypothesis =>
      rcases Session.pursue_givenUp Session.lasts_gathering quiet goOn unclosed
        empty
          (rest.map .ok) with
        ⟨before, answered, shown⟩
      have ends := (hypothesis quiet inspects).after before
      rw [shown, inspects, List.append_assoc] at ends
      rw [List.map_cons, List.map_append, List.map_cons,
        Session.feed_lasts_formula quiet starts, answered]
      exact ends
  | @cutOff inspecting first more starts goOn unclosed =>
      rcases Session.pursue_cutOff Session.lasts_gathering quiet goOn
        unclosed with
        ⟨transcript, ended, shown⟩
      rw [List.map_cons, Session.feed_lasts_formula quiet starts, ended,
        ← inspects]
      exact ⟨rfl, rfl, shown⟩

/--
A whole session shows its greeting before what its input is answered with.
-/
theorem Answers.run
    {lines unread : List String}
    {told : Transcript}
    {session : Session World}
    (answers : Answers session.inspecting lines told unread)
    (quiet : session.Quiet) :
    (session.run (lines.map .ok)).Ends ([.greeting, .hint] ++ told) unread := by
  rw [Session.run, Session.loadHistory, quiet.history]
  exact (answers.feed quiet rfl).after [.greeting, .hint]

/-! ## Every input is answered -/

/--
Lines go on with a formula until no parenthesis is open, or up to a blank
line or the end.
-/
theorem exists_goOn (formula : String) (following : List String) :
    ∃ more rest, following = more ++ rest ∧ GoOn formula more ∧
      ((calculate (joinLines formula more)).isUnclosed = true →
        rest = [] ∨
          ∃ blank others, rest = blank :: others ∧ Blank.trim blank = "") := by
  induction following generalizing formula with
  | nil => exact ⟨[], [], rfl, goOn_nil formula, fun _ => Or.inl rfl⟩
  | cons line others hypothesis =>
      by_cases unclosed : (calculate formula).isUnclosed = true
      · by_cases empty : Blank.trim line = ""
        · exact ⟨[], line :: others, rfl, goOn_nil formula,
            fun _ => Or.inr ⟨line, others, rfl, empty⟩⟩
        · rcases hypothesis (formula ++ " " ++ Blank.trimRight line) with
            ⟨more, rest, rfl, goOn, stops⟩
          exact
            ⟨line :: more, rest, rfl, goOn_cons_iff.mpr ⟨empty, unclosed, goOn⟩,
              stops⟩
      · exact ⟨[], line :: others, rfl, goOn_nil formula,
          fun isOpen => absurd isOpen unclosed⟩

theorem exists_answers (inspecting : Bool) (lines : List String) :
    ∃ told unread, Answers inspecting lines told unread := by
  induction length : lines.length using Nat.strongRecOn
    generalizing inspecting lines with
  | ind size hypothesis =>
      cases lines with
      | nil => exact ⟨[], [], .ended⟩
      | cons line following =>
          rw [List.length_cons] at length
          have shorter : following.length < size := by omega
          by_cases empty : Blank.trim line = ""
          · rcases hypothesis _ shorter inspecting following rfl with
              ⟨told, unread, answers⟩
            exact ⟨_, _, .blank empty answers⟩
          by_cases leaves :
            Blank.trim line = ".exit" ∨ Blank.trim line = ".quit"
          · exact ⟨_, _, .exit leaves⟩
          by_cases asks : Blank.trim line = "?" ∨ Blank.trim line = ".help"
          · rcases hypothesis _ shorter inspecting following rfl with
              ⟨told, unread, answers⟩
            exact ⟨_, _, .help asks answers⟩
          by_cases switches : Blank.trim line = ".debug"
          · rcases hypothesis _ shorter (!inspecting) following rfl with
              ⟨told, unread, answers⟩
            exact ⟨_, _, .debug switches answers⟩
          have starts : StartsFormula line := by
            rw [not_or] at leaves asks
            simp [StartsFormula, empty, leaves, asks, switches]
          rcases exists_goOn line following with ⟨more, rest, rfl, goOn, stops⟩
          rw [List.length_append] at shorter
          cases isOpen : (calculate (joinLines line more)).isUnclosed with
          | false =>
              rcases hypothesis rest.length (by omega) inspecting rest rfl with
                ⟨told, unread, answers⟩
              exact ⟨_, _, .formula starts goOn isOpen answers⟩
          | true =>
              rcases stops isOpen with rfl | ⟨blank, others, rfl, blankEmpty⟩
              · rw [List.append_nil]
                exact ⟨_, _, .cutOff starts goOn isOpen⟩
              · rw [List.length_cons] at shorter
                rcases hypothesis others.length (by omega) inspecting others
                  rfl with
                  ⟨told, unread, answers⟩
                exact ⟨_, _, .givenUp starts goOn isOpen blankEmpty answers⟩

/--
A session without a history that asks for nothing and inspects nothing is over
at the end of its input or at a command to exit.  Behind its three lines of
greeting it shows what the input is answered with, and the input is answered in
exactly one way.
-/
theorem run_answers
    (session : Session World)
    (noHistory : session.history = none)
    (unprompted : session.prompting = false)
    (uninspected : session.inspecting = false)
    (lines : List String) :
    ∃ told unread,
      Answers false lines told unread ∧
      (∀ other left,
        Answers false lines other left → other = told ∧ left = unread) ∧
      (session.run (lines.map .ok)).phase = .over .finished ∧
      (session.run (lines.map .ok)).unread = unread.map .ok ∧
      (session.run (lines.map .ok)).transcript.shown =
        [.greeting, .hint] ++ told ∧
      (session.run (lines.map .ok)).transcript.textOn .output =
        page
            ["Welcome to the Formula REPL (read/eval/print loop)",
              "Type a formula, then hit Enter to evaluate it",
              "Type .help for help or .exit to exit"] ++
          told.textOn .output ∧
      (session.run (lines.map .ok)).transcript.textOn .errors =
        told.textOn .errors := by
  have quiet : session.Quiet := ⟨unprompted, noHistory⟩
  rcases exists_answers false lines with ⟨told, unread, answers⟩
  have ends := Answers.run (uninspected ▸ answers) quiet
  have carries :
      ∀ channel, channel ≠ .journal →
        (session.run (lines.map .ok)).transcript.textOn channel =
          Transcript.textOn [.greeting, .hint] channel ++
            told.textOn channel := by
    intro channel isShown
    rw [← Transcript.textOn_shown isShown, ends.shown, Transcript.textOn_append]
  refine
    ⟨told, unread, answers, ?_, ends.phase, ends.unread, ends.shown,
      carries .output (by decide), ?_⟩
  · intro other left otherwise
    have otherEnds := Answers.run (uninspected ▸ otherwise) quiet
    have sameShown := otherEnds.shown.symm.trans ends.shown
    have sameUnread := otherEnds.unread.symm.trans ends.unread
    have okInjective : Function.Injective (Except.ok : String → Line) :=
      fun _ _ => Except.ok.inj
    exact
      ⟨List.append_cancel_left sameShown,
        List.map_injective_iff.mpr okInjective sameUnread⟩
  · rw [carries .errors (by decide)]
    rfl

end Worlds

/--
A formula on two lines, one that is given up on while it is
inspected, and the end.
-/
theorem given_up_group_run :
    (⟨false, false, none, ⟨[], []⟩⟩ : Session).history = none ∧
      (⟨false, false, none, ⟨[], []⟩⟩ : Session).prompting = false ∧
      (⟨false, false, none, ⟨[], []⟩⟩ : Session).inspecting = false ∧
      ((⟨false, false, none, ⟨[], []⟩⟩ : Session).run
          (["", "(1 +", "2) * 3 ", " .debug", "(4", "  ", ".quit", "5"].map
            .ok)).transcript.shown =
        [.greeting, .hint, .answer 9, .debugSwitched true, .inspection "(4",
          .failure (.malformed ⟨.unclosedParen, 1⟩)] := by
  have answers :
      Answers false ["", "(1 +", "2) * 3 ", " .debug", "(4", "  ", ".quit", "5"]
        [.answer 9, .debugSwitched true, .inspection "(4",
          .failure (.malformed ⟨.unclosedParen, 1⟩)]
        ["5"] := by
    have product : calculate (joinLines "(1 +" ["2) * 3 "]) = .ok 9 := by
      decide +kernel
    have group :
        calculate (joinLines "(4" []) =
          .error (.malformed ⟨.unclosedParen, 1⟩) := by
      decide +kernel
    have goOn : GoOn "(1 +" ["2) * 3 "] :=
      goOn_cons_iff.mpr ⟨by decide +kernel, by decide +kernel, goOn_nil _⟩
    have closed :
        (calculate (joinLines "(1 +" ["2) * 3 "])).isUnclosed = false := by
      rw [product]
      rfl
    have unclosed : (calculate (joinLines "(4" [])).isUnclosed = true := by
      rw [group]
      rfl
    have leaving : Answers true [".quit", "5"] [] ["5"] :=
      .exit (by decide +kernel)
    have givenUp :=
      Answers.givenUp (by decide +kernel) (goOn_nil "(4") unclosed
        (by decide +kernel : Blank.trim "  " = "") leaving
    have switched : Answers false (" .debug" :: _) _ _ :=
      .debug (by decide +kernel) givenUp
    have answered := Answers.formula (by decide +kernel) goOn closed switched
    rw [product, group] at answered
    exact .blank (by decide +kernel) answered
  rcases run_answers (⟨false, false, none, ⟨[], []⟩⟩ : Session) rfl rfl rfl
      ["", "(1 +", "2) * 3 ", " .debug", "(4", "  ", ".quit", "5"] with
    ⟨told, unread, -, unique, -, -, shown, -, -⟩
  rw [(unique _ _ answers).1]
  exact ⟨rfl, rfl, rfl, shown⟩

end Reckoner
