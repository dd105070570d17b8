import Reckoner.Program
import Reckoner.Proofs.Continuation
import Reckoner.Proofs.Inspection
import Reckoner.Proofs.Replacement

/-!
# Formulas on the command line

A formula need not be quoted.  Its words may follow the separator, whatever they
look like, and if the first of them is an ordinary word, even the separator can
be left out: the program does what it does with all words joined in one option.
Switches before the formula are read first and change nothing of this.

How the words are cut from a text makes no difference either.  Where words are
joined again with single spaces, only the widths of spaces have changed
(`runProgram_words`).
-/

namespace Reckoner

namespace CommandLine

/-! ## Kinds of arguments -/

/-- The names of the long options. -/
def longNames : List String :=
  ["debug", "no-history", "help", "version", "code", "file", "history-path"]

/-- A word that is neither the separator nor an option. -/
structure IsOrdinary (word : String) : Prop where
  notSeparator : word ≠ "--"
  notLong : ∀ name ∈ longNames, word ≠ "--" ++ name
  notLongWithValue :
    ∀ name ∈ longNames, ∀ value, word ≠ "--" ++ name ++ "=" ++ value
  notShort : ∀ letters, letters ≠ [] →
    (∀ letter ∈ letters, letter ∈ ['c', 'f', 'd', 'h', 'V']) →
      word ≠ String.ofList ('-' :: letters)

/-- An argument that gives switches and nothing else. -/
def OnlySwitches (argument : String) : Prop :=
  ∃ switches : List Switch,
    Argument.ofText argument = .items (switches.map .switch)

theorem name_mem_of_longItem?
    {name : String}
    {value : Option String}
    {item : Item}
    (found : longItem? name value = some item) :
    name ∈ longNames := by
  rw [longItem?] at found
  split at found
  · next switch known =>
      have same := List.find?_some known
      rw [beq_iff_eq] at same
      rw [← same]
      cases switch <;> decide
  · rcases Option.map_eq_some_iff.mp found with ⟨parameter, known, -⟩
    have same := List.find?_some known
    rw [beq_iff_eq] at same
    rw [← same]
    cases parameter <;> decide

theorem mem_of_isLetter
    {letter : Char}
    (known : isLetter letter = true) :
    letter ∈ ['c', 'f', 'd', 'h', 'V'] := by
  rw [isLetter, Bool.or_eq_true, Option.isSome_iff_exists,
    Option.isSome_iff_exists] at known
  rcases known with ⟨switch, found⟩ | ⟨parameter, found⟩
  · have same := List.find?_some found
    rw [beq_iff_eq] at same
    cases switch <;> cases same <;> decide
  · have same := List.find?_some found
    rw [beq_iff_eq] at same
    cases parameter <;> cases same <;> decide

theorem IsOrdinary.toList_ne_long
    {word : String}
    {body : List Char}
    (ordinary : IsOrdinary word)
    (known : String.ofList (body.takeWhile (· ≠ '=')) ∈ longNames) :
    word.toList ≠ '-' :: '-' :: body := by
  intro shape
  have split : body.takeWhile (· ≠ '=') ++ body.dropWhile (· ≠ '=') = body :=
    List.takeWhile_append_dropWhile
  cases rest : body.dropWhile (· ≠ '=') with
  | nil =>
      apply ordinary.notLong _ known
      rw [rest, List.append_nil] at split
      rw [← String.toList_inj, shape]
      simp only [String.toList_append, String.toList_ofList, split]
      rfl
  | cons equals value =>
      obtain rfl : equals = '=' := by
        have stopped := List.head?_dropWhile_not (· ≠ '=') body
        rw [rest] at stopped
        simpa using stopped
      apply ordinary.notLongWithValue _ known (String.ofList value)
      rw [rest] at split
      rw [← String.toList_inj, shape]
      simp only [String.toList_append, String.toList_ofList, List.append_assoc]
      exact congrArg (fun rest => '-' :: '-' :: rest) split.symm

theorem IsOrdinary.ofText_eq
    {word : String}
    (ordinary : IsOrdinary word) :
    Argument.ofText word = .word word := by
  rw [Argument.ofText]
  split
  · next shape =>
      exact absurd (String.toList_inj.mp shape) ordinary.notSeparator
  · next body _ shape =>
      split
      · next item found =>
          exact absurd shape
            (ordinary.toList_ne_long (name_mem_of_longItem? found))
      · rfl
  · next letter letters _ _ shape =>
      split
      · next known =>
          refine absurd ?_
            (ordinary.notShort (letter :: letters) (List.cons_ne_nil _ _) ?_)
          · rw [← shape, String.ofList_toList]
          · intro character member
            exact mem_of_isLetter (List.all_eq_true.mp known character member)
      · rfl
  · rfl

theorem ofText_long
    {name : String}
    (plain : '=' ∉ name.toList)
    (value : String) :
    Argument.ofText ("--" ++ name ++ "=" ++ value) =
      match longItem? name (some value) with
      | some item => .items [item]
      | none => .word ("--" ++ name ++ "=" ++ value) := by
  have shape :
      ("--" ++ name ++ "=" ++ value).toList =
        '-' :: '-' :: (name.toList ++ '=' :: value.toList) := by
    simp only [String.toList_append, List.append_assoc]
    rfl
  have before : ∀ character ∈ name.toList, (character ≠ '=') := by
    rintro character member rfl
    exact plain member
  have kept :
      (name.toList ++ '=' :: value.toList).takeWhile (· ≠ '=') =
        name.toList := by
    rw [List.takeWhile_append_of_pos (by simpa using before)]
    simp
  have attached :
      attachedValue? (name.toList ++ '=' :: value.toList) = some value := by
    rw [attachedValue?, List.dropWhile_append_of_pos (by simpa using before)]
    simp [String.ofList_toList]
  have understood :
      longItem?
        (String.ofList
          ((name.toList ++ '=' :: value.toList).takeWhile (· ≠ '=')))
          (attachedValue? (name.toList ++ '=' :: value.toList)) =
        longItem? name (some value) := by
    rw [attached, kept, String.ofList_toList]
  rw [Argument.ofText, shape]
  split
  · next same => simp at same
  · next body _ same =>
      cases same
      cases found : longItem? name (some value) <;>
        simp only [understood, found]
  · next notLong same =>
      cases same
      exact (notLong rfl).elim
  · next notLong _ => exact (notLong _ rfl).elim

theorem plain_of_mem_longNames
    {name : String}
    (known : name ∈ longNames) :
    '=' ∉ name.toList := by
  revert name
  decide

theorem longItem?_ne_none
    {name : String}
    (known : name ∈ longNames)
    (value : Option String) :
    longItem? name value ≠ none := by
  simp only [longNames, List.mem_cons, List.not_mem_nil, or_false] at known
  cases value <;> rcases known with rfl | rfl | rfl | rfl | rfl | rfl | rfl <;>
    exact Option.some_ne_none _

theorem ofText_code (text : String) :
    Argument.ofText ("--code=" ++ text) =
      .items [.parameter .code (some text)] := by
  have shape : "--code=" = "--" ++ "code" ++ "=" := by decide
  have plain : '=' ∉ "code".toList := by decide
  rw [shape, ofText_long plain]
  rfl

theorem isLetter_of_mem
    {letter : Char}
    (known : letter ∈ ['c', 'f', 'd', 'h', 'V']) :
    isLetter letter = true := by
  simp only [List.mem_cons, List.not_mem_nil, or_false] at known
  rcases known with rfl | rfl | rfl | rfl | rfl <;> rfl

theorem ofText_letters
    {letters : List Char}
    (some : letters ≠ [])
    (known : ∀ letter ∈ letters, letter ∈ ['c', 'f', 'd', 'h', 'V']) :
    Argument.ofText (String.ofList ('-' :: letters)) =
      .items (clusterItems letters) := by
  cases letters with
  | nil => exact absurd rfl some
  | cons letter others =>
      have notDash : letter ≠ '-' := by
        rintro rfl
        exact absurd (known '-' List.mem_cons_self) (by decide)
      have all : (letter :: others).all isLetter = true :=
        List.all_eq_true.mpr fun character member =>
          isLetter_of_mem (known character member)
      rw [Argument.ofText, String.toList_ofList]
      split
      · next same => cases same; exact absurd rfl notDash
      · next same => cases same; exact absurd rfl notDash
      · next found rest _ _ same =>
          cases same
          rw [if_pos all]
      · next other => exact absurd rfl (other _ _)

/-- The ordinary words are those that are understood as words. -/
theorem isOrdinary_iff
    {word : String} :
    IsOrdinary word ↔ Argument.ofText word = .word word := by
  constructor
  · exact IsOrdinary.ofText_eq
  · intro understood
    constructor
    · rintro rfl
      exact absurd understood (by decide)
    · rintro name known rfl
      revert understood
      revert name
      decide
    · rintro name known value rfl
      rw [ofText_long (plain_of_mem_longNames known)] at understood
      cases found : longItem? name (some value) with
      | some item =>
          rw [found] at understood
          cases understood
      | none => exact absurd found (longItem?_ne_none known _)
    · rintro letters some known rfl
      rw [ofText_letters some known] at understood
      cases understood

/-! ## Switches before a formula -/

/-- Nothing but switches has been read, and nothing waits. -/
structure Reading.Switched (reading : Reading) : Prop where
  settled : reading.waiting = none
  given : ∀ given ∈ reading.given, ∃ switch, given = .switch switch

namespace Reading

theorem switched_start : start.Switched where
  settled := rfl
  given _ member := by cases member

theorem Switched.settle_eq
    {reading : Reading}
    (switched : reading.Switched) :
    reading.settle = .ok reading := by
  rw [settle, switched.settled]

/-- What is entered and is no switch has not been given before. -/
theorem Switched.enter_eq
    {reading : Reading}
    {given : Given}
    (switched : reading.Switched)
    (other : ∀ switch, given.subject ≠ .switch switch) :
    reading.enter given =
      .ok { reading with given := reading.given ++ [given] } := by
  rw [enter, if_neg]
  rw [List.any_eq_true]
  rintro ⟨earlier, member, same⟩
  rcases switched.given earlier member with ⟨switch, rfl⟩
  exact other switch (eq_of_beq same).symm

theorem Switched.take
    {reading next : Reading}
    {switch : Switch}
    (switched : reading.Switched)
    (taken : reading.take (.switch switch) = .ok next) :
    next.Switched := by
  have entered : reading.enter (.switch switch) = .ok next := by
    cases switch <;> simp only [Reading.take, switched.settle_eq] at taken
    · exact taken
    · exact taken
    · cases taken
    · cases taken
  rw [enter] at entered
  split at entered
  · cases entered
  · cases entered
    refine ⟨switched.settled, ?_⟩
    intro given member
    rcases List.mem_append.mp member with earlier | final
    · exact switched.given given earlier
    · exact ⟨switch, List.mem_singleton.mp final⟩

theorem Switched.foldlM_take
    {reading next : Reading}
    {switches : List Switch}
    (switched : reading.Switched)
    (taken :
      (switches.map Item.switch).foldlM Reading.take reading = .ok next) :
    next.Switched := by
  induction switches generalizing reading with
  | nil =>
      cases taken
      exact switched
  | cons switch rest hypothesis =>
      rw [List.map_cons, List.foldlM_cons] at taken
      rcases bind_eq_ok_iff.mp taken with ⟨between, first, following⟩
      exact hypothesis (switched.take first) following

/--
Either the switches stop the reading, or they have been read and the
rest comes next.
-/
theorem Switched.readAll_append
    {reading : Reading}
    {settings : List String}
    (switched : reading.Switched)
    (switches : ∀ argument ∈ settings, OnlySwitches argument) :
    (∃ stop, ∀ rest, reading.readAll (settings ++ rest) = .error stop) ∨
      ∃ next : Reading, next.Switched ∧
        ∀ rest, reading.readAll (settings ++ rest) = next.readAll rest := by
  induction settings generalizing reading with
  | nil => exact .inr ⟨reading, switched, fun _ => rfl⟩
  | cons argument settings hypothesis =>
      rcases switches argument List.mem_cons_self with ⟨found, understood⟩
      have others : ∀ argument ∈ settings, OnlySwitches argument :=
        fun argument member => switches argument (List.mem_cons_of_mem _ member)
      have first : ∀ rest, reading.readAll (argument :: settings ++ rest) =
          ((found.map Item.switch).foldlM Reading.take reading).bind
            fun next => next.readAll (settings ++ rest) := by
        intro rest
        rw [List.cons_append, readAll, understood]
        rfl
      cases taken : (found.map Item.switch).foldlM Reading.take reading with
      | error stop =>
          refine .inl ⟨stop, fun rest => ?_⟩
          rw [first, taken]
          rfl
      | ok next =>
          rcases hypothesis (switched.foldlM_take taken) others with
            ⟨stop, stops⟩ | ⟨last, lastSwitched, continues⟩
          · refine .inl ⟨stop, fun rest => ?_⟩
            rw [first, taken]
            exact stops rest
          · refine .inr ⟨last, lastSwitched, fun rest => ?_⟩
            rw [first, taken]
            exact continues rest

/--
Switches exclude nothing, so one thing more is in conflict with none of them.
-/
theorem Switched.checkConflicts_eq
    {reading : Reading}
    (switched : reading.Switched)
    (given : Given) :
    Reading.checkConflicts { reading with given := reading.given ++ [given] } =
      .ok () := by
  have none :
      (reading.given.map Given.subject).filter Subject.isExclusive = [] := by
    rw [List.filter_eq_nil_iff]
    intro subject member
    rcases List.mem_map.mp member with ⟨earlier, inside, rfl⟩
    rcases switched.given earlier inside with ⟨switch, rfl⟩
    simp [Given.subject, Subject.isExclusive]
  simp only [checkConflicts, List.map_append, List.filter_append, none,
    List.nil_append, List.map_singleton]
  cases exclusive : given.subject.isExclusive with
  | true => rw [List.filter_cons_of_pos exclusive, List.filter_nil]
  | false =>
      rw [List.filter_cons_of_neg (Bool.not_eq_true _ ▸ exclusive),
        List.filter_nil]

/-- Words make up the expression. -/
theorem Switched.finish_eq
    {reading : Reading}
    {words : List String}
    (switched : reading.Switched)
    (some : words ≠ []) :
    reading.finish words =
      .ok { reading with given := reading.given ++ [.expression words] } := by
  rw [finish, switched.settle_eq]
  show (if words = [] then _ else reading.enter _) = _
  rw [if_neg some]
  exact switched.enter_eq fun _ => Subject.noConfusion

theorem Switched.readAll_nil
    {reading : Reading}
    (switched : reading.Switched) :
    reading.readAll [] = .ok reading := by
  rw [readAll, finish, switched.settle_eq]
  rfl

theorem Switched.readAll_separator
    {reading : Reading}
    {words : List String}
    (switched : reading.Switched)
    (some : words ≠ []) :
    reading.readAll ("--" :: words) =
      .ok { reading with given := reading.given ++ [.expression words] } := by
  have separator : Argument.ofText "--" = .separator := by decide
  rw [readAll, separator]
  exact switched.finish_eq some

theorem Switched.readAll_word
    {reading : Reading}
    {word : String}
    (switched : reading.Switched)
    (ordinary : IsOrdinary word)
    (words : List String) :
    reading.readAll (word :: words) =
      .ok
        { reading with
          given := reading.given ++ [.expression (word :: words)] } := by
  rcases reading with ⟨given, waiting⟩
  obtain rfl : waiting = none := switched.settled
  rw [readAll, ordinary.ofText_eq]
  exact switched.finish_eq (List.cons_ne_nil _ _)

theorem Switched.readAll_code
    {reading : Reading}
    (switched : reading.Switched)
    (text : String) :
    reading.readAll ["--code=" ++ text] =
      .ok
        { reading with given := reading.given ++ [.parameter .code text] } := by
  have entered :
      reading.enter (.parameter .code text) =
        .ok
          { reading with given := reading.given ++ [.parameter .code text] } :=
    switched.enter_eq fun _ => Subject.noConfusion
  have taken :
      [Item.parameter .code (some text)].foldlM Reading.take reading =
        .ok
          { reading with
            given := reading.given ++ [.parameter .code text] } := by
    rw [List.foldlM_cons, Reading.take, switched.settle_eq]
    show (reading.enter _).bind _ = _
    rw [entered]
    rfl
  rw [readAll, ofText_code]
  show ([Item.parameter .code (some text)].foldlM Reading.take reading).bind
    _ = _
  rw [taken]
  show Reading.readAll _ [] = _
  rw [readAll, finish, settle, switched.settled]
  rfl

end Reading

theorem readArguments_eq_ok_iff
    {arguments : List String}
    {given : List Given} :
    readArguments arguments = .ok given ↔
      ∃ reading, Reading.start.readAll arguments = .ok reading ∧
        reading.checkConflicts = .ok () ∧ reading.given = given := by
  constructor
  · intro read
    rcases bind_eq_ok_iff.mp read with ⟨reading, readAll, checked⟩
    rcases bind_eq_ok_iff.mp checked with ⟨⟨⟩, unopposed, same⟩
    exact ⟨reading, readAll, unopposed, Except.ok.inj same⟩
  · rintro ⟨reading, readAll, unopposed, rfl⟩
    exact bind_eq_ok_iff.mpr
      ⟨reading, readAll, bind_eq_ok_iff.mpr ⟨(), unopposed, rfl⟩⟩

/-- What the rest of the arguments gives besides the switches before it. -/
theorem readArguments_of_readAll
    {arguments : List String}
    {reading : Reading}
    {given : Given}
    (switched : reading.Switched)
    (read :
      Reading.start.readAll arguments =
        .ok { reading with given := reading.given ++ [given] }) :
    readArguments arguments = .ok (reading.given ++ [given]) :=
  readArguments_eq_ok_iff.mpr ⟨_, read, switched.checkConflicts_eq given, rfl⟩

end CommandLine

/-! ## The plan -/

namespace CommandLine.Reading.Switched

variable {reading : Reading}

theorem valueOf?_append
    (switched : reading.Switched)
    (parameter : Parameter)
    (more : List Given) :
    valueOf? (reading.given ++ more) parameter = valueOf? more parameter := by
  have none : valueOf? reading.given parameter = none := by
    rw [valueOf?, List.findSome?_eq_none_iff]
    intro given member
    rcases switched.given given member with ⟨switch, rfl⟩
    rfl
  rw [valueOf?] at none ⊢
  rw [List.findSome?_append, none, Option.none_or, valueOf?]

theorem wordsOf?_append
    (switched : reading.Switched)
    (more : List Given) :
    wordsOf? (reading.given ++ more) = wordsOf? more := by
  have none : wordsOf? reading.given = none := by
    rw [wordsOf?, List.findSome?_eq_none_iff]
    intro given member
    rcases switched.given given member with ⟨switch, rfl⟩
    rfl
  rw [wordsOf?] at none ⊢
  rw [List.findSome?_append, none, Option.none_or, wordsOf?]

/-- The words of a formula behind switches ask for the formula. -/
theorem ofGiven_expression
    (switched : reading.Switched)
    (surroundings : Surroundings)
    (words : List String) :
    Plan.ofGiven surroundings (reading.given ++ [.expression words]) =
      ⟨(Plan.ofGiven surroundings reading.given).inspecting,
        .formula (joinWords words)⟩ := by
  have inspecting : hasSwitch (reading.given ++ [.expression words]) .debug =
      hasSwitch reading.given .debug := by
    simp [hasSwitch]
  rw [Plan.ofGiven, switched.valueOf?_append, switched.valueOf?_append,
    switched.wordsOf?_append, inspecting]
  rfl

/-- The text of a formula in an option behind switches asks for the formula. -/
theorem ofGiven_code
    (switched : reading.Switched)
    (surroundings : Surroundings)
    (text : String) :
    Plan.ofGiven surroundings (reading.given ++ [.parameter .code text]) =
      ⟨(Plan.ofGiven surroundings reading.given).inspecting,
        .formula text⟩ := by
  have inspecting :
      hasSwitch (reading.given ++ [.parameter .code text]) .debug =
      hasSwitch reading.given .debug := by
    simp [hasSwitch]
  rw [Plan.ofGiven, switched.valueOf?_append, inspecting]
  rfl

end CommandLine.Reading.Switched

/-! ## What a formula comes to in a run -/

namespace Outcome

/-- The exit code of a run that comes to the outcome. -/
def exitCode : Outcome → UInt8
  | .ok _ => 0
  | .error error => error.exitCode

/-- What such a run writes on the output. -/
def output : Outcome → String
  | .ok value => page [Decimal.signed value]
  | .error _ => ""

/-- What such a run writes on the error output. -/
def complaint : Outcome → String
  | .ok _ => ""
  | .error error => page [error.message]

end Outcome

/-- What is told of a formula on the error output before it is evaluated. -/
def inspectionText (inspecting : Bool) (text : String) : String :=
  if inspecting then page (inspect text) else ""

/-- The report tells of an outcome, behind an inspection on the error output. -/
structure Report.Tells
    {World : Type}
    (report : Report World)
    (inspection : String)
    (outcome : Outcome) :
    Prop where
  exitCode : report.exitCode = outcome.exitCode
  output : report.output = outcome.output
  errors : report.errors = inspection ++ outcome.complaint

theorem runFormula_tells
    {World : Type}
    (inspecting : Bool)
    (files : World)
    (text : String) :
    (runFormula inspecting files text).Tells (inspectionText inspecting text)
      (calculate text) := by
  have onOutput := output_evaluationTranscript inspecting text
  have onErrors :
      (evaluationTranscript inspecting text).textOn .errors =
        inspectionText inspecting text := by
    rw [← Transcript.textOn_shown (by decide), shown_evaluationTranscript]
    cases inspecting with
    | false => rfl
    | true =>
        show String.join [page (inspect text)] = page (inspect text)
        rw [String.join_cons, String.join_nil, String.append_empty]
  rw [runFormula]
  cases calculate text with
  | ok value =>
      refine ⟨rfl, ?_, ?_⟩
      · show Transcript.textOn (_ ++ [_]) .output = _
        rw [Transcript.textOn_append, onOutput]
        rfl
      · show Transcript.textOn (_ ++ [_]) .errors = _
        rw [Transcript.textOn_append, onErrors]
        rfl
  | error error =>
      refine ⟨rfl, onOutput, ?_⟩
      show Transcript.textOn _ .errors ++ _ = _
      rw [onErrors]
      rfl

/-! ## Words of a text -/

/-- The pieces of a text between its spaces, without those that are empty. -/
def piecesOf (text : String) : List String :=
  ((text.toList.splitOn ' ').map String.ofList).filter (· ≠ "")

theorem itemsOf_empty : itemsOf "" = [] := by
  decide +kernel

theorem itemsOf_joinWords_eq (words : List String) :
    itemsOf (joinWords words) = words.flatMap itemsOf := by
  cases words with
  | nil => exact itemsOf_empty
  | cons word others => exact itemsOf_joinWords word others

theorem flatMap_itemsOf_filter (words : List String) :
    (words.filter (· ≠ "")).flatMap itemsOf = words.flatMap itemsOf := by
  induction words with
  | nil => rfl
  | cons word others hypothesis =>
      rcases eq_or_ne word "" with rfl | some
      · rw [List.filter_cons_of_neg (by decide), hypothesis, List.flatMap_cons,
          itemsOf_empty, List.nil_append]
      · rw [List.filter_cons_of_pos (by simpa using some), List.flatMap_cons,
          hypothesis, List.flatMap_cons]

/-- A text is read as its pieces are, joined with single spaces. -/
theorem itemsOf_joinWords_piecesOf (text : String) :
    itemsOf (joinWords (piecesOf text)) = itemsOf text := by
  have whole :
      joinWords ((text.toList.splitOn ' ').map String.ofList) = text := by
    have characters : String.toList ∘ String.ofList = id :=
      funext fun _ => String.toList_ofList
    rw [joinWords, List.map_map, characters, List.map_id,
      List.intercalate_splitOn, String.ofList_toList]
  rw [itemsOf_joinWords_eq, piecesOf, flatMap_itemsOf_filter,
    ← itemsOf_joinWords_eq, whole]

theorem piecesOf_ne_nil
    {text : String}
    (shown : ¬ IsGap text.toList) :
    piecesOf text ≠ [] := by
  intro none
  have items := itemsOf_joinWords_piecesOf text
  rw [none, itemsOf_joinWords_eq, List.flatMap_nil, eq_comm, itemsOf,
    List.map_eq_nil_iff] at items
  have cut := lexed_lexemes 0 text.toList
  rw [← Cursor.ofText, items] at cut
  generalize text.toList = characters at cut shown
  cases cut with
  | blank isGap => exact shown isGap

/-! ## Runs on words -/

section Runs

open CommandLine

variable
    {World : Type}
    [Storage World]
    {settings : List String}
    (surroundings : Surroundings)
    (input : List UInt8)
    (files : World)

theorem runProgram_of_readAll
    {reading : Reading}
    {arguments : List String}
    {given : Given}
    {inspecting : Bool}
    {text : String}
    (switched : reading.Switched)
    (read :
      Reading.start.readAll arguments =
        .ok { reading with given := reading.given ++ [given] })
    (planned :
      Plan.ofGiven surroundings (reading.given ++ [given]) =
        ⟨inspecting, .formula text⟩) :
    runProgram arguments surroundings input files =
      runFormula inspecting files text := by
  rw [runProgram, readArguments_of_readAll switched read]
  show (Plan.ofGiven _ _).run surroundings input files = _
  rw [planned]
  rfl

theorem runProgram_of_stop
    {arguments otherArguments : List String}
    {stop : Stop}
    (stops : Reading.start.readAll arguments = .error stop)
    (otherStops : Reading.start.readAll otherArguments = .error stop) :
    runProgram arguments surroundings input files =
      runProgram otherArguments surroundings input files := by
  have same : readArguments arguments = readArguments otherArguments := by
    rw [readArguments, readArguments, stops, otherStops]
  rw [runProgram, runProgram, same]

/--
The words of a formula may stand on the command line as they are.

Behind any switches, words that follow the separator are taken as the formula
that they make up when they are joined with single spaces and given as one
option: the whole report is the same, whatever the words look like.  Without the
separator this is so if the first word is an ordinary one.

If the switches do not stop the program, and the words are the pieces of a text
that holds more than spaces, then the report tells what the text comes to, but
for columns, and nothing else unless formulas are inspected.
-/
theorem runProgram_words
    (switches : ∀ argument ∈ settings, OnlySwitches argument) :
    (∀ words, words ≠ [] →
      runProgram (settings ++ "--" :: words) surroundings input files =
        runProgram (settings ++ ["--code=" ++ joinWords words]) surroundings
          input files) ∧
    (∀ word words, IsOrdinary word →
      runProgram (settings ++ word :: words) surroundings input files =
        runProgram (settings ++ ["--code=" ++ joinWords (word :: words)])
          surroundings input
          files) ∧
    ∀ given, readArguments settings = .ok given →
      ∀ text, ¬ IsGap text.toList →
        ∃ outcome : Outcome,
          outcome.Alike (calculate text) ∧
            (runProgram (settings ++ "--" :: piecesOf text) surroundings input
              files).Tells
              (inspectionText (Plan.ofGiven surroundings given).inspecting
                (joinWords (piecesOf text)))
              outcome := by
  rcases Reading.switched_start.readAll_append switches with
    ⟨stop, stops⟩ | ⟨reading, switched, continues⟩
  · refine ⟨?_, ?_, ?_⟩
    · intro words _
      exact runProgram_of_stop surroundings input files (stops _) (stops _)
    · intro word words _
      exact runProgram_of_stop surroundings input files (stops _) (stops _)
    · intro given read
      have stopped := stops []
      rw [List.append_nil] at stopped
      rw [readArguments, stopped] at read
      cases read
  · have onCode (text : String) :
        runProgram (settings ++ ["--code=" ++ text]) surroundings input files =
          runFormula (Plan.ofGiven surroundings reading.given).inspecting files
            text :=
      runProgram_of_readAll surroundings input files switched
        ((continues _).trans (switched.readAll_code text))
        (switched.ofGiven_code surroundings text)
    have onWords {words : List String} (some : words ≠ []) :
        runProgram (settings ++ "--" :: words) surroundings input files =
          runFormula (Plan.ofGiven surroundings reading.given).inspecting files
            (joinWords words) :=
      runProgram_of_readAll surroundings input files switched
        ((continues _).trans (switched.readAll_separator some))
        (switched.ofGiven_expression surroundings words)
    refine ⟨?_, ?_, ?_⟩
    · intro words some
      rw [onWords some, onCode]
    · intro word words ordinary
      rw [onCode]
      exact runProgram_of_readAll surroundings input files switched
        ((continues _).trans (switched.readAll_word ordinary words))
        (switched.ofGiven_expression surroundings (word :: words))
    · intro given read text shown
      have readSwitches : Reading.start.readAll settings = .ok reading := by
        rw [← List.append_nil settings, continues]
        exact switched.readAll_nil
      rcases readArguments_eq_ok_iff.mp read with ⟨_, readAll, -, rfl⟩
      obtain rfl := Except.ok.inj (readSwitches.symm.trans readAll)
      refine ⟨calculate (joinWords (piecesOf text)), ?_, ?_⟩
      · exact alike_of_items (itemsOf_joinWords_piecesOf text)
      · rw [onWords (piecesOf_ne_nil shown)]
        exact runFormula_tells _ files _

end Runs

open CommandLine in
/--
Words behind a switch: an empty one, one that looks like a switch, one that
begins a formula.
-/
theorem runProgram_words_inspected :
    (∀ argument ∈ ["-d"], OnlySwitches argument) ∧
    runProgram ["-d", "--", "1", "", "-d"] ⟨none, "dumb", none⟩ []
        (FileTree.workingAt []) =
      runProgram ["-d", "--code=1  -d"] ⟨none, "dumb", none⟩ []
        (FileTree.workingAt []) ∧
    runProgram ["-d", "-5", "--", "2"] ⟨none, "dumb", none⟩ []
        (FileTree.workingAt []) =
      runProgram ["-d", "--code=-5 -- 2"] ⟨none, "dumb", none⟩ []
        (FileTree.workingAt []) ∧
    ∃ outcome : Outcome,
      outcome.Alike (calculate "  2 +  ") ∧
        (runProgram ["-d", "--", "2", "+"] ⟨none, "dumb", none⟩ []
          (FileTree.workingAt [])).Tells
          (inspectionText true "2 +") outcome := by
  have switches : ∀ argument ∈ ["-d"], OnlySwitches argument := by
    intro argument member
    rw [List.mem_singleton.mp member]
    exact ⟨[.debug], by decide⟩
  have ordinary : IsOrdinary "-5" := isOrdinary_iff.mpr (by decide)
  have read : readArguments ["-d"] = .ok [.switch .debug] := by decide
  have shown : ¬ IsGap "  2 +  ".toList := by
    intro gap
    exact absurd (gap '2' (by decide)) (by decide)
  have pieces : piecesOf "  2 +  " = ["2", "+"] := by decide +kernel
  rcases runProgram_words ⟨none, "dumb", none⟩ [] (FileTree.workingAt [])
    switches with
    ⟨afterSeparator, afterWord, told⟩
  refine
    ⟨switches, afterSeparator _ (List.cons_ne_nil _ _), afterWord _ _ ordinary,
      ?_⟩
  have report := told _ read "  2 +  " shown
  rw [pieces] at report
  exact report

end Reckoner
