import Reckoner.Evaluation
import Reckoner.Proofs.Dialogue
import Reckoner.Proofs.HistoryFile

/-!
# Sheets, line by line

Which lines a source has is said without reading it byte by byte (`Line.Lined`):
a line is what stands before a line feed, without one carriage return at its
end, and what follows the last line feed is a line as it stands.  Every source
has its lines in exactly one way.

A sheet has outcomes exactly if each of its lines encodes a text, and they are
then the entries of these texts, of which those that are blank once trimmed are
counted but passed over (`Sheet.outcomes_eq_ok_iff`).  So sheets can be laid end
to end, the way lines are ended makes no difference, and what a line
contributes depends on that line alone (`Sheet.outcomes_linesOf`).
-/

namespace Reckoner

namespace Line

/-! ## The lines of a source -/

/-- The bytes before a line feed, without one carriage return at their end. -/
def withoutReturn (body : List UInt8) : List UInt8 :=
  if body.getLast? = some carriageReturn then body.dropLast else body

/-- A source has these lines. -/
inductive Lined : List UInt8 → List (List UInt8) → Prop
  | empty : Lined [] []
  | last
      {body : List UInt8}
      (nonempty : body ≠ [])
      (single : lineFeed ∉ body) :
      Lined body [body]
  | line
      {body rest : List UInt8}
      {lines : List (List UInt8)}
      (single : lineFeed ∉ body)
      (others : Lined rest lines) :
      Lined (body ++ lineFeed :: rest) (withoutReturn body :: lines)

/-- A source with no line left open at its end. -/
def Closed (source : List UInt8) : Prop :=
  source = [] ∨ source.getLast? = some lineFeed

theorem withoutReturn_append_return (body : List UInt8) :
    withoutReturn (body ++ [carriageReturn]) = body := by
  rw [withoutReturn, if_pos List.getLast?_concat, List.dropLast_concat]

theorem withoutReturn_of_notMem
    {body : List UInt8}
    (plain : carriageReturn ∉ body) :
    withoutReturn body = body := by
  rw [withoutReturn, if_neg]
  intro ending
  exact plain (List.mem_of_getLast? ending)

theorem dropReturn_eq_withoutReturn (body : List UInt8) :
    (dropReturn body.reverse).reverse = withoutReturn body := by
  by_cases ending : body.getLast? = some carriageReturn
  · rcases List.getLast?_eq_some_iff.mp ending with ⟨front, rfl⟩
    rw [withoutReturn_append_return, List.reverse_concat, dropReturn,
      if_pos rfl, List.reverse_reverse]
  · rw [withoutReturn, if_neg ending]
    exact dropReturn_reverse ending

theorem split_line
    {body : List UInt8}
    (single : lineFeed ∉ body)
    (rest : List UInt8) :
    split (body ++ lineFeed :: rest) = withoutReturn body :: split rest := by
  rw [split, splitFrom_append single, List.append_nil,
    dropReturn_eq_withoutReturn]

theorem splitFrom_of_notMem
    {bytes : List UInt8}
    (single : lineFeed ∉ bytes)
    (current : List UInt8) :
    splitFrom current bytes = splitFrom (bytes.reverse ++ current) [] := by
  induction bytes generalizing current with
  | nil => rfl
  | cons byte others hypothesis =>
      rw [List.mem_cons, not_or] at single
      calc
        splitFrom current (byte :: others) =
          splitFrom (byte :: current) others := by
          rw [splitFrom, if_neg (Ne.symm single.1)]
        _ = splitFrom (others.reverse ++ byte :: current) [] :=
          hypothesis single.2 (byte :: current)
        _ = splitFrom ((byte :: others).reverse ++ current) [] := by
          rw [List.reverse_cons, List.append_assoc, List.singleton_append]

theorem split_last
    {body : List UInt8}
    (nonempty : body ≠ [])
    (single : lineFeed ∉ body) :
    split body = [body] := by
  rw [split, splitFrom_of_notMem single, List.append_nil, splitFrom, if_neg,
    List.reverse_reverse]
  rw [List.isEmpty_iff, List.reverse_eq_nil_iff]
  exact nonempty

theorem Lined.split_eq
    {source : List UInt8}
    {lines : List (List UInt8)}
    (lined : Lined source lines) :
    split source = lines := by
  induction lined with
  | empty => rfl
  | last nonempty single => exact split_last nonempty single
  | line single _ hypothesis => rw [split_line single, hypothesis]

theorem lined_split (source : List UInt8) : Lined source (split source) := by
  by_cases feed : lineFeed ∈ source
  · -- the first line feed ends the first line
    rcases List.eq_append_cons_of_mem feed with ⟨body, rest, whole, single⟩
    have shorter : rest.length < source.length := by
      rw [whole, List.length_append, List.length_cons]
      omega
    rw [whole, split_line single]
    exact .line single (lined_split rest)
  · rcases eq_or_ne source [] with rfl | nonempty
    · exact .empty
    · rw [split_last nonempty feed]
      exact .last nonempty feed
termination_by source.length

/-- The splitting finds the lines that a source has. -/
theorem lined_iff
    {source : List UInt8}
    {lines : List (List UInt8)} :
    Lined source lines ↔ split source = lines := by
  constructor
  · exact Lined.split_eq
  · rintro rfl
    exact lined_split source

/-- A carriage return that no line feed follows stays part of the line. -/
example : split [49, 13, 10, 10, 50, 13] = [[49], [], [50, 13]] := by
  decide

theorem existsUnique_lined
    (source : List UInt8) :
    ∃! lines, Lined source lines := by
  simp only [lined_iff]
  exact existsUnique_eq'

/-! ## Sources laid end to end -/

theorem Closed.rest
    {body rest : List UInt8}
    (closed : Closed (body ++ lineFeed :: rest)) :
    Closed rest := by
  rcases eq_or_ne rest [] with rfl | nonempty
  · exact Or.inl rfl
  · rcases closed with empty | ending
    · simp at empty
    · rw [List.getLast?_append_of_ne_nil _ (List.cons_ne_nil _ _),
        List.getLast?_cons_of_ne_nil nonempty] at ending
      exact Or.inr ending

theorem not_closed_of_notMem
    {body : List UInt8}
    (nonempty : body ≠ [])
    (single : lineFeed ∉ body) :
    ¬ Closed body := by
  rintro (empty | ending)
  · exact nonempty empty
  · exact single (List.mem_of_getLast? ending)

theorem Lined.append
    {source more : List UInt8}
    {lines others : List (List UInt8)}
    (lined : Lined source lines)
    (closed : Closed source)
    (further : Lined more others) :
    Lined (source ++ more) (lines ++ others) := by
  induction lined with
  | empty => exact further
  | last nonempty single =>
      exact absurd closed (not_closed_of_notMem nonempty single)
  | line single _ hypothesis =>
      rw [List.append_assoc, List.cons_append, List.cons_append]
      exact .line single (hypothesis closed.rest)

/-- A source with no line left open has as many lines as line feeds. -/
theorem Lined.length_eq_count
    {source : List UInt8}
    {lines : List (List UInt8)}
    (lined : Lined source lines)
    (closed : Closed source) :
    lines.length = source.count lineFeed := by
  induction lined with
  | empty => rfl
  | last nonempty single =>
      exact absurd closed (not_closed_of_notMem nonempty single)
  | line single _ hypothesis =>
      rw [List.length_cons, hypothesis closed.rest, List.count_append,
        List.count_eq_zero_of_not_mem single, List.count_cons_self,
        Nat.zero_add]

/-! ## Carriage returns before the line feeds -/

/-- A byte, a line feed having a carriage return put before it. -/
def withReturn (byte : UInt8) : List UInt8 :=
  if byte = lineFeed then [carriageReturn, lineFeed] else [byte]

theorem flatMap_withReturn_of_notMem
    {body : List UInt8}
    (single : lineFeed ∉ body) :
    body.flatMap withReturn = body := by
  induction body with
  | nil => rfl
  | cons byte rest hypothesis =>
      rw [List.mem_cons, not_or] at single
      rw [List.flatMap_cons, hypothesis single.2, withReturn,
        if_neg (Ne.symm single.1)]
      rfl

/-- A carriage return put before each line feed leaves the lines as they are. -/
theorem Lined.withReturns
    {source : List UInt8}
    {lines : List (List UInt8)}
    (lined : Lined source lines)
    (plain : carriageReturn ∉ source) :
    Lined (source.flatMap withReturn) lines := by
  induction lined with
  | empty => exact .empty
  | last nonempty single =>
      rw [flatMap_withReturn_of_notMem single]
      exact .last nonempty single
  | @line body rest lines single _ hypothesis =>
      rw [List.mem_append, List.mem_cons, not_or, not_or] at plain
      rcases plain with ⟨noneBefore, -, noneAfter⟩
      have whole :
          (body ++ lineFeed :: rest).flatMap Line.withReturn =
            (body ++ [carriageReturn]) ++ lineFeed ::
              rest.flatMap Line.withReturn := by
        rw [List.flatMap_append, flatMap_withReturn_of_notMem single,
          List.flatMap_cons, List.append_assoc]
        rfl
      have dropped :
          withoutReturn body = withoutReturn (body ++ [carriageReturn]) := by
        rw [withoutReturn_append_return, withoutReturn_of_notMem noneBefore]
      have ended : lineFeed ∉ body ++ [carriageReturn] := by
        rw [List.mem_append, not_or]
        exact ⟨single, by decide⟩
      rw [whole, dropped]
      exact .line ended (hypothesis noneAfter)

/-! ## The texts of lines -/

theorem ofBytes_eq_ok_iff
    {bytes : List UInt8}
    {text : String} :
    ofBytes bytes = .ok text ↔ toBytes text = bytes := by
  constructor
  · intro decoded
    rw [ofBytes, String.fromUTF8?] at decoded
    split at decoded
    · rename_i found valid
      split at valid
      · cases valid
        cases decoded
        simp [toBytes, String.fromUTF8]
      · cases valid
    · cases decoded
  · rintro rfl
    exact ofBytes_toBytes text

theorem toBytes_injective : Function.Injective toBytes := by
  intro first second same
  have decoded := ofBytes_toBytes first
  rw [same, ofBytes_toBytes] at decoded
  cases decoded
  rfl

/-- The only fault of a line is in its encoding. -/
theorem eq_invalidEncoding_of_ofBytes
    {bytes : List UInt8}
    {fault : FileFault}
    (failed : ofBytes bytes = .error fault) :
    fault = .invalidEncoding := by
  rw [ofBytes] at failed
  split at failed <;> cases failed
  rfl

theorem ofBytes_of_forall_ne
    {bytes : List UInt8}
    (invalid : ∀ text, toBytes text ≠ bytes) :
    ofBytes bytes = .error .invalidEncoding := by
  cases decoded : ofBytes bytes with
  | ok text => exact absurd (ofBytes_eq_ok_iff.mp decoded) (invalid text)
  | error fault => rw [eq_invalidEncoding_of_ofBytes decoded]

theorem map_ofBytes_eq_iff
    {lines : List (List UInt8)}
    {texts : List String} :
    lines.map ofBytes = texts.map .ok ↔ texts.map toBytes = lines := by
  constructor
  · intro decoded
    induction lines generalizing texts with
    | nil => rw [List.map_eq_nil_iff.mp decoded.symm, List.map_nil]
    | cons bytes rest hypothesis =>
        cases texts with
        | nil => cases decoded
        | cons text others =>
            rw [List.map_cons, List.map_cons, List.cons.injEq] at decoded
            rw [List.map_cons, ofBytes_eq_ok_iff.mp decoded.1,
              hypothesis decoded.2]
  · rintro rfl
    rw [List.map_map]
    exact List.map_congr_left fun text _ => ofBytes_toBytes text

end Line

/-- The same outcome, some lines further down. -/
def LineOutcome.later (lines : Nat) (entry : LineOutcome) : LineOutcome :=
  ⟨entry.number + lines, entry.outcome⟩

namespace Sheet

/-! ## The entries of texts -/

/--
The outcomes of the texts that are more than white space, the first text
having a number.
-/
def entriesFrom (number : Nat) (texts : List String) : List LineOutcome :=
  ((texts.zipIdx number).filter fun line => Blank.trim line.1 ≠ "").map
    fun line => ⟨line.2, calculate line.1⟩

/-- The outcomes of the lines of a sheet, given as texts. -/
def entries (texts : List String) : List LineOutcome :=
  entriesFrom 1 texts

theorem entriesFrom_cons (number : Nat) (text : String) (rest : List String) :
    entriesFrom number (text :: rest) =
      if Blank.isBlank text then
        entriesFrom (number + 1) rest
      else
        ⟨number, calculate text⟩ :: entriesFrom (number + 1) rest := by
  rw [entriesFrom, List.zipIdx_cons, List.filter_cons]
  simp only [ne_eq, Blank.trim_eq_empty_iff]
  by_cases blank : Blank.isBlank text = true
  · simp [blank, entriesFrom, Blank.trim_eq_empty_iff]
  · simp [blank, entriesFrom, Blank.trim_eq_empty_iff]

theorem entriesFrom_append (number : Nat) (front back : List String) :
    entriesFrom number (front ++ back) =
      entriesFrom number front ++ entriesFrom (number + front.length) back := by
  rw [entriesFrom, List.zipIdx_append, List.filter_append, List.map_append]
  rfl

theorem entriesFrom_add (number lines : Nat) (texts : List String) :
    entriesFrom (number + lines) texts =
      (entriesFrom number texts).map (.later lines) := by
  rw [entriesFrom, Nat.add_comm, ← List.map_snd_add_zipIdx_eq_zipIdx,
    List.filter_map, List.map_map, entriesFrom, List.map_map]
  rfl

/-- An entry stands for the text at its number. -/
theorem mem_entries_iff
    {texts : List String}
    {index : Nat}
    {outcome : Outcome} :
    ⟨index + 1, outcome⟩ ∈ entries texts ↔
      ∃ text,
        texts[index]? = some text ∧ Blank.trim text ≠ "" ∧
          outcome = calculate text := by
  simp only [entries, entriesFrom, List.mem_map, List.mem_filter,
    decide_eq_true_eq, Prod.exists, List.mk_mem_zipIdx_iff_le_and_getElem?_sub,
    LineOutcome.mk.injEq]
  constructor
  · rintro ⟨text, number, ⟨⟨-, found⟩, shown⟩, rfl, rfl⟩
    exact ⟨text, found, shown, rfl⟩
  · rintro ⟨text, found, shown, rfl⟩
    exact ⟨text, index + 1, ⟨⟨Nat.le_add_left 1 index, found⟩, shown⟩, rfl, rfl⟩

/-! ## The outcomes of a sheet -/

/--
Lines have outcomes exactly if all are texts, which then have them as
their entries.
-/
theorem outcomesFrom_eq_ok_iff
    {number : Nat}
    {lines : List Line}
    {found : List LineOutcome} :
    outcomesFrom number lines = .ok found ↔
      ∃ texts, lines = texts.map .ok ∧ found = entriesFrom number texts := by
  constructor
  · intro read
    induction lines generalizing number found with
    | nil =>
        cases read
        exact ⟨[], rfl, rfl⟩
    | cons line rest hypothesis =>
        cases line with
        | error fault => cases read
        | ok text =>
            rcases bind_eq_ok_iff.mp read with ⟨others, readRest, joined⟩
            rcases hypothesis readRest with ⟨texts, rfl, rfl⟩
            cases joined
            exact
              ⟨text :: texts, rfl, (entriesFrom_cons number text texts).symm⟩
  · rintro ⟨texts, rfl, rfl⟩
    induction texts generalizing number with
    | nil => rfl
    | cons text rest hypothesis =>
        rw [List.map_cons, outcomesFrom, hypothesis, entriesFrom_cons]
        rfl

theorem outcomesFrom_of_mem_error
    {fault : FileFault}
    {lines : List Line}
    (only : ∀ line ∈ lines, ∀ other, line = .error other → other = fault)
    (member : .error fault ∈ lines)
    (number : Nat) :
    outcomesFrom number lines = .error fault := by
  induction lines generalizing number with
  | nil => cases member
  | cons line rest hypothesis =>
      cases line with
      | error other =>
          rw [outcomesFrom, only _ List.mem_cons_self other rfl]
      | ok text =>
          have below : Except.error fault ∈ rest := by simpa using member
          rw [outcomesFrom,
            hypothesis
              (fun line known => only line (List.mem_cons_of_mem _ known))
              below]
          rfl

/--
A sheet has outcomes exactly if its lines encode texts, which then have
them as entries.
-/
theorem outcomes_eq_ok_iff
    {source : List UInt8}
    {found : List LineOutcome} :
    outcomes (linesOf source) = .ok found ↔
      ∃ texts,
        Line.Lined source (texts.map Line.toBytes) ∧ found = entries texts := by
  have read :
      outcomes (linesOf source) = .ok found ↔
        outcomesFrom 1 (linesOf source) = .ok found := by
    rw [outcomes]
    cases outcomesFrom 1 (linesOf source) <;> simp [Except.mapError]
  rw [read, outcomesFrom_eq_ok_iff]
  simp only [linesOf, Line.map_ofBytes_eq_iff, Line.lined_iff, entries]
  constructor
  · rintro ⟨texts, encoded, rfl⟩
    exact ⟨texts, encoded.symm, rfl⟩
  · rintro ⟨texts, encoded, rfl⟩
    exact ⟨texts, encoded.symm, rfl⟩

/-- One line that encodes no text leaves a sheet without outcomes. -/
theorem outcomes_eq_error
    {source : List UInt8}
    {lines : List (List UInt8)}
    (lined : Line.Lined source lines)
    (invalid : ∃ line ∈ lines, ∀ text, Line.toBytes text ≠ line) :
    outcomes (linesOf source) = .error (.unreadableLine .invalidEncoding) := by
  rcases invalid with ⟨line, member, invalid⟩
  have only :
      ∀ read ∈ lines.map Line.ofBytes,
        ∀ fault, read = .error fault → fault = .invalidEncoding := by
    intro read known fault failed
    rcases List.mem_map.mp known with ⟨bytes, -, rfl⟩
    exact Line.eq_invalidEncoding_of_ofBytes failed
  have failed : .error .invalidEncoding ∈ lines.map Line.ofBytes :=
    List.mem_map.mpr ⟨line, member, Line.ofBytes_of_forall_ne invalid⟩
  rw [outcomes, linesOf, lined.split_eq, outcomesFrom_of_mem_error only failed]
  rfl

/--
The outcomes of a sheet laid behind another are those of the two, numbered on.
-/
theorem outcomes_append_iff
    {source : List UInt8}
    (closed : Line.Closed source)
    (more : List UInt8)
    (found : List LineOutcome) :
    outcomes (linesOf (source ++ more)) = .ok found ↔
      ∃ front back,
        outcomes (linesOf source) = .ok front ∧
          outcomes (linesOf more) = .ok back ∧
            found =
              front ++ back.map (.later (source.count Line.lineFeed)) := by
  have numbered (front back : List String)
      (lined : Line.Lined source (front.map Line.toBytes)) :
      entries (front ++ back) =
        entries front ++
          (entries back).map (.later (source.count Line.lineFeed)) := by
    rw [← lined.length_eq_count closed, List.length_map, entries,
      entriesFrom_append, entriesFrom_add]
    rfl
  simp only [outcomes_eq_ok_iff]
  constructor
  · rintro ⟨texts, lined, rfl⟩
    have joined :=
      (Line.lined_split source).append closed (Line.lined_split more)
    have lines :
        Line.split source ++ Line.split more = texts.map Line.toBytes :=
      joined.split_eq.symm.trans lined.split_eq
    rcases List.append_eq_map_iff.mp lines with
      ⟨front, back, rfl, ofSource, ofMore⟩
    have linedFront := Line.lined_iff.mpr ofSource.symm
    have linedBack := Line.lined_iff.mpr ofMore.symm
    exact
      ⟨entries front, entries back, ⟨front, linedFront, rfl⟩,
        ⟨back, linedBack, rfl⟩,
      numbered front back linedFront⟩
  · rintro ⟨_, _, ⟨front, linedFront, rfl⟩, ⟨back, linedBack, rfl⟩, rfl⟩
    refine ⟨front ++ back, ?_, (numbered front back linedFront).symm⟩
    rw [List.map_append]
    exact linedFront.append closed linedBack

theorem outcomes_withReturns
    {source : List UInt8}
    (plain : Line.carriageReturn ∉ source) :
    outcomes (linesOf (source.flatMap Line.withReturn)) =
      outcomes (linesOf source) := by
  have lined := (Line.lined_split source).withReturns plain
  rw [linesOf, lined.split_eq, linesOf]

/-- What a line contributes to a sheet depends on that line alone. -/
theorem mem_outcomes_congr
    {source other : List UInt8}
    {lines otherLines : List (List UInt8)}
    {found otherFound : List LineOutcome}
    (lined : Line.Lined source lines)
    (otherLined : Line.Lined other otherLines)
    (read : outcomes (linesOf source) = .ok found)
    (otherRead : outcomes (linesOf other) = .ok otherFound)
    {index : Nat}
    (same : lines[index]? = otherLines[index]?)
    (outcome : Outcome) :
    ⟨index + 1, outcome⟩ ∈ found ↔ ⟨index + 1, outcome⟩ ∈ otherFound := by
  rcases outcomes_eq_ok_iff.mp read with ⟨texts, encoded, rfl⟩
  rcases outcomes_eq_ok_iff.mp otherRead with ⟨otherTexts, otherEncoded, rfl⟩
  rw [← lined.split_eq, encoded.split_eq, ← otherLined.split_eq,
    otherEncoded.split_eq, List.getElem?_map, List.getElem?_map] at same
  rw [mem_entries_iff, mem_entries_iff,
    Option.map_injective Line.toBytes_injective same]

/--
A sheet is read line by line.

Every source has its lines in exactly one way.  If a line encodes no text, the
sheet fails.  Otherwise its outcomes are the entries of its texts: those that
hold more than white space, in order, each with the number of its line and its
outcome as a formula.

Behind a source with no line left open, the outcomes of another source follow,
numbered on by the line feeds before them, and the two can be read together
exactly if each can.  A carriage return before every line feed makes no
difference to a source that has none.  Sheets that agree in a line agree in the
entry of that line, whatever their other lines hold.
-/
theorem outcomes_linesOf (source : List UInt8) :
    (∃! lines, Line.Lined source lines) ∧
    (∀ lines, Line.Lined source lines →
      ((∃ line ∈ lines, ∀ text, Line.toBytes text ≠ line) →
        outcomes (linesOf source) = .error (.unreadableLine .invalidEncoding)) ∧
      ∀ texts, texts.map Line.toBytes = lines →
        outcomes (linesOf source) = .ok (entries texts)) ∧
    (Line.Closed source → ∀ more found,
      outcomes (linesOf (source ++ more)) = .ok found ↔
        ∃ front back,
          outcomes (linesOf source) = .ok front ∧
            outcomes (linesOf more) = .ok back ∧
              found = front ++ back.map (.later (source.count Line.lineFeed))) ∧
    (Line.carriageReturn ∉ source →
      outcomes (linesOf (source.flatMap Line.withReturn)) =
        outcomes (linesOf source)) ∧
    ∀ other lines otherLines found otherFound,
      Line.Lined source lines → Line.Lined other otherLines →
      outcomes (linesOf source) = .ok found →
        outcomes (linesOf other) = .ok otherFound →
      ∀ index, lines[index]? = otherLines[index]? →
        ∀ outcome,
          ⟨index + 1, outcome⟩ ∈ found ↔ ⟨index + 1, outcome⟩ ∈ otherFound := by
  refine
    ⟨Line.existsUnique_lined source, ?_, outcomes_append_iff,
      outcomes_withReturns, ?_⟩
  · intro lines lined
    refine ⟨outcomes_eq_error lined, ?_⟩
    rintro texts rfl
    exact outcomes_eq_ok_iff.mpr ⟨texts, lined, rfl⟩
  · intro other lines otherLines found otherFound lined otherLined read
      otherRead index same
    exact mem_outcomes_congr lined otherLined read otherRead same

end Sheet

end Reckoner
