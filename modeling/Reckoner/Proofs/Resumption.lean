import Reckoner.Proofs.Finality
import Reckoner.Proofs.Widths

/-!
# Reading on where a reading stopped

A cursor may be moved by single steps, and then formula after formula may be
read from it, whatever comes of them.  Wherever it stands after that, it behaves
like a cursor before the rest of the text alone, but for the columns, which are
counted from the beginning of the whole.

A formula that is read from a place either extends to the end of the text or
stops behind the lexeme at which its fault shows.  So every reading passes a
character as long as there is one, and after as many readings as the text has
characters nothing is left.  `parse_midway` is the main theorem.
-/

namespace Reckoner

namespace Cursor

/-! ## Places in a text -/

/--
The cursor stands in the text: it has passed as many characters as it has
counted, and the others are unread.
-/
structure StandsIn (cursor : Cursor) (text : String) : Prop where
  unread_eq : cursor.unread = text.toList.drop cursor.consumed
  consumed_le : cursor.consumed ≤ text.length

namespace StandsIn

variable
    {cursor : Cursor}
    {text : String}

theorem start (text : String) : (ofText text).StandsIn text where
  unread_eq := rfl
  consumed_le := Nat.zero_le _

theorem length_unread (stands : cursor.StandsIn text) :
    cursor.consumed + cursor.unread.length = text.length := by
  have passed := stands.consumed_le
  rw [stands.unread_eq, List.length_drop, String.length_toList]
  omega

theorem endColumn_eq (stands : cursor.StandsIn text) :
    cursor.endColumn = text.length + 1 := by
  rw [endColumn, stands.length_unread]

theorem consumed_eq_of_unread
    (stands : cursor.StandsIn text)
    (nothing : cursor.unread = []) :
    cursor.consumed = text.length := by
  have whole := stands.length_unread
  rwa [nothing, List.length_nil, Nat.add_zero] at whole

theorem advance
    (stands : cursor.StandsIn text)
    (count : Nat) :
    (cursor.advance count).StandsIn text where
  unread_eq := by
    have whole := stands.length_unread
    rw [unread_advance, Cursor.advance, List.length_take, stands.unread_eq,
      List.drop_drop]
    rcases Nat.le_total count cursor.unread.length with enough | beyond
    · rw [← stands.unread_eq, Nat.min_eq_left enough]
    · -- both sides are behind the last character
      rw [← stands.unread_eq, Nat.min_eq_right beyond, whole,
        List.drop_of_length_le (by rw [String.length_toList]; omega),
        List.drop_of_length_le (by rw [String.length_toList])]
  consumed_le := by
    have whole := stands.length_unread
    show cursor.consumed + (cursor.unread.take count).length ≤ text.length
    rw [List.length_take]
    omega

theorem next (stands : cursor.StandsIn text) : cursor.next.2.StandsIn text := by
  have skipped : cursor.skipSpaces.StandsIn text := stands.advance _
  rw [Cursor.next]
  split
  · exact skipped
  · exact skipped.advance _

theorem skip
    (stands : cursor.StandsIn text)
    (count : Nat) :
    (cursor.skip count).StandsIn text := by
  induction count generalizing cursor with
  | zero => exact stands
  | succ count hypothesis => exact hypothesis stands.next

theorem parse (stands : cursor.StandsIn text) : cursor.parse.2.StandsIn text :=
  stands.skip _

end StandsIn

/-! ## Where steps lead -/

theorem next_of_lexemes_nil
    {cursor : Cursor}
    (nothing : cursor.lexemes = []) :
    cursor.next = (none, ⟨[], cursor.consumed + cursor.unread.length⟩) := by
  rcases cursor with ⟨unread, consumed⟩
  have cut := lexed_lexemes consumed unread
  rw [nothing] at cut
  cases cut with
  | blank isGap => exact next_gap isGap

/-- A step passes the characters up to the end of the lexeme that it finds. -/
theorem next_of_lexemes_cons
    {cursor : Cursor}
    {lexeme : Lexeme}
    {rest : List Lexeme}
    (ahead : cursor.lexemes = lexeme :: rest) :
    ∃ after, cursor.next = (some lexeme, after) ∧
      after.lexemes = rest ∧ after.consumed = lexeme.stop := by
  rcases cursor with ⟨unread, consumed⟩
  have cut := lexed_lexemes consumed unread
  rw [ahead] at cut
  cases cut with
  | run isGap visible joined ends following =>
      exact ⟨_, next_run isGap visible joined ends, lexed_iff.mp following, rfl⟩

theorem consumed_skip
    {cursor : Cursor}
    {before after : List Lexeme}
    {lexeme : Lexeme}
    (split : cursor.lexemes = before ++ lexeme :: after) :
    (cursor.skip (before.length + 1)).consumed = lexeme.stop := by
  induction before generalizing cursor with
  | nil =>
      rcases next_of_lexemes_cons split with ⟨reached, step, -, stop⟩
      rw [List.length_nil, skip, skip, step]
      exact stop
  | cons earlier others hypothesis =>
      rcases next_of_lexemes_cons split with ⟨reached, step, following, -⟩
      rw [List.length_cons, skip, step]
      exact hypothesis following

/-- One step more than there are lexemes leads to the end of the text. -/
theorem unread_skip (cursor : Cursor) :
    (cursor.skip (cursor.lexemes.length + 1)).unread = [] := by
  induction ahead : cursor.lexemes generalizing cursor with
  | nil => rw [List.length_nil, skip, skip, next_of_lexemes_nil ahead]
  | cons lexeme rest hypothesis =>
      rcases next_of_lexemes_cons ahead with ⟨reached, step, following, -⟩
      rw [List.length_cons, skip, step]
      exact hypothesis reached following

end Cursor

/-! ## Where a run stops -/

namespace Nesting

/--
A run reads all lexemes and then ends the formula, or it stops at the first
lexeme that it does not read; and it takes a step for each that it looks at.
-/
theorem run_and_steps
    (endColumn : Nat)
    (nesting : Nesting)
    (lexemes : List Lexeme) :
    (∃ found last,
      lexemes = found.map Placed.lexeme ∧ nesting.readTokens found = .ok last ∧
      nesting.run endColumn lexemes = last.finish endColumn ∧
        nesting.steps lexemes = lexemes.length + 1) ∨
    (∃ (found : List (Placed Token)) (culprit : Lexeme) (after : List Lexeme)
      (next : Nesting)
      (error : SyntaxError),
      lexemes = found.map Placed.lexeme ++ culprit :: after ∧
        nesting.readTokens found = .ok next ∧ next.read culprit = .error error ∧
          nesting.run endColumn lexemes = .error error ∧
            nesting.steps lexemes = (found.map Placed.lexeme).length + 1) := by
  induction lexemes generalizing nesting with
  | nil => exact Or.inl ⟨[], nesting, rfl, rfl, rfl, rfl⟩
  | cons lexeme rest hypothesis =>
      cases reading : nesting.read lexeme with
      | error error =>
          refine Or.inr
            ⟨[], lexeme, rest, nesting, error, rfl, rfl, reading, ?_, ?_⟩
          · rw [run, reading]
            rfl
          · rw [steps, reading]
            rfl
      | ok next =>
          have runs :
              nesting.run endColumn (lexeme :: rest) =
                next.run endColumn rest := by
            rw [run, reading]
            rfl
          have stepping :
              nesting.steps (lexeme :: rest) = next.steps rest + 1 := by
            rw [steps, reading]
          -- a lexeme that is read is a token
          obtain ⟨placed, rfl⟩ :
              ∃ placed : Placed Token, lexeme = placed.lexeme := by
            rcases lexeme with ⟨_ | token, start, stop⟩
            · cases reading
            · exact ⟨⟨token, start, stop⟩, rfl⟩
          have readsOn :
              ∀ found,
                nesting.readTokens (placed :: found) =
                  next.readTokens found := by
            intro found
            rw [read_lexeme] at reading
            rw [readTokens, reading]
            rfl
          rw [runs, stepping]
          rcases hypothesis next with
            ⟨found, last, rfl, reads, ends, count⟩ |
              ⟨found, culprit, after, reached, error, rfl, reads, refuses, ends,
                count⟩
          · refine Or.inl
              ⟨placed :: found, last, rfl, (readsOn found).trans reads, ends,
                ?_⟩
            rw [count, List.length_cons]
          · refine Or.inr ⟨placed :: found, culprit, after, reached, error, rfl,
              (readsOn found).trans reads, refuses, ends, ?_⟩
            rw [count, List.map_cons, List.length_cons]

end Nesting

/--
The error shows at a lexeme: it is bad, or it is a token at which a
fault is diagnosed.
-/
inductive ShowsAt
    (before : List (Placed Token)) :
    Lexeme → SyntaxError → Prop where
  | badToken {lexeme : Lexeme} {fault : TokenFault} :
      lexeme.item = .error fault →
      ShowsAt before lexeme ⟨.badToken fault, lexeme.start⟩
  | diagnosed {culprit : Placed Token} {error : SyntaxError} :
      Diagnosed before culprit error →
      ShowsAt before culprit.lexeme error

theorem Nesting.Traced.showsAt
    {nesting : Nesting}
    {before : List (Placed Token)}
    {lexeme : Lexeme}
    {error : SyntaxError}
    (traced : nesting.Traced before)
    (refuses : nesting.read lexeme = .error error) :
    ShowsAt before lexeme error := by
  rcases lexeme with ⟨fault | token, start, stop⟩
  · cases refuses
    exact .badToken rfl
  · let culprit : Placed Token := ⟨token, start, stop⟩
    have refused : Refused culprit.start nesting culprit.item error :=
      readToken_eq_error_iff.mp refuses
    exact .diagnosed (traced.refused_iff.mp refused)

/--
What shows at a lexeme is reported at a lexeme, and not as an open parenthesis.
-/
theorem ShowsAt.exists_start_eq
    {before : List (Placed Token)}
    {lexeme : Lexeme}
    {error : SyntaxError}
    (shown : ShowsAt before lexeme error) :
    error.fault ≠ .unclosedParen ∧
      ∃ reported ∈ before.map Placed.lexeme ++ [lexeme],
        error.column = reported.start := by
  cases shown with
  | badToken item => exact ⟨by simp, lexeme, by simp, rfl⟩
  | @diagnosed culprit error diagnosed =>
      constructor
      · cases diagnosed <;> simp
      · rcases diagnosed.exists_start_eq with ⟨placed, member, column⟩
        refine ⟨placed.lexeme, ?_, column⟩
        have moved := List.mem_map_of_mem (f := Placed.lexeme) member
        rwa [List.map_append, List.map_singleton] at moved

/-! ## One formula -/

namespace Cursor

theorem start_lt_endColumn
    {cursor : Cursor}
    {lexeme : Lexeme}
    (member : lexeme ∈ cursor.lexemes) :
    cursor.consumed < lexeme.start ∧ lexeme.start ≤ lexeme.stop ∧
      lexeme.start < cursor.endColumn := by
  have bounds :=
    (lexed_lexemes cursor.consumed cursor.unread).span_bounds lexeme member
  rw [endColumn]
  omega

/--
Reading a formula passes all that is left, and what may be wrong is that the
text ends; or it passes the characters up to the end of the first lexeme at
which an error shows, which is reported in front of the end.
-/
theorem parse_ends_or_stops (cursor : Cursor) :
    (cursor.parse.2.unread = [] ∧
      ∀ error, cursor.parse.1 = .error error →
        error.fault = .unclosedParen ∨ error.column = cursor.endColumn) ∨
    (∃ (before : List (Placed Token)) (culprit : Lexeme) (after : List Lexeme)
      (error : SyntaxError),
      cursor.lexemes = before.map Placed.lexeme ++ culprit :: after ∧
        Undiagnosed before ∧ ShowsAt before culprit error ∧
          cursor.parse.1 = .error error ∧ error.fault ≠ .unclosedParen ∧
            error.column < cursor.endColumn ∧
              cursor.parse.2.consumed = culprit.stop) := by
  rcases Nesting.start.run_and_steps cursor.endColumn cursor.lexemes with
    ⟨found, last, split, reads, ends, count⟩ |
      ⟨before, culprit, after, next, error, split, reads, refuses, ends, count⟩
  · apply Or.inl
    constructor
    · rw [parse, count]
      exact cursor.unread_skip
    · intro error failed
      rw [parse, ends] at failed
      rcases (Nesting.finish_eq_error_iff.mp failed).fault_eq with
        unclosed | ⟨-, column⟩
      · exact Or.inl unclosed
      · exact Or.inr column
  · apply Or.inr
    have shown : ShowsAt before culprit error :=
      (Nesting.traced_start.readTokens reads).showsAt refuses
    rcases shown.exists_start_eq with ⟨closed, reported, member, column⟩
    refine
      ⟨before, culprit, after, error, split, ?_, shown, ends, closed, ?_, ?_⟩
    · exact Nesting.exists_readTokens_iff.mp ⟨next, reads⟩
    · have inText : reported ∈ cursor.lexemes := by
        rw [split, List.append_cons]
        exact List.mem_append_left after member
      rw [column]
      exact (start_lt_endColumn inText).2.2
    · rw [parse, count]
      exact consumed_skip split

/-- Where nothing is left to be read there is no formula. -/
theorem parse_of_unread
    {cursor : Cursor}
    (nothing : cursor.unread = []) :
    cursor.parse.1 = .error ⟨.emptyGroup, cursor.endColumn⟩ := by
  have noLexemes : cursor.lexemes = [] := by
    rcases cursor with ⟨unread, consumed⟩
    obtain rfl : unread = [] := nothing
    exact lexed_iff.mp (Lexed.blank .nil)
  rw [parse, noLexemes]
  rfl

/-! ## Reading on -/

theorem lexemes_fresh (cursor : Cursor) :
    cursor.lexemes =
      (ofText (String.ofList cursor.unread)).lexemes.map
        (.moved (· + cursor.consumed)) := by
  have moved := lexemes_add 0 cursor.consumed cursor.unread
  rw [Nat.zero_add] at moved
  rw [ofText, String.toList_ofList]
  exact moved

/--
A step finds what it would find in the unread text alone, but for the columns.
-/
theorem next_fresh (cursor : Cursor) :
    cursor.next.1 =
      (ofText (String.ofList cursor.unread)).next.1.map
        (.moved (· + cursor.consumed)) := by
  have first := cursor.next_skip 0
  have alone := (ofText (String.ofList cursor.unread)).next_skip 0
  rw [skip] at first alone
  rw [first, alone, cursor.lexemes_fresh, List.getElem?_map]

/--
A formula is read as it would be of the unread text alone, but for the columns.
-/
theorem parse_fresh (cursor : Cursor) :
    cursor.parse.1 =
      (Reckoner.parse (String.ofList cursor.unread)).mapError
        (.moved (· + cursor.consumed)) := by
  let alone : Cursor := ofText (String.ofList cursor.unread)
  let Moved : Nat → Nat → Prop :=
    fun column other => column + cursor.consumed = other
  have lexemes :
      List.Forall₂ (Placed.InStep Moved) alone.lexemes cursor.lexemes := by
    rw [cursor.lexemes_fresh, List.forall₂_map_right_iff]
    exact List.forall₂_same.mpr fun _ _ => ⟨rfl, rfl⟩
  have ends : Moved alone.endColumn cursor.endColumn := by
    simp only [Moved, alone, endColumn, ofText, String.toList_ofList]
    omega
  have together := Nesting.InStep.start.run respected_eq lexemes ends
  show Nesting.start.run cursor.endColumn cursor.lexemes =
    (Nesting.start.run alone.endColumn alone.lexemes).mapError
      (.moved (· + cursor.consumed))
  generalize Nesting.start.run alone.endColumn alone.lexemes =
    result at together
  generalize Nesting.start.run cursor.endColumn cursor.lexemes =
    other at together
  cases together with
  | ok sameTree => exact congrArg Except.ok sameTree.symm
  | error sameError => exact congrArg Except.error sameError.moved_eq.symm

/-- A tree means that the formula extended to the end of the text. -/
theorem StandsIn.consumed_of_parse_ok
    {cursor : Cursor}
    {text : String}
    (stands : cursor.StandsIn text)
    {expr : Expr}
    (succeeds : cursor.parse.1 = .ok expr) :
    cursor.parse.2.consumed = text.length := by
  rcases cursor.parse_ends_or_stops with
    ⟨nothing, -⟩ | ⟨_, _, _, error, -, -, -, failed, -⟩
  · exact stands.parse.consumed_eq_of_unread nothing
  · cases failed.symm.trans succeeds

/-- So does a parenthesis left open, and a fault behind the last character. -/
theorem StandsIn.consumed_of_parse_error
    {cursor : Cursor}
    {text : String}
    (stands : cursor.StandsIn text)
    {error : SyntaxError}
    (failed : cursor.parse.1 = .error error)
    (ends : error.fault = .unclosedParen ∨ error.column = text.length + 1) :
    cursor.parse.2.consumed = text.length := by
  rcases cursor.parse_ends_or_stops with
    ⟨nothing, -⟩ | ⟨_, _, _, other, -, -, -, otherFailed, closed, inFront, -⟩
  · exact stands.parse.consumed_eq_of_unread nothing
  · cases otherFailed.symm.trans failed
    rw [stands.endColumn_eq] at inFront
    rcases ends with unclosed | column
    · exact absurd unclosed closed
    · omega

/--
With any other fault the formula stops behind the lexeme at which
the fault shows.
-/
theorem StandsIn.parse_stops
    {cursor : Cursor}
    {text : String}
    (stands : cursor.StandsIn text)
    {error : SyntaxError}
    (failed : cursor.parse.1 = .error error)
    (closed : error.fault ≠ .unclosedParen)
    (inText : error.column ≠ text.length + 1) :
    ∃ (before : List (Placed Token)) (culprit : Lexeme) (after : List Lexeme),
      cursor.lexemes = before.map Placed.lexeme ++ culprit :: after ∧
        Undiagnosed before ∧ ShowsAt before culprit error ∧
          cursor.consumed < culprit.stop ∧
            cursor.parse.2.consumed = culprit.stop := by
  rcases cursor.parse_ends_or_stops with
    ⟨-, ending⟩ | ⟨before, culprit, after, other, split, undiagnosed, shown,
      otherFailed, -, -, stop⟩
  · rcases ending error failed with unclosed | column
    · exact absurd unclosed closed
    · exact absurd (column.trans stands.endColumn_eq) inText
  · cases otherFailed.symm.trans failed
    have member : culprit ∈ cursor.lexemes := by simp [split]
    have bounds := start_lt_endColumn member
    exact ⟨before, culprit, after, split, undiagnosed, shown,
      Nat.lt_of_lt_of_le bounds.1 bounds.2.1, stop⟩

/-- The place after reading a number of formulas, one after the other. -/
def parsed (cursor : Cursor) : Nat → Cursor
  | 0 => cursor
  | count + 1 => cursor.parse.2.parsed count

theorem StandsIn.parsed
    {cursor : Cursor}
    {text : String}
    (stands : cursor.StandsIn text)
    (count : Nat) :
    (cursor.parsed count).StandsIn text := by
  induction count generalizing cursor with
  | zero => exact stands
  | succ count hypothesis => exact hypothesis stands.parse

theorem StandsIn.parse_advances
    {cursor : Cursor}
    {text : String}
    (stands : cursor.StandsIn text) :
    cursor.parse.2.consumed = text.length ∨
      cursor.consumed < cursor.parse.2.consumed := by
  rcases cursor.parse_ends_or_stops with
    ⟨nothing, -⟩ | ⟨before, culprit, after, error, split, -, -, -, -, -, stop⟩
  · exact Or.inl (stands.parse.consumed_eq_of_unread nothing)
  · have inText : culprit ∈ cursor.lexemes := by simp [split]
    have bounds := start_lt_endColumn inText
    rw [stop]
    exact Or.inr (Nat.lt_of_lt_of_le bounds.1 bounds.2.1)

/-- Every formula that is read passes a character as long as there is one. -/
theorem StandsIn.le_consumed_parsed
    {cursor : Cursor}
    {text : String}
    (stands : cursor.StandsIn text)
    (count : Nat) :
    min text.length (cursor.consumed + count) ≤
      (cursor.parsed count).consumed := by
  induction count generalizing cursor with
  | zero => exact Nat.min_le_right _ _
  | succ count hypothesis =>
      have following := hypothesis stands.parse
      rw [Cursor.parsed]
      rcases stands.parse_advances with atEnd | further <;> omega

/-- After as many formulas as the text has characters there is nothing left. -/
theorem StandsIn.unread_parsed
    {cursor : Cursor}
    {text : String}
    (stands : cursor.StandsIn text)
    {count : Nat}
    (many : text.length ≤ count) :
    (cursor.parsed count).unread = [] := by
  have passed := stands.le_consumed_parsed count
  have whole := (stands.parsed count).length_unread
  apply List.length_eq_zero_iff.mp
  omega

/-- The place in a text after some steps and then after some formulas. -/
def midway (text : String) (steps rounds : Nat) : Cursor :=
  ((ofText text).skip steps).parsed rounds

theorem standsIn_midway (text : String) (steps rounds : Nat) :
    (midway text steps rounds).StandsIn text :=
  ((StandsIn.start text).skip steps).parsed rounds

end Cursor

/--
A cursor that was moved by single steps and by reading formulas stands at the
column after the characters that it has passed, and it finds what a new cursor
finds in the rest of the text, at columns moved by these characters.  A tree, an
open parenthesis and a fault behind the last character mean that the formula
extended to the end.  Any other formula passes characters up to the end of the
first lexeme at which an error shows, and no further.  After as many formulas as
the text has characters there is nothing left to be read.
-/
theorem parse_midway (text : String) (steps rounds : Nat) :
    let cursor := Cursor.midway text steps rounds
    let rest := String.ofList (text.toList.drop cursor.consumed)
    (cursor.StandsIn text ∧ cursor.parse.2.StandsIn text ∧
      cursor.parse.2.column = cursor.parse.2.consumed + 1) ∧
    (cursor.next.1 =
        (Cursor.ofText rest).next.1.map (.moved (· + cursor.consumed)) ∧
      cursor.parse.1 = (parse rest).mapError (.moved (· + cursor.consumed))) ∧
    ((∀ expr,
      cursor.parse.1 = .ok expr → cursor.parse.2.consumed = text.length) ∧
      ∀ error, cursor.parse.1 = .error error →
        error.fault = .unclosedParen ∨ error.column = text.length + 1 →
          cursor.parse.2.consumed = text.length) ∧
    (∀ error, cursor.parse.1 = .error error →
      error.fault ≠ .unclosedParen → error.column ≠ text.length + 1 →
        ∃ (before : List (Placed Token)) (culprit : Lexeme)
          (after : List Lexeme),
          cursor.lexemes = before.map Placed.lexeme ++ culprit :: after ∧
            Undiagnosed before ∧ ShowsAt before culprit error ∧
              cursor.consumed < culprit.stop ∧
                cursor.parse.2.consumed = culprit.stop) ∧
    (text.length ≤ rounds →
      cursor.parse.1 = .error ⟨.emptyGroup, text.length + 1⟩) := by
  intro cursor rest
  have stands : cursor.StandsIn text := Cursor.standsIn_midway text steps rounds
  have unread : rest = String.ofList cursor.unread :=
    congrArg String.ofList stands.unread_eq.symm
  refine ⟨⟨stands, stands.parse, rfl⟩, ⟨?_, ?_⟩, ?_, ?_, ?_⟩
  · rw [unread]
    exact cursor.next_fresh
  · rw [unread]
    exact cursor.parse_fresh
  · exact
      ⟨fun _ => stands.consumed_of_parse_ok,
        fun _ => stands.consumed_of_parse_error⟩
  · exact fun _ => stands.parse_stops
  · intro many
    rw [← stands.endColumn_eq]
    exact Cursor.parse_of_unread
      (((Cursor.StandsIn.start text).skip steps).unread_parsed many)

example :
    (Cursor.midway "1 2 (3 + 4)" 0 0).parse.1 = .error ⟨.twoNumbersInARow, 3⟩ ∧
      (Cursor.midway "1 2 (3 + 4)" 0 1).parse.1 =
        .ok (.binary (.number 3) .add (.number 4)) := by
  decide +kernel

end Reckoner
