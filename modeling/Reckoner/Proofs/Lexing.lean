import Reckoner.Cursor

/-!
# The lexemes of a text as a relation

`Cursor.lexemes` reads a text from left to right and says nothing about what
stands where.  The relation `Lexed` says it: the characters are cut into gaps
of spaces and maximal runs, and every run is one lexeme at its columns.  The
main theorem, `lexed_iff`, identifies the two, so that facts about all lexemes
of a text are proved by induction over the way it is cut.

One consequence is used wherever texts are put together: lexemes only move when
the text before them grows.
-/

namespace Reckoner

/-! ## Characters that belong together -/

namespace Token

theorem joins_space {first : Char} : joins first ' ' = false := by
  unfold joins
  split
  · decide
  · split
    · decide
    · rfl

theorem joins_rightParen {character : Char} : joins ')' character = false := by
  have notSymbol : Operator.isSymbol ')' = false := rfl
  simp [joins, notSymbol]

/--
Only digits and operator characters start runs of more than one character.
-/
theorem joins_eq_true_iff {first character : Char} :
    joins first character = true ↔
      (first.isDigit = true ∧ character.isDigit = true) ∨
        (first.isDigit = false ∧
          Operator.isSymbol first = true ∧
            Operator.isSymbol character = true) := by
  unfold joins
  cases digit : first.isDigit <;>
    cases symbol : Operator.isSymbol first <;> simp

end Token

/-- The same lexeme in a text before which more characters stand. -/
def Placed.shift
    {Item : Type}
    (count : Nat)
    (placed : Placed Item) :
    Placed Item :=
  ⟨placed.item, placed.start + count, placed.stop + count⟩

/-! ## Cutting a text into lexemes -/

/-- Characters that are skipped between two lexemes. -/
def IsGap (characters : List Char) : Prop :=
  ∀ character ∈ characters, character = ' '

theorem IsGap.nil : IsGap [] := by
  simp [IsGap]

theorem IsGap.append
    {front back : List Char}
    (frontGap : IsGap front)
    (backGap : IsGap back) :
    IsGap (front ++ back) := by
  intro character member
  rcases List.mem_append.mp member with inFront | inBack
  · exact frontGap character inFront
  · exact backGap character inBack

/-- The characters after a run that starts with `first` do not go on with it. -/
def EndsRun (first : Char) (rest : List Char) : Prop :=
  ∀ character ∈ rest.head?, Token.joins first character = false

/--
The characters that follow the first `consumed` ones of a text are cut into
these lexemes.
-/
inductive Lexed : Nat → List Char → List Lexeme → Prop where
  | blank {consumed : Nat} {gap : List Char} :
      IsGap gap → Lexed consumed gap []
  | run {consumed : Nat} {gap : List Char} {first : Char}
      {others rest : List Char}
      {lexemes : List Lexeme} :
      IsGap gap →
      first ≠ ' ' →
      (∀ character ∈ others, Token.joins first character = true) →
      EndsRun first rest →
      Lexed (consumed + gap.length + 1 + others.length) rest lexemes →
      Lexed consumed (gap ++ first :: (others ++ rest))
        (Cursor.lexemeAt (consumed + gap.length + 1) first others :: lexemes)

/-! ## One step of a cursor -/

namespace Cursor

private theorem takeWhile_space
    {gap rest : List Char}
    (isGap : IsGap gap)
    (stops : ∀ character ∈ rest.head?, character ≠ ' ') :
    (gap ++ rest).takeWhile (· == ' ') = gap := by
  rw [List.takeWhile_append_of_pos (by simpa [IsGap] using isGap)]
  cases rest with
  | nil => simp
  | cons character others =>
      have different : character ≠ ' ' := stops character rfl
      simp [different]

theorem skipSpaces_gap
    {consumed : Nat}
    {gap rest : List Char}
    (isGap : IsGap gap)
    (stops : ∀ character ∈ rest.head?, character ≠ ' ') :
    skipSpaces ⟨gap ++ rest, consumed⟩ = ⟨rest, consumed + gap.length⟩ := by
  simp only [skipSpaces, takeWhile_space isGap stops, advance]
  simp

theorem next_gap
    {consumed : Nat}
    {gap : List Char}
    (isGap : IsGap gap) :
    next ⟨gap, consumed⟩ = (none, ⟨[], consumed + gap.length⟩) := by
  have skipped :
      skipSpaces ⟨gap ++ [], consumed⟩ = ⟨[], consumed + gap.length⟩ :=
    skipSpaces_gap isGap (by simp)
  rw [List.append_nil] at skipped
  simp only [next, skipped]

theorem runAfter_eq
    {first : Char}
    {others rest : List Char}
    (joined : ∀ character ∈ others, Token.joins first character = true)
    (ends : EndsRun first rest) :
    runAfter first (others ++ rest) = others := by
  rw [runAfter, List.takeWhile_append_of_pos joined]
  cases rest with
  | nil => simp
  | cons character following =>
      have apart : Token.joins first character = false := ends character rfl
      simp [apart]

/-- A step finds the run after a gap, and all of it. -/
theorem next_run
    {consumed : Nat}
    {gap : List Char}
    {first : Char}
    {others rest : List Char}
    (isGap : IsGap gap)
    (visible : first ≠ ' ')
    (joined : ∀ character ∈ others, Token.joins first character = true)
    (ends : EndsRun first rest) :
    next ⟨gap ++ first :: (others ++ rest), consumed⟩ =
      (some (lexemeAt (consumed + gap.length + 1) first others),
        ⟨rest, consumed + gap.length + 1 + others.length⟩) := by
  have skipped :
      skipSpaces ⟨gap ++ first :: (others ++ rest), consumed⟩ =
        ⟨first :: (others ++ rest), consumed + gap.length⟩ :=
    skipSpaces_gap isGap (by simpa using visible)
  simp only [next, skipped, runAfter_eq joined ends, column, advance]
  simp
  omega

end Cursor

theorem Lexed.single
    {consumed : Nat}
    {first : Char}
    {rest : List Char}
    {lexemes : List Lexeme}
    (visible : first ≠ ' ')
    (ends : EndsRun first rest)
    (cut : Lexed (consumed + 1) rest lexemes) :
    Lexed consumed (first :: rest)
      (Cursor.lexemeAt (consumed + 1) first [] :: lexemes) := by
  have noOthers : ∀ character ∈ [], Token.joins first character = true := by
    simp
  exact Lexed.run .nil visible noOthers ends cut

/-! ## Every text is cut in exactly one way -/

private theorem exists_run
    (characters : List Char) :
    IsGap characters ∨
      ∃ gap first others rest,
        characters = gap ++ first :: (others ++ rest) ∧
          IsGap gap ∧ first ≠ ' ' ∧
            (∀ character ∈ others, Token.joins first character = true) ∧
              EndsRun first rest := by
  induction characters with
  | nil => exact Or.inl .nil
  | cons character following hypothesis =>
      by_cases space : character = ' '
      · subst character
        rcases hypothesis with
          isGap | ⟨gap, first, others, rest, rfl, isGap, run⟩
        · apply Or.inl
          simpa [IsGap] using isGap
        · refine Or.inr ⟨' ' :: gap, first, others, rest, rfl, ?_, run⟩
          simpa [IsGap] using isGap
      · refine Or.inr
          ⟨[], character, following.takeWhile (Token.joins character),
            following.dropWhile (Token.joins character), by simp, .nil, space,
            ?_, ?_⟩
        · intro joined member
          exact List.all_eq_true.mp List.all_takeWhile joined member
        · intro next member
          have stopped :=
            List.head?_dropWhile_not (Token.joins character) following
          rw [Option.mem_def.mp member] at stopped
          simpa using stopped

/-- Every text is cut into lexemes. -/
theorem lexed_lexemes
    (consumed : Nat)
    (characters : List Char) :
    Lexed consumed characters (Cursor.lexemes ⟨characters, consumed⟩) := by
  induction length : characters.length using Nat.strongRecOn
    generalizing consumed characters with
  | ind size hypothesis =>
      rcases exists_run characters with
        isGap | ⟨gap, first, others, rest, rfl, isGap, visible, joined, ends⟩
      · rw [Cursor.lexemes_of_next_none (Cursor.next_gap isGap)]
        exact Lexed.blank isGap
      · rw [Cursor.lexemes_of_next_some
          (Cursor.next_run isGap visible joined ends)]
        -- a run is not empty, so what follows it is shorter
        have shorter : rest.length < size := by
          simp only [List.length_append, List.length_cons] at length
          omega
        exact Lexed.run isGap visible joined ends
          (hypothesis rest.length shorter _ rest rfl)

/--
The lexemes ahead of a cursor are the ones into which the unread text is cut.
-/
theorem lexed_iff
    {consumed : Nat}
    {characters : List Char}
    {lexemes : List Lexeme} :
    Lexed consumed characters lexemes ↔
      Cursor.lexemes ⟨characters, consumed⟩ = lexemes := by
  constructor
  · intro cut
    induction cut with
    | blank isGap =>
        exact Cursor.lexemes_of_next_none (Cursor.next_gap isGap)
    | run isGap visible joined ends _ hypothesis =>
        rw [Cursor.lexemes_of_next_some
            (Cursor.next_run isGap visible joined ends),
          hypothesis]
  · rintro rfl
    exact lexed_lexemes consumed characters

theorem Cursor.lexemes_after_none
    {cursor after : Cursor}
    (found : cursor.next = (none, after)) :
    after.lexemes = [] := by
  have nothing : after.unread = [] := by
    unfold Cursor.next at found
    split at found
    · next ended =>
        simp only [Prod.mk.injEq, true_and] at found
        rw [← found]
        exact ended
    · simp at found
  rcases after with ⟨unread, consumed⟩
  subst nothing
  exact lexed_iff.mp (Lexed.blank .nil)

/--
The steps from a place on find the lexemes ahead in their order,
and then nothing.
-/
theorem Cursor.next_skip
    (cursor : Cursor)
    (count : Nat) :
    (cursor.skip count).next.1 = cursor.lexemes[count]? := by
  induction count generalizing cursor with
  | zero =>
      rcases step : cursor.next with ⟨_ | lexeme, after⟩
      · simp [Cursor.skip, step, Cursor.lexemes_of_next_none step]
      · simp [Cursor.skip, step, Cursor.lexemes_of_next_some step]
  | succ count hypothesis =>
      rw [Cursor.skip, hypothesis]
      rcases step : cursor.next with ⟨_ | lexeme, after⟩
      · simp [Cursor.lexemes_of_next_none step, Cursor.lexemes_after_none step]
      · simp [Cursor.lexemes_of_next_some step]

/-! ## Characters before a text -/

/-- Characters before a text only move its lexemes. -/
theorem Lexed.shift
    {consumed : Nat}
    {characters : List Char}
    {lexemes : List Lexeme}
    (count : Nat)
    (cut : Lexed consumed characters lexemes) :
    Lexed (consumed + count) characters (lexemes.map (Placed.shift count)) := by
  induction cut with
  | blank isGap => exact Lexed.blank isGap
  | @run consumed gap first others rest lexemes isGap visible joined ends _
        hypothesis =>
      have moved :
          (Cursor.lexemeAt (consumed + gap.length + 1) first others).shift
              count =
            Cursor.lexemeAt (consumed + count + gap.length + 1) first
              others := by
        simp only [Cursor.lexemeAt, Placed.shift, Placed.mk.injEq, true_and]
        omega
      rw [List.map_cons, moved]
      apply Lexed.run isGap visible joined ends
      have sameColumn :
          consumed + count + gap.length + 1 + others.length =
            consumed + gap.length + 1 + others.length + count := by
        omega
      rw [sameColumn]
      exact hypothesis

theorem lexemes_add (consumed count : Nat) (characters : List Char) :
    Cursor.lexemes ⟨characters, consumed + count⟩ =
      (Cursor.lexemes ⟨characters, consumed⟩).map (Placed.shift count) :=
  lexed_iff.mp ((lexed_lexemes consumed characters).shift count)

theorem Lexed.gap_append
    {consumed : Nat}
    {front characters : List Char}
    {lexemes : List Lexeme}
    (frontGap : IsGap front)
    (cut : Lexed (consumed + front.length) characters lexemes) :
    Lexed consumed (front ++ characters) lexemes := by
  generalize start : consumed + front.length = column at cut
  cases cut with
  | blank isGap => exact Lexed.blank (frontGap.append isGap)
  | @run _ gap first others rest lexemes isGap visible joined ends following =>
      subst column
      have sameColumn :
          consumed + front.length + gap.length =
            consumed + (front ++ gap).length := by
        rw [List.length_append, Nat.add_assoc]
      rw [sameColumn] at following ⊢
      rw [← List.append_assoc]
      exact Lexed.run (frontGap.append isGap) visible joined ends following

end Reckoner
