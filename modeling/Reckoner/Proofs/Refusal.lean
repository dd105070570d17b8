import Reckoner.Proofs.TokenOrder

/-!
# What is refused

A state refuses a token for what it has read so far, and it refuses the end of
the tokens in the same way.  The relations `Nesting.Refused` and
`Nesting.RefusedEnd` list the cases.  A text fails at the first token that is
refused, or at its first bad token, or at its end.
-/

namespace Reckoner

namespace Nesting

/-! ## Tokens that are refused -/

/-- Why a state does not read a token at a column. -/
inductive Refused (column : Nat) : Nesting → Token → SyntaxError → Prop where
  | number {groups : List OpenGroup} {series : Series} {value : Int64} :
      Refused column ⟨groups, .complete series⟩ (.number value)
        ⟨.twoNumbersInARow, column⟩
  | operator {groups : List OpenGroup} {content : Content}
      {operator : Operator} :
      content.AwaitsOperand →
      Refused column ⟨groups, content⟩ (.operator operator)
        ⟨.twoOperatorsInARow, column⟩
  | unexpected {content : Content} :
      Refused column ⟨[], content⟩ .rightParen ⟨.unexpectedClosingParen, column⟩
  | empty {group : OpenGroup} {around : List OpenGroup} :
      Refused column ⟨group :: around, .empty⟩ .rightParen ⟨.emptyGroup, column⟩
  | dangling {group : OpenGroup} {around : List OpenGroup} {series : Series}
      {operator : Operator} :
      Refused column ⟨group :: around, .dangling series operator⟩ .rightParen
        ⟨.operatorAtEnd, column⟩
  | misplaced {openedAt : Nat} {around : List OpenGroup}
      {before series : Series} :
      Refused column ⟨⟨openedAt, .complete before⟩ :: around, .complete series⟩
        .rightParen
        ⟨.twoNumbersInARow, openedAt⟩

/-- A refused token is neither a bad token nor an open parenthesis. -/
theorem Refused.fault_ne
    {nesting : Nesting}
    {token : Token}
    {column : Nat}
    {error : SyntaxError}
    (refused : Refused column nesting token error) :
    (∀ fault, error.fault ≠ .badToken fault) ∧
      error.fault ≠ .unclosedParen := by
  cases refused <;> simp

theorem readToken_eq_error_iff
    {nesting : Nesting}
    {token : Token}
    {column : Nat}
    {error : SyntaxError} :
    nesting.readToken token column = .error error ↔
      Refused column nesting token error := by
  constructor
  · intro failed
    rcases nesting with ⟨groups, content⟩
    cases token with
    | number value =>
        cases content <;> cases failed
        exact .number
    | operator operator =>
        cases content <;> cases failed
        · exact .operator trivial
        · exact .operator trivial
    | leftParen => cases failed
    | rightParen =>
        cases groups with
        | nil =>
            cases failed
            exact .unexpected
        | cons group around =>
            rcases group with ⟨openedAt, before⟩
            cases content with
            | empty =>
                cases failed
                exact .empty
            | dangling series operator =>
                cases failed
                exact .dangling
            | complete series =>
                cases before <;> cases failed
                exact .misplaced
  · intro refused
    cases refused with
    | @operator groups content operator awaits =>
        cases content with
        | complete series => exact awaits.elim
        | empty => rfl
        | dangling series earlier => rfl
    | number => rfl
    | unexpected => rfl
    | empty => rfl
    | dangling => rfl
    | misplaced => rfl

/-- Why a formula cannot end in a state. -/
inductive RefusedEnd (column : Nat) : Nesting → SyntaxError → Prop where
  | empty : RefusedEnd column ⟨[], .empty⟩ ⟨.emptyGroup, column⟩
  | dangling {series : Series} {operator : Operator} :
      RefusedEnd column ⟨[], .dangling series operator⟩ ⟨.operatorAtEnd, column⟩
  | unclosed {group : OpenGroup} {around : List OpenGroup} {content : Content} :
      RefusedEnd column ⟨group :: around, content⟩
        ⟨.unclosedParen, group.openedAt⟩

theorem finish_eq_error_iff
    {nesting : Nesting}
    {column : Nat}
    {error : SyntaxError} :
    nesting.finish column = .error error ↔ RefusedEnd column nesting error := by
  constructor
  · intro failed
    rcases nesting with ⟨groups, content⟩
    cases groups with
    | nil =>
        cases content with
        | empty =>
            cases failed
            exact .empty
        | dangling series operator =>
            cases failed
            exact .dangling
        | complete series => cases failed
    | cons group around =>
        cases failed
        exact .unclosed
  · intro refused
    cases refused <;> rfl

/-- Tokens are read up to the first that is refused. -/
theorem readTokens_eq_error_iff
    {nesting : Nesting}
    {found : List (Placed Token)}
    {error : SyntaxError} :
    nesting.readTokens found = .error error ↔
      ∃ before culprit after next, found = before ++ culprit :: after ∧
        nesting.readTokens before = .ok next ∧
          next.readToken culprit.item culprit.start = .error error := by
  constructor
  · intro failed
    induction found generalizing nesting with
    | nil => cases failed
    | cons placed others hypothesis =>
        rcases bind_eq_error_iff.mp failed with
          atFirst | ⟨next, first, following⟩
        · exact ⟨[], placed, others, nesting, rfl, rfl, atFirst⟩
        · rcases hypothesis following with
            ⟨before, culprit, after, last, rfl, reading, refused⟩
          refine ⟨placed :: before, culprit, after, last, rfl, ?_, refused⟩
          exact bind_eq_ok_iff.mpr ⟨next, first, reading⟩
  · rintro ⟨before, culprit, after, next, rfl, reading, refused⟩
    rw [readTokens_append, reading]
    change (next.readToken culprit.item culprit.start).bind _ = _
    rw [refused]
    rfl

theorem fault_ne_of_readTokens
    {nesting : Nesting}
    {found : List (Placed Token)}
    {error : SyntaxError}
    (failed : nesting.readTokens found = .error error) :
    (∀ fault, error.fault ≠ .badToken fault) ∧
      error.fault ≠ .unclosedParen := by
  rcases readTokens_eq_error_iff.mp failed with
    ⟨before, culprit, after, next, -, -, refused⟩
  exact (readToken_eq_error_iff.mp refused).fault_ne

end Nesting

/-! ## Whole texts -/

/--
A text consists of tokens only, or there is a first fault behind some tokens.
-/
theorem exists_tokens_or_fault (text : String) :
    (∃ found, tokens text = .ok found) ∨
      ∃ (found : List (Placed Token)) (faulty : Lexeme) (rest : List Lexeme)
        (fault : TokenFault),
        (Cursor.ofText text).lexemes =
          found.map Placed.lexeme ++ faulty :: rest ∧
          faulty.item = .error fault := by
  rcases Nesting.exists_tokens (Cursor.ofText text).lexemes with
    ⟨found, rest, split, stops⟩
  cases rest with
  | nil =>
      rw [List.append_nil] at split
      exact Or.inl ⟨found, tokens_eq_ok_iff.mpr split⟩
  | cons faulty others =>
      rcases stops faulty rfl with ⟨fault, item⟩
      exact Or.inr ⟨found, faulty, others, fault, split, item⟩

theorem endColumn_ofText (text : String) :
    (Cursor.ofText text).endColumn = text.length + 1 := by
  rw [Cursor.endColumn, Cursor.ofText, String.length_toList, Nat.zero_add]

theorem parse_of_tokens
    {text : String}
    {found : List (Placed Token)}
    (allTokens : tokens text = .ok found) :
    parse text =
      (Nesting.start.readTokens found).bind fun last =>
        last.finish (text.length + 1) := by
  rw [parse, Cursor.parse, tokens_eq_ok_iff.mp allTokens, endColumn_ofText,
    ← List.append_nil (found.map Placed.lexeme), Nesting.run_lexemes]
  rfl

theorem parse_of_fault
    {text : String}
    {found : List (Placed Token)}
    {faulty : Lexeme}
    {rest : List Lexeme}
    {fault : TokenFault}
    (split :
      (Cursor.ofText text).lexemes = found.map Placed.lexeme ++ faulty :: rest)
    (item : faulty.item = .error fault) :
    parse text =
      (Nesting.start.readTokens found).bind fun _ =>
        .error ⟨.badToken fault, faulty.start⟩ := by
  have faulted :
      ∀ last : Nesting,
        last.run (Cursor.ofText text).endColumn (faulty :: rest) =
          .error ⟨.badToken fault, faulty.start⟩ := by
    intro last
    rw [Nesting.run, Nesting.read, item]
    rfl
  rw [parse, Cursor.parse, split, Nesting.run_lexemes]
  simp only [faulted]

end Reckoner
