import Reckoner.Proofs.BadTokens
import Reckoner.Proofs.Completion

/-!
# Faults that more text cannot mend

A text may go on after a space.  If reading it stops at one of its lexemes, it
stops there however the text goes on, because it never looks at what comes
behind.  If all its lexemes are read, the fault is that the text ends here, and
more text may lead to another result.

The two cases are told apart by the fault and its column alone: an open
parenthesis, or a column behind the last character, means that the text has come
to its end.  `parse_error_final_iff` is the main theorem.
-/

namespace Reckoner

/-- Every lexeme starts at a column of the text. -/
theorem start_le_length
    {text : String}
    {lexeme : Lexeme}
    (member : lexeme ∈ (Cursor.ofText text).lexemes) :
    lexeme.start ≤ text.length := by
  have bounds := (lexed_lexemes 0 text.toList).span_bounds lexeme member
  rw [Nat.zero_add, String.length_toList] at bounds
  exact bounds.2.1.trans bounds.2.2

/-- Reading a text stops at one of its lexemes. -/
def StopsWithin (text : String) (error : SyntaxError) : Prop :=
  error.fault ≠ .unclosedParen ∧ error.column ≤ text.length

/--
A text that is refused at one of its tokens is refused there however it goes on.
-/
theorem parse_append_of_refused
    {text : String}
    {found : List (Placed Token)}
    {error : SyntaxError}
    (allTokens : tokens text = .ok found)
    (refused : Nesting.start.readTokens found = .error error) :
    StopsWithin text error ∧
      ∀ more, parse (text ++ " " ++ more) = .error error := by
  constructor
  · rcases exists_start_eq_of_readTokens refused with ⟨placed, member, column⟩
    refine ⟨(Nesting.fault_ne_of_readTokens refused).2, ?_⟩
    have inText : placed.lexeme ∈ (Cursor.ofText text).lexemes := by
      rw [tokens_eq_ok_iff.mp allTokens]
      exact List.mem_map_of_mem member
    rw [column]
    exact start_le_length inText
  · intro more
    rw [parse, Cursor.parse, lexemes_append_space,
      tokens_eq_ok_iff.mp allTokens, Nesting.run_lexemes, refused]
    rfl

/-- Behind its first bad token a text may go on in any way. -/
theorem parse_append_of_fault
    {text : String}
    {found : List (Placed Token)}
    {faulty : Lexeme}
    {rest : List Lexeme}
    {fault : TokenFault}
    {error : SyntaxError}
    (split :
      (Cursor.ofText text).lexemes = found.map Placed.lexeme ++ faulty :: rest)
    (item : faulty.item = .error fault)
    (failed : parse text = .error error) :
    StopsWithin text error ∧
      ∀ more, parse (text ++ " " ++ more) = .error error := by
  have inText : faulty ∈ (Cursor.ofText text).lexemes := by
    rw [split]
    exact List.mem_append_right _ List.mem_cons_self
  have reads := failed.symm.trans (parse_of_fault split item)
  constructor
  · rcases bind_eq_error_iff.mp reads.symm with refused | ⟨last, -, met⟩
    · rcases exists_start_eq_of_readTokens refused with ⟨placed, member, column⟩
      refine ⟨(Nesting.fault_ne_of_readTokens refused).2, ?_⟩
      rw [column]
      exact (start_lt_of_fault split member).le.trans (start_le_length inText)
    · cases met
      exact ⟨by simp, start_le_length inText⟩
  · intro more
    have longer :
        (Cursor.ofText (text ++ " " ++ more)).lexemes =
          found.map Placed.lexeme ++ faulty ::
            (rest ++ Cursor.lexemes ⟨more.toList, text.length + 1⟩) := by
      rw [lexemes_append_space, split, List.append_assoc, List.cons_append]
    rw [parse_of_fault longer item, ← reads]

/--
Reading a text stops at one of its lexemes, or all of them are read and it
ends too early.
-/
theorem stopsWithin_or_refusedEnd
    {text : String}
    {error : SyntaxError}
    (failed : parse text = .error error) :
    (StopsWithin text error ∧
        ∀ more, parse (text ++ " " ++ more) = .error error) ∨
      ∃ found last,
        tokens text = .ok found ∧ Nesting.start.readTokens found = .ok last ∧
        Nesting.RefusedEnd (text.length + 1) last error := by
  rcases exists_tokens_or_fault text with
    ⟨found, allTokens⟩ | ⟨found, faulty, rest, fault, split, item⟩
  · have reads := failed.symm.trans (parse_of_tokens allTokens)
    rcases bind_eq_error_iff.mp reads.symm with refused | ⟨last, reading, ended⟩
    · exact Or.inl (parse_append_of_refused allTokens refused)
    · exact Or.inr
        ⟨found, last, allTokens, reading, Nesting.finish_eq_error_iff.mp ended⟩
  · exact Or.inl (parse_append_of_fault split item failed)

/-- What is wrong with a text all of whose tokens are read is that it ends. -/
theorem Nesting.RefusedEnd.fault_eq
    {column : Nat}
    {nesting : Nesting}
    {error : SyntaxError}
    (refused : RefusedEnd column nesting error) :
    error.fault = .unclosedParen ∨
      (error.fault = .operatorAtEnd ∨ error.fault = .emptyGroup) ∧
        error.column = column := by
  cases refused with
  | empty => exact Or.inr ⟨Or.inr rfl, rfl⟩
  | dangling => exact Or.inr ⟨Or.inl rfl, rfl⟩
  | unclosed => exact Or.inl rfl

/--
A bad token behind a text all of whose tokens are read is what is reported.
-/
theorem parse_append_unexpected
    {text : String}
    {found : List (Placed Token)}
    {last : Nesting}
    (allTokens : tokens text = .ok found)
    (reading : Nesting.start.readTokens found = .ok last) :
    ∃ fault column,
      parse (text ++ " " ++ "?") = .error ⟨.badToken fault, column⟩ := by
  have cut :
      Lexed (text.length + 1) "?".toList
        [Cursor.lexemeAt (text.length + 1 + 1) '?' []] :=
    Lexed.single (by decide) (by simp [EndsRun]) (Lexed.blank .nil)
  refine ⟨.unexpectedCharacter '?', text.length + 1 + 1, ?_⟩
  rw [parse_append_space (tokens_eq_ok_iff.mp allTokens) reading,
    lexed_iff.mp cut]
  rfl

/--
A text that fails fails in the same way however it goes on after a space, if the
fault is not an open parenthesis and is reported at a column of the text, and
only then.  All other faults are faults of its end: an open parenthesis, or
behind the last character an operator without an operand or nothing at all.
-/
theorem parse_error_final_iff
    (text : String)
    (error : SyntaxError)
    (failed : parse text = .error error) :
    (error.fault ≠ .unclosedParen ∧ error.column ≤ text.length ↔
      ∀ more, parse (text ++ " " ++ more) = .error error) ∧
    (¬ (error.fault ≠ .unclosedParen ∧ error.column ≤ text.length) →
      error.fault = .unclosedParen ∨
        (error.fault = .operatorAtEnd ∨ error.fault = .emptyGroup) ∧
          error.column = text.length + 1) := by
  rcases stopsWithin_or_refusedEnd failed with
    ⟨within, final⟩ | ⟨found, last, allTokens, reading, refused⟩
  · exact
      ⟨⟨fun _ => final, fun _ => within⟩,
        fun notWithin => absurd within notWithin⟩
  · have ends := refused.fault_eq
    refine ⟨⟨?_, ?_⟩, fun _ => ends⟩
    · rintro ⟨closed, inside⟩
      rcases ends with isOpen | ⟨-, behind⟩
      · exact absurd isOpen closed
      · omega
    · -- a bad token behind the text is reported instead
      intro final
      rcases parse_append_unexpected allTokens reading with
        ⟨fault, column, unexpected⟩
      cases unexpected.symm.trans (final "?")
      cases refused

/-- A group that ends too early is reported whatever comes after it. -/
theorem early_group_end_final :
    parse "2 * (1 + ) - (3" = .error ⟨.operatorAtEnd, 10⟩ ∧
      parse ("2 * (1 + ) - (3" ++ " " ++ "?? ) 4") =
        .error ⟨.operatorAtEnd, 10⟩ := by
  have failed : parse "2 * (1 + ) - (3" = .error ⟨.operatorAtEnd, 10⟩ := by
    decide +kernel
  have within :
      SyntaxFault.operatorAtEnd ≠ .unclosedParen ∧
        10 ≤ "2 * (1 + ) - (3".length := by decide
  have final :=
    parse_error_final_iff "2 * (1 + ) - (3" ⟨.operatorAtEnd, 10⟩ failed
  exact ⟨failed, final.1.mp within "?? ) 4"⟩

end Reckoner
