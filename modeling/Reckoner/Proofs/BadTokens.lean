import Reckoner.Formula
import Reckoner.Proofs.Diagnosis

/-!
# Bad tokens, met in reading and found in advance

All tokens of a text may be collected in advance, up to the first bad one, or a
text may be read token by token, up to the first fault of any kind.  The two
agree on bad tokens: reading either comes to the first of them and reports it,
or it stops at a structural fault in front of it.  Such a fault is never an open
parenthesis, since the text has not come to its end.  This is
`bad_tokens_agree`.
-/

namespace Reckoner

/-! ## The first bad token -/

theorem tokens_of_fault
    {text : String}
    {found : List (Placed Token)}
    {faulty : Lexeme}
    {rest : List Lexeme}
    {fault : TokenFault}
    (split :
      (Cursor.ofText text).lexemes = found.map Placed.lexeme ++ faulty :: rest)
    (item : faulty.item = .error fault) :
    tokens text = .error ⟨fault, faulty.start⟩ := by
  have before : (found.map Placed.lexeme).mapM Placed.token = .ok found :=
    mapM_token_eq_ok_iff.mpr rfl
  have bad : faulty.token = .error ⟨fault, faulty.start⟩ := by
    rw [Placed.token, item]
  rw [tokens, split, List.mapM_append, List.mapM_cons, before, bad]
  rfl

/-- The tokens in front of a bad one start at smaller columns. -/
theorem start_lt_of_fault
    {text : String}
    {found : List (Placed Token)}
    {faulty : Lexeme}
    {rest : List Lexeme}
    (split :
      (Cursor.ofText text).lexemes = found.map Placed.lexeme ++ faulty :: rest)
    {placed : Placed Token}
    (member : placed ∈ found) :
    placed.start < faulty.start := by
  have cut :
      Lexed 0 text.toList (found.map Placed.lexeme ++ faulty :: rest) := by
    rw [← split]
    exact lexed_lexemes 0 text.toList
  have inFront : placed.lexeme ∈ found.map Placed.lexeme :=
    List.mem_map_of_mem member
  have ordered : placed.stop < faulty.start :=
    (List.pairwise_append.mp cut.pairwise_spans).2.2 placed.lexeme inFront
      faulty (by simp)
  have spans : placed.start ≤ placed.stop :=
    (cut.span_bounds placed.lexeme (List.mem_append_left _ inFront)).2.1
  exact Nat.lt_of_le_of_lt spans ordered

/-! ## Structural faults in front of it -/

/-- What is diagnosed at a token is reported there or at a token before. -/
theorem Diagnosed.exists_start_eq
    {before : List (Placed Token)}
    {culprit : Placed Token}
    {error : SyntaxError}
    (diagnosed : Diagnosed before culprit error) :
    ∃ placed ∈ before ++ [culprit], error.column = placed.start := by
  cases diagnosed with
  | @group outer inner opening _ split _ _ _ _ =>
      exact ⟨opening, by simp [split], rfl⟩
  | number _ _ => exact ⟨culprit, by simp, rfl⟩
  | operator _ _ => exact ⟨culprit, by simp, rfl⟩
  | emptyGroup _ _ => exact ⟨culprit, by simp, rfl⟩
  | operatorAtEnd _ _ _ => exact ⟨culprit, by simp, rfl⟩
  | unexpectedClosingParen _ _ _ => exact ⟨culprit, by simp, rfl⟩

/-- A structural fault is reported at one of the tokens that are read. -/
theorem exists_start_eq_of_readTokens
    {found : List (Placed Token)}
    {error : SyntaxError}
    (failed : Nesting.start.readTokens found = .error error) :
    ∃ placed ∈ found, error.column = placed.start := by
  rcases Nesting.start_readTokens_eq_error_iff.mp failed with
    ⟨before, culprit, after, rfl, -, diagnosed⟩
  rcases diagnosed.exists_start_eq with ⟨placed, member, column⟩
  refine ⟨placed, ?_, column⟩
  rw [List.append_cons]
  exact List.mem_append_left after member

/-! ## Reading and collecting -/

theorem tokens_eq_error_of_parse
    {text : String}
    {fault : TokenFault}
    {column : Nat}
    (failed : parse text = .error ⟨.badToken fault, column⟩) :
    tokens text = .error ⟨fault, column⟩ := by
  rcases exists_tokens_or_fault text with
    ⟨found, allTokens⟩ | ⟨found, faulty, rest, other, split, item⟩
  · rw [parse_of_tokens allTokens] at failed
    rcases bind_eq_error_iff.mp failed with refused | ⟨last, -, ended⟩
    · exact absurd rfl ((Nesting.fault_ne_of_readTokens refused).1 fault)
    · cases Nesting.finish_eq_error_iff.mp ended
  · rw [parse_of_fault split item] at failed
    rcases bind_eq_error_iff.mp failed with refused | ⟨last, -, met⟩
    · exact absurd rfl ((Nesting.fault_ne_of_readTokens refused).1 fault)
    · cases met
      exact tokens_of_fault split item

theorem parse_eq_error_of_tokens
    {text : String}
    {error : TokenError}
    (failed : tokens text = .error error) :
    parse text = .error ⟨.badToken error.fault, error.column⟩ ∨
      ∃ earlier : SyntaxError, parse text = .error earlier ∧
        (∀ fault, earlier.fault ≠ .badToken fault) ∧
          earlier.fault ≠ .unclosedParen ∧ earlier.column < error.column := by
  rcases exists_tokens_or_fault text with
    ⟨found, allTokens⟩ | ⟨found, faulty, rest, fault, split, item⟩
  · cases failed.symm.trans allTokens
  · cases failed.symm.trans (tokens_of_fault split item)
    have reads := parse_of_fault split item
    cases reading : Nesting.start.readTokens found with
    | ok last =>
        rw [reading] at reads
        exact Or.inl reads
    | error earlier =>
        rw [reading] at reads
        rcases exists_start_eq_of_readTokens reading with
          ⟨placed, member, column⟩
        have structural := Nesting.fault_ne_of_readTokens reading
        refine Or.inr ⟨earlier, reads, structural.1, structural.2, ?_⟩
        rw [column]
        exact start_lt_of_fault split member

theorem FormulaError.ofSyntax_eq_invalidToken_iff
    {error : SyntaxError}
    {bad : TokenError} :
    ofSyntax error = .invalidToken bad ↔
      error = ⟨.badToken bad.fault, bad.column⟩ := by
  rcases error with ⟨fault, column⟩
  rcases bad with ⟨badFault, badColumn⟩
  cases fault <;> simp [ofSyntax]

/-- A formula has a bad token exactly if reading it comes to one. -/
theorem calculate_eq_invalidToken_iff
    {text : String}
    {bad : TokenError} :
    calculate text = .error (.invalidToken bad) ↔
      parse text = .error ⟨.badToken bad.fault, bad.column⟩ := by
  cases parsed : parse text with
  | ok expr =>
      rw [calculate_of_parse_ok parsed]
      cases expr.value <;> simp [Except.mapError]
  | error error =>
      rw [calculate_of_parse_error parsed, Except.error.injEq,
        Except.error.injEq]
      exact FormulaError.ofSyntax_eq_invalidToken_iff

theorem calculate_ne_malformed_badToken
    (text : String)
    (fault : TokenFault)
    (column : Nat) :
    calculate text ≠ .error (.malformed ⟨.badToken fault, column⟩) := by
  cases parsed : parse text with
  | ok expr =>
      rw [calculate_of_parse_ok parsed]
      cases expr.value <;> simp [Except.mapError]
  | error error =>
      rw [calculate_of_parse_error parsed]
      rcases error with ⟨other, otherColumn⟩
      cases other <;> simp [FormulaError.ofSyntax]

/--
A bad token that reading reports is the first of the text, at its own
column, and so is the one that a calculation reports, always as a bad token
and never as a malformed formula.  If a text has a bad token, reading it
fails, at that token or at a structural fault in front of it; only a text of
tokens is read into a tree.
-/
theorem bad_tokens_agree (text : String) :
    (∀ fault column, parse text = .error ⟨.badToken fault, column⟩ →
      tokens text = .error ⟨fault, column⟩ ∧
        calculate text = .error (.invalidToken ⟨fault, column⟩)) ∧
    (∀ error, tokens text = .error error →
      parse text = .error ⟨.badToken error.fault, error.column⟩ ∨
        ∃ earlier : SyntaxError, parse text = .error earlier ∧
          (∀ fault, earlier.fault ≠ .badToken fault) ∧
            earlier.fault ≠ .unclosedParen ∧ earlier.column < error.column) ∧
    (∀ error,
      calculate text = .error (.invalidToken error) →
        tokens text = .error error) ∧
    (∀ fault column,
      calculate text ≠ .error (.malformed ⟨.badToken fault, column⟩)) ∧
    (∀ expr, parse text = .ok expr → ∃ found, tokens text = .ok found) := by
  refine ⟨?_, ?_, ?_, calculate_ne_malformed_badToken text, ?_⟩
  · intro fault column failed
    exact
      ⟨tokens_eq_error_of_parse failed,
        calculate_eq_invalidToken_iff.mpr failed⟩
  · intro error failed
    exact parse_eq_error_of_tokens failed
  · intro error failed
    exact tokens_eq_error_of_parse (calculate_eq_invalidToken_iff.mp failed)
  · intro expr parsed
    rcases exists_derives_of_parse parsed with ⟨found, allTokens, -⟩
    exact ⟨found, allTokens⟩

end Reckoner
