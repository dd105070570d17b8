import Reckoner.Formula
import Reckoner.Proofs.Adjoining
import Reckoner.Proofs.Refusal

/-!
# Completing a formula whose parenthesis is open

A formula that fails only because a parenthesis is still open may be completed
by more text, but not always: whether a group may stand where it was opened is
found out only when it closes.  If a parenthesis that is still open follows a
number or a closing parenthesis, no text completes the formula; if none does,
some text completes it.  `unclosed_completable_iff` states this on the tokens of
the text, and `one_before_open_paren` is a text that cannot be completed.
-/

namespace Reckoner

/-! ## Groups that cannot close -/

/-- A group that is still open stands where no operand may stand. -/
def Nesting.Blocked (nesting : Nesting) : Prop :=
  ∃ group ∈ nesting.openGroups, ¬ group.before.AwaitsOperand

/-- An opening parenthesis without a closing one, where no operand may stand. -/
def OpensMisplaced (run : List Token) : Prop :=
  ∃ before after, run = before ++ .leftParen :: after ∧
    (openAfter 0 after).isSome ∧ ¬ TakesOperand before

theorem not_opensMisplaced_of_closed
    {run : List Token}
    (closed : openAfter 0 run = some 0) :
    ¬ OpensMisplaced run := by
  rintro ⟨before, after, rfl, staysOpen, -⟩
  simp [openAfter_eq_none_of_closed closed] at staysOpen

/--
Only the parentheses around a group that is closed in itself can stay open.
-/
theorem opensMisplaced_append_iff
    {outer run : List Token}
    (closed : ∀ count, openAfter count run = some count) :
    OpensMisplaced (outer ++ .leftParen :: run) ↔
      OpensMisplaced outer ∨ ¬ TakesOperand outer := by
  constructor
  · rintro ⟨before, after, split, staysOpen, misplaced⟩
    -- the parenthesis that stays open stands behind `outer`, or in it
    rcases List.append_eq_append_iff.mp split with
      ⟨between, rfl, inner⟩ | ⟨between, rfl, inner⟩
    · cases between with
      | nil =>
          rw [List.append_nil] at misplaced
          exact Or.inr misplaced
      | cons token others =>
          rw [List.cons_append, List.cons.injEq] at inner
          rw [inner.2] at closed
          simp [openAfter_eq_none_of_closed (closed 0)] at staysOpen
    · cases between with
      | nil =>
          rw [List.append_nil]
          exact Or.inr misplaced
      | cons token others =>
          rw [List.cons_append, List.cons.injEq] at inner
          rcases inner with ⟨rfl, rfl⟩
          refine Or.inl ⟨before, others, rfl, ?_, misplaced⟩
          rw [openAfter_append] at staysOpen
          exact Option.isSome_of_isSome_bind staysOpen
  · rintro (⟨before, after, rfl, staysOpen, misplaced⟩ | misplaced)
    · rcases Option.isSome_iff_exists.mp staysOpen with ⟨later, stays⟩
      refine ⟨before, after ++ .leftParen :: run, by simp, ?_, misplaced⟩
      rw [openAfter_append, stays, Option.bind_some, openAfter, closed]
      rfl
    · refine ⟨outer, run, rfl, ?_, misplaced⟩
      rw [closed]
      rfl

/-- The tokens show whether a group that is still open can close. -/
theorem Nesting.Spelled.blocked_iff
    {nesting : Nesting}
    {run : List Token}
    (spelled : nesting.Spelled run) :
    nesting.Blocked ↔ OpensMisplaced run := by
  induction spelled with
  | outermost inside =>
      simp [Nesting.Blocked,
        not_opensMisplaced_of_closed (inside.openAfter_eq 0)]
  | @inner around before content openedAt outer run outside inside hypothesis =>
      rw [opensMisplaced_append_iff inside.openAfter_eq, ← hypothesis,
        outside.takesOperand_iff, or_comm]
      simp [Nesting.Blocked]

namespace Nesting

/-- A group that cannot close stays open, whatever is read. -/
theorem Blocked.readToken
    {nesting next : Nesting}
    {token : Token}
    {column : Nat}
    (blocked : nesting.Blocked)
    (reading : nesting.readToken token column = .ok next) :
    next.Blocked := by
  rcases blocked with ⟨group, member, misplaced⟩
  cases step_of_readToken reading with
  | number added => exact ⟨group, member, misplaced⟩
  | operator added => exact ⟨group, member, misplaced⟩
  | leftParen => exact ⟨group, List.mem_cons_of_mem _ member, misplaced⟩
  | rightParen closed added =>
      rcases List.mem_cons.mp member with rfl | inAround
      · exact absurd (Content.awaitsOperand_of_addOperand added) misplaced
      · exact ⟨group, inAround, misplaced⟩

theorem Blocked.run_ne_ok
    {nesting : Nesting}
    (blocked : nesting.Blocked)
    (endColumn : Nat)
    (lexemes : List Lexeme)
    (expr : Expr) :
    nesting.run endColumn lexemes ≠ .ok expr := by
  induction lexemes generalizing nesting with
  | nil =>
      rcases nesting with ⟨groups, content⟩
      rcases blocked with ⟨group, member, -⟩
      cases groups with
      | nil => simp at member
      | cons innermost around => simp [run, finish]
  | cons lexeme rest hypothesis =>
      intro succeeds
      rcases bind_eq_ok_iff.mp succeeds with ⟨next, reading, following⟩
      rw [read] at reading
      split at reading
      · exact hypothesis (blocked.readToken reading) following
      · cases reading

/-! ## Groups that can close -/

theorem exists_readTokens_closing
    {groups : List OpenGroup}
    (awaiting : ∀ group ∈ groups, group.before.AwaitsOperand)
    (series : Series)
    {found : List (Placed Token)}
    (items : found.map Placed.item = List.replicate groups.length .rightParen) :
    ∃ last : Series,
      readTokens ⟨groups, .complete series⟩ found =
        .ok ⟨[], .complete last⟩ := by
  induction groups generalizing series found with
  | nil =>
      have nothing : found = [] := by simpa using items
      subst nothing
      exact ⟨series, rfl⟩
  | cons group around hypothesis =>
      rcases List.map_eq_cons_iff.mp items with
        ⟨closing, others, rfl, closingItem, otherItems⟩
      have groupAwaits : group.before.AwaitsOperand := awaiting group (by simp)
      rcases groupAwaits.exists_complete series.tree group.openedAt with
        ⟨grown, added⟩
      have aroundAwaits : ∀ outer ∈ around, outer.before.AwaitsOperand := by
        intro outer member
        exact awaiting outer (by simp [member])
      rcases hypothesis aroundAwaits grown otherItems with ⟨last, reading⟩
      refine ⟨last, ?_⟩
      have closed :
          readToken ⟨group :: around, .complete series⟩ .rightParen
              closing.start =
            .ok ⟨around, .complete grown⟩ := by
        simp [readToken, Content.close, added, bind, Except.bind, pure,
          Except.pure]
      rw [readTokens, closingItem, closed]
      exact reading

/-- The characters that complete what has been read. -/
def completion (nesting : Nesting) : List Char :=
  match nesting.content with
  | .complete _ => List.replicate nesting.openGroups.length ')'
  | _ => '0' :: List.replicate nesting.openGroups.length ')'

theorem exists_lexed_closing
    (count consumed : Nat) :
    ∃ found : List (Placed Token),
      Lexed consumed (List.replicate count ')') (found.map Placed.lexeme) ∧
        found.map Placed.item = List.replicate count .rightParen := by
  induction count generalizing consumed with
  | zero => exact ⟨[], .blank .nil, rfl⟩
  | succ count hypothesis =>
      rcases hypothesis (consumed + 1) with ⟨found, cut, items⟩
      refine ⟨⟨.rightParen, consumed + 1, consumed + 1⟩ :: found, ?_, ?_⟩
      · have alone : EndsRun ')' (List.replicate count ')') := by
          intro character _
          exact Token.joins_rightParen
        exact Lexed.single (by decide) alone cut
      · rw [List.map_cons, items]
        rfl

/--
Behind a state whose groups can all close there is text that gives a tree.
-/
theorem exists_run_completion
    {nesting : Nesting}
    (awaiting : ∀ group ∈ nesting.openGroups, group.before.AwaitsOperand)
    (consumed : Nat) :
    ∃ lexemes, Lexed consumed nesting.completion lexemes ∧
      ∀ endColumn, ∃ expr, nesting.run endColumn lexemes = .ok expr := by
  rcases nesting with ⟨groups, content⟩
  have closes :
      ∀ (series : Series) (found : List (Placed Token)),
        found.map Placed.item = List.replicate groups.length .rightParen →
          ∀ endColumn, ∃ expr,
            run endColumn ⟨groups, .complete series⟩ (found.map Placed.lexeme) =
              .ok expr := by
    intro series found items endColumn
    rcases exists_readTokens_closing awaiting series items with ⟨last, reading⟩
    refine ⟨last.tree, run_eq_ok_iff.mpr ⟨found, rfl, ?_⟩⟩
    rw [reading]
    rfl
  -- a content that awaits an operand gets a literal before the parentheses
  have literal :
      content.AwaitsOperand →
        ∃ lexemes,
          Lexed consumed ('0' :: List.replicate groups.length ')') lexemes ∧
            ∀ endColumn,
              ∃ expr, run endColumn ⟨groups, content⟩ lexemes = .ok expr := by
    intro awaits
    rcases exists_lexed_closing groups.length (consumed + 1) with
      ⟨found, cut, items⟩
    have ends : EndsRun '0' (List.replicate groups.length ')') := by
      intro character member
      have isParen : character = ')' :=
        List.eq_of_mem_replicate (List.mem_of_mem_head? member)
      subst isParen
      rfl
    rcases awaits.exists_complete (.number 0) (consumed + 1) with
      ⟨series, added⟩
    refine ⟨_, Lexed.single (by decide) ends cut, ?_⟩
    intro endColumn
    have first :
        read ⟨groups, content⟩ (Cursor.lexemeAt (consumed + 1) '0' []) =
          .ok ⟨groups, .complete series⟩ := by
      change ((content.addOperand (.number 0) (consumed + 1)).map _) = _
      rw [added]
      rfl
    rw [run, first]
    exact closes series found items endColumn
  cases content with
  | complete series =>
      rcases exists_lexed_closing groups.length consumed with
        ⟨found, cut, items⟩
      exact ⟨found.map Placed.lexeme, cut, closes series found items⟩
  | empty => exact literal trivial
  | dangling series operator => exact literal trivial

end Nesting

/-! ## Formulas whose parenthesis is open -/

theorem Nesting.exists_readTokens_of_unclosed
    {text : String}
    {column : Nat}
    (unclosed : parse text = .error ⟨.unclosedParen, column⟩) :
    ∃ (found : List (Placed Token)) (last : Nesting),
      (Cursor.ofText text).lexemes = found.map Placed.lexeme ∧
        start.readTokens found = .ok last := by
  rcases exists_tokens_or_fault text with
    ⟨found, allTokens⟩ | ⟨found, faulty, rest, fault, split, item⟩
  · rw [parse_of_tokens allTokens] at unclosed
    rcases bind_eq_error_iff.mp unclosed with failed | ⟨last, reading, -⟩
    · exact absurd rfl (fault_ne_of_readTokens failed).2
    · exact ⟨found, last, tokens_eq_ok_iff.mp allTokens, reading⟩
  · rw [parse_of_fault split item] at unclosed
    rcases bind_eq_error_iff.mp unclosed with failed | ⟨last, -, met⟩
    · exact absurd rfl (fault_ne_of_readTokens failed).2
    · cases met

theorem isUnclosed_iff
    {text : String} :
    (calculate text).isUnclosed = true ↔
      ∃ column, parse text = .error ⟨.unclosedParen, column⟩ := by
  cases parsed : parse text with
  | ok expr =>
      rw [calculate_of_parse_ok parsed]
      cases expr.value <;> simp [Except.mapError, Outcome.isUnclosed]
  | error error =>
      rw [calculate_of_parse_error parsed]
      rcases error with ⟨fault, column⟩
      cases fault <;> simp [Outcome.isUnclosed, FormulaError.ofSyntax]

theorem parse_append_space
    {text : String}
    {found : List (Placed Token)}
    {last : Nesting}
    (allTokens : (Cursor.ofText text).lexemes = found.map Placed.lexeme)
    (reading : Nesting.start.readTokens found = .ok last)
    (more : String) :
    parse (text ++ " " ++ more) =
      last.run (Cursor.ofText (text ++ " " ++ more)).endColumn
        (Cursor.lexemes ⟨more.toList, text.length + 1⟩) := by
  rw [parse, Cursor.parse, lexemes_append_space, allTokens, Nesting.run_lexemes,
    reading]
  rfl

/--
A formula that fails only because a parenthesis is open can be completed exactly
if none of its open parentheses follows a number or a closing parenthesis.
-/
theorem unclosed_completable_iff
    (text : String)
    (unclosed : (calculate text).isUnclosed = true) :
    ∃ found, tokens text = .ok found ∧
      ((∃ more expr, parse (text ++ " " ++ more) = .ok expr) ↔
        ¬ OpensMisplaced (found.map Placed.item)) := by
  rcases isUnclosed_iff.mp unclosed with ⟨column, failed⟩
  rcases Nesting.exists_readTokens_of_unclosed failed with
    ⟨found, last, allTokens, reading⟩
  have spelled : last.Spelled (found.map Placed.item) :=
    Nesting.spelled_start.readTokens reading
  refine ⟨found, tokens_eq_ok_iff.mpr allTokens, ?_⟩
  rw [← spelled.blocked_iff]
  constructor
  · rintro ⟨more, expr, parsed⟩ blocked
    rw [parse_append_space allTokens reading] at parsed
    exact blocked.run_ne_ok _ _ _ parsed
  · intro free
    have awaiting : ∀ group ∈ last.openGroups, group.before.AwaitsOperand := by
      intro group member
      by_contra misplaced
      exact free ⟨group, member, misplaced⟩
    rcases Nesting.exists_run_completion awaiting (text.length + 1) with
      ⟨lexemes, cut, completes⟩
    rcases completes
      (Cursor.ofText
        (text ++ " " ++ String.ofList last.completion)).endColumn with
      ⟨expr, succeeds⟩
    refine ⟨String.ofList last.completion, expr, ?_⟩
    rw [parse_append_space allTokens reading, String.toList_ofList,
      lexed_iff.mp cut]
    exact succeeds

/--
The open group stands behind an operator, so more text completes the formula.
-/
theorem open_sum_completable :
    (calculate "2*(3+").isUnclosed = true ∧
      ∃ more expr, parse ("2*(3+" ++ " " ++ more) = .ok expr := by
  have unclosed : (calculate "2*(3+").isUnclosed = true := by decide +kernel
  have lexed :
      (Cursor.ofText "2*(3+").lexemes =
        List.map Placed.lexeme
          [⟨.number 2, 1, 1⟩, ⟨.operator .multiply, 2, 2⟩, ⟨.leftParen, 3, 3⟩,
            ⟨.number 3, 4, 4⟩, ⟨.operator .add, 5, 5⟩] := by
    decide +kernel
  rcases unclosed_completable_iff "2*(3+" unclosed with
    ⟨found, allTokens, completable⟩
  rw [tokens_eq_ok_iff.mpr lexed, Except.ok.injEq] at allTokens
  subst allTokens
  refine ⟨unclosed, completable.mpr ?_⟩
  change ¬ OpensMisplaced
    ([.number 2, .operator .multiply] ++ .leftParen ::
      [.number 3, .operator .add])
  rw [opensMisplaced_append_iff (fun _ => rfl)]
  rintro (⟨before, after, split, -⟩ | misplaced)
  · have member : Token.leftParen ∈ before ++ .leftParen :: after := by simp
    rw [← split] at member
    simp at member
  · exact misplaced (by simp [TakesOperand])

/--
A parenthesis after a number is only reported as open, but nothing
completes the formula.
-/
theorem one_before_open_paren :
    ¬ ∀ text : String, (calculate text).isUnclosed = true →
      ∃ more expr, parse (text ++ " " ++ more) = .ok expr := by
  intro completable
  rcases completable "1 (2" (by decide +kernel) with ⟨more, expr, parsed⟩
  have allTokens :
      (Cursor.ofText "1 (2").lexemes =
        List.map Placed.lexeme
          [⟨.number 1, 1, 1⟩, ⟨.leftParen, 3, 3⟩, ⟨.number 2, 4, 4⟩] := by
    decide +kernel
  have blocked :
      Nesting.Blocked
        ⟨[⟨3, .complete (.operand (.number 1))⟩],
          .complete (.operand (.number 2))⟩ :=
    ⟨⟨3, .complete (.operand (.number 1))⟩, by simp,
      by simp [Content.AwaitsOperand]⟩
  rw [parse_append_space allTokens rfl] at parsed
  exact blocked.run_ne_ok _ _ _ parsed

end Reckoner
