import Reckoner.Nesting
import Reckoner.Proofs.Grammar
import Reckoner.Proofs.MaximalMunch
import Reckoner.Proofs.Sequencing

/-!
# What is read and what the grammar gives

Tokens are read one by one into open groups and the content of the innermost of
them.  The relation `Nesting.Spelled` says which tokens such a state stands for:
between two parentheses that are still open stands what was read of the group
around, a series of factors or a part of one.  Every token that is read keeps
the relation, so a tree that is read is one that the grammar gives.

Conversely the tokens of a factor are read as one operand, wherever it stands.
`parse_eq_ok_iff_derives` puts the two together.
-/

namespace Reckoner

/-- The lexeme that a token at its columns is. -/
def Placed.lexeme (placed : Placed Token) : Lexeme :=
  ⟨.ok placed.item, placed.start, placed.stop⟩

/-! ## Tokens without faults between them -/

theorem Placed.token_eq_ok_iff
    {lexeme : Lexeme}
    {placed : Placed Token} :
    lexeme.token = .ok placed ↔ lexeme = placed.lexeme := by
  rcases lexeme with ⟨item, start, stop⟩
  rcases placed with ⟨token, tokenStart, tokenStop⟩
  cases item <;> simp [Placed.token, Placed.lexeme]

theorem mapM_token_eq_ok_iff
    {lexemes : List Lexeme}
    {found : List (Placed Token)} :
    lexemes.mapM Placed.token = .ok found ↔
      lexemes = found.map Placed.lexeme := by
  induction lexemes generalizing found with
  | nil => cases found <;> simp [pure, Except.pure]
  | cons lexeme rest hypothesis =>
      rw [List.mapM_cons]
      constructor
      · intro succeeds
        rcases bind_eq_ok_iff.mp succeeds with ⟨placed, first, following⟩
        rcases bind_eq_ok_iff.mp following with ⟨others, succeeding, together⟩
        cases together
        rw [List.map_cons, ← Placed.token_eq_ok_iff.mp first,
          ← hypothesis.mp succeeding]
      · intro allTokens
        cases found with
        | nil => cases allTokens
        | cons placed others =>
            rw [List.map_cons, List.cons.injEq] at allTokens
            rw [Placed.token_eq_ok_iff.mpr allTokens.1,
              hypothesis.mpr allTokens.2]
            rfl

theorem tokens_eq_ok_iff
    {text : String}
    {found : List (Placed Token)} :
    tokens text = .ok found ↔
      (Cursor.ofText text).lexemes = found.map Placed.lexeme :=
  mapM_token_eq_ok_iff

theorem exists_placed_of_items
    {lexemes : List Lexeme}
    {run : List Token}
    (items : lexemes.map Placed.item = run.map .ok) :
    ∃ found : List (Placed Token),
      lexemes = found.map Placed.lexeme ∧ found.map Placed.item = run := by
  induction lexemes generalizing run with
  | nil =>
      rw [List.map_nil, eq_comm, List.map_eq_nil_iff] at items
      exact ⟨[], rfl, items.symm⟩
  | cons lexeme rest hypothesis =>
      cases run with
      | nil => cases items
      | cons token more =>
          rw [List.map_cons, List.map_cons, List.cons.injEq] at items
          rcases hypothesis items.2 with ⟨found, rfl, rfl⟩
          refine ⟨⟨token, lexeme.start, lexeme.stop⟩ :: found, ?_, rfl⟩
          rw [List.map_cons, Placed.lexeme, ← items.1]

namespace Nesting

/-- Read tokens one after the other, up to the first fault. -/
def readTokens
    (nesting : Nesting) :
    List (Placed Token) → Except SyntaxError Nesting
  | [] => .ok nesting
  | placed :: rest => do
      let next ← nesting.readToken placed.item placed.start
      next.readTokens rest

theorem readTokens_append
    (nesting : Nesting)
    (front back : List (Placed Token)) :
    nesting.readTokens (front ++ back) =
      (nesting.readTokens front).bind fun next => next.readTokens back := by
  induction front generalizing nesting with
  | nil => rfl
  | cons placed rest hypothesis =>
      rw [List.cons_append, readTokens, readTokens]
      cases nesting.readToken placed.item placed.start with
      | error error => rfl
      | ok next => exact hypothesis next

@[simp]
theorem read_lexeme
    (nesting : Nesting)
    (placed : Placed Token) :
    nesting.read placed.lexeme = nesting.readToken placed.item placed.start :=
  rfl

theorem run_lexemes
    (endColumn : Nat)
    (nesting : Nesting)
    (found : List (Placed Token))
    (rest : List Lexeme) :
    nesting.run endColumn (found.map Placed.lexeme ++ rest) =
      (nesting.readTokens found).bind fun next => next.run endColumn rest := by
  induction found generalizing nesting with
  | nil => rfl
  | cons placed others hypothesis =>
      rw [List.map_cons, List.cons_append, run, readTokens, read_lexeme]
      cases nesting.readToken placed.item placed.start with
      | error error => rfl
      | ok next => exact hypothesis next

/-! ## One token -/

/-- What reading one token at a column does to a state. -/
inductive Step (column : Nat) : Nesting → Token → Nesting → Prop where
  | number {groups : List OpenGroup} {content next : Content} {value : Int64} :
      content.addOperand (.number value) column = .ok next →
      Step column ⟨groups, content⟩ (.number value) ⟨groups, next⟩
  | operator {groups : List OpenGroup} {content next : Content}
      {operator : Operator} :
      content.addOperator operator column = .ok next →
      Step column ⟨groups, content⟩ (.operator operator) ⟨groups, next⟩
  | leftParen {groups : List OpenGroup} {content : Content} :
      Step column ⟨groups, content⟩ .leftParen
        ⟨⟨column, content⟩ :: groups, .empty⟩
  | rightParen {group : OpenGroup} {around : List OpenGroup}
      {content next : Content}
      {expr : Expr} :
      content.close column = .ok expr →
      group.before.addOperand expr group.openedAt = .ok next →
      Step column ⟨group :: around, content⟩ .rightParen ⟨around, next⟩

theorem step_of_readToken
    {nesting next : Nesting}
    {token : Token}
    {column : Nat}
    (reading : nesting.readToken token column = .ok next) :
    Step column nesting token next := by
  rcases nesting with ⟨groups, content⟩
  cases token with
  | number value =>
      rcases map_eq_ok_iff.mp reading with ⟨grown, added, rfl⟩
      exact .number added
  | operator operator =>
      rcases map_eq_ok_iff.mp reading with ⟨grown, added, rfl⟩
      exact .operator added
  | leftParen =>
      cases reading
      exact .leftParen
  | rightParen =>
      cases groups with
      | nil => cases reading
      | cons group around =>
          rcases bind_eq_ok_iff.mp reading with ⟨expr, closed, following⟩
          rcases bind_eq_ok_iff.mp following with ⟨grown, added, together⟩
          cases together
          exact .rightParen closed added

/-! ## Every phrase is read -/

/-- Tokens that are read as one operand, in whatever groups they stand. -/
def ReadAsOperand (run : List Token) (expr : Expr) : Prop :=
  ∀ found : List (Placed Token), found.map Placed.item = run →
    ∀ groups content, ∃ column,
      readTokens ⟨groups, content⟩ found =
        (content.addOperand expr column).map fun next => ⟨groups, next⟩

theorem readAsOperand_number (value : Int64) :
    ReadAsOperand [.number value] (.number value) := by
  intro found items groups content
  rcases List.map_eq_singleton_iff.mp items with ⟨placed, rfl, item⟩
  refine ⟨placed.start, ?_⟩
  rw [readTokens, item, readToken]
  cases content <;> rfl

/-- Operands with operators between them are read as a series. -/
theorem readTokens_series
    {series : Series}
    {run : List Token}
    (spelled : series.Spelled ReadAsOperand run)
    {found : List (Placed Token)}
    (items : found.map Placed.item = run)
    (groups : List OpenGroup) :
    readTokens ⟨groups, .empty⟩ found = .ok ⟨groups, .complete series⟩ := by
  induction spelled generalizing found with
  | operand phrase =>
      rcases phrase found items groups .empty with ⟨column, reading⟩
      rw [reading]
      rfl
  | @link before operator last front back _ phrase hypothesis =>
      rcases List.map_eq_append_iff.mp items with
        ⟨frontFound, others, rfl, frontItems, otherItems⟩
      rcases List.map_eq_cons_iff.mp otherItems with
        ⟨placed, backFound, rfl, item, backItems⟩
      rcases phrase backFound backItems groups (.dangling before operator) with
        ⟨column, reading⟩
      rw [readTokens_append, hypothesis frontItems]
      change readTokens ⟨groups, .complete before⟩ (placed :: backFound) = _
      rw [readTokens, item]
      change readTokens ⟨groups, .dangling before operator⟩ backFound = _
      rw [reading]
      rfl

theorem readAsOperand_group
    {inner : List Token}
    {series : Series}
    (spelled : series.Spelled ReadAsOperand inner) :
    ReadAsOperand (.leftParen :: (inner ++ [.rightParen])) series.tree := by
  intro found items groups content
  rcases List.map_eq_cons_iff.mp items with
    ⟨opening, others, rfl, openingItem, otherItems⟩
  rcases List.map_eq_append_iff.mp otherItems with
    ⟨innerFound, closingFound, rfl, innerItems, closingItems⟩
  rcases List.map_eq_singleton_iff.mp closingItems with
    ⟨closing, rfl, closingItem⟩
  refine ⟨opening.start, ?_⟩
  rw [readTokens, openingItem]
  change readTokens ⟨⟨opening.start, content⟩ :: groups, .empty⟩
    (innerFound ++ [closing]) = _
  rw [readTokens_append, readTokens_series spelled innerItems]
  change readTokens ⟨⟨opening.start, content⟩ :: groups, .complete series⟩
    [closing] = _
  rw [readTokens, closingItem]
  change
    ((content.addOperand series.tree opening.start).bind fun next =>
        Except.ok (⟨groups, next⟩ : Nesting)).bind _ = _
  cases content <;> rfl

/--
What a phrase of each stratum is read as: one operand, or a series with
the same tree.
-/
def ReadAs : Stratum → List Token → Expr → Prop
  | .factor, run, expr => ReadAsOperand run expr
  | .term, run, expr =>
      ∃ series : Series,
        series.Spelled ReadAsOperand run ∧ series.joinLevel 1 = .operand expr
  | .expression, run, expr =>
      ∃ series : Series,
        series.Spelled ReadAsOperand run ∧ series.joinAll = .operand expr

theorem readAs_of_derives
    {stratum : Stratum}
    {run : List Token}
    {expr : Expr}
    (derived : Derives stratum run expr) :
    ReadAs stratum run expr := by
  induction derived with
  | number value => exact readAsOperand_number value
  | group _ hypothesis =>
      rcases hypothesis with ⟨series, spelled, joined⟩
      rw [series.joinAll_eq, Series.operand.injEq] at joined
      subst joined
      exact readAsOperand_group spelled
  | @ofFactor run expr _ hypothesis =>
      exact ⟨.operand expr, .operand hypothesis, rfl⟩
  | @product front back left right operator isProduct _ _ leftHypothesis
        rightHypothesis =>
      rcases leftHypothesis with ⟨series, spelled, joined⟩
      refine ⟨.link series operator right, .link spelled rightHypothesis, ?_⟩
      rw [Series.joinLevel, if_pos (Operator.level_eq_one_iff.mpr isProduct),
        joined]
      rfl
  | @ofTerm run expr _ hypothesis =>
      rcases hypothesis with ⟨series, spelled, joined⟩
      refine ⟨series, spelled, ?_⟩
      change (series.joinLevel 1).joinLevel 2 = _
      rw [joined]
      rfl
  | @sum front back left right operator isSum _ _ leftHypothesis
        rightHypothesis =>
      rcases leftHypothesis with ⟨frontSeries, frontSpelled, frontJoined⟩
      rcases rightHypothesis with ⟨backSeries, backSpelled, backJoined⟩
      have levelTwo : operator.level = 2 := Operator.level_eq_two_iff.mpr isSum
      have notOne : operator.level ≠ 1 := by simp [levelTwo]
      refine
        ⟨frontSeries.append operator backSeries,
          frontSpelled.append backSpelled, ?_⟩
      change
        ((frontSeries.append operator backSeries).joinLevel 1).joinLevel 2 = _
      rw [Series.joinLevel_append notOne, backJoined, Series.append,
        Series.joinLevel, if_pos levelTwo]
      change (frontSeries.joinAll).absorb operator right = _
      rw [frontJoined]
      rfl

theorem finish_of_derives
    {found : List (Placed Token)}
    {expr : Expr}
    (derived : Derives .expression (found.map Placed.item) expr)
    (endColumn : Nat) :
    (start.readTokens found).bind (fun next => next.finish endColumn) =
      .ok expr := by
  rcases readAs_of_derives derived with ⟨series, spelled, joined⟩
  rw [series.joinAll_eq, Series.operand.injEq] at joined
  rw [start, readTokens_series spelled rfl, ← joined]
  rfl

/-! ## Whatever is read is a phrase -/

end Nesting

/-- The tokens that the content of a group stands for. -/
inductive Content.Spelled : Content → List Token → Prop where
  | empty : Spelled .empty []
  | complete {series : Series} {run : List Token} :
      series.Spelled (Derives .factor) run →
      Spelled (.complete series) run
  | dangling {series : Series} {run : List Token} {operator : Operator} :
      series.Spelled (Derives .factor) run →
      Spelled (.dangling series operator) (run ++ [.operator operator])

theorem Content.Spelled.addOperand
    {content next : Content}
    {run phrase : List Token}
    {expr : Expr}
    {column : Nat}
    (spelled : content.Spelled run)
    (derived : Derives .factor phrase expr)
    (added : content.addOperand expr column = .ok next) :
    next.Spelled (run ++ phrase) := by
  cases spelled with
  | empty =>
      cases added
      exact .complete (.operand derived)
  | complete series => cases added
  | dangling series =>
      cases added
      rw [List.append_assoc, List.singleton_append]
      exact .complete (.link series derived)

theorem Content.Spelled.addOperator
    {content next : Content}
    {run : List Token}
    {operator : Operator}
    {column : Nat}
    (spelled : content.Spelled run)
    (added : content.addOperator operator column = .ok next) :
    next.Spelled (run ++ [.operator operator]) := by
  cases spelled with
  | empty => cases added
  | complete series =>
      cases added
      exact .dangling series
  | dangling series => cases added

theorem Content.Spelled.close
    {content : Content}
    {run : List Token}
    {expr : Expr}
    {column : Nat}
    (spelled : content.Spelled run)
    (closed : content.close column = .ok expr) :
    Derives .expression run expr := by
  cases spelled with
  | empty => cases closed
  | complete series =>
      cases closed
      exact series.derives
  | dangling series => cases closed

/--
The tokens that the open groups and the content of the innermost stand for.
-/
inductive Nesting.Spelled : Nesting → List Token → Prop where
  | outermost {content : Content} {run : List Token} :
      content.Spelled run →
      Spelled ⟨[], content⟩ run
  | inner {around : List OpenGroup} {before content : Content} {openedAt : Nat}
      {outer run : List Token} :
      Spelled ⟨around, before⟩ outer →
      content.Spelled run →
      Spelled ⟨⟨openedAt, before⟩ :: around, content⟩
        (outer ++ .leftParen :: run)

namespace Nesting

theorem Spelled.replaceContent
    {groups : List OpenGroup}
    {content next : Content}
    {run added : List Token}
    (spelled : Spelled ⟨groups, content⟩ run)
    (grows : ∀ {inner}, content.Spelled inner → next.Spelled (inner ++ added)) :
    Spelled ⟨groups, next⟩ (run ++ added) := by
  cases spelled with
  | outermost inside => exact .outermost (grows inside)
  | inner outside inside =>
      rw [List.append_assoc, List.cons_append]
      exact .inner outside (grows inside)

/--
Every token that is read is one more of the tokens that the state stands for.
-/
theorem Spelled.readToken
    {nesting next : Nesting}
    {run : List Token}
    {token : Token}
    {column : Nat}
    (spelled : nesting.Spelled run)
    (reading : nesting.readToken token column = .ok next) :
    next.Spelled (run ++ [token]) := by
  cases step_of_readToken reading with
  | number added =>
      exact spelled.replaceContent fun inside =>
        inside.addOperand (.number _) added
  | operator added =>
      exact spelled.replaceContent fun inside => inside.addOperator added
  | leftParen =>
      exact .inner spelled .empty
  | rightParen closed added =>
      cases spelled with
      | inner outside inside =>
          rw [List.append_assoc, List.cons_append]
          exact outside.replaceContent fun beside =>
            beside.addOperand (.group (inside.close closed)) added

theorem Spelled.readTokens
    {nesting next : Nesting}
    {run : List Token}
    {found : List (Placed Token)}
    (spelled : nesting.Spelled run)
    (reading : nesting.readTokens found = .ok next) :
    next.Spelled (run ++ found.map Placed.item) := by
  induction found generalizing nesting run with
  | nil =>
      cases reading
      simpa using spelled
  | cons placed others hypothesis =>
      rcases bind_eq_ok_iff.mp reading with ⟨following, first, succeeding⟩
      have grown := hypothesis (spelled.readToken first) succeeding
      simpa using grown

theorem spelled_start : start.Spelled [] :=
  .outermost .empty

theorem Spelled.finish
    {nesting : Nesting}
    {run : List Token}
    {expr : Expr}
    {column : Nat}
    (spelled : nesting.Spelled run)
    (finished : nesting.finish column = .ok expr) :
    Derives .expression run expr := by
  cases spelled with
  | outermost inside => exact inside.close finished
  | inner outside inside => cases finished

/-! ## Whole runs -/

theorem exists_tokens
    (lexemes : List Lexeme) :
    ∃ (found : List (Placed Token)) (rest : List Lexeme),
      lexemes = found.map Placed.lexeme ++ rest ∧
      ∀ lexeme ∈ rest.head?, ∃ fault, lexeme.item = .error fault := by
  induction lexemes with
  | nil => exact ⟨[], [], rfl, by simp⟩
  | cons lexeme others hypothesis =>
      cases item : lexeme.item with
      | error fault =>
          exact ⟨[], lexeme :: others, rfl, by simp [item]⟩
      | ok token =>
          rcases hypothesis with ⟨found, rest, rfl, stops⟩
          refine ⟨⟨token, lexeme.start, lexeme.stop⟩ :: found, rest, ?_, stops⟩
          rw [List.map_cons, List.cons_append, Placed.lexeme, ← item]

/-- A run that gives a tree has read tokens only, and then their end. -/
theorem run_eq_ok_iff
    {endColumn : Nat}
    {nesting : Nesting}
    {lexemes : List Lexeme}
    {expr : Expr} :
    nesting.run endColumn lexemes = .ok expr ↔
      ∃ found, lexemes = found.map Placed.lexeme ∧
        (nesting.readTokens found).bind (fun next => next.finish endColumn) =
          .ok expr := by
  constructor
  · intro succeeds
    rcases exists_tokens lexemes with ⟨found, rest, rfl, stops⟩
    rw [run_lexemes] at succeeds
    cases rest with
    | nil => exact ⟨found, List.append_nil _, succeeds⟩
    | cons lexeme others =>
        rcases stops lexeme rfl with ⟨fault, item⟩
        rcases bind_eq_ok_iff.mp succeeds with ⟨next, -, faulty⟩
        rw [run, read, item] at faulty
        cases faulty
  · rintro ⟨found, rfl, succeeds⟩
    rw [← List.append_nil (found.map Placed.lexeme), run_lexemes]
    exact succeeds

end Nesting

/-! ## The grammar and the trees of texts -/

/-- The grammar gives at most one tree to the same tokens. -/
theorem Derives.eq_of_derives
    {stratum other : Stratum}
    {run : List Token}
    {first second : Expr}
    (firstDerived : Derives stratum run first)
    (secondDerived : Derives other run second) :
    first = second := by
  -- the tokens are read into one tree, at whatever columns they stand
  let found : List (Placed Token) := run.map fun token => ⟨token, 0, 0⟩
  have items : found.map Placed.item = run := by
    simp [found, Function.comp_def]
  have firstRead :=
    Nesting.finish_of_derives (items ▸ firstDerived.expression) 0
  have secondRead :=
    Nesting.finish_of_derives (items ▸ secondDerived.expression) 0
  exact Except.ok.inj (firstRead.symm.trans secondRead)

theorem parse_eq_ok_of_derives
    {text : String}
    {found : List (Placed Token)}
    {expr : Expr}
    (split : tokens text = .ok found)
    (derived : Derives .expression (found.map Placed.item) expr) :
    parse text = .ok expr :=
  Nesting.run_eq_ok_iff.mpr
    ⟨found, tokens_eq_ok_iff.mp split, Nesting.finish_of_derives derived _⟩

theorem exists_derives_of_parse
    {text : String}
    {expr : Expr}
    (parsed : parse text = .ok expr) :
    ∃ found,
      tokens text = .ok found ∧
        Derives .expression (found.map Placed.item) expr := by
  rcases Nesting.run_eq_ok_iff.mp parsed with ⟨found, allTokens, succeeds⟩
  refine ⟨found, tokens_eq_ok_iff.mpr allTokens, ?_⟩
  rcases bind_eq_ok_iff.mp succeeds with ⟨last, reading, finished⟩
  have spelled := Nesting.spelled_start.readTokens reading
  exact spelled.finish finished

theorem toInt_nonneg_of_parse
    {text : String}
    {expr : Expr}
    (parsed : parse text = .ok expr)
    {leaf : Int64}
    (member : leaf ∈ expr.leaves) :
    0 ≤ leaf.toInt := by
  rcases exists_derives_of_parse parsed with ⟨found, split, derived⟩
  rw [derived.leaves_eq] at member
  rcases List.mem_filterMap.mp member with ⟨token, inRun, isNumber⟩
  rcases List.mem_map.mp inRun with ⟨placed, inFound, rfl⟩
  cases item : placed.item with
  | number value =>
      rw [item] at isNumber
      cases isNumber
      have inLexemes : placed.lexeme ∈ (Cursor.ofText text).lexemes := by
        rw [tokens_eq_ok_iff.mp split]
        exact List.mem_map_of_mem inFound
      exact toInt_nonneg_of_lexeme inLexemes (congrArg Except.ok item)
  | leftParen => simp [item, Token.number?] at isNumber
  | rightParen => simp [item, Token.number?] at isNumber
  | operator operator => simp [item, Token.number?] at isNumber

/--
A text is read into a tree exactly if it splits into tokens to which the grammar
gives that tree.  The grammar gives no two trees to the same tokens: sums group
to the left, and so do products, which bind more tightly.  Every leaf is a
number that a literal can write.
-/
theorem parse_eq_ok_iff_derives (text : String) (expr : Expr) :
    (parse text = .ok expr ↔
      ∃ found, tokens text = .ok found ∧
        Derives .expression (found.map Placed.item) expr) ∧
    (∀ run other,
      Derives .expression run expr → Derives .expression run other →
        other = expr) ∧
    (∀ front back left right operator,
      Derives .expression front left →
      operator = .add ∨ operator = .subtract →
      Derives .term back right →
        (Derives .expression (front ++ .operator operator :: back) expr ↔
          expr = .binary left operator right)) ∧
    (∀ front back left right operator,
      Derives .term front left →
      operator = .multiply ∨ operator = .divide →
      Derives .factor back right →
        (Derives .expression (front ++ .operator operator :: back) expr ↔
          expr = .binary left operator right)) ∧
    (∀ front middle back left centre right loose tight,
      Derives .expression front left →
      loose = .add ∨ loose = .subtract →
      Derives .term middle centre →
      tight = .multiply ∨ tight = .divide →
      Derives .factor back right →
        (Derives .expression
            (front ++ .operator loose :: (middle ++ .operator tight :: back))
            expr ↔
          expr = .binary left loose (.binary centre tight right))) ∧
    (parse text = .ok expr →
      ∀ leaf ∈ expr.leaves,
        0 ≤ leaf.toInt ∧ leaf.toInt ≤ 9223372036854775807) := by
  have tree_iff :
      ∀ {run tree}, Derives .expression run tree →
        (Derives .expression run expr ↔ expr = tree) := by
    intro run tree derived
    constructor
    · intro other
      exact other.eq_of_derives derived
    · rintro rfl
      exact derived
  refine ⟨⟨exists_derives_of_parse, ?_⟩, ?_, ?_, ?_, ?_, ?_⟩
  · rintro ⟨found, split, derived⟩
    exact parse_eq_ok_of_derives split derived
  · intro run other derived otherDerived
    exact otherDerived.eq_of_derives derived
  · intro front back left right operator leftDerived isSum rightDerived
    exact tree_iff (.sum isSum leftDerived rightDerived)
  · intro front back left right operator leftDerived isProduct rightDerived
    exact tree_iff (.ofTerm (.product isProduct leftDerived rightDerived))
  · intro front middle back left centre right loose tight leftDerived isSum
      centreDerived
      isProduct rightDerived
    exact tree_iff
      (.sum isSum leftDerived (.product isProduct centreDerived rightDerived))
  · intro parsed leaf member
    exact ⟨toInt_nonneg_of_parse parsed member, leaf.toInt_le⟩

end Reckoner
