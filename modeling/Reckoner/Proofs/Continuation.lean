import Reckoner.Proofs.Completion
import Reckoner.Proofs.Diagnosis
import Reckoner.Proofs.Dialogue
import Reckoner.Proofs.InStep
import Reckoner.Program

/-!
# Formulas on several lines

A session goes on reading as long as a formula fails only because a parenthesis
is open.  So a formula may be typed on several lines if each beginning of it, up
to the end of a line, fails in this way and in no other.  It does wherever more
parentheses open than close: the tokens of the beginning are read as they are in
the whole formula, and then an open group is left.

What is gathered from the lines is not the formula itself, because the white
space at their ends is dropped.  Both have the same items, and that is all that
counts.

`evaluate_pieces` is the main theorem.  Which lines are taken is the same for
all sessions; what is printed is stated for those that print nothing else.
-/

namespace Reckoner

/-! ## The characters of a formula -/

/-- A character that belongs to a token. -/
inductive IsFormulaCharacter (character : Char) : Prop where
  | paren : character ∈ ['(', ')'] → IsFormulaCharacter character
  | digit : IsDigit character → IsFormulaCharacter character
  | operator : IsOperatorCharacter character → IsFormulaCharacter character

namespace IsFormulaCharacter

variable {character : Char}

/--
They lie between the opening parenthesis and the digit nine, and the
full stop is none.
-/
theorem bounds (belongs : IsFormulaCharacter character) :
    40 ≤ character.toNat ∧ character.toNat ≤ 57 ∧ character.toNat ≠ 46 := by
  cases belongs with
  | paren member =>
      simp only [List.mem_cons, List.not_mem_nil, or_false] at member
      rcases member with rfl | rfl <;> decide
  | digit digit =>
      have low : 48 ≤ character.toNat := digit.1
      have high : character.toNat ≤ 57 := digit.2
      omega
  | operator symbol =>
      simp only [IsOperatorCharacter, List.mem_cons, List.not_mem_nil,
        or_false] at symbol
      rcases symbol with rfl | rfl | rfl | rfl <;> decide

theorem isSpace_eq_false (belongs : IsFormulaCharacter character) :
    Blank.isSpace character = false := by
  have bounds := belongs.bounds
  simp only [Blank.isSpace, Bool.or_eq_false_iff, Bool.and_eq_false_iff,
    decide_eq_false_iff_not, beq_eq_false_iff_ne, ne_eq]
  omega

end IsFormulaCharacter

theorem ne_paren_of_joins
    {first character : Char}
    (joined : Token.joins first character = true) :
    character ≠ '(' ∧ character ≠ ')' := by
  rcases joins_iff.mp joined with ⟨-, digit⟩ | ⟨-, symbol⟩
  · exact digit.ne_paren
  · exact symbol.ne_paren

/--
A token is written by a parenthesis alone, by digits or by operator characters.
-/
theorem class_of_ofRun
    {first : Char}
    {others : List Char}
    {token : Token}
    (found : Token.ofRun first others = .ok token) :
    (first = '(' ∧ token = .leftParen) ∨ (first = ')' ∧ token = .rightParen) ∨
      (IsDigit first ∧ ∃ value, token = .number value) ∨
        (IsOperatorCharacter first ∧
          ∃ operator, token = .operator operator) := by
  by_cases left : first = '('
  · subst left
    exact Or.inl ⟨rfl, (Except.ok.inj found).symm⟩
  by_cases right : first = ')'
  · subst right
    exact Or.inr (Or.inl ⟨rfl, (Except.ok.inj found).symm⟩)
  by_cases digit : IsDigit first
  · exact Or.inr (Or.inr (Or.inl ⟨digit, exists_number_of_ofRun digit found⟩))
  by_cases symbol : IsOperatorCharacter first
  · exact Or.inr
      (Or.inr (Or.inr ⟨symbol, (exists_operator_of_ofRun symbol found).2⟩))
  rw [Token.ofRun, if_neg left, if_neg right, if_neg (mt isDigit_iff.mp digit),
    if_neg (mt isSymbol_iff.mp symbol)] at found
  cases found

theorem isFormulaCharacter_of_ofRun
    {first : Char}
    {others : List Char}
    {token : Token}
    (joined : ∀ character ∈ others, Token.joins first character = true)
    (found : Token.ofRun first others = .ok token) :
    ∀ character ∈ first :: others, IsFormulaCharacter character := by
  intro character member
  rcases List.mem_cons.mp member with rfl | inOthers
  · rcases class_of_ofRun found with
      ⟨rfl, -⟩ | ⟨rfl, -⟩ | ⟨digit, -⟩ | ⟨symbol, -⟩
    · exact .paren (by simp)
    · exact .paren (by simp)
    · exact .digit digit
    · exact .operator symbol
  · rcases joins_iff.mp (joined character inOthers) with
      ⟨-, digit⟩ | ⟨-, symbol⟩
    · exact .digit digit
    · exact .operator symbol

/-- The parentheses among the characters of a token are those of the token. -/
theorem count_paren_of_ofRun
    {first : Char}
    {others : List Char}
    {token : Token}
    (joined : ∀ character ∈ others, Token.joins first character = true)
    (found : Token.ofRun first others = .ok token) :
    (first :: others).count '(' = [token].count .leftParen ∧
      (first :: others).count ')' = [token].count .rightParen := by
  have noLeft : others.count '(' = 0 :=
    List.count_eq_zero.mpr fun member =>
      (ne_paren_of_joins (joined _ member)).1 rfl
  have noRight : others.count ')' = 0 :=
    List.count_eq_zero.mpr fun member =>
      (ne_paren_of_joins (joined _ member)).2 rfl
  simp only [List.count_cons, List.count_nil, noLeft, noRight]
  rcases class_of_ofRun found with
    ⟨rfl, rfl⟩ | ⟨rfl, rfl⟩ | ⟨digit, value, rfl⟩ | ⟨symbol, operator, rfl⟩
  · decide
  · decide
  · simp [digit.ne_paren]
  · simp [symbol.ne_paren]

/-- All that is read is tokens. -/
def OnlyTokens (items : List (Except TokenFault Token)) : Prop :=
  ∃ run : List Token, items = run.map .ok

theorem onlyTokens_append_iff
    {front back : List (Except TokenFault Token)} :
    OnlyTokens (front ++ back) ↔ OnlyTokens front ∧ OnlyTokens back := by
  constructor
  · rintro ⟨run, split⟩
    rcases List.map_eq_append_iff.mp split.symm with
      ⟨first, second, -, rfl, rfl⟩
    exact ⟨⟨first, rfl⟩, ⟨second, rfl⟩⟩
  · rintro ⟨⟨first, rfl⟩, ⟨second, rfl⟩⟩
    exact ⟨first ++ second, List.map_append.symm⟩

theorem Lexed.isFormulaCharacter
    {consumed : Nat}
    {characters : List Char}
    {lexemes : List Lexeme}
    (cut : Lexed consumed characters lexemes)
    (readable : OnlyTokens (lexemes.map Placed.item)) :
    ∀ character ∈ characters,
      character = ' ' ∨ IsFormulaCharacter character := by
  induction cut with
  | blank isGap => exact fun character member => Or.inl (isGap character member)
  | @run consumed gap first others rest lexemes isGap visible joined ends _
        hypothesis =>
      rcases readable with ⟨run, items⟩
      rcases List.map_eq_cons_iff.mp items.symm with
        ⟨token, more, rfl, found, following⟩
      intro character member
      rw [← List.cons_append, List.mem_append, List.mem_append] at member
      rcases member with inGap | inRun | inRest
      · exact Or.inl (isGap character inGap)
      · exact Or.inr
          (isFormulaCharacter_of_ofRun joined found.symm character inRun)
      · exact hypothesis ⟨more, following.symm⟩ character inRest

/--
The parentheses among the characters of a text are those among its tokens.
-/
theorem Lexed.count_paren
    {consumed : Nat}
    {characters : List Char}
    {lexemes : List Lexeme}
    {run : List Token}
    (cut : Lexed consumed characters lexemes)
    (items : lexemes.map Placed.item = run.map .ok) :
    characters.count '(' = run.count .leftParen ∧
      characters.count ')' = run.count .rightParen := by
  have noneIn :
      ∀ {gap : List Char},
        IsGap gap → gap.count '(' = 0 ∧ gap.count ')' = 0 := by
    intro gap isGap
    constructor
    · exact List.count_eq_zero.mpr fun member =>
        absurd (isGap _ member) (by decide)
    · exact List.count_eq_zero.mpr fun member =>
        absurd (isGap _ member) (by decide)
  induction cut generalizing run with
  | blank isGap =>
      obtain rfl : run = [] := by simpa using items.symm
      exact noneIn isGap
  | @run consumed gap first others rest lexemes isGap visible joined ends _
        hypothesis =>
      rcases List.map_eq_cons_iff.mp items.symm with
        ⟨token, more, rfl, found, following⟩
      have ofRun := count_paren_of_ofRun joined found.symm
      have ofRest := hypothesis following.symm
      rw [← List.cons_append]
      change
        _ = List.count _ ([token] ++ more) ∧ _ = List.count _ ([token] ++ more)
      simp only [List.count_append, noneIn isGap, ofRun, ofRest, Nat.zero_add,
        and_self]

/--
How many parentheses are open is the difference between those of the two kinds.
-/
theorem openAfter_add_count
    {count after : Nat}
    {run : List Token}
    (stays : openAfter count run = some after) :
    after + run.count .rightParen = count + run.count .leftParen := by
  induction run generalizing count with
  | nil =>
      simp only [openAfter, Option.some.injEq] at stays
      rw [stays]
      rfl
  | cons token rest hypothesis =>
      cases token with
      | leftParen =>
          have following := hypothesis stays
          simp
          omega
      | rightParen =>
          cases count with
          | zero => cases stays
          | succ count =>
              have following := hypothesis stays
              simp
              omega
      | number value =>
          have following := hypothesis stays
          simpa using following
      | operator operator =>
          have following := hypothesis stays
          simpa using following

/-! ## Beginnings of formulas -/

/-- More parentheses open in a text than close in it. -/
def LeavesOpen (front : String) : Prop :=
  front.toList.count ')' < front.toList.count '('

/-- A text is refused for the last of its parentheses that stay open. -/
def UnclosedAtLast (text : String) : Prop :=
  ∃ before opening after,
    tokens text = .ok (before ++ opening :: after) ∧
      opening.item = .leftParen ∧
      ¬ ClosedIn (after.map Placed.item) ∧
      AllClosed after ∧
      parse text = .error ⟨.unclosedParen, opening.start⟩

/--
The beginning of a run of tokens that can be read can be read itself,
at any columns.
-/
theorem exists_readTokens_front
    {found front : List (Placed Token)}
    {last : Nesting}
    {rest : List Token}
    (reading : Nesting.start.readTokens found = .ok last)
    (items : found.map Placed.item = front.map Placed.item ++ rest) :
    ∃ next, Nesting.start.readTokens front = .ok next := by
  rcases List.map_eq_append_iff.mp items with ⟨first, second, rfl, sameItems, -⟩
  rw [Nesting.readTokens_append] at reading
  rcases bind_eq_ok_iff.mp reading with ⟨middle, firstReading, -⟩
  -- both beginnings are read in step, and the first of them is read
  have together :=
    Nesting.InStep.start.readTokens respected_eq
      (forall₂_inStep_of_items sameItems)
  rw [firstReading] at together
  cases readFront : Nesting.start.readTokens front with
  | ok next => exact ⟨next, rfl⟩
  | error error =>
      rw [readFront] at together
      cases together

/--
A text whose tokens begin a formula is refused for a parenthesis
that stays open.
-/
theorem unclosedAtLast_of_items
    {text front : String}
    {expr : Expr}
    {rest : List (Except TokenFault Token)}
    (parsed : parse text = .ok expr)
    (begins : itemsOf text = itemsOf front ++ rest)
    (staysOpen : LeavesOpen front) :
    UnclosedAtLast front := by
  rcases Nesting.run_eq_ok_iff.mp parsed with ⟨found, allTokens, succeeds⟩
  rcases bind_eq_ok_iff.mp succeeds with ⟨last, reading, -⟩
  have whole := itemsOf_eq_iff.mpr ⟨found, tokens_eq_ok_iff.mpr allTokens, rfl⟩
  rw [begins] at whole
  rcases List.map_eq_append_iff.mp whole.symm with
    ⟨run, others, split, items, -⟩
  rcases itemsOf_eq_iff.mp items.symm with ⟨frontFound, frontTokens, rfl⟩
  rcases exists_readTokens_front reading split with ⟨next, frontReading⟩
  have traced : next.Traced frontFound :=
    Nesting.traced_start.readTokens frontReading
  have counts := (lexed_lexemes 0 front.toList).count_paren items.symm
  have balance := openAfter_add_count traced.spelled.openAfter_eq
  rcases next with ⟨groups, content⟩
  cases groups with
  | nil =>
      -- as many parentheses close as open
      rw [LeavesOpen, counts.1, counts.2] at staysOpen
      simp only [List.length_nil] at balance
      omega
  | cons group around =>
      rcases traced.exists_opening with
        ⟨outer, opening, inner, rfl, opens, openedAt, -, balanced⟩
      refine
        ⟨outer, opening, inner, frontTokens, opens, balanced.not_closedIn,
          balanced.allClosed, ?_⟩
      rw [parse_of_tokens frontTokens, frontReading, ← openedAt]
      rfl

/-- Whether a text leaves a parenthesis open shows in its tokens. -/
theorem LeavesOpen.of_items
    {text other : String}
    (staysOpen : LeavesOpen text)
    (readable : OnlyTokens (itemsOf text))
    (same : itemsOf other = itemsOf text) :
    LeavesOpen other := by
  rcases readable with ⟨run, items⟩
  have counts := (lexed_lexemes 0 text.toList).count_paren items
  have otherCounts :=
    (lexed_lexemes 0 other.toList).count_paren (same.trans items)
  rw [LeavesOpen, counts.1, counts.2] at staysOpen
  rw [LeavesOpen, otherCounts.1, otherCounts.2]
  exact staysOpen

theorem UnclosedAtLast.isUnclosed
    {text : String}
    (unclosed : UnclosedAtLast text) :
    (calculate text).isUnclosed = true := by
  rcases unclosed with ⟨before, opening, after, -, -, -, -, refused⟩
  exact isUnclosed_iff.mpr ⟨opening.start, refused⟩

/-- The beginning of a formula up to a place between two tokens. -/
theorem unclosedAtLast_of_between
    {front back : String}
    {expr : Expr}
    (parsed : parse (front ++ back) = .ok expr)
    (between : Between front.length (Cursor.ofText (front ++ back)).lexemes)
    (staysOpen : LeavesOpen front) :
    UnclosedAtLast front := by
  have cut := lexed_lexemes 0 (front ++ back).toList
  rw [String.toList_append] at cut
  have separated : Separated front.toList back.toList := by
    apply cut.separated_of_between
    rw [Nat.zero_add, String.length_toList]
    rwa [Cursor.ofText, String.toList_append] at between
  exact unclosedAtLast_of_items parsed (itemsOf_append_of_separated separated)
    staysOpen

/-! ## Lines put together -/

theorem joinWords_singleton (word : String) : joinWords [word] = word := by
  simp [joinWords, String.ofList_toList]

theorem joinWords_cons_cons (word next : String) (others : List String) :
    joinWords (word :: next :: others) =
      word ++ " " ++ joinWords (next :: others) := by
  rw [joinWords, joinWords, ← String.toList_inj]
  simp [List.intercalate]

theorem itemsOf_joinWords (word : String) (others : List String) :
    itemsOf (joinWords (word :: others)) =
      itemsOf word ++ others.flatMap itemsOf := by
  induction others generalizing word with
  | nil => rw [joinWords_singleton, List.flatMap_nil, List.append_nil]
  | cons next others hypothesis =>
      rw [joinWords_cons_cons, itemsOf_append_space, hypothesis,
        List.flatMap_cons]

theorem itemsOf_joinLines (formula : String) (more : List String) :
    itemsOf (joinLines formula more) =
      itemsOf formula ++ more.flatMap fun line =>
        itemsOf (Blank.trimRight line) := by
  induction more generalizing formula with
  | nil => rw [joinLines, List.foldl_nil, List.flatMap_nil, List.append_nil]
  | cons line others hypothesis =>
      rw [joinLines, List.foldl_cons, ← joinLines, hypothesis,
        itemsOf_append_space, List.append_assoc, List.flatMap_cons]

/-- White space at the end of a line of tokens is of no account. -/
theorem itemsOf_trimRight
    {line : String}
    (readable : OnlyTokens (itemsOf line)) :
    itemsOf (Blank.trimRight line) = itemsOf line := by
  let blanks : List Char := line.toList.rtakeWhile Blank.isSpace
  have split : Blank.trimRight line ++ String.ofList blanks = line := by
    rw [← String.toList_inj, String.toList_append, Blank.trimRight,
      String.toList_ofList, String.toList_ofList, Blank.dropRight_eq]
    exact List.rdropWhile_append_rtakeWhile
  have isGap : IsGap blanks := by
    intro character member
    have inLine : character ∈ line.toList := by
      rw [← split, String.toList_append, String.toList_ofList]
      exact List.mem_append_right _ member
    rcases (lexed_lexemes 0 line.toList).isFormulaCharacter readable character
      inLine with
      space | belongs
    · exact space
    · have isSpace : Blank.isSpace character = true :=
        List.mem_rtakeWhile_imp member
      rw [belongs.isSpace_eq_false] at isSpace
      cases isSpace
  have nothing : itemsOf (String.ofList blanks) = [] := by
    rw [itemsOf, Cursor.ofText, String.toList_ofList,
      lexed_iff.mp (Lexed.blank isGap)]
    rfl
  have apart :
      Separated (Blank.trimRight line).toList
        (String.ofList blanks).toList := by
    rw [String.toList_ofList]
    exact isGap.separated_left _
  have items := itemsOf_append_of_separated apart
  rw [split, nothing, List.append_nil] at items
  exact items.symm

theorem onlyTokens_of_mem
    {lines : List String}
    {line : String}
    (readable : OnlyTokens (lines.flatMap itemsOf))
    (member : line ∈ lines) :
    OnlyTokens (itemsOf line) := by
  rcases List.append_of_mem member with ⟨before, after, rfl⟩
  rw [List.flatMap_append, List.flatMap_cons] at readable
  exact (onlyTokens_append_iff.mp (onlyTokens_append_iff.mp readable).2).1

/-- Lines that are gathered are read as the line of which they are pieces. -/
theorem itemsOf_joinLines_eq
    {first : String}
    {more : List String}
    (readable : OnlyTokens (itemsOf (joinWords (first :: more)))) :
    itemsOf (joinLines first more) = itemsOf (joinWords (first :: more)) := by
  rw [itemsOf_joinWords] at readable ⊢
  have trimmed :
      more.flatMap (fun line => itemsOf (Blank.trimRight line)) =
        more.flatMap itemsOf := by
    apply List.flatMap_congr
    intro line member
    exact itemsOf_trimRight
      (onlyTokens_of_mem (onlyTokens_append_iff.mp readable).2 member)
  rw [itemsOf_joinLines, trimmed]

/-! ## Pieces of a formula -/

/-- No command is written with the characters of tokens alone. -/
theorem startsFormula_of_onlyTokens
    {line : String}
    (readable : OnlyTokens (itemsOf line))
    (nonblank : Blank.trim line ≠ "") :
    StartsFormula line := by
  have absent :
      ∀ character ∈ ['.', '?'], character ∉ (Blank.trim line).toList := by
    intro character command member
    have inLine := Blank.mem_of_mem_trim member
    rcases (lexed_lexemes 0 line.toList).isFormulaCharacter readable character
      inLine with
      rfl | belongs
    · simp at command
    · have bounds := belongs.bounds
      simp only [List.mem_cons, List.not_mem_nil, or_false] at command
      rcases command with rfl | rfl <;> simp at bounds
  have dot := absent '.' (by simp)
  have question := absent '?' (by simp)
  intro command
  generalize Blank.trim line = name at nonblank dot question command
  simp only [List.mem_cons, List.not_mem_nil, or_false] at command
  rcases command with rfl | rfl | rfl | rfl | rfl | rfl
  · exact nonblank rfl
  all_goals simp at dot question

theorem trim_joinWords_ne_empty
    {first : String}
    (nonblank : Blank.trim first ≠ "")
    (more : List String) :
    Blank.trim (joinWords (first :: more)) ≠ "" := by
  rw [ne_eq, Blank.trim_eq_empty_iff, Blank.isBlank,
    List.all_eq_true] at nonblank ⊢
  intro blank
  apply nonblank
  intro character member
  apply blank
  cases more with
  | nil => rwa [joinWords_singleton]
  | cons next others =>
      rw [joinWords_cons_cons, String.toList_append, String.toList_append]
      exact List.mem_append_left _ (List.mem_append_left _ member)

section Pieces

variable
    {text first : String}
    {more : List String}
    {expr : Expr}

theorem onlyTokens_of_parse
    (parsed : parse text = .ok expr) :
    OnlyTokens (itemsOf text) := by
  rcases exists_derives_of_parse parsed with ⟨found, allTokens, -⟩
  exact ⟨found.map Placed.item, itemsOf_eq_iff.mpr ⟨found, allTokens, rfl⟩⟩

/--
As long as a piece is missing the pieces of a formula are refused for an
open parenthesis.
-/
theorem goOn_of_pieces
    (parsed : parse (joinWords (first :: more)) = .ok expr)
    (nonblank : ∀ piece ∈ more, Blank.trim piece ≠ "")
    (cuts :
      ∀ count < more.length,
        LeavesOpen (joinWords (first :: more.take count))) :
    GoOn first more := by
  refine ⟨nonblank, ?_⟩
  intro count less
  have whole := itemsOf_joinWords first more
  rw [← List.take_append_drop count more, List.flatMap_append,
    ← List.append_assoc, ← itemsOf_joinWords, List.take_append_drop] at whole
  have readable := onlyTokens_of_parse parsed
  rw [whole] at readable
  have front := (onlyTokens_append_iff.mp readable).1
  have same := itemsOf_joinLines_eq front
  rw [← same] at whole
  exact
    (unclosedAtLast_of_items parsed whole
      ((cuts count less).of_items front same)).isUnclosed

/--
The pieces of a formula are read into the tree of the formula once they
are all there.
-/
theorem parse_joinLines
    (parsed : parse (joinWords (first :: more)) = .ok expr) :
    parse (joinLines first more) = .ok expr :=
  parse_of_items parsed (itemsOf_joinLines_eq (onlyTokens_of_parse parsed))

theorem not_isUnclosed_of_parse
    (parsed : parse text = .ok expr) :
    (calculate text).isUnclosed = false := by
  rw [← Bool.not_eq_true, isUnclosed_iff]
  rintro ⟨column, refused⟩
  rw [parsed] at refused
  cases refused

end Pieces

/-! ## What goes on does not depend on what is remembered -/

namespace Session

variable
    {World : Type}
    (session other : Session World)

theorem attempt_phase (formula : String) :
    (session.attempt formula).phase = (other.attempt formula).phase := by
  rw [attempt, attempt]
  split <;> rfl

variable [Storage World]

theorem enter_phase (line : String) :
    (session.enter line).phase = (other.enter line).phase := by
  rw [enter, enter]
  cases Command.ofText? line with
  | none => exact attempt_phase _ _ line
  | some command => cases command <;> rfl

theorem extend_phase (formula line : String) :
    (session.extend formula line).phase =
      (other.extend formula line).phase := by
  rw [extend, extend]
  split
  · rfl
  · exact attempt_phase _ _ _

theorem take_phase (phase : Phase) (line : Line) :
    (session.take phase line).phase = (other.take phase line).phase := by
  cases phase with
  | gathering formula =>
      cases line with
      | error fault => cases fault <;> rfl
      | ok text => exact session.extend_phase other formula text
  | ready =>
      cases line with
      | error fault => cases fault <;> rfl
      | ok text =>
          rw [take, take]
          split
          · rfl
          · exact session.enter_phase other text
  | _ => rfl

/--
How long lines are taken, and what is left of them, depends on the lines alone.
-/
theorem feed_phase_unread
    (goesOn : Phase → Bool)
    (phase : Phase)
    (input : List Line) :
    (session.feed goesOn phase input).phase =
        (other.feed goesOn phase input).phase ∧
      (session.feed goesOn phase input).unread =
        (other.feed goesOn phase input).unread := by
  induction input generalizing session other phase with
  | nil =>
      rw [feed, feed]
      split <;> exact ⟨rfl, rfl⟩
  | cons line rest hypothesis =>
      cases goes : goesOn phase with
      | false =>
          rw [feed_of_stops goes, feed_of_stops goes]
          exact ⟨rfl, rfl⟩
      | true =>
          simp only [feed_cons goes, Reply.after_phase, Reply.after_unread,
            session.take_phase other phase line]
          exact hypothesis _ _ _

theorem evaluate_phase_unread (line : String) (input : List Line) :
    (session.evaluate line input).phase = (other.evaluate line input).phase ∧
      (session.evaluate line input).unread =
        (other.evaluate line input).unread := by
  simp only [evaluate, Reply.after_phase, Reply.after_unread,
    session.enter_phase other line]
  exact feed_phase_unread _ _ _ _ _

/--
A formula is answered behind the last of its lines, and no other line is taken.
-/
theorem Quiet.evaluate_eq
    {session : Session World}
    (quiet : session.Quiet)
    {first : String}
    {more : List String}
    (starts : StartsFormula first)
    (goOn : GoOn first more)
    (closed : (calculate (joinLines first more)).isUnclosed = false)
    (rest : List Line) :
    ∃ told,
      session.evaluate first (more.map .ok ++ rest) =
        ⟨⟨session, .ready, told⟩, rest⟩ ∧
        told.shown =
          (attempts first more).flatMap (inspected session.inspecting) ++
            [(calculate (joinLines first more)).notice] := by
  have gathering : ∀ formula, gathers (.gathering formula) = true :=
    fun _ => rfl
  rcases pursue_answered gathering quiet goOn closed rest with
    ⟨told, answered, shown⟩
  refine ⟨told, ?_, shown⟩
  rw [evaluate, quiet.enter_formula starts]
  change session.pursue gathers first (more.map .ok ++ rest) = _
  rw [answered, feed_of_stops rfl]
  simp [Reply.after]

end Session

/-! ## One line or several -/

/--
The value stands alone on the output, or the message of the error on
the error output.
-/
def Transcript.Prints (told : Transcript) : Outcome → Prop
  | .ok value =>
      told.textOn .output = page [Decimal.signed value] ∧
        told.textOn .errors = ""
  | .error error =>
      told.textOn .output = "" ∧ told.textOn .errors = page [error.message]

theorem Transcript.prints_of_shown
    {told : Transcript}
    {outcome : Outcome}
    (shown : told.shown = [outcome.notice]) :
    told.Prints outcome := by
  have onOutput : Transcript.textOn told.shown .output = told.textOn .output :=
    textOn_shown (by decide) told
  have onErrors : Transcript.textOn told.shown .errors = told.textOn .errors :=
    textOn_shown (by decide) told
  rw [shown] at onOutput onErrors
  cases outcome with
  | ok value => exact ⟨onOutput.symm, onErrors.symm⟩
  | error error => exact ⟨onOutput.symm, onErrors.symm⟩

/-- The pieces of a formula are taken one by one, and nothing behind them. -/
theorem Session.Quiet.evaluate_joinWords
    {World : Type}
    [Storage World]
    {session : Session World}
    (quiet : session.Quiet)
    {first : String}
    {more : List String}
    {expr : Expr}
    (parsed : parse (joinWords (first :: more)) = .ok expr)
    (nonblank : ∀ piece ∈ first :: more, Blank.trim piece ≠ "")
    (cuts :
      ∀ count < more.length, LeavesOpen (joinWords (first :: more.take count)))
    (rest : List Line) :
    ∃ told,
      session.evaluate first (more.map .ok ++ rest) =
        ⟨⟨session, .ready, told⟩, rest⟩ ∧
        (session.inspecting = false →
          told.Prints (calculate (joinWords (first :: more)))) := by
  have readable := onlyTokens_of_parse parsed
  rw [itemsOf_joinWords] at readable
  have starts : StartsFormula first :=
    startsFormula_of_onlyTokens (onlyTokens_append_iff.mp readable).1
      (nonblank first List.mem_cons_self)
  have goOn : GoOn first more :=
    goOn_of_pieces parsed
      (fun piece member => nonblank piece (List.mem_cons_of_mem _ member)) cuts
  have gathered : parse (joinLines first more) = .ok expr :=
    parse_joinLines parsed
  rcases quiet.evaluate_eq starts goOn (not_isUnclosed_of_parse gathered)
    rest with
    ⟨told, answered, shown⟩
  refine ⟨told, answered, ?_⟩
  intro uninspected
  apply Transcript.prints_of_shown
  rw [shown, uninspected, calculate_of_parse_ok gathered,
    calculate_of_parse_ok parsed]
  simp [inspected]

/--
The beginning of a formula, up to a place between two tokens where a parenthesis
is open, is refused for the last parenthesis that is open there.  A formula that
is cut into lines at spaces where a parenthesis is open is therefore answered
behind the last of these lines, without another one being taken, and the answer
is that of the formula on one line.
-/
theorem evaluate_pieces
    (text : String)
    (expr : Expr)
    (parsed : parse text = .ok expr) :
    calculate text = expr.value.mapError .arithmetic ∧
    (∀ front back, text = front ++ back →
      Between front.length (Cursor.ofText text).lexemes →
      LeavesOpen front →
      UnclosedAtLast front) ∧
    (∀ first more, text = joinWords (first :: more) →
      (∀ piece ∈ first :: more, Blank.trim piece ≠ "") →
      (∀ count < more.length,
        LeavesOpen (joinWords (first :: more.take count))) →
      ∀ {World : Type} [Storage World] (session : Session World)
        (rest : List Line),
        (session.evaluate first (more.map .ok ++ rest)).phase = .ready ∧
        (session.evaluate first (more.map .ok ++ rest)).unread = rest ∧
        (session.history = none → session.prompting = false →
            session.inspecting = false →
          (session.evaluate first (more.map .ok ++ rest)).transcript.Prints
            (calculate text) ∧
          ∀ input,
            (session.evaluate text input).transcript.Prints
              (calculate text))) := by
  refine ⟨calculate_of_parse_ok parsed, ?_, ?_⟩
  · rintro front back rfl between staysOpen
    exact unclosedAtLast_of_between parsed between staysOpen
  · rintro first more rfl nonblank cuts World _ session rest
    -- the lines that are taken are those that a session without a history takes
    let silent : Session World := ⟨false, false, none, session.files⟩
    have silentQuiet : silent.Quiet := ⟨rfl, rfl⟩
    have same :=
      session.evaluate_phase_unread silent first (more.map .ok ++ rest)
    rcases silentQuiet.evaluate_joinWords parsed nonblank cuts rest with
      ⟨silentTold, answered, -⟩
    rw [answered] at same
    refine ⟨same.1, same.2, ?_⟩
    intro noHistory unprompted uninspected
    have quiet : session.Quiet := ⟨unprompted, noHistory⟩
    constructor
    · rcases quiet.evaluate_joinWords parsed nonblank cuts rest with
        ⟨told, onLines, prints⟩
      rw [onLines]
      exact prints uninspected
    · intro input
      have alone :
          joinWords [joinWords (first :: more)] = joinWords (first :: more) :=
        joinWords_singleton _
      have whole :
          parse (joinWords [joinWords (first :: more)]) = .ok expr := by
        rw [alone]
        exact parsed
      have wholeNonblank :
          ∀ piece ∈ [joinWords (first :: more)], Blank.trim piece ≠ "" := by
        intro piece member
        rw [List.mem_singleton.mp member]
        exact trim_joinWords_ne_empty (nonblank first List.mem_cons_self) more
      rcases quiet.evaluate_joinWords whole wholeNonblank (by simp) input with
        ⟨told, onLine, prints⟩
      rw [alone] at prints
      rw [List.map_nil, List.nil_append] at onLine
      rw [onLine]
      exact prints uninspected

/-- A product whose second factor is typed on three lines. -/
theorem nested_group_on_three_lines :
    parse "2 * (3 + (4 - 1) )" =
        .ok (.binary (.number 2) .multiply
          (.binary (.number 3) .add
            (.binary (.number 4) .subtract (.number 1)))) ∧
      UnclosedAtLast "2 * (3 + (4" ∧
      ((⟨false, false, none, ⟨[], []⟩⟩ : Session).evaluate "2 * (3 +"
          (["(4 - 1)", ")"].map .ok ++ [.ok "7"])).unread = [.ok "7"] ∧
      ((⟨false, false, none, ⟨[], []⟩⟩ : Session).evaluate "2 * (3 +"
          (["(4 - 1)", ")"].map .ok ++ [.ok "7"])).transcript.Prints
            (.ok 12) := by
  have parsed :
      parse "2 * (3 + (4 - 1) )" =
        .ok (.binary (.number 2) .multiply
          (.binary (.number 3) .add
            (.binary (.number 4) .subtract (.number 1)))) := by
    decide +kernel
  have value : calculate "2 * (3 + (4 - 1) )" = .ok 12 := by decide +kernel
  rcases evaluate_pieces "2 * (3 + (4 - 1) )" _ parsed with
    ⟨-, unclosed, pieces⟩
  have answered :=
    pieces "2 * (3 +" ["(4 - 1)", ")"] (by decide +kernel) (by decide +kernel)
      (by unfold LeavesOpen; decide +kernel)
      (⟨false, false, none, ⟨[], []⟩⟩ : Session)
      [.ok "7"]
  rw [value] at answered
  exact
    ⟨parsed, unclosed "2 * (3 + (4" " - 1) )" (by decide +kernel)
        (by unfold Between; decide +kernel)
        (by unfold LeavesOpen; decide +kernel),
      answered.2.1, (answered.2.2 rfl rfl rfl).1⟩

end Reckoner
