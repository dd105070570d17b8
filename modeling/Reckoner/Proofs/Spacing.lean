import Reckoner.Formula
import Reckoner.Proofs.TokenOrder

/-!
# Spaces

Spaces keep lexemes apart and mean nothing else.  So a text may be respaced:
spaces may be put in and taken out wherever they do not break a run of digits.
In general this changes the lexemes, because runs grow together where no space
is left between them.  In a formula it does not: the grammar lets no number
follow a number and no operator follow an operator, and other lexemes never grow
together.

`Lexed.respaced` says this of the lexemes and `parse_respaced` of the trees.
-/

namespace Reckoner

/-! ## Respacing -/

/-- The characters that are not spaces. -/
def visible (characters : List Char) : List Char :=
  characters.filter fun character => character ≠ ' '

/--
The second text has the characters of the first but for spaces, and each run of
digits of the first stands unbroken in the second, behind the same characters.
-/
structure Respaced (original spaced : List Char) : Prop where
  visible_eq : visible spaced = visible original
  unbroken : ∀ before run after,
    original = before ++ run ++ after →
    IsMaximalRun IsDigit before run after →
    ∃ front back, spaced = front ++ run ++ back ∧ visible front = visible before

@[simp]
theorem visible_append (front back : List Char) :
    visible (front ++ back) = visible front ++ visible back :=
  List.filter_append front back

@[simp]
theorem visible_visible (characters : List Char) :
    visible (visible characters) = visible characters := by
  simp [visible]

theorem visible_eq_self
    {run : List Char}
    (noSpace : ∀ character ∈ run, character ≠ ' ') :
    visible run = run := by
  simpa [visible] using noSpace

theorem visible_eq_nil_iff {gap : List Char} :
    visible gap = [] ↔ IsGap gap := by
  simp [visible, IsGap]

theorem visible_cons
    {first : Char}
    (shown : first ≠ ' ')
    (rest : List Char) :
    visible (first :: rest) = first :: visible rest :=
  List.filter_cons_of_pos (by simpa using shown)

theorem exists_gap_of_visible
    {characters more : List Char}
    {first : Char}
    (shown : visible characters = first :: more) :
    ∃ gap rest,
      characters = gap ++ first :: rest ∧ IsGap gap ∧ visible rest = more := by
  rcases List.filter_eq_cons_iff.mp shown with
    ⟨gap, rest, rfl, hidden, -, following⟩
  exact ⟨gap, rest, rfl, by simpa [IsGap] using hidden, following⟩

theorem ne_space_of_joins
    {first character : Char}
    (joined : Token.joins first character = true) :
    character ≠ ' ' := by
  rintro rfl
  rw [Token.joins_space] at joined
  cases joined

/--
A text without spaces is a respaced form of every text with its characters.
-/
theorem respaced_visible (characters : List Char) :
    Respaced characters (visible characters) where
  visible_eq := visible_visible characters
  unbroken := by
    rintro before run after rfl maximal
    have shown : visible run = run :=
      visible_eq_self fun character member =>
        (maximal.inside character member).ne_space
    refine ⟨visible before, visible after, ?_, visible_visible before⟩
    rw [visible_append, visible_append, shown]

/--
A run of digits stays maximal behind characters that do not go on with it.
-/
theorem IsMaximalRun.append_left
    {front before digits after : List Char}
    (maximal : IsMaximalRun IsDigit before digits after)
    (separated : Separated front (before ++ digits ++ after)) :
    IsMaximalRun IsDigit (front ++ before) digits after where
  nonempty := maximal.nonempty
  inside := maximal.inside
  left := by
    intro last lastMember lastDigit
    rcases List.eq_nil_or_concat before with rfl | ⟨others, character, rfl⟩
    · rcases List.exists_cons_of_ne_nil maximal.nonempty with ⟨first, more, rfl⟩
      have firstDigit : IsDigit first := maximal.inside first (by simp)
      have together : Token.joins first last = true :=
        joins_iff.mpr (Or.inl ⟨firstDigit, lastDigit⟩)
      rw [separated last (by simpa using lastMember) first rfl] at together
      cases together
    · exact maximal.left last (by simpa [List.getLast?_append] using lastMember)
        lastDigit
  right := maximal.right

/-- What follows a run is respaced if the whole is. -/
theorem Respaced.of_append
    {gap otherGap run rest otherRest : List Char}
    (respaced : Respaced (gap ++ run ++ rest) (otherGap ++ run ++ otherRest))
    (isGap : IsGap gap)
    (otherIsGap : IsGap otherGap)
    (shown : visible run = run)
    (separated : Separated (gap ++ run) rest) :
    Respaced rest otherRest where
  visible_eq := by
    have same := respaced.visible_eq
    simpa [visible_eq_nil_iff.mpr isGap, visible_eq_nil_iff.mpr otherIsGap,
      shown] using same
  unbroken := by
    rintro before digits after rfl maximal
    have whole := maximal.append_left separated
    rcases respaced.unbroken _ digits after (by simp) whole with
      ⟨front, back, split, same⟩
    rw [List.append_assoc front] at split
    rw [visible_append, visible_append, visible_eq_nil_iff.mpr isGap,
      List.nil_append, shown] at same
    rcases List.append_eq_append_iff.mp split with
      ⟨middle, rfl, rfl⟩ | ⟨middle, inside, across⟩
    · refine ⟨middle, back, (List.append_assoc ..).symm, ?_⟩
      simpa [visible_eq_nil_iff.mpr otherIsGap, shown] using same
    · -- all of the run stands before the digits, so there is no room for
      -- them within it
      have hidden := congrArg visible inside
      rw [visible_append, visible_append, visible_eq_nil_iff.mpr otherIsGap,
        List.nil_append, shown, same, List.append_assoc,
        List.self_eq_append_right, List.append_eq_nil_iff] at hidden
      have nothing : middle = [] := by
        cases middle with
        | nil => rfl
        | cons space others =>
            rcases List.exists_cons_of_ne_nil maximal.nonempty with
              ⟨digit, more, rfl⟩
            rw [List.cons_append, List.cons_append, List.cons.injEq] at across
            have isSpace : space = ' ' :=
              visible_eq_nil_iff.mp hidden.2 space List.mem_cons_self
            exact absurd (across.1.trans isSpace)
              (maximal.inside digit List.mem_cons_self).ne_space
      subst nothing
      exact ⟨[], back, across.symm, hidden.1.symm⟩

/-! ## Lexemes of a respaced text -/

/-- Only a number is written by a token of more than one character. -/
theorem eq_nil_of_ofRun
    {first : Char}
    {others : List Char}
    {token : Token}
    (notDigit : ¬ IsDigit first)
    (joined : ∀ character ∈ others, Token.joins first character = true)
    (found : Token.ofRun first others = .ok token) :
    others = [] := by
  cases others with
  | nil => rfl
  | cons second more =>
      rcases joins_iff.mp (joined second List.mem_cons_self) with
        ⟨digit, -⟩ | ⟨symbol, -⟩
      · exact absurd digit notDigit
      · exact (exists_operator_of_ofRun symbol found).1

/--
Tokens whose characters would grow together are never neighbours in a formula.
-/
theorem not_mayFollow_of_joins
    {first second : Char}
    {firstOthers secondOthers : List Char}
    {token next : Token}
    (together : Token.joins first second = true)
    (found : Token.ofRun first firstOthers = .ok token)
    (foundNext : Token.ofRun second secondOthers = .ok next) :
    ¬ MayFollow (some token) (some next) := by
  rcases joins_iff.mp together with ⟨digit, nextDigit⟩ | ⟨symbol, nextSymbol⟩
  · rcases exists_number_of_ofRun digit found with ⟨value, rfl⟩
    rcases exists_number_of_ofRun nextDigit foundNext with ⟨nextValue, rfl⟩
    simp [MayFollow, operandDue, startsOperand]
  · rcases exists_operator_of_ofRun symbol found with ⟨-, operator, rfl⟩
    rcases exists_operator_of_ofRun nextSymbol foundNext with
      ⟨-, nextOperator, rfl⟩
    simp [MayFollow, operandDue, startsOperand]

/--
A token still ends where it ended, whatever happens to the spaces behind it.
-/
theorem EndsRun.of_visible
    {consumed : Nat}
    {first : Char}
    {others rest otherRest : List Char}
    {token : Token}
    {lexemes : List Lexeme}
    {run : List Token}
    (found : Token.ofRun first others = .ok token)
    (cut : Lexed consumed rest lexemes)
    (items : lexemes.map Placed.item = run.map .ok)
    (ordered : ((token :: run).map some).IsChain MayFollow)
    (same : visible otherRest = visible rest) :
    EndsRun first otherRest := by
  intro character member
  rw [← Bool.not_eq_true]
  intro together
  cases otherRest with
  | nil => cases member
  | cons next following =>
      cases member
      rw [visible_cons (ne_space_of_joins together)] at same
      cases cut with
      | blank isGap =>
          rw [visible_eq_nil_iff.mpr isGap] at same
          cases same
      | @run _ gap second secondOthers _ _ isGap shown _ _ _ =>
          rw [visible_append, visible_eq_nil_iff.mpr isGap, List.nil_append,
            visible_cons shown, List.cons.injEq] at same
          cases run with
          | nil => cases items
          | cons nextToken more =>
              rw [List.map_cons, List.map_cons, List.cons.injEq] at items
              rw [List.map_cons, List.map_cons,
                List.isChain_cons_cons] at ordered
              rw [same.1] at together
              exact not_mayFollow_of_joins together found items.1 ordered.1

/--
A respaced form begins with a gap and the first run of digits, or the
first character.
-/
theorem Respaced.exists_run
    {gap others rest other : List Char}
    {first : Char}
    {token : Token}
    (respaced : Respaced (gap ++ first :: (others ++ rest)) other)
    (isGap : IsGap gap)
    (shown : first ≠ ' ')
    (joined : ∀ character ∈ others, Token.joins first character = true)
    (ends : EndsRun first rest)
    (found : Token.ofRun first others = .ok token) :
    ∃ otherGap otherRest,
      other = otherGap ++ first :: (others ++ otherRest) ∧ IsGap otherGap := by
  by_cases digit : IsDigit first
  · have nothingBefore : Separated [] (gap ++ first :: (others ++ rest)) := by
      simp [Separated]
    have separated : Separated gap (first :: (others ++ rest)) :=
      nothingBefore.append_gap isGap
    have maximal :=
      isMaximalRun_of_joins digit (joins_digit_iff digit) joined separated ends
    rcases respaced.unbroken gap (first :: others) rest (by simp) maximal with
      ⟨otherGap, otherRest, split, same⟩
    refine ⟨otherGap, otherRest, by simpa using split, ?_⟩
    rw [← visible_eq_nil_iff, same, visible_eq_nil_iff]
    exact isGap
  · have alone := eq_nil_of_ofRun digit joined found
    subst alone
    have same := respaced.visible_eq
    rw [visible_append, visible_eq_nil_iff.mpr isGap, List.nil_append,
      visible_cons shown] at same
    rcases exists_gap_of_visible same with
      ⟨otherGap, otherRest, split, otherIsGap, -⟩
    exact ⟨otherGap, otherRest, split, otherIsGap⟩

/--
If every lexeme is a token, and the tokens are in the order of a formula, the
lexemes of a respaced text are the same tokens.
-/
theorem Lexed.respaced
    {consumed : Nat}
    {characters other : List Char}
    {lexemes : List Lexeme}
    {run : List Token}
    (cut : Lexed consumed characters lexemes)
    (items : lexemes.map Placed.item = run.map .ok)
    (ordered : (run.map some).IsChain MayFollow)
    (respaced : Respaced characters other)
    (start : Nat) :
    ∃ otherLexemes,
      Lexed start other otherLexemes ∧
        otherLexemes.map Placed.item = run.map .ok := by
  induction cut generalizing run other start with
  | blank isGap =>
      have otherIsGap : IsGap other := by
        rw [← visible_eq_nil_iff, respaced.visible_eq, visible_eq_nil_iff]
        exact isGap
      exact ⟨[], Lexed.blank otherIsGap, items⟩
  | @run consumed gap first others rest lexemes isGap shown joined ends
        following hypothesis =>
      cases run with
      | nil => cases items
      | cons token more =>
          rw [List.map_cons, List.map_cons, List.cons.injEq] at items
          rcases respaced.exists_run isGap shown joined ends items.1 with
            ⟨otherGap, otherRest, rfl, otherIsGap⟩
          have shownRun : visible (first :: others) = first :: others := by
            apply visible_eq_self
            intro character member
            rcases List.mem_cons.mp member with rfl | inOthers
            · exact shown
            · exact ne_space_of_joins (joined character inOthers)
          have restRespaced : Respaced rest otherRest := by
            have separated : Separated (gap ++ first :: others) rest :=
              ends.separated joined
            exact Respaced.of_append (by simpa using respaced) isGap otherIsGap
              shownRun separated
          have otherEnds : EndsRun first otherRest :=
            EndsRun.of_visible items.1 following items.2 ordered
              restRespaced.visible_eq
          rcases hypothesis items.2 ordered.tail restRespaced
              (start + otherGap.length + 1 + others.length) with
            ⟨otherLexemes, otherCut, otherItems⟩
          refine ⟨_, Lexed.run otherIsGap shown joined otherEnds otherCut, ?_⟩
          rw [List.map_cons, List.map_cons, otherItems]
          exact congrArg (· :: more.map Except.ok) items.1

/-! ## Formulas -/

theorem WellOrdered.isChain
    {run : List Token}
    (ordered : WellOrdered run) :
    (run.map some).IsChain MayFollow :=
  ordered.tail.left_of_append

/-- A respaced formula has the tokens of the formula. -/
theorem exists_tokens_of_respaced
    {text other : String}
    {found : List (Placed Token)}
    (split : tokens text = .ok found)
    (ordered : WellOrdered (found.map Placed.item))
    (respaced : Respaced text.toList other.toList) :
    ∃ otherFound,
      tokens other = .ok otherFound ∧
        otherFound.map Placed.item = found.map Placed.item := by
  have items :
      (Cursor.ofText text).lexemes.map Placed.item =
        (found.map Placed.item).map .ok := by
    rw [tokens_eq_ok_iff.mp split, List.map_map, List.map_map]
    rfl
  rcases (lexed_lexemes 0 text.toList).respaced items ordered.isChain respaced
    0 with
    ⟨otherLexemes, otherCut, otherItems⟩
  rcases exists_placed_of_items otherItems with ⟨otherFound, rfl, same⟩
  exact ⟨otherFound, tokens_eq_ok_iff.mpr (lexed_iff.mp otherCut), same⟩

/--
A text that is read into a tree is read into the same tree, and comes to the
same value or error, however it is respaced.
-/
theorem parse_respaced
    (text other : String)
    (expr : Expr)
    (parsed : parse text = .ok expr)
    (respaced : Respaced text.toList other.toList) :
    parse other = .ok expr ∧ calculate other = calculate text := by
  rcases exists_derives_of_parse parsed with ⟨found, split, derived⟩
  rcases exists_tokens_of_respaced split derived.wellOrdered respaced with
    ⟨otherFound, otherSplit, same⟩
  have otherParsed : parse other = .ok expr :=
    parse_eq_ok_of_derives otherSplit (same ▸ derived)
  exact
    ⟨otherParsed,
      by rw [calculate_of_parse_ok otherParsed, calculate_of_parse_ok parsed]⟩

/-- All spaces of a formula may be left out. -/
theorem spaced_group_respaced :
    parse "( 12 -  3 )*2" =
        .ok
          (.binary (.binary (.number 12) .subtract (.number 3)) .multiply
            (.number 2)) ∧
      Respaced "( 12 -  3 )*2".toList "(12-3)*2".toList ∧
      parse "(12-3)*2" =
        .ok
          (.binary (.binary (.number 12) .subtract (.number 3)) .multiply
            (.number 2)) ∧
      calculate "(12-3)*2" = calculate "( 12 -  3 )*2" := by
  have parsed :
      parse "( 12 -  3 )*2" =
        .ok
          (.binary (.binary (.number 12) .subtract (.number 3)) .multiply
            (.number 2)) := by
    decide +kernel
  have respaced : Respaced "( 12 -  3 )*2".toList "(12-3)*2".toList := by
    have unspaced : "(12-3)*2".toList = visible "( 12 -  3 )*2".toList := by
      decide
    rw [unspaced]
    exact respaced_visible _
  exact ⟨parsed, respaced, parse_respaced _ _ _ parsed respaced⟩

end Reckoner
