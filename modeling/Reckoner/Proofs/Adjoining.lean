import Reckoner.Proofs.MaximalMunch

/-!
# Texts put together

The lexemes of a text that is put together from parts are those of its parts,
wherever no run goes on from one part into the next.  A space between two parts
sees to that, and so does a parenthesis at the end of the first or at the head
of the second.  Conversely a text may be taken apart at every place that lies
within none of its lexemes.

Where columns do not matter, `itemsOf` leaves them aside: it lists what is read
at the lexemes of a text, tokens and faults.
-/

namespace Reckoner

/-! ## Characters on the two sides of a place -/

namespace Token

theorem joins_paren
    {paren other : Char}
    (isParen : paren = '(' ∨ paren = ')') :
    joins paren other = false := by
  rcases isParen with rfl | rfl
  · rfl
  · exact joins_rightParen

end Token

/-- No run goes on into a space. -/
theorem separated_space_cons
    (before rest : List Char) :
    Separated before (' ' :: rest) := by
  intro last _ first firstMember
  obtain rfl : ' ' = first := by simpa using firstMember
  rw [Token.joins_comm]
  exact Token.joins_space

/-- No run goes on into a parenthesis. -/
theorem separated_paren_cons
    {paren : Char}
    (isParen : paren = '(' ∨ paren = ')')
    (before rest : List Char) :
    Separated before (paren :: rest) := by
  intro last _ first firstMember
  obtain rfl : paren = first := by simpa using firstMember
  exact Token.joins_paren isParen

/-- No run goes on from a parenthesis. -/
theorem separated_concat_paren
    {paren : Char}
    (isParen : paren = '(' ∨ paren = ')')
    (before rest : List Char) :
    Separated (before ++ [paren]) rest := by
  intro last lastMember first _
  obtain rfl : paren = last := by simpa using lastMember
  rw [Token.joins_comm]
  exact Token.joins_paren isParen

/-- A run ends where no run goes on. -/
theorem Separated.endsRun
    {before others rest : List Char}
    {first : Char}
    (separated : Separated (before ++ first :: others) rest)
    (joined : ∀ character ∈ others, Token.joins first character = true) :
    EndsRun first rest := by
  intro next member
  rw [← Bool.not_eq_true, Token.joins_comm]
  intro together
  rcases List.eq_nil_or_concat' others with rfl | ⟨more, last, rfl⟩
  · have apart : Token.joins next first = false :=
      separated first (by simp) next member
    rw [apart] at together
    cases together
  · have apart : Token.joins next last = false :=
      separated last (by simp [List.getLast?_append, List.getLast?_cons]) next
        member
    rw [Token.joins_trans together (joined last (by simp))] at apart
    cases apart

theorem Separated.append_left
    {front middle rest : List Char}
    (separated : Separated middle rest)
    (nonempty : middle ≠ []) :
    Separated (front ++ middle) rest := by
  intro last member
  apply separated last
  rwa [List.getLast?_append_of_ne_nil front nonempty] at member

/-! ## Lexemes put together and taken apart -/

/-- Where no run goes on, the lexemes of two texts are those of the whole. -/
theorem Lexed.append_of_separated
    {consumed : Nat}
    {front back : List Char}
    {frontLexemes backLexemes : List Lexeme}
    (frontCut : Lexed consumed front frontLexemes)
    (backCut : Lexed (consumed + front.length) back backLexemes)
    (separated : Separated front back) :
    Lexed consumed (front ++ back) (frontLexemes ++ backLexemes) := by
  induction frontCut with
  | blank isGap => exact backCut.gap_append isGap
  | @run consumed gap first others rest lexemes isGap visible joined ends _
        hypothesis =>
      rw [List.append_assoc, List.cons_append, List.append_assoc,
        List.cons_append]
      refine Lexed.run isGap visible joined ?_ (hypothesis ?_ ?_)
      · cases rest with
        | nil =>
            rw [List.append_nil] at separated
            exact separated.endsRun joined
        | cons character following => exact ends
      · have sameColumn :
            consumed + (gap ++ first :: (others ++ rest)).length =
              consumed + gap.length + 1 + others.length + rest.length := by
          simp only [List.length_append, List.length_cons]
          omega
        rw [sameColumn] at backCut
        exact backCut
      · intro last member
        apply separated last
        rw [List.append_cons, ← List.append_assoc, List.getLast?_append,
          Option.mem_def.mp member]
        rfl

/--
None of the lexemes has characters on both sides of the place behind a column.
-/
def Between (column : Nat) (lexemes : List Lexeme) : Prop :=
  ∀ lexeme ∈ lexemes, lexeme.stop ≤ column ∨ column < lexeme.start

theorem IsGap.separated
    {gap : List Char}
    (isGap : IsGap gap)
    (rest : List Char) :
    Separated gap rest := by
  intro last lastMember first _
  obtain rfl : last = ' ' := isGap last (List.mem_of_getLast? lastMember)
  exact Token.joins_space

theorem IsGap.separated_left
    {gap : List Char}
    (isGap : IsGap gap)
    (before : List Char) :
    Separated before gap := by
  cases gap with
  | nil => simp [Separated]
  | cons space others =>
      obtain rfl : space = ' ' := isGap space List.mem_cons_self
      exact separated_space_cons before others

/-- No run goes on across a place that lies within none of the lexemes. -/
theorem Lexed.separated_of_between
    {consumed : Nat}
    {front back : List Char}
    {lexemes : List Lexeme}
    (cut : Lexed consumed (front ++ back) lexemes)
    (between : Between (consumed + front.length) lexemes) :
    Separated front back := by
  generalize whole : front ++ back = characters at cut
  induction cut generalizing front back with
  | blank isGap =>
      subst whole
      have frontGap : IsGap front :=
        fun character member => isGap character (List.mem_append_left _ member)
      exact frontGap.separated back
  | @run consumed gap first others rest lexemes isGap visible joined ends
        following hypothesis =>
      rcases List.append_eq_append_iff.mp whole with
        ⟨spaces, rfl, -⟩ | ⟨inside, rfl, split⟩
      · have frontGap : IsGap front :=
          fun character member =>
            isGap character (List.mem_append_left _ member)
        exact frontGap.separated back
      · cases inside with
        | nil =>
            rw [List.append_nil]
            exact isGap.separated back
        | cons character more =>
            rw [List.cons_append, List.cons.injEq] at split
            rcases split with ⟨rfl, split⟩
            -- the place lies behind the start of the run, and so
            -- behind all of it
            have reaches : others.length ≤ more.length := by
              rcases between _ List.mem_cons_self with stops | starts
              · simp only [Cursor.lexemeAt, List.length_append,
                  List.length_cons] at stops
                omega
              · simp only [Cursor.lexemeAt, List.length_append,
                  List.length_cons] at starts
                omega
            obtain ⟨beyond, rfl⟩ : others <+: more :=
              List.prefix_of_prefix_length_le ⟨rest, split⟩ ⟨back, rfl⟩ reaches
            rw [List.append_assoc, List.append_cancel_left_eq] at split
            subst split
            cases beyond with
            | nil =>
                rw [List.append_nil]
                exact ends.separated joined
            | cons next more =>
                have further : Between _ _ :=
                  fun lexeme member =>
                    between lexeme (List.mem_cons_of_mem _ member)
                have moved :
                    consumed +
                        (gap ++ first :: (others ++ next :: more)).length =
                      consumed + gap.length + 1 + others.length +
                        (next :: more).length := by
                  simp only [List.length_append, List.length_cons]
                  omega
                rw [moved] at further
                rw [List.append_cons, ← List.append_assoc]
                exact (hypothesis further rfl).append_left (by simp)

/-- The lexemes of a text that is taken apart within none of them. -/
theorem lexemes_append_of_separated
    {front back : String}
    (separated : Separated front.toList back.toList) :
    (Cursor.ofText (front ++ back)).lexemes =
      (Cursor.ofText front).lexemes ++
        Cursor.lexemes ⟨back.toList, front.length⟩ := by
  have frontCut := lexed_lexemes 0 front.toList
  have backCut := lexed_lexemes (0 + front.toList.length) back.toList
  have wholeCut := frontCut.append_of_separated backCut separated
  rw [Nat.zero_add, String.length_toList] at wholeCut
  rw [Cursor.ofText, String.toList_append]
  exact lexed_iff.mp wholeCut

/--
What stands behind a text and a space is read as if it stood alone,
but further on.
-/
theorem lexemes_append_space (front back : String) :
    (Cursor.ofText (front ++ " " ++ back)).lexemes =
      (Cursor.ofText front).lexemes ++
        Cursor.lexemes ⟨back.toList, front.length + 1⟩ := by
  have spaced : (" " ++ back).toList = [' '] ++ back.toList :=
    String.toList_append
  have apart : Separated front.toList (" " ++ back).toList := by
    rw [spaced]
    exact separated_space_cons front.toList back.toList
  have isGap : IsGap [' '] := by simp [IsGap]
  have backCut :=
    (lexed_lexemes (front.length + 1) back.toList).gap_append isGap
  rw [String.append_assoc, lexemes_append_of_separated apart, spaced,
    lexed_iff.mp backCut]

/-! ## What is read, wherever it stands -/

/-- What is read at the lexemes of a text, their columns left aside. -/
def itemsOf (text : String) : List (Except TokenFault Token) :=
  (Cursor.ofText text).lexemes.map Placed.item

theorem map_item_lexemes (text : String) (consumed : Nat) :
    (Cursor.lexemes ⟨text.toList, consumed⟩).map Placed.item =
      itemsOf text := by
  have moved := lexemes_add 0 consumed text.toList
  rw [Nat.zero_add] at moved
  rw [moved, List.map_map]
  rfl

theorem itemsOf_append_of_separated
    {front back : String}
    (separated : Separated front.toList back.toList) :
    itemsOf (front ++ back) = itemsOf front ++ itemsOf back := by
  rw [itemsOf, lexemes_append_of_separated separated, List.map_append,
    map_item_lexemes]
  rfl

theorem itemsOf_append_space (front back : String) :
    itemsOf (front ++ " " ++ back) = itemsOf front ++ itemsOf back := by
  rw [itemsOf, lexemes_append_space, List.map_append, map_item_lexemes]
  rfl

theorem itemsOf_append_paren
    {paren : Char}
    (isParen : paren = '(' ∨ paren = ')')
    (before after : String) :
    itemsOf (before ++ String.singleton paren ++ after) =
      itemsOf before ++ itemsOf (String.singleton paren) ++ itemsOf after := by
  have ahead : Separated before.toList (String.singleton paren).toList := by
    rw [String.toList_singleton]
    exact separated_paren_cons isParen before.toList []
  have behind :
      Separated (before ++ String.singleton paren).toList after.toList := by
    rw [String.toList_append, String.toList_singleton]
    exact separated_concat_paren isParen before.toList after.toList
  rw [itemsOf_append_of_separated behind, itemsOf_append_of_separated ahead]

theorem itemsOf_leftParen : itemsOf "(" = [.ok .leftParen] := by
  decide +kernel

theorem itemsOf_rightParen : itemsOf ")" = [.ok .rightParen] := by
  decide +kernel

/--
A group within a text is read as its parentheses with what is read between them.
-/
theorem itemsOf_group (before inner after : String) :
    itemsOf (before ++ "(" ++ inner ++ ")" ++ after) =
      itemsOf before ++
        (.ok .leftParen :: (itemsOf inner ++ [.ok .rightParen])) ++
          itemsOf after := by
  have closes :=
    itemsOf_append_paren (Or.inr rfl) (before ++ "(" ++ inner) after
  have opens := itemsOf_append_paren (Or.inl rfl) before inner
  change itemsOf (before ++ "(" ++ inner ++ ")" ++ after) =
    _ ++ itemsOf ")" ++ _ at closes
  change itemsOf (before ++ "(" ++ inner) = _ ++ itemsOf "(" ++ _ at opens
  rw [closes, opens, itemsOf_leftParen, itemsOf_rightParen]
  simp

/-- Digits alone are one run. -/
theorem lexed_digits
    {first : Char}
    {others : List Char}
    (digits : ∀ character ∈ first :: others, IsDigit character)
    (consumed : Nat) :
    Lexed consumed (first :: others)
      [Cursor.lexemeAt (consumed + 1) first others] := by
  have firstDigit : IsDigit first := digits first List.mem_cons_self
  have joined : ∀ character ∈ others, Token.joins first character = true := by
    intro character member
    rw [joins_digit_iff firstDigit]
    exact digits character (List.mem_cons_of_mem _ member)
  have ends : EndsRun first [] := by simp [EndsRun]
  have alone : Lexed (consumed + 1 + others.length) [] [] := Lexed.blank .nil
  simpa using Lexed.run .nil firstDigit.ne_space joined ends alone

theorem ofDigits_digits
    {value : Int64}
    (nonneg : 0 ≤ value.toInt) :
    Token.ofDigits (Decimal.digits value.toInt.toNat) =
      .ok (.number value) := by
  have small : value.toInt.toNat ≤ Token.greatestLiteral := by
    have bound := value.toInt_le
    rw [← Token.greatestLiteral_eq] at bound
    omega
  have same : Int64.ofNat value.toInt.toNat = value := by
    rw [← Int64.toInt_inj, toInt_literal small]
    omega
  rw [Token.ofDigits, Decimal.value_digits, if_pos small, same]

/--
The decimal digits of a number are a run of digits, and it is read
as the number.
-/
theorem exists_run_digits
    {value : Int64}
    (nonneg : 0 ≤ value.toInt) :
    ∃ first others, Decimal.digits value.toInt.toNat = first :: others ∧
      (∀ character ∈ first :: others, IsDigit character) ∧
        Token.ofRun first others = .ok (.number value) := by
  have literal := ofDigits_digits nonneg
  have allDigits :
      ∀ character ∈ Decimal.digits value.toInt.toNat, IsDigit character := by
    intro character member
    exact isDigit_iff.mp
      (Nat.isDigit_of_mem_toDigits (by decide) (by decide) member)
  rcases List.exists_cons_of_ne_nil Nat.toDigits_ne_nil with
    ⟨first, others, run⟩
  rw [Decimal.digits, run] at literal allDigits
  refine ⟨first, others, run, allDigits, ?_⟩
  rw [ofRun_literal (allDigits first List.mem_cons_self), literal]

/-- The decimal digits of a number are read as the number. -/
theorem itemsOf_natural
    {value : Int64}
    (nonneg : 0 ≤ value.toInt) :
    itemsOf (Decimal.natural value.toInt.toNat) = [.ok (.number value)] := by
  rcases exists_run_digits nonneg with ⟨first, others, run, allDigits, found⟩
  rw [itemsOf, Cursor.ofText, Decimal.natural, String.toList_ofList, run,
    lexed_iff.mp (lexed_digits allDigits 0), List.map_singleton,
    Cursor.lexemeAt, found]

end Reckoner
