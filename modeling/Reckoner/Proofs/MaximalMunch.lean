import Reckoner.Proofs.Lexing
import Mathlib.Data.List.Basic

/-!
# Lossless reading by maximal runs

Stepping through a text loses nothing and invents nothing: the spans of the
lexemes are disjoint and in order, they cover every character but the spaces,
and each of them is a run that cannot be made longer on either side.

The lexical rules are stated here by themselves, for a run between the
characters before it and those after it; they do not mention how a cursor
finds the run.  `lexemes_partition_text` is the main theorem.
-/

namespace Reckoner

/-! ## The lexical rules -/

/-- A decimal digit. -/
def IsDigit (character : Char) : Prop :=
  '0' ≤ character ∧ character ≤ '9'

/-- A character that writes an operator, alone or in a longer run. -/
def IsOperatorCharacter (character : Char) : Prop :=
  character ∈ ['+', '-', '*', '/']

/--
A run of characters of one class, which contains neither the character before
the run nor the one after it.
-/
structure IsMaximalRun
    (belongs : Char → Prop)
    (before run after : List Char) :
    Prop where
  nonempty : run ≠ []
  inside : ∀ character ∈ run, belongs character
  left : ∀ character ∈ before.getLast?, ¬ belongs character
  right : ∀ character ∈ after.head?, ¬ belongs character

/--
What a run stands for, between the characters before it and those after it.
-/
inductive LexicalRule (before after : List Char) :
    List Char → Except TokenFault Token → Prop where
  | leftParen : LexicalRule before after ['('] (.ok .leftParen)
  | rightParen : LexicalRule before after [')'] (.ok .rightParen)
  | literal {run : List Char} {value : Int64} :
      IsMaximalRun IsDigit before run after →
      Decimal.value run ≤ 9223372036854775807 →
      value.toInt = Decimal.value run →
      LexicalRule before after run (.ok (.number value))
  | literalOutOfRange {run : List Char} :
      IsMaximalRun IsDigit before run after →
      9223372036854775807 < Decimal.value run →
      LexicalRule before after run
        (.error (.literalOutOfRange (String.ofList run)))
  | operator (operator : Operator) :
      IsMaximalRun IsOperatorCharacter before [operator.symbol] after →
      LexicalRule before after [operator.symbol] (.ok (.operator operator))
  | unknownOperator {run : List Char} :
      IsMaximalRun IsOperatorCharacter before run after →
      run.length ≠ 1 →
      LexicalRule before after run
        (.error (.unknownOperator (String.ofList run)))
  | unexpectedCharacter {character : Char} :
      character ∉ [' ', '(', ')'] →
      ¬ IsDigit character →
      ¬ IsOperatorCharacter character →
      LexicalRule before after [character]
        (.error (.unexpectedCharacter character))

theorem isDigit_iff {character : Char} :
    character.isDigit = true ↔ IsDigit character := by
  simp only [Char.isDigit, IsDigit, Char.le_def, Bool.and_eq_true,
    decide_eq_true_eq, ge_iff_le]

theorem isSymbol_iff {character : Char} :
    Operator.isSymbol character = true ↔ IsOperatorCharacter character := by
  simp only [Operator.isSymbol, Operator.all, Operator.symbol, List.any_cons,
    List.any_nil, IsOperatorCharacter, List.mem_cons, List.not_mem_nil,
    Bool.or_eq_true, beq_iff_eq, Bool.or_false, or_false]
  constructor
  · rintro (rfl | rfl | rfl | rfl) <;> simp
  · rintro (rfl | rfl | rfl | rfl) <;> simp

theorem IsDigit.ne_space
    {character : Char}
    (digit : IsDigit character) :
    character ≠ ' ' := by
  rintro rfl
  simp [IsDigit] at digit

theorem IsDigit.not_isOperatorCharacter
    {character : Char}
    (digit : IsDigit character) :
    ¬ IsOperatorCharacter character := by
  intro symbol
  simp only [IsOperatorCharacter, List.mem_cons, List.not_mem_nil,
    or_false] at symbol
  rcases symbol with rfl | rfl | rfl | rfl <;> simp [IsDigit] at digit

theorem IsDigit.ne_paren
    {character : Char}
    (digit : IsDigit character) :
    character ≠ '(' ∧ character ≠ ')' := by
  constructor <;> rintro rfl <;> simp [IsDigit] at digit

theorem IsOperatorCharacter.ne_paren
    {character : Char}
    (symbol : IsOperatorCharacter character) :
    character ≠ '(' ∧ character ≠ ')' := by
  constructor <;> rintro rfl <;> simp [IsOperatorCharacter] at symbol

/-! ## Runs read by their first character -/

theorem exists_symbol_eq
    {character : Char}
    (symbol : IsOperatorCharacter character) :
    ∃ operator : Operator, operator.symbol = character := by
  simp only [IsOperatorCharacter, List.mem_cons, List.not_mem_nil,
    or_false] at symbol
  rcases symbol with rfl | rfl | rfl | rfl
  · exact ⟨.add, rfl⟩
  · exact ⟨.subtract, rfl⟩
  · exact ⟨.multiply, rfl⟩
  · exact ⟨.divide, rfl⟩

theorem isOperatorCharacter_symbol (operator : Operator) :
    IsOperatorCharacter operator.symbol :=
  isSymbol_iff.mp (Operator.isSymbol_symbol operator)

theorem toInt_literal
    {number : Nat}
    (small : number ≤ 9223372036854775807) :
    (Int64.ofNat number).toInt = number :=
  Int64.toInt_ofNat_of_lt (Nat.lt_of_le_of_lt small (by decide))

theorem ofRun_literal
    {first : Char}
    {others : List Char}
    (digit : IsDigit first) :
    Token.ofRun first others = Token.ofDigits (first :: others) := by
  rw [Token.ofRun, if_neg digit.ne_paren.1, if_neg digit.ne_paren.2,
    if_pos (isDigit_iff.mpr digit)]

theorem ofRun_symbols
    {first : Char}
    {others : List Char}
    (symbol : IsOperatorCharacter first) :
    Token.ofRun first others = Token.ofSymbols (first :: others) := by
  have notDigit : ¬ first.isDigit = true := fun digit =>
    (isDigit_iff.mp digit).not_isOperatorCharacter symbol
  rw [Token.ofRun, if_neg symbol.ne_paren.1, if_neg symbol.ne_paren.2,
    if_neg notDigit, if_pos (isSymbol_iff.mpr symbol)]

theorem exists_number_of_ofRun
    {first : Char}
    {others : List Char}
    {token : Token}
    (digit : IsDigit first)
    (found : Token.ofRun first others = .ok token) :
    ∃ value, token = .number value := by
  rw [ofRun_literal digit, Token.ofDigits] at found
  split at found
  · exact ⟨_, (Except.ok.inj found).symm⟩
  · cases found

theorem exists_operator_of_ofRun
    {first : Char}
    {others : List Char}
    {token : Token}
    (symbol : IsOperatorCharacter first)
    (found : Token.ofRun first others = .ok token) :
    others = [] ∧ ∃ operator, token = .operator operator := by
  rw [ofRun_symbols symbol, Token.ofSymbols] at found
  cases others with
  | nil =>
      rcases exists_symbol_eq symbol with ⟨operator, rfl⟩
      rw [Operator.ofRun?_symbol] at found
      exact ⟨rfl, operator, (Except.ok.inj found).symm⟩
  | cons second more => cases found

/-- Whatever the lexical rules give for a run is what the run is read as. -/
theorem LexicalRule.eq_ofRun
    {before after : List Char}
    {first : Char}
    {others : List Char}
    {item : Except TokenFault Token}
    (rule : LexicalRule before after (first :: others) item) :
    item = Token.ofRun first others := by
  cases rule with
  | leftParen => rfl
  | rightParen => rfl
  | @literal _ value maximal small same =>
      have digit : IsDigit first := maximal.inside first (by simp)
      have sameValue : value = Int64.ofNat (Decimal.value (first :: others)) :=
        Int64.toInt.inj (same.trans (toInt_literal small).symm)
      rw [ofRun_literal digit, Token.ofDigits, Token.greatestLiteral,
        if_pos small, sameValue]
  | literalOutOfRange maximal great =>
      have digit : IsDigit first := maximal.inside first (by simp)
      rw [ofRun_literal digit, Token.ofDigits, Token.greatestLiteral,
        if_neg (Nat.not_le_of_gt great)]
  | operator operator _ =>
      rw [ofRun_symbols (isOperatorCharacter_symbol operator), Token.ofSymbols,
        Operator.ofRun?_symbol]
  | unknownOperator maximal long =>
      have symbol : IsOperatorCharacter first := maximal.inside first (by simp)
      have several : others ≠ [] := by
        rintro rfl
        exact long rfl
      rw [ofRun_symbols symbol, Token.ofSymbols, Operator.ofRun?]
      simpa using several
  | unexpectedCharacter visible notDigit notSymbol =>
      simp only [List.mem_cons, List.not_mem_nil, or_false, not_or] at visible
      rw [Token.ofRun, if_neg visible.2.1, if_neg visible.2.2,
        if_neg (fun digit => notDigit (isDigit_iff.mp digit)),
        if_neg (fun symbol => notSymbol (isSymbol_iff.mp symbol))]

theorem LexicalRule.unique
    {before after run : List Char}
    {first second : Except TokenFault Token}
    (firstRule : LexicalRule before after run first)
    (secondRule : LexicalRule before after run second) :
    first = second := by
  cases run with
  | nil =>
      cases firstRule with
      | literal maximal => exact absurd rfl maximal.nonempty
      | literalOutOfRange maximal => exact absurd rfl maximal.nonempty
      | unknownOperator maximal => exact absurd rfl maximal.nonempty
  | cons character others =>
      exact firstRule.eq_ofRun.trans secondRule.eq_ofRun.symm

/-! ## Where runs begin and end -/

/-- Characters go on with each other exactly when they are of one class. -/
theorem joins_iff {first character : Char} :
    Token.joins first character = true ↔
      (IsDigit first ∧ IsDigit character) ∨
        (IsOperatorCharacter first ∧ IsOperatorCharacter character) := by
  rw [Token.joins_eq_true_iff, isDigit_iff, isDigit_iff, isSymbol_iff,
    isSymbol_iff]
  constructor
  · rintro (digits | ⟨-, symbols⟩)
    · exact Or.inl digits
    · exact Or.inr symbols
  · rintro (digits | symbols)
    · exact Or.inl digits
    · have notDigit : first.isDigit = false := by
        rw [← Bool.not_eq_true, isDigit_iff]
        intro digit
        exact digit.not_isOperatorCharacter symbols.1
      exact Or.inr ⟨notDigit, symbols⟩

namespace Token

theorem joins_comm
    (first second : Char) :
    joins first second = joins second first := by
  rw [Bool.eq_iff_iff, joins_iff, joins_iff]
  exact or_congr and_comm and_comm

theorem joins_trans
    {first second third : Char}
    (front : joins first second = true)
    (back : joins second third = true) :
    joins first third = true := by
  rw [joins_iff] at front back ⊢
  rcases front with ⟨digit, middle⟩ | ⟨symbol, middle⟩
  · rcases back with ⟨-, last⟩ | ⟨otherwise, -⟩
    · exact Or.inl ⟨digit, last⟩
    · exact absurd otherwise middle.not_isOperatorCharacter
  · rcases back with ⟨otherwise, -⟩ | ⟨-, last⟩
    · exact absurd middle otherwise.not_isOperatorCharacter
    · exact Or.inr ⟨symbol, last⟩

end Token

theorem joins_digit_iff
    {first : Char}
    (digit : IsDigit first)
    (character : Char) :
    Token.joins first character = true ↔ IsDigit character := by
  simp [joins_iff, digit, digit.not_isOperatorCharacter]

/-- No run goes on across the place between these characters. -/
def Separated (before after : List Char) : Prop :=
  ∀ last ∈ before.getLast?,
    ∀ first ∈ after.head?, Token.joins first last = false

theorem EndsRun.separated
    {before : List Char}
    {first : Char}
    {others rest : List Char}
    (ends : EndsRun first rest)
    (joined : ∀ character ∈ others, Token.joins first character = true) :
    Separated (before ++ first :: others) rest := by
  intro last lastMember next nextMember
  have member : last ∈ first :: others := by
    apply List.mem_of_getLast?
    simpa [List.getLast?_append, List.getLast?_cons] using lastMember
  have apart := ends next nextMember
  rw [← Bool.not_eq_true, Token.joins_comm]
  intro together
  rcases List.mem_cons.mp member with rfl | inOthers
  · rw [apart] at together
    cases together
  · rw [Token.joins_trans (joined last inOthers) together] at apart
    cases apart

theorem Separated.append_gap
    {before gap after : List Char}
    (separated : Separated before (gap ++ after))
    (isGap : IsGap gap) :
    Separated (before ++ gap) after := by
  intro last lastMember first firstMember
  rcases List.eq_nil_or_concat gap with rfl | ⟨spaces, space, rfl⟩
  · exact separated last (by simpa using lastMember) first firstMember
  · have isSpace : space = ' ' := isGap space (by simp)
    have isLast : space = last := by
      simpa [List.getLast?_append] using lastMember
    subst last
    rw [isSpace]
    exact Token.joins_space

theorem isMaximalRun_of_joins
    {belongs : Char → Prop}
    {before : List Char}
    {first : Char}
    {others after : List Char}
    (start : belongs first)
    (class_iff :
      ∀ character, Token.joins first character = true ↔ belongs character)
    (joined : ∀ character ∈ others, Token.joins first character = true)
    (separated : Separated before (first :: (others ++ after)))
    (ends : EndsRun first after) :
    IsMaximalRun belongs before (first :: others) after where
  nonempty := by simp
  inside := by
    intro character member
    rcases List.mem_cons.mp member with rfl | inOthers
    · exact start
    · exact (class_iff character).mp (joined character inOthers)
  left := by
    intro character member
    rw [← class_iff character, separated character member first rfl]
    simp
  right := by
    intro character member
    rw [← class_iff character, ends character member]
    simp

/-- A run that a cursor finds satisfies the lexical rules. -/
theorem lexicalRule_ofRun
    {before : List Char}
    {first : Char}
    {others after : List Char}
    (visible : first ≠ ' ')
    (joined : ∀ character ∈ others, Token.joins first character = true)
    (separated : Separated before (first :: (others ++ after)))
    (ends : EndsRun first after) :
    LexicalRule before after (first :: others) (Token.ofRun first others) := by
  by_cases digit : IsDigit first
  · have maximal :=
      isMaximalRun_of_joins digit (joins_digit_iff digit) joined separated ends
    rw [ofRun_literal digit, Token.ofDigits, Token.greatestLiteral]
    split
    · next small => exact .literal maximal small (toInt_literal small)
    · next great => exact .literalOutOfRange maximal (Nat.lt_of_not_le great)
  · by_cases symbol : IsOperatorCharacter first
    · have class_iff :
          ∀ character,
            Token.joins first character = true ↔
              IsOperatorCharacter character := by
        intro character
        simp [joins_iff, digit, symbol]
      have maximal :=
        isMaximalRun_of_joins symbol class_iff joined separated ends
      rw [ofRun_symbols symbol]
      cases others with
      | nil =>
          rcases exists_symbol_eq symbol with ⟨operator, rfl⟩
          rw [Token.ofSymbols, Operator.ofRun?_symbol]
          exact .operator operator maximal
      | cons second more =>
          exact .unknownOperator maximal (by simp)
    · have alone : others = [] := by
        apply List.eq_nil_iff_forall_not_mem.mpr
        intro character member
        rcases joins_iff.mp (joined character member) with digits | symbols
        · exact digit digits.1
        · exact symbol symbols.1
      subst others
      rw [Token.ofRun]
      split
      · next left => exact left ▸ .leftParen
      · next notLeft =>
          split
          · next right => exact right ▸ .rightParen
          · next notRight =>
              rw [if_neg (fun found => digit (isDigit_iff.mp found)),
                if_neg (fun found => symbol (isSymbol_iff.mp found))]
              exact .unexpectedCharacter (by simp [visible, notLeft, notRight])
                digit symbol

/-! ## Spans -/

/-- A column that belongs to the span of a lexeme. -/
def Placed.Covers {Item : Type} (placed : Placed Item) (column : Nat) : Prop :=
  placed.start ≤ column ∧ column ≤ placed.stop

/-- Spans lie within the characters that are cut, and none is empty. -/
theorem Lexed.span_bounds
    {consumed : Nat}
    {characters : List Char}
    {lexemes : List Lexeme}
    (cut : Lexed consumed characters lexemes) :
    ∀ lexeme ∈ lexemes,
      consumed < lexeme.start ∧ lexeme.start ≤ lexeme.stop ∧
        lexeme.stop ≤ consumed + characters.length := by
  induction cut with
  | blank isGap => simp
  | run isGap visible joined ends _ hypothesis =>
      intro lexeme member
      simp only [List.length_append, List.length_cons]
      rcases List.mem_cons.mp member with rfl | inRest
      · simp only [Cursor.lexemeAt]
        omega
      · have bounds := hypothesis lexeme inRest
        omega

theorem Lexed.pairwise_spans
    {consumed : Nat}
    {characters : List Char}
    {lexemes : List Lexeme}
    (cut : Lexed consumed characters lexemes) :
    lexemes.Pairwise fun earlier later => earlier.stop < later.start := by
  induction cut with
  | blank isGap => exact List.Pairwise.nil
  | run isGap visible joined ends following hypothesis =>
      refine List.Pairwise.cons ?_ hypothesis
      intro later member
      have bounds := following.span_bounds later member
      simp only [Cursor.lexemeAt]
      omega

theorem Lexed.length_le
    {consumed : Nat}
    {characters : List Char}
    {lexemes : List Lexeme}
    (cut : Lexed consumed characters lexemes) :
    lexemes.length ≤ characters.length := by
  induction cut with
  | blank isGap => simp
  | run isGap visible joined ends _ hypothesis =>
      simp only [List.length_append, List.length_cons]
      omega

/-- A character is a space or it is covered. -/
theorem Lexed.covers_iff
    {consumed : Nat}
    {characters : List Char}
    {lexemes : List Lexeme}
    (cut : Lexed consumed characters lexemes)
    {index : Nat}
    {character : Char}
    (found : characters[index]? = some character) :
    (∃ lexeme ∈ lexemes, lexeme.Covers (consumed + index + 1)) ↔
      character ≠ ' ' := by
  induction cut generalizing index with
  | @blank consumed gap isGap =>
      have space : character = ' ' :=
        isGap character (List.mem_of_getElem? found)
      simp [space]
  | @run consumed gap first others rest lexemes isGap visible joined ends
        following hypothesis =>
      have headCovers :
          (Cursor.lexemeAt (consumed + gap.length + 1) first others).Covers
              (consumed + index + 1) ↔
            gap.length ≤ index ∧ index ≤ gap.length + others.length := by
        simp only [Placed.Covers, Cursor.lexemeAt]
        omega
      have restBeyond :
          (∃ lexeme ∈ lexemes, lexeme.Covers (consumed + index + 1)) →
            gap.length + others.length < index := by
        rintro ⟨lexeme, member, covers⟩
        have bounds := following.span_bounds lexeme member
        simp only [Placed.Covers] at covers
        omega
      rw [List.exists_mem_cons_iff, headCovers]
      -- the character stands in the gap, in the run or behind it
      rcases Nat.lt_or_ge index gap.length with inGap | afterGap
      · rw [List.getElem?_append_left inGap] at found
        have space : character = ' ' :=
          isGap character (List.mem_of_getElem? found)
        have outside : ¬ gap.length + others.length < index := by omega
        simp only [space, ne_eq, not_true_eq_false, iff_false, not_or]
        constructor
        · intro inRun
          exact Nat.not_le_of_gt inGap inRun.1
        · intro inRest
          exact outside (restBeyond inRest)
      · rw [List.getElem?_append_right afterGap, ← List.cons_append] at found
        rcases Nat.lt_or_ge (index - gap.length) (first :: others).length with
          inRun | afterRun
        · rw [List.getElem?_append_left inRun] at found
          have notSpace : character ≠ ' ' := by
            rcases List.mem_cons.mp (List.mem_of_getElem? found) with
              rfl | inOthers
            · exact visible
            · rintro rfl
              have together := joined ' ' inOthers
              simp [Token.joins_space] at together
          simp only [List.length_cons] at inRun
          refine iff_of_true (Or.inl ?_) notSpace
          omega
        · rw [List.getElem?_append_right afterRun] at found
          simp only [List.length_cons] at afterRun found
          have moved :
              consumed + gap.length + 1 + others.length +
                  (index - gap.length - (others.length + 1)) + 1 =
                consumed + index + 1 := by
            omega
          rw [← hypothesis found, moved]
          apply or_iff_right
          omega

theorem Lexed.covers_unique
    {consumed : Nat}
    {characters : List Char}
    {lexemes : List Lexeme}
    (cut : Lexed consumed characters lexemes)
    {column : Nat}
    {first second : Lexeme}
    (firstMember : first ∈ lexemes)
    (secondMember : second ∈ lexemes)
    (firstCovers : first.Covers column)
    (secondCovers : second.Covers column) :
    first = second := by
  have apart :
      lexemes.Pairwise fun earlier later =>
        earlier.Covers column → later.Covers column → earlier = later := by
    apply cut.pairwise_spans.imp
    intro earlier later ordered earlierCovers laterCovers
    simp only [Placed.Covers] at earlierCovers laterCovers
    omega
  have flipped :
      lexemes.Pairwise
        (flip fun earlier later : Lexeme =>
          earlier.Covers column → later.Covers column → earlier = later) := by
    apply apart.imp
    intro earlier later agree laterCovers earlierCovers
    exact (agree earlierCovers laterCovers).symm
  exact
    apart.forall_of_forall_of_flip (fun _ _ _ _ => rfl) flipped firstMember
      secondMember
      firstCovers secondCovers

/-- Every lexeme is a run that satisfies the lexical rules in the whole text. -/
theorem Lexed.lexicalRule
    {consumed : Nat}
    {characters : List Char}
    {lexemes : List Lexeme}
    (cut : Lexed consumed characters lexemes)
    {front : List Char}
    (length : front.length = consumed)
    (separated : Separated front characters) :
    ∀ lexeme ∈ lexemes, ∃ before run after,
      front ++ characters = before ++ run ++ after ∧
        lexeme.start = before.length + 1 ∧
          lexeme.stop = before.length + run.length ∧
            LexicalRule before after run lexeme.item := by
  induction cut generalizing front with
  | blank isGap => simp
  | @run consumed gap first others rest lexemes isGap visible joined ends _
        hypothesis =>
      have runSeparated :
          Separated (front ++ gap) (first :: (others ++ rest)) :=
        separated.append_gap isGap
      intro lexeme member
      rcases List.mem_cons.mp member with rfl | inRest
      · refine ⟨front ++ gap, first :: others, rest, by simp, ?_, ?_, ?_⟩
        · simp [Cursor.lexemeAt, length]
        · simp only [Cursor.lexemeAt, List.length_append, List.length_cons,
            length]
          omega
        · exact lexicalRule_ofRun visible joined runSeparated ends
      · have restSeparated : Separated (front ++ gap ++ first :: others) rest :=
          ends.separated joined
        have restLength :
            (front ++ gap ++ first :: others).length =
              consumed + gap.length + 1 + others.length := by
          simp only [List.length_append, List.length_cons, length]
          omega
        have sameText :
            front ++ (gap ++ first :: (others ++ rest)) =
              front ++ gap ++ first :: others ++ rest := by
          simp
        rw [sameText]
        exact hypothesis restLength restSeparated lexeme inRest

/-- No literal writes a negative number. -/
theorem toInt_nonneg_of_lexeme
    {text : String}
    {lexeme : Lexeme}
    {value : Int64}
    (member : lexeme ∈ (Cursor.ofText text).lexemes)
    (isNumber : lexeme.item = .ok (.number value)) :
    0 ≤ value.toInt := by
  have cut := lexed_lexemes 0 text.toList
  have apart : Separated [] text.toList := by simp [Separated]
  rcases cut.lexicalRule rfl apart lexeme member with ⟨_, _, _, _, _, _, rule⟩
  rw [isNumber] at rule
  cases rule with
  | literal maximal small same =>
      rw [same]
      exact Int.natCast_nonneg _

/-! ## The whole text -/

/--
Stepping through a text finds its lexemes one after the other and then nothing,
for ever.  There are no more of them than characters; their spans follow each
other, and cover each character but the spaces once.  What stands at a span is
what the lexical rules give for it and nothing else, and it is reported at the
columns of the span: a token at its first and last, a fault at its first.
-/
theorem lexemes_partition_text (text : String) :
    (∀ count,
      ((Cursor.ofText text).skip count).next.1 =
        (Cursor.ofText text).lexemes[count]?) ∧
    (Cursor.ofText text).lexemes.length ≤ text.length ∧
    (Cursor.ofText text).lexemes.Pairwise
      (fun earlier later => earlier.stop < later.start) ∧
    (∀ index character, text.toList[index]? = some character →
      (character ≠ ' ' →
        ∃! lexeme,
          lexeme ∈ (Cursor.ofText text).lexemes ∧ lexeme.Covers (index + 1)) ∧
      (character = ' ' →
        ∀ lexeme ∈ (Cursor.ofText text).lexemes, ¬ lexeme.Covers (index + 1))) ∧
    (∀ lexeme ∈ (Cursor.ofText text).lexemes,
      lexeme.start ≤ lexeme.stop ∧ lexeme.stop ≤ text.length ∧
      ∃ before run after,
        text.toList = before ++ run ++ after ∧
        lexeme.start = before.length + 1 ∧
        lexeme.stop = before.length + run.length ∧
        LexicalRule before after run lexeme.item ∧
        (∀ item, LexicalRule before after run item → item = lexeme.item) ∧
        (∀ token, lexeme.item = .ok token →
          lexeme.token =
            .ok ⟨token, before.length + 1, before.length + run.length⟩) ∧
        (∀ fault, lexeme.item = .error fault →
          lexeme.token = .error ⟨fault, before.length + 1⟩)) := by
  have cut : Lexed 0 text.toList (Cursor.ofText text).lexemes :=
    lexed_lexemes 0 text.toList
  refine ⟨(Cursor.ofText text).next_skip, ?_, cut.pairwise_spans, ?_, ?_⟩
  · rw [← String.length_toList]
    exact cut.length_le
  · intro index character found
    have covered := cut.covers_iff found
    rw [Nat.zero_add] at covered
    constructor
    · intro visible
      rcases covered.mpr visible with ⟨lexeme, member, covers⟩
      refine ⟨lexeme, ⟨member, covers⟩, ?_⟩
      rintro other ⟨otherMember, otherCovers⟩
      exact cut.covers_unique otherMember member otherCovers covers
    · intro space lexeme member covers
      exact covered.mp ⟨lexeme, member, covers⟩ space
  · intro lexeme member
    have bounds := cut.span_bounds lexeme member
    rw [Nat.zero_add, String.length_toList] at bounds
    have apart : Separated [] text.toList := by simp [Separated]
    rcases cut.lexicalRule rfl apart lexeme member with
      ⟨before, run, after, sameText, start, stop, rule⟩
    refine
      ⟨bounds.2.1, bounds.2.2, before, run, after, sameText, start, stop, rule,
        ?_, ?_, ?_⟩
    · intro item otherRule
      exact otherRule.unique rule
    · intro token isToken
      rw [Placed.token, isToken, start, stop]
    · intro fault isFault
      rw [Placed.token, isFault, start]

end Reckoner
