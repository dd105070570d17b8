import Reckoner.Proofs.Continuation
import Reckoner.Proofs.Rendering
import Reckoner.Proofs.Replacement

/-!
# Tokens written and read back

Any tokens may be written in a row, whether or not they make a formula, as long
as a space stands between each two: then no run goes on from one into the next,
and the text is read as these tokens at the columns where they were written.

A text that splits into tokens has a normal form, in which the tokens stand with
one space between each two.  It is its own normal form and comes to the same as
the text.  All that it loses are zeros before numbers and further spaces.
-/

namespace Reckoner

/-! ## Zeros before a number -/

theorem IsDigit.digitChar_eq
    {character : Char}
    (digit : IsDigit character) :
    ∃ value < 10,
      Nat.digitChar value = character ∧ Decimal.value [character] = value := by
  have bounds : 48 ≤ character.toNat ∧ character.toNat ≤ 57 := digit
  have small : character.toNat - 48 < 10 := by omega
  refine ⟨character.toNat - 48, small, ?_, ?_⟩
  · apply Char.toNat_inj.mp
    rw [Nat.toNat_digitChar_of_lt_ten small]
    omega
  · simp [Decimal.value, Nat.ofDigitChars]

/-- A run of digits is the numeral of its value with zeros before it. -/
theorem exists_zeros_of_digits
    {run : List Char}
    (nonempty : run ≠ [])
    (digits : ∀ character ∈ run, IsDigit character) :
    ∃ zeros,
      run = List.replicate zeros '0' ++ Decimal.digits (Decimal.value run) := by
  induction run using List.reverseRecOn with
  | nil => exact absurd rfl nonempty
  | append_singleton front last hypothesis =>
      obtain ⟨final, small, rfl, single⟩ := (digits last (by simp)).digitChar_eq
      have valued : Decimal.value (front ++ [Nat.digitChar final]) =
          10 * Decimal.value front + final := by
        rw [Decimal.value, Nat.ofDigitChars_append,
          Nat.ofDigitChars_cons_digitChar_of_lt_ten small]
        rfl
      have numeral : Decimal.digits final = [Nat.digitChar final] :=
        Nat.toDigits_of_lt_base small
      rcases eq_or_ne front [] with rfl | some
      · refine ⟨0, ?_⟩
        rw [List.nil_append, single, numeral]
        rfl
      · rcases hypothesis some fun character member =>
            digits character (List.mem_append_left _ member) with ⟨zeros, split⟩
        rw [valued]
        rcases Nat.eq_zero_or_pos (Decimal.value front) with zero | positive
        · -- the digits before the last are zeros, and so is their numeral
          refine ⟨zeros + 1, ?_⟩
          rw [zero, Nat.mul_zero, Nat.zero_add, numeral, List.replicate_succ']
          rw [zero] at split
          exact congrArg (· ++ [Nat.digitChar final]) split
        · refine ⟨zeros, ?_⟩
          rw [Decimal.digits,
            ← Nat.toDigits_append_toDigits (by decide) positive small,
            ← List.append_assoc, ← Decimal.digits, ← Decimal.digits, ← split,
            numeral]

namespace Token

/-- The characters write the token, a number perhaps with zeros before it. -/
def WrittenBy (token : Token) (run : List Char) : Prop :=
  ∃ zeros, run = List.replicate zeros '0' ++ token.text.toList ∧
    (zeros = 0 ∨ ∃ value, token = number value)

theorem writtenBy_text (token : Token) : token.WrittenBy token.text.toList :=
  ⟨0, rfl, .inl rfl⟩

/-- A run that is read as a token writes it. -/
theorem writtenBy_of_ofRun
    {first : Char}
    {others : List Char}
    {token : Token}
    (joined : ∀ character ∈ others, joins first character = true)
    (found : ofRun first others = .ok token) :
    token.WrittenBy (first :: others) := by
  by_cases digit : IsDigit first
  · have digits : ∀ character ∈ first :: others, IsDigit character :=
      List.forall_mem_cons.mpr ⟨digit, fun character member =>
        (joins_digit_iff digit character).mp (joined character member)⟩
    rcases exists_zeros_of_digits (List.cons_ne_nil _ _) digits with
      ⟨zeros, split⟩
    rw [ofRun_literal digit, ofDigits] at found
    split at found
    · next small =>
        cases found
        refine ⟨zeros, ?_, .inr ⟨_, rfl⟩⟩
        have literal := toInt_literal small
        have nonneg :
            0 ≤ (Int64.ofNat (Decimal.value (first :: others))).toInt := by
          rw [literal]
          exact Int.natCast_nonneg _
        rw [text, Decimal.signed_eq_natural nonneg, literal, Int.toNat_natCast,
          Decimal.natural, String.toList_ofList]
        exact split
    · cases found
  · obtain rfl := eq_nil_of_ofRun digit joined found
    rcases class_of_ofRun found with
      ⟨rfl, rfl⟩ | ⟨rfl, rfl⟩ | ⟨isDigit, -⟩ | ⟨symbol, -⟩
    · exact writtenBy_text leftParen
    · exact writtenBy_text rightParen
    · exact absurd isDigit digit
    · rcases exists_symbol_eq symbol with ⟨operator, rfl⟩
      rw [ofRun_symbols symbol, ofSymbols, Operator.ofRun?_symbol] at found
      cases found
      have symbol : (Token.operator operator).text.toList = [operator.symbol] :=
        String.toList_singleton _
      rw [← symbol]
      exact writtenBy_text (.operator operator)

end Token

/--
The visible characters of a text are those of its tokens, and zeros
before numbers.
-/
theorem Lexed.exists_written
    {consumed : Nat}
    {characters : List Char}
    {found : List (Placed Token)}
    (cut : Lexed consumed characters (found.map Placed.lexeme)) :
    ∃ runs, List.Forall₂ Token.WrittenBy (found.map Placed.item) runs ∧
      visible characters = runs.flatten := by
  generalize lexemes : found.map Placed.lexeme = all at cut
  induction cut generalizing found with
  | blank isGap =>
      obtain rfl := List.map_eq_nil_iff.mp lexemes
      exact ⟨[], .nil, visible_eq_nil_iff.mpr isGap⟩
  | @run consumed gap first others rest _ isGap shown joined ends _
        hypothesis =>
      rcases List.map_eq_cons_iff.mp lexemes with
        ⟨placed, more, rfl, here, following⟩
      rcases hypothesis following with ⟨runs, written, visibleRest⟩
      have read : Token.ofRun first others = .ok placed.item :=
        (congrArg Placed.item here).symm
      have run : ∀ character ∈ first :: others, character ≠ ' ' :=
        List.forall_mem_cons.mpr ⟨shown, fun character member =>
          ne_space_of_joins (joined character member)⟩
      refine ⟨(first :: others) :: runs, ?_, ?_⟩
      · exact .cons (Token.writtenBy_of_ofRun joined read) written
      · rw [visible_append, visible_eq_nil_iff.mpr isGap, List.nil_append,
          ← List.cons_append, visible_append, visible_eq_self run, visibleRest,
          List.flatten_cons]

/-! ## Tokens in a row -/

/--
Tokens in a row, each with the number of spaces behind it, and spaces
before the first.
-/
def rowText (margin : Nat) : List (Token × Nat) → List Char
  | [] => List.replicate margin ' '
  | (token, behind) :: rest =>
      List.replicate margin ' ' ++ (token.text.toList ++ rowText behind rest)

/--
The tokens of a row at the columns of their texts, the row standing behind
other characters.
-/
def rowPlaces (consumed margin : Nat) : List (Token × Nat) → List (Placed Token)
  | [] => []
  | (token, behind) :: rest =>
      ⟨token, consumed + margin + 1, consumed + margin + token.text.length⟩ ::
        rowPlaces (consumed + margin + token.text.length) behind rest

/-- There is a space behind each token but the last. -/
def IsSpaced (cells : List (Token × Nat)) : Prop :=
  ∀ cell ∈ cells.dropLast, 0 < cell.2

theorem isGap_replicate (count : Nat) : IsGap (List.replicate count ' ') :=
  fun _ member => List.eq_of_mem_replicate member

theorem map_item_rowPlaces
    (consumed margin : Nat)
    (cells : List (Token × Nat)) :
    (rowPlaces consumed margin cells).map Placed.item = cells.map Prod.fst := by
  induction cells generalizing consumed margin with
  | nil => rfl
  | cons cell rest hypothesis =>
      rw [rowPlaces, List.map_cons, List.map_cons, hypothesis]

theorem IsSpaced.tail
    {cell : Token × Nat}
    {rest : List (Token × Nat)}
    (spaced : IsSpaced (cell :: rest)) :
    IsSpaced rest := by
  intro other member
  apply spaced other
  cases rest with
  | nil => cases member
  | cons next more => exact List.mem_cons_of_mem _ member

/--
What stands behind a token of a row begins with a space, if there is anything.
-/
theorem IsSpaced.endsRun
    {token : Token}
    {behind : Nat}
    {rest : List (Token × Nat)}
    (spaced : IsSpaced ((token, behind) :: rest))
    (first : Char) :
    EndsRun first (rowText behind rest) := by
  have begins : ∀ character ∈ (rowText behind rest).head?, character = ' ' := by
    intro character member
    cases rest with
    | nil => exact isGap_replicate behind character (List.mem_of_head? member)
    | cons next more =>
        obtain ⟨fewer, rfl⟩ : ∃ fewer, behind = fewer + 1 :=
          Nat.exists_eq_succ_of_ne_zero
            (Nat.ne_of_gt (spaced (token, behind) List.mem_cons_self))
        cases member
        rfl
  intro character member
  rw [begins character member]
  exact Token.joins_space

/-- The lexemes of a row are its tokens. -/
theorem lexed_rowText
    {cells : List (Token × Nat)}
    (natural : ∀ cell ∈ cells, cell.1.IsNatural)
    (spaced : IsSpaced cells)
    (consumed margin : Nat) :
    Lexed consumed (rowText margin cells)
      ((rowPlaces consumed margin cells).map Placed.lexeme) := by
  induction cells generalizing consumed margin with
  | nil => exact .blank (isGap_replicate margin)
  | cons cell rest hypothesis =>
      rcases cell with ⟨token, behind⟩
      have naturalRest : ∀ cell ∈ rest, cell.1.IsNatural :=
        fun cell member => natural cell (List.mem_cons_of_mem _ member)
      rcases (natural (token, behind) List.mem_cons_self).exists_run with
        ⟨first, others, text, shown, joined, found⟩
      have length : token.text.length = 1 + others.length := by
        rw [← String.length_toList, text, List.length_cons, Nat.add_comm]
      have following := hypothesis naturalRest spaced.tail
        (consumed + (List.replicate margin ' ').length + 1 + others.length)
        behind
      have whole :=
        Lexed.run (isGap_replicate margin) shown joined (spaced.endsRun first)
          following
      rw [rowText, rowPlaces, text, length, List.map_cons, Placed.lexeme,
        List.cons_append]
      rw [Cursor.lexemeAt, found, List.length_replicate] at whole
      simpa only [Nat.add_assoc] using whole

/-- Every token of a row is written at its columns. -/
theorem exists_text_of_mem_rowPlaces
    {cells : List (Token × Nat)}
    {placed : Placed Token}
    (front : List Char)
    (margin : Nat)
    (member : placed ∈ rowPlaces front.length margin cells) :
    ∃ before after,
      front ++ rowText margin cells =
        before ++ placed.item.text.toList ++ after ∧
        placed.start = before.length + 1 ∧
          placed.stop = before.length + placed.item.text.length := by
  induction cells generalizing front margin with
  | nil => cases member
  | cons cell rest hypothesis =>
      rcases cell with ⟨token, behind⟩
      rw [rowText]
      rcases List.mem_cons.mp member with rfl | later
      · refine
          ⟨front ++ List.replicate margin ' ', rowText behind rest, ?_, ?_, ?_⟩
        · simp only [List.append_assoc]
        · rw [List.length_append, List.length_replicate]
        · rw [List.length_append, List.length_replicate]
      · have grown :
            (front ++ List.replicate margin ' ' ++ token.text.toList).length =
              front.length + margin + token.text.length := by
          rw [List.length_append, List.length_append, List.length_replicate,
            String.length_toList]
        rw [← grown] at later
        have inRest := hypothesis _ behind later
        simpa only [List.append_assoc] using inRest

theorem visible_rowText
    {cells : List (Token × Nat)}
    (natural : ∀ cell ∈ cells, cell.1.IsNatural)
    (margin : Nat) :
    visible (rowText margin cells) =
      ((cells.map Prod.fst).map fun token => token.text.toList).flatten := by
  induction cells generalizing margin with
  | nil => exact visible_eq_nil_iff.mpr (isGap_replicate margin)
  | cons cell rest hypothesis =>
      rcases (natural cell List.mem_cons_self).exists_run with
        ⟨first, others, text, shown, joined, -⟩
      have run : visible cell.1.text.toList = cell.1.text.toList := by
        rw [text]
        exact visible_eq_self
          (List.forall_mem_cons.mpr ⟨shown, fun character member =>
          ne_space_of_joins (joined character member)⟩)
      have following :=
        hypothesis
          (fun cell member => natural cell (List.mem_cons_of_mem _ member))
      rw [rowText, visible_append,
        visible_eq_nil_iff.mpr (isGap_replicate margin), List.nil_append,
        visible_append, run, following]
      rfl

/-! ## The normal form of a text -/

/-- The texts of tokens with one space between each two. -/
def joinTokens (run : List Token) : String :=
  joinWords (run.map Token.text)

/-- A text written anew from its tokens, if it splits into tokens. -/
def normalForm (text : String) : Except TokenError String :=
  (tokens text).map fun found => joinTokens (found.map Placed.item)

/-- Tokens with one space between each two, as a row. -/
def singleSpaced : List Token → List (Token × Nat)
  | [] => []
  | [token] => [(token, 0)]
  | token :: next :: rest => (token, 1) :: singleSpaced (next :: rest)

theorem map_fst_singleSpaced
    (run : List Token) :
    (singleSpaced run).map Prod.fst = run := by
  induction run with
  | nil => rfl
  | cons token rest hypothesis =>
      cases rest with
      | nil => rfl
      | cons next more => rw [singleSpaced, List.map_cons, hypothesis]

theorem isNatural_singleSpaced
    {run : List Token}
    (natural : ∀ token ∈ run, token.IsNatural) :
    ∀ cell ∈ singleSpaced run, cell.1.IsNatural := by
  intro cell member
  apply natural
  rw [← map_fst_singleSpaced run]
  exact List.mem_map_of_mem member

theorem isSpaced_singleSpaced
    (run : List Token) :
    IsSpaced (singleSpaced run) := by
  induction run with
  | nil => simp [IsSpaced, singleSpaced]
  | cons token rest hypothesis =>
      cases rest with
      | nil => simp [IsSpaced, singleSpaced]
      | cons next more =>
          obtain ⟨second, others, shape⟩ :
              ∃ second others,
                singleSpaced (next :: more) = second :: others := by
            cases more <;> exact ⟨_, _, rfl⟩
          rw [singleSpaced, shape]
          rw [shape] at hypothesis
          intro cell member
          rw [List.dropLast_cons_cons] at member
          rcases List.mem_cons.mp member with rfl | later
          · exact Nat.one_pos
          · exact hypothesis cell later

/-- The spaces before a row. -/
theorem rowText_eq_append (margin : Nat) (cells : List (Token × Nat)) :
    rowText margin cells = List.replicate margin ' ' ++ rowText 0 cells := by
  cases cells with
  | nil => exact (List.append_nil _).symm
  | cons cell rest => rfl

theorem toList_joinTokens (run : List Token) :
    (joinTokens run).toList = rowText 0 (singleSpaced run) := by
  induction run with
  | nil => rfl
  | cons token rest hypothesis =>
      cases rest with
      | nil =>
          rw [joinTokens, List.map_singleton, joinWords_singleton, singleSpaced,
            rowText, rowText]
          simp
      | cons next more =>
          rw [joinTokens, List.map_cons, List.map_cons, joinWords_cons_cons,
            ← List.map_cons, ← joinTokens, String.toList_append,
            String.toList_append, hypothesis, singleSpaced, rowText,
            rowText_eq_append 1]
          simp

theorem tokens_of_toList
    {text : String}
    {margin : Nat}
    {cells : List (Token × Nat)}
    (row : text.toList = rowText margin cells)
    (natural : ∀ cell ∈ cells, cell.1.IsNatural)
    (spaced : IsSpaced cells) :
    tokens text = .ok (rowPlaces 0 margin cells) := by
  rw [tokens_eq_ok_iff, Cursor.ofText, row]
  exact lexed_iff.mp (lexed_rowText natural spaced 0 margin)

theorem tokens_joinTokens
    {run : List Token}
    (natural : ∀ token ∈ run, token.IsNatural) :
    tokens (joinTokens run) = .ok (rowPlaces 0 0 (singleSpaced run)) :=
  tokens_of_toList (toList_joinTokens run) (isNatural_singleSpaced natural)
    (isSpaced_singleSpaced run)

theorem normalForm_joinTokens
    {run : List Token}
    (natural : ∀ token ∈ run, token.IsNatural) :
    normalForm (joinTokens run) = .ok (joinTokens run) := by
  rw [normalForm, tokens_joinTokens natural, Except.map, map_item_rowPlaces,
    map_fst_singleSpaced]

theorem Token.number?_eq_some_iff
    {token : Token}
    {value : Int64} :
    token.number? = some value ↔ token = .number value := by
  cases token <;> simp [Token.number?]

/-- The tokens of a text write no negative numbers. -/
theorem isNatural_of_tokens
    {text : String}
    {found : List (Placed Token)}
    (split : tokens text = .ok found) :
    ∀ token ∈ found.map Placed.item, token.IsNatural := by
  intro token member value isNumber
  rcases List.mem_map.mp member with ⟨placed, inFound, rfl⟩
  have inLexemes : placed.lexeme ∈ (Cursor.ofText text).lexemes := by
    rw [tokens_eq_ok_iff.mp split]
    exact List.mem_map_of_mem inFound
  apply toInt_nonneg_of_lexeme inLexemes
  exact congrArg Except.ok (Token.number?_eq_some_iff.mp isNumber)

/--
Tokens are read back from their texts.

Take any tokens whose numbers are not negative, put any number of spaces before
and behind them and at least one between each two.  The text splits into exactly
these tokens, each at the columns where its own text stands.

So a text that splits into tokens has a normal form.  The normal form of the
normal form is the same, and it comes to what the text comes to, but for
columns.  Its visible characters are the texts of the tokens in turn, and those
of the text are the same but for zeros before numbers.
-/
theorem tokens_read_back :
    (∀ margin cells,
      (∀ cell ∈ cells, Token.IsNatural cell.1) → IsSpaced cells →
      tokens (String.ofList (rowText margin cells)) =
          .ok (rowPlaces 0 margin cells) ∧
        (rowPlaces 0 margin cells).map Placed.item = cells.map Prod.fst ∧
        ∀ placed ∈ rowPlaces 0 margin cells, ∃ before after,
          rowText margin cells = before ++ placed.item.text.toList ++ after ∧
            placed.start = before.length + 1 ∧
              placed.stop = before.length + placed.item.text.length) ∧
    ∀ text found,
      tokens text = .ok found →
      ∃ normal,
        normalForm text = .ok normal ∧
          normalForm normal = .ok normal ∧
          (calculate normal).Alike (calculate text) ∧
          visible normal.toList =
            (found.map fun placed => placed.item.text.toList).flatten ∧
          ∃ runs, List.Forall₂ Token.WrittenBy (found.map Placed.item) runs ∧
            visible text.toList = runs.flatten := by
  constructor
  · intro margin cells natural spaced
    refine ⟨tokens_of_toList String.toList_ofList natural spaced,
      map_item_rowPlaces 0 margin cells, ?_⟩
    intro placed member
    exact exists_text_of_mem_rowPlaces [] margin member
  · intro text found split
    have natural := isNatural_of_tokens split
    have items :
        itemsOf (joinTokens (found.map Placed.item)) = itemsOf text := by
      rw [itemsOf_eq_iff.mpr ⟨found, split, rfl⟩]
      refine itemsOf_eq_iff.mpr ⟨_, tokens_joinTokens natural, ?_⟩
      rw [map_item_rowPlaces, map_fst_singleSpaced]
    refine
      ⟨joinTokens (found.map Placed.item), ?_, normalForm_joinTokens natural,
      alike_of_items items, ?_, ?_⟩
    · rw [normalForm, split, Except.map]
    · rw [toList_joinTokens, visible_rowText (isNatural_singleSpaced natural),
        map_fst_singleSpaced, List.map_map]
      rfl
    · have cut := lexed_lexemes 0 text.toList
      rw [← Cursor.ofText, tokens_eq_ok_iff.mp split] at cut
      exact cut.exists_written

/-- Tokens that no formula has in this order, the greatest number among them. -/
theorem tokens_read_back_unordered :
    let cells : List (Token × Nat) :=
      [(.rightParen, 1), (.number 9223372036854775807, 3), (.number 0, 2),
        (.operator .add, 1)]
    (∀ cell ∈ cells, Token.IsNatural cell.1) ∧ IsSpaced cells ∧
      tokens "  ) 9223372036854775807   0  + " =
        .ok
          [⟨.rightParen, 3, 3⟩, ⟨.number 9223372036854775807, 5, 23⟩,
            ⟨.number 0, 27, 27⟩,
          ⟨.operator .add, 30, 30⟩] ∧
      tokens "007*  (" =
        .ok
          [⟨.number 7, 1, 3⟩, ⟨.operator .multiply, 4, 4⟩, ⟨.leftParen, 7, 7⟩] ∧
      normalForm "007*  (" = .ok "7 * (" ∧
      (calculate "7 * (").Alike (calculate "007*  (") := by
  intro cells
  have natural : ∀ cell ∈ cells, Token.IsNatural cell.1 := by
    intro cell member value number
    simp only [cells, List.mem_cons, List.not_mem_nil, or_false] at member
    rcases member with rfl | rfl | rfl | rfl <;> cases number <;> decide
  have spaced : IsSpaced cells := by
    unfold cells IsSpaced
    decide
  have row :
      String.ofList (rowText 2 cells) = "  ) 9223372036854775807   0  + " := by
    decide +kernel
  have split :
      tokens "007*  (" =
        .ok
          [⟨.number 7, 1, 3⟩, ⟨.operator .multiply, 4, 4⟩,
            ⟨.leftParen, 7, 7⟩] := by
    decide +kernel
  have normalized : normalForm "007*  (" = .ok "7 * (" := by decide +kernel
  rcases tokens_read_back.2 "007*  (" _ split with ⟨normal, found, -, alike, -⟩
  obtain rfl : "7 * (" = normal := Except.ok.inj (normalized.symm.trans found)
  refine ⟨natural, spaced, ?_, split, normalized, alike⟩
  rw [← row, (tokens_read_back.1 2 cells natural spaced).1]
  decide +kernel

end Reckoner
