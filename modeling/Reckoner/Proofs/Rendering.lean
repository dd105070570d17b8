import Reckoner.Proofs.InStep
import Reckoner.Proofs.Spacing

/-!
# Writing a tree as a formula

A tree is written from left to right, and a part of it is put in parentheses
only where the levels of the operators ask for it: to the left of an operator
that binds more tightly, and to the right of one that does not bind more
loosely.  Any part may be put in further parentheses, and any number of spaces
may be put between the pieces.

The grammar gives a tree to some tokens exactly if they write it in this sense,
so none of the parentheses of `Expr.render` can be left out.  Neighbouring
pieces of a formula never grow together, so spaces make no difference.
`parse_of_writes` is the main theorem.
-/

namespace Reckoner

/-! ## Parentheses -/

/-- Tokens in parentheses. -/
def enclosed (run : List Token) : List Token :=
  .leftParen :: (run ++ [.rightParen])

/-- Tokens, in parentheses if they are needed. -/
def enclosedIf (needed : Bool) (run : List Token) : List Token :=
  if needed then enclosed run else run

namespace Expr

/--
Whether the tree has an operator, and that binds more loosely than another.
-/
def looserThan (operator : Operator) : Expr → Bool
  | number _ => false
  | binary _ inner _ => operator.level < inner.level

/--
Whether the tree has an operator, and that does not bind more
tightly than another.
-/
def noTighterThan (operator : Operator) : Expr → Bool
  | number _ => false
  | binary _ inner _ => operator.level ≤ inner.level

/-- The tokens of a tree, with no more parentheses than it needs. -/
def render : Expr → List Token
  | number value => [.number value]
  | binary left operator right =>
      enclosedIf (left.looserThan operator) left.render ++
        .operator operator ::
          enclosedIf (right.noTighterThan operator) right.render

end Expr

/--
The tokens write the tree, any part of which may stand in further parentheses.
-/
inductive Writes : List Token → Expr → Prop where
  | number (value : Int64) :
      Writes [.number value] (.number value)
  | binary {front back : List Token} {left right : Expr} {operator : Operator} :
      Writes front left →
      Writes back right →
      Writes
        (enclosedIf (left.looserThan operator) front ++
          .operator operator :: enclosedIf (right.noTighterThan operator) back)
        (.binary left operator right)
  | further {run : List Token} {expr : Expr} :
      Writes run expr →
      Writes (enclosed run) expr

theorem writes_render (expr : Expr) : Writes expr.render expr := by
  induction expr with
  | number value => exact .number value
  | binary left operator right leftWrites rightWrites =>
      exact .binary leftWrites rightWrites

theorem enclosedIf_sublist
    {run other : List Token}
    (sub : run.Sublist other)
    (needed : Bool) :
    (enclosedIf needed run).Sublist (enclosedIf needed other) := by
  cases needed with
  | false => exact sub
  | true => exact (sub.append (List.Sublist.refl _)).cons_cons .leftParen

/-- Whatever writes a tree has all the parentheses of its rendering. -/
theorem Writes.render_sublist
    {run : List Token}
    {expr : Expr}
    (writes : Writes run expr) :
    expr.render.Sublist run := by
  induction writes with
  | number value => exact List.Sublist.refl _
  | binary _ _ left right =>
      apply (enclosedIf_sublist left _).append
      exact (enclosedIf_sublist right _).cons_cons _
  | further _ hypothesis =>
      exact (hypothesis.trans (List.sublist_append_left _ _)).cons _

/-! ## Strata -/

/-- The strata in order, from the tightest. -/
def Stratum.rank : Stratum → Nat
  | factor => 0
  | term => 1
  | expression => 2

/--
The stratum of the phrases that an operator makes, which is that of
its left operand.
-/
def Operator.stratum : Operator → Stratum
  | multiply => .term
  | divide => .term
  | add => .expression
  | subtract => .expression

/-- The stratum of the right operand of an operator. -/
def Operator.rightStratum : Operator → Stratum
  | multiply => .factor
  | divide => .factor
  | add => .term
  | subtract => .term

/--
The tightest stratum of a tree that is written without parentheses around it.
-/
def Expr.stratum : Expr → Stratum
  | number _ => .factor
  | binary _ operator _ => operator.stratum

theorem Operator.rank_stratum
    (operator : Operator) :
    operator.stratum.rank = operator.level := by
  cases operator <;> rfl

theorem Operator.rank_rightStratum (operator : Operator) :
    operator.rightStratum.rank + 1 = operator.level := by
  cases operator <;> rfl

theorem Expr.looserThan_iff {operator : Operator} {expr : Expr} :
    expr.looserThan operator = true ↔
      operator.stratum.rank < expr.stratum.rank := by
  cases expr with
  | number value => simp [looserThan, stratum, Stratum.rank]
  | binary left inner right =>
      rw [looserThan, decide_eq_true_iff, stratum, Operator.rank_stratum,
        Operator.rank_stratum]

theorem Expr.noTighterThan_iff {operator : Operator} {expr : Expr} :
    expr.noTighterThan operator = true ↔
      operator.rightStratum.rank < expr.stratum.rank := by
  cases expr with
  | number value => simp [noTighterThan, stratum, Stratum.rank]
  | binary left inner right =>
      rw [noTighterThan, decide_eq_true_iff, stratum, Operator.rank_stratum,
        ← operator.rank_rightStratum, Nat.succ_le_iff]

namespace Derives

/-- An operator makes a phrase of its stratum, whatever its operands are. -/
theorem binary
    {front back : List Token}
    {left right : Expr}
    {operator : Operator}
    (leftDerived : Derives operator.stratum front left)
    (rightDerived : Derives operator.rightStratum back right) :
    Derives operator.stratum (front ++ .operator operator :: back)
      (.binary left operator right) := by
  cases operator with
  | multiply => exact .product (Or.inl rfl) leftDerived rightDerived
  | divide => exact .product (Or.inr rfl) leftDerived rightDerived
  | add => exact .sum (Or.inl rfl) leftDerived rightDerived
  | subtract => exact .sum (Or.inr rfl) leftDerived rightDerived

/-- A phrase of a stratum is one of every looser stratum. -/
theorem loosen
    {stratum other : Stratum}
    {run : List Token}
    {expr : Expr}
    (derived : Derives stratum run expr)
    (looser : stratum.rank ≤ other.rank) :
    Derives other run expr := by
  cases other with
  | expression => exact derived.expression
  | term =>
      cases stratum with
      | factor => exact .ofFactor derived
      | term => exact derived
      | expression => simp [Stratum.rank] at looser
  | factor =>
      cases stratum with
      | factor => exact derived
      | term => simp [Stratum.rank] at looser
      | expression => simp [Stratum.rank] at looser

/-- Parentheses where they are needed make a phrase of any other stratum. -/
theorem enclosedIf
    {stratum other : Stratum}
    {run : List Token}
    {expr : Expr}
    {needed : Bool}
    (derived : Derives stratum run expr)
    (needed_iff : needed = true ↔ other.rank < stratum.rank) :
    Derives other (enclosedIf needed run) expr := by
  cases needed with
  | true => exact .loosen (.group derived.expression) (Nat.zero_le _)
  | false => exact derived.loosen (by simpa using needed_iff)

end Derives

/-! ## What is written and what the grammar gives -/

theorem Writes.derives
    {run : List Token}
    {expr : Expr}
    (writes : Writes run expr) :
    Derives expr.stratum run expr := by
  induction writes with
  | number value => exact .number value
  | binary _ _ leftDerived rightDerived =>
      apply Derives.binary
      · exact leftDerived.enclosedIf Expr.looserThan_iff
      · exact rightDerived.enclosedIf Expr.noTighterThan_iff
  | further _ derived =>
      exact .loosen (.group derived.expression) (Nat.zero_le _)

/--
The tokens are those of a tree, in parentheses if its stratum is
looser than another.
-/
def WritesIn (stratum : Stratum) (run : List Token) (expr : Expr) : Prop :=
  Writes run expr ∧
    (stratum.rank < expr.stratum.rank →
      ∃ inner, run = enclosed inner ∧ Writes inner expr)

theorem WritesIn.exists_enclosedIf
    {stratum : Stratum}
    {run : List Token}
    {expr : Expr}
    {needed : Bool}
    (writes : WritesIn stratum run expr)
    (needed_iff : needed = true ↔ stratum.rank < expr.stratum.rank) :
    ∃ inner, run = enclosedIf needed inner ∧ Writes inner expr := by
  cases needed with
  | true => exact writes.2 (needed_iff.mp rfl)
  | false => exact ⟨run, rfl, writes.1⟩

theorem WritesIn.binary
    {front back : List Token}
    {left right : Expr}
    (operator : Operator)
    (leftWrites : WritesIn operator.stratum front left)
    (rightWrites : WritesIn operator.rightStratum back right) :
    WritesIn operator.stratum (front ++ .operator operator :: back)
      (.binary left operator right) := by
  rcases leftWrites.exists_enclosedIf Expr.looserThan_iff with
    ⟨leftInner, rfl, leftInside⟩
  rcases rightWrites.exists_enclosedIf Expr.noTighterThan_iff with
    ⟨rightInner, rfl, rightInside⟩
  refine ⟨.binary leftInside rightInside, ?_⟩
  intro looser
  exact absurd looser (Nat.lt_irrefl _)

theorem WritesIn.loosen
    {stratum other : Stratum}
    {run : List Token}
    {expr : Expr}
    (writes : WritesIn stratum run expr)
    (looser : stratum.rank ≤ other.rank) :
    WritesIn other run expr :=
  ⟨writes.1, fun needed => writes.2 (Nat.lt_of_le_of_lt looser needed)⟩

theorem Derives.writesIn
    {stratum : Stratum}
    {run : List Token}
    {expr : Expr}
    (derived : Derives stratum run expr) :
    WritesIn stratum run expr := by
  induction derived with
  | number value =>
      exact ⟨.number value, fun looser => absurd looser (Nat.lt_irrefl _)⟩
  | @group inner expr _ hypothesis =>
      exact ⟨.further hypothesis.1, fun _ => ⟨inner, rfl, hypothesis.1⟩⟩
  | ofFactor _ hypothesis => exact hypothesis.loosen (by decide)
  | ofTerm _ hypothesis => exact hypothesis.loosen (by decide)
  | product isProduct _ _ leftWrites rightWrites =>
      rcases isProduct with rfl | rfl
      · exact .binary .multiply leftWrites rightWrites
      · exact .binary .divide leftWrites rightWrites
  | sum isSum _ _ leftWrites rightWrites =>
      rcases isSum with rfl | rfl
      · exact .binary .add leftWrites rightWrites
      · exact .binary .subtract leftWrites rightWrites

/-- The grammar gives a tree to the tokens that write it and to no others. -/
theorem derives_iff_writes {run : List Token} {expr : Expr} :
    Derives .expression run expr ↔ Writes run expr :=
  ⟨fun derived => derived.writesIn.1, fun writes => writes.derives.expression⟩

/-! ## Pieces with spaces between them -/

/--
The texts of the tokens in order, with any number of spaces before, between
and behind them.
-/
inductive Spread : List Token → List Char → Prop where
  | blank {gap : List Char} :
      IsGap gap →
      Spread [] gap
  | piece {token : Token} {run : List Token} {gap rest : List Char} :
      IsGap gap →
      Spread run rest →
      Spread (token :: run) (gap ++ (token.text.toList ++ rest))

/-- There need not be any spaces. -/
theorem spread_join
    (run : List Token) :
    Spread run (String.join (run.map Token.text)).toList := by
  induction run with
  | nil => exact .blank .nil
  | cons token rest hypothesis =>
      rw [List.map_cons, String.join_cons, String.toList_append,
        ← List.nil_append (_ ++ _)]
      exact .piece .nil hypothesis

/-- A number that a literal can write, if the token is one. -/
def Token.IsNatural (token : Token) : Prop :=
  ∀ value ∈ token.number?, 0 ≤ value.toInt

theorem Decimal.signed_eq_natural
    {value : Int64}
    (nonneg : 0 ≤ value.toInt) :
    Decimal.signed value = Decimal.natural value.toInt.toNat := by
  have notNegative : ¬ value < 0 := by
    rw [Int64.lt_iff_toInt_lt, Int64.toInt_zero]
    omega
  have same : value.toInt.natAbs = value.toInt.toNat := by omega
  rw [Decimal.signed, if_neg notNegative, same, Decimal.natural]

/-- The text of a token is one run, and it is read as the token. -/
theorem Token.IsNatural.exists_run
    {token : Token}
    (natural : token.IsNatural) :
    ∃ first others, token.text.toList = first :: others ∧ first ≠ ' ' ∧
      (∀ character ∈ others, Token.joins first character = true) ∧
        Token.ofRun first others = .ok token := by
  cases token with
  | leftParen => exact ⟨'(', [], rfl, by decide, by simp, rfl⟩
  | rightParen => exact ⟨')', [], rfl, by decide, by simp, rfl⟩
  | operator found =>
      refine
        ⟨found.symbol, [], String.toList_singleton _, by cases found <;> decide,
          by simp, ?_⟩
      rw [ofRun_symbols (isOperatorCharacter_symbol found), Token.ofSymbols,
        Operator.ofRun?_symbol]
  | number value =>
      have nonneg : 0 ≤ value.toInt := natural value rfl
      rcases exists_run_digits nonneg with
        ⟨first, others, run, allDigits, found⟩
      have firstDigit : IsDigit first := allDigits first List.mem_cons_self
      rw [Token.text, Decimal.signed_eq_natural nonneg, Decimal.natural,
        String.toList_ofList, run]
      refine ⟨first, others, rfl, firstDigit.ne_space, ?_, found⟩
      intro character member
      rw [joins_digit_iff firstDigit]
      exact allDigits character (List.mem_cons_of_mem _ member)

namespace Spread

variable
    {run : List Token}
    {characters rest : List Char}

/-- In a formula the run of a token ends where its text ends. -/
theorem endsRun
    {first : Char}
    {others : List Char}
    {token : Token}
    (spread : Spread run rest)
    (natural : ∀ next ∈ run, next.IsNatural)
    (found : Token.ofRun first others = .ok token)
    (ordered : ((token :: run).map some).IsChain MayFollow) :
    EndsRun first rest := by
  intro character member
  rw [← Bool.not_eq_true]
  intro together
  cases spread with
  | blank isGap =>
      exact ne_space_of_joins together
        (isGap character (List.mem_of_head? member))
  | @piece next more gap rest isGap _ =>
      cases gap with
      | cons space others =>
          cases member
          exact ne_space_of_joins together (isGap character List.mem_cons_self)
      | nil =>
          rcases (natural next List.mem_cons_self).exists_run with
            ⟨second, secondOthers, text, -, -, foundNext⟩
          rw [text] at member
          cases member
          rw [List.map_cons, List.map_cons, List.isChain_cons_cons] at ordered
          exact not_mayFollow_of_joins together found foundNext ordered.1

/-- The lexemes of a formula that is spread out are its tokens. -/
theorem exists_lexemes
    (spread : Spread run characters)
    (natural : ∀ token ∈ run, token.IsNatural)
    (ordered : (run.map some).IsChain MayFollow)
    (consumed : Nat) :
    ∃ lexemes,
      Lexed consumed characters lexemes ∧
        lexemes.map Placed.item = run.map .ok := by
  induction spread generalizing consumed with
  | blank isGap => exact ⟨[], Lexed.blank isGap, rfl⟩
  | @piece token more gap rest isGap following hypothesis =>
      have others : ∀ next ∈ more, next.IsNatural := fun next member =>
        natural next (List.mem_cons_of_mem token member)
      rcases (natural token List.mem_cons_self).exists_run with
        ⟨first, run, text, visible, joined, found⟩
      have ends : EndsRun first rest := following.endsRun others found ordered
      rcases hypothesis others ordered.tail
        (consumed + gap.length + 1 + run.length) with
        ⟨lexemes, cut, items⟩
      rw [text]
      refine ⟨_, Lexed.run isGap visible joined ends cut, ?_⟩
      rw [List.map_cons, List.map_cons, items]
      exact congrArg (· :: more.map Except.ok) found

/-- A formula that is spread out is read into its tree. -/
theorem parse_eq
    {text : String}
    {expr : Expr}
    (spread : Spread run text.toList)
    (derived : Derives .expression run expr)
    (natural : ∀ leaf ∈ expr.leaves, 0 ≤ leaf.toInt) :
    parse text = .ok expr := by
  have numbers : ∀ token ∈ run, token.IsNatural := by
    intro token member value isNumber
    apply natural
    rw [derived.leaves_eq]
    exact List.mem_filterMap.mpr ⟨token, member, isNumber⟩
  rcases spread.exists_lexemes numbers derived.wellOrdered.isChain 0 with
    ⟨lexemes, cut, items⟩
  rw [← lexed_iff.mp cut] at items
  rcases itemsOf_eq_iff.mp items with ⟨found, split, rfl⟩
  exact parse_eq_ok_of_derives split derived

end Spread

/--
A tree whose leaves are not negative is read back from its rendering, and from
whatever writes it with further parentheses, without spaces or with any number
of them before, between and behind the pieces.  No text that is read into the
tree has fewer parentheses than the rendering.
-/
theorem parse_of_writes
    (expr : Expr)
    (natural : ∀ leaf ∈ expr.leaves, 0 ≤ leaf.toInt) :
    parse (String.join (expr.render.map Token.text)) = .ok expr ∧
    (∀ text, Spread expr.render text.toList → parse text = .ok expr) ∧
    (∀ run text,
      Writes run expr → Spread run text.toList → parse text = .ok expr) ∧
    (∀ text found, parse text = .ok expr → tokens text = .ok found →
      expr.render.Sublist (found.map Placed.item)) := by
  have derived : Derives .expression expr.render expr :=
    derives_iff_writes.mpr (writes_render expr)
  refine ⟨?_, ?_, ?_, ?_⟩
  · exact (spread_join expr.render).parse_eq derived natural
  · intro text spread
    exact spread.parse_eq derived natural
  · intro run text writes spread
    exact spread.parse_eq (derives_iff_writes.mpr writes) natural
  · intro text found parsed split
    rcases exists_derives_of_parse parsed with ⟨other, otherSplit, otherDerived⟩
    cases split.symm.trans otherSplit
    exact (derives_iff_writes.mp otherDerived).render_sublist

/--
A difference on the left of a product keeps its parentheses, and may have more.
-/
theorem parse_of_writes_difference :
    (∀ leaf ∈ (Expr.binary (.number 8) .subtract
        (.binary (.binary (.number 3) .subtract (.number 2)) .multiply
          (.number 4))).leaves,
      0 ≤ leaf.toInt) ∧
    parse "8-(3-2)*4" =
      .ok (.binary (.number 8) .subtract
        (.binary (.binary (.number 3) .subtract (.number 2)) .multiply
          (.number 4))) ∧
    parse "8-((3-2)*(4))" =
      .ok (.binary (.number 8) .subtract
        (.binary (.binary (.number 3) .subtract (.number 2)) .multiply
          (.number 4))) := by
  let difference : Expr := .binary (.number 3) .subtract (.number 2)
  let product : Expr := .binary difference .multiply (.number 4)
  have leaves :
      (Expr.binary (.number 8) .subtract product).leaves = [8, 3, 2, 4] :=
    rfl
  have natural :
      ∀ leaf ∈ (Expr.binary (.number 8) .subtract product).leaves,
        0 ≤ leaf.toInt := by
    simp only [leaves, List.forall_mem_cons]
    exact ⟨by decide, by decide, by decide, by decide, by simp⟩
  have reads := parse_of_writes (.binary (.number 8) .subtract product) natural
  have four : Writes (enclosed [.number 4]) (.number 4) := .further (.number 4)
  have inner : Writes _ product := .binary (writes_render difference) four
  have whole : Writes _ (.binary (.number 8) .subtract product) :=
    .binary (.number 8) (.further inner)
  refine ⟨natural, ?_, ?_⟩
  · exact reads.1
  · exact reads.2.2.1 _ _ whole (spread_join _)

end Reckoner
