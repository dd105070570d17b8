import Reckoner.Proofs.Adjoining
import Reckoner.Proofs.Reading
import Mathlib.Data.List.Forall2

/-!
# Two readings in step

Two texts are read in step if their lexemes are the same tokens and faults, one
for one, whatever the columns at which they stand.  At every lexeme both
readings go on or both stop, and they stop with the same fault.

What may differ is given by two relations: `Same` between the trees that have
been read on the two sides, and `Moved` between the columns.  The only thing
asked of them is that larger trees are the same if their parts are.  Readings
that are in step stay in step: this is `InStep.readToken` for one token and
`InStep.run` for a run, and by `InStep.run_append` it does not matter what the
runs come to.
-/

namespace Reckoner

/-! ## Steps that succeed together -/

/--
Both steps succeed, with related values, or both fail, with related faults.
-/
inductive Together
    {Fault OtherFault Value OtherValue : Type}
    (faults : Fault → OtherFault → Prop)
    (values : Value → OtherValue → Prop) :
    Except Fault Value → Except OtherFault OtherValue → Prop where
  | ok {value : Value} {other : OtherValue} :
      values value other → Together faults values (.ok value) (.ok other)
  | error {fault : Fault} {other : OtherFault} :
      faults fault other → Together faults values (.error fault) (.error other)

namespace Together

variable
    {Fault First Second OtherFirst OtherSecond : Type}
    {faults : Fault → Fault → Prop}
    {firsts : First → OtherFirst → Prop}
    {seconds : Second → OtherSecond → Prop}
    {step : Except Fault First}
    {otherStep : Except Fault OtherFirst}

theorem bind
    {next : First → Except Fault Second}
    {otherNext : OtherFirst → Except Fault OtherSecond}
    (together : Together faults firsts step otherStep)
    (following :
      ∀ {value other}, firsts value other →
        Together faults seconds (next value) (otherNext other)) :
    Together faults seconds (step.bind next) (otherStep.bind otherNext) := by
  cases together with
  | ok related => exact following related
  | error related => exact .error related

theorem map
    {change : First → Second}
    {otherChange : OtherFirst → OtherSecond}
    (together : Together faults firsts step otherStep)
    (changed :
      ∀ {value other},
        firsts value other → seconds (change value) (otherChange other)) :
    Together faults seconds (step.map change) (otherStep.map otherChange) := by
  cases together with
  | ok related => exact .ok (changed related)
  | error related => exact .error related

end Together

/-! ## What has been read -/

/--
A relation between trees that is kept when larger trees are built from them.
-/
structure Respected (Same : Expr → Expr → Prop) : Prop where
  number : ∀ value, Same (.number value) (.number value)
  binary : ∀ {left otherLeft operator right otherRight},
    Same left otherLeft →
    Same right otherRight →
    Same (.binary left operator right) (.binary otherLeft operator otherRight)

theorem respected_eq : Respected Eq where
  number _ := rfl
  binary := by
    rintro left _ operator right _ rfl rfl
    rfl

section Trees

variable {Same : Expr → Expr → Prop}

/-- The same operators stand between operands that are the same. -/
inductive Series.InStep
    (Same : Expr → Expr → Prop) :
    Series → Series → Prop where
  | operand {expr other : Expr} :
      Same expr other →
      InStep Same (.operand expr) (.operand other)
  | link {before otherBefore : Series} {operator : Operator}
      {last otherLast : Expr} :
      InStep Same before otherBefore →
      Same last otherLast →
      InStep Same (.link before operator last)
        (.link otherBefore operator otherLast)

namespace Series.InStep

variable {series other : Series}

theorem absorb
    {operator : Operator}
    {right otherRight : Expr}
    (respected : Respected Same)
    (related : series.InStep Same other)
    (same : Same right otherRight) :
    (series.absorb operator right).InStep Same
      (other.absorb operator otherRight) := by
  cases related with
  | operand left => exact .operand (respected.binary left same)
  | link before left => exact .link before (respected.binary left same)

theorem joinLevel
    (respected : Respected Same)
    (related : series.InStep Same other)
    (level : Nat) :
    (series.joinLevel level).InStep Same (other.joinLevel level) := by
  induction related with
  | operand same => exact .operand same
  | @link before otherBefore operator last otherLast _ same hypothesis =>
      by_cases sameLevel : operator.level = level
      · rw [Series.joinLevel, Series.joinLevel, if_pos sameLevel,
          if_pos sameLevel]
        exact hypothesis.absorb respected same
      · rw [Series.joinLevel, Series.joinLevel, if_neg sameLevel,
          if_neg sameLevel]
        exact .link hypothesis same

/-- The passes build trees that are the same. -/
theorem tree
    (respected : Respected Same)
    (related : series.InStep Same other) :
    Same series.tree other.tree := by
  have joined : series.joinAll.InStep Same other.joinAll :=
    (related.joinLevel respected 1).joinLevel respected 2
  rw [series.joinAll_eq, other.joinAll_eq] at joined
  cases joined with
  | operand same => exact same

end Series.InStep

/-- Two contents that are in step. -/
inductive Content.InStep
    (Same : Expr → Expr → Prop) :
    Content → Content → Prop where
  | empty : InStep Same .empty .empty
  | complete {series other : Series} :
      series.InStep Same other →
      InStep Same (.complete series) (.complete other)
  | dangling {series other : Series} {operator : Operator} :
      series.InStep Same other →
      InStep Same (.dangling series operator) (.dangling other operator)

variable {Moved : Nat → Nat → Prop}

/-- The same fault at related columns. -/
structure SyntaxError.InStep
    (Moved : Nat → Nat → Prop)
    (error other : SyntaxError) :
    Prop where
  fault : error.fault = other.fault
  column : Moved error.column other.column

namespace Content.InStep

variable
    {content other : Content}
    {column otherColumn : Nat}

theorem addOperand
    {expr otherExpr : Expr}
    (related : content.InStep Same other)
    (same : Same expr otherExpr)
    (moved : Moved column otherColumn) :
    Together (SyntaxError.InStep Moved) (Content.InStep Same)
      (content.addOperand expr column)
      (other.addOperand otherExpr otherColumn) := by
  cases related with
  | empty => exact .ok (.complete (.operand same))
  | complete series => exact .error ⟨rfl, moved⟩
  | dangling series => exact .ok (.complete (.link series same))

theorem addOperator
    (operator : Operator)
    (related : content.InStep Same other)
    (moved : Moved column otherColumn) :
    Together (SyntaxError.InStep Moved) (Content.InStep Same)
      (content.addOperator operator column)
      (other.addOperator operator otherColumn) := by
  cases related with
  | empty => exact .error ⟨rfl, moved⟩
  | complete series => exact .ok (.dangling series)
  | dangling series => exact .error ⟨rfl, moved⟩

theorem close
    (respected : Respected Same)
    (related : content.InStep Same other)
    (moved : Moved column otherColumn) :
    Together (SyntaxError.InStep Moved) Same
      (content.close column) (other.close otherColumn) := by
  cases related with
  | empty => exact .error ⟨rfl, moved⟩
  | complete series => exact .ok (series.tree respected)
  | dangling series => exact .error ⟨rfl, moved⟩

end Content.InStep

/-- Two open groups that are in step. -/
structure OpenGroup.InStep
    (Same : Expr → Expr → Prop)
    (Moved : Nat → Nat → Prop)
    (group other : OpenGroup) :
    Prop where
  openedAt : Moved group.openedAt other.openedAt
  before : group.before.InStep Same other.before

/--
Two states that are in step: their groups are, one for one, and so is
their content.
-/
structure Nesting.InStep
    (Same : Expr → Expr → Prop)
    (Moved : Nat → Nat → Prop)
    (nesting other : Nesting) :
    Prop where
  openGroups :
    List.Forall₂ (OpenGroup.InStep Same Moved) nesting.openGroups
      other.openGroups
  content : nesting.content.InStep Same other.content

/-- The same token or fault, starting at related columns. -/
structure Placed.InStep
    {Item : Type}
    (Moved : Nat → Nat → Prop)
    (placed other : Placed Item) :
    Prop where
  item : placed.item = other.item
  start : Moved placed.start other.start

/-! ## Reading in step -/

namespace Nesting.InStep

variable
    {nesting other : Nesting}
    {column otherColumn : Nat}

theorem start : Nesting.start.InStep Same Moved Nesting.start :=
  ⟨.nil, .empty⟩

/-- One token is read by both states or by none. -/
theorem readToken
    (respected : Respected Same)
    (related : nesting.InStep Same Moved other)
    (token : Token)
    (moved : Moved column otherColumn) :
    Together (SyntaxError.InStep Moved) (Nesting.InStep Same Moved)
      (nesting.readToken token column) (other.readToken token otherColumn) := by
  rcases nesting with ⟨groups, content⟩
  rcases other with ⟨otherGroups, otherContent⟩
  rcases related with ⟨openGroups, inside⟩
  cases token with
  | number value =>
      exact (inside.addOperand (respected.number value) moved).map fun grown =>
        ⟨openGroups, grown⟩
  | operator operator =>
      exact (inside.addOperator operator moved).map fun grown =>
        ⟨openGroups, grown⟩
  | leftParen => exact .ok ⟨.cons ⟨moved, inside⟩ openGroups, .empty⟩
  | rightParen =>
      cases openGroups with
      | nil => exact .error ⟨rfl, moved⟩
      | cons group around =>
          apply (inside.close respected moved).bind
          intro expr otherExpr same
          apply (group.before.addOperand same group.openedAt).bind
          intro grown otherGrown beside
          exact .ok ⟨around, beside⟩

theorem read
    (respected : Respected Same)
    (related : nesting.InStep Same Moved other)
    {lexeme otherLexeme : Lexeme}
    (moved : lexeme.InStep Moved otherLexeme) :
    Together (SyntaxError.InStep Moved) (Nesting.InStep Same Moved)
      (nesting.read lexeme) (other.read otherLexeme) := by
  rw [Nesting.read, Nesting.read, moved.item]
  cases otherLexeme.item with
  | ok token => exact related.readToken respected token moved.start
  | error fault => exact .error ⟨rfl, moved.start⟩

theorem readTokens
    (respected : Respected Same)
    (related : nesting.InStep Same Moved other)
    {found otherFound : List (Placed Token)}
    (moved : List.Forall₂ (Placed.InStep Moved) found otherFound) :
    Together (SyntaxError.InStep Moved) (Nesting.InStep Same Moved)
      (nesting.readTokens found) (other.readTokens otherFound) := by
  induction moved generalizing nesting other with
  | nil => exact .ok related
  | @cons placed otherPlaced _ _ first _ hypothesis =>
      rw [Nesting.readTokens, Nesting.readTokens, first.item]
      apply (related.readToken respected otherPlaced.item first.start).bind
      intro next otherNext following
      exact hypothesis following

theorem finish
    (respected : Respected Same)
    (related : nesting.InStep Same Moved other)
    (moved : Moved column otherColumn) :
    Together (SyntaxError.InStep Moved) Same
      (nesting.finish column) (other.finish otherColumn) := by
  rcases nesting with ⟨groups, content⟩
  rcases other with ⟨otherGroups, otherContent⟩
  rcases related with ⟨openGroups, inside⟩
  cases openGroups with
  | nil => exact inside.close respected moved
  | cons group around => exact .error ⟨rfl, group.openedAt⟩

/-- Runs over the same lexemes end together if they do behind those lexemes. -/
theorem run_append
    (respected : Respected Same)
    (related : nesting.InStep Same Moved other)
    {lexemes otherLexemes rest otherRest : List Lexeme}
    (moved : List.Forall₂ (Placed.InStep Moved) lexemes otherLexemes)
    (behind :
      ∀ {next otherNext : Nesting}, next.InStep Same Moved otherNext →
        Together (SyntaxError.InStep Moved) Same
          (next.run column rest) (otherNext.run otherColumn otherRest)) :
    Together (SyntaxError.InStep Moved) Same
      (nesting.run column (lexemes ++ rest))
      (other.run otherColumn (otherLexemes ++ otherRest)) := by
  induction moved generalizing nesting other with
  | nil => exact behind related
  | cons first _ hypothesis =>
      apply (related.read respected first).bind
      intro next otherNext following
      exact hypothesis following

theorem run
    (respected : Respected Same)
    (related : nesting.InStep Same Moved other)
    {lexemes otherLexemes : List Lexeme}
    (moved : List.Forall₂ (Placed.InStep Moved) lexemes otherLexemes)
    (movedEnd : Moved column otherColumn) :
    Together (SyntaxError.InStep Moved) Same
      (nesting.run column lexemes) (other.run otherColumn otherLexemes) := by
  rw [← List.append_nil lexemes, ← List.append_nil otherLexemes]
  apply related.run_append respected moved
  intro next otherNext following
  exact following.finish respected movedEnd

end Nesting.InStep

end Trees

/-- Texts whose lexemes are in step are read in step. -/
theorem parse_inStep
    {Moved : Nat → Nat → Prop}
    {text other : String}
    (lexemes :
      List.Forall₂ (Placed.InStep Moved) (Cursor.ofText text).lexemes
        (Cursor.ofText other).lexemes)
    (ends :
      Moved (Cursor.ofText text).endColumn (Cursor.ofText other).endColumn) :
    Together (SyntaxError.InStep Moved) Eq (parse text) (parse other) :=
  Nesting.InStep.start.run respected_eq lexemes ends

/-! ## Whatever the columns -/

/--
The items of a text are tokens exactly if the text splits into those tokens.
-/
theorem itemsOf_eq_iff
    {text : String}
    {run : List Token} :
    itemsOf text = run.map .ok ↔
      ∃ found, tokens text = .ok found ∧ found.map Placed.item = run := by
  constructor
  · intro items
    rcases exists_placed_of_items items with ⟨found, split, sameRun⟩
    exact ⟨found, tokens_eq_ok_iff.mpr split, sameRun⟩
  · rintro ⟨found, split, rfl⟩
    rw [itemsOf, tokens_eq_ok_iff.mp split, List.map_map, List.map_map]
    rfl

/-- A text with the items of a formula is read into the tree of the formula. -/
theorem parse_of_items
    {text other : String}
    {expr : Expr}
    (parsed : parse text = .ok expr)
    (same : itemsOf other = itemsOf text) :
    parse other = .ok expr := by
  rcases exists_derives_of_parse parsed with ⟨found, split, derived⟩
  rw [itemsOf_eq_iff.mpr ⟨found, split, rfl⟩] at same
  rcases itemsOf_eq_iff.mp same with ⟨otherFound, otherSplit, sameRun⟩
  exact parse_eq_ok_of_derives otherSplit (sameRun ▸ derived)

/-- Any two columns. -/
def AnyColumn (_column _other : Nat) : Prop :=
  True

/--
Lexemes with the same items are in step, one for one, if columns do not matter.
-/
theorem forall₂_inStep_of_items
    {Item : Type}
    {lexemes others : List (Placed Item)}
    (items : lexemes.map Placed.item = others.map Placed.item) :
    List.Forall₂ (Placed.InStep AnyColumn) lexemes others := by
  rw [← List.forall₂_eq_eq_eq, List.forall₂_map_left_iff,
    List.forall₂_map_right_iff] at items
  exact items.imp fun _ _ same => ⟨same, trivial⟩

end Reckoner
