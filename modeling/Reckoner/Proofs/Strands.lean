import Reckoner.Nesting
import Reckoner.Proofs.Sequencing

/-!
# Operands and operators in two lists

A group may also be collected in two lists, one of its operands and one of its
operators.  Then nothing in the form of the lists says that there is an operator
between each two operands: this is counted at every step, and the passes that
make a tree of the lists pair operators with operands by their places.  Whether
the passes leave a single operand has to be proved.

Two lists that start empty stay those of a `Content`: they take and refuse the
same operands and operators (`Content.strands_push`), and their passes leave the
tree of the content (`Content.resolve_strands`).
-/

namespace Reckoner

/-! ## Two lists -/

/-- The operands of a group, and the operators between them. -/
structure Strands where
  operands : List Expr
  operators : List Operator
  deriving DecidableEq, Repr

/-- What a group is made of. -/
inductive Piece where
  | operand (expr : Expr)
  | operator (operator : Operator)
  deriving DecidableEq, Repr

/-- One more piece of a group, at its column. -/
structure Push where
  piece : Piece
  column : Nat
  deriving DecidableEq, Repr

namespace Strands

/-- Nothing has been collected. -/
def empty : Strands :=
  ⟨[], []⟩

/-- There is one operand more than there are operators. -/
def IsBalanced (strands : Strands) : Prop :=
  strands.operators.length + 1 = strands.operands.length

instance (strands : Strands) : Decidable strands.IsBalanced :=
  inferInstanceAs (Decidable (_ = _))

/--
One more operand, after which there must be one more of them than operators.
-/
def addOperand
    (strands : Strands)
    (expr : Expr)
    (column : Nat) :
    Except SyntaxError Strands :=
  let grown : Strands := ⟨strands.operands ++ [expr], strands.operators⟩
  if grown.IsBalanced then
    .ok grown
  else
    .error ⟨.twoNumbersInARow, column⟩

/-- One more operator, after which there must be as many of them as operands. -/
def addOperator
    (strands : Strands)
    (operator : Operator)
    (column : Nat) :
    Except SyntaxError Strands :=
  let grown : Strands := ⟨strands.operands, strands.operators ++ [operator]⟩
  if grown.operators.length = grown.operands.length then
    .ok grown
  else
    .error ⟨.twoOperatorsInARow, column⟩

/-- One more piece. -/
def push (strands : Strands) (push : Push) : Except SyntaxError Strands :=
  match push.piece with
  | .operand expr => strands.addOperand expr push.column
  | .operator operator => strands.addOperator operator push.column

/--
One operator of a pass and the operand behind it, met with the lists made so far
and the operand that is carried along.
-/
def carry
    (level : Nat)
    (state : Strands × Expr)
    (next : Operator × Expr) :
    Strands × Expr :=
  if next.1.level = level then
    (state.1, .binary state.2 next.1 next.2)
  else
    (⟨state.1.operands ++ [state.2], state.1.operators ++ [next.1]⟩, next.2)

/-- Put the operand that is carried along at the end of the operands. -/
def settle (state : Strands × Expr) : Strands :=
  ⟨state.1.operands ++ [state.2], state.1.operators⟩

/-- One pass: join, from left to right, around the operators of one level. -/
def joinLevel (level : Nat) (strands : Strands) : Strands :=
  match strands.operands with
  | [] => empty
  | first :: others =>
      settle ((strands.operators.zip others).foldl (carry level) (empty, first))

/-- All passes, the tightest level first. -/
def joinAll (strands : Strands) : Strands :=
  Operator.levels.foldl (fun joined level => joined.joinLevel level) strands

/--
The tree of a group that ends at a column, or why there is none.  No answer
means that the passes leave an operator, or not exactly one operand.
-/
def resolve
    (strands : Strands)
    (column : Nat) :
    Option (Except SyntaxError Expr) :=
  if strands.operands = [] then
    some (.error ⟨.emptyGroup, column⟩)
  else if ¬ strands.IsBalanced then
    some (.error ⟨.operatorAtEnd, column⟩)
  else
    match strands.joinAll with
    | ⟨[expr], []⟩ => some (.ok expr)
    | _ => none

end Strands

/-! ## The lists of a series -/

namespace Series

/-- The operands and the operators of a series. -/
def strands (series : Series) : Strands :=
  ⟨series.operands, series.operators⟩

/-- The lists of a series without its last operand, and that operand. -/
def carried : Series → Strands × Expr
  | operand expr => (.empty, expr)
  | link before operator last =>
      (⟨before.operands, before.operators ++ [operator]⟩, last)

@[simp]
theorem settle_carried
    (series : Series) :
    Strands.settle series.carried = series.strands := by
  cases series <;> rfl

theorem carry_carried_same
    {level : Nat}
    {operator : Operator}
    (same : operator.level = level)
    (series : Series)
    (right : Expr) :
    Strands.carry level series.carried (operator, right) =
      (series.absorb operator right).carried := by
  rw [Strands.carry, if_pos same]
  cases series <;> rfl

theorem carry_carried_other
    {level : Nat}
    {operator : Operator}
    (other : operator.level ≠ level)
    (series : Series)
    (right : Expr) :
    Strands.carry level series.carried (operator, right) =
      (series.link operator right).carried := by
  rw [Strands.carry, if_neg other]
  show (Strands.mk (Strands.settle series.carried).operands _, right) = _
  rw [settle_carried]
  cases series <;> rfl

theorem exists_operands_cons (series : Series) :
    ∃ first others, series.operands = first :: others ∧
      series.operators.length = others.length := by
  have length := series.length_operands
  cases shape : series.operands with
  | nil => simp [shape] at length
  | cons first others =>
      refine ⟨first, others, rfl, ?_⟩
      rw [shape, List.length_cons] at length
      omega

/-- Carrying operands along does what a pass over the series does. -/
theorem foldl_carry
    {series : Series}
    {first : Expr}
    {others : List Expr}
    (level : Nat)
    (operands : series.operands = first :: others) :
    (series.operators.zip others).foldl (Strands.carry level) (.empty, first) =
      (series.joinLevel level).carried := by
  induction series generalizing others with
  | operand expr =>
      cases operands
      rfl
  | link before operator last hypothesis =>
      rcases before.exists_operands_cons with ⟨start, between, shape, length⟩
      rw [Series.operands, shape, List.cons_append, List.cons.injEq] at operands
      rcases operands with ⟨rfl, rfl⟩
      rw [operators, List.zip_append length, List.zip_cons_cons,
        List.zip_nil_right, List.foldl_append, hypothesis shape,
        List.foldl_cons, List.foldl_nil, joinLevel]
      split
      · next same => exact carry_carried_same same _ last
      · next other => exact carry_carried_other other _ last

theorem strands_joinLevel (level : Nat) (series : Series) :
    series.strands.joinLevel level = (series.joinLevel level).strands := by
  rcases series.exists_operands_cons with ⟨first, others, shape, -⟩
  rw [strands, Strands.joinLevel]
  simp only [shape]
  rw [foldl_carry level shape, settle_carried]

/--
After all passes over the lists of a series its tree is left and nothing else.
-/
theorem strands_joinAll
    (series : Series) :
    series.strands.joinAll = ⟨[series.tree], []⟩ := by
  have passes : series.strands.joinAll = series.joinAll.strands :=
    List.foldl_hom strands fun joined level => strands_joinLevel level joined
  rw [passes, series.joinAll_eq]
  rfl

theorem isBalanced_strands (series : Series) : series.strands.IsBalanced :=
  series.length_operands.symm

end Series

/-! ## The lists of a content -/

namespace Content

/-- The lists of what has been collected. -/
def strands : Content → Strands
  | empty => .empty
  | complete series => series.strands
  | dangling series operator =>
      ⟨series.operands, series.operators ++ [operator]⟩

/-- One more piece. -/
def push (content : Content) (push : Push) : Except SyntaxError Content :=
  match push.piece with
  | .operand expr => content.addOperand expr push.column
  | .operator operator => content.addOperator operator push.column

theorem strands_addOperand (content : Content) (expr : Expr) (column : Nat) :
    content.strands.addOperand expr column =
      (content.addOperand expr column).map strands := by
  cases content with
  | empty => rfl
  | complete series =>
      have length := series.length_operands
      rw [Strands.addOperand, if_neg]
      · rfl
      · simp only [strands, Series.strands, Strands.IsBalanced,
          List.length_append, List.length_singleton]
        omega
  | dangling series operator =>
      have length := series.length_operands
      rw [Strands.addOperand, if_pos]
      · rfl
      · simp only [strands, Strands.IsBalanced, List.length_append,
          List.length_singleton]
        omega

theorem strands_addOperator
    (content : Content)
    (operator : Operator)
    (column : Nat) :
    content.strands.addOperator operator column =
      (content.addOperator operator column).map strands := by
  cases content with
  | empty => rfl
  | complete series =>
      have length := series.length_operands
      rw [Strands.addOperator, if_pos]
      · rfl
      · simp only [strands, Series.strands, List.length_append,
          List.length_singleton]
        omega
  | dangling series earlier =>
      have length := series.length_operands
      rw [Strands.addOperator, if_neg]
      · rfl
      · simp only [strands, List.length_append, List.length_singleton]
        omega

/-- The lists take the pieces that the content takes. -/
theorem strands_push (content : Content) (push : Push) :
    content.strands.push push = (content.push push).map strands := by
  rw [Strands.push, Content.push]
  cases push.piece with
  | operand expr => exact strands_addOperand content expr push.column
  | operator operator => exact strands_addOperator content operator push.column

theorem strands_foldlM (content : Content) (pushes : List Push) :
    pushes.foldlM Strands.push content.strands =
      (pushes.foldlM push content).map strands := by
  induction pushes generalizing content with
  | nil => rfl
  | cons first rest hypothesis =>
      rw [List.foldlM_cons, List.foldlM_cons, strands_push]
      cases content.push first with
      | error error => rfl
      | ok next => exact hypothesis next

/--
The lists come to what the content comes to, and their passes always
leave one operand.
-/
theorem resolve_strands (content : Content) (column : Nat) :
    content.strands.resolve column = some (content.close column) := by
  cases content with
  | empty => rfl
  | complete series =>
      rcases series.exists_operands_cons with ⟨first, others, shape, -⟩
      have nonempty : series.strands.operands ≠ [] := by
        simp [Series.strands, shape]
      rw [strands, Strands.resolve, if_neg nonempty,
        if_neg (not_not_intro series.isBalanced_strands),
        series.strands_joinAll]
      rfl
  | dangling series operator =>
      rcases series.exists_operands_cons with ⟨first, others, shape, -⟩
      have length := series.length_operands
      rw [strands, Strands.resolve, if_neg (by simp [shape]), if_pos]
      · rfl
      · simp only [Strands.IsBalanced, List.length_append,
          List.length_singleton]
        omega

end Content

end Reckoner
