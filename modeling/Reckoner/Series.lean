import Reckoner.Expr

/-!
# Series of operands

What stands between two parentheses is a series: operands with an operator
between each two.  A series becomes a tree one level at a time, the tightest
level first; a pass over a level joins the two neighbours of every operator of
that level from left to right, so operators of one level group to the left.

A series has one operand more than it has operators by its very form.
-/

namespace Reckoner

/-- Operands with operators between them; it grows at its right end. -/
inductive Series where
  | operand (expr : Expr)
  | link (before : Series) (operator : Operator) (last : Expr)
  deriving DecidableEq, Repr

namespace Series

/-- The operands from left to right. -/
def operands : Series → List Expr
  | operand expr => [expr]
  | link before _ last => before.operands ++ [last]

/-- The operators from left to right. -/
def operators : Series → List Operator
  | operand _ => []
  | link before operator _ => before.operators ++ [operator]

/-- There is one operand more than there are operators. -/
theorem length_operands (series : Series) :
    series.operands.length = series.operators.length + 1 := by
  induction series with
  | operand expr => rfl
  | link before operator last hypothesis =>
      simp [operands, operators, hypothesis]

/-- Replace the last operand by its combination with one more expression. -/
def absorb (series : Series) (operator : Operator) (right : Expr) : Series :=
  match series with
  | operand left => operand (.binary left operator right)
  | link before earlier left =>
      link before earlier (.binary left operator right)

@[simp]
theorem operators_absorb
    (series : Series)
    (operator : Operator)
    (right : Expr) :
    (series.absorb operator right).operators = series.operators := by
  cases series <;> rfl

/-- One pass: join, from left to right, around the operators of one level. -/
def joinLevel (level : Nat) : Series → Series
  | operand expr => operand expr
  | link before operator last =>
      if operator.level = level then
        (before.joinLevel level).absorb operator last
      else
        link (before.joinLevel level) operator last

/-- A pass over a level keeps the operators of the other levels, in order. -/
theorem operators_joinLevel (level : Nat) (series : Series) :
    (series.joinLevel level).operators =
      series.operators.filter fun operator => operator.level ≠ level := by
  induction series with
  | operand expr => rfl
  | link before operator last hypothesis =>
      by_cases same : operator.level = level
      · simp [joinLevel, operators, same, hypothesis]
      · simp [joinLevel, operators, same, hypothesis]

/-- All passes, the tightest level first. -/
def joinAll (series : Series) : Series :=
  Operator.levels.foldl (fun joined level => joined.joinLevel level) series

/-- After all passes no operator is left. -/
theorem operators_joinAll
    (series : Series) :
    series.joinAll.operators = [] := by
  simp only [joinAll, Operator.levels, List.foldl_cons, List.foldl_nil,
    operators_joinLevel, List.filter_filter, List.filter_eq_nil_iff]
  intro operator _
  cases operator <;> decide

/-- The operand at the right end. -/
def last : Series → Expr
  | operand expr => expr
  | link _ _ last => last

/-- The tree of a series: the one operand that is left after all passes. -/
def tree (series : Series) : Expr :=
  series.joinAll.last

/-- The tree is all that is left after the passes. -/
theorem joinAll_eq
    (series : Series) :
    series.joinAll = operand series.tree := by
  have noneLeft := series.operators_joinAll
  unfold tree
  cases shape : series.joinAll with
  | operand expr => rfl
  | link before operator last => simp [shape, operators] at noneLeft

end Series

end Reckoner
