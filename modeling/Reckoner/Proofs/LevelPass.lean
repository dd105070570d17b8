import Reckoner.Proofs.Grammar
import Reckoner.Proofs.Strands
import Mathlib.Data.List.Basic
import Mathlib.Data.List.Induction

/-!
# One pass over a level

A pass over two lists takes both apart, pairs operators with operands by their
places and builds both lists anew around an operand that is carried along.  If
there is one operand more than there are operators, then nothing is lost and
nothing changes its place: the lists are those of a series, and the pass over
the lists is the pass over the series.

What a pass does is said here without carrying anything.  The operators of other
levels cut the operands into runs, none of which can be made longer; each run
becomes one operand, nested to the left, and the operators between the runs stay
as they are (`Strands.joinLevel_regroups`).
-/

namespace Reckoner

/-! ## Leaves and operators in order -/

/-- The leaves and operators of a tree from left to right. -/
def Expr.inOrder : Expr → List Token
  | number value => [.number value]
  | binary left operator right =>
      left.inOrder ++ .operator operator :: right.inOrder

namespace Strands

/--
Operands and operators taken in turns, each operand read from left to right.
-/
def readInTurns : List Expr → List Operator → List Token
  | [], operators => operators.map .operator
  | operands, [] => operands.flatMap Expr.inOrder
  | operand :: operands, operator :: operators =>
      operand.inOrder ++ .operator operator :: readInTurns operands operators

/-- What stands in the two lists if they are read in turns. -/
def inOrder (strands : Strands) : List Token :=
  readInTurns strands.operands strands.operators

theorem readInTurns_concat
    {operands : List Expr}
    {operators : List Operator}
    (balanced : operators.length + 1 = operands.length)
    (operator : Operator)
    (last : Expr) :
    readInTurns (operands ++ [last]) (operators ++ [operator]) =
      readInTurns operands operators ++ .operator operator :: last.inOrder := by
  induction operators generalizing operands with
  | nil =>
      rcases List.length_eq_one_iff.mp balanced.symm with ⟨first, rfl⟩
      simp [readInTurns]
  | cons next operators hypothesis =>
      cases operands with
      | nil => simp at balanced
      | cons first operands =>
          rw [List.length_cons, List.length_cons,
            Nat.add_right_cancel_iff] at balanced
          rw [List.cons_append, List.cons_append, readInTurns,
            hypothesis balanced, readInTurns, List.append_assoc,
            List.cons_append]

/-- Lists with one operand more than operators are those of a series. -/
theorem IsBalanced.exists_series
    {strands : Strands}
    (balanced : strands.IsBalanced) :
    ∃ series : Series, series.strands = strands := by
  rcases strands with ⟨operands, operators⟩
  rw [IsBalanced] at balanced
  induction operators using List.reverseRecOn generalizing operands with
  | nil =>
      rcases List.length_eq_one_iff.mp balanced.symm with ⟨expr, rfl⟩
      exact ⟨.operand expr, rfl⟩
  | append_singleton operators operator hypothesis =>
      rcases List.eq_nil_or_concat' operands with rfl | ⟨before, last, rfl⟩
      · simp at balanced
      · have shorter : operators.length + 1 = before.length := by
          simpa using balanced
        rcases hypothesis before shorter with ⟨series, same⟩
        rw [Series.strands, Strands.mk.injEq] at same
        rcases same with ⟨rfl, rfl⟩
        exact ⟨.link series operator last, rfl⟩

end Strands

namespace Series

/--
A series spells what its lists hold, if every operand is spelled by itself.
-/
theorem spelled_inOrder (series : Series) :
    series.Spelled (fun run expr => run = expr.inOrder)
      series.strands.inOrder := by
  induction series with
  | operand expr =>
      apply Spelled.operand
      simp [strands, operands, operators, Strands.inOrder, Strands.readInTurns]
  | link before operator last hypothesis =>
      have read :=
        Strands.readInTurns_concat before.length_operands.symm operator last
      rw [Strands.inOrder, strands, operands, operators, read]
      exact .link hypothesis rfl

theorem Spelled.inOrder_eq
    {series : Series}
    {run : List Token}
    (spelled : series.Spelled (fun run expr => run = expr.inOrder) run) :
    series.strands.inOrder = run := by
  induction spelled with
  | operand phrase =>
      rw [phrase]
      simp [strands, operands, operators, Strands.inOrder, Strands.readInTurns]
  | @link before operator last front back _ phrase hypothesis =>
      have read :=
        Strands.readInTurns_concat before.length_operands.symm operator last
      rw [Strands.inOrder, strands, operands, operators, read, phrase,
        ← hypothesis]
      rfl

/-- A pass over a level keeps the leaves and operators in their order. -/
theorem inOrder_joinLevel (level : Nat) (series : Series) :
    (series.joinLevel level).strands.inOrder = series.strands.inOrder := by
  apply Spelled.inOrder_eq
  apply series.spelled_inOrder.joinLevel fun phrase => phrase
  rintro front back left operator right - rfl rfl
  rfl

end Series

/-! ## Runs -/

/-- Operands with operators between them. -/
structure Run where
  first : Expr
  others : List (Operator × Expr)
  deriving DecidableEq, Repr

namespace Run

/-- The operands from left to right. -/
def operands (run : Run) : List Expr :=
  run.first :: run.others.map Prod.snd

/-- The operators from left to right. -/
def operators (run : Run) : List Operator :=
  run.others.map Prod.fst

/-- The tree of the operands, nested to the left. -/
def nested (run : Run) : Expr :=
  run.others.foldl (fun left next => .binary left next.1 next.2) run.first

/-- One more operator and the operand behind it. -/
def extend (run : Run) (operator : Operator) (right : Expr) : Run :=
  ⟨run.first, run.others ++ [(operator, right)]⟩

@[simp]
theorem operands_extend (run : Run) (operator : Operator) (right : Expr) :
    (run.extend operator right).operands = run.operands ++ [right] := by
  simp [extend, operands]

@[simp]
theorem operators_extend (run : Run) (operator : Operator) (right : Expr) :
    (run.extend operator right).operators = run.operators ++ [operator] := by
  simp [extend, operators]

@[simp]
theorem nested_extend (run : Run) (operator : Operator) (right : Expr) :
    (run.extend operator right).nested = .binary run.nested operator right := by
  simp [extend, nested]

end Run

/--
Runs one behind the other, and the operator behind each of them but the last.
-/
structure Division where
  separated : List (Run × Operator)
  last : Run
  deriving DecidableEq, Repr

namespace Division

/-- The runs from left to right. -/
def runs (division : Division) : List Run :=
  division.separated.map Prod.fst ++ [division.last]

/-- The operators between the runs. -/
def separators (division : Division) : List Operator :=
  division.separated.map Prod.snd

/-- The two lists that are divided. -/
def strands (division : Division) : Strands where
  operands := division.runs.flatMap Run.operands
  operators :=
    division.separated.flatMap (fun part => part.1.operators ++ [part.2]) ++
      division.last.operators

/-- The two lists in which every run has become one operand. -/
def nested (division : Division) : Strands :=
  ⟨division.runs.map Run.nested, division.separators⟩

/--
What a pass carries along at the end: all runs but the last as operands,
and the last one.
-/
def carried (division : Division) : Strands × Expr :=
  (⟨division.separated.map fun part => part.1.nested, division.separators⟩,
    division.last.nested)

@[simp]
theorem settle_carried (division : Division) :
    Strands.settle division.carried = division.nested := by
  simp [Strands.settle, carried, nested, runs]

/--
The operators within the runs are of one level and those between them are not,
so no run can be made longer.
-/
structure IsMaximal (division : Division) (level : Nat) : Prop where
  within :
    ∀ run ∈ division.runs, ∀ operator ∈ run.operators, operator.level = level
  between : ∀ operator ∈ division.separators, operator.level ≠ level

/-- Make the last run longer. -/
def extend
    (division : Division)
    (operator : Operator)
    (right : Expr) :
    Division :=
  ⟨division.separated, division.last.extend operator right⟩

/-- Begin another run. -/
def begin
    (division : Division)
    (operator : Operator)
    (right : Expr) :
    Division :=
  ⟨division.separated ++ [(division.last, operator)], ⟨right, []⟩⟩

theorem strands_extend
    (division : Division)
    (operator : Operator)
    (right : Expr) :
    (division.extend operator right).strands =
      ⟨division.strands.operands ++ [right],
        division.strands.operators ++ [operator]⟩ := by
  simp [strands, extend, runs]

theorem strands_begin
    (division : Division)
    (operator : Operator)
    (right : Expr) :
    (division.begin operator right).strands =
      ⟨division.strands.operands ++ [right],
        division.strands.operators ++ [operator]⟩ := by
  simp [strands, begin, runs, Run.operands, Run.operators]

theorem carry_carried_same
    {level : Nat}
    {operator : Operator}
    (same : operator.level = level)
    (division : Division)
    (right : Expr) :
    Strands.carry level division.carried (operator, right) =
      (division.extend operator right).carried := by
  rw [Strands.carry, if_pos same, carried, carried, extend, Run.nested_extend]
  rfl

theorem carry_carried_other
    {level : Nat}
    {operator : Operator}
    (other : operator.level ≠ level)
    (division : Division)
    (right : Expr) :
    Strands.carry level division.carried (operator, right) =
      (division.begin operator right).carried := by
  rw [Strands.carry, if_neg other]
  simp [carried, begin, separators, Run.nested]

theorem IsMaximal.extend
    {division : Division}
    {level : Nat}
    {operator : Operator}
    (maximal : division.IsMaximal level)
    (same : operator.level = level)
    (right : Expr) :
    (division.extend operator right).IsMaximal level where
  within := by
    intro run member inner inside
    rcases List.mem_append.mp member with earlier | final
    · exact maximal.within run (List.mem_append_left _ earlier) inner inside
    · rw [List.mem_singleton.mp final, Division.extend,
        Run.operators_extend] at inside
      rcases List.mem_append.mp inside with old | new
      · exact maximal.within division.last
          (List.mem_append_right _ List.mem_cons_self) inner old
      · rwa [List.mem_singleton.mp new]
  between := maximal.between

theorem IsMaximal.begin
    {division : Division}
    {level : Nat}
    {operator : Operator}
    (maximal : division.IsMaximal level)
    (other : operator.level ≠ level)
    (right : Expr) :
    (division.begin operator right).IsMaximal level where
  within := by
    intro run member inner inside
    rw [runs, Division.begin, List.map_append, List.map_singleton] at member
    rcases List.mem_append.mp member with earlier | final
    · exact maximal.within run earlier inner inside
    · rw [List.mem_singleton.mp final] at inside
      cases inside
  between := by
    intro inner member
    rw [separators, Division.begin, List.map_append, List.mem_append] at member
    rcases member with earlier | final
    · exact maximal.between inner earlier
    · rwa [List.mem_singleton.mp final]

end Division

namespace Series

/--
The runs of a series whose operators are of one level, none of which can
be made longer.
-/
def division (level : Nat) : Series → Division
  | operand expr => ⟨[], ⟨expr, []⟩⟩
  | link before operator last =>
      if operator.level = level then
        (before.division level).extend operator last
      else
        (before.division level).begin operator last

theorem isMaximal_division (level : Nat) (series : Series) :
    (series.division level).IsMaximal level := by
  induction series with
  | operand expr =>
      constructor
      · simp [division, Division.runs, Run.operators]
      · simp [division, Division.separators]
  | link before operator last hypothesis =>
      rw [division]
      split
      · next same => exact hypothesis.extend same last
      · next other => exact hypothesis.begin other last

theorem strands_division (level : Nat) (series : Series) :
    (series.division level).strands = series.strands := by
  induction series with
  | operand expr => rfl
  | link before operator last hypothesis =>
      rw [division]
      split
      · rw [Division.strands_extend, hypothesis]
        rfl
      · rw [Division.strands_begin, hypothesis]
        rfl

/-- A pass carries the runs along, each nested into one operand. -/
theorem carried_joinLevel (level : Nat) (series : Series) :
    (series.joinLevel level).carried = (series.division level).carried := by
  induction series with
  | operand expr => rfl
  | link before operator last hypothesis =>
      rw [joinLevel, division]
      split
      · next same =>
          rw [← carry_carried_same same, hypothesis,
            Division.carry_carried_same same]
      · next other =>
          have pass := carry_carried_other other (before.joinLevel level) last
          rw [← pass, hypothesis, Division.carry_carried_other other]

theorem strands_joinLevel_division (level : Nat) (series : Series) :
    (series.joinLevel level).strands = (series.division level).nested := by
  rw [← settle_carried, carried_joinLevel, Division.settle_carried]

end Series

namespace Strands

/--
A pass over two lists, one operand longer than the other, loses and reorders
nothing, whether or not any operator is of its level.

There is still one operand more than there are operators.  The operators that
are left are those of other levels in their order, and read in turns the lists
hold the leaves and operators that they held before.  Each operand that is left
is a run of the old ones, nested to the left; the operators within the runs are
those of the level, so no run can be made longer.  All this is what the pass
over a series does, the lists being those of a series.
-/
theorem joinLevel_regroups
    (level : Nat)
    (strands : Strands)
    (balanced : strands.IsBalanced) :
    (strands.joinLevel level).IsBalanced ∧
    (strands.joinLevel level).operators =
      strands.operators.filter (fun operator => operator.level ≠ level) ∧
    (strands.joinLevel level).inOrder = strands.inOrder ∧
    (∃ division : Division,
      division.IsMaximal level ∧ division.strands = strands ∧
      strands.joinLevel level = division.nested) ∧
    ∃ series : Series, series.strands = strands ∧
      strands.joinLevel level = (series.joinLevel level).strands := by
  rcases balanced.exists_series with ⟨series, rfl⟩
  have pass := series.strands_joinLevel level
  rw [pass]
  refine ⟨Series.isBalanced_strands _, series.operators_joinLevel level,
    series.inOrder_joinLevel level, ⟨series.division level, ?_⟩,
    ⟨series, rfl, rfl⟩⟩
  exact ⟨series.isMaximal_division level, series.strands_division level,
    series.strands_joinLevel_division level⟩

/--
A pass over the looser level alone: two of its operators make one run, a
third stands apart.
-/
theorem joinLevel_regroups_sum :
    let strands : Strands :=
      ⟨[.number 8, .number 3, .number 2, .number 5, .number 1],
        [.subtract, .add, .multiply, .subtract]⟩
    strands.IsBalanced ∧
      strands.joinLevel 2 =
        ⟨[.binary (.binary (.number 8) .subtract (.number 3)) .add (.number 2),
            .binary (.number 5) .subtract (.number 1)],
          [.multiply]⟩ ∧
      (strands.joinLevel 2).inOrder = strands.inOrder := by
  intro strands
  have balanced : strands.IsBalanced := by decide
  exact ⟨balanced, by decide, (joinLevel_regroups 2 strands balanced).2.2.1⟩

end Strands

end Reckoner
