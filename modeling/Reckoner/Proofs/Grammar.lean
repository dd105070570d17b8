import Reckoner.Series
import Reckoner.Token

/-!
# The grammar of formulas

A formula is written by a grammar of three strata, each of which groups to the
left:

`E ::= T | E + T | E - T`, `T ::= F | T * F | T / F`, `F ::= number | ( E )`.

Parentheses leave no node in the tree.  A series knows nothing of the strata:
it becomes a tree by passes over its operators.  `Series.Spelled.derives` says
that the passes build a tree that the grammar gives to the same tokens.
-/

namespace Reckoner

/-- The strata of the grammar, the tightest first. -/
inductive Stratum where
  | factor
  | term
  | expression
  deriving DecidableEq, Repr

/-- The tokens are a phrase of a stratum, and this is its tree. -/
inductive Derives : Stratum → List Token → Expr → Prop where
  | number (value : Int64) :
      Derives .factor [.number value] (.number value)
  | group {inner : List Token} {expr : Expr} :
      Derives .expression inner expr →
      Derives .factor (.leftParen :: (inner ++ [.rightParen])) expr
  | ofFactor {run : List Token} {expr : Expr} :
      Derives .factor run expr →
      Derives .term run expr
  | product {front back : List Token} {left right : Expr}
      {operator : Operator} :
      operator = .multiply ∨ operator = .divide →
      Derives .term front left →
      Derives .factor back right →
      Derives .term (front ++ .operator operator :: back)
        (.binary left operator right)
  | ofTerm {run : List Token} {expr : Expr} :
      Derives .term run expr →
      Derives .expression run expr
  | sum {front back : List Token} {left right : Expr} {operator : Operator} :
      operator = .add ∨ operator = .subtract →
      Derives .expression front left →
      Derives .term back right →
      Derives .expression (front ++ .operator operator :: back)
        (.binary left operator right)

theorem Derives.expression
    {stratum : Stratum}
    {run : List Token}
    {expr : Expr}
    (derived : Derives stratum run expr) :
    Derives .expression run expr := by
  cases stratum with
  | factor => exact .ofTerm (.ofFactor derived)
  | term => exact .ofTerm derived
  | expression => exact derived

/-! ## Levels and strata -/

theorem Operator.level_eq_one_iff {operator : Operator} :
    operator.level = 1 ↔ operator = .multiply ∨ operator = .divide := by
  cases operator <;> simp [Operator.level]

theorem Operator.level_eq_two_iff {operator : Operator} :
    operator.level = 2 ↔ operator = .add ∨ operator = .subtract := by
  cases operator <;> simp [Operator.level]

/-! ## Leaves -/

/-- The numbers at the leaves, from left to right. -/
def Expr.leaves : Expr → List Int64
  | number value => [value]
  | binary left _ right => left.leaves ++ right.leaves

/-- The number that a token writes, if it writes one. -/
def Token.number? : Token → Option Int64
  | number value => some value
  | _ => none

theorem Derives.leaves_eq
    {stratum : Stratum}
    {run : List Token}
    {expr : Expr}
    (derived : Derives stratum run expr) :
    expr.leaves = run.filterMap Token.number? := by
  induction derived with
  | number value => rfl
  | group _ hypothesis =>
      simp [hypothesis, Token.number?, List.filterMap_cons]
  | ofFactor _ hypothesis => exact hypothesis
  | product _ _ _ left right =>
      simp [Expr.leaves, left, right, Token.number?, List.filterMap_cons]
  | ofTerm _ hypothesis => exact hypothesis
  | sum _ _ _ left right =>
      simp [Expr.leaves, left, right, Token.number?, List.filterMap_cons]

/-! ## Series as phrases with operators between them -/

namespace Series

/--
The tokens of a series, each operand being written by a phrase of some kind.
-/
inductive Spelled
    (Phrase : List Token → Expr → Prop) :
    Series → List Token → Prop where
  | operand {run : List Token} {expr : Expr} :
      Phrase run expr →
      Spelled Phrase (.operand expr) run
  | link {before : Series} {operator : Operator} {last : Expr}
      {front back : List Token} :
      Spelled Phrase before front →
      Phrase back last →
      Spelled Phrase (.link before operator last)
        (front ++ .operator operator :: back)

section Passes

variable
    {Finer Coarser : List Token → Expr → Prop}
    {level : Nat}

theorem Spelled.absorb
    (join :
      ∀ {front back left operator right},
        operator.level = level →
        Coarser front left →
        Finer back right →
        Coarser (front ++ .operator operator :: back)
          (.binary left operator right))
    {series : Series}
    {operator : Operator}
    {right : Expr}
    {front back : List Token}
    (sameLevel : operator.level = level)
    (spelled : series.Spelled Coarser front)
    (phrase : Finer back right) :
    (series.absorb operator right).Spelled Coarser
      (front ++ .operator operator :: back) := by
  cases spelled with
  | operand left =>
      exact .operand (join sameLevel left phrase)
  | link before left =>
      rw [List.append_assoc, List.cons_append]
      exact .link before (join sameLevel left phrase)

/--
A pass over a level turns finer phrases into coarser ones, if a finer phrase is
a coarser one and so is a coarser phrase with an operator of that level and a
finer phrase after it.
-/
theorem Spelled.joinLevel
    (lift : ∀ {run expr}, Finer run expr → Coarser run expr)
    (join :
      ∀ {front back left operator right},
        operator.level = level →
        Coarser front left →
        Finer back right →
        Coarser (front ++ .operator operator :: back)
          (.binary left operator right))
    {series : Series}
    {run : List Token}
    (spelled : series.Spelled Finer run) :
    (series.joinLevel level).Spelled Coarser run := by
  induction spelled with
  | operand phrase =>
      exact .operand (lift phrase)
  | @link before operator last front back _ phrase hypothesis =>
      by_cases sameLevel : operator.level = level
      · rw [Series.joinLevel, if_pos sameLevel]
        exact hypothesis.absorb join sameLevel phrase
      · rw [Series.joinLevel, if_neg sameLevel]
        exact .link hypothesis (lift phrase)

end Passes

/--
The tree of a series of factors is a tree that the grammar gives to its tokens.
-/
theorem Spelled.derives
    {series : Series}
    {run : List Token}
    (spelled : series.Spelled (Derives .factor) run) :
    Derives .expression run series.tree := by
  have terms : (series.joinLevel 1).Spelled (Derives .term) run :=
    spelled.joinLevel .ofFactor fun sameLevel left right =>
      .product (Operator.level_eq_one_iff.mp sameLevel) left right
  have expressions : series.joinAll.Spelled (Derives .expression) run :=
    terms.joinLevel .ofTerm fun sameLevel left right =>
      .sum (Operator.level_eq_two_iff.mp sameLevel) left right
  rw [series.joinAll_eq] at expressions
  cases expressions with
  | operand derived => exact derived

/-! ## Series put together -/

/-- Two series with an operator between them. -/
def append (front : Series) (operator : Operator) : Series → Series
  | operand expr => link front operator expr
  | link before between last => link (front.append operator before) between last

theorem Spelled.append
    {Phrase : List Token → Expr → Prop}
    {front back : Series}
    {operator : Operator}
    {frontRun backRun : List Token}
    (frontSpelled : front.Spelled Phrase frontRun)
    (backSpelled : back.Spelled Phrase backRun) :
    (front.append operator back).Spelled Phrase
      (frontRun ++ .operator operator :: backRun) := by
  induction backSpelled with
  | operand phrase =>
      exact .link frontSpelled phrase
  | link _ phrase hypothesis =>
      rw [← List.cons_append, ← List.append_assoc]
      exact .link hypothesis phrase

theorem absorb_append
    (front back : Series)
    (between operator : Operator)
    (right : Expr) :
    (front.append between back).absorb operator right =
      front.append between (back.absorb operator right) := by
  cases back <;> rfl

/-- A pass over another level keeps the operator between two series. -/
theorem joinLevel_append
    {level : Nat}
    {operator : Operator}
    (otherLevel : operator.level ≠ level)
    (front back : Series) :
    (front.append operator back).joinLevel level =
      (front.joinLevel level).append operator (back.joinLevel level) := by
  induction back with
  | operand expr =>
      simp only [append, joinLevel, if_neg otherLevel]
  | link before between last hypothesis =>
      by_cases sameLevel : between.level = level
      · simp only [append, joinLevel, if_pos sameLevel, hypothesis,
          absorb_append]
      · simp only [append, joinLevel, if_neg sameLevel, hypothesis]

end Series

end Reckoner
