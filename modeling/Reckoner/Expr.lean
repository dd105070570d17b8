import Reckoner.Operator
import Reckoner.Text.Decimal

/-!
# Expression trees

A formula without its parentheses: numbers at the leaves and an operator at
every other node.  Leaves are signed 64-bit numbers; those of a formula that
was read from text are never negative, but a tree may be built from any.
-/

namespace Reckoner

/-- An expression tree. -/
inductive Expr where
  | number (value : Int64)
  | binary (left : Expr) (operator : Operator) (right : Expr)
  deriving DecidableEq, Repr

namespace Expr

/-- The number of nodes, leaves included. -/
def size : Expr → Nat
  | number _ => 1
  | binary left _ right => 1 + left.size + right.size

/-- The number of nodes on the longest way down; a leaf has depth one. -/
def depth : Expr → Nat
  | number _ => 1
  | binary left _ right => 1 + max left.depth right.depth

/-- The tree written out, every node with its parts in parentheses. -/
def outline : Expr → String
  | number value => "Int(" ++ Decimal.signed value ++ ")"
  | binary left operator right =>
      "BinaryOp(" ++ left.outline ++ ", " ++ operator.text ++ ", " ++
        right.outline ++ ")"

/-- No way down is longer than the tree is large. -/
theorem depth_le_size (expr : Expr) : expr.depth ≤ expr.size := by
  induction expr with
  | number value => exact Nat.le_refl 1
  | binary left operator right leftBound rightBound =>
      simp only [depth, size]
      omega

end Expr

end Reckoner
