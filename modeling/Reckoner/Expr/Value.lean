import Reckoner.Expr

/-!
# The value of an expression

The value of a tree in signed 64-bit arithmetic.  The left part is worked out
before the right one and both before their operator, so the fault reported is
the first in that order.
-/

namespace Reckoner

/-- Why an expression has no value. -/
inductive ArithmeticError where
  | divisionByZero
  | overflow (left : Int64) (operator : Operator) (right : Int64)
  deriving DecidableEq, Repr

/-- The wording of an arithmetic error. -/
def ArithmeticError.message : ArithmeticError → String
  | divisionByZero => "Division by zero"
  | overflow left operator right =>
      "Integer overflow: " ++ Decimal.signed left ++ " " ++ operator.text ++
        " " ++ Decimal.signed right

/-- The result of one operation, or why there is none. -/
def Operator.apply
    (operator : Operator)
    (left right : Int64) :
    Except ArithmeticError Int64 :=
  if operator.dividesByZero right then
    .error .divisionByZero
  else
    match operator.result? left right with
    | some result => .ok result
    | none => .error (.overflow left operator right)

/-- The value of an expression, or the first fault on the way to it. -/
def Expr.value : Expr → Except ArithmeticError Int64
  | number value => .ok value
  | binary left operator right => do
      let leftValue ← left.value
      let rightValue ← right.value
      operator.apply leftValue rightValue

@[simp]
theorem Expr.value_number
    (value : Int64) :
    (Expr.number value).value = .ok value :=
  rfl

theorem Expr.value_binary
    (left : Expr)
    (operator : Operator)
    (right : Expr) :
    (Expr.binary left operator right).value =
      left.value.bind fun leftValue =>
        right.value.bind fun rightValue =>
          operator.apply leftValue rightValue :=
  rfl

end Reckoner
