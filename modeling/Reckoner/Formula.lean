import Reckoner.Expr.Value
import Reckoner.Nesting

/-!
# Formulas

A formula is a text that is read into a tree, whose value is the value of the
formula.  `calculate` gives that value or the one error that stands in its way.
-/

namespace Reckoner

/-- Why a formula has no value. -/
inductive FormulaError where
  | invalidToken (error : TokenError)
  | malformed (error : SyntaxError)
  | arithmetic (error : ArithmeticError)
  deriving DecidableEq, Repr

namespace FormulaError

/--
A bad token is an error of its own kind; all other faults are of structure.
-/
def ofSyntax (error : SyntaxError) : FormulaError :=
  match error.fault with
  | .badToken fault => invalidToken ⟨fault, error.column⟩
  | _ => malformed error

/-- The wording of the error. -/
def message : FormulaError → String
  | invalidToken error => "Invalid token: " ++ error.message
  | malformed error => "Malformed formula: " ++ error.message
  | arithmetic error => error.message

/-- The exit code of a program that fails with the error. -/
def exitCode : FormulaError → UInt8
  | invalidToken _ => 1
  | malformed _ => 2
  | arithmetic .divisionByZero => 3
  | arithmetic (.overflow _ _ _) => 4

end FormulaError

/-- What a formula comes to. -/
abbrev Outcome : Type :=
  Except FormulaError Int64

/-- The value of a formula, or why it has none. -/
def calculate (text : String) : Outcome := do
  let expr ← (parse text).mapError .ofSyntax
  expr.value.mapError .arithmetic

theorem calculate_of_parse_ok
    {text : String}
    {expr : Expr}
    (parsed : parse text = .ok expr) :
    calculate text = expr.value.mapError .arithmetic := by
  rw [calculate, parsed]
  rfl

theorem calculate_of_parse_error
    {text : String}
    {error : SyntaxError}
    (failed : parse text = .error error) :
    calculate text = .error (.ofSyntax error) := by
  rw [calculate, failed]
  rfl

/-- Whether a formula failed only because a parenthesis is still open. -/
def Outcome.isUnclosed : Outcome → Bool
  | .error (.malformed error) => error.fault == .unclosedParen
  | _ => false

end Reckoner
