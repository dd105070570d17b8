/-!
# Binary operators

The four operators of a formula, with the symbol that writes each, the level
at which it binds, and its checked application to signed 64-bit operands.

Levels are counted from the tightest: multiplication and division bind at
level one, addition and subtraction at level two.  Application is exact or
refused; it never wraps around.
-/

namespace Reckoner

/-- A binary operator of a formula. -/
inductive Operator where
  | multiply
  | divide
  | add
  | subtract
  deriving DecidableEq, Repr

namespace Operator

/-- Every operator, the tightest first. -/
def all : List Operator :=
  [multiply, divide, add, subtract]

theorem mem_all (operator : Operator) : operator ∈ all := by
  cases operator <;> decide

/-- The character that writes the operator. -/
def symbol : Operator → Char
  | multiply => '*'
  | divide => '/'
  | add => '+'
  | subtract => '-'

theorem symbol_injective
    {first second : Operator}
    (equality : first.symbol = second.symbol) :
    first = second := by
  revert equality
  cases first <;> cases second <;> decide

/-- The text of the operator: its symbol and nothing else. -/
def text (operator : Operator) : String :=
  String.singleton operator.symbol

/-- The level at which the operator binds; a lower level binds more tightly. -/
def level : Operator → Nat
  | multiply => 1
  | divide => 1
  | add => 2
  | subtract => 2

/-- The levels in use, the tightest first. -/
def levels : List Nat :=
  [1, 2]

theorem level_mem_levels (operator : Operator) : operator.level ∈ levels := by
  cases operator <;> decide

/-- Whether a character writes some operator. -/
def isSymbol (character : Char) : Bool :=
  all.any fun operator => operator.symbol == character

@[simp]
theorem isSymbol_symbol
    (operator : Operator) :
    isSymbol operator.symbol = true := by
  cases operator <;> decide

/--
The operator that a run of characters writes.  A symbol is a single character,
so a longer run of operator characters writes none.
-/
def ofRun? : List Char → Option Operator
  | [character] => all.find? fun operator => operator.symbol == character
  | _ => none

@[simp]
theorem ofRun?_symbol
    (operator : Operator) :
    ofRun? [operator.symbol] = some operator := by
  cases operator <;> decide

/-- The operator that a text writes. -/
def ofText? (text : String) : Option Operator :=
  ofRun? text.toList

/-- What is said of a text that writes no operator. -/
def unknownMessage (text : String) : String :=
  "Unknown binary operator: " ++ text

/--
Whether the exact result lies outside the signed 64-bit range.  A quotient
does so only when the least value is divided by minus one.
-/
def overflows (operator : Operator) (left right : Int64) : Bool :=
  match operator with
  | multiply => left.toBitVec.smulOverflow right.toBitVec
  | divide => left.toBitVec.sdivOverflow right.toBitVec
  | add => left.toBitVec.saddOverflow right.toBitVec
  | subtract => left.toBitVec.ssubOverflow right.toBitVec

/-- The result of 64-bit arithmetic, exact whenever there is no overflow. -/
def combine (operator : Operator) (left right : Int64) : Int64 :=
  match operator with
  | multiply => left * right
  | divide => left / right
  | add => left + right
  | subtract => left - right

/-- A division whose divisor is zero has no result at all. -/
def dividesByZero (operator : Operator) (right : Int64) : Bool :=
  operator == divide && right == 0

/--
The exact result of applying the operator, its quotient truncated toward
zero; none on overflow and none for a zero divisor.
-/
def result? (operator : Operator) (left right : Int64) : Option Int64 :=
  if operator.dividesByZero right || operator.overflows left right then
    none
  else
    some (operator.combine left right)

end Operator

end Reckoner
