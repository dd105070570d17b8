import Reckoner.Operator
import Reckoner.Text.Decimal
import Reckoner.Text.Quoted

/-!
# Tokens

The tokens of a formula, and how a run of characters is read as one.  A token
or a fault stands at a span of columns; columns count characters from one.

A run is read by its first character: a parenthesis stands alone, decimal
digits write a number, operator characters write an operator, and any other
character is a fault of its own.
-/

namespace Reckoner

/--
Something that occupies the columns from `start` to `stop`, both included.
-/
structure Placed (Item : Type) where
  item : Item
  start : Nat
  stop : Nat
  deriving DecidableEq, Repr

/-- A token of a formula. -/
inductive Token where
  | leftParen
  | rightParen
  | number (value : Int64)
  | operator (operator : Operator)
  deriving DecidableEq, Repr

/-- Why a run of characters is no token. -/
inductive TokenFault where
  | unexpectedCharacter (character : Char)
  | unknownOperator (run : String)
  | literalOutOfRange (digits : String)
  deriving DecidableEq, Repr

/-- A fault together with the column at which the run starts. -/
structure TokenError where
  fault : TokenFault
  column : Nat
  deriving DecidableEq, Repr

/-- How a column is named in messages. -/
def columnText (column : Nat) : String :=
  "col " ++ Decimal.natural column

/-- The wording of a fault, without its column. -/
def TokenFault.message : TokenFault → String
  | unexpectedCharacter character =>
      "Unexpected character: " ++ Quoted.character character
  | unknownOperator run => "Unknown operator: " ++ run
  | literalOutOfRange digits => "Integer literal out of range: " ++ digits

/-- The wording of a fault and its column. -/
def TokenError.message (error : TokenError) : String :=
  error.fault.message ++ " at " ++ columnText error.column

namespace Token

/-- The shortest text that writes the token. -/
def text : Token → String
  | leftParen => "("
  | rightParen => ")"
  | number value => Decimal.signed value
  | operator found => found.text

/-- The greatest number that a literal may write. -/
def greatestLiteral : Nat :=
  9223372036854775807

/-- It is the greatest signed 64-bit number. -/
theorem greatestLiteral_eq :
    (greatestLiteral : Int) = Int64.maxValue.toInt := by
  decide

/-- Whether a character goes on with the run that starts with `first`. -/
def joins (first character : Char) : Bool :=
  if first.isDigit then
    character.isDigit
  else if Operator.isSymbol first then
    Operator.isSymbol character
  else
    false

/-- The number that a run of digits writes, unless it is too great. -/
def ofDigits (digits : List Char) : Except TokenFault Token :=
  if Decimal.value digits ≤ greatestLiteral then
    .ok (number (Int64.ofNat (Decimal.value digits)))
  else
    .error (.literalOutOfRange (String.ofList digits))

/-- The operator that a run of operator characters writes, if there is one. -/
def ofSymbols (run : List Char) : Except TokenFault Token :=
  match Operator.ofRun? run with
  | some found => .ok (operator found)
  | none => .error (.unknownOperator (String.ofList run))

/-- The token that a run writes, given its first character and the others. -/
def ofRun (first : Char) (others : List Char) : Except TokenFault Token :=
  if first = '(' then
    .ok leftParen
  else if first = ')' then
    .ok rightParen
  else if first.isDigit then
    ofDigits (first :: others)
  else if Operator.isSymbol first then
    ofSymbols (first :: others)
  else
    .error (.unexpectedCharacter first)

end Token

/-- A token's text and its columns. -/
def Placed.text (placed : Placed Token) : String :=
  placed.item.text ++ " @ " ++ Decimal.natural placed.start ++ " -> " ++
    Decimal.natural placed.stop

end Reckoner
