import Reckoner.Series
import Reckoner.Cursor

/-!
# Reading lexemes into a tree

The lexemes of a formula are read one by one, without looking ahead.  What has
been read so far is the content of the innermost open group together with the
groups around it, each waiting for its inner one to close.  Every structural
fault is found by the lexeme that makes it certain, or at the end.

The columns of the faults: two numbers or two operators in a row are reported
at the second of them, a group that ends too early at its end, a group that
never ends at the parenthesis that opens it.
-/

namespace Reckoner

/-- Why a sequence of lexemes is no formula. -/
inductive SyntaxFault where
  | badToken (fault : TokenFault)
  | twoNumbersInARow
  | twoOperatorsInARow
  | operatorAtEnd
  | emptyGroup
  | unclosedParen
  | unexpectedClosingParen
  deriving DecidableEq, Repr

/-- A fault and the column at which it is reported. -/
structure SyntaxError where
  fault : SyntaxFault
  column : Nat
  deriving DecidableEq, Repr

/-- The wording of a fault, without its column. -/
def SyntaxFault.message : SyntaxFault → String
  | badToken fault => fault.message
  | twoNumbersInARow => "Two numbers in a row"
  | twoOperatorsInARow => "Two operators in a row"
  | operatorAtEnd => "Operator at end of formula"
  | emptyGroup => "Expected an expression"
  | unclosedParen => "Unclosed parenthesis"
  | unexpectedClosingParen => "Closing parenthesis without opening parenthesis"

/-- The wording of a fault and its column. -/
def SyntaxError.message (error : SyntaxError) : String :=
  error.fault.message ++ " at " ++ columnText error.column

/-- The content of a group so far. -/
inductive Content where
  | empty
  | complete (series : Series)
  | dangling (series : Series) (operator : Operator)
  deriving DecidableEq, Repr

namespace Content

/-- One more operand, which must not follow another one. -/
def addOperand
    (content : Content)
    (expr : Expr)
    (column : Nat) :
    Except SyntaxError Content :=
  match content with
  | empty => .ok (complete (.operand expr))
  | dangling series operator => .ok (complete (.link series operator expr))
  | complete _ => .error ⟨.twoNumbersInARow, column⟩

/-- One more operator, which must follow an operand. -/
def addOperator
    (content : Content)
    (operator : Operator)
    (column : Nat) :
    Except SyntaxError Content :=
  match content with
  | complete series => .ok (dangling series operator)
  | _ => .error ⟨.twoOperatorsInARow, column⟩

/-- The tree of a group that ends at a column. -/
def close (content : Content) (column : Nat) : Except SyntaxError Expr :=
  match content with
  | empty => .error ⟨.emptyGroup, column⟩
  | dangling _ _ => .error ⟨.operatorAtEnd, column⟩
  | complete series => .ok series.tree

end Content

/-- An open group, and what stood before it in the group around it. -/
structure OpenGroup where
  openedAt : Nat
  before : Content
  deriving DecidableEq, Repr

/--
All that has been read: the open groups, the innermost first, and its content.
-/
structure Nesting where
  openGroups : List OpenGroup
  content : Content
  deriving DecidableEq, Repr

namespace Nesting

/-- Nothing has been read. -/
def start : Nesting :=
  ⟨[], .empty⟩

/-- Read one token at a column. -/
def readToken
    (nesting : Nesting)
    (token : Token)
    (column : Nat) :
    Except SyntaxError Nesting :=
  match token with
  | .number value =>
      (nesting.content.addOperand (.number value) column).map fun content =>
        { nesting with content }
  | .operator operator =>
      (nesting.content.addOperator operator column).map fun content =>
        { nesting with content }
  | .leftParen => .ok ⟨⟨column, nesting.content⟩ :: nesting.openGroups, .empty⟩
  | .rightParen =>
      match nesting.openGroups with
      | [] => .error ⟨.unexpectedClosingParen, column⟩
      | group :: around => do
          let expr ← nesting.content.close column
          let content ← group.before.addOperand expr group.openedAt
          return ⟨around, content⟩

/-- Read one lexeme; a bad token is a fault wherever it stands. -/
def read (nesting : Nesting) (lexeme : Lexeme) : Except SyntaxError Nesting :=
  match lexeme.item with
  | .ok token => nesting.readToken token lexeme.start
  | .error fault => .error ⟨.badToken fault, lexeme.start⟩

/-- End the formula at a column. -/
def finish (nesting : Nesting) (column : Nat) : Except SyntaxError Expr :=
  match nesting.openGroups with
  | [] => nesting.content.close column
  | group :: _ => .error ⟨.unclosedParen, group.openedAt⟩

/-- Read lexemes up to the first fault, or all of them and then the end. -/
def run (endColumn : Nat) : Nesting → List Lexeme → Except SyntaxError Expr
  | nesting, [] => nesting.finish endColumn
  | nesting, lexeme :: rest => do
      let next ← nesting.read lexeme
      next.run endColumn rest

/--
The number of steps that a run takes: one for each lexeme up to the first
fault, and one more for the end if there is no fault before it.
-/
def steps : Nesting → List Lexeme → Nat
  | _, [] => 1
  | nesting, lexeme :: rest =>
      match nesting.read lexeme with
      | .error _ => 1
      | .ok next => next.steps rest + 1

end Nesting

/--
Read one formula from a place on.  It extends to the end of the text unless a
fault is found before; the new place is after the last lexeme that was read.
-/
def Cursor.parse (cursor : Cursor) : Except SyntaxError Expr × Cursor :=
  (Nesting.start.run cursor.endColumn cursor.lexemes,
    cursor.skip (Nesting.start.steps cursor.lexemes))

/-- The tree of a text. -/
def parse (text : String) : Except SyntaxError Expr :=
  (Cursor.ofText text).parse.1

end Reckoner
