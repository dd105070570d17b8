import Reckoner.Formula
import Reckoner.Proofs.Reading

/-!
# Reckoning in one pass

A formula can be reckoned without a tree.  A machine reads the tokens once, from
left to right, and keeps two stacks: the values so far, and the operators and
open parentheses that still wait.  An operator is applied as soon as it is on
top and the next token does not bind its right operand more tightly.

The machine applies the operators in the order in which a tree is worked out, so
it comes to the same value or to the same first error, although a tree is built
one level of operators after the other.  This is `calculate_eq_onePass`.
-/

namespace Reckoner.OnePass

/-! ## The stacks -/

/-- What waits on the second stack. -/
inductive Pending where
  | leftParen
  | operator (operator : Operator)
  deriving DecidableEq, Repr

/-- The values so far and what waits, the latest first. -/
structure Stacks where
  values : List Int64
  pending : List Pending
  deriving DecidableEq, Repr

/-- Why the machine stops: an operation failed, or the tokens are no formula. -/
inductive Halt where
  | arithmetic (error : ArithmeticError)
  | noFormula
  deriving DecidableEq, Repr

/--
Whether an operator on top is applied before the next token is read, or before
the end if there is none: the next token is an operator that does not bind more
tightly, a closing parenthesis, or the end.
-/
def givesWay (top : Operator) : Option Token → Bool
  | some (.operator next) => top.level ≤ next.level
  | some .rightParen => true
  | none => true
  | some (.number _) => false
  | some .leftParen => false

namespace Stacks

/-- Nothing has been read. -/
def start : Stacks :=
  ⟨[], []⟩

/-- Put the result of an operation in the place of its two operands. -/
def applyTop (operator : Operator) : List Int64 → Except Halt (List Int64)
  | right :: left :: below => do
      let result ← (operator.apply left right).mapError .arithmetic
      return result :: below
  | _ => .error .noFormula

/--
Apply operators from the top on, as long as they give way to the next token.
-/
def reduce
    (next : Option Token)
    (values : List Int64) :
    List Pending → Except Halt Stacks
  | .operator top :: below =>
      if givesWay top next then do
        let reduced ← applyTop top values
        reduce next reduced below
      else
        .ok ⟨values, .operator top :: below⟩
  | pending => .ok ⟨values, pending⟩

/-- Apply what has to be applied before the next token, or before the end. -/
def settle (state : Stacks) (next : Option Token) : Except Halt Stacks :=
  reduce next state.values state.pending

/-- Put a token on its stack; a closing parenthesis takes the open one away. -/
def shift (state : Stacks) (token : Token) : Except Halt Stacks :=
  match token with
  | .number value => .ok { state with values := value :: state.values }
  | .operator operator =>
      .ok { state with pending := .operator operator :: state.pending }
  | .leftParen => .ok { state with pending := .leftParen :: state.pending }
  | .rightParen =>
      match state.pending with
      | .leftParen :: below => .ok { state with pending := below }
      | _ => .error .noFormula

/-- Read one token. -/
def read (state : Stacks) (token : Token) : Except Halt Stacks := do
  let settled ← state.settle (some token)
  settled.shift token

/-- Read tokens one after the other. -/
def readAll : Stacks → List Token → Except Halt Stacks
  | state, [] => .ok state
  | state, token :: rest => do
      let next ← state.read token
      next.readAll rest

/-- The one value that is left. -/
def result : Stacks → Except Halt Int64
  | ⟨[value], []⟩ => .ok value
  | _ => .error .noFormula

/-- Apply all that still waits at the end of the tokens. -/
def finish (state : Stacks) : Except Halt Int64 := do
  let settled ← state.settle none
  settled.result

end Stacks

/-- What the tokens come to, worked out in one pass. -/
def evaluate (run : List Token) : Except Halt Int64 := do
  let last ← Stacks.start.readAll run
  last.finish

example :
    evaluate
      [.number 9223372036854775807, .operator .multiply, .number 2,
        .operator .add, .number 3, .operator .divide, .number 0] =
      .error (.arithmetic (.overflow 9223372036854775807 .multiply 2)) := by
  decide

/-! ## Settling -/

namespace Stacks

theorem applyTop_eq
    (operator : Operator)
    (left right : Int64)
    (below : List Int64) :
    applyTop operator (right :: left :: below) =
      ((operator.apply left right).mapError .arithmetic).bind fun result =>
        .ok (result :: below) :=
  rfl

theorem readAll_cons
    (state : Stacks)
    (token : Token)
    (rest : List Token) :
    state.readAll (token :: rest) =
      (state.settle (some token)).bind fun settled =>
        (settled.shift token).bind fun next => next.readAll rest := by
  rw [← bind_bind]
  rfl

theorem readAll_append
    (state : Stacks)
    (front back : List Token) :
    state.readAll (front ++ back) =
      (state.readAll front).bind fun next => next.readAll back := by
  induction front generalizing state with
  | nil => rfl
  | cons token rest hypothesis =>
      rw [List.cons_append, readAll, readAll]
      cases state.read token with
      | error halt => rfl
      | ok next => exact hypothesis next

/--
The operator on top, if there is one, does not give way to the next token.
-/
def Waits (next : Option Token) (pending : List Pending) : Prop :=
  ∀ top below, pending = .operator top :: below → givesWay top next = false

theorem reduce_of_waits
    {next : Option Token}
    {pending : List Pending}
    (waits : Waits next pending)
    (values : List Int64) :
    reduce next values pending = .ok ⟨values, pending⟩ := by
  cases pending with
  | nil => rfl
  | cons first below =>
      cases first with
      | leftParen => rfl
      | operator top =>
          rw [reduce, waits top below rfl]
          rfl

theorem reduce_of_givesWay
    {next : Option Token}
    {top : Operator}
    (applied : givesWay top next = true)
    (values : List Int64)
    (below : List Pending) :
    reduce next values (.operator top :: below) =
      (applyTop top values).bind fun reduced => reduce next reduced below := by
  rw [reduce, if_pos applied]
  rfl

/--
Settling for a token that more operators give way to includes
settling for another.
-/
theorem settle_settle
    {earlier later : Option Token}
    (more :
      ∀ top : Operator, givesWay top earlier = true → givesWay top later = true)
    (state : Stacks) :
    (state.settle earlier).bind (fun settled => settled.settle later) =
      state.settle later := by
  rcases state with ⟨values, pending⟩
  change (reduce earlier values pending).bind _ = reduce later values pending
  induction pending generalizing values with
  | nil => rfl
  | cons first below hypothesis =>
      cases first with
      | leftParen => rfl
      | operator top =>
          cases applied : givesWay top earlier with
          | false =>
              rw [reduce, applied]
              rfl
          | true =>
              rw [reduce_of_givesWay applied,
                reduce_of_givesWay (more top applied), bind_bind]
              cases applyTop top values with
              | error halt => rfl
              | ok reduced => exact hypothesis reduced

theorem settle_congr
    {first second : Option Token}
    (same : ∀ top : Operator, givesWay top first = givesWay top second)
    (state : Stacks) :
    state.settle first = state.settle second := by
  rcases state with ⟨values, pending⟩
  change reduce first values pending = reduce second values pending
  induction pending generalizing values with
  | nil => rfl
  | cons waiting below hypothesis =>
      cases waiting with
      | leftParen => rfl
      | operator top => simp only [reduce, same, hypothesis]

theorem readAll_settle
    {earlier later : Option Token}
    (more :
      ∀ top : Operator, givesWay top earlier = true → givesWay top later = true)
    (state : Stacks)
    (run : List Token) :
    (state.readAll run).bind (fun last => last.settle later) =
      ((state.readAll run).bind fun last => last.settle earlier).bind
        fun settled =>
        settled.settle later := by
  rw [bind_bind]
  simp only [settle_settle more]

theorem settle_of_waits
    {next : Option Token}
    {state : Stacks}
    (waits : Waits next state.pending) :
    state.settle next = .ok state :=
  reduce_of_waits waits state.values

theorem settle_number (state : Stacks) (value : Int64) :
    state.settle (some (.number value)) = .ok state :=
  settle_of_waits fun _ _ _ => rfl

theorem settle_leftParen (state : Stacks) :
    state.settle (some .leftParen) = .ok state :=
  settle_of_waits fun _ _ _ => rfl

/-! ## Phrases -/

/-- The stacks with one more value, if it could be worked out. -/
def push
    (state : Stacks)
    (outcome : Except ArithmeticError Int64) :
    Except Halt Stacks :=
  match outcome with
  | .ok value => .ok { state with values := value :: state.values }
  | .error error => .error (.arithmetic error)

end Stacks

/--
Wherever the tokens are read, once all is applied that gives way to the next
token they have left their outcome on the stack of values, and nothing else.
-/
def Pushes
    (next : Option Token)
    (run : List Token)
    (outcome : Except ArithmeticError Int64) : Prop :=
  ∀ state : Stacks, Stacks.Waits next state.pending →
    (state.readAll run).bind (fun last => last.settle next) = state.push outcome

section Phrases

variable
    {run : List Token}
    {outcome : Except ArithmeticError Int64}

theorem Pushes.of_more
    {earlier later : Option Token}
    (more :
      ∀ top : Operator, givesWay top earlier = true → givesWay top later = true)
    (pushes : Pushes earlier run outcome) :
    Pushes later run outcome := by
  intro state waits
  have waitsEarlier : Stacks.Waits earlier state.pending := by
    intro top below split
    cases applied : givesWay top earlier with
    | false => rfl
    | true => exact (more top applied).symm.trans (waits top below split)
  rw [Stacks.readAll_settle more, pushes state waitsEarlier]
  cases outcome with
  | error error => rfl
  | ok value => exact Stacks.reduce_of_waits waits _

theorem pushes_number (value : Int64) :
    Pushes (some .leftParen) [.number value] (.ok value) := by
  intro state _
  rw [Stacks.readAll_cons, Stacks.settle_number]
  exact Stacks.settle_leftParen _

theorem Pushes.group
    (pushes : Pushes none run outcome) :
    Pushes (some .leftParen) (.leftParen :: (run ++ [.rightParen]))
      outcome := by
  intro state _
  rw [Stacks.readAll_cons, Stacks.settle_leftParen]
  change
    (Stacks.readAll ⟨state.values, .leftParen :: state.pending⟩
      (run ++ [.rightParen])).bind _ = _
  have closing :
      ∀ last : Stacks, last.settle (some .rightParen) = last.settle none :=
    Stacks.settle_congr fun _ => rfl
  have waits : Stacks.Waits none (.leftParen :: state.pending) := by
    rintro top below ⟨⟩
  rw [Stacks.readAll_append]
  simp only [Stacks.readAll_cons, closing]
  rw [← bind_bind, pushes ⟨state.values, .leftParen :: state.pending⟩ waits]
  cases outcome with
  | error error => rfl
  | ok value => exact Stacks.settle_leftParen _

/--
An operator between two phrases gives way to the next token, but not to the
tokens of its right operand; the operators in those give way before it does.
-/
theorem Pushes.binary
    {whole part : Option Token}
    {front back : List Token}
    {left right : Expr}
    {operator : Operator}
    (same :
      ∀ top : Operator,
        givesWay top (some (.operator operator)) = givesWay top whole)
    (applied : givesWay operator whole = true)
    (holds : givesWay operator part = false)
    (more :
      ∀ top : Operator, givesWay top part = true → givesWay top whole = true)
    (leftPushes : Pushes whole front left.value)
    (rightPushes : Pushes part back right.value) :
    Pushes whole (front ++ .operator operator :: back)
      (Expr.binary left operator right).value := by
  intro state waits
  have between :
      ∀ last : Stacks,
        last.settle (some (.operator operator)) = last.settle whole :=
    Stacks.settle_congr same
  rw [Stacks.readAll_append]
  simp only [Stacks.readAll_cons, between]
  rw [bind_bind]
  simp only [bind_bind]
  rw [← bind_bind, leftPushes state waits, Expr.value_binary]
  cases left.value with
  | error error => rfl
  | ok leftValue =>
      have rightWaits :
          Stacks.Waits part (.operator operator :: state.pending) := by
        rintro top below ⟨⟩
        exact holds
      change
        (Stacks.readAll
          ⟨leftValue :: state.values, .operator operator :: state.pending⟩
          back).bind (fun last => last.settle whole) = _
      rw [Stacks.readAll_settle more, rightPushes _ rightWaits]
      cases right.value with
      | error error => rfl
      | ok rightValue =>
          change
            Stacks.reduce whole (rightValue :: leftValue :: state.values)
              (.operator operator :: state.pending) =
                state.push (operator.apply leftValue rightValue)
          rw [Stacks.reduce_of_givesWay applied, Stacks.applyTop_eq]
          cases operator.apply leftValue rightValue with
          | error error => rfl
          | ok value => exact Stacks.reduce_of_waits waits _

end Phrases

end Reckoner.OnePass

namespace Reckoner

/--
The next token for which all is applied that a phrase of the stratum contains.
-/
def Stratum.limit : Stratum → Option Token
  | .factor => some .leftParen
  | .term => some (.operator .multiply)
  | .expression => none

/-- Reading a phrase works out the value of its tree. -/
theorem Derives.pushes
    {stratum : Stratum}
    {run : List Token}
    {expr : Expr}
    (derived : Derives stratum run expr) :
    OnePass.Pushes stratum.limit run expr.value := by
  induction derived with
  | number value => exact OnePass.pushes_number value
  | group _ hypothesis => exact hypothesis.group
  | ofFactor _ hypothesis =>
      exact hypothesis.of_more (by simp [Stratum.limit, OnePass.givesWay])
  | ofTerm _ hypothesis =>
      exact hypothesis.of_more (by simp [Stratum.limit, OnePass.givesWay])
  | @product _ _ _ _ operator isProduct _ _ leftHypothesis rightHypothesis =>
      have level : operator.level = Operator.level .multiply :=
        Operator.level_eq_one_iff.mpr isProduct
      refine OnePass.Pushes.binary ?_ ?_ rfl ?_ leftHypothesis rightHypothesis
      · simp only [Stratum.limit, OnePass.givesWay, level, implies_true]
      · simp only [Stratum.limit, OnePass.givesWay, level]
        rfl
      · simp [Stratum.limit, OnePass.givesWay]
  | @sum _ _ _ _ operator isSum _ _ leftHypothesis rightHypothesis =>
      have level : operator.level = Operator.level .add :=
        Operator.level_eq_two_iff.mpr isSum
      refine OnePass.Pushes.binary ?_ rfl ?_ ?_ leftHypothesis rightHypothesis
      · intro top
        simp only [Stratum.limit, OnePass.givesWay, level]
        cases top <;> rfl
      · simp only [Stratum.limit, OnePass.givesWay, level]
        rfl
      · simp [Stratum.limit, OnePass.givesWay]

/-- The tokens of a formula come to the value of its tree. -/
theorem Derives.onePass_eq
    {run : List Token}
    {expr : Expr}
    (derived : Derives .expression run expr) :
    OnePass.evaluate run = expr.value.mapError .arithmetic := by
  have waits : OnePass.Stacks.Waits none OnePass.Stacks.start.pending := by
    rintro top below ⟨⟩
  have pushed :
      (OnePass.Stacks.start.readAll run).bind (fun last => last.settle none) =
        OnePass.Stacks.start.push expr.value :=
    derived.pushes _ waits
  change
    (OnePass.Stacks.start.readAll run).bind
      (fun last => (last.settle none).bind OnePass.Stacks.result) = _
  rw [← bind_bind, pushed]
  cases expr.value with
  | error error => rfl
  | ok value => rfl

/--
A formula that is read into a tree comes, in one pass over its tokens and
without the tree, to the same value or to the same error.
-/
theorem calculate_eq_onePass
    (text : String)
    (expr : Expr)
    (parsed : parse text = .ok expr) :
    ∃ (found : List (Placed Token)) (outcome : Except ArithmeticError Int64),
      tokens text = .ok found ∧
      calculate text = Except.mapError .arithmetic outcome ∧
      OnePass.evaluate (found.map Placed.item) =
        Except.mapError .arithmetic outcome := by
  rcases exists_derives_of_parse parsed with ⟨found, allTokens, derived⟩
  exact
    ⟨found, expr.value, allTokens, calculate_of_parse_ok parsed,
      derived.onePass_eq⟩

/-- A product that overflows comes before a division by zero. -/
theorem overflow_before_division_onePass :
    parse "1+9223372036854775807*2-3/0" =
        .ok (.binary
          (.binary (.number 1) .add
            (.binary (.number 9223372036854775807) .multiply (.number 2)))
          .subtract (.binary (.number 3) .divide (.number 0))) ∧
      ∃ (found : List (Placed Token)) (outcome : Except ArithmeticError Int64),
        tokens "1+9223372036854775807*2-3/0" = .ok found ∧
        calculate "1+9223372036854775807*2-3/0" =
          Except.mapError .arithmetic outcome ∧
        OnePass.evaluate (found.map Placed.item) =
          Except.mapError .arithmetic outcome := by
  have parsed :
      parse "1+9223372036854775807*2-3/0" =
        .ok (.binary
          (.binary (.number 1) .add
            (.binary (.number 9223372036854775807) .multiply (.number 2)))
          .subtract (.binary (.number 3) .divide (.number 0))) := by
    decide +kernel
  exact ⟨parsed, calculate_eq_onePass _ _ parsed⟩

end Reckoner
