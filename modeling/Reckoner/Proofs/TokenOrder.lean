import Reckoner.Proofs.Reading
import Mathlib.Data.List.Chain

/-!
# The order of tokens

Two things are said of tokens without reading them into a tree: which of their
parentheses belong together, and which token may come directly after which.

Two parentheses belong together if what stands between them is balanced.  The
definitions `ClosedIn` and `OpenedIn` say this of one parenthesis and the tokens
on its inner side.  `MayFollow` is the rule for neighbours: an operand is due at
the start, after an opening parenthesis and after an operator, and nowhere else.
The tokens to which the grammar gives a tree are balanced and keep that rule.
-/

namespace Reckoner

/-! ## Parentheses that stay open -/

/--
The number of parentheses open after some tokens if a number of them were open
before; none if the tokens close more parentheses than were open.
-/
def openAfter : Nat → List Token → Option Nat
  | count, [] => some count
  | count, .leftParen :: rest => openAfter (count + 1) rest
  | 0, .rightParen :: _ => none
  | count + 1, .rightParen :: rest => openAfter count rest
  | count, .number _ :: rest => openAfter count rest
  | count, .operator _ :: rest => openAfter count rest

theorem openAfter_append
    (count : Nat)
    (front back : List Token) :
    openAfter count (front ++ back) =
      (openAfter count front).bind fun after => openAfter after back := by
  induction front generalizing count with
  | nil => simp [openAfter]
  | cons token rest hypothesis =>
      cases token with
      | rightParen => cases count <;> simp [openAfter, hypothesis]
      | leftParen => simp [openAfter, hypothesis]
      | number value => simp [openAfter, hypothesis]
      | operator operator => simp [openAfter, hypothesis]

/-- Parentheses that were open before stay open where nothing closes them. -/
theorem openAfter_add
    {count after : Nat}
    {run : List Token}
    (stays : openAfter count run = some after)
    (more : Nat) :
    openAfter (count + more) run = some (after + more) := by
  induction run generalizing count with
  | nil =>
      simp only [openAfter, Option.some.injEq] at stays ⊢
      rw [stays]
  | cons token rest hypothesis =>
      cases token with
      | rightParen =>
          cases count with
          | zero => simp [openAfter] at stays
          | succ count =>
              rw [openAfter] at stays
              rw [Nat.add_right_comm, openAfter]
              exact hypothesis stays
      | leftParen =>
          rw [openAfter] at stays
          rw [openAfter, Nat.add_right_comm]
          exact hypothesis stays
      | number value =>
          rw [openAfter] at stays
          rw [openAfter]
          exact hypothesis stays
      | operator operator =>
          rw [openAfter] at stays
          rw [openAfter]
          exact hypothesis stays

theorem openAfter_eq_none_of_closed
    {before after : List Token}
    (closed : openAfter 0 (before ++ .leftParen :: after) = some 0) :
    openAfter 0 after = none := by
  rw [openAfter_append] at closed
  cases front : openAfter 0 before with
  | none => simp [front] at closed
  | some count =>
      cases stays : openAfter 0 after with
      | none => rfl
      | some later =>
          have still := openAfter_add stays (count + 1)
          rw [Nat.zero_add] at still
          rw [front, Option.bind_some, openAfter, still,
            Option.some.injEq] at closed
          omega

/-! ## Parentheses that belong together -/

/-- Every parenthesis has its counterpart. -/
def Balanced (run : List Token) : Prop :=
  openAfter 0 run = some 0

/-- A parenthesis that opens before these tokens is closed by one of them. -/
def ClosedIn (after : List Token) : Prop :=
  ∃ inner rest, after = inner ++ .rightParen :: rest ∧ Balanced inner

/-- A parenthesis that closes behind these tokens is opened by one of them. -/
def OpenedIn (before : List Token) : Prop :=
  ∃ outer inner, before = outer ++ .leftParen :: inner ∧ Balanced inner

theorem exists_closing
    {count : Nat}
    {run : List Token}
    (closes : openAfter count run = none) :
    ∃ inner rest,
      run = inner ++ .rightParen :: rest ∧ openAfter count inner = some 0 := by
  induction run generalizing count with
  | nil => simp [openAfter] at closes
  | cons token following hypothesis =>
      cases token with
      | rightParen =>
          cases count with
          | zero => exact ⟨[], following, rfl, rfl⟩
          | succ count =>
              rcases hypothesis closes with ⟨inner, rest, rfl, balanced⟩
              exact ⟨.rightParen :: inner, rest, rfl, balanced⟩
      | leftParen =>
          rcases hypothesis closes with ⟨inner, rest, rfl, balanced⟩
          exact ⟨.leftParen :: inner, rest, rfl, balanced⟩
      | number value =>
          rcases hypothesis closes with ⟨inner, rest, rfl, balanced⟩
          exact ⟨.number value :: inner, rest, rfl, balanced⟩
      | operator operator =>
          rcases hypothesis closes with ⟨inner, rest, rfl, balanced⟩
          exact ⟨.operator operator :: inner, rest, rfl, balanced⟩

theorem closedIn_iff {after : List Token} :
    ClosedIn after ↔ openAfter 0 after = none := by
  constructor
  · rintro ⟨inner, rest, rfl, balanced⟩
    rw [openAfter_append, balanced]
    rfl
  · exact exists_closing

theorem Balanced.not_closedIn
    {run : List Token}
    (balanced : Balanced run) :
    ¬ ClosedIn run := by
  rw [closedIn_iff, balanced]
  simp

/-- What opens within balanced tokens also closes within them. -/
theorem Balanced.closedIn
    {before after : List Token}
    (balanced : Balanced (before ++ .leftParen :: after)) :
    ClosedIn after :=
  closedIn_iff.mpr (openAfter_eq_none_of_closed balanced)

theorem OpenedIn.cons
    {run : List Token}
    (opened : OpenedIn run)
    (token : Token) :
    OpenedIn (token :: run) := by
  rcases opened with ⟨outer, inner, rfl, balanced⟩
  exact ⟨token :: outer, inner, rfl, balanced⟩

/--
The innermost parenthesis that is open after some tokens was opened by one of
them, or it was open before and the tokens close no more than those inside it.
-/
theorem openedIn_or_of_openAfter
    {count after : Nat}
    {run : List Token}
    (stays : openAfter count run = some after) :
    OpenedIn run ∨
      ∃ inside, count = inside + after ∧ openAfter inside run = some 0 := by
  induction run generalizing count with
  | nil =>
      rw [openAfter, Option.some.injEq] at stays
      exact Or.inr ⟨0, by rw [stays, Nat.zero_add], rfl⟩
  | cons token rest hypothesis =>
      cases token with
      | leftParen =>
          rcases hypothesis stays with within | ⟨inside, total, closes⟩
          · exact Or.inl (within.cons .leftParen)
          · cases inside with
            | zero => exact Or.inl ⟨[], rest, rfl, closes⟩
            | succ inside => exact Or.inr ⟨inside, by omega, closes⟩
      | rightParen =>
          cases count with
          | zero => cases stays
          | succ count =>
              rcases hypothesis stays with within | ⟨inside, total, closes⟩
              · exact Or.inl (within.cons .rightParen)
              · exact Or.inr ⟨inside + 1, by omega, closes⟩
      | number value =>
          rcases hypothesis stays with within | before
          · exact Or.inl (within.cons (.number value))
          · exact Or.inr before
      | operator operator =>
          rcases hypothesis stays with within | before
          · exact Or.inl (within.cons (.operator operator))
          · exact Or.inr before

/--
A closing parenthesis has a counterpart exactly if a parenthesis is
open before it.
-/
theorem openedIn_iff
    {before : List Token}
    {count : Nat}
    (stays : openAfter 0 before = some count) :
    OpenedIn before ↔ count ≠ 0 := by
  constructor
  · rintro ⟨outer, inner, rfl, balanced⟩ closed
    rw [closed] at stays
    exact balanced.not_closedIn (Balanced.closedIn stays)
  · intro opened
    rcases openedIn_or_of_openAfter stays with within | ⟨inside, total, -⟩
    · exact within
    · omega

theorem Derives.openAfter_eq
    {stratum : Stratum}
    {run : List Token}
    {expr : Expr}
    (derived : Derives stratum run expr)
    (count : Nat) :
    openAfter count run = some count := by
  induction derived generalizing count with
  | number value => rfl
  | group _ hypothesis =>
      rw [openAfter, openAfter_append, hypothesis]
      rfl
  | ofFactor _ hypothesis => exact hypothesis count
  | product _ _ _ left right =>
      rw [openAfter_append, left]
      exact right count
  | ofTerm _ hypothesis => exact hypothesis count
  | sum _ _ _ left right =>
      rw [openAfter_append, left]
      exact right count

theorem Series.Spelled.openAfter_eq
    {series : Series}
    {run : List Token}
    (spelled : series.Spelled (Derives .factor) run)
    (count : Nat) :
    openAfter count run = some count :=
  spelled.derives.openAfter_eq count

theorem Content.Spelled.openAfter_eq
    {content : Content}
    {run : List Token}
    (spelled : content.Spelled run)
    (count : Nat) :
    openAfter count run = some count := by
  cases spelled with
  | empty => rfl
  | complete series => exact series.openAfter_eq count
  | dangling series =>
      rw [openAfter_append, series.openAfter_eq]
      rfl

/--
As many parentheses are open after the tokens of a state as it has open groups.
-/
theorem Nesting.Spelled.openAfter_eq
    {nesting : Nesting}
    {run : List Token}
    (spelled : nesting.Spelled run) :
    openAfter 0 run = some nesting.openGroups.length := by
  induction spelled with
  | outermost inside => exact inside.openAfter_eq 0
  | inner _ inside hypothesis =>
      rw [openAfter_append, hypothesis, Option.bind_some, openAfter,
        inside.openAfter_eq]
      rfl

theorem Nesting.Spelled.openedIn_iff
    {nesting : Nesting}
    {run : List Token}
    (spelled : nesting.Spelled run) :
    OpenedIn run ↔ nesting.openGroups ≠ [] := by
  rw [Reckoner.openedIn_iff spelled.openAfter_eq, ne_eq,
    List.length_eq_zero_iff]

/-! ## Where an operand may stand -/

/--
An operand may come first, after an opening parenthesis and after an operator.
-/
def TakesOperand (before : List Token) : Prop :=
  ∀ token ∈ before.getLast?,
    token = .leftParen ∨ ∃ operator, token = .operator operator

/-- An operand may be read into the content. -/
def Content.AwaitsOperand : Content → Prop
  | .complete _ => False
  | _ => True

theorem Content.awaitsOperand_of_addOperand
    {content next : Content}
    {expr : Expr}
    {column : Nat}
    (added : content.addOperand expr column = .ok next) :
    content.AwaitsOperand := by
  cases content with
  | complete series => cases added
  | empty => trivial
  | dangling series operator => trivial

theorem Content.AwaitsOperand.exists_complete
    {content : Content}
    (awaits : content.AwaitsOperand)
    (expr : Expr)
    (column : Nat) :
    ∃ series, content.addOperand expr column = .ok (.complete series) := by
  cases content with
  | complete series => exact awaits.elim
  | empty => exact ⟨_, rfl⟩
  | dangling series operator => exact ⟨_, rfl⟩

theorem Derives.not_takesOperand
    {stratum : Stratum}
    {run : List Token}
    {expr : Expr}
    (derived : Derives stratum run expr)
    (outer : List Token) :
    ¬ TakesOperand (outer ++ run) := by
  induction derived generalizing outer with
  | number value => simp [TakesOperand]
  | @group inner expr _ _ =>
      simp [TakesOperand, List.getLast?_append, List.getLast?_cons]
  | ofFactor _ hypothesis => exact hypothesis outer
  | @product front back left right operator _ _ _ _ rightHypothesis =>
      have last := rightHypothesis (outer ++ (front ++ [.operator operator]))
      simpa using last
  | ofTerm _ hypothesis => exact hypothesis outer
  | @sum front back left right operator _ _ _ _ rightHypothesis =>
      have last := rightHypothesis (outer ++ (front ++ [.operator operator]))
      simpa using last

theorem Content.Spelled.takesOperand_iff
    {content : Content}
    {run outer : List Token}
    (spelled : content.Spelled run)
    (outerTakes : TakesOperand outer) :
    TakesOperand (outer ++ run) ↔ content.AwaitsOperand := by
  cases spelled with
  | empty => simpa [Content.AwaitsOperand] using outerTakes
  | complete series =>
      simpa [Content.AwaitsOperand] using series.derives.not_takesOperand outer
  | dangling series => simp [TakesOperand, Content.AwaitsOperand]

/--
An operand may stand behind the tokens exactly if the innermost group takes one.
-/
theorem Nesting.Spelled.takesOperand_iff
    {nesting : Nesting}
    {run : List Token}
    (spelled : nesting.Spelled run) :
    TakesOperand run ↔ nesting.content.AwaitsOperand := by
  cases spelled with
  | outermost inside =>
      have first : TakesOperand [] := by simp [TakesOperand]
      exact inside.takesOperand_iff first
  | @inner around before content openedAt outer run outside inside =>
      have opened : TakesOperand (outer ++ [.leftParen]) := by
        simp [TakesOperand]
      have takes := inside.takesOperand_iff opened
      simpa using takes

/-- The last of the tokens is an operand or ends one. -/
def EndsOperand (before : List Token) : Prop :=
  ∃ token ∈ before.getLast?,
    token = .rightParen ∨ ∃ value, token = .number value

theorem not_takesOperand_iff {before : List Token} :
    ¬ TakesOperand before ↔ EndsOperand before := by
  rw [TakesOperand, EndsOperand]
  cases before.getLast? with
  | none => simp
  | some token => cases token <;> simp

/-! ## Neighbours -/

/-- Whether an operand is due after a token; none is the start of the tokens. -/
def operandDue : Option Token → Bool
  | none => true
  | some .leftParen => true
  | some (.operator _) => true
  | some .rightParen => false
  | some (.number _) => false

/-- Whether a token starts an operand; none is the end of the tokens. -/
def startsOperand : Option Token → Bool
  | some .leftParen => true
  | some (.number _) => true
  | some .rightParen => false
  | some (.operator _) => false
  | none => false

/-- An operand stands where one is due, and nowhere else. -/
def MayFollow (previous next : Option Token) : Prop :=
  operandDue previous = startsOperand next

/--
All neighbours may follow each other, the start and the end being
neighbours too.
-/
def WellOrdered (run : List Token) : Prop :=
  (none :: (run.map some ++ [none])).IsChain MayFollow

theorem takesOperand_iff_due {before : List Token} :
    TakesOperand before ↔ operandDue before.getLast? = true := by
  rw [TakesOperand]
  cases before.getLast? with
  | none => simp [operandDue]
  | some token => cases token <;> simp [operandDue]

theorem EndsOperand.not_due
    {before : List Token}
    (ends : EndsOperand before) :
    operandDue before.getLast? = false := by
  rw [← Bool.not_eq_true, ← takesOperand_iff_due, not_takesOperand_iff]
  exact ends

theorem getLast?_none_cons_map_some (run : List Token) :
    (none :: run.map some).getLast? = some run.getLast? := by
  rw [List.getLast?_cons, List.getLast?_map]
  cases run.getLast? <;> rfl

theorem WellOrdered.mayFollow
    {before after : List Token}
    {token : Token}
    (ordered : WellOrdered (before ++ token :: after)) :
    MayFollow before.getLast? (some token) := by
  rw [WellOrdered, List.map_append, List.map_cons, List.append_assoc,
    List.cons_append, ← List.cons_append, List.isChain_append] at ordered
  exact ordered.2.2 _ (getLast?_none_cons_map_some before) _ rfl

theorem WellOrdered.mayEnd
    {run : List Token}
    (ordered : WellOrdered run) :
    MayFollow run.getLast? none := by
  rw [WellOrdered, ← List.cons_append, List.isChain_append] at ordered
  exact ordered.2.2 _ (getLast?_none_cons_map_some run) _ rfl

theorem isChain_append_operator
    {previous next : Option Token}
    {front back : List Token}
    {operator : Operator}
    (before :
      (previous :: (front.map some ++ [some (.operator operator)])).IsChain
        MayFollow)
    (behind :
      (some (.operator operator) :: (back.map some ++ [next])).IsChain
        MayFollow) :
    (previous ::
      ((front ++ .operator operator :: back).map some ++ [next])).IsChain
      MayFollow := by
  rw [List.map_append, List.map_cons, List.append_assoc, List.cons_append,
    List.isChain_cons_split]
  exact ⟨before, behind⟩

/-- The tokens of a phrase are in order wherever the phrase may stand. -/
theorem Derives.isChain
    {stratum : Stratum}
    {run : List Token}
    {expr : Expr}
    (derived : Derives stratum run expr)
    {previous next : Option Token}
    (due : operandDue previous = true)
    (notStarting : startsOperand next = false) :
    (previous :: (run.map some ++ [next])).IsChain MayFollow := by
  induction derived generalizing previous next with
  | number value =>
      have first : MayFollow previous (some (.number value)) := due
      have last : MayFollow (some (.number value)) next := notStarting.symm
      simp [first, last]
  | @group inner expr _ hypothesis =>
      have first : MayFollow previous (some .leftParen) := due
      have last : MayFollow (some .rightParen) next := notStarting.symm
      have inside :
          (some Token.leftParen ::
            (inner.map some ++ [some Token.rightParen])).IsChain MayFollow :=
        hypothesis rfl rfl
      rw [List.map_cons, List.map_append, List.cons_append, List.append_assoc,
        List.isChain_cons_cons]
      refine ⟨first, ?_⟩
      change
        (some Token.leftParen ::
          (inner.map some ++ some Token.rightParen :: [next])).IsChain _
      rw [List.isChain_cons_split]
      exact ⟨inside, by simp [last]⟩
  | ofFactor _ hypothesis => exact hypothesis due notStarting
  | product _ _ _ left right =>
      exact isChain_append_operator (left due rfl) (right rfl notStarting)
  | ofTerm _ hypothesis => exact hypothesis due notStarting
  | sum _ _ _ left right =>
      exact isChain_append_operator (left due rfl) (right rfl notStarting)

theorem Derives.balanced
    {stratum : Stratum}
    {run : List Token}
    {expr : Expr}
    (derived : Derives stratum run expr) :
    Balanced run :=
  derived.openAfter_eq 0

theorem Derives.wellOrdered
    {stratum : Stratum}
    {run : List Token}
    {expr : Expr}
    (derived : Derives stratum run expr) :
    WellOrdered run :=
  derived.isChain rfl rfl

end Reckoner
