import Reckoner.Expr.Value
import Reckoner.Proofs.Sequencing
import Mathlib.Data.List.Basic

/-!
# Values and exact integers

The value of a tree is the exact one.  Every node of a tree has an exact
integer value unless a divisor in it is zero, and evaluation gives the value of
the root if all nodes have values that 64 bits can hold.  Otherwise it gives the
fault of the first node, the children before their parent and the left ones
first, that has no such value although its two children have.  Nothing wraps
around.  This is `value_exact`.
-/

namespace Reckoner

/-- The integers that 64 bits can hold. -/
def InRange (number : Int) : Prop :=
  -9223372036854775808 ≤ number ∧ number ≤ 9223372036854775807

/--
The exact result, a quotient being truncated toward zero and undefined for
the divisor zero.
-/
def Operator.exactResult?
    (operator : Operator)
    (left right : Int) :
    Option Int :=
  match operator with
  | multiply => some (left * right)
  | divide => if right = 0 then none else some (left.tdiv right)
  | add => some (left + right)
  | subtract => some (left - right)

namespace Expr

/-- The exact value, if no divisor is zero. -/
def exactValue? : Expr → Option Int
  | number value => some value.toInt
  | binary left operator right =>
      left.exactValue?.bind fun leftValue =>
        right.exactValue?.bind fun rightValue =>
          operator.exactResult? leftValue rightValue

/-- The nodes, children before their parent and left ones before right ones. -/
def nodes : Expr → List Expr
  | number value => [number value]
  | binary left operator right =>
      left.nodes ++ right.nodes ++ [binary left operator right]

/-- The exact value exists and 64 bits can hold it. -/
def Fits (expr : Expr) : Prop :=
  ∃ value, expr.exactValue? = some value ∧ InRange value

/-- The two children fit, but the node itself does not. -/
def Fails : Expr → Prop
  | number _ => False
  | binary left operator right =>
      left.Fits ∧ right.Fits ∧ ¬ (binary left operator right).Fits

end Expr

/-! ## Single operations -/

theorem inRange_toInt (value : Int64) : InRange value.toInt :=
  ⟨value.le_toInt, Int.le_of_lt_add_one value.toInt_lt⟩

theorem exists_toInt_eq
    {number : Int}
    (inRange : InRange number) :
    ∃ value : Int64, value.toInt = number :=
  ⟨Int64.ofInt number,
    Int64.toInt_ofInt_of_le inRange.1 (Int.lt_add_one_of_le inRange.2)⟩

theorem bmod_eq_of_inRange
    {number : Int}
    (inRange : InRange number) :
    number.bmod 18446744073709551616 = number :=
  Int.bmod_eq_of_le inRange.1 (Int.lt_add_one_of_le inRange.2)

namespace Operator

/-- Only one quotient of 64-bit numbers is too great for 64 bits. -/
theorem inRange_tdiv_iff
    {left right : Int64} :
    InRange (left.toInt.tdiv right.toInt) ↔
      ¬ (left = Int64.minValue ∧ right = -1) := by
  constructor
  · rintro inRange ⟨rfl, rfl⟩
    have tooGreat :
        ¬ InRange (Int64.minValue.toInt.tdiv (-1 : Int64).toInt) := by
      simp only [InRange]
      decide
    exact tooGreat inRange
  · intro ordinary
    have quotient : (left / right).toInt = left.toInt.tdiv right.toInt := by
      by_cases least : left = Int64.minValue
      · exact Int64.toInt_div_of_ne_right left right fun minusOne =>
          ordinary ⟨least, minusOne⟩
      · exact Int64.toInt_div_of_ne_left left right least
    rw [← quotient]
    exact inRange_toInt (left / right)

/-- An operation that is defined is exact, up to overflow, which is noticed. -/
theorem exists_exact
    (operator : Operator)
    (left : Int64)
    {right : Int64}
    (defined : operator.dividesByZero right = false) :
    ∃ integer, operator.exactResult? left.toInt right.toInt = some integer ∧
      (operator.overflows left right = true ↔ ¬ InRange integer) ∧
        (operator.combine left right).toInt =
          integer.bmod 18446744073709551616 := by
  cases operator with
  | multiply =>
      refine ⟨left.toInt * right.toInt, rfl, ?_, Int64.toInt_mul left right⟩
      simp only [overflows, BitVec.smulOverflow, Int64.toInt_toBitVec, InRange,
        Bool.or_eq_true, decide_eq_true_eq]
      omega
  | divide =>
      have nonzero : right.toInt ≠ 0 := by
        intro zero
        have isZero : right = 0 := Int64.toInt.inj zero
        simp [dividesByZero, isZero] at defined
      refine
        ⟨left.toInt.tdiv right.toInt, if_neg nonzero, ?_,
          Int64.toInt_div left right⟩
      have least :
          left.toBitVec = BitVec.intMin 64 ↔ left = Int64.minValue := by
        rw [← Int64.toBitVec_inj]
        rfl
      have minusOne : right.toBitVec = BitVec.allOnes 64 ↔ right = -1 := by
        rw [← Int64.toBitVec_inj]
        rfl
      rw [inRange_tdiv_iff, not_not, overflows, BitVec.sdivOverflow_eq]
      simp only [least, minusOne]
      simp
  | add =>
      refine ⟨left.toInt + right.toInt, rfl, ?_, Int64.toInt_add left right⟩
      simp only [overflows, BitVec.saddOverflow, Int64.toInt_toBitVec, InRange,
        Bool.or_eq_true, decide_eq_true_eq]
      omega
  | subtract =>
      refine ⟨left.toInt - right.toInt, rfl, ?_, Int64.toInt_sub left right⟩
      simp only [overflows, BitVec.ssubOverflow, Int64.toInt_toBitVec, InRange,
        Bool.or_eq_true, decide_eq_true_eq]
      omega

theorem dividesByZero_iff
    {operator : Operator}
    {right : Int64} :
    operator.dividesByZero right = true ↔ operator = .divide ∧ right = 0 := by
  simp [dividesByZero]

theorem exactResult?_of_dividesByZero
    {operator : Operator}
    {left right : Int64}
    (divides : operator.dividesByZero right = true) :
    operator.exactResult? left.toInt right.toInt = none := by
  rcases dividesByZero_iff.mp divides with ⟨rfl, rfl⟩
  rfl

/-- An operation gives the exact result, if there is one and it fits. -/
theorem apply_eq_ok_iff
    {operator : Operator}
    {left right value : Int64} :
    operator.apply left right = .ok value ↔
      operator.exactResult? left.toInt right.toInt = some value.toInt := by
  cases divides : operator.dividesByZero right with
  | true =>
      rw [apply, if_pos divides, exactResult?_of_dividesByZero divides]
      simp
  | false =>
      rcases exists_exact operator left divides with
        ⟨integer, isExact, overflow_iff, wrapped⟩
      rw [isExact, apply, if_neg (by simp [divides]), result?, divides,
        Bool.false_or]
      by_cases inRange : InRange integer
      · have fits : ¬ operator.overflows left right = true := by
          rw [overflow_iff, not_not]
          exact inRange
        rw [bmod_eq_of_inRange inRange] at wrapped
        rw [if_neg fits, ← wrapped, Option.some.injEq, Int64.toInt_inj,
          Except.ok.injEq]
      · rw [if_pos (overflow_iff.mpr inRange)]
        have notExact : integer ≠ value.toInt := by
          rintro rfl
          exact inRange (inRange_toInt value)
        simp [notExact]

theorem fault_of_apply
    {operator : Operator}
    {left right : Int64}
    {error : ArithmeticError}
    (failed : operator.apply left right = .error error) :
    (operator = .divide ∧ right = 0 ∧ error = .divisionByZero) ∨
      ∃ integer,
        operator.exactResult? left.toInt right.toInt = some integer ∧
          ¬ InRange integer ∧
        error = .overflow left operator right := by
  cases divides : operator.dividesByZero right with
  | true =>
      rcases dividesByZero_iff.mp divides with ⟨isDivide, isZero⟩
      rw [apply, if_pos divides] at failed
      exact Or.inl ⟨isDivide, isZero, (Except.error.inj failed).symm⟩
  | false =>
      rcases exists_exact operator left divides with
        ⟨integer, isExact, overflow_iff, wrapped⟩
      refine Or.inr ⟨integer, isExact, ?_, ?_⟩
      · intro inRange
        rcases exists_toInt_eq inRange with ⟨value, rfl⟩
        rw [apply_eq_ok_iff.mpr isExact] at failed
        cases failed
      · rw [apply, divides] at failed
        cases result : operator.result? left right with
        | some value => simp [result] at failed
        | none =>
            rw [result] at failed
            exact (Except.error.inj failed).symm

theorem extreme_of_not_inRange
    {left right : Int64}
    {integer : Int}
    (isExact :
      Operator.divide.exactResult? left.toInt right.toInt = some integer)
    (outside : ¬ InRange integer) :
    left = Int64.minValue ∧ right = -1 := by
  rw [exactResult?] at isExact
  split at isExact
  · cases isExact
  · rw [← Option.some.inj isExact, inRange_tdiv_iff, not_not] at outside
    exact outside

end Operator

/-! ## Trees -/

namespace Expr

theorem Fails.not_fits
    {expr : Expr}
    (fails : expr.Fails) :
    ¬ expr.Fits := by
  cases expr with
  | number value => exact fails.elim
  | binary left operator right => exact fails.2.2

/--
A tree that has a value fits in all its nodes, and the value is the exact one.
-/
theorem exact_of_value
    {expr : Expr}
    {value : Int64}
    (evaluated : expr.value = .ok value) :
    (∀ node ∈ expr.nodes, node.Fits) ∧ expr.exactValue? = some value.toInt := by
  induction expr generalizing value with
  | number leaf =>
      cases evaluated
      constructor
      · intro node member
        have isLeaf : node = .number leaf := by simpa [nodes] using member
        subst isLeaf
        exact ⟨leaf.toInt, rfl, inRange_toInt leaf⟩
      · rfl
  | binary left operator right leftHypothesis rightHypothesis =>
      rw [value_binary] at evaluated
      rcases bind_eq_ok_iff.mp evaluated with ⟨leftNumber, leftValue, following⟩
      rcases bind_eq_ok_iff.mp following with ⟨rightNumber, rightValue, applied⟩
      rcases leftHypothesis leftValue with ⟨leftFits, leftExact⟩
      rcases rightHypothesis rightValue with ⟨rightFits, rightExact⟩
      have isExact :
          (binary left operator right).exactValue? = some value.toInt := by
        rw [exactValue?, leftExact, rightExact]
        exact Operator.apply_eq_ok_iff.mp applied
      constructor
      · intro node member
        simp only [nodes, List.mem_append, List.mem_singleton] at member
        rcases member with (inLeft | inRight) | rfl
        · exact leftFits node inLeft
        · exact rightFits node inRight
        · exact ⟨value.toInt, isExact, inRange_toInt value⟩
      · exact isExact

/-- The node fails, and this is its fault. -/
inductive FailsWith : Expr → ArithmeticError → Prop where
  | divisionByZero {left right : Expr} :
      left.Fits →
      right.exactValue? = some 0 →
      FailsWith (binary left .divide right) .divisionByZero
  | overflow {left right : Expr} {operator : Operator}
      {leftValue rightValue : Int64}
      {integer : Int} :
      left.exactValue? = some leftValue.toInt →
      right.exactValue? = some rightValue.toInt →
      operator.exactResult? leftValue.toInt rightValue.toInt = some integer →
      ¬ InRange integer →
      FailsWith (binary left operator right)
        (.overflow leftValue operator rightValue)

theorem FailsWith.fails
    {expr : Expr}
    {error : ArithmeticError}
    (failed : expr.FailsWith error) :
    expr.Fails := by
  cases failed with
  | divisionByZero leftFits rightZero =>
      refine ⟨leftFits, ⟨0, rightZero, inRange_toInt 0⟩, ?_⟩
      rintro ⟨value, isExact, -⟩
      rcases leftFits with ⟨leftValue, leftExact, -⟩
      rw [exactValue?, leftExact, rightZero] at isExact
      cases isExact
  | overflow leftExact rightExact nodeExact outside =>
      refine
        ⟨⟨_, leftExact, inRange_toInt _⟩, ⟨_, rightExact, inRange_toInt _⟩, ?_⟩
      rintro ⟨value, isExact, inRange⟩
      rw [exactValue?, leftExact, rightExact] at isExact
      obtain rfl := Option.some.inj (nodeExact.symm.trans isExact)
      exact outside inRange

theorem FailsWith.unique
    {expr : Expr}
    {first second : ArithmeticError}
    (firstFails : expr.FailsWith first)
    (secondFails : expr.FailsWith second) :
    first = second := by
  cases firstFails with
  | divisionByZero _ rightZero =>
      cases secondFails with
      | divisionByZero _ _ => rfl
      | overflow _ rightExact nodeExact _ =>
          rw [← Option.some.inj (rightZero.symm.trans rightExact)] at nodeExact
          cases nodeExact
  | overflow leftExact rightExact nodeExact _ =>
      cases secondFails with
      | divisionByZero _ rightZero =>
          rw [← Option.some.inj (rightZero.symm.trans rightExact)] at nodeExact
          cases nodeExact
      | overflow otherLeft otherRight _ _ =>
          obtain rfl :=
            Int64.toInt.inj (Option.some.inj (leftExact.symm.trans otherLeft))
          obtain rfl :=
            Int64.toInt.inj (Option.some.inj (rightExact.symm.trans otherRight))
          rfl

private theorem first_unique
    {has : Expr → Prop}
    {before after otherBefore otherAfter : List Expr}
    {node otherNode : Expr}
    (split : before ++ node :: after = otherBefore ++ otherNode :: otherAfter)
    (fine : ∀ earlier ∈ before, ¬ has earlier)
    (otherFine : ∀ earlier ∈ otherBefore, ¬ has earlier)
    (nodeHas : has node)
    (otherHas : has otherNode) :
    node = otherNode := by
  induction before generalizing otherBefore with
  | nil =>
      cases otherBefore with
      | nil => exact (List.cons.inj split).1
      | cons head tail =>
          have sameHead : node = head := (List.cons.inj split).1
          subst sameHead
          exact absurd nodeHas (otherFine node (by simp))
  | cons head tail hypothesis =>
      cases otherBefore with
      | nil =>
          have sameHead : head = otherNode := (List.cons.inj split).1
          subst sameHead
          exact absurd otherHas (fine head (by simp))
      | cons otherHead otherTail =>
          apply hypothesis (List.cons.inj split).2
          · intro earlier member
            exact fine earlier (by simp [member])
          · intro earlier member
            exact otherFine earlier (by simp [member])

/-- The first node that fails, and its fault. -/
def FirstFails (expr : Expr) (error : ArithmeticError) : Prop :=
  ∃ before node after, expr.nodes = before ++ node :: after ∧
    (∀ earlier ∈ before, ¬ earlier.Fails) ∧ node.FailsWith error

theorem FirstFails.unique
    {expr : Expr}
    {first second : ArithmeticError}
    (firstFails : expr.FirstFails first)
    (secondFails : expr.FirstFails second) :
    first = second := by
  rcases firstFails with ⟨before, node, after, split, fine, failed⟩
  rcases secondFails with
    ⟨otherBefore, otherNode, otherAfter, otherSplit, otherFine, otherFailed⟩
  obtain rfl : node = otherNode :=
    first_unique (split.symm.trans otherSplit) fine otherFine failed.fails
      otherFailed.fails
  exact failed.unique otherFailed

section Children

variable
    {left right : Expr}
    {operator : Operator}
    {error : ArithmeticError}

theorem FirstFails.of_left
    (firstFails : left.FirstFails error) :
    (binary left operator right).FirstFails error := by
  rcases firstFails with ⟨before, node, after, split, fine, failed⟩
  refine
    ⟨before, node, after ++ right.nodes ++ [binary left operator right], ?_,
      fine, failed⟩
  simp [nodes, split]

theorem FirstFails.of_right
    (leftFits : ∀ node ∈ left.nodes, node.Fits)
    (firstFails : right.FirstFails error) :
    (binary left operator right).FirstFails error := by
  rcases firstFails with ⟨before, node, after, split, fine, failed⟩
  refine
    ⟨left.nodes ++ before, node, after ++ [binary left operator right], ?_, ?_,
      failed⟩
  · simp [nodes, split]
  · intro earlier member fails
    rcases List.mem_append.mp member with inLeft | inBefore
    · exact fails.not_fits (leftFits earlier inLeft)
    · exact fine earlier inBefore fails

theorem FirstFails.of_node
    (leftFits : ∀ node ∈ left.nodes, node.Fits)
    (rightFits : ∀ node ∈ right.nodes, node.Fits)
    (failed : (binary left operator right).FailsWith error) :
    (binary left operator right).FirstFails error := by
  refine
    ⟨left.nodes ++ right.nodes, binary left operator right, [], ?_, ?_, failed⟩
  · simp [nodes]
  · intro earlier member fails
    rcases List.mem_append.mp member with inLeft | inRight
    · exact fails.not_fits (leftFits earlier inLeft)
    · exact fails.not_fits (rightFits earlier inRight)

end Children

/-- A tree without a value has the fault of its first node that fails. -/
theorem firstFails_of_value
    {expr : Expr}
    {error : ArithmeticError}
    (failed : expr.value = .error error) :
    expr.FirstFails error := by
  induction expr with
  | number leaf => cases failed
  | binary left operator right leftHypothesis rightHypothesis =>
      rw [value_binary] at failed
      rcases bind_eq_error_iff.mp failed with
        leftFailed | ⟨leftNumber, leftValue, following⟩
      · exact (leftHypothesis leftFailed).of_left
      · rcases exact_of_value leftValue with ⟨leftFits, leftExact⟩
        rcases bind_eq_error_iff.mp following with
          rightFailed | ⟨rightNumber, rightValue, applied⟩
        · exact (rightHypothesis rightFailed).of_right leftFits
        · rcases exact_of_value rightValue with ⟨rightFits, rightExact⟩
          apply FirstFails.of_node leftFits rightFits
          rcases Operator.fault_of_apply applied with
            ⟨rfl, rfl, rfl⟩ | ⟨integer, nodeExact, outside, rfl⟩
          · exact .divisionByZero ⟨_, leftExact, inRange_toInt _⟩ rightExact
          · exact .overflow leftExact rightExact nodeExact outside

theorem FirstFails.exists_not_fits
    {expr : Expr}
    {error : ArithmeticError}
    (firstFails : expr.FirstFails error) :
    ∃ node ∈ expr.nodes, ¬ node.Fits := by
  rcases firstFails with ⟨before, node, after, split, -, failed⟩
  exact ⟨node, by simp [split], failed.fails.not_fits⟩

theorem value_eq_ok_iff
    {expr : Expr}
    {value : Int64} :
    expr.value = .ok value ↔
      (∀ node ∈ expr.nodes, node.Fits) ∧
        expr.exactValue? = some value.toInt := by
  constructor
  · exact exact_of_value
  · rintro ⟨fits, isExact⟩
    cases evaluated : expr.value with
    | ok other =>
        have otherExact := (exact_of_value evaluated).2
        rw [isExact, Option.some.injEq, Int64.toInt_inj] at otherExact
        rw [otherExact]
    | error error =>
        rcases (firstFails_of_value evaluated).exists_not_fits with
          ⟨node, member, unfit⟩
        exact absurd (fits node member) unfit

theorem value_eq_error_iff
    {expr : Expr}
    {error : ArithmeticError} :
    expr.value = .error error ↔ expr.FirstFails error := by
  constructor
  · exact firstFails_of_value
  · intro firstFails
    cases evaluated : expr.value with
    | ok value =>
        rcases firstFails.exists_not_fits with ⟨node, member, unfit⟩
        exact absurd ((exact_of_value evaluated).1 node member) unfit
    | error other =>
        rw [(firstFails_of_value evaluated).unique firstFails]

/--
A tree has a value exactly if all its nodes have exact values that 64 bits can
hold, and then it is the exact value of the root.  It has a fault exactly if
some node fails, and then it is the fault of the first one.  Of all quotients
only one overflows.
-/
theorem value_exact (expr : Expr) :
    (∀ value,
      expr.value = .ok value ↔
        (∀ node ∈ expr.nodes, node.Fits) ∧
          expr.exactValue? = some value.toInt) ∧
    (∀ error, expr.value = .error error ↔ expr.FirstFails error) ∧
    (∀ left right,
      expr.value = .error (.overflow left .divide right) →
        left = Int64.minValue ∧ right = -1) := by
  refine ⟨fun value => value_eq_ok_iff, fun error => value_eq_error_iff, ?_⟩
  intro left right overflowed
  rcases firstFails_of_value overflowed with ⟨before, node, after, -, -, failed⟩
  cases failed with
  | overflow _ _ nodeExact outside =>
      exact Operator.extreme_of_not_inRange nodeExact outside

end Expr

end Reckoner
