import Reckoner.Formula
import Reckoner.Proofs.InStep

/-!
# Groups of equal value

A group in a text may be replaced by any other group of equal value, and by the
digits of that value if it is not negative.  The text around the group need not
be a formula: it may hold bad tokens, leave parentheses open or close too many.
Whatever the text came to before, it comes to afterwards, but for columns.

Both texts are read in step around the group, and the group itself is read on
both sides as one operand, in whatever state.  The operands are not the same
tree, but they have the same value, and that is all that later steps make of
them.  `calculate_replace_group` is the main theorem.
-/

namespace Reckoner

/-! ## Equal values -/

/-- Two trees come to the same value, or to the same fault. -/
def Expr.SameValue (expr other : Expr) : Prop :=
  expr.value = other.value

theorem respected_sameValue : Respected Expr.SameValue where
  number _ := rfl
  binary := by
    intro left otherLeft operator right otherRight sameLeft sameRight
    rw [Expr.SameValue, Expr.value_binary, Expr.value_binary, sameLeft,
      sameRight]

/-- Two formulas come to the same, but for the column of a fault in the text. -/
inductive Outcome.Alike : Outcome → Outcome → Prop where
  | value (value : Int64) :
      Alike (.ok value) (.ok value)
  | invalidToken (fault : TokenFault) (column otherColumn : Nat) :
      Alike (.error (.invalidToken ⟨fault, column⟩))
        (.error (.invalidToken ⟨fault, otherColumn⟩))
  | malformed (fault : SyntaxFault) (column otherColumn : Nat) :
      Alike (.error (.malformed ⟨fault, column⟩))
        (.error (.malformed ⟨fault, otherColumn⟩))
  | arithmetic (error : ArithmeticError) :
      Alike (.error (.arithmetic error)) (.error (.arithmetic error))

theorem alike_of_value (outcome : Except ArithmeticError Int64) :
    Outcome.Alike (outcome.mapError .arithmetic)
      (outcome.mapError .arithmetic) := by
  cases outcome with
  | ok value => exact .value value
  | error error => exact .arithmetic error

theorem alike_of_together
    {text other : String}
    (together :
      Together (SyntaxError.InStep AnyColumn) Expr.SameValue (parse text)
        (parse other)) :
    (calculate text).Alike (calculate other) := by
  rw [calculate, calculate]
  generalize parse text = reading at together ⊢
  generalize parse other = otherReading at together ⊢
  cases together with
  | @ok expr otherExpr same =>
      change Outcome.Alike (expr.value.mapError .arithmetic)
        (otherExpr.value.mapError .arithmetic)
      rw [same]
      exact alike_of_value otherExpr.value
  | @error error otherError same =>
      change
        Outcome.Alike (.error (.ofSyntax error)) (.error (.ofSyntax otherError))
      rcases error with ⟨fault, column⟩
      rcases otherError with ⟨otherFault, otherColumn⟩
      obtain rfl : fault = otherFault := same.fault
      cases fault with
      | badToken bad => exact .invalidToken bad column otherColumn
      | _ => exact .malformed _ column otherColumn

/-- Texts with the same items come to the same, but for columns. -/
theorem alike_of_items
    {text other : String}
    (same : itemsOf text = itemsOf other) :
    (calculate text).Alike (calculate other) := by
  apply alike_of_together
  exact Nesting.InStep.start.run respected_sameValue
    (forall₂_inStep_of_items same) trivial

/-! ## Factors in step -/

/--
Factors of equal value are read by two states in step, and leave them in step.
-/
theorem Nesting.InStep.readTokens_factor
    {Same : Expr → Expr → Prop}
    {nesting other : Nesting}
    (related : nesting.InStep Same AnyColumn other)
    {found otherFound : List (Placed Token)}
    {expr otherExpr : Expr}
    (derived : Derives .factor (found.map Placed.item) expr)
    (otherDerived : Derives .factor (otherFound.map Placed.item) otherExpr)
    (same : Same expr otherExpr) :
    Together (SyntaxError.InStep AnyColumn) (Nesting.InStep Same AnyColumn)
      (nesting.readTokens found) (other.readTokens otherFound) := by
  rcases nesting with ⟨groups, content⟩
  rcases other with ⟨otherGroups, otherContent⟩
  rcases related with ⟨openGroups, inside⟩
  have reads : Nesting.ReadAsOperand _ expr := Nesting.readAs_of_derives derived
  have otherReads : Nesting.ReadAsOperand _ otherExpr :=
    Nesting.readAs_of_derives otherDerived
  rcases reads found rfl groups content with ⟨column, reading⟩
  rcases otherReads otherFound rfl otherGroups otherContent with
    ⟨otherColumn, otherReading⟩
  rw [reading, otherReading]
  exact (inside.addOperand same trivial).map fun grown => ⟨openGroups, grown⟩

/--
Texts that differ in a factor only come to the same if the factors
have equal values.
-/
theorem alike_of_factors
    {text other : String}
    {front back : List (Except TokenFault Token)}
    {run otherRun : List Token}
    {expr otherExpr : Expr}
    (items : itemsOf text = front ++ run.map .ok ++ back)
    (otherItems : itemsOf other = front ++ otherRun.map .ok ++ back)
    (derived : Derives .factor run expr)
    (otherDerived : Derives .factor otherRun otherExpr)
    (same : expr.SameValue otherExpr) :
    (calculate text).Alike (calculate other) := by
  apply alike_of_together
  rcases List.map_eq_append_iff.mp items with
    ⟨whole, behind, split, wholeItems, behindItems⟩
  rcases List.map_eq_append_iff.mp wholeItems with
    ⟨ahead, middle, rfl, aheadItems, middleItems⟩
  rcases List.map_eq_append_iff.mp otherItems with
    ⟨otherWhole, otherBehind, otherSplit, otherWholeItems, otherBehindItems⟩
  rcases List.map_eq_append_iff.mp otherWholeItems with
    ⟨otherAhead, otherMiddle, rfl, otherAheadItems, otherMiddleItems⟩
  rcases exists_placed_of_items middleItems with ⟨found, rfl, rfl⟩
  rcases exists_placed_of_items otherMiddleItems with ⟨otherFound, rfl, rfl⟩
  have sameAhead :=
    forall₂_inStep_of_items (aheadItems.trans otherAheadItems.symm)
  have sameBehind :=
    forall₂_inStep_of_items (behindItems.trans otherBehindItems.symm)
  rw [parse, parse, Cursor.parse, Cursor.parse, split, otherSplit,
    List.append_assoc, List.append_assoc]
  apply Nesting.InStep.start.run_append respected_sameValue sameAhead
  intro next otherNext following
  rw [Nesting.run_lexemes, Nesting.run_lexemes]
  apply (following.readTokens_factor derived otherDerived same).bind
  intro last otherLast continuing
  exact continuing.run respected_sameValue sameBehind trivial

/-! ## Groups within texts -/

theorem exists_group_of_calculate
    {inner : String}
    {value : Int64}
    (calculated : calculate inner = .ok value) :
    ∃ run expr, (∀ before after,
        itemsOf (before ++ "(" ++ inner ++ ")" ++ after) =
          itemsOf before ++ run.map .ok ++ itemsOf after) ∧
      Derives .factor run expr ∧ expr.value = .ok value := by
  cases parsed : parse inner with
  | error error =>
      rw [calculate_of_parse_error parsed] at calculated
      cases calculated
  | ok expr =>
      rcases exists_derives_of_parse parsed with ⟨found, split, derived⟩
      refine ⟨_, expr, ?_, .group derived, ?_⟩
      · intro before after
        rw [itemsOf_group, itemsOf_eq_iff.mpr ⟨found, split, rfl⟩]
        simp
      · rw [calculate_of_parse_ok parsed] at calculated
        cases valued : expr.value with
        | ok result =>
            rw [valued] at calculated
            cases calculated
            rfl
        | error error =>
            rw [valued] at calculated
            cases calculated

/--
A group may be replaced by another one of the same value, in whatever text, and
by the digits of its value between spaces if that is not negative.  The text
comes to the same value or the same error as before, but for columns.
-/
theorem calculate_replace_group
    (before after first second : String)
    (value : Int64)
    (firstValue : calculate first = .ok value)
    (secondValue : calculate second = .ok value) :
    (calculate (before ++ "(" ++ first ++ ")" ++ after)).Alike
        (calculate (before ++ "(" ++ second ++ ")" ++ after)) ∧
      (0 ≤ value.toInt →
        (calculate (before ++ "(" ++ first ++ ")" ++ after)).Alike
          (calculate
            (before ++ " " ++ Decimal.natural value.toInt.toNat ++ " " ++
              after))) := by
  rcases exists_group_of_calculate firstValue with
    ⟨run, expr, items, derived, valued⟩
  rcases exists_group_of_calculate secondValue with
    ⟨otherRun, otherExpr, otherItems, otherDerived, otherValued⟩
  constructor
  · exact alike_of_factors (items before after) (otherItems before after)
      derived otherDerived
      (valued.trans otherValued.symm)
  · intro nonneg
    have literalItems :
        itemsOf
            (before ++ " " ++ Decimal.natural value.toInt.toNat ++ " " ++
              after) =
          itemsOf before ++ [Token.number value].map .ok ++ itemsOf after := by
      rw [itemsOf_append_space, itemsOf_append_space, itemsOf_natural nonneg]
      rfl
    exact alike_of_factors (items before after) literalItems derived
      (.number value) valued

/--
A group in a text that divides by zero further on, and in one whose
parenthesis is open.
-/
theorem open_product_replace_group :
    calculate "7 - 2" = .ok 5 ∧ calculate " 10/2 " = .ok 5 ∧
        (0 : Int) ≤ (5 : Int64).toInt ∧
      (calculate "(8 * (7 - 2) + 1 / 0").Alike
        (calculate "(8 * ( 10/2 ) + 1 / 0") ∧
      (calculate "(8 * (7 - 2) + 1 / 0").Alike
        (calculate "(8 *  5  + 1 / 0") := by
  have firstValue : calculate "7 - 2" = .ok 5 := by decide +kernel
  have secondValue : calculate " 10/2 " = .ok 5 := by decide +kernel
  have nonneg : (0 : Int) ≤ (5 : Int64).toInt := by decide
  have replaced :=
    calculate_replace_group "(8 * " " + 1 / 0" "7 - 2" " 10/2 " 5 firstValue
      secondValue
  exact ⟨firstValue, secondValue, nonneg, replaced.1, replaced.2 nonneg⟩

end Reckoner
