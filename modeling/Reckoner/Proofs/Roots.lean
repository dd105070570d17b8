import Reckoner.Proofs.Grammar
import Reckoner.Proofs.Strands

/-!
# The root of a series

The passes over a series join the tightest operators first, so the operator that
is joined last is the root of the tree: of the operators of the loosest level in
use it is the last one.  What stands before it becomes the left part of the tree
and what stands behind it the right part, each as if it stood alone
(`Series.tree_append`).

A group is made of pieces that are added one after the other.  Which pieces are
taken and which tree they come to is stated on the pieces alone in
`close_pushed`; there it is also said of the two lists in which they may be
collected that their passes never fail.
-/

namespace Reckoner

/-! ## Passes over several levels -/

namespace Series

/-- The passes over some levels, one after the other. -/
def joinLevels (levels : List Nat) (series : Series) : Series :=
  levels.foldl (fun joined level => joined.joinLevel level) series

theorem operators_joinLevels (levels : List Nat) (series : Series) :
    (series.joinLevels levels).operators =
      series.operators.filter fun operator => operator.level ∉ levels := by
  induction levels generalizing series with
  | nil => exact (List.filter_eq_self.mpr (by simp)).symm
  | cons level rest hypothesis =>
      have following := hypothesis (series.joinLevel level)
      rw [operators_joinLevel, List.filter_filter] at following
      rw [joinLevels, List.foldl_cons, ← joinLevels, following]
      apply List.filter_congr
      intro operator _
      by_cases same : operator.level = level <;> simp [same]

/-- Passes over other levels keep the operator between two series. -/
theorem joinLevels_append
    {levels : List Nat}
    {operator : Operator}
    (others : operator.level ∉ levels)
    (front back : Series) :
    (front.append operator back).joinLevels levels =
      (front.joinLevels levels).append operator (back.joinLevels levels) := by
  induction levels generalizing front back with
  | nil => rfl
  | cons level rest hypothesis =>
      rw [List.mem_cons, not_or] at others
      rw [joinLevels, List.foldl_cons, joinLevel_append others.1]
      exact hypothesis others.2 _ _

theorem joinLevels_concat (levels : List Nat) (level : Nat) (series : Series) :
    series.joinLevels (levels ++ [level]) =
      (series.joinLevels levels).joinLevel level := by
  rw [joinLevels, List.foldl_append]
  rfl

theorem joinLevels_operand (levels : List Nat) (expr : Expr) :
    (operand expr).joinLevels levels = operand expr := by
  induction levels with
  | nil => rfl
  | cons level rest hypothesis => exact hypothesis

theorem exists_eq_operand
    {series : Series}
    (noOperators : series.operators = []) :
    ∃ expr, series = operand expr := by
  cases series with
  | operand expr => exact ⟨expr, rfl⟩
  | link before operator last => simp [operators] at noOperators

/-- The tree of a series, given what some of the passes leave of it. -/
theorem tree_eq
    {series : Series}
    {done rest : List Nat}
    {expr : Expr}
    (levels : Operator.levels = done ++ rest)
    (joined : series.joinLevels done = operand expr) :
    series.tree = expr := by
  have whole : series.joinAll = (series.joinLevels done).joinLevels rest := by
    rw [joinAll, levels, List.foldl_append]
    rfl
  rw [joined, joinLevels_operand, joinAll_eq, operand.injEq] at whole
  exact whole

/-! ## Series around an operator -/

/--
The operator binds no more tightly than those before it, and more loosely
than those behind.
-/
structure IsRoot
    (front : Series)
    (operator : Operator)
    (back : Series) :
    Prop where
  before : ∀ other ∈ front.operators, other.level ≤ operator.level
  behind : ∀ other ∈ back.operators, other.level < operator.level

theorem operators_append
    (front : Series)
    (operator : Operator)
    (back : Series) :
    (front.append operator back).operators =
      front.operators ++ operator :: back.operators := by
  induction back with
  | operand expr => rfl
  | link before between last hypothesis =>
      rw [append, operators, hypothesis, operators, List.append_assoc,
        List.cons_append]

/-- A series with operators has a root. -/
theorem exists_isRoot (series : Series) :
    (∃ expr, series = operand expr) ∨
      ∃ front operator back, series = front.append operator back ∧
        IsRoot front operator back := by
  induction series with
  | operand expr => exact Or.inl ⟨expr, rfl⟩
  | link before operator last hypothesis =>
      apply Or.inr
      rcases hypothesis with ⟨expr, rfl⟩ | ⟨front, earlier, back, rfl, root⟩
      · exact
          ⟨operand expr, operator, operand last, rfl, by simp [operators],
            by simp [operators]⟩
      · rcases Nat.lt_or_ge operator.level earlier.level with tighter | looser
        · refine ⟨front, earlier, back.link operator last, rfl, root.before, ?_⟩
          intro other member
          rcases List.mem_append.mp member with inside | atEnd
          · exact root.behind other inside
          · rw [List.mem_singleton.mp atEnd]
            exact tighter
        · refine
            ⟨front.append earlier back, operator, operand last, rfl, ?_,
              by simp [operators]⟩
          intro other member
          rw [operators_append, List.mem_append, List.mem_cons] at member
          rcases member with inFront | rfl | inBack
          · exact Nat.le_trans (root.before other inFront) looser
          · exact looser
          · exact Nat.le_trans (Nat.le_of_lt (root.behind other inBack)) looser

/--
The levels are split at the level of an operator, with all tighter
levels before it.
-/
theorem exists_levels_eq (operator : Operator) :
    ∃ below above, Operator.levels = below ++ operator.level :: above ∧
      operator.level ∉ below ∧
        ∀ other : Operator,
          other.level < operator.level → other.level ∈ below := by
  have ascending : Operator.levels.Pairwise (· < ·) := by decide
  rcases List.append_of_mem operator.level_mem_levels with ⟨below, above, split⟩
  rw [split, List.pairwise_append, List.pairwise_cons] at ascending
  refine ⟨below, above, split, ?_, ?_⟩
  · intro member
    exact Nat.lt_irrefl _ (ascending.2.2 _ member _ List.mem_cons_self)
  · intro other tighter
    have member := other.level_mem_levels
    rw [split, List.mem_append, List.mem_cons] at member
    rcases member with inside | same | further
    · exact inside
    · exact absurd same (Nat.ne_of_lt tighter)
    · exact absurd (ascending.2.1.1 _ further) (Nat.lt_asymm tighter)

/-- The trees on the two sides of the root are the parts of the whole. -/
theorem tree_append
    {front back : Series}
    {operator : Operator}
    (root : IsRoot front operator back) :
    (front.append operator back).tree =
      .binary front.tree operator back.tree := by
  rcases exists_levels_eq operator with
    ⟨below, above, levels, notBelow, tighter⟩
  have throughRoot :
      Operator.levels = (below ++ [operator.level]) ++ above := by
    rw [levels, List.append_assoc, List.singleton_append]
  -- the passes below the level of the root leave only the tree of the back
  obtain ⟨right, backJoined⟩ :
      ∃ right, back.joinLevels below = operand right := by
    apply exists_eq_operand
    rw [operators_joinLevels, List.filter_eq_nil_iff]
    intro other member
    simpa using tighter other (root.behind other member)
  -- the pass over its level leaves only the tree of the front
  obtain ⟨left, frontJoined⟩ :
      ∃ left, front.joinLevels (below ++ [operator.level]) = operand left := by
    apply exists_eq_operand
    rw [operators_joinLevels, List.filter_eq_nil_iff]
    intro other member
    rcases Nat.lt_or_eq_of_le (root.before other member) with inside | same
    · simp [tighter other inside]
    · simp [same]
  have wholeJoined :
      (front.append operator back).joinLevels (below ++ [operator.level]) =
        operand (.binary left operator right) := by
    rw [joinLevels_concat, joinLevels_append notBelow, backJoined, append,
      joinLevel, if_pos rfl, ← joinLevels_concat, frontJoined]
    rfl
  rw [tree_eq throughRoot wholeJoined, tree_eq throughRoot frontJoined,
    tree_eq levels backJoined]

/-! ## Pieces -/

/-- The pieces of a series from left to right. -/
def pieces : Series → List Piece
  | operand expr => [.operand expr]
  | link before operator last =>
      before.pieces ++ [.operator operator, .operand last]

theorem pieces_append (front : Series) (operator : Operator) (back : Series) :
    (front.append operator back).pieces =
      front.pieces ++ .operator operator :: back.pieces := by
  induction back with
  | operand expr => rfl
  | link before between last hypothesis =>
      rw [append, pieces, hypothesis, pieces, List.append_assoc,
        List.cons_append]

theorem getLast?_pieces (series : Series) :
    series.pieces.getLast? = some (.operand series.last) := by
  cases series with
  | operand expr => rfl
  | link before operator last => simp [pieces, Series.last]

theorem mem_operators_iff {series : Series} {operator : Operator} :
    operator ∈ series.operators ↔ .operator operator ∈ series.pieces := by
  induction series with
  | operand expr => simp [operators, pieces]
  | link before between last hypothesis => simp [operators, pieces, hypothesis]

end Series

namespace Content

/-- The pieces that have been collected. -/
def pieces : Content → List Piece
  | empty => []
  | complete series => series.pieces
  | dangling series operator => series.pieces ++ [.operator operator]

theorem pieces_push
    {content next : Content}
    {push : Push}
    (pushed : content.push push = .ok next) :
    next.pieces = content.pieces ++ [push.piece] := by
  rcases push with ⟨piece, column⟩
  cases piece with
  | operand expr =>
      cases content <;> cases pushed
      · rfl
      · show Series.pieces _ = (Series.pieces _ ++ [_]) ++ [_]
        rw [List.append_assoc]
        rfl
  | operator operator =>
      cases content <;> cases pushed
      rfl

theorem pieces_foldlM
    {content last : Content}
    {pushes : List Push}
    (pushed : pushes.foldlM push content = .ok last) :
    last.pieces = content.pieces ++ pushes.map Push.piece := by
  induction pushes generalizing content with
  | nil =>
      cases pushed
      exact (List.append_nil _).symm
  | cons first rest hypothesis =>
      rcases bind_eq_ok_iff.mp pushed with ⟨next, pushedFirst, following⟩
      rw [hypothesis following, pieces_push pushedFirst, List.map_cons,
        List.append_assoc, List.singleton_append]

/-- Collect pieces one after the other, up to the first that is refused. -/
def collect (pushes : List Push) : Except SyntaxError Content :=
  pushes.foldlM push empty

/-- The pieces of a series are collected to that series. -/
theorem collect_of_pieces
    {series : Series}
    {pushes : List Push}
    (same : pushes.map Push.piece = series.pieces) :
    collect pushes = .ok (complete series) := by
  induction series generalizing pushes with
  | operand expr =>
      rcases List.map_eq_singleton_iff.mp same with
        ⟨⟨piece, column⟩, rfl, isOperand⟩
      obtain rfl : piece = .operand expr := isOperand
      rfl
  | link before operator last hypothesis =>
      rcases List.map_eq_append_iff.mp same with
        ⟨front, back, rfl, inFront, atEnd⟩
      rcases List.map_eq_cons_iff.mp atEnd with
        ⟨⟨between, column⟩, others, rfl, isOperator, final⟩
      rcases List.map_eq_singleton_iff.mp final with
        ⟨⟨piece, place⟩, rfl, isOperand⟩
      obtain rfl : between = .operator operator := isOperator
      obtain rfl : piece = .operand last := isOperand
      have collected := hypothesis inFront
      rw [collect] at collected ⊢
      rw [List.foldlM_append, collected]
      rfl

theorem exists_complete_iff {content : Content} :
    (∃ expr, content.pieces.getLast? = some (.operand expr)) ↔
      ∃ series, content = .complete series := by
  cases content with
  | empty => simp [pieces]
  | complete series => simp [pieces, Series.getLast?_pieces]
  | dangling series operator => simp [pieces]

theorem exists_dangling_iff {content : Content} :
    (∃ operator, content.pieces.getLast? = some (.operator operator)) ↔
      ∃ series operator, content = .dangling series operator := by
  cases content with
  | empty => simp [pieces]
  | complete series => simp [pieces, Series.getLast?_pieces]
  | dangling series operator => simp [pieces]

theorem addOperand_eq_error_iff
    {content : Content}
    {expr : Expr}
    {column : Nat}
    {error : SyntaxError} :
    content.addOperand expr column = .error error ↔
      (∃ series, content = .complete series) ∧
        error = ⟨.twoNumbersInARow, column⟩ := by
  cases content <;> simp [addOperand, eq_comm]

theorem addOperator_eq_error_iff
    {content : Content}
    {operator : Operator}
    {column : Nat}
    {error : SyntaxError} :
    content.addOperator operator column = .error error ↔
      (¬ ∃ series, content = .complete series) ∧
        error = ⟨.twoOperatorsInARow, column⟩ := by
  cases content <;> simp [addOperator, eq_comm]

end Content

/-! ## The tree of the pieces -/

/-- The last piece is an operand. -/
def EndsInOperand (pushes : List Push) : Prop :=
  ∃ before expr column, pushes = before ++ [⟨.operand expr, column⟩]

/-- The last piece is an operator. -/
def EndsInOperator (pushes : List Push) : Prop :=
  ∃ before operator column, pushes = before ++ [⟨.operator operator, column⟩]

/-- The tree of a group that ends at a column, given its pieces. -/
def treeOf (pushes : List Push) (column : Nat) : Except SyntaxError Expr := do
  let content ← Content.collect pushes
  content.close column

/--
A lone operand is a tree, and otherwise the root is the last operator of the
loosest level in use; its parts are the trees of the pieces on its two sides.
-/
inductive Rooted (column : Nat) : List Push → Expr → Prop where
  | operand {expr : Expr} {place : Nat} :
      Rooted column [⟨.operand expr, place⟩] expr
  | operator {front back : List Push} {operator : Operator} {place : Nat}
      {left right : Expr} :
      (∀ other earlier,
        ⟨.operator other, earlier⟩ ∈ front → other.level ≤ operator.level) →
      (∀ other later,
        ⟨.operator other, later⟩ ∈ back → other.level < operator.level) →
      treeOf front column = .ok left →
      treeOf back column = .ok right →
      Rooted column (front ++ ⟨.operator operator, place⟩ :: back)
        (.binary left operator right)

theorem getLast?_map_piece {pushes : List Push} {piece : Piece} :
    (pushes.map Push.piece).getLast? = some piece ↔
      ∃ before column, pushes = before ++ [⟨piece, column⟩] := by
  constructor
  · intro last
    rw [List.getLast?_map, Option.map_eq_some_iff] at last
    rcases last with ⟨⟨found, column⟩, final, rfl⟩
    rcases List.getLast?_eq_some_iff.mp final with ⟨before, split⟩
    exact ⟨before, column, split⟩
  · rintro ⟨before, column, rfl⟩
    simp

theorem endsInOperand_iff
    {pushes : List Push}
    {content : Content}
    (collected : Content.collect pushes = .ok content) :
    EndsInOperand pushes ↔ ∃ series, content = .complete series := by
  have pieces : content.pieces = pushes.map Push.piece :=
    Content.pieces_foldlM collected
  rw [← Content.exists_complete_iff, pieces]
  simp only [getLast?_map_piece]
  exact exists_comm

theorem endsInOperator_iff
    {pushes : List Push}
    {content : Content}
    (collected : Content.collect pushes = .ok content) :
    EndsInOperator pushes ↔
      ∃ series operator, content = .dangling series operator := by
  have pieces : content.pieces = pushes.map Push.piece :=
    Content.pieces_foldlM collected
  rw [← Content.exists_dangling_iff, pieces]
  simp only [getLast?_map_piece]
  exact exists_comm

theorem treeOf_of_pieces
    {series : Series}
    {pushes : List Push}
    (same : pushes.map Push.piece = series.pieces)
    (column : Nat) :
    treeOf pushes column = .ok series.tree := by
  rw [treeOf, Content.collect_of_pieces same]
  rfl

/-- The tree of a series is rooted in its pieces. -/
theorem rooted_of_pieces
    {series : Series}
    {pushes : List Push}
    (same : pushes.map Push.piece = series.pieces)
    (column : Nat) :
    Rooted column pushes series.tree := by
  rcases series.exists_isRoot with
    ⟨expr, rfl⟩ | ⟨front, operator, back, rfl, root⟩
  · rcases List.map_eq_singleton_iff.mp same with
      ⟨⟨piece, place⟩, rfl, isOperand⟩
    obtain rfl : piece = .operand expr := isOperand
    exact .operand
  · rw [Series.pieces_append] at same
    rcases List.map_eq_append_iff.mp same with
      ⟨inFront, others, rfl, frontSame, othersSame⟩
    rcases List.map_eq_cons_iff.mp othersSame with
      ⟨⟨piece, place⟩, behind, rfl, isOperator, backSame⟩
    obtain rfl : piece = .operator operator := isOperator
    rw [Series.tree_append root]
    apply Rooted.operator
    · intro other earlier member
      apply root.before
      rw [Series.mem_operators_iff, ← frontSame]
      exact List.mem_map_of_mem member
    · intro other later member
      apply root.behind
      rw [Series.mem_operators_iff, ← backSame]
      exact List.mem_map_of_mem member
    · exact treeOf_of_pieces frontSame column
    · exact treeOf_of_pieces backSame column

/--
Pieces are collected, in two lists as in a content, up to the first operand that
follows an operand, or operator that follows no operand.  The passes over the
lists never fail.  No pieces are an empty group, and an operator at the end
lacks its operand; all other pieces have a tree, and its root is the last
operator of the loosest level in use.
-/
theorem close_pushed (pushes : List Push) (column : Nat) :
    pushes.foldlM Strands.push .empty =
      (Content.collect pushes).map Content.strands ∧
    ∀ content, Content.collect pushes = .ok content →
      (∀ expr place error, content.addOperand expr place = .error error ↔
        EndsInOperand pushes ∧ error = ⟨.twoNumbersInARow, place⟩) ∧
      (∀ operator place error,
        content.addOperator operator place = .error error ↔
        (pushes = [] ∨ EndsInOperator pushes) ∧
          error = ⟨.twoOperatorsInARow, place⟩) ∧
      content.strands.resolve column = some (content.close column) ∧
      (pushes = [] → content.close column = .error ⟨.emptyGroup, column⟩) ∧
      (EndsInOperator pushes →
        content.close column = .error ⟨.operatorAtEnd, column⟩) ∧
      (EndsInOperand pushes →
        ∃ tree,
          content.close column = .ok tree ∧ Rooted column pushes tree) := by
  refine ⟨Content.strands_foldlM .empty pushes, ?_⟩
  intro content collected
  have pieces : content.pieces = pushes.map Push.piece :=
    Content.pieces_foldlM collected
  have nothing_iff : pushes = [] ↔ content = .empty := by
    constructor
    · rintro rfl
      cases collected
      rfl
    · rintro rfl
      exact List.map_eq_nil_iff.mp pieces.symm
  have inOperand := endsInOperand_iff collected
  have inOperator := endsInOperator_iff collected
  refine ⟨?_, ?_, content.resolve_strands column, ?_, ?_, ?_⟩
  · intro expr place error
    rw [inOperand]
    exact Content.addOperand_eq_error_iff
  · intro operator place error
    rw [nothing_iff, inOperator, Content.addOperator_eq_error_iff]
    cases content <;> simp
  · intro nothing
    rw [nothing_iff.mp nothing]
    rfl
  · intro ends
    rcases inOperator.mp ends with ⟨series, operator, rfl⟩
    rfl
  · intro ends
    rcases inOperand.mp ends with ⟨series, rfl⟩
    exact ⟨series.tree, rfl, rooted_of_pieces pieces.symm column⟩

end Reckoner
