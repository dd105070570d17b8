import Reckoner.Proofs.Refusal

/-!
# Structural faults and what they are diagnosed from

A structural fault is found while groups are open and waiting, but it can
be told from the tokens alone.  `Diagnosed` says what is diagnosed at a
token, given the tokens before it, and `DiagnosedAtEnd` what is diagnosed
when the tokens end; neither knows of open groups.  Of several faults the
first to be found is the one reported, and there is none exactly if the
parentheses are balanced and every token may follow the one before it.
`parse_diagnoses` states both.

The column is not always the place where a fault is found: a group that stands
where no operand is due is found out when it closes and reported where it opens.
-/

namespace Reckoner

/-! ## Open groups and the tokens that opened them -/

/--
The tokens that were read, with their columns: between two parentheses that are
still open stands what was read of the group around.
-/
inductive Nesting.Traced : Nesting → List (Placed Token) → Prop where
  | outermost {content : Content} {run : List (Placed Token)} :
      content.Spelled (run.map Placed.item) →
      Traced ⟨[], content⟩ run
  | inner {around : List OpenGroup} {before content : Content}
      {outer run : List (Placed Token)} {opening : Placed Token} :
      Traced ⟨around, before⟩ outer →
      opening.item = .leftParen →
      content.Spelled (run.map Placed.item) →
      Traced ⟨⟨opening.start, before⟩ :: around, content⟩
        (outer ++ opening :: run)

namespace Nesting

theorem Traced.spelled
    {nesting : Nesting}
    {found : List (Placed Token)}
    (traced : nesting.Traced found) :
    nesting.Spelled (found.map Placed.item) := by
  induction traced with
  | outermost inside => exact .outermost inside
  | inner _ opens inside outside =>
      rw [List.map_append, List.map_cons, opens]
      exact .inner outside inside

theorem traced_start : start.Traced [] :=
  .outermost .empty

theorem Traced.replaceContent
    {groups : List OpenGroup}
    {content next : Content}
    {found added : List (Placed Token)}
    (traced : Traced ⟨groups, content⟩ found)
    (grows :
      ∀ {inner},
        content.Spelled inner → next.Spelled (inner ++ added.map Placed.item)) :
    Traced ⟨groups, next⟩ (found ++ added) := by
  cases traced with
  | outermost inside =>
      apply Traced.outermost
      rw [List.map_append]
      exact grows inside
  | inner outside opens inside =>
      rw [List.append_assoc, List.cons_append]
      apply Traced.inner outside opens
      rw [List.map_append]
      exact grows inside

/-- Every token that is read is one more of those that were read. -/
theorem Traced.readToken
    {nesting next : Nesting}
    {found : List (Placed Token)}
    {placed : Placed Token}
    (traced : nesting.Traced found)
    (reading : nesting.readToken placed.item placed.start = .ok next) :
    next.Traced (found ++ [placed]) := by
  rcases placed with ⟨token, column, stop⟩
  cases step_of_readToken reading with
  | number added =>
      exact traced.replaceContent fun inside =>
        inside.addOperand (.number _) added
  | operator added =>
      exact traced.replaceContent fun inside => inside.addOperator added
  | leftParen =>
      exact .inner traced rfl .empty
  | rightParen closed added =>
      cases traced with
      | @inner around before content outer run opening outside opens inside =>
          rw [List.append_assoc, List.cons_append]
          apply outside.replaceContent
          intro beside spelled
          have group : Derives .factor _ _ := .group (inside.close closed)
          simpa [opens] using spelled.addOperand group added

theorem Traced.readTokens
    {nesting next : Nesting}
    {found more : List (Placed Token)}
    (traced : nesting.Traced found)
    (reading : nesting.readTokens more = .ok next) :
    next.Traced (found ++ more) := by
  induction more generalizing nesting found with
  | nil =>
      cases reading
      rwa [List.append_nil]
  | cons placed others hypothesis =>
      rcases bind_eq_ok_iff.mp reading with ⟨following, first, succeeding⟩
      rw [List.append_cons]
      exact hypothesis (traced.readToken first) succeeding

end Nesting

/-! ## What the tokens show -/

/-- Every parenthesis that opens in these tokens is closed by one of them. -/
def AllClosed (found : List (Placed Token)) : Prop :=
  ∀ between opening rest, found = between ++ opening :: rest →
    opening.item = .leftParen → ClosedIn (rest.map Placed.item)

/-- Every parenthesis that closes in these tokens is opened by one of them. -/
def AllOpened (found : List (Placed Token)) : Prop :=
  ∀ earlier closing between, found = earlier ++ closing :: between →
    closing.item = .rightParen → OpenedIn (earlier.map Placed.item)

/--
What is diagnosed at a token, given those before it.  A number or an operator is
out of place if the token before it says so.  A closing parenthesis that opens
nowhere is unexpected; another one may end its group too early, or else end a
group that is itself out of place.
-/
inductive Diagnosed (before : List (Placed Token)) (culprit : Placed Token) :
    SyntaxError → Prop where
  | number {value : Int64} :
      culprit.item = .number value →
      EndsOperand (before.map Placed.item) →
      Diagnosed before culprit ⟨.twoNumbersInARow, culprit.start⟩
  | group {outer inner : List (Placed Token)} {opening : Placed Token} :
      culprit.item = .rightParen →
      before = outer ++ opening :: inner →
      opening.item = .leftParen →
      Balanced (inner.map Placed.item) →
      EndsOperand (before.map Placed.item) →
      EndsOperand (outer.map Placed.item) →
      Diagnosed before culprit ⟨.twoNumbersInARow, opening.start⟩
  | operator {operator : Operator} :
      culprit.item = .operator operator →
      TakesOperand (before.map Placed.item) →
      Diagnosed before culprit ⟨.twoOperatorsInARow, culprit.start⟩
  | emptyGroup :
      culprit.item = .rightParen →
      (before.map Placed.item).getLast? = some .leftParen →
      Diagnosed before culprit ⟨.emptyGroup, culprit.start⟩
  | operatorAtEnd {operator : Operator} :
      culprit.item = .rightParen →
      (before.map Placed.item).getLast? = some (.operator operator) →
      OpenedIn (before.map Placed.item) →
      Diagnosed before culprit ⟨.operatorAtEnd, culprit.start⟩
  | unexpectedClosingParen :
      culprit.item = .rightParen →
      ¬ OpenedIn (before.map Placed.item) →
      AllOpened before →
      Diagnosed before culprit ⟨.unexpectedClosingParen, culprit.start⟩

/--
What is diagnosed when the tokens of a text end: there are none, or the
last is an operator, or a parenthesis is open.  The last one that stays
open is reported.
-/
inductive DiagnosedAtEnd (found : List (Placed Token)) (endColumn : Nat) :
    SyntaxError → Prop where
  | emptyGroup :
      found = [] →
      DiagnosedAtEnd found endColumn ⟨.emptyGroup, endColumn⟩
  | operatorAtEnd {operator : Operator} :
      (found.map Placed.item).getLast? = some (.operator operator) →
      AllClosed found →
      DiagnosedAtEnd found endColumn ⟨.operatorAtEnd, endColumn⟩
  | unclosedParen {before after : List (Placed Token)}
      {opening : Placed Token} :
      found = before ++ opening :: after →
      opening.item = .leftParen →
      ¬ ClosedIn (after.map Placed.item) →
      AllClosed after →
      DiagnosedAtEnd found endColumn ⟨.unclosedParen, opening.start⟩

theorem Balanced.allClosed
    {found : List (Placed Token)}
    (balanced : Balanced (found.map Placed.item)) :
    AllClosed found := by
  rintro between opening rest rfl opens
  rw [List.map_append, List.map_cons, opens] at balanced
  exact balanced.closedIn

theorem allOpened_of_openAfter
    {found : List (Placed Token)}
    {count : Nat}
    (stays : openAfter 0 (found.map Placed.item) = some count) :
    AllOpened found := by
  rintro earlier closing between rfl closes
  rw [List.map_append, List.map_cons, closes, openAfter_append] at stays
  rcases Option.bind_eq_some_iff.mp stays with ⟨opened, earlierStays, following⟩
  rw [openedIn_iff earlierStays]
  rintro rfl
  cases following

/-- There is only one last parenthesis that stays open. -/
theorem lastUnclosed_unique
    {outer inner before after : List (Placed Token)}
    {first second : Placed Token}
    (split : outer ++ first :: inner = before ++ second :: after)
    (firstOpens : first.item = .leftParen)
    (secondOpens : second.item = .leftParen)
    (firstStays : ¬ ClosedIn (inner.map Placed.item))
    (secondStays : ¬ ClosedIn (after.map Placed.item))
    (firstLast : AllClosed inner)
    (secondLast : AllClosed after) :
    outer = before ∧ first = second ∧ inner = after := by
  rcases List.append_eq_append_iff.mp split with
    ⟨between, rfl, rest⟩ | ⟨between, rfl, rest⟩
  · cases between with
    | nil =>
        rw [List.nil_append, List.cons.injEq] at rest
        exact ⟨(List.append_nil outer).symm, rest⟩
    | cons token others =>
        rw [List.cons_append, List.cons.injEq] at rest
        exact absurd (firstLast others second after rest.2 secondOpens)
          secondStays
  · cases between with
    | nil =>
        rw [List.nil_append, List.cons.injEq] at rest
        exact ⟨List.append_nil before, rest.1.symm, rest.2.symm⟩
    | cons token others =>
        rw [List.cons_append, List.cons.injEq] at rest
        exact absurd (secondLast others first inner rest.2 firstOpens)
          firstStays

/-! ## What a state shows -/

/--
How the content of the innermost group shows in the last token that was read.
-/
def Content.ShowsIn : Content → Option Token → Prop
  | .empty, last => last = none ∨ last = some .leftParen
  | .dangling _ operator, last => last = some (.operator operator)
  | .complete _, last =>
      ∃ token ∈ last, token = .rightParen ∨ ∃ value, token = .number value

namespace Nesting

theorem Spelled.showsIn
    {nesting : Nesting}
    {run : List Token}
    (spelled : nesting.Spelled run) :
    nesting.content.ShowsIn run.getLast? := by
  have takes := spelled.takesOperand_iff
  cases spelled with
  | outermost inside =>
      cases inside with
      | empty => exact Or.inl rfl
      | complete series =>
          exact not_takesOperand_iff.mp fun operand => takes.mp operand
      | dangling series => simp [Content.ShowsIn]
  | inner outside inside =>
      cases inside with
      | empty => exact Or.inr (by simp)
      | complete series =>
          exact not_takesOperand_iff.mp fun operand => takes.mp operand
      | dangling series => simp [Content.ShowsIn, List.getLast?_cons]

theorem Spelled.exists_complete
    {nesting : Nesting}
    {run : List Token}
    (spelled : nesting.Spelled run)
    (ends : EndsOperand run) :
    ∃ series, nesting.content = .complete series := by
  have blocked : ¬ nesting.content.AwaitsOperand := by
    rw [← spelled.takesOperand_iff, not_takesOperand_iff]
    exact ends
  cases content : nesting.content with
  | complete series => exact ⟨series, rfl⟩
  | empty => simp [content, Content.AwaitsOperand] at blocked
  | dangling series operator => simp [content, Content.AwaitsOperand] at blocked

theorem Spelled.exists_dangling
    {nesting : Nesting}
    {run : List Token}
    {operator : Operator}
    (spelled : nesting.Spelled run)
    (last : run.getLast? = some (.operator operator)) :
    ∃ series, nesting.content = .dangling series operator := by
  have shows := spelled.showsIn
  rw [last] at shows
  cases content : nesting.content with
  | complete series => simp [content, Content.ShowsIn] at shows
  | empty => simp [content, Content.ShowsIn] at shows
  | dangling series other =>
      simp only [content, Content.ShowsIn, Option.some.injEq,
        Token.operator.injEq] at shows
      exact ⟨series, by rw [shows]⟩

theorem Spelled.content_eq_empty
    {nesting : Nesting}
    {run : List Token}
    (spelled : nesting.Spelled run)
    (last : run.getLast? = none ∨ run.getLast? = some .leftParen) :
    nesting.content = .empty := by
  have shows := spelled.showsIn
  cases content : nesting.content with
  | empty => rfl
  | complete series =>
      rcases last with last | last <;>
        simp [content, last, Content.ShowsIn] at shows
  | dangling series operator =>
      rcases last with last | last <;>
        simp [content, last, Content.ShowsIn] at shows

/--
The parenthesis that opened the innermost group, and the tokens on
both sides of it.
-/
theorem Traced.exists_opening
    {group : OpenGroup}
    {around : List OpenGroup}
    {content : Content}
    {found : List (Placed Token)}
    (traced : Traced ⟨group :: around, content⟩ found) :
    ∃ outer opening inner,
      found = outer ++ opening :: inner ∧ opening.item = .leftParen ∧
      group.openedAt = opening.start ∧ Traced ⟨around, group.before⟩ outer ∧
        Balanced (inner.map Placed.item) := by
  cases traced with
  | @inner _ _ _ outer run opening outside opens inside =>
      exact
        ⟨outer, opening, run, rfl, opens, rfl, outside, inside.openAfter_eq 0⟩

/-- A token is refused exactly if something is diagnosed at it. -/
theorem Traced.refused_iff
    {nesting : Nesting}
    {before : List (Placed Token)}
    {culprit : Placed Token}
    {error : SyntaxError}
    (traced : nesting.Traced before) :
    Refused culprit.start nesting culprit.item error ↔
      Diagnosed before culprit error := by
  have spelled := traced.spelled
  have shows := spelled.showsIn
  have opened_iff := spelled.openedIn_iff
  constructor
  · intro refused
    rcases culprit with ⟨token, column, stop⟩
    cases refused with
    | number => exact .number rfl shows
    | operator awaits =>
        exact .operator rfl (spelled.takesOperand_iff.mpr awaits)
    | unexpected =>
        refine .unexpectedClosingParen rfl
          (fun opened => opened_iff.mp opened rfl) ?_
        exact allOpened_of_openAfter spelled.openAfter_eq
    | empty =>
        have opened : OpenedIn (before.map Placed.item) :=
          opened_iff.mpr (by simp)
        rcases shows with nothing | last
        · rw [List.getLast?_eq_none_iff] at nothing
          simp [nothing, OpenedIn] at opened
        · exact .emptyGroup rfl last
    | dangling => exact .operatorAtEnd rfl shows (opened_iff.mpr (by simp))
    | misplaced =>
        rcases traced.exists_opening with
          ⟨outer, opening, inner, split, opens, rfl, outside, balanced⟩
        exact .group rfl split opens balanced shows outside.spelled.showsIn
  · intro diagnosed
    rcases nesting with ⟨groups, content⟩
    cases diagnosed with
    | number item ends =>
        rcases spelled.exists_complete ends with ⟨series, rfl⟩
        rw [item]
        exact .number
    | operator item takes =>
        rw [item]
        exact .operator (spelled.takesOperand_iff.mp takes)
    | unexpectedClosingParen item notOpened _ =>
        rw [opened_iff, not_not] at notOpened
        obtain rfl : groups = [] := notOpened
        rw [item]
        exact .unexpected
    | emptyGroup item last =>
        have opened : OpenedIn (before.map Placed.item) := by
          rcases List.getLast?_eq_some_iff.mp last with ⟨front, split⟩
          exact ⟨front, [], split, rfl⟩
        obtain rfl : content = .empty := spelled.content_eq_empty (Or.inr last)
        rcases List.exists_cons_of_ne_nil (opened_iff.mp opened) with
          ⟨group, around, rfl⟩
        rw [item]
        exact .empty
    | operatorAtEnd item last opened =>
        rcases spelled.exists_dangling last with ⟨series, rfl⟩
        rcases List.exists_cons_of_ne_nil (opened_iff.mp opened) with
          ⟨group, around, rfl⟩
        rw [item]
        exact .dangling
    | @group outer inner opening item split opens balanced ends outerEnds =>
        have opened : OpenedIn (before.map Placed.item) :=
          ⟨outer.map Placed.item, inner.map Placed.item, by simp [split, opens],
            balanced⟩
        rcases spelled.exists_complete ends with ⟨series, rfl⟩
        rcases List.exists_cons_of_ne_nil (opened_iff.mp opened) with
          ⟨group, around, rfl⟩
        rcases traced.exists_opening with
          ⟨otherOuter, otherOpening, otherInner, otherSplit, otherOpens,
            openedAt, outside, otherBalanced⟩
        -- both parentheses are the last one that is open before the culprit
        obtain ⟨rfl, rfl, rfl⟩ :=
          lastUnclosed_unique (split.symm.trans otherSplit) opens otherOpens
            balanced.not_closedIn otherBalanced.not_closedIn balanced.allClosed
            otherBalanced.allClosed
        rcases group with ⟨column, groupBefore⟩
        rcases outside.spelled.exists_complete outerEnds with ⟨earlier, rfl⟩
        obtain rfl : column = opening.start := openedAt
        rw [item]
        exact .misplaced

/-- A formula is refused at its end exactly if something is diagnosed there. -/
theorem Traced.refusedEnd_iff
    {nesting : Nesting}
    {found : List (Placed Token)}
    {endColumn : Nat}
    {error : SyntaxError}
    (traced : nesting.Traced found) :
    RefusedEnd endColumn nesting error ↔
      DiagnosedAtEnd found endColumn error := by
  have spelled := traced.spelled
  constructor
  · intro refused
    cases refused with
    | empty =>
        cases traced with
        | outermost inside =>
            generalize items : found.map Placed.item = run at inside
            cases inside with
            | empty => exact .emptyGroup (List.map_eq_nil_iff.mp items)
    | dangling =>
        exact .operatorAtEnd spelled.showsIn
          (Balanced.allClosed spelled.openAfter_eq)
    | unclosed =>
        rcases traced.exists_opening with
          ⟨outer, opening, inner, split, opens, openedAt, outside, balanced⟩
        rw [openedAt]
        exact .unclosedParen split opens balanced.not_closedIn
          balanced.allClosed
  · intro diagnosed
    rcases nesting with ⟨groups, content⟩
    cases diagnosed with
    | emptyGroup nothing =>
        subst nothing
        obtain rfl : content = .empty := spelled.content_eq_empty (Or.inl rfl)
        obtain rfl : groups = [] := by
          simpa [openAfter, eq_comm] using spelled.openAfter_eq
        exact .empty
    | operatorAtEnd last closed =>
        rcases spelled.exists_dangling last with ⟨series, rfl⟩
        cases groups with
        | nil => exact .dangling
        | cons group around =>
            rcases traced.exists_opening with
              ⟨outer, opening, inner, split, opens, openedAt, outside, balanced⟩
            exact absurd (closed outer opening inner split opens)
              balanced.not_closedIn
    | @unclosedParen before after opening split opens stays last =>
        cases groups with
        | nil =>
            have balanced : Balanced (found.map Placed.item) :=
              spelled.openAfter_eq
            exact absurd (balanced.allClosed before opening after split opens)
              stays
        | cons group around =>
            rcases traced.exists_opening with
              ⟨otherOuter, otherOpening, otherInner, otherSplit, otherOpens,
                openedAt, outside, otherBalanced⟩
            obtain ⟨rfl, rfl, rfl⟩ :=
              lastUnclosed_unique (split.symm.trans otherSplit) opens otherOpens
                stays
                otherBalanced.not_closedIn last otherBalanced.allClosed
            rw [← openedAt]
            exact .unclosed

end Nesting

/-! ## The first diagnosis -/

/-- Nothing is diagnosed at any of the tokens. -/
def Undiagnosed (found : List (Placed Token)) : Prop :=
  ∀ before culprit after error, found = before ++ culprit :: after →
    ¬ Diagnosed before culprit error

theorem undiagnosed_append_iff
    {found : List (Placed Token)}
    {last : Placed Token} :
    Undiagnosed (found ++ [last]) ↔
      Undiagnosed found ∧ ∀ error, ¬ Diagnosed found last error := by
  constructor
  · intro undiagnosed
    constructor
    · rintro before culprit after error rfl
      exact undiagnosed before culprit (after ++ [last]) error (by simp)
    · intro error
      exact undiagnosed found last [] error rfl
  · rintro ⟨undiagnosed, lastUndiagnosed⟩ before culprit after error split
    rcases List.eq_nil_or_concat' after with rfl | ⟨others, final, rfl⟩
    · rcases List.append_inj' split rfl with ⟨rfl, same⟩
      obtain rfl := (List.cons.inj same).1
      exact lastUndiagnosed error
    · rw [← List.cons_append, ← List.append_assoc] at split
      rcases List.append_inj' split rfl with ⟨rfl, -⟩
      exact undiagnosed before culprit others error rfl

namespace Nesting

/-- Tokens are read as long as nothing is diagnosed at any of them. -/
theorem exists_readTokens_iff
    {found : List (Placed Token)} :
    (∃ last, start.readTokens found = .ok last) ↔ Undiagnosed found := by
  induction found using List.reverseRecOn with
  | nil => simp [readTokens, Undiagnosed]
  | append_singleton found placed hypothesis =>
      rw [undiagnosed_append_iff, ← hypothesis]
      constructor
      · rintro ⟨last, reading⟩
        rw [readTokens_append] at reading
        rcases bind_eq_ok_iff.mp reading with ⟨next, earlier, final⟩
        refine ⟨⟨next, earlier⟩, ?_⟩
        intro error diagnosed
        have traced : next.Traced found := traced_start.readTokens earlier
        rw [← traced.refused_iff, ← readToken_eq_error_iff] at diagnosed
        rw [readTokens, diagnosed] at final
        cases final
      · rintro ⟨⟨next, earlier⟩, undiagnosed⟩
        have traced : next.Traced found := traced_start.readTokens earlier
        cases final : next.readToken placed.item placed.start with
        | ok last =>
            refine ⟨last, ?_⟩
            rw [readTokens_append, earlier]
            change (next.readToken placed.item placed.start).bind _ = _
            rw [final]
            rfl
        | error error =>
            rw [readToken_eq_error_iff, traced.refused_iff] at final
            exact absurd final (undiagnosed error)

/-- Of all diagnoses the first is reported. -/
theorem start_readTokens_eq_error_iff
    {found : List (Placed Token)}
    {error : SyntaxError} :
    start.readTokens found = .error error ↔
      ∃ before culprit after, found = before ++ culprit :: after ∧
        Undiagnosed before ∧ Diagnosed before culprit error := by
  rw [readTokens_eq_error_iff]
  constructor
  · rintro ⟨before, culprit, after, next, rfl, reading, refused⟩
    have traced : next.Traced before := traced_start.readTokens reading
    rw [readToken_eq_error_iff, traced.refused_iff] at refused
    exact
      ⟨before, culprit, after, rfl, exists_readTokens_iff.mp ⟨next, reading⟩,
        refused⟩
  · rintro ⟨before, culprit, after, rfl, undiagnosed, diagnosed⟩
    rcases exists_readTokens_iff.mpr undiagnosed with ⟨next, reading⟩
    have traced : next.Traced before := traced_start.readTokens reading
    rw [← traced.refused_iff, ← readToken_eq_error_iff] at diagnosed
    exact ⟨before, culprit, after, next, rfl, reading, diagnosed⟩

theorem start_finish_eq_error_iff
    {found : List (Placed Token)}
    {endColumn : Nat}
    {error : SyntaxError} :
    (∃ last,
      start.readTokens found = .ok last ∧
        last.finish endColumn = .error error) ↔
      Undiagnosed found ∧ DiagnosedAtEnd found endColumn error := by
  constructor
  · rintro ⟨last, reading, ended⟩
    have traced : last.Traced found := traced_start.readTokens reading
    rw [finish_eq_error_iff, traced.refusedEnd_iff] at ended
    exact ⟨exists_readTokens_iff.mp ⟨last, reading⟩, ended⟩
  · rintro ⟨undiagnosed, diagnosed⟩
    rcases exists_readTokens_iff.mpr undiagnosed with ⟨last, reading⟩
    have traced : last.Traced found := traced_start.readTokens reading
    rw [← traced.refusedEnd_iff, ← finish_eq_error_iff] at diagnosed
    exact ⟨last, reading, diagnosed⟩

end Nesting

/-! ## Whole texts -/

theorem Diagnosed.not_wellFormed
    {before after : List (Placed Token)}
    {culprit : Placed Token}
    {error : SyntaxError}
    (diagnosed : Diagnosed before culprit error)
    (balanced : Balanced ((before ++ culprit :: after).map Placed.item)) :
    ¬ WellOrdered ((before ++ culprit :: after).map Placed.item) := by
  intro ordered
  rw [List.map_append, List.map_cons] at balanced ordered
  have neighbours := ordered.mayFollow
  cases diagnosed with
  | number item ends =>
      rw [MayFollow, ends.not_due, item] at neighbours
      cases neighbours
  | operator item takes =>
      rw [MayFollow, takesOperand_iff_due.mp takes, item] at neighbours
      cases neighbours
  | emptyGroup item last =>
      rw [MayFollow, last, item] at neighbours
      cases neighbours
  | operatorAtEnd item last _ =>
      rw [MayFollow, last, item] at neighbours
      cases neighbours
  | group _ split opens _ _ outerEnds =>
      subst split
      rw [List.map_append, List.map_cons, List.append_assoc,
        List.cons_append] at ordered
      have earlier := ordered.mayFollow
      rw [MayFollow, outerEnds.not_due, opens] at earlier
      cases earlier
  | unexpectedClosingParen item notOpened _ =>
      rw [Balanced, openAfter_append, item] at balanced
      rcases Option.bind_eq_some_iff.mp balanced with ⟨count, stays, following⟩
      rw [openedIn_iff stays, not_not] at notOpened
      subst notOpened
      cases following

theorem DiagnosedAtEnd.not_wellFormed
    {found : List (Placed Token)}
    {endColumn : Nat}
    {error : SyntaxError}
    (diagnosed : DiagnosedAtEnd found endColumn error)
    (balanced : Balanced (found.map Placed.item)) :
    ¬ WellOrdered (found.map Placed.item) := by
  intro ordered
  have ending := ordered.mayEnd
  cases diagnosed with
  | emptyGroup nothing =>
      subst nothing
      cases ending
  | operatorAtEnd last _ =>
      rw [MayFollow, last] at ending
      cases ending
  | unclosedParen split opens stays _ =>
      exact stays (balanced.allClosed _ _ _ split opens)

/--
A structural fault is reported exactly if it is the first that is diagnosed from
the tokens, at one of them or at their end.
-/
theorem parse_eq_error_iff
    {text : String}
    {error : SyntaxError}
    (structural : ∀ fault, error.fault ≠ .badToken fault) :
    parse text = .error error ↔
      (∃ (before : List (Placed Token)) (culprit : Placed Token)
        (after : List Lexeme),
        (Cursor.ofText text).lexemes =
          before.map Placed.lexeme ++ culprit.lexeme :: after ∧
          Undiagnosed before ∧ Diagnosed before culprit error) ∨
      (∃ found, tokens text = .ok found ∧
        Undiagnosed found ∧ DiagnosedAtEnd found (text.length + 1) error) := by
  constructor
  · intro failed
    rcases exists_tokens_or_fault text with
      ⟨found, allTokens⟩ | ⟨found, faulty, rest, fault, split, item⟩
    · rw [parse_of_tokens allTokens] at failed
      rcases bind_eq_error_iff.mp failed with refused | ⟨last, reading, ended⟩
      · rcases Nesting.start_readTokens_eq_error_iff.mp refused with
          ⟨before, culprit, after, rfl, undiagnosed, diagnosed⟩
        refine Or.inl
          ⟨before, culprit, after.map Placed.lexeme, ?_, undiagnosed, diagnosed⟩
        rw [tokens_eq_ok_iff.mp allTokens, List.map_append, List.map_cons]
      · have atEnd :=
          Nesting.start_finish_eq_error_iff.mp ⟨last, reading, ended⟩
        exact Or.inr ⟨found, allTokens, atEnd⟩
    · rw [parse_of_fault split item] at failed
      rcases bind_eq_error_iff.mp failed with refused | ⟨last, reading, ended⟩
      · rcases Nesting.start_readTokens_eq_error_iff.mp refused with
          ⟨before, culprit, after, rfl, undiagnosed, diagnosed⟩
        refine Or.inl
          ⟨before, culprit, after.map Placed.lexeme ++ faulty :: rest, ?_,
            undiagnosed, diagnosed⟩
        rw [split, List.map_append, List.map_cons, List.append_assoc,
          List.cons_append]
      · cases ended
        exact absurd rfl (structural fault)
  · rintro (⟨before, culprit, after, split, undiagnosed, diagnosed⟩ |
      ⟨found, allTokens, atEnd⟩)
    · have refused :
          Nesting.start.readTokens (before ++ [culprit]) = .error error :=
        Nesting.start_readTokens_eq_error_iff.mpr
          ⟨before, culprit, [], rfl, undiagnosed, diagnosed⟩
      have sameSplit :
          (Cursor.ofText text).lexemes =
            (before ++ [culprit]).map Placed.lexeme ++ after := by
        rw [split, List.map_append, List.map_singleton, List.append_assoc,
          List.singleton_append]
      rw [parse, Cursor.parse, sameSplit, Nesting.run_lexemes, refused]
      rfl
    · rcases Nesting.start_finish_eq_error_iff.mpr atEnd with
        ⟨last, reading, ended⟩
      rw [parse_of_tokens allTokens, reading]
      exact ended

theorem exists_parse_iff
    {text : String}
    {found : List (Placed Token)}
    (allTokens : tokens text = .ok found) :
    (∃ expr, parse text = .ok expr) ↔
      Balanced (found.map Placed.item) ∧
        WellOrdered (found.map Placed.item) := by
  constructor
  · rintro ⟨expr, parsed⟩
    rcases exists_derives_of_parse parsed with ⟨other, otherTokens, derived⟩
    obtain rfl : other = found :=
      Except.ok.inj (otherTokens.symm.trans allTokens)
    exact ⟨derived.balanced, derived.wellOrdered⟩
  · rintro ⟨balanced, ordered⟩
    cases parsed : parse text with
    | ok expr => exact ⟨expr, rfl⟩
    | error error =>
        rw [parse_of_tokens allTokens] at parsed
        rcases bind_eq_error_iff.mp parsed with refused | ended
        · rcases Nesting.start_readTokens_eq_error_iff.mp refused with
            ⟨before, culprit, after, rfl, -, diagnosed⟩
          exact absurd ordered (diagnosed.not_wellFormed balanced)
        · have atEnd := (Nesting.start_finish_eq_error_iff.mp ended).2
          exact absurd ordered (atEnd.not_wellFormed balanced)

/--
A text of tokens is read into a tree exactly if its parentheses are balanced and
every token may follow the one before it, the start and the end included.  A
structural fault is reported exactly if it is diagnosed from the tokens, of one
kind and at one column, and nothing is diagnosed earlier.
-/
theorem parse_diagnoses (text : String) :
    (∀ found, tokens text = .ok found →
      ((∃ expr, parse text = .ok expr) ↔
        Balanced (found.map Placed.item) ∧
          WellOrdered (found.map Placed.item))) ∧
    (∀ error, (∀ fault, error.fault ≠ .badToken fault) →
      (parse text = .error error ↔
        (∃ (before : List (Placed Token)) (culprit : Placed Token)
          (after : List Lexeme),
          (Cursor.ofText text).lexemes =
            before.map Placed.lexeme ++ culprit.lexeme :: after ∧
            Undiagnosed before ∧ Diagnosed before culprit error) ∨
        (∃ found, tokens text = .ok found ∧
          Undiagnosed found ∧
            DiagnosedAtEnd found (text.length + 1) error))) := by
  constructor
  · intro found allTokens
    exact exists_parse_iff allTokens
  · intro error structural
    exact parse_eq_error_iff structural

example : parse "2 (3))" = .error ⟨.twoNumbersInARow, 3⟩ := by
  decide +kernel

end Reckoner
