import Mathlib.Data.List.GetD
import Reckoner.Proofs.InStep
import Reckoner.Proofs.Refusal
import Reckoner.Proofs.Spacing

/-!
# Widths of spaces

It does not matter how many spaces stand between two characters, as long as
there are some or none.  Two texts that differ in nothing else have the same
lexemes, and each lexeme stands at the same visible characters in both; so all
columns that are ever reported move with the characters they point at, and the
end of one text moves to the end of the other.

`columns` gives the columns of the visible characters and `moveColumn` where
each of them goes.  The texts are compared from their first visible character
on: `AlikeBehind` relates what stands behind the same visible character in both.
-/

namespace Reckoner

/-! ## Columns of the visible characters -/

/--
The columns of the visible characters that follow the first `consumed` ones.
-/
def columnsFrom (consumed : Nat) (characters : List Char) : List Nat :=
  ((characters.zipIdx (consumed + 1)).filter fun counted => counted.1 ≠ ' ').map
    Prod.snd

/-- The columns of the visible characters of a text. -/
def columns (characters : List Char) : List Nat :=
  columnsFrom 0 characters

/--
Whether the visible character at an index has the next one right behind it.
-/
def Adjacent (found : List Nat) (index : Nat) : Prop :=
  found.getD (index + 1) 0 = found.getD index 0 + 1

instance (found : List Nat) (index : Nat) : Decidable (Adjacent found index) :=
  inferInstanceAs (Decidable (_ = _))

/--
The texts have the same visible characters, and any two that follow one another
are separated by spaces in both or in none.
-/
structure SameSpacing (original spaced : List Char) : Prop where
  visible_eq : visible spaced = visible original
  adjacent_iff :
    ∀ index < (visible original).length - 1,
      Adjacent (columns spaced) index ↔ Adjacent (columns original) index

/--
The column in one text of the visible character that is at a column of the
other.  The column past the end goes past the end.
-/
def moveColumn (original spaced : List Char) (column : Nat) : Nat :=
  if column = original.length + 1 then
    spaced.length + 1
  else
    (columns spaced).getD ((columns original).idxOf column) 0

theorem columnsFrom_append (consumed : Nat) (front back : List Char) :
    columnsFrom consumed (front ++ back) =
      columnsFrom consumed front ++
        columnsFrom (consumed + front.length) back := by
  rw [columnsFrom, List.zipIdx_append, List.filter_append, List.map_append]
  congr 4
  omega

theorem columnsFrom_gap
    {gap : List Char}
    (isGap : IsGap gap)
    (consumed : Nat) :
    columnsFrom consumed gap = [] := by
  rw [columnsFrom, List.map_eq_nil_iff, List.filter_eq_nil_iff]
  intro counted member
  simpa using isGap counted.1 (List.fst_mem_of_mem_zipIdx member)

theorem columnsFrom_run
    {run : List Char}
    (shown : ∀ character ∈ run, character ≠ ' ')
    (consumed : Nat) :
    columnsFrom consumed run = List.range' (consumed + 1) run.length := by
  rw [columnsFrom, List.filter_eq_self.mpr, List.zipIdx_map_snd]
  intro counted member
  simpa using shown counted.1 (List.fst_mem_of_mem_zipIdx member)

theorem columnsFrom_cons
    {first : Char}
    (shown : first ≠ ' ')
    (consumed : Nat)
    (rest : List Char) :
    columnsFrom consumed (first :: rest) =
      (consumed + 1) :: columnsFrom (consumed + 1) rest := by
  rw [columnsFrom, List.zipIdx_cons,
    List.filter_cons_of_pos (by simpa using shown)]
  rfl

theorem columnsFrom_gap_append
    {gap : List Char}
    (isGap : IsGap gap)
    (consumed : Nat)
    (rest : List Char) :
    columnsFrom consumed (gap ++ rest) =
      columnsFrom (consumed + gap.length) rest := by
  rw [columnsFrom_append, columnsFrom_gap isGap, List.nil_append]

theorem nodup_columns
    (characters : List Char) :
    (columns characters).Nodup := by
  have sublist :
      (columns characters).Sublist (List.range' 1 characters.length) := by
    rw [← List.zipIdx_map_snd]
    exact List.filter_sublist.map Prod.snd
  exact sublist.nodup List.nodup_range'

theorem le_length_of_mem_columns
    {characters : List Char}
    {column : Nat}
    (member : column ∈ columns characters) :
    column ≤ characters.length := by
  obtain ⟨counted, among, rfl⟩ := List.mem_map.mp member
  have bound := List.mem_zipIdx (List.mem_filter.mp among).1
  omega

/-- Columns of the same visible character are moved to one another. -/
theorem moveColumn_of_mem_zip
    {original spaced : List Char}
    {column other : Nat}
    (paired : (column, other) ∈ (columns original).zip (columns spaced)) :
    moveColumn original spaced column = other := by
  have inside := le_length_of_mem_columns (List.of_mem_zip paired).1
  obtain ⟨index, bound, same⟩ := List.mem_iff_getElem.mp paired
  rw [List.getElem_zip, Prod.mk.injEq] at same
  obtain ⟨rfl, rfl⟩ := same
  rw [List.length_zip] at bound
  rw [moveColumn, if_neg (by omega), (nodup_columns original).idxOf_getElem,
    List.getD_eq_getElem _ _ (by omega)]

theorem moveColumn_end (original spaced : List Char) :
    moveColumn original spaced (original.length + 1) = spaced.length + 1 := by
  rw [moveColumn, if_pos rfl]

/-! ## What stands behind a visible character -/

/--
Texts that stand behind the same visible character and differ in nothing but the
widths of their spaces.
-/
inductive AlikeBehind : List Char → List Char → Prop where
  | blank {gap otherGap : List Char} :
      IsGap gap →
      IsGap otherGap →
      AlikeBehind gap otherGap
  | character {gap otherGap rest otherRest : List Char} {next : Char} :
      IsGap gap →
      IsGap otherGap →
      (otherGap = [] ↔ gap = []) →
      next ≠ ' ' →
      AlikeBehind rest otherRest →
      AlikeBehind (gap ++ next :: rest) (otherGap ++ next :: otherRest)

theorem ne_space_of_visible_cons
    {characters more : List Char}
    {first : Char}
    (shown : visible characters = first :: more) :
    first ≠ ' ' := by
  have member : first ∈ visible characters := by
    rw [shown]
    exact List.mem_cons_self
  rw [visible, List.mem_filter] at member
  simpa using member.2

/-- A gap ends in front of the first visible character. -/
theorem gap_cons_inj
    {gap otherGap rest otherRest : List Char}
    {first other : Char}
    (isGap : IsGap gap)
    (otherIsGap : IsGap otherGap)
    (shown : first ≠ ' ')
    (otherShown : other ≠ ' ')
    (same : gap ++ first :: rest = otherGap ++ other :: otherRest) :
    gap = otherGap ∧ first = other ∧ rest = otherRest := by
  induction gap generalizing otherGap with
  | nil =>
      cases otherGap with
      | nil => exact ⟨rfl, List.cons.inj same⟩
      | cons space others =>
          exact absurd
            ((List.cons.inj same).1.trans (otherIsGap space List.mem_cons_self))
            shown
  | cons space others hypothesis =>
      cases otherGap with
      | nil =>
          exact absurd
            ((List.cons.inj same).1.symm.trans (isGap space List.mem_cons_self))
            otherShown
      | cons otherSpace more =>
          obtain ⟨head, tail⟩ := List.cons.inj same
          obtain ⟨gaps, following⟩ :=
            hypothesis
              (fun character member =>
                isGap character (List.mem_cons_of_mem _ member))
              (fun character member =>
                otherIsGap character (List.mem_cons_of_mem _ member)) tail
          exact ⟨by rw [head, gaps], following⟩

namespace AlikeBehind

variable
    {gap rest other : List Char}
    {first : Char}

/-- What is alike to a gap and a visible character is one too. -/
theorem exists_visible
    (alike : AlikeBehind (gap ++ first :: rest) other)
    (isGap : IsGap gap)
    (shown : first ≠ ' ') :
    ∃ otherGap otherRest,
      other = otherGap ++ first :: otherRest ∧
        IsGap otherGap ∧ (otherGap = [] ↔ gap = []) ∧
          AlikeBehind rest otherRest := by
  generalize whole : gap ++ first :: rest = characters at alike
  cases alike with
  | blank blank _ =>
      subst whole
      exact absurd (blank first (by simp)) shown
  | character found otherGap both foundShown following =>
      obtain ⟨rfl, rfl, rfl⟩ := gap_cons_inj isGap found shown foundShown whole
      exact ⟨_, _, rfl, otherGap, both, following⟩

/-- Characters without spaces between them stay together. -/
theorem exists_run
    {run : List Char}
    (alike : AlikeBehind (run ++ rest) other)
    (shown : ∀ character ∈ run, character ≠ ' ') :
    ∃ otherRest, other = run ++ otherRest ∧ AlikeBehind rest otherRest := by
  induction run generalizing other with
  | nil => exact ⟨other, rfl, alike⟩
  | cons first others hypothesis =>
      have beginning : AlikeBehind ([] ++ first :: (others ++ rest)) other :=
        alike
      obtain ⟨otherGap, otherRest, rfl, -, both, following⟩ :=
        beginning.exists_visible .nil (shown first List.mem_cons_self)
      obtain ⟨last, rfl, behind⟩ :=
        hypothesis following fun character member =>
          shown character (List.mem_cons_of_mem _ member)
      rw [both.mpr rfl]
      exact ⟨last, rfl, behind⟩

/-- A run ends where it ended. -/
theorem endsRun
    (alike : AlikeBehind rest other)
    (ends : EndsRun first rest) :
    EndsRun first other := by
  intro next member
  cases alike with
  | blank _ otherIsGap =>
      rw [otherIsGap next (List.mem_of_mem_head? member)]
      exact Token.joins_space
  | @character gap otherGap _ _ _ _ otherIsGap both =>
      cases otherGap with
      | nil =>
          obtain rfl := both.mp rfl
          exact ends next member
      | cons space others =>
          have isSpace : next = ' ' := by
            cases member
            exact otherIsGap next List.mem_cons_self
          rw [isSpace]
          exact Token.joins_space

theorem isGap
    (alike : AlikeBehind rest other)
    (blank : IsGap rest) :
    IsGap other := by
  cases alike with
  | blank _ otherIsGap => exact otherIsGap
  | character _ _ _ shown => exact absurd (blank _ (by simp)) shown

/--
Texts are alike if their visible characters are, and the adjacent
ones among them.
-/
theorem of_adjacent
    {consumed start : Nat}
    (same : visible other = visible rest)
    (adjacent :
      ∀ index < (visible rest).length,
        Adjacent (start :: columnsFrom start other) index ↔
          Adjacent (consumed :: columnsFrom consumed rest) index) :
    AlikeBehind rest other := by
  generalize shown : visible rest = characters at same adjacent
  induction characters generalizing rest other consumed start with
  | nil =>
      exact .blank (visible_eq_nil_iff.mp shown) (visible_eq_nil_iff.mp same)
  | cons character more hypothesis =>
      obtain ⟨gap, back, rfl, isGap, following⟩ := exists_gap_of_visible shown
      obtain ⟨otherGap, otherBack, rfl, otherIsGap, otherFollowing⟩ :=
        exists_gap_of_visible same
      have notSpace := ne_space_of_visible_cons shown
      rw [columnsFrom_gap_append isGap, columnsFrom_gap_append otherIsGap,
        columnsFrom_cons notSpace, columnsFrom_cons notSpace] at adjacent
      have both : otherGap = [] ↔ gap = [] := by
        have first := adjacent 0 (by simp)
        simpa [Adjacent] using first
      apply AlikeBehind.character isGap otherIsGap both notSpace
      apply hypothesis following otherFollowing
      intro index bound
      exact adjacent (index + 1) (by simpa using bound)

end AlikeBehind

/--
Texts with the same spacing are alike from their first visible characters on.
-/
theorem SameSpacing.exists_alike
    {original spaced : List Char}
    (same : SameSpacing original spaced) :
    ∃ gap rest otherGap otherRest,
      original = gap ++ rest ∧ spaced = otherGap ++ otherRest ∧
        IsGap gap ∧ IsGap otherGap ∧ AlikeBehind rest otherRest := by
  cases shown : visible original with
  | nil =>
      have isGap : IsGap original := visible_eq_nil_iff.mp shown
      have otherIsGap : IsGap spaced :=
        visible_eq_nil_iff.mp (same.visible_eq.trans shown)
      exact
        ⟨original, [], spaced, [], by simp, by simp, isGap, otherIsGap,
          .blank .nil .nil⟩
  | cons first more =>
      have adjacent := same.adjacent_iff
      rw [shown] at adjacent
      obtain ⟨gap, rest, rfl, isGap, following⟩ := exists_gap_of_visible shown
      obtain ⟨otherGap, otherRest, rfl, otherIsGap, otherFollowing⟩ :=
        exists_gap_of_visible (same.visible_eq.trans shown)
      have notSpace := ne_space_of_visible_cons shown
      rw [columns, columns, columnsFrom_gap_append isGap,
        columnsFrom_gap_append otherIsGap, columnsFrom_cons notSpace,
        columnsFrom_cons notSpace] at adjacent
      have behind : AlikeBehind rest otherRest := by
        apply AlikeBehind.of_adjacent (otherFollowing.trans following.symm)
        rw [following]
        exact adjacent
      exact
        ⟨gap, first :: rest, otherGap, first :: otherRest, rfl, rfl, isGap,
          otherIsGap,
        .character .nil .nil Iff.rfl notSpace behind⟩

/-! ## Lexemes -/

/-- The same item at other columns. -/
def Placed.moved
    {Item : Type}
    (move : Nat → Nat)
    (placed : Placed Item) :
    Placed Item :=
  ⟨placed.item, move placed.start, move placed.stop⟩

/-- The same item, beginning and ending at related columns. -/
structure Placed.SpanInStep
    {Item : Type}
    (Moved : Nat → Nat → Prop)
    (placed other : Placed Item) :
    Prop extends Placed.InStep Moved placed other where
  stop : Moved placed.stop other.stop

/-- Columns in two texts at which the same visible character stands. -/
def Aligned
    (consumed : Nat)
    (characters : List Char)
    (start : Nat)
    (other : List Char)
    (column otherColumn : Nat) :
    Prop :=
  (column, otherColumn) ∈
    (columnsFrom consumed characters).zip (columnsFrom start other)

theorem mem_zip_range'
    {count index : Nat}
    (inside : index < count)
    (first other : Nat) :
    (first + index, other + index) ∈
      (List.range' first count).zip (List.range' other count) :=
  List.mem_iff_getElem.mpr ⟨index, by simpa using inside, by simp⟩

/-- The columns of a run behind a gap come before those of what follows. -/
theorem columnsFrom_gap_run
    {gap others : List Char}
    {first : Char}
    (isGap : IsGap gap)
    (shown : ∀ character ∈ first :: others, character ≠ ' ')
    (consumed : Nat)
    (rest : List Char) :
    columnsFrom consumed (gap ++ first :: (others ++ rest)) =
      List.range' (consumed + gap.length + 1) (others.length + 1) ++
        columnsFrom (consumed + gap.length + 1 + others.length) rest := by
  rw [columnsFrom_gap_append isGap, ← List.cons_append, columnsFrom_append,
    columnsFrom_run shown, List.length_cons]
  congr 2
  omega

/-- Lexemes begin and end at visible characters. -/
theorem Lexed.span_mem_columnsFrom
    {consumed : Nat}
    {characters : List Char}
    {lexemes : List Lexeme}
    {lexeme : Lexeme}
    (cut : Lexed consumed characters lexemes)
    (member : lexeme ∈ lexemes) :
    lexeme.start ∈ columnsFrom consumed characters ∧
      lexeme.stop ∈ columnsFrom consumed characters := by
  induction cut with
  | blank => cases member
  | @run consumed gap first others rest lexemes isGap shown joined _ _
        hypothesis =>
      have run : ∀ character ∈ first :: others, character ≠ ' ' :=
        List.forall_mem_cons.mpr ⟨shown, fun character inside =>
          ne_space_of_joins (joined character inside)⟩
      rw [columnsFrom_gap_run isGap run, List.mem_append, List.mem_append]
      rcases List.mem_cons.mp member with rfl | later
      · refine
          ⟨.inl (List.mem_range'_1.mpr ?_), .inl (List.mem_range'_1.mpr ?_)⟩
        all_goals
          dsimp only [Cursor.lexemeAt]
          omega
      · exact ⟨.inr (hypothesis later).1, .inr (hypothesis later).2⟩

/-- The lexemes of texts that are alike stand at the same visible characters. -/
theorem Lexed.exists_alike
    {consumed : Nat}
    {characters other : List Char}
    {lexemes : List Lexeme}
    (cut : Lexed consumed characters lexemes)
    (alike : AlikeBehind characters other)
    (start : Nat) :
    ∃ otherLexemes,
      Lexed start other otherLexemes ∧
        List.Forall₂
          (Placed.SpanInStep (Aligned consumed characters start other))
          lexemes otherLexemes := by
  induction cut generalizing other start with
  | blank isGap => exact ⟨[], .blank (alike.isGap isGap), .nil⟩
  | @run consumed gap first others rest lexemes isGap shown joined ends _
        hypothesis =>
      obtain ⟨otherGap, behind, rfl, otherIsGap, -, following⟩ :=
        alike.exists_visible isGap shown
      have inside : ∀ character ∈ others, character ≠ ' ' :=
        fun character member =>
        ne_space_of_joins (joined character member)
      obtain ⟨otherRest, rfl, alikeRest⟩ := following.exists_run inside
      obtain ⟨otherLexemes, otherCut, spans⟩ :=
        hypothesis alikeRest (start + otherGap.length + 1 + others.length)
      have run : ∀ character ∈ first :: others, character ≠ ' ' :=
        List.forall_mem_cons.mpr ⟨shown, inside⟩
      -- the columns of the run are aligned one by one, and those of the
      -- rest as before
      have aligned : ∀ {column otherColumn : Nat},
          Aligned consumed (gap ++ first :: (others ++ rest)) start
              (otherGap ++ first :: (others ++ otherRest)) column otherColumn ↔
            (column, otherColumn) ∈
                (List.range' (consumed + gap.length + 1)
                  (others.length + 1)).zip
                  (List.range' (start + otherGap.length + 1)
                    (others.length + 1)) ∨
              Aligned (consumed + gap.length + 1 + others.length) rest
                (start + otherGap.length + 1 + others.length) otherRest column
                otherColumn := by
        intro column otherColumn
        rw [Aligned, columnsFrom_gap_run isGap run,
          columnsFrom_gap_run otherIsGap run, List.zip_append (by simp),
          List.mem_append, Aligned]
      refine
        ⟨_, .run otherIsGap shown joined (alikeRest.endsRun ends) otherCut,
          .cons ?_ ?_⟩
      · refine ⟨⟨rfl, aligned.mpr (.inl ?_)⟩, aligned.mpr (.inl ?_)⟩
        · exact mem_zip_range' (Nat.succ_pos _) _ _
        · exact mem_zip_range' (Nat.lt_succ_self _) _ _
      · exact spans.imp fun placed moved span =>
          ⟨⟨span.item, aligned.mpr (.inr span.start)⟩,
            aligned.mpr (.inr span.stop)⟩

/--
The lexemes of texts with the same spacing are the same, at the columns moved.
-/
theorem lexemes_of_sameSpacing
    {text other : String}
    (same : SameSpacing text.toList other.toList) :
    (Cursor.ofText other).lexemes =
      (Cursor.ofText text).lexemes.map
        (.moved (moveColumn text.toList other.toList)) := by
  obtain
      ⟨gap, rest, otherGap, otherRest, split, otherSplit, isGap, otherIsGap,
        alike⟩ :=
    same.exists_alike
  have cut :
      Lexed (0 + gap.length) rest (Cursor.lexemes ⟨rest, 0 + gap.length⟩) :=
    lexed_lexemes _ _
  obtain ⟨otherLexemes, otherCut, spans⟩ :=
    cut.exists_alike alike (0 + otherGap.length)
  have moved : ∀ {column otherColumn : Nat},
      Aligned (0 + gap.length) rest (0 + otherGap.length) otherRest column
        otherColumn →
        moveColumn text.toList other.toList column = otherColumn := by
    intro column otherColumn aligned
    apply moveColumn_of_mem_zip
    rw [columns, columns, split, otherSplit, columnsFrom_gap_append isGap,
      columnsFrom_gap_append otherIsGap]
    exact aligned
  have whole := lexed_iff.mp (cut.gap_append isGap)
  have otherWhole := lexed_iff.mp (otherCut.gap_append otherIsGap)
  rw [← split] at whole
  rw [← otherSplit] at otherWhole
  rw [Cursor.ofText, Cursor.ofText, whole, otherWhole, ← List.forall₂_eq_eq_eq,
    List.forall₂_map_right_iff]
  refine spans.flip.imp fun otherLexeme lexeme span => ?_
  rw [Placed.moved, span.item, moved span.start, moved span.stop]

theorem span_mem_columns
    {text : String}
    {lexeme : Lexeme}
    (member : lexeme ∈ (Cursor.ofText text).lexemes) :
    lexeme.start ∈ columns text.toList ∧ lexeme.stop ∈ columns text.toList :=
  (lexed_lexemes 0 text.toList).span_mem_columnsFrom member

/-! ## Tokens and trees -/

/-- The same fault at another column. -/
def TokenError.moved (move : Nat → Nat) (error : TokenError) : TokenError :=
  ⟨error.fault, move error.column⟩

/-- The same fault at another column. -/
def SyntaxError.moved (move : Nat → Nat) (error : SyntaxError) : SyntaxError :=
  ⟨error.fault, move error.column⟩

theorem SyntaxError.InStep.moved_eq
    {move : Nat → Nat}
    {error other : SyntaxError}
    (related :
      error.InStep (fun column otherColumn => move column = otherColumn)
        other) :
    error.moved move = other := by
  rw [SyntaxError.moved, related.fault, related.column]

theorem Placed.token_moved (move : Nat → Nat) (lexeme : Lexeme) :
    (lexeme.moved move).token =
      (lexeme.token.map (.moved move)).mapError (.moved move) := by
  rw [Placed.token, Placed.token, Placed.moved]
  cases lexeme.item <;> rfl

theorem mapM_token_moved (move : Nat → Nat) (lexemes : List Lexeme) :
    (lexemes.map (.moved move)).mapM Placed.token =
      ((lexemes.mapM Placed.token).map (List.map (.moved move))).mapError
        (.moved move) := by
  induction lexemes with
  | nil => rfl
  | cons lexeme rest hypothesis =>
      rw [List.map_cons, List.mapM_cons, List.mapM_cons, Placed.token_moved,
        hypothesis]
      cases lexeme.token with
      | error fault => rfl
      | ok placed => cases rest.mapM Placed.token <;> rfl

/-- A text is refused at one of its visible characters or past its end. -/
theorem column_of_parse_error
    {text : String}
    {error : SyntaxError}
    (refused : parse text = .error error) :
    error.column ∈ columns text.toList ∨ error.column = text.length + 1 := by
  -- the text is read in step with itself, and only such columns are passed on
  have lexemes :
      List.Forall₂
        (Placed.InStep fun column _ =>
          column ∈ columns text.toList ∨ column = text.length + 1)
        (Cursor.ofText text).lexemes (Cursor.ofText text).lexemes :=
    List.forall₂_same.mpr fun lexeme member =>
      ⟨rfl, .inl (span_mem_columns member).1⟩
  have together := parse_inStep lexemes (.inr (endColumn_ofText text))
  rw [refused] at together
  cases together with
  | error related => exact related.column

/--
Changing the widths of spaces only moves columns.  The tokens of the two texts,
or the first bad token, are the same at the columns moved; and they are read
into the same tree, or refused with the same fault at the column moved.  All
these columns are those of visible characters, or the one past the end.
-/
theorem read_of_sameSpacing
    {text other : String}
    (same : SameSpacing text.toList other.toList) :
    let move := moveColumn text.toList other.toList
    tokens other =
        ((tokens text).map (List.map (.moved move))).mapError (.moved move) ∧
      parse other = (parse text).mapError (.moved move) ∧
      (∀ lexeme ∈ (Cursor.ofText text).lexemes,
        lexeme.start ∈ columns text.toList ∧
          lexeme.stop ∈ columns text.toList) ∧
      ∀ error,
        parse text = .error error →
        error.column ∈ columns text.toList ∨
          error.column = text.length + 1 := by
  intro move
  refine ⟨?_, ?_, fun _ => span_mem_columns, fun _ => column_of_parse_error⟩
  · rw [tokens, tokens, lexemes_of_sameSpacing same]
    exact mapM_token_moved move _
  · have lexemes :
        List.Forall₂
          (Placed.InStep fun column otherColumn => move column = otherColumn)
          (Cursor.ofText text).lexemes (Cursor.ofText other).lexemes := by
      rw [lexemes_of_sameSpacing same, List.forall₂_map_right_iff,
        List.forall₂_same]
      intro lexeme _
      exact ⟨rfl, rfl⟩
    have ends :
        move (Cursor.ofText text).endColumn =
          (Cursor.ofText other).endColumn := by
      rw [endColumn_ofText, endColumn_ofText, ← String.length_toList,
        ← String.length_toList]
      exact moveColumn_end _ _
    have together := parse_inStep lexemes ends
    generalize parse text = result at together
    generalize parse other = otherResult at together
    cases together with
    | ok sameTree => exact congrArg Except.ok sameTree.symm
    | error sameError => exact congrArg Except.error sameError.moved_eq.symm

/-- A group that ends behind an operator is refused at the same parenthesis. -/
theorem read_of_sameSpacing_group :
    SameSpacing "2 *(30 + )".toList "  2   *(30  +  ) ".toList ∧
      parse "2 *(30 + )" = .error ⟨.operatorAtEnd, 10⟩ ∧
      parse "  2   *(30  +  ) " = .error ⟨.operatorAtEnd, 16⟩ := by
  have same : SameSpacing "2 *(30 + )".toList "  2   *(30  +  ) ".toList :=
    ⟨by decide +kernel, by decide +kernel⟩
  have refused : parse "2 *(30 + )" = .error ⟨.operatorAtEnd, 10⟩ := by
    decide +kernel
  refine ⟨same, refused, ?_⟩
  rw [(read_of_sameSpacing same).2.1, refused]
  decide +kernel

end Reckoner
