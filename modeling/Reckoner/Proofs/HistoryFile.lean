import Mathlib.Data.List.Destutter
import Mathlib.Data.List.DropRight
import Reckoner.Proofs.Paths
import Reckoner.Proofs.Recording

/-!
# The history and its file

What is kept of some recorded lines is stated on the lines alone: those that
repeat the line before them are left out, and of the others the last hundred are
kept (`History.kept`).  Recording one more line leads from what was kept to what
is kept of the longer sequence.

The file of a history is read back as it was written.  Its text is split at line
feeds as bytes; no byte of a character beyond ASCII is a line feed or a carriage
return, an escaped entry holds no line feed, and it ends in a carriage return
only if the entry does.  For entries that do not, loading the file of what is
kept gives what is kept.
-/

namespace Reckoner

/-! ## Lines that repeat the line before them -/

section Repeats

variable {Value : Type} [DecidableEq Value]

theorem destutter'_append_singleton
    (first : Value)
    (rest : List Value)
    (value : Value) :
    (rest ++ [value]).destutter' (· ≠ ·) first =
      if (rest.destutter' (· ≠ ·) first).getLast? = some value then
        rest.destutter' (· ≠ ·) first
      else
        rest.destutter' (· ≠ ·) first ++ [value] := by
  induction rest generalizing first with
  | nil => by_cases same : first = value <;> simp [List.destutter', same]
  | cons second others hypothesis =>
      rw [List.cons_append]
      by_cases repeats : first = second
      · rw [List.destutter'_cons_neg _ (by simpa using repeats),
          List.destutter'_cons_neg _ (by simpa using repeats)]
        exact hypothesis first
      · rw [List.destutter'_cons_pos _ repeats,
          List.destutter'_cons_pos _ repeats, hypothesis,
          List.getLast?_cons_of_ne_nil (List.destutter'_ne_nil _ _)]
        split <;> rfl

/--
A value is left out at the end exactly if it repeats the last that was not.
-/
theorem destutter_append_singleton (values : List Value) (value : Value) :
    (values ++ [value]).destutter (· ≠ ·) =
      if (values.destutter (· ≠ ·)).getLast? = some value then
        values.destutter (· ≠ ·)
      else
        values.destutter (· ≠ ·) ++ [value] := by
  cases values with
  | nil => rfl
  | cons first rest => exact destutter'_append_singleton first rest value

end Repeats

namespace History

/-! ## What is kept -/

theorem newest_of_length_le
    {entries : List String}
    (few : entries.length ≤ capacity) :
    newest entries = entries := by
  rw [newest, Nat.sub_eq_zero_of_le few, List.drop_zero]

theorem length_newest_le
    (entries : List String) :
    (newest entries).length ≤ capacity := by
  rw [newest, List.length_drop]
  omega

theorem getLast?_newest (entries : List String) :
    (newest entries).getLast? = entries.getLast? := by
  have positive : 0 < capacity := by decide
  cases entries with
  | nil => rfl
  | cons first rest =>
      rw [newest, List.getLast?_drop, if_neg]
      rw [List.length_cons]
      omega

/-- What is too old stays too old when more is recorded. -/
theorem newest_newest_append (entries : List String) (entry : String) :
    newest (newest entries ++ [entry]) = newest (entries ++ [entry]) := by
  have positive : 0 < capacity := by decide
  rcases Nat.le_total entries.length capacity with few | many
  · rw [newest_of_length_le few]
  · have full : (newest entries).length = capacity := by
      rw [newest, List.length_drop]
      omega
    calc
      newest (newest entries ++ [entry]) =
        (newest entries ++ [entry]).drop 1 := by
        rw [newest, List.length_append, full, List.length_singleton,
          Nat.add_sub_cancel_left]
      _ = (newest entries).drop 1 ++ [entry] :=
        List.drop_append_of_le_length (by omega)
      _ = entries.drop (entries.length - capacity + 1) ++ [entry] := by
        rw [newest, List.drop_drop]
      _ = (entries ++ [entry]).drop (entries.length - capacity + 1) :=
        (List.drop_append_of_le_length (by omega)).symm
      _ = newest (entries ++ [entry]) := by
        rw [newest, List.length_append, List.length_singleton,
          Nat.sub_add_comm many]

/--
What is kept of some recorded lines: the last hundred that repeat no
line before them.
-/
def kept (recorded : List String) : List String :=
  (recorded.destutter (· ≠ ·)).rtake 100

theorem kept_eq_newest (recorded : List String) :
    kept recorded = newest (recorded.destutter (· ≠ ·)) :=
  rfl

theorem mem_of_mem_kept
    {recorded : List String}
    {line : String}
    (member : line ∈ kept recorded) :
    line ∈ recorded :=
  (List.destutter_sublist _ recorded).subset (List.mem_of_mem_drop member)

/-- What is kept has no repeats, and there is room for all of it. -/
theorem kept_kept
    (recorded : List String) :
    kept (kept recorded) = kept recorded := by
  have distinct : (kept recorded).IsChain (· ≠ ·) :=
    (List.isChain_destutter _ recorded).drop _
  rw [kept_eq_newest (kept recorded), List.destutter_of_isChain _ _ distinct]
  exact newest_of_length_le (length_newest_le _)

theorem kept_append_singleton (recorded : List String) (line : String) :
    kept (recorded ++ [line]) =
      if (kept recorded).getLast? = some line then
        kept recorded
      else
        newest (kept recorded ++ [line]) := by
  rw [kept_eq_newest, destutter_append_singleton, kept_eq_newest,
    getLast?_newest, newest_newest_append]
  split <;> rfl

theorem kept_ne_nil
    {recorded : List String}
    (some : recorded ≠ []) :
    kept recorded ≠ [] := by
  rw [ne_eq, ← List.getLast?_eq_none_iff, kept_eq_newest, getLast?_newest,
    List.getLast?_eq_none_iff,
    List.destutter_eq_nil]
  exact some

/--
Recording a line leads from what was kept to what is kept with it.  The file
misses it unless it repeats the line before it.
-/
theorem add_kept
    {line : String}
    (nonempty : line ≠ "")
    (path : String)
    (recorded : List String)
    (unsaved : Bool) :
    (History.mk path (kept recorded) unsaved).add line =
      ⟨path, kept (recorded ++ [line]),
        unsaved || decide ((kept recorded).getLast? ≠ some line)⟩ := by
  rw [kept_append_singleton]
  by_cases repeats : (kept recorded).getLast? = some line <;>
    simp [add, repeats, nonempty]

theorem foldl_add_kept
    {lines : List String}
    (nonempty : ∀ line ∈ lines, line ≠ "")
    (path : String)
    (recorded : List String)
    (unsaved : Bool) :
    ∃ changed,
      lines.foldl add ⟨path, kept recorded, unsaved⟩ =
        ⟨path, kept (recorded ++ lines), changed⟩ := by
  induction lines generalizing recorded unsaved with
  | nil => exact ⟨unsaved, by rw [List.append_nil, List.foldl_nil]⟩
  | cons line rest hypothesis =>
      rw [List.foldl_cons, add_kept (nonempty line List.mem_cons_self)]
      have further :=
        hypothesis
          (fun other member =>
            nonempty other (List.mem_cons_of_mem line member))
          (recorded ++ [line])
      rw [List.append_assoc, List.singleton_append] at further
      apply further

end History

/-! ## Bytes of a text -/

namespace Line

theorem toBytes_eq_flatMap (text : String) :
    toBytes text = text.toList.flatMap String.utf8EncodeChar := by
  have whole : text = String.ofList text.toList := by simp
  rw [toBytes, String.toUTF8]
  conv_lhs => rw [whole, String.toByteArray_ofList, List.utf8Encode]
  simp

/-- A byte of ASCII stands for its own character only. -/
theorem toNat_of_mem_utf8EncodeChar
    {character : Char}
    {byte : UInt8}
    (ascii : byte.toNat < 128)
    (member : byte ∈ String.utf8EncodeChar character) :
    character.toNat = byte.toNat := by
  have following : ∀ value, byte ≠ UInt8.ofNat (value % 64 + 128) := by
    rintro value rfl
    rw [UInt8.toNat_ofNat'] at ascii
    omega
  have leading :
      ∀ value, 192 ≤ value → value < 256 → byte ≠ UInt8.ofNat value := by
    rintro value least most rfl
    rw [UInt8.toNat_ofNat'] at ascii
    omega
  simp only [String.utf8EncodeChar] at member
  split_ifs at member with one two three
  all_goals simp only [List.mem_cons, List.not_mem_nil, or_false,
    following] at member
  · rw [member, UInt8.toNat_ofNat', Char.toNat, Nat.mod_eq_of_lt (by omega)]
  all_goals exact absurd member (leading _ (by omega) (by omega))

theorem eq_lineFeed_of_mem
    {character : Char}
    (member : lineFeed ∈ String.utf8EncodeChar character) :
    character = '\n' :=
  Char.toNat_inj.mp (toNat_of_mem_utf8EncodeChar (by decide) member)

theorem eq_carriageReturn_of_mem
    {character : Char}
    (member : carriageReturn ∈ String.utf8EncodeChar character) :
    character = '\r' :=
  Char.toNat_inj.mp (toNat_of_mem_utf8EncodeChar (by decide) member)

theorem lineFeed_notMem_toBytes
    {text : String}
    (single : '\n' ∉ text.toList) :
    lineFeed ∉ toBytes text := by
  rw [toBytes_eq_flatMap, List.mem_flatMap]
  rintro ⟨character, member, byte⟩
  rw [eq_lineFeed_of_mem byte] at member
  exact single member

theorem getLast?_toBytes_ne
    {text : String}
    (ending : text.toList.getLast? ≠ some '\r') :
    (toBytes text).getLast? ≠ some carriageReturn := by
  rw [toBytes_eq_flatMap]
  rcases List.eq_nil_or_concat' text.toList with nothing | ⟨front, last, whole⟩
  · rw [nothing]
    decide
  · rw [whole, List.getLast?_concat] at ending
    rw [whole, List.flatMap_append, List.flatMap_singleton,
      List.getLast?_append_of_ne_nil _ (String.utf8EncodeChar_ne_nil)]
    intro byte
    exact ending
      (congrArg some (eq_carriageReturn_of_mem (List.mem_of_getLast? byte)))

/-! ## Lines of a text -/

theorem splitFrom_append
    {bytes : List UInt8}
    (single : lineFeed ∉ bytes)
    (current rest : List UInt8) :
    splitFrom current (bytes ++ lineFeed :: rest) =
      (dropReturn (bytes.reverse ++ current)).reverse :: split rest := by
  induction bytes generalizing current with
  | nil => rw [List.nil_append, splitFrom, if_pos rfl]; rfl
  | cons byte others hypothesis =>
      rw [List.mem_cons, not_or] at single
      rw [List.cons_append, splitFrom, if_neg (Ne.symm single.1),
        hypothesis single.2]
      simp

theorem dropReturn_reverse
    {bytes : List UInt8}
    (ending : bytes.getLast? ≠ some carriageReturn) :
    (dropReturn bytes.reverse).reverse = bytes := by
  rw [← List.head?_reverse] at ending
  cases reversed : bytes.reverse with
  | nil => rw [List.reverse_eq_nil_iff.mp reversed]; rfl
  | cons last earlier =>
      rw [reversed, List.head?_cons, ne_eq, Option.some.injEq] at ending
      rw [dropReturn, if_neg ending, ← reversed, List.reverse_reverse]

/-- A text that stays one line when it is written with a line feed behind it. -/
structure Whole (text : String) : Prop where
  single : '\n' ∉ text.toList
  ending : text.toList.getLast? ≠ some '\r'

/-- Lines that are written with a line feed behind each are read back. -/
theorem linesOf_join
    {texts : List String}
    (whole : ∀ text ∈ texts, Whole text) :
    linesOf (toBytes (String.join (texts.map fun text => text ++ "\n"))) =
      texts.map .ok := by
  have feed : toBytes "\n" = [lineFeed] := by decide
  induction texts with
  | nil => decide
  | cons text rest hypothesis =>
      have first := whole text List.mem_cons_self
      have others :=
        hypothesis fun other member =>
          whole other (List.mem_cons_of_mem text member)
      rw [List.map_cons, String.join_cons, toBytes_append, toBytes_append, feed,
        List.append_assoc, List.singleton_append, linesOf, split,
        splitFrom_append (lineFeed_notMem_toBytes first.single),
        List.append_nil,
        dropReturn_reverse (getLast?_toBytes_ne first.ending), List.map_cons,
        ofBytes_toBytes, List.map_cons, ← others]
      rfl

end Line

namespace History

/-! ## The file -/

/-- A line whose record can be read back from a file. -/
structure Keepable (line : String) : Prop where
  nonempty : line ≠ ""
  ending : line.toList.getLast? ≠ some '\r'

/-- The text that stands for an entry in the file. -/
def encode (entry : String) : String :=
  String.ofList (escape entry.toList)

theorem decode_comp_encode : decode ∘ encode = id := by
  funext entry
  simp [decode, encode]

theorem lineFeed_notMem_escape (entry : List Char) : '\n' ∉ escape entry := by
  rw [escape, List.mem_flatMap]
  rintro ⟨character, -, member⟩
  rw [escapeCharacter] at member
  split_ifs at member with backslash feed
  · simp at member
  · simp at member
  · exact feed (List.mem_singleton.mp member).symm

theorem whole_encode
    {entry : String}
    (ending : entry.toList.getLast? ≠ some '\r') :
    Line.Whole (encode entry) where
  single := by
    rw [encode, String.toList_ofList]
    exact lineFeed_notMem_escape _
  ending := by
    rw [encode, String.toList_ofList, escape]
    rcases List.eq_nil_or_concat' entry.toList with
      nothing | ⟨front, last, whole⟩
    · rw [nothing]
      decide
    · rw [whole, List.getLast?_concat] at ending
      rw [whole, List.flatMap_append, List.flatMap_singleton, escapeCharacter]
      split_ifs <;> simp_all

/-- The lines of the file are the marker and the entries as they are written. -/
theorem linesOf_fileText
    {entries : List String}
    (endings : ∀ entry ∈ entries, entry.toList.getLast? ≠ some '\r') :
    linesOf (Line.toBytes (fileText entries)) =
      (marker :: entries.map encode).map .ok := by
  have whole : ∀ text ∈ marker :: entries.map encode, Line.Whole text := by
    intro text member
    rcases List.mem_cons.mp member with rfl | member
    · exact ⟨by decide, by decide⟩
    · obtain ⟨entry, known, rfl⟩ := List.mem_map.mp member
      exact whole_encode (endings entry known)
  exact Line.linesOf_join whole

theorem addLines_ok
    (read : String → String)
    (history : History)
    (lines : List String) :
    history.addLines read (lines.map .ok) =
      ({ (lines.map read).foldl add history with unsaved := false }, none) := by
  induction lines generalizing history with
  | nil => rfl
  | cons line rest hypothesis =>
      rw [List.map_cons, addLines, hypothesis]
      rfl

theorem load_of_openPath
    {history : History}
    {files : FileTree}
    {fault : FileFault}
    (missing : files.openPath history.path = .error fault) :
    history.load files = (history, some fault) := by
  have failed : Storage.linesAt files history.path = .error fault :=
    congrArg (Except.map Entry.lines) missing
  rw [load, failed]

theorem load_of_contentAt
    {history : History}
    {files : FileTree}
    {content : List UInt8}
    (stored : files.contentAt history.path = .ok content) :
    history.load files = history.addFile (linesOf content) := by
  have lines : Storage.linesAt files history.path = .ok (linesOf content) :=
    congrArg (Except.map Entry.lines) (FileTree.contentAt_eq_ok_iff.mp stored)
  rw [load, lines]

/-- Loading the file of what was kept gives what was kept. -/
theorem load_kept
    {files : FileTree}
    {path : String}
    {recorded : List String}
    (keepable : ∀ line ∈ recorded, Keepable line)
    (content :
      files.contentAt path = .ok (Line.toBytes (fileText (kept recorded)))) :
    (atPath path).load files = (⟨path, kept recorded, false⟩, none) := by
  have known : ∀ line ∈ kept recorded, Keepable line := fun line member =>
    keepable line (mem_of_mem_kept member)
  have lines := linesOf_fileText fun line member => (known line member).ending
  obtain ⟨changed, entries⟩ :
      ∃ changed,
        (kept recorded).foldl add (atPath path) =
          ⟨path, kept recorded, changed⟩ := by
    have added :=
      foldl_add_kept (fun line member => (known line member).nonempty) path []
        false
    rw [List.nil_append, kept_kept] at added
    exact added
  have decoded : ((kept recorded).map encode).map decode = kept recorded := by
    rw [List.map_map, decode_comp_encode, List.map_id]
  rw [load_of_contentAt content, lines, List.map_cons, addFile, if_pos rfl,
    addLines_ok, decoded, entries]

end History

end Reckoner
