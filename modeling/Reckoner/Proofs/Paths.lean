import Mathlib.Data.List.Basic
import Reckoner.FileTree
import Reckoner.Proofs.Sequencing

/-!
# Where a path leads

Following a path passes through directories only.  `FileTree.Passage` says that
some parts lead from one directory to another, whatever failed elsewhere; parts
that stay where they are can be left out of it, and replacing what is not a
directory leaves every passage open.

A path at which a file can be written leads through such a passage to one name
in a directory.  Hence a file that has been written is found at its path, can be
written again, and the directories around it are there already.
-/

namespace Reckoner

/-! ## Names of a path -/

theorem pathParts_ne_nil (path : String) : pathParts path ≠ [] := by
  rw [pathParts, ne_eq, List.map_eq_nil_iff]
  exact List.splitOn_ne_nil _ _

theorem pathParts_empty : pathParts "" = [""] := by
  decide

/-- The names of a path that does not end in a slash. -/
theorem pathNames_eq
    {path name : String}
    (named : (pathParts path).getLast? = some name)
    (proper : name ≠ "") :
    pathNames path =
      ((pathParts path).dropLast.filter fun part => part ≠ "") ++ [name] := by
  have parts : (pathParts path).dropLast ++ [name] = pathParts path :=
    List.dropLast_append_getLast? name named
  rw [pathNames]
  conv_lhs => rw [← parts, List.filter_append]
  simp [proper]

/-- The names of the directory around a path that does not end in a dot. -/
theorem parentNames?_eq
    {path name : String}
    {names : List String}
    (known : pathNames path = names ++ [name])
    (proper : name ≠ ".") :
    parentNames? path =
      some (names.take 1 ++ (names.drop 1).filter fun part => part ≠ ".") := by
  rw [parentNames?, known]
  cases names with
  | nil => rfl
  | cons first others =>
      simp [List.filter_append, proper, List.dropLast_cons_of_ne_nil]

namespace FileTree

variable {tree : FileTree}

/-! ## Entries -/

theorem lookup_set_self
    {place : Place}
    {entry : Entry}
    (inner : place ≠ []) :
    (tree.set place entry).entryAt? place = some entry := by
  rw [entryAt?, if_neg inner, set, List.lookup_cons_self]

theorem lookup_set_of_ne
    {place other : Place}
    {entry : Entry}
    (apart : other ≠ place) :
    (tree.set place entry).entryAt? other = tree.entryAt? other := by
  have missed : (other == place) = false := by simpa using apart
  have kept :
      (tree.entries.filter fun known => known.1 ≠ place).lookup other =
        tree.entries.lookup other := by
    induction tree.entries with
    | nil => rfl
    | cons known rest hypothesis =>
        rw [List.filter_cons]
        split
        · rw [List.lookup_cons, List.lookup_cons, hypothesis]
        · next dropped =>
            have same : known.1 = place := by simpa using dropped
            rw [hypothesis, List.lookup_cons, same, missed]
  rw [entryAt?, entryAt?, set, List.lookup_cons, missed, kept]

theorem pass_eq_ok_iff {place : Place} :
    tree.pass place = .ok () ↔ tree.entryAt? place = some .directory := by
  rw [pass]
  split <;> simp_all

/-! ## Passages -/

theorem descend_empty (place : Place) : descend place "" = place := by
  rw [descend, if_pos (by decide)]

theorem descend_dot (place : Place) : descend place "." = place := by
  rw [descend, if_pos (by decide)]

theorem descend_name
    {name : String}
    (proper : name ≠ "" ∧ name ≠ "." ∧ name ≠ "..")
    (place : Place) :
    descend place name = place ++ [name] := by
  rw [descend, if_neg (by simpa using ⟨proper.1, proper.2.1⟩),
    if_neg proper.2.2]

/-- Parts that lead from one directory to another, through directories. -/
inductive Passage (tree : FileTree) : Place → List String → Place → Prop where
  | here {place : Place} :
      tree.entryAt? place = some .directory →
      Passage tree place [] place
  | onward {place found : Place} {part : String} {rest : List String} :
      tree.entryAt? place = some .directory →
      Passage tree (descend place part) rest found →
      Passage tree place (part :: rest) found

namespace Passage

variable
    {place between found spot : Place}
    {parts rest : List String}

theorem start (passage : tree.Passage place parts found) :
    tree.entryAt? place = some .directory := by
  cases passage with
  | here directory => exact directory
  | onward directory => exact directory

theorem finish (passage : tree.Passage place parts found) :
    tree.entryAt? found = some .directory := by
  induction passage with
  | here directory => exact directory
  | onward _ _ hypothesis => exact hypothesis

theorem follow_eq (passage : tree.Passage place parts found) :
    tree.follow place parts = .ok found := by
  induction passage with
  | here => rfl
  | onward directory _ hypothesis =>
      rw [follow, pass_eq_ok_iff.mpr directory]
      exact hypothesis

/-- One more part leads on from the end of a passage. -/
theorem follow_append
    (passage : tree.Passage place parts found)
    (part : String) :
    tree.follow place (parts ++ [part]) = .ok (descend found part) := by
  induction passage with
  | here directory =>
      rw [List.nil_append, follow, pass_eq_ok_iff.mpr directory]
      rfl
  | onward directory _ hypothesis =>
      rw [List.cons_append, follow, pass_eq_ok_iff.mpr directory]
      exact hypothesis

theorem of_follow
    (followed : tree.follow place parts = .ok found)
    (passed : tree.pass found = .ok ()) :
    tree.Passage place parts found := by
  induction parts generalizing place with
  | nil =>
      obtain rfl := Except.ok.inj followed
      exact .here (pass_eq_ok_iff.mp passed)
  | cons part rest hypothesis =>
      obtain ⟨_, directory, further⟩ := bind_eq_ok_iff.mp followed
      exact .onward (pass_eq_ok_iff.mp directory) (hypothesis further)

/-- A passage is cut where its parts are. -/
theorem append_iff :
    tree.Passage place (parts ++ rest) found ↔
      ∃ between,
        tree.Passage place parts between ∧ tree.Passage between rest found := by
  induction parts generalizing place with
  | nil =>
      constructor
      · intro passage
        exact ⟨place, .here passage.start, passage⟩
      · rintro ⟨between, before, passage⟩
        cases before
        exact passage
  | cons part others hypothesis =>
      constructor
      · intro passage
        cases passage with
        | onward directory further =>
            obtain ⟨between, before, passage⟩ := hypothesis.mp further
            exact ⟨between, .onward directory before, passage⟩
      · rintro ⟨between, before, passage⟩
        cases before with
        | onward directory further =>
            exact .onward directory (hypothesis.mpr ⟨between, further, passage⟩)

/-- Parts that stay where they are can be left out. -/
theorem filter_ne_iff
    {stay : String}
    (stays : ∀ place, descend place stay = place) :
    tree.Passage place (parts.filter fun part => part ≠ stay) found ↔
      tree.Passage place parts found := by
  induction parts generalizing place with
  | nil => rfl
  | cons part rest hypothesis =>
      by_cases same : part = stay
      · rw [List.filter_cons_of_neg (by simp [same]), hypothesis, same]
        constructor
        · intro passage
          exact .onward passage.start (by rwa [stays])
        · intro passage
          cases passage with
          | onward _ further => rwa [stays] at further
      · rw [List.filter_cons_of_pos (by simp [same])]
        constructor
        · intro passage
          cases passage with
          | onward directory further =>
              exact .onward directory (hypothesis.mp further)
        · intro passage
          cases passage with
          | onward directory further =>
              exact .onward directory (hypothesis.mpr further)

/-- Replacing what is no directory leaves a passage open. -/
theorem set
    {entry : Entry}
    (passage : tree.Passage place parts found)
    (closed : tree.entryAt? spot ≠ some .directory) :
    (tree.set spot entry).Passage place parts found := by
  have kept : ∀ {other : Place}, tree.entryAt? other = some .directory →
      (tree.set spot entry).entryAt? other = some .directory := by
    intro other directory
    rw [lookup_set_of_ne, directory]
    rintro rfl
    exact closed directory
  induction passage with
  | here directory => exact .here (kept directory)
  | onward directory _ hypothesis => exact .onward (kept directory) hypothesis

end Passage

/-! ## Making directories that exist -/

theorem isDirectory_of_passage
    {base found : Place}
    {names : List String}
    (passage : tree.Passage base names found) :
    tree.isDirectory base names = true := by
  rw [isDirectory, passage.follow_eq]
  simp [passage.finish]

theorem splitLast_of_passage
    {base found : Place}
    {names : List String}
    (passage : tree.Passage base names found)
    (name : String) :
    tree.splitLast base (names ++ [name]) = .ok (found, name) := by
  rw [splitLast, List.dropLast_concat, List.getLastD_concat, passage.follow_eq]
  change (tree.pass found).bind _ = _
  rw [pass_eq_ok_iff.mpr passage.finish]
  rfl

/-- A directory that exists is not made again. -/
theorem makeDirectory_of_passage
    {base found : Place}
    {names : List String}
    {name : String}
    (named : name ≠ "")
    (passage : tree.Passage base (names ++ [name]) found) :
    tree.makeDirectory base (names ++ [name]) = .error .alreadyExists := by
  obtain ⟨place, before, last⟩ := Passage.append_iff.mp passage
  rw [makeDirectory, splitLast_of_passage before name]
  change (if name = "." || name = ".." then _ else _) = _
  by_cases dots : name = "." ∨ name = ".."
  · rw [if_pos (by simpa using dots)]
  · rw [if_neg (by simpa using dots)]
    cases last with
    | onward _ reached =>
        have there := reached.start
        rw [descend_name ⟨named, not_or.mp dots⟩] at there
        rw [there]

/-- Where a directory exists, nothing is made for it. -/
theorem makeOutward_of_passage
    {base found : Place}
    {names : List String}
    (named : ∀ name ∈ names, name ≠ "")
    (passage : tree.Passage base names found) :
    tree.makeOutward base names.reverse = (tree, none) := by
  rcases List.eq_nil_or_concat' names with rfl | ⟨around, name, rfl⟩
  · rfl
  · have made := makeDirectory_of_passage (named name (by simp)) passage
    have whole : (name :: around.reverse).reverse = around ++ [name] := by simp
    rw [List.reverse_append, List.reverse_singleton, List.singleton_append,
      makeOutward, whole, made]
    change
      (tree, if tree.isDirectory base (around ++ [name]) then none else _) = _
    rw [isDirectory_of_passage passage, if_pos rfl]

/-! ## Paths to a name in a directory -/

/-- A path that leads to a name in a directory, whatever stands there. -/
structure LeadsTo
    (tree : FileTree)
    (path : String)
    (place : Place)
    (name : String) :
    Prop where
  named : (pathParts path).getLast? = some name
  proper : name ≠ "" ∧ name ≠ "." ∧ name ≠ ".."
  passage : tree.Passage (tree.base path) (pathParts path).dropLast place

namespace LeadsTo

variable
    {path name : String}
    {place : Place}

theorem nonempty (leads : tree.LeadsTo path place name) : path ≠ "" := by
  rintro rfl
  have named := leads.named
  rw [pathParts_empty, List.getLast?_singleton, Option.some.injEq] at named
  exact leads.proper.1 named.symm

theorem names_eq (leads : tree.LeadsTo path place name) :
    pathNames path =
      ((pathParts path).dropLast.filter fun part => part ≠ "") ++ [name] :=
  pathNames_eq leads.named leads.proper.1

/-- Empty parts play no role on the way. -/
theorem names_passage (leads : tree.LeadsTo path place name) :
    tree.Passage (tree.base path)
      ((pathParts path).dropLast.filter fun part => part ≠ "") place :=
  (Passage.filter_ne_iff descend_empty).mpr leads.passage

theorem openPath_eq (leads : tree.LeadsTo path place name) :
    tree.openPath path =
      match tree.entryAt? (place ++ [name]) with
      | none => .error .notFound
      | some entry => .ok entry := by
  have parts : (pathParts path).dropLast ++ [name] = pathParts path :=
    List.dropLast_append_getLast? name leads.named
  have followed := leads.passage.follow_append name
  rw [parts, descend_name leads.proper] at followed
  rw [openPath, if_neg leads.nonempty, followed]
  rfl

/-- What is written at the name leaves the way to it open. -/
theorem set
    {entry : Entry}
    (leads : tree.LeadsTo path place name)
    (closed : tree.entryAt? (place ++ [name]) ≠ some .directory) :
    (tree.set (place ++ [name]) entry).LeadsTo path place name :=
  ⟨leads.named, leads.proper, leads.passage.set closed⟩

/-- The directories on the way are there already. -/
theorem makeParents_eq (leads : tree.LeadsTo path place name) :
    tree.makeParents path = (tree, none) := by
  let names := (pathParts path).dropLast.filter fun part => part ≠ ""
  have dotless :
      tree.Passage (tree.base path)
        (names.take 1 ++ (names.drop 1).filter fun part => part ≠ ".")
          place := by
    have passage :
        tree.Passage (tree.base path) (names.take 1 ++ names.drop 1) place := by
      rw [List.take_append_drop]
      exact leads.names_passage
    obtain ⟨between, first, others⟩ := Passage.append_iff.mp passage
    exact Passage.append_iff.mpr
      ⟨between, first, (Passage.filter_ne_iff descend_dot).mpr others⟩
  have named :
      ∀ part ∈
        names.take 1 ++ (names.drop 1).filter fun part => part ≠ ".",
          part ≠ "" := by
    intro part member
    have among : part ∈ names := by
      rcases List.mem_append.mp member with first | other
      · exact List.mem_of_mem_take first
      · exact List.mem_of_mem_drop (List.mem_filter.mp other).1
    simpa using (List.mem_filter.mp among).2
  rw [makeParents, parentNames?_eq leads.names_eq leads.proper.2.1]
  exact makeOutward_of_passage named dotless

end LeadsTo

/-! ## Reading and writing a file -/

theorem contentAt_eq_ok_iff
    {path : String}
    {content : List UInt8} :
    tree.contentAt path = .ok content ↔
      tree.openPath path = .ok (.file content) := by
  constructor
  · intro read
    obtain ⟨entry, opened, same⟩ := bind_eq_ok_iff.mp read
    cases entry with
    | directory => cases same
    | file found =>
        obtain rfl := Except.ok.inj same
        exact opened
  · intro opened
    rw [contentAt, opened]
    rfl

/--
A file can be written at a path that leads to a name that no directory has.
-/
theorem writeFile_eq_ok_iff
    {path : String}
    {content : List UInt8}
    {written : FileTree} :
    tree.writeFile path content = .ok written ↔
      ∃ place name,
        tree.LeadsTo path place name ∧
          tree.entryAt? (place ++ [name]) ≠ some .directory ∧
          tree.set (place ++ [name]) (.file content) = written := by
  constructor
  · intro wrote
    rw [writeFile] at wrote
    split at wrote
    · cases wrote
    next nonempty =>
      obtain ⟨⟨place, name⟩, looked, wrote⟩ := bind_eq_ok_iff.mp wrote
      obtain ⟨found, followed, passed⟩ := bind_eq_ok_iff.mp looked
      obtain ⟨_, directory, same⟩ := bind_eq_ok_iff.mp passed
      obtain ⟨rfl, rfl⟩ := Prod.mk.inj (Except.ok.inj same)
      have ending := List.getLast?_eq_some_getLast (pathParts_ne_nil path)
      dsimp only at wrote
      split at wrote
      · cases wrote
      next regular =>
        simp only [Bool.or_eq_true, decide_eq_true_eq, not_or] at regular
        obtain ⟨⟨slashless, dot⟩, dots⟩ := regular
        rw [ending, Option.some.injEq] at slashless
        have names := pathNames_eq ending slashless
        rw [names, List.getLastD_concat] at wrote dot dots
        rw [names, List.dropLast_concat] at followed
        have passage := Passage.of_follow followed directory
        rw [Passage.filter_ne_iff descend_empty] at passage
        refine ⟨found, _, ⟨ending, ⟨slashless, dot, dots⟩, passage⟩, ?_⟩
        split at wrote
        · cases wrote
        next vacant => exact ⟨vacant, Except.ok.inj wrote⟩
  · rintro ⟨place, name, leads, closed, rfl⟩
    have regular :
        ¬((pathParts path).getLast? = some "" || name = "." || name = "..") =
          true := by
      rw [leads.named]
      simpa [and_assoc] using leads.proper
    rw [writeFile, if_neg leads.nonempty, leads.names_eq,
      splitLast_of_passage leads.names_passage name]
    change
      (if (pathParts path).getLast? = some "" || name = "." || name = ".."
        then _ else _) = _
    rw [if_neg regular]
    split
    · next directory => exact absurd directory closed
    · rfl

/-- A path at which a file can be written, whatever its content. -/
def Writable (tree : FileTree) (path : String) : Prop :=
  ∃ content written, tree.writeFile path content = .ok written

namespace Writable

variable {path : String}

/-- What is written at a path is found there, and can be replaced. -/
theorem writeFile_eq
    (writable : tree.Writable path)
    (content : List UInt8) :
    ∃ written,
      tree.writeFile path content = .ok written ∧
        written.Writable path ∧ written.contentAt path = .ok content := by
  obtain ⟨earlier, other, wrote⟩ := writable
  obtain ⟨place, name, leads, closed, -⟩ := writeFile_eq_ok_iff.mp wrote
  have there :
      (tree.set (place ++ [name]) (.file content)).entryAt? (place ++ [name]) =
        some (.file content) :=
    lookup_set_self (by simp)
  have again :
      (tree.set (place ++ [name]) (.file content)).LeadsTo path place name :=
    leads.set closed
  refine ⟨_, writeFile_eq_ok_iff.mpr ⟨place, name, leads, closed, rfl⟩, ?_, ?_⟩
  · exact
      ⟨content, _,
        writeFile_eq_ok_iff.mpr ⟨place, name, again, by simp [there], rfl⟩⟩
  · rw [contentAt_eq_ok_iff, again.openPath_eq, there]

/-- Around a file that can be written no directory is missing. -/
theorem makeParents_eq (writable : tree.Writable path) :
    tree.makeParents path = (tree, none) := by
  obtain ⟨content, written, wrote⟩ := writable
  obtain ⟨place, name, leads, -⟩ := writeFile_eq_ok_iff.mp wrote
  exact leads.makeParents_eq

end Writable

end FileTree

end Reckoner
