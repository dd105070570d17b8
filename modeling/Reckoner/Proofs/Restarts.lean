import Reckoner.Proofs.HistoryFile

/-!
# Sittings, one after the other

Each sitting is a session of its own that finds the files the sitting before it
left.  What links them is the file at the path of the history: while a session
lasts, the history it remembers is what is kept of all the lines recorded so
far, and the file says the same (`Session.Keeping`).  Recording one more line
keeps this, and nothing else that a session does touches the history or the
files; a new session that loads the file starts from it again.
-/

namespace Reckoner

/-! ## One session -/

namespace History

/--
The file at a path holds what is kept of some recorded lines.  If there are
none, there is no file.
-/
def KeptAt (path : String) (recorded : List String) (files : FileTree) : Prop :=
  if recorded = [] then
    files.openPath path = .error .notFound
  else
    files.contentAt path = .ok (Line.toBytes (fileText (kept recorded)))

theorem keptAt_iff_of_ne_nil
    {path : String}
    {recorded : List String}
    {files : FileTree}
    (known : recorded ≠ []) :
    KeptAt path recorded files ↔
      files.contentAt path = .ok (Line.toBytes (fileText (kept recorded))) := by
  rw [KeptAt, if_neg known]

/-- Loading what is kept at a path, be it nothing, gives what is kept. -/
theorem KeptAt.load_eq
    {path : String}
    {recorded : List String}
    {files : FileTree}
    (stored : KeptAt path recorded files)
    (keepable : ∀ line ∈ recorded, Keepable line) :
    ((atPath path).load files).1 = ⟨path, kept recorded, false⟩ := by
  by_cases nothing : recorded = []
  · subst nothing
    rw [KeptAt, if_pos rfl] at stored
    rw [load_of_openPath stored]
    rfl
  · rw [load_kept keepable ((keptAt_iff_of_ne_nil nothing).mp stored)]

/-- Recording one more line brings the file up to date. -/
theorem KeptAt.save_add
    {path line : String}
    {recorded : List String}
    {files : FileTree}
    (stored : KeptAt path recorded files)
    (writable : files.Writable path)
    (nonempty : line ≠ "") :
    ∃ written,
      ((History.mk path (kept recorded) false).add line).save files =
          (⟨path, kept (recorded ++ [line]), false⟩, written, none) ∧
        written.Writable path ∧ KeptAt path (recorded ++ [line]) written := by
  have longer : recorded ++ [line] ≠ [] := by simp
  have filled : (kept (recorded ++ [line])).isEmpty = false := by
    simpa using kept_ne_nil longer
  rw [add_kept nonempty, save]
  by_cases repeats : (kept recorded).getLast? = some line
  · have same : kept (recorded ++ [line]) = kept recorded := by
      rw [kept_append_singleton, if_pos repeats]
    have known : recorded ≠ [] := by
      rintro rfl
      cases repeats
    refine ⟨files, ?_, writable, ?_⟩
    · rw [if_pos (by simp [repeats])]
      simp [repeats]
    · rw [keptAt_iff_of_ne_nil longer, same]
      exact (keptAt_iff_of_ne_nil known).mp stored
  · obtain ⟨written, wrote, again, content⟩ :=
      writable.writeFile_eq
        (Line.toBytes (fileText (kept (recorded ++ [line]))))
    have stores :
        Storage.writeFile files path
            (Line.toBytes (fileText (kept (recorded ++ [line])))) =
          (written, none) := by
      simp only [Storage.writeFile, wrote]
    refine ⟨written, ?_, again, (keptAt_iff_of_ne_nil longer).mpr content⟩
    rw [if_neg (by simp [filled, repeats])]
    dsimp only
    rw [stores]
    rfl

end History

/-- A session whose history is up to date, in memory and in its file. -/
structure Session.Keeping
    (session : Session)
    (path : String)
    (recorded : List String) :
    Prop where
  history : session.history = some ⟨path, History.kept recorded, false⟩
  writable : session.files.Writable path
  stored : History.KeptAt path recorded session.files

namespace Session.Keeping

open History

variable
    {session : Session}
    {path : String}
    {recorded : List String}

/-- Once a line has been recorded it is in the file. -/
theorem record
    {line : String}
    (keeping : session.Keeping path recorded)
    (nonempty : line ≠ "") :
    (session.record line).1.Keeping path (recorded ++ [line]) := by
  obtain ⟨written, saved, writable, stored⟩ :=
    keeping.stored.save_add keeping.writable nonempty
  rw [Session.record_of_saved keeping.history saved]
  exact ⟨rfl, writable, stored⟩

/-- Dealing with a line leaves the history and the files alone. -/
theorem deal
    (keeping : session.Keeping path recorded)
    (phase : Phase)
    (text : String) :
    (session.deal phase text).session.Keeping path recorded := by
  rw [deal_session]
  exact ⟨keeping.history, keeping.writable, keeping.stored⟩

/-- One line of input adds what is recorded of it. -/
theorem take
    (keeping : session.Keeping path recorded)
    (phase : Phase)
    (line : Line) :
    (session.take phase line).session.Keeping path
      (recorded ++ (phase.recorded? line).toList) := by
  cases chosen : phase.recorded? line with
  | none =>
      rw [session.take_of_unrecorded chosen, Option.toList_none,
        List.append_nil]
      exact keeping
  | some text =>
      rw [session.take_of_recorded chosen, Turn.after_session,
        Option.toList_some]
      exact (keeping.record (Phase.nonempty_of_recorded chosen)).deal phase text

/-- Many lines of input add what is recorded of them. -/
theorem walk
    (keeping : session.Keeping path recorded)
    (phase : Phase)
    (lines : List Line) :
    (session.walk phase lines).1.Keeping path
      (recorded ++ phase.choose Phase.recorded? lines) := by
  induction lines generalizing session phase recorded with
  | nil =>
      rw [Phase.choose, List.append_nil]
      exact keeping
  | cons line rest hypothesis =>
      have further := hypothesis (keeping.take phase line) (phase.after line)
      rw [List.append_assoc] at further
      rw [walk_cons]
      exact further

end Session.Keeping

/-! ## Files between two sittings -/

/--
Files with which a sitting can begin: what was recorded earlier is kept in them,
and still is when the directory for the history has been made; then the history
can be written.
-/
structure History.Prepared
    (path : String)
    (recorded : List String)
    (files : FileTree) :
    Prop where
  stored : KeptAt path recorded files
  writable : (files.makeParents path).1.Writable path
  found : KeptAt path recorded (files.makeParents path).1

namespace History.Prepared

variable
    {path : String}
    {recorded : List String}
    {files : FileTree}

/-- What a session leaves is prepared for the next. -/
theorem of_keeping
    {session : Session}
    (keeping : session.Keeping path recorded) :
    Prepared path recorded session.files where
  stored := keeping.stored
  writable := by
    rw [keeping.writable.makeParents_eq]
    exact keeping.writable
  found := by
    rw [keeping.writable.makeParents_eq]
    exact keeping.stored

/-- A session that begins with prepared files is up to date. -/
theorem loadHistory
    (prepared : Prepared path recorded files)
    (keepable : ∀ line ∈ recorded, Keepable line)
    (inspecting prompting : Bool) :
    (Session.mk inspecting prompting (some (.atPath path))
      files).loadHistory.1.Keeping
      path recorded where
  history := congrArg some (prepared.found.load_eq keepable)
  writable := prepared.writable
  stored := prepared.found

end History.Prepared

/-! ## Sittings -/

/-- A session of its own: its settings, and the lines that it is given. -/
structure Sitting where
  inspecting : Bool
  prompting : Bool
  lines : List String

namespace Sitting

/-- The session that is held, its history at a path. -/
def session (sitting : Sitting) (path : String) (files : FileTree) : Session :=
  ⟨sitting.inspecting, sitting.prompting, some (.atPath path), files⟩

/-- The lines as they are read. -/
def input (sitting : Sitting) : List Line :=
  sitting.lines.map .ok

/-- The lines that are recorded. -/
def recorded (sitting : Sitting) : List String :=
  Phase.ready.choose Phase.recorded? sitting.input

/-- The files that sittings leave, each with its history at the same path. -/
def filesAfter
    (path : String)
    (files : FileTree)
    (sittings : List Sitting) :
    FileTree :=
  sittings.foldl
    (fun found sitting =>
      ((sitting.session path found).run sitting.input).session.files) files

/-- The lines that sittings record, one after the other. -/
def allRecorded (sittings : List Sitting) : List String :=
  sittings.flatMap recorded

/-- No line ends in a carriage return. -/
def Unreturned (sitting : Sitting) : Prop :=
  ∀ line ∈ sitting.lines, line.toList.getLast? ≠ some '\r'

theorem keepable_of_recorded
    {sitting : Sitting}
    {line : String}
    (unreturned : sitting.Unreturned)
    (member : line ∈ sitting.recorded) :
    History.Keepable line := by
  obtain ⟨among, nonempty⟩ := Phase.mem_choose_recorded member
  obtain ⟨given, known, same⟩ := List.mem_map.mp among
  obtain rfl := Except.ok.inj same
  exact ⟨nonempty, unreturned given known⟩

theorem keepable_of_allRecorded
    {sittings : List Sitting}
    {line : String}
    (unreturned : ∀ sitting ∈ sittings, sitting.Unreturned)
    (member : line ∈ allRecorded sittings) :
    History.Keepable line := by
  obtain ⟨sitting, known, recorded⟩ := List.mem_flatMap.mp member
  exact keepable_of_recorded (unreturned sitting known) recorded

/-- A sitting leaves its files prepared for the next, with what it recorded. -/
theorem prepared_run
    {sitting : Sitting}
    {path : String}
    {recorded : List String}
    {files : FileTree}
    (prepared : History.Prepared path recorded files)
    (keepable : ∀ line ∈ recorded, History.Keepable line) :
    History.Prepared path (recorded ++ sitting.recorded)
      ((sitting.session path files).run sitting.input).session.files := by
  have started :=
    prepared.loadHistory keepable sitting.inspecting sitting.prompting
  apply History.Prepared.of_keeping
  rw [Session.run, Reply.after_session, Session.feed_lasts_session]
  exact started.walk .ready sitting.input

/-- So do many sittings. -/
theorem prepared_filesAfter
    {path : String}
    {recorded : List String}
    {files : FileTree}
    {sittings : List Sitting}
    (prepared : History.Prepared path recorded files)
    (keepable : ∀ line ∈ recorded, History.Keepable line)
    (unreturned : ∀ sitting ∈ sittings, sitting.Unreturned) :
    History.Prepared path (recorded ++ allRecorded sittings)
      (filesAfter path files sittings) := by
  induction sittings generalizing recorded files with
  | nil =>
      rw [allRecorded, List.flatMap_nil, List.append_nil]
      exact prepared
  | cons sitting rest hypothesis =>
      have known :
          ∀ line ∈ recorded ++ sitting.recorded, History.Keepable line := by
        intro line member
        rcases List.mem_append.mp member with earlier | now
        · exact keepable line earlier
        · exact keepable_of_recorded (unreturned sitting List.mem_cons_self) now
      have further := hypothesis (prepared_run prepared keepable) known
        fun other member =>
          unreturned other (List.mem_cons_of_mem sitting member)
      rw [List.append_assoc] at further
      exact further

end Sitting

/--
A path at which no file is, but where one can be written once the directory
around it has been made.  There is none when that directory has just been made
either.
-/
structure FileTree.Vacant (files : FileTree) (path : String) : Prop where
  absent : files.openPath path = .error .notFound
  writable : (files.makeParents path).1.Writable path
  unmade : (files.makeParents path).1.openPath path = .error .notFound

theorem History.Prepared.of_vacant
    {path : String}
    {files : FileTree}
    (vacant : files.Vacant path) :
    History.Prepared path [] files :=
  ⟨vacant.absent, vacant.writable, vacant.unmade⟩

/--
The history survives restarts.  After any number of sittings the file holds what
is kept of all the lines they recorded.  The same is true at every moment of a
sitting, after any of its lines; and the next line, unless it is blank or not
read any more, is in the file before it is dealt with.
-/
theorem keptAt_filesAfter
    {path : String}
    {files : FileTree}
    {sittings : List Sitting}
    (vacant : files.Vacant path)
    (unreturned : ∀ sitting ∈ sittings, sitting.Unreturned) :
    History.KeptAt path (Sitting.allRecorded sittings)
        (Sitting.filesAfter path files sittings) ∧
      ∀ earlier sitting later front back,
        sittings = earlier ++ sitting :: later →
        sitting.input = front ++ back →
        let start :=
          sitting.session path (Sitting.filesAfter path files earlier)
        let moment := start.loadHistory.1.walk .ready front
        let recorded :=
          Sitting.allRecorded earlier ++
            Phase.ready.choose Phase.recorded? front
        (∃ told,
          (start.run sitting.input).toTurn =
            ((moment.1.feed Session.lasts moment.2 back).after told).toTurn) ∧
          History.KeptAt path recorded moment.1.files ∧
          ∀ text rest,
            back = .ok text :: rest →
            Session.lasts moment.2 = true →
            Blank.isBlank text = false →
            moment.1.take moment.2 (.ok text) =
                ((moment.1.record text).1.deal moment.2 text).after
                  (moment.1.record text).2 ∧
              History.KeptAt path (recorded ++ [text])
                (moment.1.record text).1.files := by
  have whole :=
    Sitting.prepared_filesAfter (.of_vacant vacant) (by simp) unreturned
  refine ⟨whole.stored, ?_⟩
  intro earlier sitting later front back order cut start moment recorded
  have before : ∀ other ∈ earlier, other.Unreturned := fun other member =>
    unreturned other (order ▸ List.mem_append_left _ member)
  have prepared :=
    Sitting.prepared_filesAfter (.of_vacant vacant) (by simp) before
  have keeping : moment.1.Keeping path recorded :=
    (prepared.loadHistory (fun _ => Sitting.keepable_of_allRecorded before)
      sitting.inspecting sitting.prompting).walk .ready front
  refine ⟨?_, keeping.stored, ?_⟩
  · obtain ⟨told, further⟩ :=
      start.loadHistory.1.feed_lasts_append .ready front back
    refine ⟨[.greeting] ++ start.loadHistory.2 ++ [.hint] ++ told, ?_⟩
    rw [Session.run, cut, Reply.toTurn_after, further, Reply.toTurn_after,
      Reply.toTurn_after, Turn.after_after]
  · intro text rest _ lasting shown
    have chosen : moment.2.recorded? (.ok text) = some text :=
      Phase.recorded?_eq_some_iff.mpr ⟨lasting, rfl, shown⟩
    exact ⟨moment.1.take_of_recorded chosen,
      (keeping.record (Phase.nonempty_of_recorded chosen)).stored⟩

/--
Two sittings at a path whose directory does not exist yet: a formula that goes
on over two lines, a repeated line, and a line behind the end of the session.
-/
theorem keptAt_filesAfter_two :
    let sittings : List Sitting :=
      [⟨false, false, ["1 + 2", "(3", "", "(3", "4)"]⟩,
        ⟨true, true, ["4)", " ", ".exit", "5"]⟩]
    let files := FileTree.workingAt ["tmp"]
    files.Vacant "notes/lines" ∧
      (∀ sitting ∈ sittings, sitting.Unreturned) ∧
      (Sitting.filesAfter "notes/lines" files sittings).contentAt
          "notes/lines" =
        .ok (Line.toBytes "#V2\n1 + 2\n(3\n4)\n.exit\n") := by
  intro sittings files
  have vacant : files.Vacant "notes/lines" :=
    ⟨by decide +kernel, ⟨[], _, by rfl⟩, by decide +kernel⟩
  have unreturned : ∀ sitting ∈ sittings, sitting.Unreturned := by
    simp [sittings, Sitting.Unreturned]
  have recorded :
      Sitting.allRecorded sittings =
        ["1 + 2", "(3", "(3", "4)", "4)", ".exit"] := by
    decide +kernel
  have text :
      History.fileText
          (History.kept ["1 + 2", "(3", "(3", "4)", "4)", ".exit"]) =
        "#V2\n1 + 2\n(3\n4)\n.exit\n" := by
    decide +kernel
  refine ⟨vacant, unreturned, ?_⟩
  rw [← text, ← recorded]
  exact (keptAt_filesAfter vacant unreturned).1

end Reckoner
