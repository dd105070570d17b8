import Reckoner.Proofs.Turns

/-!
# Sessions with and without a history

A history is kept beside a session and never decides what the session does.
Wherever it is to be kept, whatever stands in the files there, and whenever the
storage fails to make a directory, to read the history or to write it, a session
with a history goes on exactly as one without: a line that cannot be recorded is
dealt with like any other, and a file that cannot be read is passed over.

On the output the session with a history tells at its start where the history is
kept, and nothing else that the other does not tell; on the error output it
complains when the history cannot be written.  `serve_unrecorded` is the main
theorem.
-/

namespace Reckoner

/-! ## The path of a history -/

namespace History

theorem path_add
    (history : History)
    (line : String) :
    (history.add line).path = history.path := by
  rw [add]
  split <;> rfl

theorem path_save
    {World : Type}
    [Storage World]
    (history : History)
    (files : World) :
    (history.save files).1.path = history.path := by
  rw [save]
  split <;> rfl

theorem path_addLines
    (read : String → String)
    (history : History)
    (lines : List Line) :
    (history.addLines read lines).1.path = history.path := by
  induction lines generalizing history with
  | nil => rfl
  | cons line rest hypothesis =>
      cases line with
      | error fault => rfl
      | ok text => rw [addLines, hypothesis, path_add]

theorem path_load
    {World : Type}
    [Storage World]
    (history : History)
    (files : World) :
    (history.load files).1.path = history.path := by
  rw [load]
  cases Storage.linesAt files history.path with
  | error fault => rfl
  | ok lines =>
      change (history.addFile lines).1.path = history.path
      unfold addFile
      split
      · split <;> exact path_addLines _ _ _
      · exact path_addLines _ _ _

end History

/-! ## What is told beside the history -/

/-- Whether it is complained that the history could not be written. -/
def Notice.isComplaint : Notice → Bool
  | .historyNotSaved _ => true
  | _ => false

/--
The same is told, but that the second time there may be complaints
among the errors.
-/
structure SameButComplaints (told other : Transcript) : Prop where
  output : told.select .output = other.select .output
  errors :
    told.select .errors =
      (other.select .errors).filter fun notice => !notice.isComplaint

theorem SameButComplaints.append
    {first other second otherSecond : Transcript}
    (sameFirst : SameButComplaints first other)
    (sameSecond : SameButComplaints second otherSecond) :
    SameButComplaints (first ++ second) (other ++ otherSecond) where
  output := by
    rw [Transcript.select_append, Transcript.select_append, sameFirst.output,
      sameSecond.output]
  errors := by
    rw [Transcript.select_append, Transcript.select_append, List.filter_append,
      sameFirst.errors, sameSecond.errors]

theorem sameButComplaints_evaluation (inspecting : Bool) (text : String) :
    SameButComplaints (evaluationTranscript inspecting text)
      (evaluationTranscript inspecting text) where
  output := rfl
  errors := by
    rw [← Transcript.select_shown (by decide), shown_evaluationTranscript,
      inspected]
    cases inspecting <;> rfl

/-! ## Sessions that differ in their history -/

section Worlds

variable {World : Type}

/-- The first session keeps no history, the second keeps one at a path. -/
structure Unrecorded
    (path : String)
    (session other : Session World) :
    Prop where
  history : session.history = none
  kept : ∃ history, other.history = some history ∧ history.path = path
  inspecting : session.inspecting = other.inspecting
  prompting : session.prompting = other.prompting

namespace Unrecorded

variable
    {path : String}
    {session other : Session World}

theorem ask_eq (unrecorded : Unrecorded path session other) (phase : Phase) :
    session.ask phase = other.ask phase := by
  simp only [Session.ask, unrecorded.prompting]

variable [Storage World]

theorem record
    (unrecorded : Unrecorded path session other)
    (line : String) :
    Unrecorded path (session.record line).1 (other.record line).1 ∧
      SameButComplaints (session.record line).2 (other.record line).2 := by
  rcases unrecorded with
    ⟨noHistory, ⟨history, hasHistory, rfl⟩, inspecting, prompting⟩
  have samePath : ((history.add line).save other.files).1.path = history.path :=
    (History.path_save _ _).trans (history.path_add line)
  rw [Session.record, Session.record, noHistory, hasHistory]
  dsimp only
  constructor
  · exact ⟨noHistory, ⟨_, rfl, samePath⟩, inspecting, prompting⟩
  · cases ((history.add line).save other.files).2.2 <;> exact ⟨rfl, rfl⟩

theorem likeness :
    Likeness (Unrecorded path : Session World → Session World → Prop)
      SameButComplaints where
  nothing := ⟨rfl, rfl⟩
  append := SameButComplaints.append
  outcome := by
    intro outcome
    cases outcome <;> exact ⟨rfl, rfl⟩
  interruption := ⟨rfl, rfl⟩
  ask := by
    intro session other unrecorded phase
    rw [unrecorded.ask_eq]
    unfold Session.ask
    split <;> exact ⟨rfl, rfl⟩
  record := Unrecorded.record
  evaluation := by
    intro session other unrecorded formula
    rw [unrecorded.inspecting]
    exact sameButComplaints_evaluation _ _
  perform := by
    intro session other unrecorded command
    cases command with
    | exit => exact ⟨unrecorded, rfl, rfl, rfl⟩
    | help => exact ⟨unrecorded, rfl, rfl, rfl⟩
    | debug =>
        rw [Session.perform, Session.perform, unrecorded.inspecting]
        exact
          ⟨⟨unrecorded.history, unrecorded.kept, rfl, unrecorded.prompting⟩,
            rfl, rfl, rfl⟩

/--
Whatever is found where the history is kept, the session begins as one without.
-/
theorem loadHistory (unrecorded : Unrecorded path session other) :
    Unrecorded path session.loadHistory.1 other.loadHistory.1 := by
  rcases unrecorded with
    ⟨noHistory, ⟨history, hasHistory, rfl⟩, inspecting, prompting⟩
  rw [Session.loadHistory, Session.loadHistory, noHistory, hasHistory]
  exact
    ⟨noHistory, ⟨_, rfl, History.path_load history _⟩, inspecting, prompting⟩

/--
Of the history that is looked up only its path is told on the two channels.
-/
theorem select_loadHistory (unrecorded : Unrecorded path session other) :
    session.loadHistory.2 = [] ∧
      Transcript.select other.loadHistory.2 .output = [.historyKept path] ∧
      Transcript.select other.loadHistory.2 .errors = [] := by
  rcases unrecorded with ⟨noHistory, ⟨history, hasHistory, rfl⟩, -, -⟩
  rw [Session.loadHistory, Session.loadHistory, noHistory, hasHistory]
  dsimp only
  rw [Transcript.select_append, Transcript.select_append,
    Transcript.select_append, Transcript.select_append]
  cases (Storage.makeParents other.files history.path).2 with
  | none =>
      cases
        (history.load (Storage.makeParents other.files history.path).1).2 <;>
        exact ⟨rfl, rfl, rfl⟩
  | some fault =>
      cases
        (history.load (Storage.makeParents other.files history.path).1).2 <;>
        exact ⟨rfl, rfl, rfl⟩

end Unrecorded

/-! ## Requests -/

/--
What a session without a history and one with a history at a path tell on the
output when they serve a request.  Only a whole session tells where its history
is kept, once, behind its greeting.
-/
def Request.OutputsAgree
    (path : String)
    (told other : Transcript) :
    Request → Prop
  | .evaluate _ _ => told.select .output = other.select .output
  | .run _ =>
      ∃ rest,
        told.select .output = .greeting :: rest ∧
          other.select .output = .greeting :: .historyKept path :: rest

/--
What a session without a history and one with a history at a path
make of a request.
-/
structure Request.ServedAlike
    (path : String)
    (request : Request)
    (reply other : Reply World) :
    Prop where
  session : Unrecorded path reply.session other.session
  phase : reply.phase = other.phase
  unread : reply.unread = other.unread
  output : request.OutputsAgree path reply.transcript other.transcript
  errors :
    reply.transcript.select .errors =
      (other.transcript.select .errors).filter fun notice => !notice.isComplaint

theorem Unrecorded.serve
    [Storage World]
    {path : String}
    {session other : Session World}
    (unrecorded : Unrecorded path session other)
    (request : Request) :
    request.ServedAlike path (session.serve request) (other.serve request) := by
  cases request with
  | evaluate line input =>
      have matching := Unrecorded.likeness.evaluate unrecorded line input
      exact
        ⟨matching.session, matching.phase, matching.unread,
          matching.told.output, matching.told.errors⟩
  | run input =>
      have matching :=
        Unrecorded.likeness.feed unrecorded.loadHistory Session.lasts .ready
          input
      rcases unrecorded.select_loadHistory with ⟨nothing, output, errors⟩
      rw [Session.serve, Session.serve, Session.run, Session.run, nothing]
      generalize session.loadHistory.1.feed Session.lasts .ready input =
        reply at matching ⊢
      generalize other.loadHistory.1.feed Session.lasts .ready input =
        otherReply at matching ⊢
      refine
        ⟨matching.session, matching.phase, matching.unread,
          ⟨.hint :: otherReply.transcript.select .output, ?_, ?_⟩, ?_⟩
      · rw [Reply.after_transcript, Transcript.select_append,
          matching.told.output]
        rfl
      · simp only [Reply.after_transcript, Transcript.select_append, output]
        rfl
      · simp only [Reply.after_transcript, Transcript.select_append, errors,
          matching.told.errors]
        rfl

/--
A session that keeps a history, wherever it is kept, serves each request as a
session without one does: it ends in the same phase, leaves the same lines
unread and goes on to inspect formulas or not.  It tells the same, but where the
history is kept when a whole session begins, and for the complaints that the
history could not be written.

Nothing is assumed of the storage.  Making the directories, reading the history
and writing it may each succeed or fail whenever they are asked for, also after
they succeeded before.
-/
theorem serve_unrecorded
    [Storage World]
    (inspecting prompting : Bool)
    (path : String)
    (files otherFiles : World)
    (earlier : List Request)
    (request : Request) :
    request.ServedAlike path
        (((⟨inspecting, prompting, none, files⟩ : Session World).serveAll
          earlier).serve request)
        (((⟨inspecting, prompting, some (.atPath path), otherFiles⟩ :
          Session World).serveAll
          earlier).serve request) ∧
      (Notice.historyKept path).text =
        "REPL history will be saved to " ++ path ++ "\n" ∧
      ∀ notice : Notice, notice.isComplaint = true →
        ∃ fault : FileFault,
          notice.text =
            "WARNING: Could not save REPL history: " ++ fault.message ++
              "\n" := by
  have kept :
      ∀ {session other : Session World}, Unrecorded path session other →
        ∀ request,
          Unrecorded path (session.serve request).session
            (other.serve request).session :=
    fun unrecorded request => (unrecorded.serve request).session
  have start :
      Unrecorded path ⟨inspecting, prompting, none, files⟩
        ⟨inspecting, prompting, some (.atPath path), otherFiles⟩ :=
    ⟨rfl, ⟨.atPath path, rfl, rfl⟩, rfl, rfl⟩
  have reached := Session.serveAll_like kept start earlier
  refine ⟨reached.serve request, ?_, ?_⟩
  · simp [Notice.text, page]
  · intro notice complaint
    cases notice with
    | historyNotSaved fault => exact ⟨fault, by simp [Notice.text, page]⟩
    | _ => cases complaint

/--
Here the history can be neither read nor written, and the group is answered.
-/
example :
    let denied : FileFault := .system 13 "Permission denied"
    let files : Guarded FileTree := ⟨.workingAt [], some denied, some denied⟩
    let session : Session (Guarded FileTree) :=
      ⟨false, false, some (.atPath "history"), files⟩
    let told := (session.run [.ok "(1", .ok "+ 2)"]).transcript
    let complaint :=
      "WARNING: Could not save REPL history: Permission denied (os error 13)"
    told.textOn .errors = page [complaint, complaint] ∧
      (told.select .output).getLast?.map Notice.text = some "3\n" := by
  decide +kernel

end Worlds

end Reckoner
