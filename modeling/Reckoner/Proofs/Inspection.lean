import Reckoner.Proofs.Turns
import Reckoner.Program
import Mathlib.Data.Nat.Bits

/-!
# Formulas that are inspected

While formulas are inspected their tokens and their tree are shown on the error
output, and the journal tells of the extra reading.  Nothing else depends on it:
not what is answered, nor which lines are read, nor what is recorded.

Two sessions that differ in nothing but the inspection of formulas therefore
go on to do so, whatever they are asked for.  Whether a session inspects
formulas after some requests shows in the texts that were new inputs: it has
been switched by each that is the command to switch.  `serve_switched` is
the main theorem.
-/

namespace Reckoner

section Worlds

variable {World : Type}

/-- The second session is the first with the inspection of formulas switched. -/
def Switched (session other : Session World) : Prop :=
  other = { session with inspecting := !session.inspecting }

/-- The same text stands on the output. -/
def SameOutput (told other : Transcript) : Prop :=
  told.textOn .output = other.textOn .output

theorem SameOutput.append
    {first other second otherSecond : Transcript}
    (sameFirst : SameOutput first other)
    (sameSecond : SameOutput second otherSecond) :
    SameOutput (first ++ second) (other ++ otherSecond) := by
  rw [SameOutput, Transcript.textOn_append, Transcript.textOn_append, sameFirst,
    sameSecond]

/-! ## Nothing of an evaluation stands on the output -/

theorem output_evaluationTranscript (inspecting : Bool) (text : String) :
    (evaluationTranscript inspecting text).textOn .output = "" := by
  rw [← Transcript.textOn_shown (by decide), shown_evaluationTranscript,
    inspected]
  cases inspecting <;> rfl

theorem Sheet.output_transcript (inspecting : Bool) (lines : List Line) :
    (Sheet.transcript inspecting lines).textOn .output = "" := by
  induction lines with
  | nil => rfl
  | cons line rest hypothesis =>
      cases line with
      | error fault => rfl
      | ok text =>
          rw [Sheet.transcript, Transcript.textOn_append, hypothesis]
          split
          · rfl
          · rw [output_evaluationTranscript]
            rfl

theorem Sheet.output_transcriptAt
    [Storage World]
    (inspecting : Bool)
    (files : World)
    (path : String) :
    (Sheet.transcriptAt inspecting files path).textOn .output = "" := by
  have noted : Transcript.textOn [.note (.sourceOpened path)] .output = "" :=
    rfl
  rw [Sheet.transcriptAt, ← List.singleton_append, Transcript.textOn_append,
    noted]
  cases Storage.linesAt files path with
  | error fault => rfl
  | ok lines =>
      change "" ++ (Sheet.transcript inspecting lines).textOn .output = ""
      rw [Sheet.output_transcript]
      rfl

/-! ## Reports that differ at most in their errors -/

/-- Two reports that differ at most in what stands on the error output. -/
structure Report.SameButErrors (report other : Report World) : Prop where
  exitCode : report.exitCode = other.exitCode
  output : report.output = other.output
  files : report.files = other.files

theorem Report.sameButErrors_ofTranscript
    {told other : Transcript}
    (same : SameOutput told other)
    (exitCode : UInt8)
    (files : World) :
    (Report.ofTranscript exitCode told files).SameButErrors
      (Report.ofTranscript exitCode other files) :=
  ⟨rfl, same, rfl⟩

theorem Report.sameButErrors_ofError
    {told other : Transcript}
    (same : SameOutput told other)
    (error : RunError)
    (files : World) :
    (Report.ofError error told files).SameButErrors
      (Report.ofError error other files) :=
  ⟨rfl, same, rfl⟩

theorem sameButErrors_runSheet
    {told other : Transcript}
    (same : SameOutput told other)
    (files : World)
    (outcomes : Except RunError (List LineOutcome)) :
    (runSheet files told outcomes).SameButErrors
      (runSheet files other outcomes) := by
  cases outcomes with
  | error error => exact Report.sameButErrors_ofError same error files
  | ok lines =>
      exact Report.sameButErrors_ofTranscript (same.append rfl) _ files

theorem sameButErrors_runFormula
    (inspecting other : Bool)
    (files : World)
    (text : String) :
    (runFormula inspecting files text).SameButErrors
      (runFormula other files text) := by
  have same :
      SameOutput (evaluationTranscript inspecting text)
        (evaluationTranscript other text) := by
    rw [SameOutput, output_evaluationTranscript, output_evaluationTranscript]
  rw [runFormula, runFormula]
  cases calculate text with
  | ok value =>
      exact Report.sameButErrors_ofTranscript (same.append rfl) 0 files
  | error error =>
      exact Report.sameButErrors_ofError same (.formula error) files

/-! ## Sessions that differ in their inspection -/

variable [Storage World]

namespace Session

/-- Recording does not depend on whether formulas are inspected. -/
theorem record_inspecting_eq
    (session : Session World)
    (inspecting : Bool)
    (line : String) :
    { session with inspecting }.record line =
      ({ (session.record line).1 with inspecting },
        (session.record line).2) := by
  rcases session with ⟨_, prompting, history, files⟩
  cases history <;> rfl

theorem loadHistory_inspecting_eq
    (session : Session World)
    (inspecting : Bool) :
    { session with inspecting }.loadHistory =
      ({ session.loadHistory.1 with inspecting }, session.loadHistory.2) := by
  rcases session with ⟨_, prompting, history, files⟩
  cases history <;> rfl

end Session

theorem likeness_switched :
    Likeness (Switched : Session World → Session World → Prop) SameOutput where
  nothing := rfl
  append := SameOutput.append
  outcome _ := rfl
  interruption := rfl
  ask := by
    rintro session _ rfl phase
    rfl
  record := by
    rintro session _ rfl line
    rw [session.record_inspecting_eq (!session.inspecting) line]
    refine ⟨?_, rfl⟩
    rw [Switched, session.record_inspecting line]
  evaluation := by
    intro session other _ formula
    rw [SameOutput, output_evaluationTranscript, output_evaluationTranscript]
  perform := by
    rintro session _ rfl command
    cases command <;> exact ⟨rfl, rfl, rfl⟩

theorem Session.serve_matches
    {session other : Session World}
    (switched : Switched session other)
    (request : Request) :
    (session.serve request).Matches Switched SameOutput
      (other.serve request) := by
  cases request with
  | evaluate line input => exact likeness_switched.evaluate switched line input
  | run input =>
      subst switched
      have loaded := session.loadHistory_inspecting_eq (!session.inspecting)
      have following :
          Switched session.loadHistory.1
            { session.loadHistory.1 with
              inspecting := !session.inspecting } := by
        rw [Switched, session.loadHistory_inspecting]
      rw [Session.serve, Session.serve, Session.run, Session.run, loaded]
      exact likeness_switched.afterReply rfl
        (likeness_switched.feed following Session.lasts .ready input)

/-! ## How often the inspection is switched -/

/-- The number of texts that are the command to switch the inspection. -/
def switchCount (texts : List String) : Nat :=
  texts.countP fun text => Blank.trim text = ".debug"

theorem bodd_switchCount_append (front back : List String) :
    (switchCount (front ++ back)).bodd =
      ((switchCount front).bodd ^^ (switchCount back).bodd) := by
  rw [switchCount, List.countP_append, Nat.bodd_add]
  rfl

/-- The texts that are new inputs when a request is served. -/
def Request.entered : Request → List String
  | .evaluate line _ => [line]
  | .run input => Phase.choose Phase.entered? .ready input

namespace Session

variable (session : Session World)

theorem bodd_switchCount_singleton (text : String) :
    (switchCount [text]).bodd = Phase.ready.switches text := by
  rw [switchCount, Phase.switches, List.countP_singleton]
  by_cases switch : Blank.trim text = ".debug" <;> simp [switch]

theorem enter_inspecting (line : String) :
    (session.enter line).session.inspecting =
      (session.inspecting ^^ (switchCount [line]).bodd) := by
  rw [enter_eq, bodd_switchCount_singleton, Turn.after_session, deal_session,
    record_inspecting]

theorem take_inspecting (phase : Phase) (line : Line) :
    (session.take phase line).session.inspecting =
      (session.inspecting ^^
        (switchCount (phase.entered? line).toList).bodd) := by
  cases recorded : phase.recorded? line with
  | none =>
      have nothing : phase.entered? line = none := by
        rw [Phase.entered?, recorded, ite_self]
      rw [session.take_of_unrecorded recorded, nothing]
      simp [switchCount]
  | some text =>
      rw [session.take_of_recorded recorded, Turn.after_session, deal_session,
        record_inspecting]
      cases phase with
      | ready =>
          rw [Phase.entered?, if_pos rfl, recorded, Option.toList_some,
            bodd_switchCount_singleton]
      | _ => simp [Phase.entered?, Phase.switches, switchCount]

theorem feed_lasts_inspecting (phase : Phase) (input : List Line) :
    (session.feed lasts phase input).session.inspecting =
      (session.inspecting ^^
        (switchCount (phase.choose Phase.entered? input)).bodd) := by
  rw [feed_lasts_session]
  induction input generalizing session phase with
  | nil => simp [walk, Phase.choose, switchCount]
  | cons line rest hypothesis =>
      rw [walk_cons, hypothesis, take_inspecting, Phase.choose,
        bodd_switchCount_append, Bool.xor_assoc]

/-- The lines that go on with a formula are no new inputs. -/
theorem feed_gathers_inspecting (phase : Phase) (input : List Line) :
    (session.feed gathers phase input).session.inspecting =
      session.inspecting := by
  induction input generalizing session phase with
  | nil =>
      rw [feed]
      split <;> rfl
  | cons line rest hypothesis =>
      cases gathering : gathers phase with
      | false => rw [feed_of_stops gathering]
      | true =>
          have notReady : phase ≠ .ready := by
            rintro rfl
            cases gathering
          rw [feed_cons gathering, Reply.after_session, hypothesis,
            take_inspecting, Phase.entered?, if_neg notReady]
          simp [switchCount]

/-- Whether formulas are inspected after a request shows in its new inputs. -/
theorem serve_inspecting (request : Request) :
    (session.serve request).session.inspecting =
      (session.inspecting ^^ (switchCount request.entered).bodd) := by
  cases request with
  | evaluate line input =>
      rw [serve, evaluate, Reply.after_session, feed_gathers_inspecting,
        enter_inspecting]
      rfl
  | run input =>
      rw [serve, run, Reply.after_session, feed_lasts_inspecting,
        loadHistory_inspecting]
      rfl

theorem serveAll_inspecting (requests : List Request) :
    (session.serveAll requests).inspecting =
      (session.inspecting ^^
        (switchCount (requests.flatMap Request.entered)).bodd) := by
  induction requests generalizing session with
  | nil => simp [serveAll, switchCount]
  | cons request rest hypothesis =>
      rw [serveAll, List.foldl_cons, ← serveAll, hypothesis, serve_inspecting,
        List.flatMap_cons, bodd_switchCount_append, Bool.xor_assoc]

end Session

/-! ## The program -/

theorem sameButErrors_runSession
    {session other : Session World}
    (switched : Switched session other)
    (input : List Line) :
    (runSession session input).SameButErrors (runSession other input) := by
  have matching := Session.serve_matches switched (.run input)
  have sameFiles :
      (session.run input).session.files = (other.run input).session.files := by
    have following :
        Switched (session.run input).session (other.run input).session :=
      matching.session
    rw [following]
  have samePhase : (session.run input).phase = (other.run input).phase :=
    matching.phase
  rw [runSession, runSession, samePhase, sameFiles]
  split
  · exact Report.sameButErrors_ofError matching.told _ _
  · exact Report.sameButErrors_ofTranscript matching.told _ _

/--
Whether formulas are inspected makes no difference to a job but on
the error output.
-/
theorem sameButErrors_run
    (inspecting : Bool)
    (job : Job)
    (surroundings : Surroundings)
    (input : List UInt8)
    (files : World) :
    ((⟨inspecting, job⟩ : Plan).run surroundings input files).SameButErrors
      ((⟨!inspecting, job⟩ : Plan).run surroundings input files) := by
  cases job with
  | formula text =>
      exact sameButErrors_runFormula inspecting (!inspecting) files text
  | inputSheet =>
      apply sameButErrors_runSheet
      rw [SameOutput, Sheet.output_transcript, Sheet.output_transcript]
  | fileSheet path =>
      apply sameButErrors_runSheet
      rw [SameOutput, Sheet.output_transcriptAt, Sheet.output_transcriptAt]
  | session historyPath => exact sameButErrors_runSession rfl (linesOf input)

/--
Of two sessions that differ in whether they inspect formulas, each request is
served by both in the same phase, with the same lines left unread and the same
text on the output, and it leaves two sessions that again differ in nothing
else.  A session inspects formulas after some requests if it did before, unless
the number of their new inputs that switch the inspection is odd.

Evaluating a formula or a sheet writes nothing on the output in either case, and
a whole run of the program differs on the error output alone.
-/
theorem serve_switched (session : Session World) :
    (∀ (earlier : List Request) (request : Request),
      (((session.serveAll earlier).serve request).Matches Switched SameOutput
        (({ session with inspecting := !session.inspecting }.serveAll
          earlier).serve request)) ∧
      ((session.serveAll earlier).serve request).session.inspecting =
        (session.inspecting ^^
          (switchCount
            ((earlier ++ [request]).flatMap Request.entered)).bodd)) ∧
    (∀ inspecting text,
      (evaluationTranscript inspecting text).textOn .output = "") ∧
    (∀ inspecting source,
      (Sheet.transcript inspecting (linesOf source)).textOn .output = "") ∧
    (∀ inspecting job surroundings input (files : World),
      ((⟨inspecting, job⟩ : Plan).run surroundings input files).SameButErrors
        ((⟨!inspecting, job⟩ : Plan).run surroundings input files)) := by
  refine
    ⟨?_, output_evaluationTranscript,
      fun inspecting source => Sheet.output_transcript _ _,
      sameButErrors_run⟩
  intro earlier request
  constructor
  · have kept :
        ∀ {session other : Session World}, Switched session other →
          ∀ request,
            Switched (session.serve request).session
              (other.serve request).session :=
      fun alike request => (Session.serve_matches alike request).session
    have start :
        Switched session { session with inspecting := !session.inspecting } :=
      rfl
    exact Session.serve_matches (Session.serveAll_like kept start earlier)
      request
  · rw [Session.serve_inspecting, Session.serveAll_inspecting,
      List.flatMap_append, bodd_switchCount_append, Bool.xor_assoc,
      List.flatMap_singleton]

end Worlds

end Reckoner
