import Reckoner.Proofs.Dialogue

/-!
# Turns of a session

What a session does with one line of input has two parts.  A line that is not
blank is recorded, wherever it is read, and then dealt with; a blank line and a
line that cannot be read are not recorded.  Dealing with a line changes nothing
of what a session remembers but whether it inspects formulas, and recording it
nothing but the history and the files.

Which phase comes next depends on the phase and the line alone, and so does
which lines are recorded and which are new inputs: `Phase.after`,
`Phase.recorded?` and `Phase.entered?` say this without a session.

The second half compares two sessions that are given the same lines.  A
`Likeness` is a relation of sessions, and one of what they tell, that
recording and dealing keep; by `Likeness.feed` they then hold however long
lines are taken.
-/

namespace Reckoner

/-! ## Phases -/

namespace Phase

/-- The phase after a formula has been evaluated. -/
def ofFormula (formula : String) : Phase :=
  if (calculate formula).isUnclosed then .gathering formula else .ready

/-- The phase after a line that is recorded. -/
def onward : Phase → String → Phase
  | .over ending, _ => .over ending
  | .gathering formula, text =>
      ofFormula (formula ++ " " ++ Blank.trimRight text)
  | .ready, text =>
      match Command.ofText? text with
      | some .exit => .over .finished
      | some _ => .ready
      | none => ofFormula text

/-- The phase after a line of input. -/
def after : Phase → Line → Phase
  | .over ending, _ => .over ending
  | _, .error .interrupted => .ready
  | _, .error fault => .over (.unreadable fault)
  | phase, .ok text => if Blank.isBlank text then .ready else phase.onward text

/--
What is recorded of a line of input: all of it, if it is read and not blank.
-/
def recorded? (phase : Phase) : Line → Option String
  | .ok text =>
      if Session.lasts phase && !Blank.isBlank text then some text else none
  | .error _ => none

/--
What is a new input of a line of input: all of it, where a formula may begin.
-/
def entered? (phase : Phase) (line : Line) : Option String :=
  if phase = .ready then phase.recorded? line else none

/--
What is told at a line that is not recorded.  A blank one gives up on a formula,
and so does one that is broken off.
-/
def givesUp : Phase → Line → Transcript
  | .gathering formula, .ok _ => [(calculate formula).notice]
  | .gathering formula, .error .interrupted => [(calculate formula).notice]
  | .ready, .error .interrupted => [.interruptionHint]
  | _, _ => []

/-- Whether a line that is recorded switches the inspection of formulas. -/
def switches : Phase → String → Bool
  | .ready, text => Blank.trim text = ".debug"
  | _, _ => false

/-- What is chosen of some lines of input, each in the phase that it finds. -/
def choose
    (choice : Phase → Line → Option String) :
    Phase → List Line → List String
  | _, [] => []
  | phase, line :: rest =>
      (choice phase line).toList ++ (phase.after line).choose choice rest

theorem recorded?_eq_some_iff
    {phase : Phase}
    {line : Line}
    {text : String} :
    phase.recorded? line = some text ↔
      Session.lasts phase = true ∧ line = .ok text ∧
        Blank.isBlank text = false := by
  cases line with
  | error fault => simp [recorded?]
  | ok written =>
      rw [recorded?]
      constructor
      · intro recorded
        split at recorded
        · next shown =>
            obtain rfl := Option.some.inj recorded
            rw [Bool.and_eq_true, Bool.not_eq_true'] at shown
            exact ⟨shown.1, rfl, shown.2⟩
        · cases recorded
      · rintro ⟨lasting, same, shown⟩
        obtain rfl := Except.ok.inj same
        simp [lasting, shown]

theorem recorded?_eq_none_iff
    {phase : Phase}
    {line : Line} :
    phase.recorded? line = none ↔
      Session.lasts phase = true →
        ∀ text, line = .ok text → Blank.isBlank text = true := by
  cases line with
  | error fault => simp [recorded?]
  | ok written => simp [recorded?]

theorem nonempty_of_recorded
    {phase : Phase}
    {line : Line}
    {text : String}
    (recorded : phase.recorded? line = some text) :
    text ≠ "" := by
  rintro rfl
  have shown := (recorded?_eq_some_iff.mp recorded).2.2
  rw [Blank.isBlank] at shown
  cases shown

/-- What is recorded of some lines stands among them, as it was read. -/
theorem mem_choose_recorded
    {phase : Phase}
    {lines : List Line}
    {text : String}
    (member : text ∈ phase.choose recorded? lines) :
    .ok text ∈ lines ∧ text ≠ "" := by
  induction lines generalizing phase with
  | nil => cases member
  | cons line rest hypothesis =>
      rw [choose, List.mem_append] at member
      rcases member with first | later
      · have recorded := Option.mem_toList.mp first
        refine ⟨?_, nonempty_of_recorded recorded⟩
        rw [(recorded?_eq_some_iff.mp recorded).2.1]
        exact List.mem_cons_self
      · obtain ⟨among, nonempty⟩ := hypothesis later
        exact ⟨List.mem_cons_of_mem line among, nonempty⟩

theorem after_of_recorded
    {phase : Phase}
    {line : Line}
    {text : String}
    (recorded : phase.recorded? line = some text) :
    phase.after line = phase.onward text := by
  rcases recorded?_eq_some_iff.mp recorded with ⟨lasting, rfl, shown⟩
  cases phase with
  | ready => simp [after, shown]
  | gathering formula => simp [after, shown]
  | _ => cases lasting

end Phase

/-! ## One line of input -/

section Worlds

variable {World : Type}

@[simp]
theorem Turn.after_session (turn : Turn World) (told : Transcript) :
    (turn.after told).session = turn.session :=
  rfl

@[simp]
theorem Turn.after_phase (turn : Turn World) (told : Transcript) :
    (turn.after told).phase = turn.phase :=
  rfl

@[simp]
theorem Reply.after_session (reply : Reply World) (told : Transcript) :
    (reply.after told).session = reply.session :=
  rfl

@[simp]
theorem Reply.after_transcript (reply : Reply World) (told : Transcript) :
    (reply.after told).transcript = told ++ reply.transcript :=
  rfl

theorem Reply.toTurn_after (reply : Reply World) (told : Transcript) :
    (reply.after told).toTurn = reply.toTurn.after told :=
  rfl

theorem Turn.after_after (turn : Turn World) (told earlier : Transcript) :
    (turn.after told).after earlier = turn.after (earlier ++ told) := by
  rw [Turn.after, Turn.after, Turn.after, List.append_assoc]

theorem ofText?_eq_debug_iff {line : String} :
    Command.ofText? line = some .debug ↔ Blank.trim line = ".debug" := by
  constructor
  · intro given
    simp only [Command.ofText?] at given
    split_ifs at given with leaves asks switch
    · cases given
    · cases given
    · exact switch
  · exact ofText?_eq_debug

theorem trim_ne_debug
    {text : String}
    (other : Command.ofText? text ≠ some .debug) :
    Blank.trim text ≠ ".debug" :=
  fun switch => other (ofText?_eq_debug_iff.mpr switch)

namespace Session

variable (session : Session World)

/-- Deal with a line that has been recorded. -/
def deal : Phase → String → Turn World
  | .over ending, _ => ⟨session, .over ending, []⟩
  | .gathering formula, text =>
      session.attempt (formula ++ " " ++ Blank.trimRight text)
  | .ready, text =>
      match Command.ofText? text with
      | some command => session.perform command
      | none => session.attempt text

@[simp]
theorem attempt_session
    (formula : String) :
    (session.attempt formula).session = session := by
  rw [attempt]
  split <;> rfl

theorem attempt_phase_eq (formula : String) :
    (session.attempt formula).phase = .ofFormula formula := by
  rw [attempt, Phase.ofFormula]
  split <;> rfl

/--
The only command that changes what a session remembers switches the inspection.
-/
theorem deal_session (phase : Phase) (text : String) :
    (session.deal phase text).session =
      { session with
        inspecting := session.inspecting ^^ phase.switches text } := by
  cases phase with
  | ready =>
      rw [deal, Phase.switches]
      cases given : Command.ofText? text with
      | none =>
          have other := trim_ne_debug (given.trans_ne (by simp))
          simp [attempt_session, other]
      | some command =>
          cases command with
          | debug =>
              have switch : Blank.trim text = ".debug" :=
                ofText?_eq_debug_iff.mp given
              simp [perform, switch]
          | exit | help =>
              have other := trim_ne_debug (given.trans_ne (by simp))
              simp [perform, other]
  | gathering formula => simp [deal, attempt_session, Phase.switches]
  | _ => simp [deal, Phase.switches]

theorem deal_phase (phase : Phase) (text : String) :
    (session.deal phase text).phase = phase.onward text := by
  cases phase with
  | ready =>
      rw [deal, Phase.onward]
      cases Command.ofText? text with
      | none => exact session.attempt_phase_eq text
      | some command => cases command <;> rfl
  | gathering formula => exact session.attempt_phase_eq _
  | _ => rfl

variable [Storage World]

theorem enter_eq (line : String) :
    session.enter line =
      ((session.record line).1.deal .ready line).after
        (session.record line).2 := by
  rw [enter, deal]
  cases Command.ofText? line <;> rfl

/-- A line that is recorded is recorded before it is dealt with. -/
theorem take_of_recorded
    {phase : Phase}
    {line : Line}
    {text : String}
    (recorded : phase.recorded? line = some text) :
    session.take phase line =
      ((session.record text).1.deal phase text).after
        (session.record text).2 := by
  rcases Phase.recorded?_eq_some_iff.mp recorded with ⟨lasting, rfl, shown⟩
  cases phase with
  | ready => rw [take, if_neg (by simp [shown]), enter_eq]
  | gathering formula => rw [take, extend, if_neg (by simp [shown]), deal]
  | _ => cases lasting

/-- A line that is not recorded leaves a session as it is. -/
theorem take_of_unrecorded
    {phase : Phase}
    {line : Line}
    (unrecorded : phase.recorded? line = none) :
    session.take phase line =
      ⟨session, phase.after line, phase.givesUp line⟩ := by
  have blank := Phase.recorded?_eq_none_iff.mp unrecorded
  cases phase with
  | ready =>
      cases line with
      | error fault => cases fault <;> rfl
      | ok text => simp [take, Phase.after, Phase.givesUp, blank rfl text rfl]
  | gathering formula =>
      cases line with
      | error fault => cases fault <;> rfl
      | ok text =>
          simp [take, extend, Phase.after, Phase.givesUp, blank rfl text rfl]
  | _ => rfl

/-- Which phase comes next depends on the phase and the line alone. -/
theorem take_phase_eq (phase : Phase) (line : Line) :
    (session.take phase line).phase = phase.after line := by
  cases recorded : phase.recorded? line with
  | none => rw [session.take_of_unrecorded recorded]
  | some text =>
      rw [session.take_of_recorded recorded, Phase.after_of_recorded recorded,
        Turn.after_phase, deal_phase]

/-! ## Recording -/

/-- Recording a line changes nothing but the history and the files. -/
theorem record_eq (line : String) :
    ∃ history files,
      (session.record line).1 = { session with history, files } := by
  rw [record]
  split
  · exact ⟨session.history, session.files, rfl⟩
  · exact ⟨_, _, rfl⟩

theorem record_of_saved
    {session : Session World}
    {history saved : History}
    {line : String}
    {files : World}
    (known : session.history = some history)
    (wrote : (history.add line).save session.files = (saved, files, none)) :
    session.record line =
      ({ session with history := some saved, files }, []) := by
  simp only [record, known, wrote, Option.map_none, Option.toList_none]

@[simp]
theorem record_inspecting (line : String) :
    (session.record line).1.inspecting = session.inspecting := by
  rcases session.record_eq line with ⟨history, files, recorded⟩
  rw [recorded]

@[simp]
theorem loadHistory_inspecting :
    session.loadHistory.1.inspecting = session.inspecting := by
  rw [loadHistory]
  split <;> rfl

/-! ## Many lines of input -/

/-- What a session remembers after some lines, and the phase it has come to. -/
def walk
    (session : Session World)
    (phase : Phase)
    (lines : List Line) :
    Session World × Phase :=
  lines.foldl
    (fun reached line =>
      ((reached.1.take reached.2 line).session,
        (reached.1.take reached.2 line).phase))
    (session, phase)

theorem walk_cons (phase : Phase) (line : Line) (rest : List Line) :
    session.walk phase (line :: rest) =
      (session.take phase line).session.walk (phase.after line) rest := by
  rw [walk, List.foldl_cons, take_phase_eq]
  rfl

/-- A session that is over reads nothing more. -/
theorem walk_over (ending : Ending) (lines : List Line) :
    session.walk (.over ending) lines = (session, .over ending) := by
  induction lines with
  | nil => rfl
  | cons line rest hypothesis =>
      rw [walk_cons]
      exact hypothesis

/--
What a session remembers in the end is what it remembers after its last line.
-/
theorem feed_lasts_session (phase : Phase) (input : List Line) :
    (session.feed lasts phase input).session =
      (session.walk phase input).1 := by
  induction input generalizing session phase with
  | nil =>
      rw [feed]
      split <;> rfl
  | cons line rest hypothesis =>
      cases going : lasts phase with
      | true =>
          rw [feed_cons going, Reply.after_session, hypothesis, walk_cons,
            take_phase_eq]
      | false =>
          rw [feed_of_stops going]
          cases phase with
          | ready | gathering => cases going
          | _ => rw [walk_over]

/-- Lines are taken one after the other, wherever the input is cut. -/
theorem feed_lasts_append (phase : Phase) (front back : List Line) :
    ∃ told,
      (session.feed lasts phase (front ++ back)).toTurn =
        (((session.walk phase front).1.feed lasts (session.walk phase front).2
          back).after
          told).toTurn := by
  induction front generalizing session phase with
  | nil => exact ⟨[], rfl⟩
  | cons line rest hypothesis =>
      cases going : lasts phase with
      | true =>
          obtain ⟨told, further⟩ :=
            hypothesis (session.take phase line).session (phase.after line)
          refine
            ⟨(session.ask phase ++ (session.take phase line).transcript) ++
              told, ?_⟩
          rw [List.cons_append, feed_cons going, walk_cons, take_phase_eq,
            Reply.toTurn_after, further, Reply.toTurn_after, Reply.toTurn_after,
            Turn.after_after]
      | false =>
          cases phase with
          | ready | gathering => cases going
          | _ =>
              refine ⟨[], ?_⟩
              rw [walk_over, feed_of_stops going, feed_of_stops going]
              rfl

end Session

/-! ## Two sessions -/

/-- Two turns after which the phase is the same, and the rest related. -/
structure Turn.Matches
    (Like : Session World → Session World → Prop)
    (Told : Transcript → Transcript → Prop)
    (turn other : Turn World) :
    Prop where
  session : Like turn.session other.session
  phase : turn.phase = other.phase
  told : Told turn.transcript other.transcript

/-- Two replies that match and leave the same lines unread. -/
structure Reply.Matches
    (Like : Session World → Session World → Prop)
    (Told : Transcript → Transcript → Prop)
    (reply other : Reply World) :
    Prop extends Turn.Matches Like Told reply.toTurn other.toTurn where
  unread : reply.unread = other.unread

/--
A relation of sessions, and one of what they tell, that are kept by recording a
line and by dealing with it.
-/
structure Likeness
    [Storage World]
    (Like : Session World → Session World → Prop)
    (Told : Transcript → Transcript → Prop) :
    Prop where
  nothing : Told [] []
  append : ∀ {first other second otherSecond},
    Told first other → Told second otherSecond →
      Told (first ++ second) (other ++ otherSecond)
  outcome : ∀ outcome : Outcome, Told [outcome.notice] [outcome.notice]
  interruption : Told [.interruptionHint] [.interruptionHint]
  ask : ∀ {session other}, Like session other →
    ∀ phase, Told (session.ask phase) (other.ask phase)
  record : ∀ {session other}, Like session other →
    ∀ line, Like (session.record line).1 (other.record line).1 ∧
      Told (session.record line).2 (other.record line).2
  evaluation : ∀ {session other}, Like session other →
    ∀ formula, Told (evaluationTranscript session.inspecting formula)
      (evaluationTranscript other.inspecting formula)
  perform : ∀ {session other}, Like session other →
    ∀ command,
      (session.perform command).Matches Like Told (other.perform command)

namespace Likeness

variable
    [Storage World]
    {Like : Session World → Session World → Prop}
    {Told : Transcript → Transcript → Prop}
    {session other : Session World}

/-- Turns that match still match behind what was told before. -/
theorem afterTurn
    {turn otherTurn : Turn World}
    {told otherTold : Transcript}
    (likeness : Likeness Like Told)
    (toldFirst : Told told otherTold)
    (matching : turn.Matches Like Told otherTurn) :
    (turn.after told).Matches Like Told (otherTurn.after otherTold) :=
  ⟨matching.session, matching.phase, likeness.append toldFirst matching.told⟩

/-- Replies that match still match behind what was told before. -/
theorem afterReply
    {reply otherReply : Reply World}
    {told otherTold : Transcript}
    (likeness : Likeness Like Told)
    (toldFirst : Told told otherTold)
    (matching : reply.Matches Like Told otherReply) :
    (reply.after told).Matches Like Told (otherReply.after otherTold) :=
  ⟨⟨matching.session, matching.phase, likeness.append toldFirst matching.told⟩,
    matching.unread⟩

theorem attempt
    (likeness : Likeness Like Told)
    (alike : Like session other)
    (formula : String) :
    (session.attempt formula).Matches Like Told (other.attempt formula) where
  session := by
    rw [Session.attempt_session, Session.attempt_session]
    exact alike
  phase := by rw [Session.attempt_phase_eq, Session.attempt_phase_eq]
  told := by
    rw [Session.attempt, Session.attempt]
    split
    · exact likeness.evaluation alike formula
    · exact likeness.append (likeness.evaluation alike formula)
        (likeness.outcome _)

theorem deal
    (likeness : Likeness Like Told)
    (alike : Like session other)
    (phase : Phase)
    (text : String) :
    (session.deal phase text).Matches Like Told (other.deal phase text) := by
  cases phase with
  | ready =>
      rw [Session.deal, Session.deal]
      cases Command.ofText? text with
      | none => exact likeness.attempt alike text
      | some command => exact likeness.perform alike command
  | gathering formula => exact likeness.attempt alike _
  | _ => exact ⟨alike, rfl, likeness.nothing⟩

theorem recordAndDeal
    (likeness : Likeness Like Told)
    (alike : Like session other)
    (phase : Phase)
    (text : String) :
    (((session.record text).1.deal phase text).after
      (session.record text).2).Matches Like Told
      (((other.record text).1.deal phase text).after
        (other.record text).2) := by
  rcases likeness.record alike text with ⟨recorded, toldFirst⟩
  exact likeness.afterTurn toldFirst (likeness.deal recorded phase text)

theorem take
    (likeness : Likeness Like Told)
    (alike : Like session other)
    (phase : Phase)
    (line : Line) :
    (session.take phase line).Matches Like Told (other.take phase line) := by
  cases recorded : phase.recorded? line with
  | some text =>
      rw [session.take_of_recorded recorded, other.take_of_recorded recorded]
      exact likeness.recordAndDeal alike phase text
  | none =>
      rw [session.take_of_unrecorded recorded,
        other.take_of_unrecorded recorded]
      refine ⟨alike, rfl, ?_⟩
      change Told (phase.givesUp line) (phase.givesUp line)
      unfold Phase.givesUp
      split
      · exact likeness.outcome _
      · exact likeness.outcome _
      · exact likeness.interruption
      · exact likeness.nothing

/-- However long lines are taken, two sessions that are alike stay alike. -/
theorem feed
    (likeness : Likeness Like Told)
    (alike : Like session other)
    (goesOn : Phase → Bool)
    (phase : Phase)
    (input : List Line) :
    (session.feed goesOn phase input).Matches Like Told
      (other.feed goesOn phase input) := by
  induction input generalizing session other phase with
  | nil =>
      cases goes : goesOn phase with
      | true =>
          rw [Session.feed_nil goes, Session.feed_nil goes]
          exact ⟨⟨alike, rfl, likeness.ask alike phase⟩, rfl⟩
      | false =>
          rw [Session.feed_of_stops goes, Session.feed_of_stops goes]
          exact ⟨⟨alike, rfl, likeness.nothing⟩, rfl⟩
  | cons line rest hypothesis =>
      cases goes : goesOn phase with
      | true =>
          have taken := likeness.take alike phase line
          have following :=
            hypothesis taken.session (other.take phase line).phase
          rw [Session.feed_cons goes, Session.feed_cons goes, taken.phase]
          apply likeness.afterReply _ following
          exact likeness.append (likeness.ask alike phase) taken.told
      | false =>
          rw [Session.feed_of_stops goes, Session.feed_of_stops goes]
          exact ⟨⟨alike, rfl, likeness.nothing⟩, rfl⟩

theorem evaluate
    (likeness : Likeness Like Told)
    (alike : Like session other)
    (line : String)
    (input : List Line) :
    (session.evaluate line input).Matches Like Told
      (other.evaluate line input) := by
  have entered := likeness.recordAndDeal alike .ready line
  rw [← Session.enter_eq, ← Session.enter_eq] at entered
  have following :=
    likeness.feed entered.session Session.gathers (other.enter line).phase input
  rw [Session.evaluate, Session.evaluate, entered.phase]
  exact likeness.afterReply entered.told following

end Likeness

/-! ## Requests -/

/-- What a session may be asked for, with the input that it then finds. -/
inductive Request where
  | evaluate (line : String) (input : List Line)
  | run (input : List Line)

namespace Session

variable [Storage World]

/-- What comes of a request. -/
def serve (session : Session World) : Request → Reply World
  | .evaluate line input => session.evaluate line input
  | .run input => session.run input

/-- What a session remembers after some requests. -/
def serveAll
    (session : Session World)
    (requests : List Request) :
    Session World :=
  requests.foldl (fun reached request => (reached.serve request).session)
    session

/-- A relation of sessions that every request keeps is kept by many. -/
theorem serveAll_like
    {Like : Session World → Session World → Prop}
    {session other : Session World}
    (kept : ∀ {session other}, Like session other →
      ∀ request,
        Like (session.serve request).session (other.serve request).session)
    (alike : Like session other)
    (requests : List Request) :
    Like (session.serveAll requests) (other.serveAll requests) :=
  List.foldl_rel alike fun request _ _ _ reached => kept reached request

end Session

end Worlds

end Reckoner
