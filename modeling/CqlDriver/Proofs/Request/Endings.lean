/-
How a request ends. Whatever the policies decide and in whatever order events come,
the effects that end a request and the phase it is left in tell the same story: one
answer in a resolved request, one error in a failed one, and nothing otherwise.
-/

import CqlDriver.Request.Execution

namespace CqlDriver

/-- The effects among these that end the request. -/
def endings (effects : List ExecutionEffect) : List ExecutionEffect :=
  effects.filter ExecutionEffect.isTerminal

theorem endings_append (earlier later : List ExecutionEffect) :
    endings (earlier ++ later) = endings earlier ++ endings later :=
  List.filter_append earlier later

/-- What the caller was told, for each phase of the request. -/
def Phase.Reported : Phase → List ExecutionEffect → Prop
  | .notStarted, told => told = []
  | .inFlight, told => told = []
  | .resolved, told => told = [.resolveIgnored] ∨ ∃ attempt, told = [.resolve attempt]
  | .failed, told => ∃ error, told = [.fail error]
  | .cancelled, told => told = []

theorem Phase.reported_nil {phase : Phase} (unfinished : phase.isTerminal = false) :
    phase.Reported [] := by
  cases phase with
  | notStarted => rfl
  | inFlight => rfl
  | resolved => cases unfinished
  | failed => cases unfinished
  | cancelled => cases unfinished

theorem Phase.Reported.eq_nil {phase : Phase} {told : List ExecutionEffect}
    (reported : phase.Reported told) (unfinished : phase.isTerminal = false) : told = [] := by
  cases phase with
  | notStarted => exact reported
  | inFlight => exact reported
  | resolved => cases unfinished
  | failed => cases unfinished
  | cancelled => cases unfinished

namespace Execution

theorem sendNext_keeps {execution after : Execution} {line : Nat} {effect : ExecutionEffect}
    (sent : execution.sendNext line = some (effect, after)) :
    effect.isTerminal = false ∧ after.phase = execution.phase := by
  unfold sendNext at sent
  cases planned : execution.plan with
  | nil =>
      rw [planned] at sent
      cases sent
  | cons node rest =>
      rw [planned] at sent
      cases sent
      exact ⟨rfl, rfl⟩

theorem endings_scheduleSpeculative (speculation : SpeculationPolicy) (execution : Execution) :
    endings (execution.scheduleSpeculative speculation) = [] := by
  unfold scheduleSpeculative
  split
  · rfl
  · split
    · rfl
    · rfl

theorem endings_sent {effect : ExecutionEffect} (quiet : effect.isTerminal = false)
    (speculation : SpeculationPolicy) (execution : Execution) :
    endings (effect :: execution.scheduleSpeculative speculation) = [] := by
  have later := endings_scheduleSpeculative speculation execution
  unfold endings at later ⊢
  rw [List.filter_cons_of_neg (by rw [quiet]; exact Bool.false_ne_true)]
  exact later

theorem onStart_reported (speculation : SpeculationPolicy) (execution : Execution)
    (unfinished : execution.phase.isTerminal = false) :
    (execution.onStart speculation).2.phase.Reported
      (endings (execution.onStart speculation).1) := by
  unfold onStart
  split
  · dsimp only
    split
    · exact ⟨_, rfl⟩
    · rename_i effect after sent
      obtain ⟨quiet, same⟩ := sendNext_keeps sent
      rw [endings_sent quiet, same]
      exact Phase.reported_nil rfl
  · exact Phase.reported_nil unfinished

theorem onSuccess_reported (execution : Execution) (attempt : AttemptId)
    (unfinished : execution.phase.isTerminal = false) :
    (execution.onSuccess attempt).2.phase.Reported
      (endings (execution.onSuccess attempt).1) := by
  unfold onSuccess
  split
  · exact Phase.reported_nil unfinished
  · exact Or.inr ⟨attempt, rfl⟩

theorem countMove_phase (execution : Execution) (line : Nat) (error : DriverError) :
    (execution.countMove line error).phase = execution.phase := by
  unfold countMove
  split
  · rfl
  · rfl

theorem moveOn_reported (execution : Execution) (line : Nat)
    (unfinished : execution.phase.isTerminal = false) :
    (execution.moveOn line).2.phase.Reported (endings (execution.moveOn line).1) := by
  unfold moveOn
  split
  · rename_i effect after sent
    obtain ⟨quiet, same⟩ := sendNext_keeps sent
    have silent : endings [effect] = [] := List.filter_eq_nil_iff.mpr (by
      intro other member
      rw [List.mem_singleton.mp member, quiet]
      exact Bool.false_ne_true)
    rw [silent, same]
    exact Phase.reported_nil unfinished
  · split
    · exact ⟨_, rfl⟩
    · exact Phase.reported_nil unfinished

/-- Each decision either goes on without a word or ends the request with one. -/
theorem carryOut_reported (execution : Execution) (state : Attempt) (error : DriverError)
    (decision : RetryDecision) (unfinished : execution.phase.isTerminal = false) :
    (execution.carryOut state error decision).2.phase.Reported
      (endings (execution.carryOut state error decision).1) := by
  cases decision with
  | retrySameNode => exact Phase.reported_nil unfinished
  | retryNextNode =>
      apply moveOn_reported
      rw [countMove_phase]
      exact unfinished
  | rethrow => exact ⟨_, rfl⟩
  | ignore => exact Or.inl rfl

theorem onFailure_reported (policy : RetryPolicy) (execution : Execution) (attempt : AttemptId)
    (error : DriverError) (unfinished : execution.phase.isTerminal = false) :
    (execution.onFailure policy attempt error).2.phase.Reported
      (endings (execution.onFailure policy attempt error).1) := by
  unfold onFailure
  split
  · exact Phase.reported_nil unfinished
  · exact carryOut_reported _ _ _ _ unfinished

theorem onSpeculativeTimer_reported (speculation : SpeculationPolicy) (execution : Execution)
    (unfinished : execution.phase.isTerminal = false) :
    (execution.onSpeculativeTimer speculation).2.phase.Reported
      (endings (execution.onSpeculativeTimer speculation).1) := by
  unfold onSpeculativeTimer
  split
  · exact Phase.reported_nil unfinished
  · split
    · exact Phase.reported_nil unfinished
    · rename_i effect after sent
      obtain ⟨quiet, same⟩ := sendNext_keeps sent
      dsimp only
      rw [endings_sent quiet, same]
      exact Phase.reported_nil unfinished

theorem onDeadline_reported (execution : Execution) (elapsed : Span)
    (unfinished : execution.phase.isTerminal = false) :
    (execution.onDeadline elapsed).2.phase.Reported
      (endings (execution.onDeadline elapsed).1) := by
  unfold onDeadline
  split
  · exact ⟨_, rfl⟩
  · exact Phase.reported_nil unfinished

/-- One event: the phase afterwards tells what the caller was told by it. -/
theorem handle_reported (policy : RetryPolicy) (speculation : SpeculationPolicy)
    (execution : Execution) (event : ExecutionEvent)
    (unfinished : execution.phase.isTerminal = false) :
    (execution.handle policy speculation event).2.phase.Reported
      (endings (execution.handle policy speculation event).1) := by
  unfold handle
  rw [if_neg (by rw [unfinished]; exact Bool.false_ne_true)]
  cases event with
  | start => exact onStart_reported speculation execution unfinished
  | succeeded attempt => exact onSuccess_reported execution attempt unfinished
  | failed attempt error => exact onFailure_reported policy execution attempt error unfinished
  | speculativeTimer => exact onSpeculativeTimer_reported speculation execution unfinished
  | deadlineExpired elapsed => exact onDeadline_reported execution elapsed unfinished
  | cancelled => rfl

theorem handle_of_terminal (policy : RetryPolicy) (speculation : SpeculationPolicy)
    {execution : Execution} (event : ExecutionEvent)
    (ended : execution.phase.isTerminal = true) :
    execution.handle policy speculation event = ([], execution) := by
  unfold handle
  rw [if_pos ended]

/-- Nothing follows the end of a request. -/
theorem run_of_terminal {execution : Execution} (turns : List ExecutionTurn)
    (ended : execution.phase.isTerminal = true) : execution.run turns = ([], execution) := by
  induction turns with
  | nil => rfl
  | cons turn rest ih =>
      unfold run
      rw [handle_of_terminal turn.retry turn.speculation turn.event ended]
      dsimp only
      rw [ih, List.append_nil]

/-- The invariant along a whole run: until the request ends nothing is told, and the
event that ends it is the last one that has effects. -/
theorem run_reported (turns : List ExecutionTurn) (execution : Execution)
    (unfinished : execution.phase.isTerminal = false) :
    (execution.run turns).2.phase.Reported (endings (execution.run turns).1) := by
  induction turns generalizing execution with
  | nil => exact Phase.reported_nil unfinished
  | cons turn rest ih =>
      have told := handle_reported turn.retry turn.speculation execution turn.event unfinished
      unfold run
      dsimp only
      generalize execution.handle turn.retry turn.speculation turn.event = handled at told ⊢
      cases ended : handled.2.phase.isTerminal with
      | true =>
          rw [run_of_terminal rest ended, List.append_nil]
          exact told
      | false =>
          have quiet : endings handled.1 = [] := told.eq_nil ended
          rw [endings_append, quiet, List.nil_append]
          exact ih handled.2 ended

/-- A request ends at most once. It was answered exactly when its last phase is
resolved, and it got its error exactly when the last phase is failed; a cancelled
request was told nothing. No turn after the end has an effect. -/
theorem run_ends_once (plan : QueryPlan) (idempotent speculationEnabled : Bool)
    (turns : List ExecutionTurn) :
    let start := Execution.new plan idempotent speculationEnabled
    let told := endings (start.run turns).1
    let final := (start.run turns).2
    told.length ≤ 1 ∧
      (told.length = 1 ↔ final.phase = .resolved ∨ final.phase = .failed) ∧
      (final.phase = .resolved ↔ told = [.resolveIgnored] ∨ ∃ attempt, told = [.resolve attempt]) ∧
      (final.phase = .failed ↔ ∃ error, told = [.fail error]) ∧
      (final.phase = .cancelled → told = []) ∧
      (final.phase.isTerminal = true → ∀ later, final.run later = ([], final)) := by
  intro start told final
  have reported : final.phase.Reported told := run_reported turns start rfl
  have quiet : final.phase.isTerminal = true → ∀ later, final.run later = ([], final) :=
    fun ended later => run_of_terminal later ended
  generalize final.phase = phase at reported quiet ⊢
  generalize told = told at reported ⊢
  cases phase with
  | notStarted =>
      have nothing : told = [] := reported
      subst nothing
      simpa using quiet
  | inFlight =>
      have nothing : told = [] := reported
      subst nothing
      simpa using quiet
  | resolved =>
      rcases reported with ignored | ⟨attempt, answered⟩
      · subst ignored
        simpa using quiet
      · subst answered
        simpa using quiet
  | failed =>
      obtain ⟨error, refused⟩ := reported
      subst refused
      simpa using quiet
  | cancelled =>
      have nothing : told = [] := reported
      subst nothing
      simpa using quiet

end Execution

end CqlDriver
