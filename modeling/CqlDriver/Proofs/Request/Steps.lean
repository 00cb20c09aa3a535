/-
Everything that one event can do to the execution of a request, with what must hold for it,
the effects it has and the execution it leaves.
-/

import CqlDriver.Request.Execution

namespace CqlDriver

def targets (effects : List ExecutionEffect) : List Node :=
  effects.filterMap fun
    | .send _ node => some node
    | _ => none

theorem targets_send (attempt : AttemptId) (node : Node)
    (effects : List ExecutionEffect) :
    targets (.send attempt node :: effects) = node :: targets effects := rfl

theorem targets_append (earlier later : List ExecutionEffect) :
    targets (earlier ++ later) = targets earlier ++ targets later :=
  List.filterMap_append

namespace Execution

def Idle (execution : Execution) (event : ExecutionEvent) : Prop :=
  execution.phase.isTerminal = true ∨
  match event with
  | .start => execution.phase ≠ .notStarted
  | .succeeded attempt | .failed attempt _ => execution.inFlight.find? attempt = none
  | .speculativeTimer =>
      execution.phase ≠ .inFlight ∨ execution.speculates = false ∨ execution.plan = []
  | .deadlineExpired _ => execution.phase ≠ .inFlight
  | .cancelled => False

def upcoming (execution : Execution) : AttemptId := ⟨execution.nextAttempt⟩

def advance (execution : Execution) (node : Node) (rest : QueryPlan) (line : Nat) : Execution :=
  ({ execution with plan := rest }.sendTo node line).2

def settle (execution : Execution) (attempt : AttemptId) (state : Attempt)
    (error : DriverError) : Execution :=
  { execution with
    inFlight := execution.inFlight.erase attempt
    errors := execution.errors ++ [(state.node.address, error)] }

def addLine (execution : Execution) : Execution :=
  { execution with retryCounts := execution.retryCounts ++ [0] }

def launch (execution : Execution) (node : Node) (rest : QueryPlan) : Execution :=
  { execution.addLine with phase := .inFlight }.advance node rest 0

def speculate (execution : Execution) (node : Node) (rest : QueryPlan) : Execution :=
  (execution.advance node rest execution.retryCounts.length).addLine

theorem sendNext_cons {execution : Execution} {node : Node} {rest : QueryPlan} (line : Nat)
    (planned : execution.plan = node :: rest) :
    execution.sendNext line =
      some (.send execution.upcoming node, execution.advance node rest line) := by
  unfold sendNext
  rw [planned]
  rfl

theorem sendNext_nil {execution : Execution} (line : Nat) (planned : execution.plan = []) :
    execution.sendNext line = none := by
  unfold sendNext
  rw [planned]

/-- Only the numbers of retries can change. -/
theorem countMove_eq (execution : Execution) (line : Nat) (error : DriverError) :
    ∃ retryCounts, execution.countMove line error = { execution with retryCounts } := by
  unfold countMove
  by_cases transport : error.isConnectionLevel = true
  · rw [if_pos transport]
    exact ⟨execution.retryCounts, rfl⟩
  · rw [if_neg transport]
    exact ⟨_, rfl⟩

theorem countMove_inFlight (execution : Execution) (line : Nat) (error : DriverError) :
    (execution.countMove line error).inFlight = execution.inFlight := by
  obtain ⟨retryCounts, counted⟩ := countMove_eq execution line error
  rw [counted]

theorem countMove_plan (execution : Execution) (line : Nat) (error : DriverError) :
    (execution.countMove line error).plan = execution.plan := by
  obtain ⟨retryCounts, counted⟩ := countMove_eq execution line error
  rw [counted]

theorem countMove_errors (execution : Execution) (line : Nat) (error : DriverError) :
    (execution.countMove line error).errors = execution.errors := by
  obtain ⟨retryCounts, counted⟩ := countMove_eq execution line error
  rw [counted]

theorem countMove_nextAttempt (execution : Execution) (line : Nat) (error : DriverError) :
    (execution.countMove line error).nextAttempt = execution.nextAttempt := by
  obtain ⟨retryCounts, counted⟩ := countMove_eq execution line error
  rw [counted]

/-- Another line is asked for only where lines are wanted and nodes are left. -/
theorem scheduleSpeculative_cases (speculation : SpeculationPolicy) (execution : Execution) :
    execution.scheduleSpeculative speculation = [] ∨
      execution.speculates = true ∧ execution.plan ≠ [] ∧
        ∃ delay, speculation execution.retryCounts.length = some delay ∧
          execution.scheduleSpeculative speculation = [.scheduleSpeculative delay] := by
  unfold scheduleSpeculative
  by_cases barred : (!execution.speculates || execution.plan.isEmpty) = true
  · rw [if_pos barred]
    exact Or.inl rfl
  · rw [if_neg barred]
    have wanted : execution.speculates = true ∧ execution.plan ≠ [] := by simpa using barred
    cases asked : speculation execution.retryCounts.length with
    | none => exact Or.inl rfl
    | some delay => exact Or.inr ⟨wanted.1, wanted.2, delay, rfl, rfl⟩

theorem targets_scheduleSpeculative (speculation : SpeculationPolicy) (execution : Execution) :
    targets (execution.scheduleSpeculative speculation) = [] := by
  rcases scheduleSpeculative_cases speculation execution with
    nothing | ⟨_, _, delay, _, scheduled⟩
  · rw [nothing]
    rfl
  · rw [scheduled]
    rfl

/-- What one event does. The cases of a failure stand for the four decisions; the way to the
next node depends on what is left of the plan. -/
inductive Step (policy : RetryPolicy) (speculation : SpeculationPolicy) (before : Execution) :
    ExecutionEvent → List ExecutionEffect → Execution → Prop
  | idle {event : ExecutionEvent} (unheeded : before.Idle event) :
      Step policy speculation before event [] before
  | started {node : Node} {rest : QueryPlan} (fresh : before.phase = .notStarted)
      (planned : before.plan = node :: rest) :
      Step policy speculation before .start
        (.send before.upcoming node :: (before.launch node rest).scheduleSpeculative speculation)
        (before.launch node rest)
  | unplanned (fresh : before.phase = .notStarted) (planned : before.plan = []) :
      Step policy speculation before .start [.fail (.noNodeAvailable before.errors)]
        { before.addLine with phase := .failed }
  | resolved {attempt : AttemptId} {state : Attempt}
      (unfinished : before.phase.isTerminal = false)
      (found : before.inFlight.find? attempt = some state) :
      Step policy speculation before (.succeeded attempt) [.resolve attempt]
        { before.finish .resolved with winner := some state.node }
  | sentAgain {attempt : AttemptId} {state : Attempt} {error : DriverError}
      (unfinished : before.phase.isTerminal = false)
      (found : before.inFlight.find? attempt = some state)
      (decided : before.decide policy state error = .retrySameNode) :
      Step policy speculation before (.failed attempt error) [.send before.upcoming state.node]
        (((before.settle attempt state error).countRetry state.line).sendTo
          state.node state.line).2
  | movedOn {attempt : AttemptId} {state : Attempt} {error : DriverError} {node : Node}
      {rest : QueryPlan} (unfinished : before.phase.isTerminal = false)
      (found : before.inFlight.find? attempt = some state)
      (decided : before.decide policy state error = .retryNextNode)
      (planned : before.plan = node :: rest) :
      Step policy speculation before (.failed attempt error) [.send before.upcoming node]
        (((before.settle attempt state error).countMove state.line error).advance
          node rest state.line)
  | exhausted {attempt : AttemptId} {state : Attempt} {error : DriverError}
      (unfinished : before.phase.isTerminal = false)
      (found : before.inFlight.find? attempt = some state)
      (decided : before.decide policy state error = .retryNextNode)
      (planned : before.plan = []) (last : before.inFlight.erase attempt = []) :
      Step policy speculation before (.failed attempt error)
        [.fail (.noNodeAvailable (before.settle attempt state error).errors)]
        { (before.settle attempt state error).countMove state.line error with phase := .failed }
  | lineEnded {attempt : AttemptId} {state : Attempt} {error : DriverError}
      (unfinished : before.phase.isTerminal = false)
      (found : before.inFlight.find? attempt = some state)
      (decided : before.decide policy state error = .retryNextNode)
      (planned : before.plan = []) (others : before.inFlight.erase attempt ≠ []) :
      Step policy speculation before (.failed attempt error) []
        ((before.settle attempt state error).countMove state.line error)
  | rethrown {attempt : AttemptId} {state : Attempt} {error : DriverError}
      (unfinished : before.phase.isTerminal = false)
      (found : before.inFlight.find? attempt = some state)
      (decided : before.decide policy state error = .rethrow) :
      Step policy speculation before (.failed attempt error)
        [.fail (error.withAttempts (before.settle attempt state error).errors)]
        ((before.settle attempt state error).finish .failed)
  | ignored {attempt : AttemptId} {state : Attempt} {error : DriverError}
      (unfinished : before.phase.isTerminal = false)
      (found : before.inFlight.find? attempt = some state)
      (decided : before.decide policy state error = .ignore) :
      Step policy speculation before (.failed attempt error) [.resolveIgnored]
        { (before.settle attempt state error).finish .resolved with winner := some state.node }
  | speculated {node : Node} {rest : QueryPlan} (running : before.phase = .inFlight)
      (speculates : before.speculates = true) (planned : before.plan = node :: rest) :
      Step policy speculation before .speculativeTimer
        (.send before.upcoming node ::
          (before.speculate node rest).scheduleSpeculative speculation)
        (before.speculate node rest)
  | expired {elapsed : Span} (running : before.phase = .inFlight) :
      Step policy speculation before (.deadlineExpired elapsed)
        [.fail (.requestTimeout elapsed before.errors)] (before.finish .failed)
  | cancelled (unfinished : before.phase.isTerminal = false) :
      Step policy speculation before .cancelled [] (before.finish .cancelled)

variable {execution : Execution}

theorem onStart_step (policy : RetryPolicy) (speculation : SpeculationPolicy) :
    Step policy speculation execution .start (execution.onStart speculation).1
      (execution.onStart speculation).2 := by
  unfold onStart
  cases phase : execution.phase with
  | notStarted =>
      dsimp only
      by_cases planned : execution.plan = []
      · rw [sendNext_nil]
        · exact .unplanned phase planned
        · exact planned
      · obtain ⟨node, rest, planned⟩ := List.exists_cons_of_ne_nil planned
        rw [sendNext_cons]
        · exact .started phase planned
        · exact planned
  | inFlight | resolved | failed | cancelled =>
      exact .idle (Or.inr (by rw [phase]; nofun))

theorem onSuccess_step (policy : RetryPolicy) (speculation : SpeculationPolicy)
    (attempt : AttemptId) (unfinished : execution.phase.isTerminal = false) :
    Step policy speculation execution (.succeeded attempt) (execution.onSuccess attempt).1
      (execution.onSuccess attempt).2 := by
  unfold onSuccess
  cases found : execution.inFlight.find? attempt with
  | none => exact .idle (Or.inr found)
  | some state => exact .resolved unfinished found

theorem moveOn_cons {node : Node} {rest : QueryPlan} (line : Nat)
    (planned : execution.plan = node :: rest) :
    execution.moveOn line =
      ([.send execution.upcoming node], execution.advance node rest line) := by
  unfold moveOn
  rw [sendNext_cons line planned]

theorem moveOn_nil (line : Nat) (planned : execution.plan = []) :
    execution.moveOn line =
      if execution.inFlight.isEmpty then execution.failExhausted else ([], execution) := by
  unfold moveOn
  rw [sendNext_nil line planned]

/-- The three ways on after a failure that goes to the next node. -/
theorem moveOn_step (policy : RetryPolicy) (speculation : SpeculationPolicy)
    {attempt : AttemptId} {state : Attempt} {error : DriverError}
    (unfinished : execution.phase.isTerminal = false)
    (found : execution.inFlight.find? attempt = some state)
    (decided : execution.decide policy state error = .retryNextNode) :
    Step policy speculation execution (.failed attempt error)
      (((execution.settle attempt state error).countMove state.line error).moveOn state.line).1
      (((execution.settle attempt state error).countMove state.line error).moveOn state.line).2 := by
  obtain ⟨retryCounts, counted⟩ :=
    countMove_eq (execution.settle attempt state error) state.line error
  have samePlan := congrArg Execution.plan counted
  by_cases planned : execution.plan = []
  · rw [moveOn_nil state.line (samePlan.trans planned)]
    have sameInFlight := congrArg Execution.inFlight counted
    by_cases last : execution.inFlight.erase attempt = []
    · rw [if_pos (List.isEmpty_iff.mpr (sameInFlight.trans last))]
      have recorded : (execution.settle attempt state error).errors = Execution.errors _ :=
        (congrArg Execution.errors counted).symm
      have ended : Step policy speculation execution (.failed attempt error) _ _ :=
        .exhausted unfinished found decided planned last
      rw [recorded] at ended
      exact ended
    · rw [if_neg fun empty => last (sameInFlight.symm.trans (List.isEmpty_iff.mp empty))]
      exact .lineEnded unfinished found decided planned last
  · obtain ⟨node, rest, planned⟩ := List.exists_cons_of_ne_nil planned
    have sameNumber := congrArg upcoming counted
    rw [moveOn_cons state.line (samePlan.trans planned), sameNumber]
    exact .movedOn unfinished found decided planned

theorem onFailure_step (policy : RetryPolicy) (speculation : SpeculationPolicy)
    (attempt : AttemptId) (error : DriverError)
    (unfinished : execution.phase.isTerminal = false) :
    Step policy speculation execution (.failed attempt error)
      (execution.onFailure policy attempt error).1
      (execution.onFailure policy attempt error).2 := by
  unfold onFailure
  cases found : execution.inFlight.find? attempt with
  | none => exact .idle (Or.inr found)
  | some state =>
      change Step policy speculation execution (.failed attempt error)
        ((execution.settle attempt state error).carryOut state error
          (execution.decide policy state error)).1
        ((execution.settle attempt state error).carryOut state error
          (execution.decide policy state error)).2
      cases decided : execution.decide policy state error with
      | retrySameNode => exact .sentAgain unfinished found decided
      | retryNextNode => exact moveOn_step policy speculation unfinished found decided
      | rethrow => exact .rethrown unfinished found decided
      | ignore => exact .ignored unfinished found decided

theorem onSpeculativeTimer_step (policy : RetryPolicy) (speculation : SpeculationPolicy) :
    Step policy speculation execution .speculativeTimer
      (execution.onSpeculativeTimer speculation).1
      (execution.onSpeculativeTimer speculation).2 := by
  unfold onSpeculativeTimer
  by_cases barred : execution.phase ≠ .inFlight ∨ !execution.speculates
  · rw [if_pos barred]
    refine .idle (Or.inr ?_)
    rcases barred with elsewhere | single
    · exact Or.inl elsewhere
    · exact Or.inr (Or.inl (by simpa using single))
  · rw [if_neg barred]
    obtain ⟨running, speculates⟩ := not_or.mp barred
    by_cases planned : execution.plan = []
    · rw [sendNext_nil _ planned]
      exact .idle (Or.inr (Or.inr (Or.inr planned)))
    · obtain ⟨node, rest, planned⟩ := List.exists_cons_of_ne_nil planned
      rw [sendNext_cons _ planned]
      exact .speculated (Decidable.not_not.mp running) (by simpa using speculates) planned

theorem onDeadline_step (policy : RetryPolicy) (speculation : SpeculationPolicy)
    (elapsed : Span) :
    Step policy speculation execution (.deadlineExpired elapsed)
      (execution.onDeadline elapsed).1 (execution.onDeadline elapsed).2 := by
  unfold onDeadline
  cases phase : execution.phase with
  | inFlight => exact .expired phase
  | notStarted | resolved | failed | cancelled => exact .idle (Or.inr (by rw [phase]; nofun))

theorem handle_step (policy : RetryPolicy) (speculation : SpeculationPolicy)
    (execution : Execution) (event : ExecutionEvent) :
    Step policy speculation execution event (execution.handle policy speculation event).1
      (execution.handle policy speculation event).2 := by
  unfold handle
  cases ended : execution.phase.isTerminal with
  | true => exact .idle (Or.inl ended)
  | false =>
      rw [if_neg Bool.false_ne_true]
      cases event with
      | start => exact onStart_step policy speculation
      | succeeded attempt => exact onSuccess_step policy speculation attempt ended
      | failed attempt error => exact onFailure_step policy speculation attempt error ended
      | speculativeTimer => exact onSpeculativeTimer_step policy speculation
      | deadlineExpired elapsed => exact onDeadline_step policy speculation elapsed
      | cancelled => exact .cancelled ended

end Execution

end CqlDriver
