/-
One turn of the loop that carries a request out. The loop keeps what it has sent, what has come
in, and what it could not send, beside an execution that keeps its own attempts. A turn draws an
event and takes it; the two sides agree before and after.
-/

import CqlDriver.Proofs.Request.Trail
import CqlDriver.Request.Run

namespace CqlDriver

/-- The errors with which a node or a channel turns a request away. -/
def DriverError.refusesSending : DriverError → Bool
  | .nodeUnavailable _ | .busy _ | .channelClosed _ => true
  | _ => false

theorem DriverError.isConnectionLevel_of_refusesSending {error : DriverError}
    (refuses : error.refusesSending = true) : error.isConnectionLevel = true := by
  cases error with
  | nodeUnavailable | busy | channelClosed => rfl
  | connection | protocol | unsupportedFrame | server | requestTimeout | noNodeAvailable
  | cancelled | configuration | io => cases refuses

def Transport.RefusesPlainly {Outside : Type} (transport : Transport Outside) : Prop :=
  ∀ attempt node outside error,
    (transport.send attempt node outside).1 = .error error → error.refusesSending = true

def ExecutionEvent.ended : ExecutionEvent → List AttemptId
  | .succeeded attempt | .failed attempt _ => [attempt]
  | _ => []

def ExecutionEvent.IsOnward (event : ExecutionEvent) : Prop :=
  ∀ attempt error, event = .failed attempt error → error.refusesSending = true

theorem isOnward_failed {attempt : AttemptId} {error : DriverError}
    (refuses : error.refusesSending = true) : (ExecutionEvent.failed attempt error).IsOnward := by
  intro other same equal
  cases equal
  exact refuses

namespace Execution

variable {before after : Execution} {policy : RetryPolicy} {speculation : SpeculationPolicy}
  {event : ExecutionEvent} {effects : List ExecutionEffect}

/-- A request that goes on sends at most one attempt, and only with a new line asks for
another one. -/
theorem Step.asks (step : before.Step policy speculation event effects after)
    (goesOn : after.phase.isTerminal = false) :
    effects = [] ∨
      ∃ node later, effects = .send before.upcoming node :: later ∧
        (later = [] ∨ event.opensLine = true ∧ ∃ delay, later = [.scheduleSpeculative delay]) := by
  have scheduled : ∀ execution : Execution,
      execution.scheduleSpeculative speculation = [] ∨
        ∃ delay, execution.scheduleSpeculative speculation = [.scheduleSpeculative delay] := by
    intro execution
    rcases scheduleSpeculative_cases speculation execution with
      nothing | ⟨_, _, delay, _, scheduled⟩
    · exact Or.inl nothing
    · exact Or.inr ⟨delay, scheduled⟩
  cases step with
  | idle unheeded => exact Or.inl rfl
  | lineEnded unfinished found decided planned others => exact Or.inl rfl
  | started fresh planned | speculated running speculates planned =>
      exact Or.inr ⟨_, _, rfl, (scheduled _).imp_right fun later => ⟨rfl, later⟩⟩
  | sentAgain unfinished found decided | movedOn unfinished found decided planned =>
      exact Or.inr ⟨_, _, rfl, Or.inl rfl⟩
  | unplanned | resolved | exhausted | rethrown | ignored | expired | cancelled => cases goesOn

theorem Step.resolves {attempt : AttemptId}
    (step : before.Step policy speculation event effects after)
    (chosen : .resolve attempt ∈ effects) :
    event = .succeeded attempt ∧ effects = [.resolve attempt] := by
  have unheard : ∀ (execution : Execution) (sent : AttemptId) (node : Node),
      .resolve attempt ∉ .send sent node :: execution.scheduleSpeculative speculation := by
    intro execution sent node member
    rcases scheduleSpeculative_cases speculation execution with
      nothing | ⟨_, _, delay, _, scheduled⟩
    · rw [nothing] at member
      cases List.mem_singleton.mp member
    · rw [scheduled] at member
      simp at member
  cases step with
  | resolved unfinished found =>
      cases List.mem_singleton.mp chosen
      exact ⟨rfl, rfl⟩
  | started | speculated => exact absurd chosen (unheard _ _ _)
  | idle | lineEnded | cancelled => cases chosen
  | unplanned | sentAgain | movedOn | exhausted | rethrown | ignored | expired =>
      cases List.mem_singleton.mp chosen

theorem Step.keys_perm (numbered : before.Numbered)
    (step : before.Step policy speculation event effects after)
    (goesOn : after.phase.isTerminal = false) :
    (before.inFlight.keys ++ (sendings effects).map (·.1)).Perm
      (after.inFlight.keys ++ (before.failure? event).toList.map Failure.attempt) := by
  have balanced := (step.balance numbered goesOn).map Prod.fst
  have keys : ∀ execution : Execution, execution.pending.map Prod.fst = execution.inFlight.keys :=
    fun execution => List.map_map
  rw [List.map_append, List.map_append, keys, keys, List.map_map] at balanced
  exact balanced

/-- The end of an attempt in flight is handled as a failure, where the request goes on. -/
theorem Step.handled (step : before.Step policy speculation event effects after)
    (unfinished : before.phase.isTerminal = false) (goesOn : after.phase.isTerminal = false)
    (known : ∀ attempt ∈ event.ended, attempt ∈ before.inFlight.keys) :
    (before.failure? event).toList.map Failure.attempt = event.ended := by
  cases event with
  | failed attempt error =>
      obtain ⟨state, found⟩ :=
        (Table.find?_isSome_iff attempt before.inFlight).mpr (known _ List.mem_cons_self)
      rw [failure?_of_found error unfinished found]
      rfl
  | succeeded attempt =>
      obtain ⟨state, found⟩ :=
        (Table.find?_isSome_iff attempt before.inFlight).mpr (known _ List.mem_cons_self)
      cases step with
      | idle unheeded =>
          rcases unheeded with ended | missing
          · rw [unfinished] at ended
            cases ended
          · cases found.symm.trans missing
      | resolved => cases goesOn
  | start | speculativeTimer | deadlineExpired | cancelled => rfl

theorem Step.running (numbered : before.Numbered)
    (step : before.Step policy speculation event effects after)
    (goesOn : after.phase.isTerminal = false)
    (engaged : before.phase = .inFlight ∨ event = .start) : after.phase = .inFlight := by
  cases phase : after.phase with
  | inFlight => rfl
  | notStarted =>
      obtain ⟨same, quiet⟩ := step.unstarted numbered phase
      rcases engaged with running | starts
      · rw [same, running] at phase
        cases phase
      · subst starts
        cases step with
        | idle unheeded =>
            rcases unheeded with ended | elsewhere
            · rw [phase] at ended
              cases ended
            · exact absurd phase elsewhere
        | started => cases phase
        | unplanned => cases phase
  | resolved | failed | cancelled =>
      rw [phase] at goesOn
      cases goesOn

/-- Only a failure that the transport does not explain sends to the same node again. -/
theorem Step.plan_eq (step : before.Step policy speculation event effects after)
    (onward : event.IsOnward) :
    before.plan = targets effects ++ after.plan := by
  rcases step.plan_cases with ⟨state, resent, _, _⟩ | ⟨_, shorter⟩
  · obtain ⟨attempt, error, failed, decided⟩ := decide_of_resent? resent
    unfold decide at decided
    rw [if_pos (DriverError.isConnectionLevel_of_refusesSending (onward attempt error failed))]
      at decided
    cases decided
  · exact shorter

end Execution

namespace RequestRun

variable {Outside : Type} {transport : Transport Outside}

inductive Pressing : Phase → List ExecutionEvent → Prop
  | fresh : Pressing .notStarted [.start]
  | waiting : Pressing .inFlight []
  | refused {attempt : AttemptId} {error : DriverError} (refuses : error.refusesSending = true) :
      Pressing .inFlight [.failed attempt error]

structure Engaged (run : RequestRun) (inHand : List AttemptId) : Prop where
  numbered : run.execution.Numbered
  together : run.execution.inFlight.keys.Perm (inHand ++ run.outstanding)
  once : run.arrived.keys.Nodup
  expected : ∀ attempt ∈ run.arrived.keys, attempt ∈ run.outstanding

structure InStep (run : RequestRun) : Prop where
  pressing : Pressing run.execution.phase run.queued
  engaged : run.Engaged (run.queued.flatMap ExecutionEvent.ended)

structure InHand (run : RequestRun) (event : ExecutionEvent) : Prop where
  settled : run.queued = []
  engaged : run.Engaged event.ended
  phase : run.execution.phase = .inFlight ∨
    event = .start ∧ run.execution.phase = .notStarted

/-- A run after an attempt has ended, with the answers that are kept. -/
def strike (run : RequestRun) (attempt : AttemptId)
    (answers : Table AttemptId (SocketAddress × Frame)) : RequestRun :=
  { run with
    outstanding := run.outstanding.erase attempt
    arrived := run.arrived.erase attempt
    answers }

/-- A measure of what is left to be done at one time. An attempt that has ended can be followed by
one that cannot be sent, and a place of the plan by that and by another timer. -/
def load (run : RequestRun) : Nat :=
  2 * run.arrived.length + run.queued.length + 2 * run.execution.plan.length +
    run.timer.toList.length

inductive Draw (before : RequestRun) : ExecutionEvent → RequestRun → Prop
  | started (queued : before.queued = [.start]) : Draw before .start { before with queued := [] }
  | refused {attempt : AttemptId} {error : DriverError}
      (queued : before.queued = [.failed attempt error])
      (refuses : error.refusesSending = true) :
      Draw before (.failed attempt error) { before with queued := [] }
  | givenUp (waits : before.queued = []) : Draw before .cancelled before
  | late {elapsed : Span} (waits : before.queued = []) :
      Draw before (.deadlineExpired elapsed) before
  | answered {attempt : AttemptId} {answers : Table AttemptId (SocketAddress × Frame)}
      {answer : SocketAddress × Frame} (waits : before.queued = [])
      (came : attempt ∈ before.arrived.keys) (kept : answers.find? attempt = some answer) :
      Draw before (.succeeded attempt) (before.strike attempt answers)
  | ended {attempt : AttemptId} {error : DriverError} (waits : before.queued = [])
      (came : attempt ∈ before.arrived.keys) :
      Draw before (.failed attempt error) (before.strike attempt before.answers)
  | due {time : Nat} (waits : before.queued = []) (set : before.timer = some time) :
      Draw before .speculativeTimer { before with timer := none }

inductive Taken (drawn : RequestRun) (event : ExecutionEvent) (execution : Execution) :
    List (AttemptId × Node) → RequestRun → Prop
  | quiet : Taken drawn event execution [] { drawn with execution }
  | sent {node : Node} {timer : Option Nat} (set : timer = drawn.timer ∨ event.opensLine = true) :
      Taken drawn event execution [(drawn.execution.upcoming, node)]
        { drawn with
          execution, timer
          outstanding := drawn.outstanding ++ [drawn.execution.upcoming] }
  | refused {node : Node} {error : DriverError} {timer : Option Nat}
      (set : timer = drawn.timer ∨ event.opensLine = true)
      (refuses : error.refusesSending = true) :
      Taken drawn event execution [(drawn.execution.upcoming, node)]
        { drawn with
          execution, timer
          queued := drawn.queued ++ [.failed drawn.execution.upcoming error] }

theorem eventOf_draw (transport : Transport Outside) {state : RunState Outside}
    {attempt : AttemptId} {node : Node} (result : Except DriverError Frame) (waits : state.run.queued = [])
    (came : attempt ∈ state.run.arrived.keys)
    (known : state.run.execution.nodeOf? attempt = some node) :
    state.run.Draw (eventOf transport attempt result state).1
      (eventOf transport attempt result state).2.run := by
  unfold eventOf
  simp only [known]
  cases result with
  | error error => exact .ended waits came
  | ok frame =>
      dsimp only
      cases AttemptAnswer.ofFrame node.address frame with
      | accepted frame => exact .answered waits came (Table.find?_put_self _ _ _)
      | refused error => exact .ended waits came
      | unreadable error => exact .ended waits came

theorem Engaged.nodeOf? {run : RequestRun} (engaged : run.Engaged []) {attempt : AttemptId}
    (came : attempt ∈ run.arrived.keys) : ∃ node, run.execution.nodeOf? attempt = some node := by
  have inFlight : attempt ∈ run.execution.inFlight.keys :=
    engaged.together.mem_iff.mpr (engaged.expected _ came)
  obtain ⟨sent, found⟩ := (Table.find?_isSome_iff _ _).mpr inFlight
  refine ⟨sent.node, ?_⟩
  unfold Execution.nodeOf?
  rw [found]
  rfl

theorem InStep.draw {state drawn : RunState Outside} {elapsed : Span} {now : Nat}
    {event : ExecutionEvent} (inStep : state.run.InStep)
    (next : nextEvent transport elapsed now state = some (event, drawn)) :
    state.run.Draw event drawn.run := by
  have engaged := inStep.engaged
  have pressing := inStep.pressing
  unfold nextEvent at next
  split at next
  · rename_i first rest queued
    rw [queued] at pressing
    cases next
    generalize state.run.execution.phase = phase at pressing
    cases pressing with
    | fresh => exact .started queued
    | refused refuses => exact .refused queued refuses
  · rename_i waits
    rw [waits] at engaged
    split at next
    · cases next
      exact .givenUp waits
    · split at next
      · cases next
        exact .late waits
      · split at next
        · rename_i attempt result rest arrivals
          have same : eventOf transport attempt result state = (event, drawn) :=
            Option.some.inj next
          have came : attempt ∈ state.run.arrived.keys := by
            rw [arrivals]
            exact List.mem_cons_self
          obtain ⟨node, known⟩ := engaged.nodeOf? came
          have drew := eventOf_draw transport result waits came known
          rw [same] at drew
          exact drew
        · split at next
          · rename_i passed
            cases next
            cases timer : state.run.timer with
            | some time => exact .due waits timer
            | none =>
                rw [timer] at passed
                cases passed
          · cases next

theorem sendAttempt_cases (plain : transport.RefusesPlainly) (attempt : AttemptId) (node : Node)
    (state : RunState Outside) :
    (sendAttempt transport attempt node state).run =
        { state.run with outstanding := state.run.outstanding ++ [attempt] } ∨
      ∃ error, error.refusesSending = true ∧
        (sendAttempt transport attempt node state).run =
          { state.run with queued := state.run.queued ++ [.failed attempt error] } := by
  have refuses := plain attempt node state.outside
  unfold sendAttempt
  generalize transport.send attempt node state.outside = sent at refuses
  rcases sent with ⟨_ | _, outside⟩
  · exact Or.inr ⟨_, refuses _ rfl, rfl⟩
  · exact Or.inl rfl

theorem sendAttempt_execution (attempt : AttemptId) (node : Node) (state : RunState Outside) :
    (sendAttempt transport attempt node state).run.execution = state.run.execution := by
  unfold sendAttempt
  split
  · rfl
  · rfl

theorem perform_none {now : Nat} {effects : List ExecutionEffect}
    {state after : RunState Outside}
    (performed : perform transport now effects state = (none, after)) :
    endings effects = [] ∧ after.run.execution = state.run.execution := by
  induction effects generalizing state with
  | nil =>
      cases performed
      exact ⟨rfl, rfl⟩
  | cons effect rest ih =>
      cases effect with
      | send attempt node =>
          obtain ⟨quiet, same⟩ := ih performed
          exact ⟨quiet, same.trans (sendAttempt_execution attempt node state)⟩
      | scheduleSpeculative delay =>
          unfold perform at performed
          obtain ⟨quiet, same⟩ := ih performed
          exact ⟨quiet, same⟩
      | resolve | resolveIgnored | fail => cases performed

/-- A turn carries out what the execution asks for; a cancelled request then ends. -/
theorem take_eq (transport : Transport Outside) (speculation : SpeculationPolicy) (now : Nat)
    (event : ExecutionEvent) (state : RunState Outside) :
    let handled := state.run.execution.handle state.retry.current speculation event
    ∃ retry,
      let performed := perform transport now handled.1
        { state with run := { state.run with execution := handled.2 }, retry }
      take transport speculation now event state =
        match performed.1 with
        | some result => (some result, performed.2)
        | none =>
            if performed.2.run.execution.phase = .cancelled then
              (some (.error .cancelled), performed.2)
            else (none, performed.2) :=
  ⟨_, rfl⟩

theorem take_none {speculation : SpeculationPolicy} {now : Nat} {event : ExecutionEvent}
    {state after : RunState Outside}
    (unfinished : state.run.execution.phase.isTerminal = false)
    (taken : take transport speculation now event state = (none, after)) :
    let handled := state.run.execution.handle state.retry.current speculation event
    handled.2.phase.isTerminal = false ∧ ∃ retry,
      perform transport now handled.1
          { state with run := { state.run with execution := handled.2 }, retry } =
        (none, after) := by
  intro handled
  obtain ⟨retry, shape⟩ := take_eq transport speculation now event state
  rw [taken] at shape
  generalize performed : perform transport now handled.1
    { state with run := { state.run with execution := handled.2 }, retry } = outcome at shape
  obtain ⟨result, final⟩ := outcome
  cases result with
  | some result => cases shape
  | none =>
      obtain ⟨quiet, same⟩ := perform_none performed
      have reported : handled.2.phase.Reported (endings handled.1) :=
        Execution.handle_reported state.retry.current speculation _ event unfinished
      rw [quiet] at reported
      dsimp only at shape same
      rw [same] at shape
      cases phase : handled.2.phase with
      | notStarted | inFlight =>
          rw [phase] at shape
          cases shape
          exact ⟨rfl, retry, performed⟩
      | cancelled =>
          rw [phase] at shape
          cases shape
      | failed =>
          rw [phase] at reported
          obtain ⟨error, told⟩ := reported
          cases told
      | resolved =>
          rw [phase] at reported
          rcases reported with told | ⟨attempt, told⟩
          · cases told
          · cases told

theorem take_taken (plain : transport.RefusesPlainly) {speculation : SpeculationPolicy}
    {now : Nat} {event : ExecutionEvent} {state after : RunState Outside}
    (unfinished : state.run.execution.phase.isTerminal = false)
    (took : take transport speculation now event state = (none, after)) :
    ∃ effects execution,
      state.run.execution.Step state.retry.current speculation event effects execution ∧
      execution.phase.isTerminal = false ∧
      state.run.Taken event execution (sendings effects) after.run := by
  obtain ⟨goesOn, retry, performed⟩ := take_none unfinished took
  have step := Execution.handle_step state.retry.current speculation state.run.execution event
  refine ⟨_, _, step, goesOn, ?_⟩
  generalize state.run.execution.handle state.retry.current speculation event = handled
    at goesOn performed step
  obtain ⟨effects, execution⟩ := handled
  dsimp only at goesOn performed step ⊢
  rcases step.asks goesOn with rfl | ⟨node, later, rfl, asked⟩
  · cases performed
    exact .quiet
  · unfold perform at performed
    have out := sendAttempt_cases plain state.run.execution.upcoming node
      { state with run := { state.run with execution }, retry }
    generalize sendAttempt transport state.run.execution.upcoming node
      { state with run := { state.run with execution }, retry } = sent at performed out
    rcases asked with rfl | ⟨opens, delay, rfl⟩
    · cases performed
      rcases out with went | ⟨error, refuses, back⟩
      · rw [went]
        exact .sent (Or.inl rfl)
      · rw [back]
        exact .refused (Or.inl rfl) refuses
    · cases performed
      dsimp only
      rcases out with went | ⟨error, refuses, back⟩
      · rw [went]
        exact .sent (Or.inr opens)
      · rw [back]
        exact .refused (Or.inr opens) refuses

variable {run drawn after : RequestRun} {event : ExecutionEvent}

theorem Pressing.length_le {phase : Phase} {queued : List ExecutionEvent}
    (pressing : Pressing phase queued) : queued.length ≤ 1 := by
  cases pressing with
  | fresh | refused => exact Nat.le_refl 1
  | waiting => exact Nat.zero_le 1

theorem Pressing.phase_eq {phase : Phase} (pressing : Pressing phase []) :
    phase = .inFlight := by
  cases pressing
  rfl

theorem Engaged.strike (engaged : run.Engaged []) {attempt : AttemptId}
    (came : attempt ∈ run.arrived.keys) (answers : Table AttemptId (SocketAddress × Frame)) :
    (run.strike attempt answers).Engaged [attempt] := by
  refine ⟨engaged.numbered, ?_, ?_, fun other member => ?_⟩
  · exact engaged.together.trans (List.perm_cons_erase (engaged.expected _ came))
  · exact Table.nodup_keys_erase engaged.once attempt
  · have others : other ∈ run.arrived.keys.erase attempt := by
      rw [← Table.keys_erase_of_nodup engaged.once]
      exact member
    obtain ⟨different, present⟩ := (engaged.once.mem_erase_iff).mp others
    exact (List.mem_erase_of_ne different).mpr (engaged.expected other present)

theorem InHand.unfinished (inHand : run.InHand event) :
    run.execution.phase.isTerminal = false := by
  rcases inHand.phase with running | ⟨_, fresh⟩
  · rw [running]
    rfl
  · rw [fresh]
    rfl

theorem Draw.execution_eq (draw : run.Draw event drawn) : drawn.execution = run.execution := by
  cases draw <;> rfl

theorem Draw.inHand (inStep : run.InStep) (draw : run.Draw event drawn) :
    drawn.InHand event := by
  obtain ⟨pressing, engaged⟩ := inStep
  have running : run.queued = [] → run.execution.phase = .inFlight := by
    intro waits
    rw [waits] at pressing
    exact pressing.phase_eq
  cases draw with
  | started queued =>
      rw [queued] at pressing engaged
      refine ⟨rfl, ⟨engaged.numbered, engaged.together, engaged.once, engaged.expected⟩, ?_⟩
      generalize run.execution.phase = phase at pressing
      cases pressing
      exact Or.inr ⟨rfl, rfl⟩
  | refused queued refuses =>
      rw [queued] at pressing engaged
      refine ⟨rfl, ⟨engaged.numbered, engaged.together, engaged.once, engaged.expected⟩, ?_⟩
      generalize run.execution.phase = phase at pressing
      cases pressing
      exact Or.inl rfl
  | givenUp waits | late waits =>
      rw [waits] at engaged
      exact ⟨waits, engaged, Or.inl (running waits)⟩
  | answered waits came kept | ended waits came =>
      rw [waits] at engaged
      exact ⟨waits, engaged.strike came _, Or.inl (running waits)⟩
  | due waits set =>
      rw [waits] at engaged
      refine ⟨waits, ?_, Or.inl (running waits)⟩
      exact ⟨engaged.numbered, engaged.together, engaged.once, engaged.expected⟩

theorem Draw.kept_answer {attempt : AttemptId} (draw : run.Draw (.succeeded attempt) drawn) :
    ∃ answer, drawn.answers.find? attempt = some answer := by
  cases draw with
  | answered waits came kept => exact ⟨_, kept⟩

section Turn

variable {policy : RetryPolicy} {speculation : SpeculationPolicy}
  {effects : List ExecutionEffect} {execution : Execution}

theorem InHand.keys_perm (inHand : drawn.InHand event)
    (step : drawn.execution.Step policy speculation event effects execution)
    (goesOn : execution.phase.isTerminal = false) :
    execution.inFlight.keys.Perm (drawn.outstanding ++ (sendings effects).map (·.1)) := by
  have engaged := inHand.engaged
  have known : ∀ attempt ∈ event.ended, attempt ∈ drawn.execution.inFlight.keys :=
    fun attempt member => engaged.together.mem_iff.mpr (List.mem_append_left _ member)
  have balanced := step.keys_perm engaged.numbered goesOn
  rw [step.handled inHand.unfinished goesOn known] at balanced
  have together : (event.ended ++ (drawn.outstanding ++ (sendings effects).map (·.1))).Perm
      (event.ended ++ execution.inFlight.keys) := by
    rw [← List.append_assoc]
    exact ((engaged.together.append_right _).symm.trans balanced).trans List.perm_append_comm
  exact ((List.perm_append_left_iff _).mp together).symm

theorem InHand.inStep (inHand : drawn.InHand event)
    (step : drawn.execution.Step policy speculation event effects execution)
    (goesOn : execution.phase.isTerminal = false)
    (taken : drawn.Taken event execution (sendings effects) after) : after.InStep := by
  have together := inHand.keys_perm step goesOn
  obtain ⟨settled, engaged, phase⟩ := inHand
  have running := step.running engaged.numbered goesOn (phase.imp_right And.left)
  have numbered := step.numbered engaged.numbered
  have still : ∀ attempt ∈ drawn.arrived.keys, ∀ later,
      attempt ∈ drawn.outstanding ++ later :=
    fun attempt member later => List.mem_append_left later (engaged.expected attempt member)
  generalize sendings effects = sent at taken together
  cases taken with
  | quiet =>
      rw [List.map_nil, List.append_nil] at together
      constructor
      · dsimp only
        rw [settled, running]
        exact .waiting
      · dsimp only
        rw [settled]
        exact ⟨numbered, together, engaged.once, engaged.expected⟩
  | sent set =>
      constructor
      · dsimp only
        rw [settled, running]
        exact .waiting
      · dsimp only
        rw [settled]
        exact ⟨numbered, together, engaged.once, fun attempt member => still attempt member _⟩
  | refused set refuses =>
      constructor
      · dsimp only
        rw [settled, running]
        exact .refused refuses
      · dsimp only
        rw [settled]
        exact ⟨numbered, together.trans List.perm_append_comm, engaged.once, engaged.expected⟩

theorem plan_length_le (step : drawn.execution.Step policy speculation event effects execution) :
    execution.plan.length ≤ drawn.execution.plan.length := by
  rcases step.plan_cases with ⟨_, _, _, same⟩ | ⟨_, used⟩
  · exact Nat.le_of_eq (congrArg List.length same)
  · rw [used, List.length_append]
    exact Nat.le_add_left _ _

theorem plan_length_eq (step : drawn.execution.Step policy speculation event effects execution)
    (onward : event.IsOnward) :
    drawn.execution.plan.length = (sendings effects).length + execution.plan.length := by
  have used := step.plan_eq onward
  rw [targets_eq_map] at used
  have length := congrArg List.length used
  rw [List.length_append, List.length_map] at length
  exact length

theorem Taken.queued_le {sent : List (AttemptId × Node)}
    (taken : drawn.Taken event execution sent after) :
    after.execution = execution ∧
      after.queued.length ≤ drawn.queued.length + sent.length := by
  cases taken with
  | quiet => exact ⟨rfl, Nat.le_refl _⟩
  | sent set => exact ⟨rfl, Nat.le_succ _⟩
  | refused set refuses => exact ⟨rfl, Nat.le_of_eq List.length_append⟩

/-- What is sent to the next node, even if it comes back and another timer is set, weighs less
than the node in the plan. -/
theorem Taken.load_le (step : drawn.execution.Step policy speculation event effects execution)
    (onward : event.IsOnward) (taken : drawn.Taken event execution (sendings effects) after) :
    after.load ≤ drawn.load := by
  have used := plan_length_eq step onward
  generalize sendings effects = sent at used taken
  cases taken with
  | quiet =>
      simp only [List.length_nil] at used
      simp only [load]
      omega
  | @sent node timer set =>
      have later : timer.toList.length ≤ 1 := Option.length_toList_le
      simp only [List.length_singleton] at used
      simp only [load]
      omega
  | @refused node error timer set refuses =>
      have later : timer.toList.length ≤ 1 := Option.length_toList_le
      simp only [List.length_singleton] at used
      simp only [load, List.length_append, List.length_singleton]
      omega

theorem Taken.load_le_succ (step : drawn.execution.Step policy speculation event effects execution)
    (closes : event.opensLine = false)
    (taken : drawn.Taken event execution (sendings effects) after) :
    after.load ≤ drawn.load + 1 := by
  have shorter := plan_length_le step
  have kept : ∀ timer : Option Nat, timer = drawn.timer ∨ event.opensLine = true →
      timer = drawn.timer :=
    fun timer set => set.resolve_right fun opens => by
      rw [closes] at opens
      cases opens
  generalize sendings effects = sent at taken
  cases taken with
  | quiet =>
      simp only [load]
      omega
  | sent set =>
      simp only [load, kept _ set]
      omega
  | refused set refuses =>
      simp only [load, kept _ set, List.length_append, List.length_singleton]
      omega

theorem load_strike {attempt : AttemptId} (once : run.arrived.keys.Nodup)
    (came : attempt ∈ run.arrived.keys) (answers : Table AttemptId (SocketAddress × Frame)) :
    (run.strike attempt answers).load + 2 = run.load := by
  obtain ⟨result, found⟩ := (Table.find?_isSome_iff attempt run.arrived).mpr came
  have fewer : run.arrived.length = (run.arrived.erase attempt).length + 1 :=
    (Table.perm_erase once found).length_eq
  simp only [load, strike]
  omega

/-- A turn that is taken because something is queued leaves less queued or less of the plan. -/
theorem Draw.backlog_lt (pressed : run.queued ≠ []) (draw : run.Draw event drawn)
    (step : drawn.execution.Step policy speculation event effects execution)
    (taken : drawn.Taken event execution (sendings effects) after) :
    after.queued.length + after.execution.plan.length <
      run.queued.length + run.execution.plan.length := by
  obtain ⟨same, more⟩ := taken.queued_le
  rw [same]
  cases draw with
  | started queued =>
      have used := plan_length_eq step nofun
      simp only [List.length_nil] at more used
      simp only [queued, List.length_singleton]
      omega
  | refused queued refuses =>
      have used := plan_length_eq step (isOnward_failed refuses)
      simp only [List.length_nil] at more used
      simp only [queued, List.length_singleton]
      omega
  | givenUp waits | late waits | answered waits | ended waits | due waits =>
      exact absurd waits pressed

/-- Each turn of a request that goes on leaves less to be done at its time. -/
theorem Draw.load_lt (inStep : run.InStep) (draw : run.Draw event drawn)
    (step : drawn.execution.Step policy speculation event effects execution)
    (goesOn : execution.phase.isTerminal = false)
    (taken : drawn.Taken event execution (sendings effects) after) : after.load < run.load := by
  have once := inStep.engaged.once
  have phase := (draw.inHand inStep).phase
  cases draw with
  | started queued =>
      have left := taken.load_le step nofun
      simp only [load, queued, List.length_nil, List.length_singleton] at left ⊢
      omega
  | refused queued refuses =>
      have left := taken.load_le step (isOnward_failed refuses)
      simp only [load, queued, List.length_nil, List.length_singleton] at left ⊢
      omega
  | givenUp waits =>
      cases step with
      | idle unheeded =>
          rcases unheeded with ended | never
          · rw [goesOn] at ended
            cases ended
          · exact absurd never not_false
      | cancelled => cases goesOn
  | late waits =>
      have running := phase.resolve_right nofun
      cases step with
      | idle unheeded =>
          rcases unheeded with ended | elsewhere
          · rw [goesOn] at ended
            cases ended
          · exact absurd running elsewhere
      | expired => cases goesOn
  | @answered attempt answers answer waits came kept =>
      have left := taken.load_le_succ step rfl
      have struck := load_strike once came answers
      omega
  | ended waits came =>
      have left := taken.load_le_succ step rfl
      have struck := load_strike once came run.answers
      omega
  | due waits set =>
      have left := taken.load_le step nofun
      simp only [load, set, Option.toList_none, Option.toList_some, List.length_nil,
        List.length_singleton] at left ⊢
      omega

end Turn

end RequestRun

end CqlDriver
