/-
What a caller gets to know of a request that fails. Attempts end with what their channels tell,
or because their time is over, and the failures of the transport among these ends stay inside:
the request goes on, or its error carries them all. Only the answer that was chosen can still
fail, when the parts in front of its body are read.
-/

import CqlDriver.Proofs.Channel.Moves
import CqlDriver.Proofs.Request.Forewords
import CqlDriver.Proofs.Request.History
import CqlDriver.Proofs.Request.Waiting

namespace CqlDriver

inductive AttemptEnd : Except DriverError Frame → Prop
  | told (action : ChannelAction) (channel : Channel) {outcome : Outcome}
      (heard : outcome ∈ (action.perform channel).1.outcomes) : AttemptEnd outcome.result
  | overdue (elapsed : Span) : AttemptEnd (.error (.requestTimeout elapsed []))

namespace DriverError

theorem endsAttempt_of_isConnectionLevel {error : DriverError}
    (transport : error.isConnectionLevel = true) : error.endsAttempt = true := by
  cases error with
  | server | requestTimeout => rfl
  | _ => exact transport

theorem isConnectionLevel_of_history? {error : DriverError} {failures : NodeErrors}
    (carries : error.history? = some failures) : error.isConnectionLevel = false := by
  cases error with
  | server | requestTimeout | noNodeAvailable => rfl
  | _ => cases carries

end DriverError

theorem AttemptEnd.endsAttempt {result : Except DriverError Frame} (ended : AttemptEnd result)
    {error : DriverError} (failed : result = .error error) : error.endsAttempt = true := by
  cases ended with
  | told action channel heard =>
      exact DriverError.endsAttempt_of_isConnectionLevel
        (BlameTransport.perform action channel _ heard error failed)
  | overdue elapsed =>
      cases failed
      rfl

theorem Response.ofFrame_error {frame : Frame} {info : ExecutionInfo} {error : DriverError}
    (failed : ofFrame frame info = .error error) :
    ∃ fault left, (readPreamble frame).run frame.body = .error fault left ∧
      error = .protocol fault := by
  unfold ofFrame at failed
  split at failed
  · rename_i fault left read
    cases failed
    exact ⟨fault, left, read, rfl⟩
  · cases failed

theorem Execution.Step.cancels {before after : Execution} {policy : RetryPolicy}
    {speculation : SpeculationPolicy} {event : ExecutionEvent} {effects : List ExecutionEffect}
    (step : before.Step policy speculation event effects after)
    (unfinished : before.phase.isTerminal = false) (cancelled : after.phase = .cancelled) :
    event = .cancelled := by
  have goesOn : before.phase ≠ .cancelled := fun same => by
    rw [same] at unfinished
    cases unfinished
  cases step with
  | cancelled => rfl
  | idle | sentAgain => exact absurd cancelled goesOn
  | lineEnded | movedOn =>
      exact absurd ((countMove_phase _ _ _).symm.trans cancelled) goesOn
  | speculated => exact absurd cancelled goesOn
  | started | unplanned | resolved | exhausted | rethrown | ignored | expired => cases cancelled

namespace RequestRun

variable {Outside : Type} {transport : Transport Outside} {first state : RunState Outside}
  {seen : List Failure}

/-- A request on its way, with the failures of attempts that it has handled. Attempts end, the
caller may give up, and policies and surroundings change as they like. -/
inductive Course (transport : Transport Outside) (first : RunState Outside) :
    List Failure → RunState Outside → Prop
  | refl : Course transport first [] first
  | ended {seen : List Failure} {state : RunState Outside}
      (earlier : Course transport first seen state) (attempt : AttemptId)
      {result : Except DriverError Frame} (real : AttemptEnd result) :
      Course transport first seen { state with run := state.run.arrive attempt result }
  | givenUp {seen : List Failure} {state : RunState Outside}
      (earlier : Course transport first seen state) :
      Course transport first seen { state with run := { state.run with isCancelled := true } }
  | around {seen : List Failure} {state : RunState Outside}
      (earlier : Course transport first seen state) (retry : RetrySource) (outside : Outside) :
      Course transport first seen { state with retry, outside }
  | turn {seen : List Failure} {state drawn after : RunState Outside} {event : ExecutionEvent}
      (earlier : Course transport first seen state) (turn : LoopTurn)
      (next : nextEvent transport turn.elapsed turn.now state = some (event, drawn))
      (took : take transport turn.speculation turn.now event drawn = (none, after)) :
      Course transport first (seen ++ (drawn.run.execution.failure? event).toList) after

inductive Ended (transport : Transport Outside) (first : RunState Outside) :
    List Failure → ExecutionEvent → RequestResult → RunState Outside → Prop
  | turn {seen : List Failure} {state drawn after : RunState Outside} {event : ExecutionEvent}
      {result : RequestResult} (course : Course transport first seen state) (turn : LoopTurn)
      (next : nextEvent transport turn.elapsed turn.now state = some (event, drawn))
      (took : take transport turn.speculation turn.now event drawn = (some result, after)) :
      Ended transport first (seen ++ (drawn.run.execution.failure? event).toList) event result
        after

def Credible (run : RequestRun) : Prop :=
  ∀ arrival ∈ run.arrived, ∀ error, arrival.2 = .error error → error.endsAttempt = true

structure Underway (seen : List Failure) (run : RequestRun) : Prop where
  inStep : run.InStep
  credible : run.Credible
  recorded : run.execution.errors = seen.map Failure.entry

theorem Credible.arrive {run : RequestRun} (credible : run.Credible) (attempt : AttemptId)
    {result : Except DriverError Frame} (real : AttemptEnd result) :
    (run.arrive attempt result).Credible := by
  unfold RequestRun.arrive
  split
  · intro arrival member error failed
    rcases Table.mem_put member with new | earlier
    · rw [new] at failed
      exact real.endsAttempt failed
    · exact credible arrival earlier error failed
  · exact credible

theorem Draw.arrived_subset {before drawn : RequestRun} {event : ExecutionEvent}
    (draw : before.Draw event drawn) : drawn.arrived ⊆ before.arrived := by
  cases draw with
  | answered | ended => exact List.filter_sublist.subset
  | started | refused | givenUp | late | due => exact List.Subset.refl _

theorem Taken.arrived_eq {drawn after : RequestRun} {event : ExecutionEvent}
    {execution : Execution} {sent : List (AttemptId × Node)}
    (taken : drawn.Taken event execution sent after) : after.arrived = drawn.arrived := by
  cases taken <;> rfl

theorem eventOf_credible (transport : Transport Outside) {attempt : AttemptId} {node : Node}
    {result : Except DriverError Frame}
    (known : state.run.execution.nodeOf? attempt = some node)
    (credible : ∀ error, result = .error error → error.endsAttempt = true) :
    (eventOf transport attempt result state).1.isCredible = true := by
  unfold eventOf
  simp only [known]
  cases result with
  | error error => exact credible error rfl
  | ok frame =>
      unfold AttemptAnswer.ofFrame
      by_cases refused : frame.opcode = .error
      · simp only [if_pos refused]
        cases ServerError.parse frame.body with
        | ok error => rfl
        | error fault => rfl
      · simp only [if_neg refused]
        rfl

theorem Underway.isCredible (underway : state.run.Underway seen) {elapsed : Span} {now : Nat}
    {event : ExecutionEvent} {drawn : RunState Outside}
    (next : nextEvent transport elapsed now state = some (event, drawn)) :
    event.isCredible = true := by
  obtain ⟨⟨pressing, engaged⟩, credible, _⟩ := underway
  unfold nextEvent at next
  split at next
  · rename_i pressed rest queued
    rw [queued] at pressing
    cases next
    generalize state.run.execution.phase = phase at pressing
    cases pressing with
    | fresh => rfl
    | refused refuses =>
        exact DriverError.endsAttempt_of_isConnectionLevel
          (DriverError.isConnectionLevel_of_refusesSending refuses)
  · rename_i waits
    rw [waits] at engaged
    split at next
    · cases next
      rfl
    · split at next
      · cases next
        rfl
      · split at next
        · rename_i attempt result rest arrivals
          have arrival : (attempt, result) ∈ state.run.arrived := by
            rw [arrivals]
            exact List.mem_cons_self
          obtain ⟨node, known⟩ := engaged.nodeOf? (List.mem_map_of_mem arrival)
          have ended := eventOf_credible transport known (credible _ arrival)
          rw [Option.some.inj next] at ended
          exact ended
        · split at next
          · cases next
            rfl
          · cases next

theorem Meanwhile.underway {after : RunState Outside} (underway : state.run.Underway seen)
    (happened : Meanwhile state after) (credible : after.run.Credible) :
    after.run.Underway seen := by
  refine ⟨happened.inStep underway.inStep, credible, ?_⟩
  rw [happened.kept.1]
  exact underway.recorded

theorem Underway.recorded_step (underway : state.run.Underway seen) {elapsed : Span} {now : Nat}
    {event : ExecutionEvent} {drawn : RunState Outside}
    (next : nextEvent transport elapsed now state = some (event, drawn))
    {policy : RetryPolicy} {speculation : SpeculationPolicy} {effects : List ExecutionEffect}
    {execution : Execution}
    (step : drawn.run.execution.Step policy speculation event effects execution) :
    execution.errors =
      (seen ++ (drawn.run.execution.failure? event).toList).map Failure.entry := by
  rw [step.errors_eq, (underway.inStep.draw next).execution_eq, underway.recorded,
    List.map_append]

theorem underway_fresh (plan : QueryPlan) (idempotent speculationEnabled : Bool)
    (deadline : Option Nat) (retry : RetrySource) (outside : Outside) :
    (RunState.fresh plan idempotent speculationEnabled deadline retry outside).run.Underway [] :=
  ⟨inStep_fresh plan idempotent speculationEnabled deadline retry outside, nofun, rfl⟩

theorem Underway.turned (plain : transport.RefusesPlainly) (underway : state.run.Underway seen)
    {turn : LoopTurn} {event : ExecutionEvent} {drawn after : RunState Outside}
    (next : nextEvent transport turn.elapsed turn.now state = some (event, drawn))
    (took : take transport turn.speculation turn.now event drawn = (none, after)) :
    after.run.Underway (seen ++ (drawn.run.execution.failure? event).toList) := by
  have draw := underway.inStep.draw next
  have inHand := draw.inHand underway.inStep
  obtain ⟨effects, execution, step, goesOn, added⟩ := take_taken plain inHand.unfinished took
  have recorded := underway.recorded_step next step
  refine ⟨inHand.inStep step goesOn added, fun arrival member => ?_, ?_⟩
  · rw [added.arrived_eq] at member
    exact underway.credible arrival (draw.arrived_subset member)
  · rw [← recorded, added.queued_le.1]

theorem Course.underway (plain : transport.RefusesPlainly) (begun : first.run.Underway [])
    (course : Course transport first seen state) : state.run.Underway seen := by
  induction course with
  | refl => exact begun
  | ended earlier attempt real ih =>
      exact (Meanwhile.ended attempt _).underway ih (ih.credible.arrive attempt real)
  | givenUp earlier ih => exact Meanwhile.givenUp.underway ih ih.credible
  | around earlier retry outside ih => exact (Meanwhile.around retry outside).underway ih ih.credible
  | turn earlier turn next took ih => exact ih.turned plain next took

theorem sendAttempt_answers (attempt : AttemptId) (node : Node) (state : RunState Outside) :
    (sendAttempt transport attempt node state).run.answers = state.run.answers := by
  unfold sendAttempt
  split
  · rfl
  · rfl

/-- Effects that are not carried out to their end tell the caller what one of them says. -/
theorem perform_some {now : Nat} {effects : List ExecutionEffect} {result : RequestResult}
    {after : RunState Outside}
    (performed : perform transport now effects state = (some result, after)) :
    after.run.answers = state.run.answers ∧
      ((∃ attempt, .resolve attempt ∈ effects ∧ result = after.run.resolve attempt) ∨
        result = after.run.resolveIgnored ∨
        ∃ error, .fail error ∈ effects ∧ result = .error error) := by
  induction effects generalizing state with
  | nil => cases performed
  | cons effect rest ih =>
      have onward {next : RunState Outside} (same : next.run.answers = state.run.answers)
          (later : perform transport now rest next = (some result, after)) :
          after.run.answers = state.run.answers ∧
            ((∃ attempt, .resolve attempt ∈ effect :: rest ∧ result = after.run.resolve attempt) ∨
              result = after.run.resolveIgnored ∨
              ∃ error, .fail error ∈ effect :: rest ∧ result = .error error) := by
        obtain ⟨kept, told⟩ := ih later
        refine ⟨kept.trans same, ?_⟩
        rcases told with ⟨attempt, chosen, told⟩ | told | ⟨error, failed, told⟩
        · exact .inl ⟨attempt, List.mem_cons_of_mem _ chosen, told⟩
        · exact .inr (.inl told)
        · exact .inr (.inr ⟨error, List.mem_cons_of_mem _ failed, told⟩)
      cases effect with
      | send attempt node => exact onward (sendAttempt_answers attempt node state) performed
      | scheduleSpeculative delay =>
          unfold perform at performed
          refine onward ?_ performed
          rfl
      | resolve attempt =>
          cases performed
          exact ⟨rfl, .inl ⟨attempt, List.mem_cons_self, rfl⟩⟩
      | resolveIgnored =>
          cases performed
          exact ⟨rfl, .inr (.inl rfl)⟩
      | fail error =>
          cases performed
          exact ⟨rfl, .inr (.inr ⟨error, List.mem_cons_self, rfl⟩)⟩

/-- The last turn tells an error only if the caller gave up, if the execution says so, or if an
answer was chosen. -/
theorem take_error {speculation : SpeculationPolicy} {now : Nat} {event : ExecutionEvent}
    {drawn after : RunState Outside} {error : DriverError}
    (unfinished : drawn.run.execution.phase.isTerminal = false)
    (took : take transport speculation now event drawn = (some (.error error), after)) :
    let effects := (drawn.run.execution.handle drawn.retry.current speculation event).1
    event = .cancelled ∧ error = .cancelled ∨ .fail error ∈ effects ∨
      ∃ attempt, .resolve attempt ∈ effects ∧ after.run.answers = drawn.run.answers ∧
        after.run.resolve attempt = .error error := by
  intro effects
  have step := Execution.handle_step drawn.retry.current speculation drawn.run.execution event
  obtain ⟨retry, shape⟩ := take_eq transport speculation now event drawn
  rw [took] at shape
  generalize performed : perform transport now effects
    { drawn with
      run := { drawn.run with
        execution := (drawn.run.execution.handle drawn.retry.current speculation event).2 }
      retry } = outcome at shape
  obtain ⟨told, final⟩ := outcome
  cases told with
  | some result =>
      cases shape
      obtain ⟨kept, told⟩ := perform_some performed
      rcases told with ⟨attempt, chosen, same⟩ | ignored | ⟨told, failed, same⟩
      · exact .inr (.inr ⟨attempt, chosen, kept, same.symm⟩)
      · cases ignored
      · cases same
        exact .inr (.inl failed)
  | none =>
      obtain ⟨_, same⟩ := perform_none performed
      dsimp only at shape same
      split at shape
      · rename_i cancelled
        cases shape
        rw [same] at cancelled
        exact .inl ⟨step.cancels unfinished cancelled, rfl⟩
      · cases shape

/-- The loop goes along the course of its request, until it waits or the request ends. -/
theorem Course.proceed (course : Course transport first seen state) (turn : LoopTurn) (fuel : Nat)
    {told : Option RequestResult} {after : RunState Outside}
    (ran : RequestRun.proceed transport turn.speculation turn.elapsed turn.now fuel state =
      (told, after)) :
    ∃ later, (told = none → Course transport first (seen ++ later) after) ∧
      ∀ result, told = some result →
        ∃ event, Ended transport first (seen ++ later) event result after := by
  induction fuel generalizing seen state with
  | zero =>
      cases ran
      rw [← List.append_nil seen] at course
      refine ⟨[], fun _ => course, fun result same => ?_⟩
      cases same
  | succ fuel ih =>
      unfold RequestRun.proceed at ran
      split at ran
      · cases ran
        rw [← List.append_nil seen] at course
        refine ⟨[], fun _ => course, fun result same => ?_⟩
        cases same
      · rename_i event drawn next
        split at ran
        · rename_i last final took
          cases ran
          refine ⟨(drawn.run.execution.failure? event).toList, fun same => ?_, fun result same => ?_⟩
          · cases same
          · cases same
            exact ⟨event, .turn course turn next took⟩
        · rename_i second took
          obtain ⟨later, onward, ended⟩ := ih (course.turn turn next took) ran
          rw [List.append_assoc] at onward ended
          exact ⟨_, onward, ended⟩

/-- For every transport that turns requests away plainly, all policies and all that attempts can
end with: the error that ends a request is that of a caller who gave up, or it is none of the
transport and carries all failures that were handled; or an answer was chosen whose optional parts
cannot be read, and only then the transport is to blame. The loop goes along the course of such a
request, and what it tells at last is its end. -/
theorem failures_stay_inside (plain : transport.RefusesPlainly) (plan : QueryPlan)
    (idempotent speculationEnabled : Bool) (deadline : Option Nat) (retry : RetrySource)
    (outside : Outside) :
    let first := RunState.fresh plan idempotent speculationEnabled deadline retry outside
    (∀ seen event error after, Ended transport first seen event (.error error) after →
      (event = .cancelled ∧ error = .cancelled) ∨
      (error.isConnectionLevel = false ∧ error.history? = some (seen.map Failure.entry)) ∨
      ∃ attempt address frame fault left, event = .succeeded attempt ∧
        after.run.answers.find? attempt = some (address, frame) ∧
        (Response.readPreamble frame).run frame.body = .error fault left ∧
        error = .protocol fault) ∧
    ∀ seen state, Course transport first seen state → ∀ (turn : LoopTurn) fuel told after,
      proceed transport turn.speculation turn.elapsed turn.now fuel state = (told, after) →
      ∃ later, (told = none → Course transport first (seen ++ later) after) ∧
        ∀ result, told = some result →
          ∃ event, Ended transport first (seen ++ later) event result after := by
  intro first
  refine ⟨fun seen event error after ended => ?_, ?_⟩
  · cases ended with
    | turn course turn next took =>
        rename_i before state drawn
        have underway := course.underway plain (underway_fresh plan idempotent
          speculationEnabled deadline retry outside)
        have draw := underway.inStep.draw next
        have step := Execution.handle_step drawn.retry.current turn.speculation
          drawn.run.execution event
        rcases take_error (draw.inHand underway.inStep).unfinished took with
          cancelled | failed | ⟨attempt, chosen, kept, told⟩
        · exact .inl cancelled
        · have history := step.history_eq (underway.isCredible next) failed
          rw [underway.recorded_step next step] at history
          exact .inr (.inl ⟨DriverError.isConnectionLevel_of_history? history, history⟩)
        · obtain ⟨rfl, _⟩ := step.resolves chosen
          obtain ⟨⟨address, frame⟩, found⟩ := draw.kept_answer
          rw [← kept] at found
          unfold resolve at told
          rw [found] at told
          obtain ⟨fault, left, unread, same⟩ := Response.ofFrame_error told
          exact .inr (.inr ⟨attempt, address, frame, fault, left, rfl, found, unread, same⟩)
  · intro seen state course turn fuel told after ran
    exact course.proceed turn fuel ran

theorem crowded_everywhere :
    let address (number : Nat) : SocketAddress := ⟨.ofParts 127 0 0 number, 9042, 0⟩
    let all : NodeErrors :=
      [1, 2, 3].map fun number => (address number, .busy (address number))
    ∃ seen event after,
      Ended crowded { crowdedStart with outside := 3 } seen event (.error (.noNodeAvailable all))
        after ∧
      seen.map Failure.entry = all := by
  intro address all
  let node (number : Nat) : Node :=
    { id := ⟨number⟩, info := { address := address number }, distance := .localDc }
  let turn : LoopTurn := ⟨.constant 1 .zero, .zero, 0⟩
  obtain ⟨surface, along⟩ := failures_stay_inside crowded_refusesPlainly [node 1, node 2, node 3]
    true false none (.script [.retrySameNode] none) 3
  obtain ⟨later, _, ends⟩ := along [] _ .refl turn 5 _ _ rfl
  obtain ⟨event, ended⟩ := ends (.error (.noNodeAvailable all)) rfl
  refine ⟨_, event, _, ended, ?_⟩
  rcases surface _ _ _ _ ended with ⟨_, same⟩ | ⟨_, carries⟩ | ⟨_, _, _, _, _, _, _, _, same⟩
  · cases same
  · exact (Option.some.inj carries).symm
  · cases same

def truncatedAnswer : Frame :=
  { Frame.response 4 0 .result [0] with flags := Frame.warningFlag }

def awaitingChannel : Channel :=
  let config : ChannelConfig :=
    { version := .v4, connectTimeout := .zero, heartbeatInterval := .zero
      heartbeatTimeout := .zero, maxRequests := 1, maxOrphans := 0 }
  ((Channel.start ⟨.ofParts 127 0 0 1, 9042, 0⟩ config [] 0).send .query []).2

theorem truncatedAnswer_real : AttemptEnd (.ok truncatedAnswer) := by
  have outcomes :
      ((ChannelAction.receive 0 (.frame truncatedAnswer)).perform awaitingChannel).1.outcomes =
        [⟨1, .ok truncatedAnswer⟩] := by
    change (Channel.acceptReceived 0 ({}, awaitingChannel) (.frame truncatedAnswer)).1.outcomes = _
    unfold Channel.acceptReceived Channel.accept
    simp only [if_neg (show ¬awaitingChannel.isClosed = true by decide),
      if_neg (show ¬truncatedAnswer.isCompressed = true by decide),
      if_neg (show ¬truncatedAnswer.isPush = true by decide)]
    rfl
  have heard : ⟨1, .ok truncatedAnswer⟩ ∈
      ((ChannelAction.receive 0 (.frame truncatedAnswer)).perform awaitingChannel).1.outcomes := by
    rw [outcomes]
    exact List.mem_cons_self
  exact .told _ awaitingChannel heard

def oneNodeStart : RunState (List AttemptId) :=
  let node : Node :=
    { id := ⟨1⟩, info := { address := ⟨.ofParts 127 0 0 1, 9042, 0⟩ }, distance := .localDc }
  .fresh [node] true false none (.script [.rethrow] none) []

/-- The caller is told of a text that is too short, and of no node. -/
theorem truncated_answer_surfaces :
    let error : DriverError := .protocol (.body (.truncated "short" 2 1))
    (∃ event after, Ended openRoad oneNodeStart [] event (.error error) after) ∧
      error.isConnectionLevel = true ∧ error.history? = none := by
  intro error
  refine ⟨?_, rfl, rfl⟩
  let turn : LoopTurn := ⟨.constant 1 .zero, .zero, 0⟩
  have begun : Course openRoad oneNodeStart [] oneNodeStart := .refl
  have waiting := begun.turn turn rfl rfl
  have answered := waiting.ended ⟨0⟩ truncatedAnswer_real
  have ended := Ended.turn answered turn rfl rfl
  exact ⟨_, _, ended⟩

end RequestRun

end CqlDriver
