/-
Requests that must not be applied twice, under the careful policy: there is one attempt at a
time, each goes to the next node of the plan, and a failure that leaves open whether the
request was applied is the last thing that happens to it.
-/

import CqlDriver.Proofs.Request.Endings
import CqlDriver.Proofs.Request.Steps

namespace CqlDriver

/-- Failures after which the request may have been applied. -/
def DriverError.leavesDoubt : DriverError → Bool
  | .requestTimeout .. => true
  | .server _ error _ =>
      match error.code with
      | .unavailable | .overloaded | .isBootstrapping => false
      | _ => true
  | _ => false

theorem DriverError.answered_of_leavesDoubt {error : DriverError}
    (doubt : error.leavesDoubt = true) : error.isConnectionLevel = false := by
  cases error with
  | requestTimeout | server => rfl
  | _ => cases doubt

/-- For a request that must not be applied twice the careful policy gives up, or goes to the
next node where the request was surely not applied. -/
theorem RetryPolicy.carefulOnError_once (retryServerErrors : Bool) {context : RetryContext}
    (once : context.idempotent = false) :
    carefulOnError retryServerErrors context = .rethrow ∨
      carefulOnError retryServerErrors context = .retryNextNode ∧
        context.error.leavesDoubt = false := by
  unfold carefulOnError
  cases failure : context.error with
  | server address error attempts =>
      unfold afterServerError DriverError.leavesDoubt
      dsimp only
      rw [once]
      cases error.code with
      | unavailable =>
          dsimp only
          split
          · exact Or.inr ⟨rfl, rfl⟩
          · exact Or.inl rfl
      | overloaded | isBootstrapping => exact Or.inr ⟨rfl, rfl⟩
      | serverError =>
          dsimp only
          rw [Bool.and_false]
          exact Or.inl rfl
      | _ => exact Or.inl rfl
  | requestTimeout elapsed attempts =>
      dsimp only
      rw [once]
      exact Or.inl rfl
  | noNodeAvailable | cancelled | configuration => exact Or.inl rfl
  | _ => exact Or.inr ⟨rfl, rfl⟩

def carefulTurn (retryServerErrors : Bool) (asked : SpeculationPolicy × ExecutionEvent) :
    ExecutionTurn :=
  { retry := .careful retryServerErrors, speculation := asked.1, event := asked.2 }

namespace Execution

variable {execution before after : Execution} {retryServerErrors : Bool}

/-- As `carefulOnError_once`, with the failures of the transport, which are not asked about. -/
theorem decide_once (once : execution.idempotent = false) (state : Attempt)
    (error : DriverError) :
    let decision := execution.decide (.careful retryServerErrors) state error
    decision = .rethrow ∨ decision = .retryNextNode ∧ error.leavesDoubt = false := by
  have askedOnce : (execution.retryContext state error).idempotent = false := once
  have asked := RetryPolicy.carefulOnError_once retryServerErrors askedOnce
  unfold decide
  cases transport : error.isConnectionLevel with
  | true =>
      refine Or.inr ⟨rfl, ?_⟩
      cases doubt : error.leavesDoubt with
      | false => rfl
      | true =>
          rw [DriverError.answered_of_leavesDoubt doubt] at transport
          cases transport
  | false =>
      cases isTimeout error with
      | true => exact asked
      | false => exact asked

structure Unrepeatable (execution : Execution) : Prop where
  once : execution.idempotent = false
  oneLine : execution.speculates = false
  pending : execution.inFlight = [] ∨
    execution.phase = .inFlight ∧ ∃ attempt state, execution.inFlight = [(attempt, state)]

theorem Unrepeatable.erase_eq_nil (unrepeatable : execution.Unrepeatable) {attempt : AttemptId}
    {state : Attempt} (found : execution.inFlight.find? attempt = some state) :
    execution.phase = .inFlight ∧ execution.inFlight.erase attempt = [] := by
  rcases unrepeatable.pending with empty | ⟨running, only, sent, single⟩
  · rw [empty] at found
    cases found
  · refine ⟨running, ?_⟩
    have member := Table.mem_of_find? found
    rw [single] at member ⊢
    cases List.mem_singleton.mp member
    simp [Table.erase]

theorem Step.unrepeatable {speculation : SpeculationPolicy} {event : ExecutionEvent}
    {effects : List ExecutionEffect} (unrepeatable : before.Unrepeatable)
    (step : before.Step (.careful retryServerErrors) speculation event effects after) :
    after.Unrepeatable ∧ before.plan = targets effects ++ after.plan := by
  have ⟨once, oneLine, pending⟩ := unrepeatable
  have idle : before.phase ≠ .inFlight → before.inFlight = [] := fun elsewhere =>
    pending.resolve_right fun running => elsewhere running.1
  cases step with
  | idle unheeded => exact ⟨⟨once, oneLine, pending⟩, rfl⟩
  | @started node rest fresh planned =>
      have empty := idle (by rw [fresh]; nofun)
      refine ⟨⟨once, oneLine, Or.inr ⟨rfl, before.upcoming, ⟨node, 0⟩, ?_⟩⟩, ?_⟩
      · change Table.put before.upcoming _ before.inFlight = _
        rw [empty]
        rfl
      · rw [targets_send, targets_scheduleSpeculative]
        exact planned
  | unplanned fresh planned =>
      exact ⟨⟨once, oneLine, Or.inl (idle (by rw [fresh]; nofun))⟩, rfl⟩
  | resolved unfinished found => exact ⟨⟨once, oneLine, Or.inl rfl⟩, rfl⟩
  | @sentAgain attempt state error unfinished found decided =>
      rcases decide_once once state error with rethrows | ⟨moves, _⟩
      · rw [decided] at rethrows
        cases rethrows
      · rw [decided] at moves
        cases moves
  | @movedOn attempt state error node rest unfinished found decided planned =>
      obtain ⟨running, empty⟩ := unrepeatable.erase_eq_nil found
      obtain ⟨retryCounts, counted⟩ := countMove_eq (before.settle attempt state error) _ error
      rw [counted]
      refine ⟨⟨once, oneLine, Or.inr ⟨running, before.upcoming, ⟨node, state.line⟩, ?_⟩⟩, planned⟩
      change Table.put before.upcoming _ (before.inFlight.erase attempt) = _
      rw [empty]
      rfl
  | @exhausted attempt state error unfinished found decided planned last =>
      obtain ⟨retryCounts, counted⟩ := countMove_eq (before.settle attempt state error) _ error
      rw [counted]
      exact ⟨⟨once, oneLine, Or.inl last⟩, rfl⟩
  | lineEnded unfinished found decided planned others =>
      exact absurd (unrepeatable.erase_eq_nil found).2 others
  | rethrown unfinished found decided => exact ⟨⟨once, oneLine, Or.inl rfl⟩, rfl⟩
  | ignored unfinished found decided => exact ⟨⟨once, oneLine, Or.inl rfl⟩, rfl⟩
  | speculated running speculates planned =>
      rw [oneLine] at speculates
      cases speculates
  | expired running => exact ⟨⟨once, oneLine, Or.inl rfl⟩, rfl⟩
  | cancelled unfinished => exact ⟨⟨once, oneLine, Or.inl rfl⟩, rfl⟩

theorem Unrepeatable.run (retryServerErrors : Bool) (unrepeatable : execution.Unrepeatable)
    (asked : List (SpeculationPolicy × ExecutionEvent)) :
    let outcome := execution.run (asked.map (carefulTurn retryServerErrors))
    outcome.2.Unrepeatable ∧ execution.plan = targets outcome.1 ++ outcome.2.plan := by
  induction asked generalizing execution with
  | nil => exact ⟨unrepeatable, rfl⟩
  | cons turn rest ih =>
      have step := handle_step (.careful retryServerErrors) turn.1 execution turn.2
      obtain ⟨kept, sent⟩ := step.unrepeatable unrepeatable
      obtain ⟨final, later⟩ := ih kept
      refine ⟨final, ?_⟩
      change execution.plan = targets (_ ++ _) ++ _
      rw [targets_append, List.append_assoc, sent]
      exact congrArg _ later

/-- A doubtful failure of the attempt that is in flight ends the request with this failure. -/
theorem Step.failed_of_leavesDoubt {speculation : SpeculationPolicy}
    {effects : List ExecutionEffect} {attempt : AttemptId} {error : DriverError}
    (unrepeatable : before.Unrepeatable) (present : (before.inFlight.find? attempt).isSome = true)
    (doubt : error.leavesDoubt = true)
    (step : before.Step (.careful retryServerErrors) speculation (.failed attempt error)
      effects after) :
    after.phase = .failed ∧ effects = [.fail (error.withAttempts after.errors)] := by
  have rethrows : ∀ state, before.decide (.careful retryServerErrors) state error = .rethrow := by
    intro state
    refine (decide_once unrepeatable.once state error).resolve_right ?_
    rintro ⟨_, sure⟩
    rw [doubt] at sure
    cases sure
  cases step with
  | idle unheeded =>
      obtain ⟨state, found⟩ := Option.isSome_iff_exists.mp present
      rcases unheeded with ended | missing
      · rw [(unrepeatable.erase_eq_nil found).1] at ended
        cases ended
      · exact absurd (found.symm.trans missing) nofun
  | rethrown unfinished found decided => exact ⟨rfl, rfl⟩
  | sentAgain unfinished found decided | movedOn unfinished found decided
  | exhausted unfinished found decided | lineEnded unfinished found decided
  | ignored unfinished found decided =>
      rw [rethrows] at decided
      cases decided

/-- A request that must not be applied twice, under the careful policy: at any time at most
one attempt is in flight, and the nodes that were sent to, in order, are the part of the plan
that is used up. A failure of the attempt in flight that leaves doubt fails the request with
this failure, and nothing follows. -/
theorem unrepeatable_never_sent_in_doubt (retryServerErrors speculationEnabled : Bool)
    (plan : QueryPlan) (asked : List (SpeculationPolicy × ExecutionEvent)) :
    let outcome := (Execution.new plan false speculationEnabled).run
      (asked.map (carefulTurn retryServerErrors))
    outcome.2.inFlight.length ≤ 1 ∧ plan = targets outcome.1 ++ outcome.2.plan ∧
      ∀ attempt error speculation, (outcome.2.inFlight.find? attempt).isSome = true →
        error.leavesDoubt = true →
        let failing :=
          outcome.2.handle (.careful retryServerErrors) speculation (.failed attempt error)
        failing.2.phase = .failed ∧
          failing.1 = [.fail (error.withAttempts failing.2.errors)] ∧
          ∀ later, failing.2.run later = ([], failing.2) := by
  intro outcome
  have fresh : (Execution.new plan false speculationEnabled).Unrepeatable :=
    ⟨rfl, Bool.and_false _, Or.inl rfl⟩
  obtain ⟨unrepeatable, sent⟩ := fresh.run retryServerErrors asked
  refine ⟨?_, sent, ?_⟩
  · rcases unrepeatable.pending with empty | ⟨_, only, state, single⟩
    · rw [empty]
      exact Nat.zero_le 1
    · rw [single]
      exact Nat.le_refl 1
  · intro attempt error speculation present doubt failing
    have step := handle_step (.careful retryServerErrors) speculation outcome.2
      (.failed attempt error)
    obtain ⟨failed, told⟩ := step.failed_of_leavesDoubt unrepeatable present doubt
    exact ⟨failed, told, fun later => run_of_terminal later (congrArg Phase.isTerminal failed)⟩

/-- The first node of three closes its channel, a timer fires that nobody asked for, and the
second node does not finish a write in time. -/
def doubtfulWrite : List (SpeculationPolicy × ExecutionEvent) :=
  let never := SpeculationPolicy.never
  [(never, .start), (never, .failed ⟨0⟩ (.channelClosed "reset")), (never, .speculativeTimer)]

theorem doubtfulWrite_failed :
    let node (number : Nat) : Node :=
      { id := ⟨number⟩, info := { address := ⟨.ofParts 127 0 0 1, 9042, 0⟩ }, distance := .localDc }
    let outcome := (Execution.new [node 1, node 2, node 3] false true).run
      (doubtfulWrite.map (carefulTurn true))
    let failing := outcome.2.handle (.careful true) .never (.failed ⟨1⟩
      (.server ⟨.ofParts 127 0 0 1, 9042, 0⟩
        { code := .writeTimeout, message := "late", details := .writeTimeout 1 0 1 .batchLog } []))
    targets outcome.1 = [node 1, node 2] ∧ outcome.2.inFlight.length ≤ 1 ∧
      failing.2.phase = .failed ∧ ∀ later, failing.2.run later = ([], failing.2) := by
  intro node outcome failing
  obtain ⟨single, _, doubtful⟩ := unrepeatable_never_sent_in_doubt true true
    [node 1, node 2, node 3] doubtfulWrite
  obtain ⟨failed, _, quiet⟩ := doubtful ⟨1⟩
    (.server ⟨.ofParts 127 0 0 1, 9042, 0⟩
      { code := .writeTimeout, message := "late", details := .writeTimeout 1 0 1 .batchLog } [])
    .never rfl rfl
  exact ⟨rfl, single, failed, quiet⟩

end Execution

end CqlDriver
