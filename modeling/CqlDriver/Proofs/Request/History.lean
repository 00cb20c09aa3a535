/-
What a request remembers of its failures. Every attempt that was sent is in flight or has a
recorded failure; the failures stand in the order in which they were handled; and the error
that ends a request carries all of them. A request gives up for want of nodes only when each
node of its plan was tried and each attempt has failed.
-/

import Mathlib.Data.List.Perm.Subperm
import CqlDriver.Proofs.Request.Endings
import CqlDriver.Proofs.Request.Trail

namespace CqlDriver

namespace DriverError

/-- Errors with which an attempt can end: failures of the transport, answers that report an
error, and answers that did not come in time. -/
def endsAttempt : DriverError → Bool
  | .server .. | .requestTimeout .. => true
  | other => other.isConnectionLevel

def history? : DriverError → Option NodeErrors
  | .server _ _ attempts | .requestTimeout _ attempts | .noNodeAvailable attempts => some attempts
  | _ => none

/-- A failure that was not the transport's can carry the failures before it. -/
theorem history?_withAttempts {error : DriverError} (ends : error.endsAttempt = true)
    (answered : error.isConnectionLevel = false) (history : NodeErrors) :
    (error.withAttempts history).history? = some history := by
  cases error with
  | server | requestTimeout => rfl
  | noNodeAvailable | cancelled | configuration => cases ends
  | _ => cases answered

theorem withAttempts_ne_noNodeAvailable {error : DriverError} (ends : error.endsAttempt = true)
    (history attempts : NodeErrors) : error.withAttempts history ≠ .noNodeAvailable attempts := by
  cases error with
  | noNodeAvailable => cases ends
  | _ => nofun

end DriverError

def ExecutionEvent.isCredible : ExecutionEvent → Bool
  | .failed _ error => error.endsAttempt
  | _ => true

namespace Execution

variable {execution before after : Execution} {policy : RetryPolicy}
  {speculation : SpeculationPolicy} {event : ExecutionEvent} {effects : List ExecutionEffect}

theorem answered_of_rethrow {state : Attempt} {error : DriverError}
    (decided : execution.decide policy state error = .rethrow) :
    error.isConnectionLevel = false := by
  unfold decide at decided
  cases transport : error.isConnectionLevel with
  | false => rfl
  | true =>
      rw [transport, if_pos rfl] at decided
      cases decided

theorem fail_mem_endings {error : DriverError} :
    .fail error ∈ endings effects ↔ .fail error ∈ effects := by
  unfold endings
  rw [List.mem_filter]
  exact and_iff_left rfl

/-- An error that ends the request carries every failure that is recorded by then. -/
theorem Step.history_eq (step : before.Step policy speculation event effects after)
    (credible : event.isCredible = true) {error : DriverError} (told : .fail error ∈ effects) :
    error.history? = some after.errors := by
  cases step with
  | started fresh planned | speculated running speculates planned =>
      rw [← fail_mem_endings, endings_sent rfl] at told
      cases told
  | unplanned fresh planned | expired running =>
      cases List.mem_singleton.mp told
      rfl
  | exhausted unfinished found decided planned last =>
      cases List.mem_singleton.mp told
      exact congrArg some (countMove_errors _ _ _).symm
  | rethrown unfinished found decided =>
      cases List.mem_singleton.mp told
      exact DriverError.history?_withAttempts credible (answered_of_rethrow decided) _
  | sentAgain | movedOn | resolved | ignored => cases List.mem_singleton.mp told
  | idle | lineEnded | cancelled => cases told

/-- A request that gives up for want of nodes has no node left and waits for nothing. -/
theorem Step.exhausts (numbered : before.Numbered)
    (step : before.Step policy speculation event effects after) (credible : event.isCredible = true)
    {errors : NodeErrors} (told : .fail (.noNodeAvailable errors) ∈ effects) :
    after.plan = [] ∧ (before.pending ++ sendings effects).Perm
      ((before.failure? event).toList.map Failure.sending) := by
  cases step with
  | started fresh planned | speculated running speculates planned =>
      rw [← fail_mem_endings, endings_sent rfl] at told
      cases told
  | unplanned fresh planned =>
      refine ⟨planned, ?_⟩
      unfold pending
      rw [numbered.unsent fresh]
      exact List.Perm.refl _
  | exhausted unfinished found decided planned last =>
      refine ⟨(countMove_plan _ _ _).trans planned, ?_⟩
      have settled := sendingsOf_erase numbered.distinct found
      rw [last] at settled
      rw [failure?_of_found _ unfinished found]
      exact (List.Perm.of_eq (List.append_nil _)).trans settled
  | rethrown unfinished found decided =>
      have same := ExecutionEffect.fail.inj (List.mem_singleton.mp told)
      exact absurd same.symm
        (DriverError.withAttempts_ne_noNodeAvailable credible _ _)
  | sentAgain | movedOn | resolved | ignored | expired => cases List.mem_singleton.mp told
  | idle | lineEnded | cancelled => cases told

structure Accounts (plan : QueryPlan) (execution : Execution) (told : List ExecutionEffect)
    (handled : List Failure) : Prop where
  numbered : execution.Numbered
  numbers : (sendings told).map (·.1.number) = List.range execution.nextAttempt
  recorded : execution.errors = handled.map Failure.entry
  /-- Until the request ends, what was sent is in flight or has failed. -/
  balanced : execution.phase.isTerminal = false →
    (sendings told).Perm (execution.pending ++ handled.map Failure.sending)
  tried : ∃ used, plan = used ++ execution.plan ∧ used.Sublist (targets told)
  unfailed : execution.phase.isTerminal = false → ∀ error, .fail error ∉ told
  complete : ∀ error, .fail error ∈ told → error.history? = some execution.errors
  exhausted : ∀ errors, .fail (.noNodeAvailable errors) ∈ told →
    execution.plan = [] ∧ (sendings told).Perm (handled.map Failure.sending)

theorem accounts_new (plan : QueryPlan) (idempotent speculationEnabled : Bool) :
    Accounts plan (new plan idempotent speculationEnabled) [] [] :=
  ⟨numbered_new plan idempotent speculationEnabled, rfl, rfl, fun _ => List.Perm.refl _,
    ⟨[], rfl, List.Sublist.refl _⟩, fun _ _ => nofun, nofun, nofun⟩

variable {plan : QueryPlan} {told : List ExecutionEffect} {handled : List Failure}

theorem Accounts.balanced_append (accounts : Accounts plan execution told handled)
    (unfinished : execution.phase.isTerminal = false) {pending : List (AttemptId × Node)}
    {failed : List Failure}
    (now : (execution.pending ++ sendings effects).Perm
      (pending ++ failed.map Failure.sending)) :
    (sendings (told ++ effects)).Perm (pending ++ (handled ++ failed).map Failure.sending) := by
  rw [sendings_append, List.map_append]
  refine ((accounts.balanced unfinished).append_right _).trans ?_
  have sorted : (execution.pending ++ handled.map Failure.sending ++ sendings effects).Perm
      (execution.pending ++ sendings effects ++ handled.map Failure.sending) := by
    rw [List.append_assoc, List.append_assoc]
    exact List.perm_append_comm.append_left _
  refine (sorted.trans (now.append_right _)).trans ?_
  rw [List.append_assoc]
  exact List.perm_append_comm.append_left _

theorem Accounts.turn (accounts : Accounts plan execution told handled) (turn : ExecutionTurn)
    (credible : turn.event.isCredible = true) :
    Accounts plan (execution.turn turn).2 (told ++ (execution.turn turn).1)
      (handled ++ (execution.failure? turn.event).toList) := by
  cases ended : execution.phase.isTerminal with
  | true =>
      have nothing : execution.turn turn = ([], execution) := handle_of_terminal _ _ _ ended
      have unheeded : execution.Idle turn.event := Or.inl ended
      rw [nothing, unheeded.failure?, Option.toList_none, List.append_nil, List.append_nil]
      exact accounts
  | false =>
      have step := turn_step execution turn
      have reported := handle_reported turn.retry turn.speculation execution turn.event ended
      obtain ⟨numbers, next⟩ := step.numbers
      have unfailed := accounts.unfailed ended
      have now : ∀ {error}, .fail error ∈ told ++ (execution.turn turn).1 →
          .fail error ∈ (execution.turn turn).1 := fun member =>
        (List.mem_append.mp member).resolve_left (unfailed _)
      refine ⟨step.numbered accounts.numbered, ?_, ?_, fun goesOn => ?_, ?_, ?_, ?_, ?_⟩
      · rw [sendings_append, List.map_append, accounts.numbers, numbers, next,
          List.range_eq_range', List.range_eq_range', ← List.range'_append_1, Nat.zero_add]
      · rw [step.errors_eq, accounts.recorded, List.map_append]
      · exact accounts.balanced_append ended (step.balance accounts.numbered goesOn)
      · obtain ⟨used, split, earlier⟩ := accounts.tried
        rw [targets_append]
        rcases step.plan_cases with ⟨state, again, sent, samePlan⟩ | ⟨_, taken⟩
        · exact ⟨used, by rw [samePlan, split], earlier.trans (List.sublist_append_left _ _)⟩
        · refine ⟨used ++ targets (execution.turn turn).1, ?_, earlier.append (List.Sublist.refl _)⟩
          rw [split, taken, List.append_assoc]
      · intro goesOn error member
        have quiet := reported.eq_nil goesOn
        have ending := fail_mem_endings.mpr (now member)
        unfold Execution.turn at ending
        rw [quiet] at ending
        cases ending
      · intro error member
        exact step.history_eq credible (now member)
      · intro errors member
        obtain ⟨nothing, emptied⟩ := step.exhausts accounts.numbered credible (now member)
        have cleared : (execution.pending ++ sendings (execution.turn turn).1).Perm
            ([] ++ (execution.failure? turn.event).toList.map Failure.sending) := emptied
        exact ⟨nothing, accounts.balanced_append ended cleared⟩

theorem Accounts.run (accounts : Accounts plan execution told handled)
    {turns : List ExecutionTurn} (credible : ∀ turn ∈ turns, turn.event.isCredible = true) :
    Accounts plan (execution.run turns).2 (told ++ (execution.run turns).1)
      (handled ++ failures (execution.trail turns)) := by
  induction turns generalizing execution told handled with
  | nil =>
      change Accounts plan execution (told ++ []) (handled ++ [])
      rw [List.append_nil, List.append_nil]
      exact accounts
  | cons turn rest ih =>
      obtain ⟨first, later⟩ := List.forall_mem_cons.mp credible
      have settled := ih (accounts.turn turn first) later
      rw [List.append_assoc, List.append_assoc, ← failures_cons] at settled
      exact settled

/-- Whatever the policies decide, as long as attempts fail only with errors that can end one:
the attempts that were sent are numbered in order, and until the request ends each of them is
in flight or has failed. The recorded failures are those that were handled, in this order,
and an error that ends the request carries them all. When it is the want of nodes, the plan
is used up, each attempt has failed once, and each place of the plan has a failure. -/
theorem failures_accounted (plan : QueryPlan) (idempotent speculationEnabled : Bool)
    (turns : List ExecutionTurn) (credible : ∀ turn ∈ turns, turn.event.isCredible = true) :
    let start := Execution.new plan idempotent speculationEnabled
    let outcome := start.run turns
    let sent := sendings outcome.1
    let failed := failures (start.trail turns)
    sent.map (·.1.number) = List.range sent.length ∧
    (outcome.2.phase.isTerminal = false →
      sent.length = outcome.2.inFlight.length + outcome.2.errors.length ∧
      sent.Perm (outcome.2.pending ++ failed.map Failure.sending)) ∧
    outcome.2.errors = failed.map Failure.entry ∧
    (∀ error, .fail error ∈ outcome.1 → error.history? = some outcome.2.errors) ∧
    ∀ errors, .fail (.noNodeAvailable errors) ∈ outcome.1 →
      outcome.2.plan = [] ∧ errors = outcome.2.errors ∧ errors.length = sent.length ∧
      sent.Perm (failed.map Failure.sending) ∧
      (plan.map Node.address).Subperm (errors.map Prod.fst) := by
  intro start outcome sent failed
  have accounts : Accounts plan outcome.2 outcome.1 failed :=
    (accounts_new plan idempotent speculationEnabled).run credible
  have recorded : outcome.2.errors.length = failed.length := by
    rw [accounts.recorded, List.length_map]
  refine ⟨?_, fun goesOn => ?_, accounts.recorded, accounts.complete, fun errors told => ?_⟩
  · have length := congrArg List.length accounts.numbers
    rw [List.length_map, List.length_range] at length
    rw [accounts.numbers, ← length]
  · have balanced := accounts.balanced goesOn
    refine ⟨?_, balanced⟩
    rw [recorded, balanced.length_eq, List.length_append, List.length_map]
    exact congrArg (· + failed.length) (List.length_map _)
  · obtain ⟨nothing, all⟩ := accounts.exhausted errors told
    have same : errors = outcome.2.errors := Option.some.inj (accounts.complete _ told)
    refine ⟨nothing, same, ?_, all, ?_⟩
    · rw [same, recorded, all.length_eq, List.length_map]
    · obtain ⟨used, split, tried⟩ := accounts.tried
      rw [nothing, List.append_nil] at split
      rw [split, same, accounts.recorded, List.map_map]
      have addresses : (targets outcome.1).map Node.address =
          sent.map (fun sending => sending.2.address) := by
        rw [targets_eq_map, List.map_map]
        rfl
      refine ((tried.map Node.address).subperm).trans ?_
      rw [addresses]
      refine ((all.map _).trans (List.Perm.of_eq ?_)).subperm
      rw [List.map_map]
      rfl

/-- Two lines over two nodes. A read that found no data is sent to its node again; the other
node closes its channel; then the first one is overloaded. -/
def twoLinesExhausted : List ExecutionTurn :=
  let turn (event : ExecutionEvent) : ExecutionTurn :=
    { retry := .careful false, speculation := .constant 2 .zero, event }
  let answer (error : ServerError) : DriverError :=
    .server ⟨.ofParts 127 0 0 1, 9042, 0⟩ error []
  [turn .start, turn .speculativeTimer,
    turn (.failed ⟨0⟩ (answer
      { code := .readTimeout, message := "late", details := .readTimeout 1 1 1 false })),
    turn (.failed ⟨1⟩ (.channelClosed "reset")),
    turn (.failed ⟨2⟩ (answer { code := .overloaded, message := "busy" }))]

theorem twoLinesExhausted_accounted :
    let node (number : Nat) : Node :=
      { id := ⟨number⟩, info := { address := ⟨.ofParts 127 0 0 number, 9042, 0⟩ }
        distance := .localDc }
    let outcome := (Execution.new [node 1, node 2] true true).run twoLinesExhausted
    sendings outcome.1 = [(⟨0⟩, node 1), (⟨1⟩, node 2), (⟨2⟩, node 1)] ∧
      ∃ errors, .fail (.noNodeAvailable errors) ∈ outcome.1 ∧ errors.length = 3 ∧
        ([node 1, node 2].map Node.address).Subperm (errors.map Prod.fst) := by
  intro node outcome
  obtain ⟨_, _, _, _, exhausted⟩ := failures_accounted [node 1, node 2] true true
    twoLinesExhausted (by decide)
  refine ⟨rfl, outcome.2.errors, ?_, ?_⟩
  · exact List.mem_of_getLast? rfl
  · obtain ⟨_, _, count, _, tried⟩ := exhausted outcome.2.errors (List.mem_of_getLast? rfl)
    exact ⟨count, tried⟩

end Execution

end CqlDriver
