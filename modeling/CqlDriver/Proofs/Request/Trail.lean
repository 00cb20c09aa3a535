/-
A run of a request seen turn by turn: the execution that each turn meets, the attempts that are
sent, and the failures that are handled. An attempt that was sent stays in flight until its
failure is handled or the request ends, and numbers are never given twice.
-/

import CqlDriver.Proofs.Request.Endings
import CqlDriver.Proofs.Request.Steps

namespace CqlDriver

/-- The attempts that are sent, each with its node, in order. -/
def sendings (effects : List ExecutionEffect) : List (AttemptId × Node) :=
  effects.filterMap fun
    | .send attempt node => some (attempt, node)
    | _ => none

theorem sendings_append (earlier later : List ExecutionEffect) :
    sendings (earlier ++ later) = sendings earlier ++ sendings later :=
  List.filterMap_append

theorem targets_eq_map (effects : List ExecutionEffect) :
    targets effects = (sendings effects).map (·.2) := by
  unfold targets sendings
  rw [List.map_filterMap]
  congr 1
  funext effect
  cases effect with
  | send attempt node => rfl
  | scheduleSpeculative | resolve | resolveIgnored | fail => rfl

def ExecutionEvent.opensLine : ExecutionEvent → Bool
  | .start | .speculativeTimer => true
  | _ => false

structure Failure where
  attempt : AttemptId
  node : Node
  error : DriverError

namespace Failure

def entry (failure : Failure) : SocketAddress × DriverError :=
  (failure.node.address, failure.error)

def sending (failure : Failure) : AttemptId × Node := (failure.attempt, failure.node)

end Failure

namespace Execution

def sendingsOf (inFlight : Table AttemptId Attempt) : List (AttemptId × Node) :=
  inFlight.map fun entry => (entry.1, entry.2.node)

/-- The attempts in flight, each with its node. -/
def pending (execution : Execution) : List (AttemptId × Node) := sendingsOf execution.inFlight

def failure? (execution : Execution) : ExecutionEvent → Option Failure
  | .failed attempt error =>
      if execution.phase.isTerminal then none
      else (execution.inFlight.find? attempt).map fun state => ⟨attempt, state.node, error⟩
  | _ => none

def resent? (policy : RetryPolicy) (execution : Execution) : ExecutionEvent → Option Attempt
  | .failed attempt error =>
      if execution.phase.isTerminal then none
      else
        (execution.inFlight.find? attempt).bind fun state =>
          if execution.decide policy state error = .retrySameNode then some state else none
  | _ => none

def turn (execution : Execution) (turn : ExecutionTurn) : List ExecutionEffect × Execution :=
  execution.handle turn.retry turn.speculation turn.event

/-- The turns of a run, each behind the execution that it meets. -/
def trail (execution : Execution) : List ExecutionTurn → List (Execution × ExecutionTurn)
  | [] => []
  | turn :: rest => (execution, turn) :: (execution.turn turn).2.trail rest

def failures (trail : List (Execution × ExecutionTurn)) : List Failure :=
  trail.filterMap fun met => met.1.failure? met.2.event

structure Numbered (execution : Execution) : Prop where
  distinct : execution.inFlight.keys.Nodup
  below : ∀ attempt ∈ execution.inFlight.keys, attempt.number < execution.nextAttempt
  alive : execution.phase = .inFlight → execution.inFlight ≠ []
  unsent : execution.phase = .notStarted → execution.inFlight = []

variable {execution before after : Execution} {policy : RetryPolicy}
  {speculation : SpeculationPolicy} {event : ExecutionEvent} {effects : List ExecutionEffect}

theorem numbered_new (plan : QueryPlan) (idempotent speculationEnabled : Bool) :
    (new plan idempotent speculationEnabled).Numbered :=
  ⟨List.nodup_nil, nofun, nofun, fun _ => rfl⟩

theorem turn_step (execution : Execution) (turn : ExecutionTurn) :
    execution.Step turn.retry turn.speculation turn.event (execution.turn turn).1
      (execution.turn turn).2 :=
  handle_step turn.retry turn.speculation execution turn.event

theorem run_append (execution : Execution) (earlier later : List ExecutionTurn) :
    execution.run (earlier ++ later) =
      ((execution.run earlier).1 ++ ((execution.run earlier).2.run later).1,
        ((execution.run earlier).2.run later).2) := by
  induction earlier generalizing execution with
  | nil => rfl
  | cons turn rest ih =>
      change (_ ++ ((execution.turn turn).2.run (rest ++ later)).1,
        ((execution.turn turn).2.run (rest ++ later)).2) = _
      rw [ih, ← List.append_assoc]
      rfl

theorem run_append_singleton (execution : Execution) (turns : List ExecutionTurn)
    (turn : ExecutionTurn) :
    execution.run (turns ++ [turn]) =
      ((execution.run turns).1 ++ ((execution.run turns).2.turn turn).1,
        ((execution.run turns).2.turn turn).2) := by
  rw [run_append]
  change (_ ++ (_ ++ []), _) = _
  rw [List.append_nil]
  rfl

theorem exists_of_mem_trail {turns : List ExecutionTurn} {met : Execution × ExecutionTurn}
    (member : met ∈ execution.trail turns) :
    ∃ earlier later, turns = earlier ++ met.2 :: later ∧ met.1 = (execution.run earlier).2 := by
  induction turns generalizing execution with
  | nil => cases member
  | cons turn rest ih =>
      rcases List.mem_cons.mp member with same | further
      · exact ⟨[], rest, by rw [same]; rfl, by rw [same]; rfl⟩
      · obtain ⟨earlier, later, split, left⟩ := ih further
        exact ⟨turn :: earlier, later, by rw [split]; rfl, left⟩

theorem failures_cons (execution : Execution) (turn : ExecutionTurn)
    (rest : List (Execution × ExecutionTurn)) :
    failures ((execution, turn) :: rest) =
      (execution.failure? turn.event).toList ++ failures rest := by
  unfold failures
  rw [List.filterMap_cons]
  cases execution.failure? turn.event with
  | none => rfl
  | some failure => rfl

theorem sendings_scheduleSpeculative (speculation : SpeculationPolicy) (execution : Execution) :
    sendings (execution.scheduleSpeculative speculation) = [] := by
  have quiet := targets_scheduleSpeculative speculation execution
  rw [targets_eq_map] at quiet
  exact List.map_eq_nil_iff.mp quiet

theorem sendings_send (attempt : AttemptId) (node : Node) (speculation : SpeculationPolicy)
    (execution : Execution) :
    sendings (.send attempt node :: execution.scheduleSpeculative speculation) =
      [(attempt, node)] :=
  congrArg ((attempt, node) :: ·) (sendings_scheduleSpeculative speculation execution)

theorem failure?_of_found {attempt : AttemptId} {state : Attempt} (error : DriverError)
    (unfinished : execution.phase.isTerminal = false)
    (found : execution.inFlight.find? attempt = some state) :
    execution.failure? (.failed attempt error) = some ⟨attempt, state.node, error⟩ := by
  unfold failure?
  dsimp only
  rw [if_neg (by rw [unfinished]; exact Bool.false_ne_true), found]
  rfl

theorem Idle.failure? (idle : execution.Idle event) : execution.failure? event = none := by
  cases event with
  | failed attempt error =>
      unfold Execution.failure?
      dsimp only
      rcases idle with ended | missing
      · rw [if_pos ended]
      · have absent : execution.inFlight.find? attempt = none := missing
        rw [absent, Option.map_none, ite_self]
  | start | succeeded | speculativeTimer | deadlineExpired | cancelled => rfl

theorem resent?_of_found {attempt : AttemptId} {state : Attempt} {error : DriverError}
    (unfinished : execution.phase.isTerminal = false)
    (found : execution.inFlight.find? attempt = some state) :
    execution.resent? policy (.failed attempt error) =
      if execution.decide policy state error = .retrySameNode then some state else none := by
  unfold resent?
  dsimp only
  rw [if_neg (by rw [unfinished]; exact Bool.false_ne_true), found]
  rfl

theorem Idle.resent? (idle : execution.Idle event) (policy : RetryPolicy) :
    execution.resent? policy event = none := by
  cases event with
  | failed attempt error =>
      unfold Execution.resent?
      dsimp only
      rcases idle with ended | missing
      · rw [if_pos ended]
      · have absent : execution.inFlight.find? attempt = none := missing
        rw [absent, Option.bind_none, ite_self]
  | start | succeeded | speculativeTimer | deadlineExpired | cancelled => rfl

theorem decide_of_resent? {state : Attempt}
    (resent : execution.resent? policy event = some state) :
    ∃ attempt error, event = .failed attempt error ∧
      execution.decide policy state error = .retrySameNode := by
  cases event with
  | failed attempt error =>
      unfold resent? at resent
      dsimp only at resent
      split at resent
      · cases resent
      · obtain ⟨known, _, chosen⟩ := Option.bind_eq_some_iff.mp resent
        split at chosen
        · rename_i decided
          cases chosen
          exact ⟨attempt, error, rfl, decided⟩
        · cases chosen
  | start | succeeded | speculativeTimer | deadlineExpired | cancelled => cases resent

theorem Numbered.upcoming_fresh (numbered : execution.Numbered) :
    execution.upcoming ∉ execution.inFlight.keys :=
  fun member => Nat.lt_irrefl _ (numbered.below _ member)

theorem Numbered.settle (numbered : execution.Numbered) (attempt : AttemptId) :
    (execution.inFlight.erase attempt).keys.Nodup ∧
      ∀ other ∈ (execution.inFlight.erase attempt).keys,
        other.number < execution.nextAttempt := by
  refine ⟨Table.nodup_keys_erase numbered.distinct attempt, fun other member => ?_⟩
  rw [Table.keys_erase] at member
  exact numbered.below other (List.mem_filter.mp member |>.1)

theorem Numbered.running (numbered : execution.Numbered) {attempt : AttemptId} {state : Attempt}
    (unfinished : execution.phase.isTerminal = false)
    (found : execution.inFlight.find? attempt = some state) : execution.phase = .inFlight := by
  cases phase : execution.phase with
  | inFlight => rfl
  | notStarted =>
      rw [numbered.unsent phase] at found
      cases found
  | resolved | failed | cancelled =>
      rw [phase] at unfinished
      cases unfinished

theorem Numbered.sendTo {inFlight : Table AttemptId Attempt} {attempt : AttemptId}
    {state : Attempt} (distinct : inFlight.keys.Nodup)
    (below : ∀ other ∈ inFlight.keys, other.number < attempt.number)
    (running : after.phase = .inFlight) (now : after.inFlight = inFlight.put attempt state)
    (next : after.nextAttempt = attempt.number + 1) : after.Numbered := by
  have fresh : attempt ∉ inFlight.keys := fun member => Nat.lt_irrefl _ (below _ member)
  have placed : after.inFlight = inFlight ++ [(attempt, state)] :=
    now.trans (Table.put_of_not_mem fresh state)
  refine ⟨?_, fun other member => ?_, fun _ empty => ?_, fun unstarted => ?_⟩
  · rw [now]
    exact Table.nodup_keys_put distinct attempt state
  · rw [now, Table.keys_put, if_neg fresh] at member
    rw [next]
    rcases List.mem_append.mp member with earlier | new
    · exact Nat.lt_succ_of_lt (below other earlier)
    · rw [List.mem_singleton.mp new]
      exact Nat.lt_succ_self attempt.number
  · rw [placed] at empty
    exact List.cons_ne_nil _ _ (List.append_eq_nil_iff.mp empty).2
  · rw [running] at unstarted
    cases unstarted

theorem Numbered.ended (empty : execution.inFlight = [])
    (notRunning : execution.phase ≠ .inFlight) : execution.Numbered := by
  refine ⟨?_, ?_, fun running => absurd running notRunning, fun _ => empty⟩
  · rw [empty]
    exact List.nodup_nil
  · rw [empty]
    exact nofun

theorem Step.numbered (numbered : before.Numbered)
    (step : before.Step policy speculation event effects after) : after.Numbered := by
  cases step with
  | idle unheeded => exact numbered
  | started fresh planned =>
      exact Numbered.sendTo numbered.distinct numbered.below rfl rfl rfl
  | speculated running speculates planned =>
      exact Numbered.sendTo numbered.distinct numbered.below running rfl rfl
  | unplanned fresh planned => exact Numbered.ended (numbered.unsent fresh) nofun
  | sentAgain unfinished found decided =>
      obtain ⟨distinct, below⟩ := numbered.settle _
      exact Numbered.sendTo distinct below (numbered.running unfinished found) rfl rfl
  | @movedOn attempt state error node rest unfinished found decided planned =>
      obtain ⟨distinct, below⟩ := numbered.settle attempt
      obtain ⟨retryCounts, counted⟩ := countMove_eq (before.settle attempt state error) _ error
      rw [counted]
      exact Numbered.sendTo distinct below (numbered.running unfinished found) rfl rfl
  | exhausted unfinished found decided planned last =>
      exact Numbered.ended ((countMove_inFlight _ _ _).trans last) nofun
  | @lineEnded attempt state error unfinished found decided planned others =>
      obtain ⟨distinct, below⟩ := numbered.settle attempt
      have running := numbered.running unfinished found
      obtain ⟨retryCounts, counted⟩ := countMove_eq (before.settle attempt state error) _ error
      rw [counted]
      refine ⟨distinct, below, fun _ => others, fun unstarted => ?_⟩
      cases running.symm.trans unstarted
  | resolved | rethrown | ignored | expired | cancelled => exact Numbered.ended rfl nofun

theorem Step.unstarted (numbered : before.Numbered)
    (step : before.Step policy speculation event effects after)
    (fresh : after.phase = .notStarted) : after = before ∧ effects = [] := by
  have never : ∀ {attempt : AttemptId} {state : Attempt},
      before.phase.isTerminal = false → before.inFlight.find? attempt = some state →
      before.phase ≠ .notStarted := by
    intro attempt state unfinished found unsent
    cases (numbered.running unfinished found).symm.trans unsent
  cases step with
  | idle unheeded => exact ⟨rfl, rfl⟩
  | sentAgain unfinished found decided => exact absurd fresh (never unfinished found)
  | movedOn unfinished found decided planned =>
      exact absurd ((countMove_phase _ _ _).symm.trans fresh) (never unfinished found)
  | lineEnded unfinished found decided planned others =>
      exact absurd ((countMove_phase _ _ _).symm.trans fresh) (never unfinished found)
  | speculated running => cases running.symm.trans fresh
  | started | unplanned | resolved | exhausted | rethrown | ignored | expired | cancelled =>
      cases fresh

theorem Step.numbers (step : before.Step policy speculation event effects after) :
    (sendings effects).map (·.1.number) =
        List.range' before.nextAttempt (sendings effects).length ∧
      after.nextAttempt = before.nextAttempt + (sendings effects).length := by
  cases step with
  | started fresh planned | speculated running speculates planned =>
      rw [sendings_send]
      exact ⟨rfl, rfl⟩
  | sentAgain unfinished found decided => exact ⟨rfl, rfl⟩
  | movedOn unfinished found decided planned =>
      exact ⟨rfl, congrArg (· + 1) (countMove_nextAttempt _ _ _)⟩
  | exhausted unfinished found decided planned last
  | lineEnded unfinished found decided planned others =>
      exact ⟨rfl, countMove_nextAttempt _ _ _⟩
  | idle | unplanned | resolved | rethrown | ignored | expired | cancelled => exact ⟨rfl, rfl⟩

/-- A failure is recorded when it is handled, and nothing else is. -/
theorem Step.errors_eq (step : before.Step policy speculation event effects after) :
    after.errors = before.errors ++ (before.failure? event).toList.map Failure.entry := by
  cases step with
  | idle unheeded =>
      rw [unheeded.failure?]
      exact (List.append_nil _).symm
  | sentAgain unfinished found decided | rethrown unfinished found decided
  | ignored unfinished found decided =>
      rw [failure?_of_found _ unfinished found]
      rfl
  | movedOn unfinished found decided planned
  | exhausted unfinished found decided planned last
  | lineEnded unfinished found decided planned others =>
      rw [failure?_of_found _ unfinished found]
      exact countMove_errors _ _ _
  | started | unplanned | resolved | speculated | expired | cancelled =>
      exact (List.append_nil _).symm

theorem sendingsOf_put {inFlight : Table AttemptId Attempt} {attempt : AttemptId}
    (fresh : attempt ∉ inFlight.keys) (state : Attempt) :
    sendingsOf (inFlight.put attempt state) = sendingsOf inFlight ++ [(attempt, state.node)] := by
  unfold sendingsOf
  rw [Table.put_of_not_mem fresh, List.map_append]
  rfl

theorem sendingsOf_erase {inFlight : Table AttemptId Attempt} {attempt : AttemptId}
    {state : Attempt} (distinct : inFlight.keys.Nodup)
    (found : inFlight.find? attempt = some state) :
    (sendingsOf inFlight).Perm ((attempt, state.node) :: sendingsOf (inFlight.erase attempt)) :=
  (Table.perm_erase distinct found).map _

theorem Numbered.added (numbered : execution.Numbered) (next : Attempt) :
    (execution.pending ++ [(execution.upcoming, next.node)]).Perm
      (sendingsOf (execution.inFlight.put execution.upcoming next) ++ []) := by
  rw [sendingsOf_put numbered.upcoming_fresh, List.append_nil]
  exact List.Perm.refl _

theorem Numbered.replaced (numbered : execution.Numbered) {attempt : AttemptId}
    {state : Attempt} (found : execution.inFlight.find? attempt = some state) (next : Attempt) :
    (execution.pending ++ [(execution.upcoming, next.node)]).Perm
      (sendingsOf ((execution.inFlight.erase attempt).put execution.upcoming next) ++
        [(attempt, state.node)]) := by
  have fresh : execution.upcoming ∉ (execution.inFlight.erase attempt).keys :=
    fun member => Nat.lt_irrefl _ ((numbered.settle attempt).2 _ member)
  rw [sendingsOf_put fresh]
  exact ((sendingsOf_erase numbered.distinct found).append_right _).trans
    (List.perm_append_singleton _ _).symm

/-- One event of a request that does not end by it: what is sent is added to the attempts in
flight, and what has failed is taken from them. -/
theorem Step.balance (numbered : before.Numbered)
    (step : before.Step policy speculation event effects after)
    (goesOn : after.phase.isTerminal = false) :
    (before.pending ++ sendings effects).Perm
      (after.pending ++ (before.failure? event).toList.map Failure.sending) := by
  cases step with
  | idle unheeded =>
      rw [unheeded.failure?]
      exact List.Perm.refl _
  | @started node rest fresh planned =>
      rw [sendings_send]
      exact numbered.added ⟨node, 0⟩
  | @speculated node rest running speculates planned =>
      rw [sendings_send]
      exact numbered.added ⟨node, before.retryCounts.length⟩
  | sentAgain unfinished found decided =>
      rw [failure?_of_found _ unfinished found]
      exact numbered.replaced found _
  | @movedOn attempt state error node rest unfinished found decided planned =>
      rw [failure?_of_found error unfinished found]
      obtain ⟨retryCounts, counted⟩ := countMove_eq (before.settle attempt state error) _ error
      rw [counted]
      exact numbered.replaced found ⟨node, state.line⟩
  | @lineEnded attempt state error unfinished found decided planned others =>
      rw [failure?_of_found error unfinished found]
      obtain ⟨retryCounts, counted⟩ := countMove_eq (before.settle attempt state error) _ error
      rw [counted]
      refine List.Perm.trans (List.Perm.of_eq (List.append_nil _)) ?_
      exact (sendingsOf_erase numbered.distinct found).trans
        (List.perm_append_singleton _ _).symm
  | unplanned | resolved | exhausted | rethrown | ignored | expired | cancelled => cases goesOn

theorem Step.plan_cases (step : before.Step policy speculation event effects after) :
    (∃ state, before.resent? policy event = some state ∧
      sendings effects = [(before.upcoming, state.node)] ∧ after.plan = before.plan) ∨
    (before.resent? policy event = none ∧ before.plan = targets effects ++ after.plan) := by
  cases step with
  | idle unheeded => exact Or.inr ⟨unheeded.resent? policy, rfl⟩
  | sentAgain unfinished found decided =>
      refine Or.inl ⟨_, ?_, rfl, rfl⟩
      rw [resent?_of_found unfinished found, if_pos decided]
  | started fresh planned | speculated running speculates planned =>
      refine Or.inr ⟨rfl, ?_⟩
      rw [targets_send, targets_scheduleSpeculative]
      exact planned
  | movedOn unfinished found decided planned =>
      refine Or.inr ⟨?_, planned⟩
      rw [resent?_of_found unfinished found, decided, if_neg nofun]
  | exhausted unfinished found decided planned last
  | lineEnded unfinished found decided planned others =>
      refine Or.inr ⟨?_, (countMove_plan (before.settle _ _ _) _ _).symm⟩
      rw [resent?_of_found unfinished found, decided, if_neg nofun]
  | rethrown unfinished found decided | ignored unfinished found decided =>
      refine Or.inr ⟨?_, rfl⟩
      rw [resent?_of_found unfinished found, decided, if_neg nofun]
  | unplanned | resolved | expired | cancelled => exact Or.inr ⟨rfl, rfl⟩

end Execution

end CqlDriver
