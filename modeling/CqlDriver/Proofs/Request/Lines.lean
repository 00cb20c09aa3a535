/-
The lines of a request, told from what is sent alone. An attempt opens a line, or it takes the
place of one that failed, at the same node or at the next one of the plan. What does not go to a
node again uses the plan up in order; the node and the line that a request keeps with an attempt
are those to which it was sent; and the winner is the node of the attempt that ended the request.
-/

import CqlDriver.Proofs.Request.Loop
import CqlDriver.Proofs.Request.Retries

namespace CqlDriver

/-- Why an attempt is sent: as the first of a line, to the node of a failed attempt again, or
to the next node in place of one. -/
inductive Occasion where
  | opening
  | again (failed : AttemptId)
  | onward (failed : AttemptId)
  deriving DecidableEq, Repr

namespace Occasion

def failed? : Occasion → Option AttemptId
  | .opening => none
  | .again failed | .onward failed => some failed

def isAgain : Occasion → Bool
  | .again _ => true
  | .opening | .onward _ => false

end Occasion

structure Dispatch where
  attempt : AttemptId
  node : Node
  occasion : Occasion
  deriving DecidableEq, Repr

namespace Dispatch

def on (occasion : Occasion) (sending : AttemptId × Node) : Dispatch :=
  ⟨sending.1, sending.2, occasion⟩

def sending (dispatch : Dispatch) : AttemptId × Node := (dispatch.attempt, dispatch.node)

def opensLine (dispatch : Dispatch) : Bool := dispatch.occasion.failed?.isNone

def usesPlan (dispatch : Dispatch) : Bool := !dispatch.occasion.isAgain

end Dispatch

/-- The request ends with an answer, though it may be an empty one. -/
def ExecutionEffect.resolves : ExecutionEffect → Bool
  | .resolve _ | .resolveIgnored => true
  | .send .. | .scheduleSpeculative _ | .fail _ => false

/-- The line of an attempt among those that were sent, the latest first. The lines are numbered
in the order in which they are opened. -/
def lineAmong : List Dispatch → AttemptId → Option Nat
  | [], _ => none
  | last :: earlier, attempt =>
      if last.attempt = attempt then
        match last.occasion.failed? with
        | none => some (earlier.countP Dispatch.opensLine)
        | some failed => lineAmong earlier failed
      else lineAmong earlier attempt

def lineOf (sent : List Dispatch) (attempt : AttemptId) : Option Nat :=
  lineAmong sent.reverse attempt

/-- The nodes that were taken from the plan, in order. -/
def takenFromPlan (sent : List Dispatch) : List Node :=
  (sent.filter Dispatch.usesPlan).map Dispatch.node

section

variable {sent : List Dispatch} {last : Dispatch} {attempt failed : AttemptId}

theorem lineOf_append_of_ne (other : last.attempt ≠ attempt) :
    lineOf (sent ++ [last]) attempt = lineOf sent attempt := by
  simp [lineOf, lineAmong, other]

theorem lineOf_append_opening (opens : last.occasion = .opening) :
    lineOf (sent ++ [last]) last.attempt = some (sent.countP Dispatch.opensLine) := by
  simp [lineOf, lineAmong, opens, Occasion.failed?]

theorem lineOf_append_replacing (replaces : last.occasion.failed? = some failed) :
    lineOf (sent ++ [last]) last.attempt = lineOf sent failed := by
  simp [lineOf, lineAmong, replaces]

end

namespace Execution

def occasion (policy : RetryPolicy) (execution : Execution) (event : ExecutionEvent) : Occasion :=
  match event with
  | .failed attempt _ =>
      if (execution.resent? policy event).isSome then .again attempt else .onward attempt
  | _ => .opening

def dispatched (execution : Execution) (turn : ExecutionTurn) : List Dispatch :=
  let occasion := execution.occasion turn.retry turn.event
  (sendings (execution.turn turn).1).map (Dispatch.on occasion)

def dispatches (trail : List (Execution × ExecutionTurn)) : List Dispatch :=
  trail.flatMap fun met => met.1.dispatched met.2

inductive Sends (policy : RetryPolicy) (before : Execution) (event : ExecutionEvent) :
    List (AttemptId × Node) → Execution → Prop
  | nothing {after : Execution} (samePlan : after.plan = before.plan)
      (fewer : ∀ attempt state, after.inFlight.find? attempt = some state →
        before.inFlight.find? attempt = some state) : Sends policy before event [] after
  | opening {node : Node} {line : Nat} {after : Execution} (opens : event.opensLine = true)
      (unfinished : before.phase.isTerminal = false)
      (next : line = before.retryCounts.length ∨ before.phase = .notStarted ∧ line = 0)
      (planned : before.plan = node :: after.plan)
      (placed : after.inFlight = before.inFlight.put before.upcoming ⟨node, line⟩) :
      Sends policy before event [(before.upcoming, node)] after
  | again {attempt : AttemptId} {error : DriverError} {state : Attempt} {after : Execution}
      (failed : event = .failed attempt error)
      (found : before.inFlight.find? attempt = some state)
      (resent : before.resent? policy event = some state) (samePlan : after.plan = before.plan)
      (placed : after.inFlight = (before.inFlight.erase attempt).put before.upcoming state) :
      Sends policy before event [(before.upcoming, state.node)] after
  | onward {attempt : AttemptId} {error : DriverError} {state : Attempt} {node : Node}
      {after : Execution} (failed : event = .failed attempt error)
      (found : before.inFlight.find? attempt = some state)
      (resent : before.resent? policy event = none) (planned : before.plan = node :: after.plan)
      (placed : after.inFlight =
        (before.inFlight.erase attempt).put before.upcoming ⟨node, state.line⟩) :
      Sends policy before event [(before.upcoming, node)] after

variable {execution before after : Execution} {policy : RetryPolicy}
  {speculation : SpeculationPolicy} {event : ExecutionEvent} {effects : List ExecutionEffect}

theorem find?_of_erase {inFlight : Table AttemptId Attempt} {gone attempt : AttemptId}
    {state : Attempt} (found : (inFlight.erase gone).find? attempt = some state) :
    inFlight.find? attempt = some state := by
  rw [Table.find?_erase] at found
  split at found
  · cases found
  · exact found

theorem Step.sends (step : before.Step policy speculation event effects after) :
    before.Sends policy event (sendings effects) after := by
  have emptied : ∀ attempt state, Table.find? attempt ([] : Table AttemptId Attempt) = some state →
      before.inFlight.find? attempt = some state := nofun
  cases step with
  | idle unheeded => exact .nothing rfl fun _ _ found => found
  | started fresh planned =>
      rw [sendings_send]
      exact .opening rfl (by rw [fresh]; rfl) (.inr ⟨fresh, rfl⟩) planned rfl
  | speculated running speculates planned =>
      rw [sendings_send]
      exact .opening rfl (by rw [running]; rfl) (.inl rfl) planned rfl
  | unplanned fresh planned => exact .nothing rfl fun _ _ found => found
  | sentAgain unfinished found decided =>
      refine .again rfl found ?_ rfl rfl
      rw [resent?_of_found unfinished found, if_pos decided]
  | @movedOn attempt state error node rest unfinished found decided planned =>
      obtain ⟨retryCounts, counted⟩ := countMove_eq (before.settle attempt state error) _ error
      rw [counted]
      refine .onward rfl found ?_ planned rfl
      rw [resent?_of_found unfinished found, decided, if_neg nofun]
  | @exhausted attempt state error unfinished found decided planned last
  | @lineEnded attempt state error unfinished found decided planned others =>
      refine .nothing (countMove_plan _ _ _) fun other known still => ?_
      have left := (countMove_inFlight (before.settle attempt state error) state.line error)
      exact find?_of_erase ((congrArg (Table.find? other) left).symm.trans still)
  | resolved | rethrown | ignored | expired | cancelled => exact .nothing rfl emptied

/-- A request over a plan, beside the attempts that were sent for it. -/
structure Lineage (plan : QueryPlan) (execution : Execution) (sent : List Dispatch) : Prop where
  numbered : execution.Numbered
  numbers : sent.map (·.attempt.number) = List.range execution.nextAttempt
  unsent : execution.phase = .notStarted → sent = []
  /-- A request without a plan has a line that it never opens. -/
  opened : sent.countP Dispatch.opensLine = execution.retryCounts.length ∨
    plan = [] ∧ execution.phase.isTerminal = true
  covered : plan = takenFromPlan sent ++ execution.plan
  placed : ∀ attempt state, execution.inFlight.find? attempt = some state →
    (attempt, state.node) ∈ sent.map Dispatch.sending ∧ lineOf sent attempt = some state.line

theorem lineage_new (plan : QueryPlan) (idempotent speculationEnabled : Bool) :
    Lineage plan (new plan idempotent speculationEnabled) [] :=
  ⟨numbered_new plan idempotent speculationEnabled, rfl, fun _ => rfl, .inl rfl, rfl, nofun⟩

variable {plan : QueryPlan} {sent : List Dispatch}

theorem occasion_of_opensLine (opens : event.opensLine = true) :
    execution.occasion policy event = .opening := by
  cases event with
  | start | speculativeTimer => rfl
  | succeeded | failed | deadlineExpired | cancelled => cases opens

theorem occasion_of_resent {attempt : AttemptId} {error : DriverError} {state : Attempt}
    (failed : event = .failed attempt error)
    (resent : execution.resent? policy event = some state) :
    execution.occasion policy event = .again attempt := by
  subst failed
  unfold occasion
  simp [resent]

theorem occasion_of_not_resent {attempt : AttemptId} {error : DriverError}
    (failed : event = .failed attempt error)
    (resent : execution.resent? policy event = none) :
    execution.occasion policy event = .onward attempt := by
  subst failed
  unfold occasion
  simp [resent]

theorem Lineage.number_lt (lineage : Lineage plan execution sent) {dispatch : Dispatch}
    (member : dispatch ∈ sent) : dispatch.attempt.number < execution.nextAttempt := by
  have listed := List.mem_map_of_mem (f := fun known : Dispatch => known.attempt.number) member
  rw [lineage.numbers] at listed
  exact List.mem_range.mp listed

theorem Lineage.placed_put (lineage : Lineage plan before sent)
    {left : Table AttemptId Attempt} (state : Attempt) {last : Dispatch}
    (fewer : ∀ attempt known, left.find? attempt = some known →
      before.inFlight.find? attempt = some known)
    (now : last.sending = (before.upcoming, state.node))
    (line : lineOf (sent ++ [last]) last.attempt = some state.line) :
    ∀ attempt known, (left.put before.upcoming state).find? attempt = some known →
      (attempt, known.node) ∈ (sent ++ [last]).map Dispatch.sending ∧
        lineOf (sent ++ [last]) attempt = some known.line := by
  have number : last.attempt = before.upcoming := congrArg Prod.fst now
  intro attempt known found
  rw [Table.find?_put] at found
  rw [List.map_append]
  by_cases new : attempt = before.upcoming
  · rw [if_pos new] at found
    cases found
    rw [new]
    constructor
    · apply List.mem_append_right
      simp [now]
    · rw [← number]
      exact line
  · rw [if_neg new] at found
    obtain ⟨member, earlier⟩ := lineage.placed attempt known (fewer attempt known found)
    constructor
    · exact List.mem_append_left _ member
    · rw [lineOf_append_of_ne fun same => new (same.symm.trans number)]
      exact earlier

theorem Lineage.next_line (lineage : Lineage plan before sent) {line : Nat}
    (unfinished : before.phase.isTerminal = false)
    (next : line = before.retryCounts.length ∨ before.phase = .notStarted ∧ line = 0) :
    sent.countP Dispatch.opensLine = line := by
  rcases next with many | ⟨fresh, first⟩
  · rcases lineage.opened with exact | ⟨_, ended⟩
    · rw [many, exact]
    · rw [unfinished] at ended
      cases ended
  · rw [lineage.unsent fresh, first]
    rfl

/-- Only the events that open lines send first attempts, and they send no others. -/
theorem Sends.opened {posted : List (AttemptId × Node)}
    (sends : before.Sends policy event posted after) :
    (posted.map (Dispatch.on (before.occasion policy event))).countP Dispatch.opensLine =
      (event.opensLine && !posted.isEmpty).toNat := by
  cases sends with
  | nothing samePlan fewer => simp
  | opening opens unfinished next planned placed =>
      rw [occasion_of_opensLine opens, opens]
      rfl
  | again failed found resent samePlan placed =>
      rw [occasion_of_resent failed resent, failed]
      rfl
  | onward failed found resent planned placed =>
      rw [occasion_of_not_resent failed resent, failed]
      rfl

theorem Sends.covered {posted : List (AttemptId × Node)}
    (sends : before.Sends policy event posted after) :
    before.plan =
      takenFromPlan (posted.map (Dispatch.on (before.occasion policy event))) ++ after.plan := by
  cases sends with
  | nothing samePlan fewer => exact samePlan.symm
  | opening opens unfinished next planned placed =>
      rw [occasion_of_opensLine opens]
      exact planned
  | again failed found resent samePlan placed =>
      rw [occasion_of_resent failed resent]
      exact samePlan.symm
  | onward failed found resent planned placed =>
      rw [occasion_of_not_resent failed resent]
      exact planned

theorem takenFromPlan_append (earlier later : List Dispatch) :
    takenFromPlan (earlier ++ later) = takenFromPlan earlier ++ takenFromPlan later := by
  simp [takenFromPlan]

theorem Sends.placed {posted : List (AttemptId × Node)} (lineage : Lineage plan before sent)
    (sends : before.Sends policy event posted after) :
    let now := sent ++ posted.map (Dispatch.on (before.occasion policy event))
    ∀ attempt state, after.inFlight.find? attempt = some state →
      (attempt, state.node) ∈ now.map Dispatch.sending ∧ lineOf now attempt = some state.line := by
  intro now
  cases sends with
  | nothing samePlan fewer =>
      intro attempt state found
      have placed := lineage.placed attempt state (fewer attempt state found)
      simpa [now] using placed
  | @opening node line _ opens unfinished next planned placed =>
      rw [placed]
      apply lineage.placed_put ⟨node, line⟩ (fun _ _ found => found) rfl
      rw [lineOf_append_opening (occasion_of_opensLine opens), lineage.next_line unfinished next]
  | @again attempt error state _ failed found resent samePlan placed =>
      rw [placed]
      apply lineage.placed_put state (fun _ _ found => find?_of_erase found) rfl
      rw [lineOf_append_replacing]
      · exact (lineage.placed attempt state found).2
      · exact congrArg Occasion.failed? (occasion_of_resent failed resent)
  | @onward attempt error state node _ failed found resent planned placed =>
      rw [placed]
      apply lineage.placed_put ⟨node, state.line⟩ (fun _ _ found => find?_of_erase found) rfl
      rw [lineOf_append_replacing]
      · exact (lineage.placed attempt state found).2
      · exact congrArg Occasion.failed? (occasion_of_not_resent failed resent)

theorem Lineage.step (lineage : Lineage plan before sent)
    (unfinished : before.phase.isTerminal = false)
    (step : before.Step policy speculation event effects after) :
    Lineage plan after
      (sent ++ (sendings effects).map (Dispatch.on (before.occasion policy event))) := by
  have sends := step.sends
  obtain ⟨numbers, next⟩ := step.numbers
  have starts : startsLine event effects = (event.opensLine && !(sendings effects).isEmpty) := by
    unfold startsLine
    rw [targets_eq_map, List.isEmpty_map]
  constructor
  · exact step.numbered lineage.numbered
  · rw [List.map_append, List.map_map, lineage.numbers, next, List.range_eq_range',
      List.range_eq_range', ← List.range'_append_1, Nat.zero_add, ← numbers]
    rfl
  · intro fresh
    obtain ⟨same, quiet⟩ := step.unstarted lineage.numbered fresh
    rw [same] at fresh
    simp [quiet, lineage.unsent fresh, sendings]
  · rw [List.countP_append, sends.opened, ← starts]
    rcases lineage.opened with exact | ⟨_, ended⟩
    · rcases step.lines with grown | ⟨unstarted, empty, ended⟩
      · left
        omega
      · right
        refine ⟨?_, ended⟩
        rw [lineage.covered, lineage.unsent unstarted, empty]
        rfl
    · rw [unfinished] at ended
      cases ended
  · rw [takenFromPlan_append, List.append_assoc, ← sends.covered]
    exact lineage.covered
  · exact sends.placed lineage

theorem Lineage.turn (lineage : Lineage plan execution sent) (turn : ExecutionTurn) :
    Lineage plan (execution.turn turn).2 (sent ++ execution.dispatched turn) := by
  cases ended : execution.phase.isTerminal with
  | true =>
      have nothing : execution.turn turn = ([], execution) := handle_of_terminal _ _ _ ended
      unfold dispatched
      rw [nothing]
      simpa [sendings] using lineage
  | false => exact lineage.step ended (turn_step execution turn)

theorem Lineage.run (lineage : Lineage plan execution sent) (turns : List ExecutionTurn) :
    Lineage plan (execution.run turns).2 (sent ++ dispatches (execution.trail turns)) := by
  induction turns generalizing execution sent with
  | nil => simpa [dispatches, Execution.trail, Execution.run] using lineage
  | cons turn rest ih =>
      have settled := ih (lineage.turn turn)
      rw [List.append_assoc] at settled
      exact settled

theorem lineage_of_run (plan : QueryPlan) (idempotent speculationEnabled : Bool)
    (turns : List ExecutionTurn) :
    let start := new plan idempotent speculationEnabled
    Lineage plan (start.run turns).2 (dispatches (start.trail turns)) :=
  (lineage_new plan idempotent speculationEnabled).run turns

theorem sending_dispatched (execution : Execution) (turn : ExecutionTurn) :
    (execution.dispatched turn).map Dispatch.sending = sendings (execution.turn turn).1 := by
  unfold dispatched
  rw [List.map_map]
  exact List.map_id _

theorem sending_dispatches (execution : Execution) (turns : List ExecutionTurn) :
    (dispatches (execution.trail turns)).map Dispatch.sending =
      sendings (execution.run turns).1 := by
  induction turns generalizing execution with
  | nil => rfl
  | cons turn rest ih =>
      change (execution.dispatched turn ++ _).map Dispatch.sending = sendings (_ ++ _)
      rw [List.map_append, sending_dispatched, sendings_append]
      exact congrArg _ (ih (execution.turn turn).2)

theorem resolves_scheduleSpeculative (speculation : SpeculationPolicy) (execution : Execution) :
    ∀ effect ∈ execution.scheduleSpeculative speculation, effect.resolves = false := by
  intro effect member
  rcases scheduleSpeculative_cases speculation execution with
    nothing | ⟨_, _, delay, _, scheduled⟩
  · rw [nothing] at member
    cases member
  · rw [scheduled] at member
    rw [List.mem_singleton.mp member]
    rfl

/-- The node of an attempt wins when its end resolves the request, and otherwise none does. -/
theorem Step.winner_cases (step : before.Step policy speculation event effects after) :
    (after.winner = before.winner ∧ (after.phase = .resolved ↔ before.phase = .resolved) ∧
      ∀ effect ∈ effects, effect.resolves = false) ∨
    ∃ attempt state, event.ended = [attempt] ∧ before.inFlight.find? attempt = some state ∧
      after.winner = some state.node ∧ after.phase = .resolved ∧
      (effects = [.resolve attempt] ∨ effects = [.resolveIgnored]) := by
  have elsewhere {phase : Phase} (unfinished : before.phase.isTerminal = false)
      (other : phase ≠ .resolved) : phase = .resolved ↔ before.phase = .resolved := by
    refine iff_of_false other fun resolved => ?_
    rw [resolved] at unfinished
    cases unfinished
  cases step with
  | idle unheeded => exact .inl ⟨rfl, Iff.rfl, nofun⟩
  | started fresh planned =>
      refine .inl ⟨rfl, elsewhere (by rw [fresh]; rfl) nofun, ?_⟩
      exact List.forall_mem_cons.mpr ⟨rfl, resolves_scheduleSpeculative _ _⟩
  | speculated running speculates planned =>
      refine .inl ⟨rfl, Iff.rfl, ?_⟩
      exact List.forall_mem_cons.mpr ⟨rfl, resolves_scheduleSpeculative _ _⟩
  | resolved unfinished found => exact .inr ⟨_, _, rfl, found, rfl, rfl, .inl rfl⟩
  | ignored unfinished found decided => exact .inr ⟨_, _, rfl, found, rfl, rfl, .inr rfl⟩
  | sentAgain unfinished found decided =>
      exact .inl ⟨rfl, Iff.rfl, by simp [ExecutionEffect.resolves]⟩
  | @movedOn attempt state error node rest unfinished found decided planned =>
      obtain ⟨retryCounts, counted⟩ := countMove_eq (before.settle attempt state error) _ error
      rw [counted]
      exact .inl ⟨rfl, Iff.rfl, by simp [ExecutionEffect.resolves]⟩
  | @lineEnded attempt state error unfinished found decided planned others =>
      obtain ⟨retryCounts, counted⟩ := countMove_eq (before.settle attempt state error) _ error
      rw [counted]
      exact .inl ⟨rfl, Iff.rfl, nofun⟩
  | @exhausted attempt state error unfinished found decided planned last =>
      obtain ⟨retryCounts, counted⟩ := countMove_eq (before.settle attempt state error) _ error
      rw [counted]
      exact .inl ⟨rfl, elsewhere unfinished nofun, by simp [ExecutionEffect.resolves]⟩
  | rethrown unfinished found decided =>
      exact .inl ⟨rfl, elsewhere unfinished nofun, by simp [ExecutionEffect.resolves]⟩
  | unplanned fresh planned =>
      have unfinished : before.phase.isTerminal = false := by rw [fresh]; rfl
      exact .inl ⟨rfl, elsewhere unfinished nofun, by simp [ExecutionEffect.resolves]⟩
  | expired running =>
      have unfinished : before.phase.isTerminal = false := by rw [running]; rfl
      exact .inl ⟨rfl, elsewhere unfinished nofun, by simp [ExecutionEffect.resolves]⟩
  | cancelled unfinished => exact .inl ⟨rfl, elsewhere unfinished nofun, nofun⟩

theorem winner_run (turns : List ExecutionTurn)
    (before : execution.winner.isSome = true ↔ execution.phase = .resolved) :
    (execution.run turns).2.winner.isSome = true ↔ (execution.run turns).2.phase = .resolved := by
  induction turns generalizing execution with
  | nil => exact before
  | cons turn rest ih =>
      apply ih
      rcases (turn_step execution turn).winner_cases with
        ⟨same, phase, _⟩ | ⟨_, state, _, _, wins, resolved, _⟩
      · change (execution.turn turn).2.winner.isSome = true ↔ (execution.turn turn).2.phase = _
        rw [same, phase]
        exact before
      · change (execution.turn turn).2.winner.isSome = true ↔ (execution.turn turn).2.phase = _
        rw [wins, resolved]
        simp

theorem mem_sendings_of_found {plan : QueryPlan} {idempotent speculationEnabled : Bool}
    {turns : List ExecutionTurn} {met : Execution × ExecutionTurn} {attempt : AttemptId}
    {state : Attempt} (member : met ∈ (new plan idempotent speculationEnabled).trail turns)
    (found : met.1.inFlight.find? attempt = some state) :
    (attempt, state.node) ∈ sendings ((new plan idempotent speculationEnabled).run turns).1 := by
  obtain ⟨earlier, later, split, left⟩ := exists_of_mem_trail member
  have lineage := lineage_of_run plan idempotent speculationEnabled earlier
  rw [left] at found
  obtain ⟨sentTo, _⟩ := lineage.placed attempt state found
  rw [sending_dispatches] at sentTo
  rw [split, run_append, sendings_append]
  exact List.mem_append_left _ sentTo

theorem winner_of_resolves {plan : QueryPlan} {idempotent speculationEnabled : Bool}
    {turns : List ExecutionTurn} {met : Execution × ExecutionTurn} {effect : ExecutionEffect}
    (member : met ∈ (new plan idempotent speculationEnabled).trail turns)
    (told : effect ∈ (met.1.turn met.2).1) (resolves : effect.resolves = true) :
    let outcome := (new plan idempotent speculationEnabled).run turns
    ∃ attempt node, met.2.event.ended = [attempt] ∧
      (effect = .resolve attempt ∨ effect = .resolveIgnored) ∧
      (attempt, node) ∈ sendings outcome.1 ∧ outcome.2.winner = some node := by
  intro outcome
  rcases (turn_step met.1 met.2).winner_cases with
    ⟨_, _, quiet⟩ | ⟨attempt, state, ended, found, wins, resolved, answers⟩
  · rw [quiet effect told] at resolves
    cases resolves
  · have still (later : List ExecutionTurn) :
        ((met.1.turn met.2).2.run later).2 = (met.1.turn met.2).2 := by
      rw [run_of_terminal later (by rw [resolved]; rfl)]
    refine ⟨attempt, state.node, ended, ?_, mem_sendings_of_found member found, ?_⟩
    · rcases answers with same | same
      · rw [same] at told
        exact .inl (List.mem_singleton.mp told)
      · rw [same] at told
        exact .inr (List.mem_singleton.mp told)
    · obtain ⟨earlier, later, split, left⟩ := exists_of_mem_trail member
      have final : outcome.2 = ((met.1.turn met.2).2.run later).2 := by
        change (run _ turns).2 = _
        rw [split, run_append, left]
        rfl
      rw [final, still]
      exact wins

theorem resent?_of_opensLine (opens : event.opensLine = true) :
    execution.resent? policy event = none := by
  cases event with
  | start | speculativeTimer => rfl
  | succeeded | failed | deadlineExpired | cancelled => cases opens

/-- Where the policy has the node of a failed attempt tried again, one attempt is sent, to that
node and in the line of the one that failed. -/
theorem Step.resends {state : Attempt}
    (step : before.Step policy speculation event effects after)
    (again : before.resent? policy event = some state) :
    ∃ failed error, event = .failed failed error ∧ before.inFlight.find? failed = some state ∧
      sendings effects = [(before.upcoming, state.node)] ∧
      after.inFlight.find? before.upcoming = some state := by
  have sends := step.sends
  have posts : sendings effects ≠ [] := by
    intro none
    rcases step.plan_cases with ⟨_, _, posted, _⟩ | ⟨never, _⟩
    · rw [none] at posted
      cases posted
    · rw [never] at again
      cases again
  generalize sendings effects = posted at sends posts
  cases sends with
  | nothing samePlan fewer => exact absurd rfl posts
  | opening opens unfinished next planned placed =>
      rw [resent?_of_opensLine opens] at again
      cases again
  | again failed found resent samePlan placed =>
      cases resent.symm.trans again
      refine ⟨_, _, failed, found, rfl, ?_⟩
      rw [placed]
      exact Table.find?_put_self _ _ _
  | onward failed found resent planned placed =>
      rw [resent] at again
      cases again

/-- Whatever the policies decide and in whatever order events come: the attempts are numbered as
they are sent; those that do not go to a node again go to the nodes of the plan, from the first
one on and with none left out, whichever line they are of. An attempt that goes to a node again
goes to that of the failed attempt and is kept as one of its line, and the lines that are kept
are those that what was sent tells. When an attempt ends and that resolves the request, the
node to which it was sent has won; no other node ever has. -/
theorem sends_follow_plan (plan : QueryPlan) (idempotent speculationEnabled : Bool)
    (turns : List ExecutionTurn) :
    let start := new plan idempotent speculationEnabled
    let outcome := start.run turns
    let trail := start.trail turns
    let sent := dispatches trail
    sent.map Dispatch.sending = sendings outcome.1 ∧
    sent.map (·.attempt.number) = List.range sent.length ∧
    plan = takenFromPlan sent ++ outcome.2.plan ∧
    (∀ met ∈ trail, ∀ state, met.1.resent? met.2.retry met.2.event = some state →
      ∃ failed error, met.2.event = .failed failed error ∧
        met.1.inFlight.find? failed = some state ∧ (failed, state.node) ∈ sendings outcome.1 ∧
        met.1.dispatched met.2 = [⟨met.1.upcoming, state.node, .again failed⟩] ∧
        (met.1.turn met.2).2.inFlight.find? met.1.upcoming = some state) ∧
    (∀ attempt state, outcome.2.inFlight.find? attempt = some state →
      (attempt, state.node) ∈ sendings outcome.1 ∧ lineOf sent attempt = some state.line) ∧
    (∀ met ∈ trail, ∀ effect ∈ (met.1.turn met.2).1, effect.resolves = true →
      ∃ attempt node, met.2.event.ended = [attempt] ∧
        (effect = .resolve attempt ∨ effect = .resolveIgnored) ∧
        (attempt, node) ∈ sendings outcome.1 ∧ outcome.2.winner = some node) ∧
    (outcome.2.winner.isSome = true ↔ outcome.2.phase = .resolved) := by
  intro start outcome trail sent
  have lineage : Lineage plan outcome.2 sent :=
    lineage_of_run plan idempotent speculationEnabled turns
  have same : sent.map Dispatch.sending = sendings outcome.1 := sending_dispatches start turns
  refine ⟨same, ?_, lineage.covered, ?_, ?_, ?_, ?_⟩
  · have length := congrArg List.length lineage.numbers
    rw [List.length_map, List.length_range] at length
    rw [lineage.numbers, length]
  · intro met member state again
    obtain ⟨failed, error, event, found, posted, kept⟩ := (turn_step met.1 met.2).resends again
    refine ⟨failed, error, event, found, mem_sendings_of_found member found, ?_, kept⟩
    unfold dispatched
    rw [posted, occasion_of_resent event again]
    rfl
  · intro attempt state found
    rw [← same]
    exact lineage.placed attempt state found
  · intro met member effect told resolves
    exact winner_of_resolves member told resolves
  · exact winner_run turns (by simp [start, new])

/-- Two lines over four nodes. The first one is sent to its node again after a read that found
no data, the second one moves on to the third node, and the first one is answered. -/
def firstLineWins : List ExecutionTurn :=
  let turn (event : ExecutionEvent) : ExecutionTurn :=
    { retry := .careful false, speculation := .constant 2 .zero, event }
  let late : DriverError := .server ⟨.ofParts 127 0 0 1, 9042, 0⟩
    { code := .readTimeout, message := "late", details := .readTimeout 1 1 1 false } []
  [turn .start, turn .speculativeTimer, turn (.failed ⟨0⟩ late),
    turn (.failed ⟨1⟩ (.channelClosed "reset")), turn (.succeeded ⟨2⟩)]

def numberedNode (number : Nat) : Node :=
  { id := ⟨number⟩
    info := { address := ⟨.ofParts 127 0 0 number, 9042, 0⟩ }
    distance := .localDc }

theorem firstLineWins_follows_plan :
    let start := Execution.new ([1, 2, 3, 4].map numberedNode) true true
    let outcome := start.run firstLineWins
    let sent := dispatches (start.trail firstLineWins)
    sent = [⟨⟨0⟩, numberedNode 1, .opening⟩, ⟨⟨1⟩, numberedNode 2, .opening⟩,
      ⟨⟨2⟩, numberedNode 1, .again ⟨0⟩⟩, ⟨⟨3⟩, numberedNode 3, .onward ⟨1⟩⟩] ∧
    sent.map (fun dispatch => lineOf sent dispatch.attempt) = [some 0, some 1, some 0, some 1] ∧
    [1, 2, 3, 4].map numberedNode = [1, 2, 3].map numberedNode ++ outcome.2.plan ∧
    ∃ node, (⟨2⟩, node) ∈ sendings outcome.1 ∧ outcome.2.winner = some node := by
  intro start outcome sent
  obtain ⟨_, _, used, _, _, wins, _⟩ :=
    sends_follow_plan ([1, 2, 3, 4].map numberedNode) true true firstLineWins
  refine ⟨by decide +revert, by decide +revert, used, ?_⟩
  obtain ⟨attempt, node, ended, _, sentTo, won⟩ :=
    wins (start.trail firstLineWins)[4] (List.getElem_mem _) (.resolve ⟨2⟩)
      (List.mem_of_getLast? rfl) rfl
  cases ended
  exact ⟨node, sentTo, won⟩

end Execution

end CqlDriver
