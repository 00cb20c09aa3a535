/-
How often a request is sent under the careful policy. A line sends to the node of a failed
attempt again at most once, everything else that is sent uses up a place of the plan, and so
does each line that is started. A plan of some length hence bounds what is sent by twice its
length, whatever the servers answer.
-/

import Mathlib.Data.List.Perm.Subperm
import CqlDriver.Proofs.Request.Trail
import CqlDriver.Proofs.Request.Unrepeatable

namespace CqlDriver

namespace RetryPolicy

variable {retryServerErrors : Bool} {context : RetryContext}

theorem first_of_afterServerError {error : ServerError}
    (again : afterServerError retryServerErrors context error = .retrySameNode) :
    context.retryCount = 0 := by
  cases first : context.retryCount == 0 with
  | true => exact beq_iff_eq.mp first
  | false =>
      exfalso
      revert again
      unfold afterServerError
      dsimp only
      rw [first]
      cases error.code with
      | unavailable => nofun
      | readTimeout | writeTimeout =>
          dsimp only
          rw [Bool.and_false, Bool.false_and, if_neg Bool.false_ne_true]
          nofun
      | serverError =>
          dsimp only
          split
          · nofun
          · nofun
      | _ => nofun

/-- The careful policy sends to the same node again only before the line was retried. -/
theorem first_of_retrySameNode
    (again : carefulOnError retryServerErrors context = .retrySameNode) :
    context.retryCount = 0 := by
  unfold carefulOnError at again
  cases failure : context.error with
  | server address error attempts =>
      rw [failure] at again
      exact first_of_afterServerError again
  | requestTimeout elapsed attempts =>
      rw [failure] at again
      dsimp only at again
      split at again
      · cases again
      · cases again
  | _ =>
      rw [failure] at again
      cases again

end RetryPolicy

namespace Execution

def resent (trail : List (Execution × ExecutionTurn)) : List Attempt :=
  trail.filterMap fun met => met.1.resent? met.2.retry met.2.event

def onward (execution : Execution) (turn : ExecutionTurn) : List Node :=
  if (execution.resent? turn.retry turn.event).isSome then []
  else targets (execution.turn turn).1

def taken (trail : List (Execution × ExecutionTurn)) : List Node :=
  trail.flatMap fun met => met.1.onward met.2

def startsLine (event : ExecutionEvent) (effects : List ExecutionEffect) : Bool :=
  event.opensLine && !(targets effects).isEmpty

def linesStarted (trail : List (Execution × ExecutionTurn)) : Nat :=
  trail.countP fun met => startsLine met.2.event (met.1.turn met.2).1

variable {execution before after : Execution} {policy : RetryPolicy}
  {speculation : SpeculationPolicy} {event : ExecutionEvent} {effects : List ExecutionEffect}

theorem resent_cons (execution : Execution) (turn : ExecutionTurn)
    (rest : List (Execution × ExecutionTurn)) :
    resent ((execution, turn) :: rest) =
      (execution.resent? turn.retry turn.event).toList ++ resent rest := by
  unfold resent
  rw [List.filterMap_cons]
  cases execution.resent? turn.retry turn.event with
  | none => rfl
  | some state => rfl

theorem linesStarted_cons (execution : Execution) (turn : ExecutionTurn)
    (rest : List (Execution × ExecutionTurn)) :
    linesStarted ((execution, turn) :: rest) =
      (startsLine turn.event (execution.turn turn).1).toNat + linesStarted rest := by
  unfold linesStarted
  rw [List.countP_cons, Nat.add_comm]
  cases startsLine turn.event (execution.turn turn).1 with
  | true => rfl
  | false => rfl

def Lined (execution : Execution) : Prop :=
  ∀ entry ∈ execution.inFlight, entry.2.line < execution.retryCounts.length

theorem Lined.settle (lined : execution.Lined) (attempt : AttemptId) (state : Attempt)
    (error : DriverError) : (execution.settle attempt state error).Lined :=
  fun entry member => lined entry (List.mem_filter.mp member).1

theorem Lined.countRetry (lined : execution.Lined) (line : Nat) :
    (execution.countRetry line).Lined := by
  intro entry member
  unfold Execution.countRetry
  rw [List.length_modify]
  exact lined entry member

theorem Lined.countMove (lined : execution.Lined) (line : Nat) (error : DriverError) :
    (execution.countMove line error).Lined := by
  unfold Execution.countMove
  split
  · exact lined
  · exact lined.countRetry line

theorem Lined.addLine (lined : execution.Lined) : execution.addLine.Lined := by
  intro entry member
  unfold Execution.addLine
  rw [List.length_append]
  exact Nat.lt_succ_of_lt (lined entry member)

theorem Lined.sendTo (lined : execution.Lined) (node : Node) {line : Nat}
    (known : line < execution.retryCounts.length) : (execution.sendTo node line).2.Lined := by
  intro entry member
  rcases Table.mem_put member with sent | earlier
  · rw [sent]
    exact known
  · exact lined entry earlier

theorem Lined.of_found (lined : execution.Lined) {attempt : AttemptId} {state : Attempt}
    (found : execution.inFlight.find? attempt = some state) :
    state.line < execution.retryCounts.length :=
  lined _ (Table.mem_of_find? found)

theorem Lined.ended (empty : execution.inFlight = []) : execution.Lined := by
  unfold Lined
  rw [empty]
  exact List.forall_mem_nil _

theorem length_countRetry (execution : Execution) (line : Nat) :
    (execution.countRetry line).retryCounts.length = execution.retryCounts.length :=
  List.length_modify _ _ _

theorem length_countMove (execution : Execution) (line : Nat) (error : DriverError) :
    (execution.countMove line error).retryCounts.length = execution.retryCounts.length := by
  unfold Execution.countMove
  split
  · rfl
  · exact length_countRetry execution line

theorem length_addLine (execution : Execution) :
    execution.addLine.retryCounts.length = execution.retryCounts.length + 1 :=
  List.length_append

theorem Step.lined (lined : before.Lined)
    (step : before.Step policy speculation event effects after) : after.Lined := by
  cases step with
  | idle unheeded => exact lined
  | @started node rest fresh planned =>
      have first : 0 < before.addLine.retryCounts.length := by
        rw [length_addLine]
        exact Nat.succ_pos _
      exact Lined.sendTo lined.addLine node first
  | @speculated node rest running speculates planned =>
      have next : before.retryCounts.length < before.addLine.retryCounts.length := by
        rw [length_addLine]
        exact Nat.lt_succ_self _
      exact Lined.sendTo lined.addLine node next
  | unplanned fresh planned => exact lined.addLine
  | sentAgain unfinished found decided =>
      refine ((lined.settle _ _ _).countRetry _).sendTo _ ?_
      rw [length_countRetry]
      exact lined.of_found found
  | @movedOn attempt state error node rest unfinished found decided planned =>
      have kept := length_countMove (before.settle attempt state error) state.line error
      have known := Nat.lt_of_lt_of_eq (lined.of_found found) kept.symm
      exact Lined.sendTo ((lined.settle _ _ _).countMove _ _) node known
  | exhausted unfinished found decided planned last
  | lineEnded unfinished found decided planned others =>
      exact (lined.settle _ _ _).countMove _ _
  | resolved | rethrown | ignored | expired | cancelled => exact Lined.ended rfl

/-- The line has sent to a node again, or has gone on after an answer. -/
def Retried (execution : Execution) (line : Nat) : Prop :=
  ∃ count, execution.retryCounts[line]? = some (count + 1)

theorem Retried.countRetry {line : Nat} (retried : execution.Retried line) (other : Nat) :
    (execution.countRetry other).Retried line := by
  obtain ⟨count, found⟩ := retried
  unfold Retried Execution.countRetry
  rw [List.getElem?_modify, found, Option.map_eq_map, Option.map_some]
  by_cases same : other = line
  · exact ⟨count + 1, by rw [if_pos same]⟩
  · exact ⟨count, by rw [if_neg same]⟩

theorem Retried.settle {line : Nat} (retried : execution.Retried line) (attempt : AttemptId)
    (state : Attempt) (error : DriverError) :
    (execution.settle attempt state error).Retried line :=
  retried

theorem Retried.countMove {line : Nat} (retried : execution.Retried line) (other : Nat)
    (error : DriverError) : (execution.countMove other error).Retried line := by
  unfold Execution.countMove
  split
  · exact retried
  · exact retried.countRetry other

theorem Retried.addLine {line : Nat} (retried : execution.Retried line) :
    execution.addLine.Retried line := by
  obtain ⟨count, found⟩ := retried
  refine ⟨count, ?_⟩
  unfold Execution.addLine
  rw [List.getElem?_append_left (List.getElem?_eq_some_iff.mp found).1]
  exact found

theorem retried_countRetry {line : Nat} (known : line < execution.retryCounts.length) :
    (execution.countRetry line).Retried line := by
  refine ⟨execution.retryCounts[line], ?_⟩
  unfold Execution.countRetry
  rw [List.getElem?_modify, List.getElem?_eq_getElem known, Option.map_eq_map, Option.map_some,
    if_pos rfl]

theorem Step.retried {line : Nat} (retried : before.Retried line)
    (step : before.Step policy speculation event effects after) : after.Retried line := by
  cases step with
  | started | unplanned | speculated => exact Retried.addLine retried
  | sentAgain => exact Retried.countRetry retried _
  | movedOn | exhausted | lineEnded => exact (retried.settle _ _ _).countMove _ _
  | idle | resolved | rethrown | ignored | expired | cancelled => exact retried

/-- The careful policy lets a line send to the same node again only if it was not retried. -/
theorem not_retried_of_careful {retryServerErrors : Bool} {state : Attempt} {error : DriverError}
    (decided : execution.decide (.careful retryServerErrors) state error = .retrySameNode) :
    ¬execution.Retried state.line := by
  have first : (execution.retryContext state error).retryCount = 0 := by
    unfold decide at decided
    split at decided
    · cases decided
    · split at decided
      · exact RetryPolicy.first_of_retrySameNode decided
      · exact RetryPolicy.first_of_retrySameNode decided
  rintro ⟨count, found⟩
  unfold retryContext at first
  rw [found] at first
  cases first

theorem Step.resent_line {retryServerErrors : Bool} {state : Attempt} (lined : before.Lined)
    (step : before.Step policy speculation event effects after)
    (careful : policy = .careful retryServerErrors)
    (again : before.resent? policy event = some state) :
    state.line < before.retryCounts.length ∧ ¬before.Retried state.line ∧
      after.Retried state.line := by
  subst careful
  cases step with
  | idle unheeded =>
      rw [unheeded.resent?] at again
      cases again
  | @sentAgain attempt state error unfinished found decided =>
      rw [resent?_of_found unfinished found, if_pos decided] at again
      cases again
      have known := lined.of_found found
      have retried : ((before.settle attempt state error).countRetry state.line).Retried
          state.line := retried_countRetry known
      exact ⟨known, not_retried_of_careful decided, retried⟩
  | movedOn unfinished found decided | exhausted unfinished found decided
  | lineEnded unfinished found decided | rethrown unfinished found decided
  | ignored unfinished found decided =>
      rw [resent?_of_found unfinished found, decided, if_neg nofun] at again
      cases again
  | started | unplanned | resolved | speculated | expired | cancelled => cases again

/-- The number of lines grows with each line that is started. A request without a plan has a
line that it never starts. -/
theorem Step.lines (step : before.Step policy speculation event effects after) :
    after.retryCounts.length =
        before.retryCounts.length + (startsLine event effects).toNat ∨
      before.phase = .notStarted ∧ before.plan = [] ∧ after.phase.isTerminal = true := by
  cases step with
  | idle unheeded =>
      refine Or.inl ?_
      have nothing : startsLine event [] = false := Bool.and_false _
      rw [nothing]
      rfl
  | unplanned fresh planned => exact Or.inr ⟨fresh, planned, rfl⟩
  | started | speculated => exact Or.inl (length_addLine before)
  | sentAgain => exact Or.inl (length_countRetry _ _)
  | movedOn | exhausted | lineEnded => exact Or.inl (length_countMove _ _ _)
  | resolved | rethrown | ignored | expired | cancelled => exact Or.inl rfl

/-- What a request over a plan has spent: the attempts that were sent to their nodes again, the
nodes that were taken from the plan, and the lines that were started. -/
structure Spending (plan : QueryPlan) (execution : Execution) (told : List ExecutionEffect)
    (again : List Attempt) (nodes : List Node) (lines : Nat) : Prop where
  numbered : execution.Numbered
  lined : execution.Lined
  split : plan = nodes ++ execution.plan
  sent : (targets told).Perm (again.map Attempt.node ++ nodes)
  once : (again.map Attempt.line).Nodup
  retried : ∀ state ∈ again, execution.Retried state.line
  started : ∀ state ∈ again, state.line < lines
  paid : lines ≤ nodes.length
  fresh : execution.phase = .notStarted → nodes = []
  counted : lines = execution.retryCounts.length ∨
    plan = [] ∧ execution.phase.isTerminal = true

theorem spending_new (plan : QueryPlan) (idempotent speculationEnabled : Bool) :
    Spending plan (new plan idempotent speculationEnabled) [] [] [] 0 :=
  ⟨numbered_new plan idempotent speculationEnabled, nofun, rfl, List.Perm.refl _,
    List.nodup_nil, nofun, nofun, Nat.le_refl 0, fun _ => rfl, Or.inl rfl⟩

variable {plan : QueryPlan} {told : List ExecutionEffect} {again : List Attempt}
  {nodes : List Node} {lines : Nat}

theorem startsLine_le_onward (execution : Execution) (turn : ExecutionTurn) :
    (startsLine turn.event (execution.turn turn).1).toNat ≤ (execution.onward turn).length := by
  cases starts : startsLine turn.event (execution.turn turn).1 with
  | false => exact Nat.zero_le _
  | true =>
      obtain ⟨opens, sends⟩ := Bool.and_eq_true_iff.mp starts
      have fresh : execution.resent? turn.retry turn.event = none := by
        cases event : turn.event with
        | start | speculativeTimer => rfl
        | succeeded | failed | deadlineExpired | cancelled =>
            rw [event] at opens
            cases opens
      unfold onward
      rw [fresh, if_neg nofun]
      refine List.length_pos_iff.mpr fun nothing => ?_
      rw [nothing] at sends
      cases sends

theorem Spending.turn {retryServerErrors : Bool}
    (spending : Spending plan execution told again nodes lines) (turn : ExecutionTurn)
    (careful : turn.retry = .careful retryServerErrors) :
    Spending plan (execution.turn turn).2 (told ++ (execution.turn turn).1)
      (again ++ (execution.resent? turn.retry turn.event).toList)
      (nodes ++ execution.onward turn)
      (lines + (startsLine turn.event (execution.turn turn).1).toNat) := by
  have step := turn_step execution turn
  have paid := Nat.add_le_add spending.paid (startsLine_le_onward execution turn)
  rw [← List.length_append] at paid
  have counted : lines + (startsLine turn.event (execution.turn turn).1).toNat =
      (execution.turn turn).2.retryCounts.length ∨
        plan = [] ∧ (execution.turn turn).2.phase.isTerminal = true := by
    rcases spending.counted with exact | ⟨nothing, ended⟩
    · rcases step.lines with grown | ⟨unstarted, empty, ended⟩
      · exact Or.inl (by rw [exact, grown])
      · refine Or.inr ⟨?_, ended⟩
        rw [spending.split, spending.fresh unstarted, empty]
        rfl
    · have same : execution.turn turn = ([], execution) := handle_of_terminal _ _ _ ended
      rw [same]
      exact Or.inr ⟨nothing, ended⟩
  have fresh : (execution.turn turn).2.phase = .notStarted → nodes ++ execution.onward turn = [] := by
    intro unstarted
    obtain ⟨same, quiet⟩ := step.unstarted spending.numbered unstarted
    rw [same] at unstarted
    rw [spending.fresh unstarted]
    unfold onward
    rw [quiet, targets, List.filterMap_nil, ite_self]
    rfl
  have retried : ∀ state ∈ again, (execution.turn turn).2.Retried state.line :=
    fun state member => step.retried (spending.retried state member)
  have started : ∀ state ∈ again,
      state.line < lines + (startsLine turn.event (execution.turn turn).1).toNat :=
    fun state member => Nat.lt_add_right _ (spending.started state member)
  have lined := step.lined spending.lined
  have numbered := step.numbered spending.numbered
  have sent := spending.sent.append_right (targets (execution.turn turn).1)
  rw [← targets_append] at sent
  rcases step.plan_cases with ⟨state, resent, sending, samePlan⟩ | ⟨resent, shorter⟩
  · obtain ⟨known, unretried, retriedNow⟩ := step.resent_line spending.lined careful resent
    have nothing : execution.onward turn = [] := by
      unfold onward
      rw [resent]
      rfl
    have below : state.line < lines := by
      rcases spending.counted with exact | ⟨_, ended⟩
      · rw [exact]
        exact known
      · have unheeded : execution.Idle turn.event := Or.inl ended
        rw [unheeded.resent?] at resent
        cases resent
    rw [nothing] at paid fresh
    rw [resent, nothing]
    refine ⟨numbered, lined, ?_, ?_, ?_, ?_, ?_, paid, fresh, counted⟩
    · rw [samePlan, List.append_nil]
      exact spending.split
    · have node : targets (execution.turn turn).1 = [state.node] := by
        rw [targets_eq_map, sending]
        rfl
      rw [node] at sent
      refine sent.trans ?_
      rw [List.append_nil, List.map_append, List.append_assoc, List.append_assoc]
      exact List.perm_append_comm.append_left _
    · rw [List.map_append]
      refine List.nodup_append.mpr ⟨spending.once, List.pairwise_singleton _ _, ?_⟩
      intro line member other isNew same
      obtain ⟨earlier, listed, ofLine⟩ := List.mem_map.mp member
      have line_eq : earlier.line = state.line :=
        (ofLine.trans same).trans (List.mem_singleton.mp isNew)
      have was := spending.retried earlier listed
      rw [line_eq] at was
      exact unretried was
    · intro other member
      rcases List.mem_append.mp member with earlier | new
      · exact retried other earlier
      · rw [List.mem_singleton.mp new]
        exact retriedNow
    · intro other member
      rcases List.mem_append.mp member with earlier | new
      · exact started other earlier
      · rw [List.mem_singleton.mp new]
        exact Nat.lt_add_right _ below
  · have all : execution.onward turn = targets (execution.turn turn).1 := by
      unfold onward
      rw [resent]
      rfl
    rw [resent, Option.toList_none, List.append_nil]
    refine ⟨numbered, lined, ?_, ?_, spending.once, retried, started, paid, fresh, counted⟩
    · rw [all, List.append_assoc, ← shorter]
      exact spending.split
    · rw [all, ← List.append_assoc]
      exact sent

theorem Spending.run {retryServerErrors : Bool} {turns : List ExecutionTurn}
    (spending : Spending plan execution told again nodes lines)
    (careful : ∀ turn ∈ turns, turn.retry = .careful retryServerErrors) :
    Spending plan (execution.run turns).2 (told ++ (execution.run turns).1)
      (again ++ resent (execution.trail turns))
      (nodes ++ taken (execution.trail turns))
      (lines + linesStarted (execution.trail turns)) := by
  induction turns generalizing execution told again nodes lines with
  | nil =>
      change Spending plan execution (told ++ []) (again ++ []) (nodes ++ []) lines
      rw [List.append_nil, List.append_nil, List.append_nil]
      exact spending
  | cons turn rest ih =>
      obtain ⟨first, later⟩ := List.forall_mem_cons.mp careful
      have spent := ih (spending.turn turn first) later
      rw [List.append_assoc, List.append_assoc, List.append_assoc, ← resent_cons,
        Nat.add_assoc, ← linesStarted_cons] at spent
      exact spent

/-- The lines that have sent to a node again are no more than there are lines. -/
theorem Spending.resent_le (spending : Spending plan execution told again nodes lines) :
    again.length ≤ lines := by
  have within : again.map Attempt.line ⊆ List.range lines := by
    intro line member
    obtain ⟨state, listed, ofLine⟩ := List.mem_map.mp member
    rw [← ofLine]
    exact List.mem_range.mpr (spending.started state listed)
  have fewer := (List.subperm_of_subset spending.once within).length_le
  rw [List.length_map, List.length_range] at fewer
  exact fewer

/-- Under the careful policy, whatever the servers answer and whatever the other policy wants:
each line sends to the node of a failed attempt again at most once, all else that is sent is
taken from the plan in order, and no more lines are started than the plan has nodes. What is
sent altogether is at most the length of the plan and the number of its lines. -/
theorem sent_at_most_once_more_each_line (retryServerErrors idempotent speculationEnabled : Bool)
    (plan : QueryPlan) (asked : List (SpeculationPolicy × ExecutionEvent)) :
    let start := Execution.new plan idempotent speculationEnabled
    let turns := asked.map (carefulTurn retryServerErrors)
    let outcome := start.run turns
    let again := resent (start.trail turns)
    let nodes := taken (start.trail turns)
    let lines := linesStarted (start.trail turns)
    (targets outcome.1).Perm (again.map Attempt.node ++ nodes) ∧
      plan = nodes ++ outcome.2.plan ∧
      (again.map Attempt.line).Nodup ∧ (∀ state ∈ again, state.line < lines) ∧
      lines ≤ plan.length ∧ (plan ≠ [] → lines = outcome.2.retryCounts.length) ∧
      (targets outcome.1).length ≤ plan.length + lines := by
  intro start turns outcome again nodes lines
  have careful : ∀ turn ∈ turns, turn.retry = .careful retryServerErrors := by
    intro turn member
    obtain ⟨question, _, asks⟩ := List.mem_map.mp member
    rw [← asks]
    rfl
  have spending : Spending plan outcome.2 outcome.1 again nodes (0 + lines) :=
    (spending_new plan idempotent speculationEnabled).run careful
  rw [Nat.zero_add] at spending
  have within : nodes.length ≤ plan.length := by
    rw [spending.split, List.length_append]
    exact Nat.le_add_right _ _
  refine ⟨spending.sent, spending.split, spending.once, spending.started,
    Nat.le_trans spending.paid within, fun planned => ?_, ?_⟩
  · exact spending.counted.resolve_right fun unplanned => planned unplanned.1
  · have total := spending.sent.length_eq
    rw [List.length_append, List.length_map] at total
    have repeated := spending.resent_le
    omega

end Execution

end CqlDriver
