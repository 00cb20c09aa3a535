/-
How many lines a request can have. Another line is asked for only when one is started, while the
plan has nodes left and the policy wants more. The number of lines is looked at when the timer is
set and not when it is over; it is kept all the same, as long as each timer answers an effect that
asked for it. The loop that carries requests out raises no other timers.
-/

import Mathlib.Data.List.Induction
import CqlDriver.Proofs.Request.Lines
import CqlDriver.Proofs.Request.Waiting

namespace CqlDriver

def ExecutionEffect.asksForLine : ExecutionEffect → Bool
  | .scheduleSpeculative _ => true
  | .send .. | .resolve _ | .resolveIgnored | .fail _ => false

def ExecutionEvent.isTimer : ExecutionEvent → Bool
  | .speculativeTimer => true
  | .start | .succeeded _ | .failed .. | .deadlineExpired _ | .cancelled => false

def prompts (effects : List ExecutionEffect) : Nat :=
  effects.countP ExecutionEffect.asksForLine

def timers (turns : List ExecutionTurn) : Nat := turns.countP fun turn => turn.event.isTimer

theorem prompts_append (earlier later : List ExecutionEffect) :
    prompts (earlier ++ later) = prompts earlier + prompts later :=
  List.countP_append

theorem timers_append_singleton (turns : List ExecutionTurn) (turn : ExecutionTurn) :
    timers (turns ++ [turn]) = timers turns + turn.event.isTimer.toNat := by
  unfold timers
  rw [List.countP_append, List.countP_singleton]
  cases turn.event.isTimer with
  | true => rfl
  | false => rfl

namespace Execution

/-- Each timer of a run answers an earlier effect that asks for a line, and no two timers answer
the same one: whenever a timer comes, there were more such effects than timers. -/
def Prompted (start : Execution) (turns : List ExecutionTurn) : Prop :=
  ∀ earlier turn later, turns = earlier ++ turn :: later → turn.event.isTimer = true →
    timers earlier < prompts (start.run earlier).1

inductive Growth (speculation : SpeculationPolicy) (before : Execution) (event : ExecutionEvent)
    (effects : List ExecutionEffect) (after : Execution) : Prop where
  | same (quiet : prompts effects = 0)
      (unstarted : after.phase = .notStarted → before.phase = .notStarted)
      (lines : after.retryCounts.length = before.retryCounts.length)
  | grown
      (opens : event = .start ∧ before.phase = .notStarted ∨
        event = .speculativeTimer ∧ before.speculates = true)
      (started : after.phase ≠ .notStarted)
      (lines : after.retryCounts.length = before.retryCounts.length + 1)
      (asked : prompts effects = 0 ∨ prompts effects = 1 ∧ before.speculates = true ∧
        after.plan ≠ [] ∧ (speculation after.retryCounts.length).isSome = true)

variable {start execution before after : Execution} {policy : RetryPolicy}
  {speculation : SpeculationPolicy} {event : ExecutionEvent} {effects : List ExecutionEffect}
  {turns : List ExecutionTurn}

theorem prompts_scheduleSpeculative (speculation : SpeculationPolicy) (execution : Execution) :
    prompts (execution.scheduleSpeculative speculation) = 0 ∨
      prompts (execution.scheduleSpeculative speculation) = 1 ∧ execution.speculates = true ∧
        execution.plan ≠ [] ∧ (speculation execution.retryCounts.length).isSome = true := by
  rcases scheduleSpeculative_cases speculation execution with
    nothing | ⟨speculates, left, delay, asked, scheduled⟩
  · left
    rw [nothing]
    rfl
  · right
    rw [scheduled, asked]
    exact ⟨rfl, speculates, left, rfl⟩

theorem Step.growth (step : before.Step policy speculation event effects after) :
    Growth speculation before event effects after := by
  cases step with
  | idle unheeded => exact .same rfl id rfl
  | @started node rest fresh planned =>
      exact .grown (.inl ⟨rfl, fresh⟩) nofun (length_addLine before)
        (prompts_scheduleSpeculative speculation (before.launch node rest))
  | unplanned fresh planned =>
      exact .grown (.inl ⟨rfl, fresh⟩) nofun (length_addLine before) (.inl rfl)
  | @speculated node rest running speculates planned =>
      refine .grown (.inr ⟨rfl, speculates⟩) ?_ (length_addLine before)
        (prompts_scheduleSpeculative speculation (before.speculate node rest))
      intro unstarted
      cases running.symm.trans unstarted
  | sentAgain unfinished found decided => exact .same rfl id (length_countRetry _ _)
  | movedOn unfinished found decided planned
  | lineEnded unfinished found decided planned others =>
      refine .same rfl ?_ (length_countMove _ _ _)
      exact (countMove_phase _ _ _).symm.trans
  | exhausted unfinished found decided planned last =>
      exact .same rfl nofun (length_countMove _ _ _)
  | resolved | rethrown | ignored | expired | cancelled => exact .same rfl nofun rfl

theorem countMove_speculates (execution : Execution) (line : Nat) (error : DriverError) :
    (execution.countMove line error).speculates = execution.speculates := by
  obtain ⟨retryCounts, counted⟩ := countMove_eq execution line error
  rw [counted]

theorem Step.speculates_eq (step : before.Step policy speculation event effects after) :
    after.speculates = before.speculates := by
  cases step with
  | movedOn unfinished found decided planned
  | exhausted unfinished found decided planned last
  | lineEnded unfinished found decided planned others =>
      exact countMove_speculates _ _ _
  | idle | started | unplanned | resolved | sentAgain | rethrown | ignored | speculated
  | expired | cancelled => rfl

theorem Step.prompts_eq_zero (step : before.Step policy speculation event effects after)
    (exhausted : before.plan = [] ∨ after.plan = []) : prompts effects = 0 := by
  have nothingLeft : after.plan = [] := by
    rcases exhausted with empty | empty
    · rcases step.plan_cases with ⟨_, _, _, same⟩ | ⟨_, used⟩
      · rw [same, empty]
      · rw [empty] at used
        exact (List.append_eq_nil_iff.mp used.symm).2
    · exact empty
  cases step.growth with
  | same quiet unstarted lines => exact quiet
  | grown opens started lines asked =>
      rcases asked with none | ⟨_, _, left, _⟩
      · exact none
      · exact absurd nothingLeft left

/-- A run under a bound on its lines, beside the numbers of its timers and of the effects that
asked for lines. The bound is not yet reached while one of these waits for its timer. -/
structure Paced (bound : Nat) (execution : Execution) (answered asked : Nat) : Prop where
  fresh : execution.phase = .notStarted → asked = 0 ∧ execution.retryCounts.length = 0
  answered_le : answered ≤ asked
  pending : answered < asked → asked = answered + 1 ∧ execution.retryCounts.length < bound
  within : execution.retryCounts.length ≤ max 1 bound

theorem paced_new (bound : Nat) (plan : QueryPlan) (idempotent speculationEnabled : Bool) :
    Paced bound (new plan idempotent speculationEnabled) 0 0 :=
  ⟨fun _ => ⟨rfl, rfl⟩, Nat.le_refl 0, nofun, Nat.zero_le _⟩

theorem Paced.step {bound answered asked : Nat} {delay : Span}
    (paced : Paced bound before answered asked)
    (step : before.Step policy (.constant bound delay) event effects after)
    (prompted : event.isTimer = true → answered < asked) :
    Paced bound after (answered + event.isTimer.toNat) (asked + prompts effects) := by
  obtain ⟨fresh, answered_le, pending, within⟩ := paced
  have timer : event.isTimer.toNat = 0 ∨
      event.isTimer.toNat = 1 ∧ asked = answered + 1 ∧ before.retryCounts.length < bound := by
    cases isTimer : event.isTimer with
    | false => exact .inl rfl
    | true => exact .inr ⟨rfl, pending (prompted isTimer)⟩
  cases step.growth with
  | same quiet unstarted lines =>
      constructor
      · intro notYet
        have before := fresh (unstarted notYet)
        omega
      · omega
      · omega
      · omega
  | grown opens started lines wanted =>
      have below : asked = answered + event.isTimer.toNat ∧
          (before.retryCounts.length = 0 ∨ before.retryCounts.length < bound) := by
        rcases opens with ⟨rfl, notYet⟩ | ⟨rfl, _⟩
        · have none := fresh notYet
          change asked = answered + 0 ∧ _
          omega
        · have waited := pending (prompted rfl)
          change asked = answered + 1 ∧ _
          omega
      have more : prompts effects = 0 ∨
          prompts effects = 1 ∧ after.retryCounts.length < bound := by
        rcases wanted with none | ⟨one, _, _, asks⟩
        · exact .inl none
        · refine .inr ⟨one, ?_⟩
          unfold SpeculationPolicy.constant at asks
          split at asks
          · assumption
          · cases asks
      constructor
      · intro notYet
        exact absurd notYet started
      · omega
      · omega
      · omega

theorem prompted_nil : start.Prompted [] := by
  intro earlier turn later split
  exact absurd split.symm (by simp)

theorem prompted_append_singleton (start : Execution) (turns : List ExecutionTurn)
    (turn : ExecutionTurn) :
    start.Prompted (turns ++ [turn]) ↔ start.Prompted turns ∧
      (turn.event.isTimer = true → timers turns < prompts (start.run turns).1) := by
  constructor
  · intro prompted
    constructor
    · intro earlier next later split
      apply prompted earlier next (later ++ [turn])
      rw [split, List.append_assoc, List.cons_append]
    · exact prompted turns turn [] rfl
  · rintro ⟨prompted, last⟩ earlier next later split
    rcases List.eq_nil_or_concat later with rfl | ⟨front, final, rfl⟩
    · obtain ⟨rfl, same⟩ := List.append_inj' split rfl
      cases same
      exact last
    · rw [List.concat_eq_append, ← List.cons_append, ← List.append_assoc] at split
      exact prompted earlier next front (List.append_inj' split rfl).1

theorem Paced.run {bound : Nat} {delay : Span} (fresh : Paced bound start 0 0)
    (constant : ∀ turn ∈ turns, turn.speculation = .constant bound delay)
    (prompted : start.Prompted turns) :
    Paced bound (start.run turns).2 (timers turns) (prompts (start.run turns).1) := by
  induction turns using List.reverseRecOn with
  | nil => exact fresh
  | append_singleton turns turn ih =>
      obtain ⟨earlier, last⟩ := List.forall_mem_append.mp constant
      obtain ⟨before, now⟩ := (prompted_append_singleton start turns turn).mp prompted
      have step := turn_step (start.run turns).2 turn
      rw [last turn List.mem_cons_self] at step
      rw [run_append_singleton, timers_append_singleton, prompts_append]
      exact (ih earlier before).step step now

structure Single (execution : Execution) : Prop where
  barred : execution.speculates = false
  fresh : execution.phase = .notStarted → execution.retryCounts.length = 0
  within : execution.retryCounts.length ≤ 1

theorem Single.step (single : before.Single)
    (step : before.Step policy speculation event effects after) :
    after.Single ∧ prompts effects = 0 := by
  have barred := step.speculates_eq.trans single.barred
  cases step.growth with
  | same quiet unstarted lines =>
      refine ⟨⟨barred, fun notYet => ?_, ?_⟩, quiet⟩
      · rw [lines]
        exact single.fresh (unstarted notYet)
      · rw [lines]
        exact single.within
  | grown opens started lines asked =>
      have unable : before.speculates ≠ true := by simp [single.barred]
      have first : before.phase = .notStarted :=
        (opens.resolve_right fun timer => unable timer.2).2
      have quiet : prompts effects = 0 := asked.resolve_right fun one => unable one.2.1
      have none := single.fresh first
      refine ⟨⟨barred, fun notYet => absurd notYet started, ?_⟩, quiet⟩
      omega

theorem Single.run (single : execution.Single) (turns : List ExecutionTurn) :
    (execution.run turns).2.Single ∧ prompts (execution.run turns).1 = 0 := by
  induction turns generalizing execution with
  | nil => exact ⟨single, rfl⟩
  | cons turn rest ih =>
      obtain ⟨kept, quiet⟩ := single.step (turn_step execution turn)
      obtain ⟨last, silent⟩ := ih kept
      constructor
      · exact last
      · change prompts ((execution.turn turn).1 ++ ((execution.turn turn).2.run rest).1) = 0
        rw [prompts_append, quiet, silent]

/-- The first attempts of lines are among those that use up the plan. -/
theorem opening_sublist (sent : List Dispatch) :
    ((sent.filter Dispatch.opensLine).map Dispatch.node).Sublist (takenFromPlan sent) := by
  apply List.Sublist.map
  apply List.monotone_filter_right
  intro dispatch opens
  obtain ⟨attempt, node, occasion⟩ := dispatch
  cases occasion with
  | opening => rfl
  | again | onward => cases opens

theorem Lineage.opening_le {plan : QueryPlan} {sent : List Dispatch}
    (lineage : Lineage plan execution sent) :
    sent.countP Dispatch.opensLine ≤ execution.retryCounts.length := by
  rcases lineage.opened with same | ⟨empty, _⟩
  · exact Nat.le_of_eq same
  · have covered := lineage.covered
    rw [empty] at covered
    have opened := (opening_sublist sent).length_le
    rw [(List.append_eq_nil_iff.mp covered.symm).1] at opened
    rw [List.countP_eq_length_filter, ← List.length_map (f := Dispatch.node)]
    exact Nat.le_trans opened (Nat.zero_le _)

end Execution

namespace RequestRun

variable {Outside : Type} {transport : Transport Outside} {state after : RunState Outside}

theorem perform_timer {now : Nat} {effects : List ExecutionEffect}
    (performed : perform transport now effects state = (none, after)) :
    after.run.timer.isSome.toNat ≤ state.run.timer.isSome.toNat + prompts effects := by
  induction effects generalizing state with
  | nil =>
      cases performed
      exact Nat.le_refl _
  | cons effect rest ih =>
      cases effect with
      | send attempt node =>
          have same : (sendAttempt transport attempt node state).run.timer = state.run.timer := by
            unfold sendAttempt
            split
            · rfl
            · rfl
          rw [← same]
          exact ih performed
      | scheduleSpeculative delay =>
          have asked : 1 ≤ prompts (.scheduleSpeculative delay :: rest) :=
            List.countP_pos_iff.mpr ⟨_, List.mem_cons_self, rfl⟩
          have atMost := Bool.toNat_le after.run.timer.isSome
          omega
      | resolve | resolveIgnored | fail => cases performed

/-- A timer event uses the timer up. -/
theorem Draw.timer_le {before drawn : RequestRun} {event : ExecutionEvent}
    (draw : before.Draw event drawn) :
    event.isTimer.toNat + drawn.timer.isSome.toNat ≤ before.timer.isSome.toNat := by
  cases draw with
  | due waits set =>
      rw [set]
      exact Nat.le_refl 1
  | started | refused | givenUp | late | answered | ended => exact Nat.le_of_eq (Nat.zero_add _)

/-- A request on its way has taken a run of turns in which each timer was asked for, and the
timer that it still waits for was asked for, too. -/
def Driven (start : Execution) (run : RequestRun) : Prop :=
  ∃ turns, run.execution = (start.run turns).2 ∧ start.Prompted turns ∧
    timers turns + run.timer.isSome.toNat ≤ prompts (start.run turns).1

theorem Meanwhile.driven {start : Execution} (driven : Driven start state.run)
    (happened : Meanwhile state after) : Driven start after.run := by
  have kept := happened.kept.1
  have timer : after.run.timer = state.run.timer := by
    cases happened with
    | ended attempt result =>
        dsimp only
        unfold arrive
        split
        · rfl
        · rfl
    | givenUp | around retry outside => rfl
  unfold Driven
  rw [kept, timer]
  exact driven

theorem Driven.turned {start : Execution}
    (inStep : state.run.InStep) (driven : Driven start state.run) {turn : LoopTurn}
    (taken : turn? transport turn state = some (none, after)) : Driven start after.run := by
  obtain ⟨⟨event, drawn⟩, next, took⟩ := Option.map_eq_some_iff.mp taken
  have draw := inStep.draw next
  obtain ⟨_, retry, performed⟩ := take_none (draw.inHand inStep).unfinished took
  obtain ⟨turns, left, prompted, waits⟩ := driven
  have used := draw.timer_le
  have asked := perform_timer performed
  refine ⟨turns ++ [⟨drawn.retry.current, turn.speculation, event⟩], ?_, ?_, ?_⟩
  · rw [Execution.run_append_singleton, (perform_none performed).2, draw.execution_eq, left]
    rfl
  · apply (Execution.prompted_append_singleton start turns _).mpr
    refine ⟨prompted, fun isTimer => ?_⟩
    rw [isTimer, Bool.toNat_true] at used
    omega
  · rw [Execution.run_append_singleton, timers_append_singleton, prompts_append, ← left,
      ← draw.execution_eq]
    unfold Execution.turn
    dsimp only at asked ⊢
    omega

theorem loop_prompted (plain : transport.RefusesPlainly) {plan : QueryPlan}
    {idempotent speculationEnabled : Bool} {deadline : Option Nat} {retry : RetrySource}
    {outside : Outside}
    (reached : Relation.ReflTransGen (Move transport)
      (.fresh plan idempotent speculationEnabled deadline retry outside) state) :
    Driven (.new plan idempotent speculationEnabled) state.run := by
  have inStep := inStep_fresh plan idempotent speculationEnabled deadline retry outside
  induction reached with
  | refl => exact ⟨[], rfl, Execution.prompted_nil, Nat.le_refl 0⟩
  | tail earlier move ih =>
      cases move with
      | turn turn taken => exact ih.turned (inStep.reached plain earlier) taken
      | meanwhile happened => exact happened.driven ih

end RequestRun

namespace Execution

/-- With a bound on the lines, and with timers that each answer an effect of their own, no more
lines are started than the bound says, or one where it says none; and each of them starts on a
place of the plan that no other one starts on. Whatever the policies want and in whatever order
events come, nothing is asked for once the plan is used up, and a request that must not speculate
asks for no line and has no second one. The loop that carries requests out raises no other timers
than those that answer an effect of their own. -/
theorem lines_bounded (plan : QueryPlan) (idempotent speculationEnabled : Bool)
    (turns : List ExecutionTurn) :
    let start := new plan idempotent speculationEnabled
    let outcome := start.run turns
    let sent := dispatches (start.trail turns)
    (∀ bound delay, (∀ turn ∈ turns, turn.speculation = .constant bound delay) →
      start.Prompted turns →
        sent.countP Dispatch.opensLine ≤ max 1 bound ∧
        outcome.2.retryCounts.length ≤ max 1 bound) ∧
    ((sent.filter Dispatch.opensLine).map Dispatch.node).Sublist plan ∧
    (∀ met ∈ start.trail turns, met.1.plan = [] ∨ (met.1.turn met.2).2.plan = [] →
      prompts (met.1.turn met.2).1 = 0) ∧
    ((idempotent && speculationEnabled) = false →
      prompts outcome.1 = 0 ∧ sent.countP Dispatch.opensLine ≤ 1 ∧
        outcome.2.retryCounts.length ≤ 1) ∧
    ∀ (Outside : Type) (transport : Transport Outside) deadline retry outside state,
      transport.RefusesPlainly → Relation.ReflTransGen (RequestRun.Move transport)
        (.fresh plan idempotent speculationEnabled deadline retry outside) state →
          ∃ met, state.run.execution = (start.run met).2 ∧ start.Prompted met := by
  intro start outcome sent
  have lineage : Lineage plan outcome.2 sent :=
    lineage_of_run plan idempotent speculationEnabled turns
  refine ⟨?_, ?_, ?_, ?_, ?_⟩
  · intro bound delay constant prompted
    have paced := paced_new bound plan idempotent speculationEnabled
    have within := (paced.run constant prompted).within
    exact ⟨Nat.le_trans lineage.opening_le within, within⟩
  · rw [lineage.covered]
    exact (opening_sublist sent).trans (List.sublist_append_left _ _)
  · intro met member exhausted
    exact (turn_step met.1 met.2).prompts_eq_zero exhausted
  · intro barred
    have fresh : start.Single := by
      refine ⟨?_, fun _ => rfl, Nat.zero_le 1⟩
      rw [Bool.and_comm] at barred
      exact barred
    obtain ⟨single, quiet⟩ := fresh.run turns
    exact ⟨quiet, Nat.le_trans lineage.opening_le single.within, single.within⟩
  · intro Outside transport deadline retry outside state plain reached
    obtain ⟨met, same, prompted, _⟩ := RequestRun.loop_prompted plain reached
    exact ⟨met, same, prompted⟩

def secondLineStarts : List ExecutionTurn :=
  let turn (event : ExecutionEvent) : ExecutionTurn :=
    { retry := .careful false, speculation := .constant 2 .zero, event }
  [turn .start, turn (.failed ⟨0⟩ (.channelClosed "reset")), turn .speculativeTimer]

theorem secondLineStarts_bounded :
    let start := Execution.new ([1, 2, 3, 4].map numberedNode) true true
    let sent := dispatches (start.trail secondLineStarts)
    start.Prompted secondLineStarts ∧ sent.countP Dispatch.opensLine = 2 ∧
      (start.run secondLineStarts).2.retryCounts.length ≤ 2 ∧
      [numberedNode 1, numberedNode 3].Sublist ([1, 2, 3, 4].map numberedNode) := by
  intro start sent
  have two : sent.countP Dispatch.opensLine = 2 := by decide +revert
  have prompted : start.Prompted secondLineStarts := by
    apply (prompted_append_singleton start (secondLineStarts.take 2) _).mpr
    refine ⟨?_, fun _ => by decide +revert⟩
    apply (prompted_append_singleton start (secondLineStarts.take 1) _).mpr
    refine ⟨?_, nofun⟩
    exact (prompted_append_singleton start [] _).mpr ⟨prompted_nil, nofun⟩
  obtain ⟨bounded, ordered, _⟩ :=
    lines_bounded ([1, 2, 3, 4].map numberedNode) true true secondLineStarts
  have constant : ∀ turn ∈ secondLineStarts, turn.speculation = .constant 2 .zero := by
    simp [secondLineStarts]
  exact ⟨prompted, two, (bounded 2 .zero constant prompted).2, ordered⟩

end Execution

end CqlDriver
