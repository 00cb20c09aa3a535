/-
The loop that carries a request out, over all its turns. Between turns attempts may end, the
caller may give up, and all around may change. When the loop has to wait, it waits for exactly
the attempts that the execution has in flight; an answer that is chosen is there; and it never
turns for long without a wait.
-/

import Mathlib.Data.List.Perm.Subperm
import Mathlib.Logic.Relation
import CqlDriver.Proofs.Request.Loop
import CqlDriver.Simulation.Requests

namespace CqlDriver

theorem StreamTable.send_refuses {address : SocketAddress} {table : StreamTable}
    {error : DriverError} (refused : (table.send address).1 = .error error) :
    error.refusesSending = true := by
  unfold send at refused
  split at refused
  · cases refused
    rfl
  · split at refused
    · cases refused
      rfl
    · split at refused
      · cases refused
      · cases refused
        rfl

theorem Channel.send_refuses {opcode : Opcode} {body : List UInt8} {channel : Channel}
    {error : DriverError} (refused : (channel.send opcode body).1 = .error error) :
    error.refusesSending = true := by
  unfold send at refused
  split at refused
  · cases refused
  · rename_i same
    cases refused
    exact StreamTable.send_refuses (congrArg Prod.fst same)

theorem Pool.pick_refuses {view : PoolView} {pool : Pool} {error : DriverError}
    (refused : pool.pick view = .error error) : error.refusesSending = true := by
  unfold pick at refused
  split at refused
  · cases refused
  · cases refused
    rfl

namespace Simulation.World

theorem send_refuses {id : ChannelId} {opcode : Opcode} {body : List UInt8} {holder : Holder}
    {world : World} {error : DriverError}
    (refused : (world.send id opcode body holder).1 = .error error) :
    error.refusesSending = true := by
  unfold send at refused
  split at refused
  · cases refused
    rfl
  · exact Channel.send_refuses refused

theorem transport_refusesPlainly (number : Nat) (request : Request) :
    (transport number request).RefusesPlainly := by
  intro attempt node world error refused
  change (sendAttempt number request attempt node world).1 = .error error at refused
  unfold sendAttempt at refused
  split at refused
  · cases refused
    rfl
  · split at refused
    · rename_i picked
      cases refused
      exact Pool.pick_refuses picked
    · split at refused
      · rename_i sent
        cases refused
        exact send_refuses (congrArg Prod.fst sent)
      · cases refused

end Simulation.World

def RunState.fresh {Outside : Type} (plan : QueryPlan) (idempotent speculationEnabled : Bool)
    (deadline : Option Nat) (retry : RetrySource) (outside : Outside) : RunState Outside :=
  { run :=
      { execution := .new plan idempotent speculationEnabled, queued := [.start], deadline }
    retry, outside }

structure LoopTurn where
  speculation : SpeculationPolicy
  elapsed : Span
  now : Nat

namespace RequestRun

variable {Outside : Type}

def turn? (transport : Transport Outside) (turn : LoopTurn) (state : RunState Outside) :
    Option (Option RequestResult × RunState Outside) :=
  (nextEvent transport turn.elapsed turn.now state).map fun drawn =>
    take transport turn.speculation turn.now drawn.1 drawn.2

inductive Meanwhile (state : RunState Outside) : RunState Outside → Prop
  | ended (attempt : AttemptId) (result : Except DriverError Frame) :
      Meanwhile state { state with run := state.run.arrive attempt result }
  | givenUp : Meanwhile state { state with run := { state.run with isCancelled := true } }
  | around (retry : RetrySource) (outside : Outside) :
      Meanwhile state { state with retry, outside }

inductive Move (transport : Transport Outside) (state : RunState Outside) :
    RunState Outside → Prop
  | turn (turn : LoopTurn) {after : RunState Outside}
      (taken : turn? transport turn state = some (none, after)) : Move transport state after
  | meanwhile {after : RunState Outside} (happened : Meanwhile state after) :
      Move transport state after

/-- So many turns are taken without a wait: before each of them something is queued. -/
inductive Unbroken (transport : Transport Outside) :
    Nat → RunState Outside → RunState Outside → Prop
  | refl (state : RunState Outside) : Unbroken transport 0 state state
  | meanwhile {count : Nat} {first second last : RunState Outside}
      (happened : Meanwhile first second) (later : Unbroken transport count second last) :
      Unbroken transport count first last
  | turn {count : Nat} {first second last : RunState Outside} (turn : LoopTurn)
      (pressed : first.run.queued ≠ [])
      (taken : turn? transport turn first = some (none, second))
      (later : Unbroken transport count second last) :
      Unbroken transport (count + 1) first last

variable {transport : Transport Outside} {state after : RunState Outside}

theorem inStep_fresh (plan : QueryPlan) (idempotent speculationEnabled : Bool)
    (deadline : Option Nat) (retry : RetrySource) (outside : Outside) :
    (RunState.fresh plan idempotent speculationEnabled deadline retry outside).run.InStep :=
  ⟨.fresh, Execution.numbered_new plan idempotent speculationEnabled, List.Perm.refl _,
    List.nodup_nil, nofun⟩

theorem Meanwhile.kept (happened : Meanwhile state after) :
    after.run.execution = state.run.execution ∧ after.run.queued = state.run.queued := by
  cases happened with
  | ended attempt result =>
      dsimp only
      unfold arrive
      split
      · exact ⟨rfl, rfl⟩
      · exact ⟨rfl, rfl⟩
  | givenUp | around retry outside => exact ⟨rfl, rfl⟩

theorem Meanwhile.inStep (inStep : state.run.InStep) (happened : Meanwhile state after) :
    after.run.InStep := by
  obtain ⟨pressing, engaged⟩ := inStep
  cases happened with
  | givenUp =>
      exact ⟨pressing, engaged.numbered, engaged.together, engaged.once, engaged.expected⟩
  | around retry outside => exact ⟨pressing, engaged⟩
  | ended attempt result =>
      dsimp only
      unfold arrive
      split
      · rename_i awaited
        refine ⟨pressing, engaged.numbered, engaged.together, ?_, fun other member => ?_⟩
        · exact Table.nodup_keys_put engaged.once attempt result
        · dsimp only at member
          rw [Table.keys_put, if_neg ((Table.find?_eq_none_iff _ _).mp awaited.2)] at member
          rcases List.mem_append.mp member with earlier | new
          · exact engaged.expected other earlier
          · rw [List.mem_singleton.mp new]
            exact awaited.1
      · exact ⟨pressing, engaged⟩

theorem InStep.turned (plain : transport.RefusesPlainly) (inStep : state.run.InStep)
    {turn : LoopTurn} (taken : turn? transport turn state = some (none, after)) :
    after.run.InStep ∧ after.run.load < state.run.load ∧
      (state.run.queued ≠ [] →
        after.run.queued.length + after.run.execution.plan.length <
          state.run.queued.length + state.run.execution.plan.length) := by
  obtain ⟨⟨event, drawn⟩, next, took⟩ := Option.map_eq_some_iff.mp taken
  dsimp only at took
  have draw := inStep.draw next
  have inHand := draw.inHand inStep
  obtain ⟨effects, execution, step, goesOn, added⟩ := take_taken plain inHand.unfinished took
  refine ⟨inHand.inStep step goesOn added, ?_, fun pressed => ?_⟩
  · exact draw.load_lt inStep step goesOn added
  · exact draw.backlog_lt pressed step added

theorem Move.inStep (plain : transport.RefusesPlainly) (inStep : state.run.InStep)
    (move : Move transport state after) : after.run.InStep := by
  cases move with
  | turn turn taken => exact (inStep.turned plain taken).1
  | meanwhile happened => exact happened.inStep inStep

theorem InStep.reached (plain : transport.RefusesPlainly) (inStep : state.run.InStep)
    (reached : Relation.ReflTransGen (Move transport) state after) : after.run.InStep := by
  induction reached with
  | refl => exact inStep
  | tail earlier move ih => exact move.inStep plain ih

theorem InStep.waits (inStep : state.run.InStep) (waits : state.run.queued = []) :
    state.run.execution.phase = .inFlight ∧
      state.run.execution.inFlight.keys.Perm state.run.outstanding ∧
      state.run.outstanding ≠ [] := by
  obtain ⟨pressing, engaged⟩ := inStep
  rw [waits] at pressing engaged
  have running := pressing.phase_eq
  refine ⟨running, engaged.together, fun nothing => ?_⟩
  have together := engaged.together
  rw [nothing] at together
  exact engaged.numbered.alive running (List.map_eq_nil_iff.mp together.eq_nil)

/-- Turns without a wait use up what is queued and what is left of the plan. -/
theorem Unbroken.le (plain : transport.RefusesPlainly) {count : Nat} (inStep : state.run.InStep)
    (unbroken : Unbroken transport count state after) :
    count + (after.run.queued.length + after.run.execution.plan.length) ≤
      state.run.queued.length + state.run.execution.plan.length := by
  induction unbroken with
  | refl state => exact Nat.le_of_eq (Nat.zero_add _)
  | meanwhile happened later ih =>
      have bound := ih (happened.inStep inStep)
      obtain ⟨sameExecution, sameQueued⟩ := happened.kept
      rw [sameExecution, sameQueued] at bound
      exact bound
  | turn turn pressed taken later ih =>
      obtain ⟨next, _, less⟩ := inStep.turned plain taken
      have bound := ih next
      have fewer := less pressed
      omega

theorem InStep.proceed (plain : transport.RefusesPlainly) (speculation : SpeculationPolicy)
    (elapsed : Span) (now : Nat) {fuel : Nat} (inStep : state.run.InStep)
    (enough : state.run.load < fuel)
    (goesOn : proceed transport speculation elapsed now fuel state = (none, after)) :
    Relation.ReflTransGen (Move transport) state after ∧
      nextEvent transport elapsed now after = none := by
  induction fuel generalizing state with
  | zero => exact absurd enough (Nat.not_lt_zero _)
  | succ fuel ih =>
      unfold RequestRun.proceed at goesOn
      cases next : nextEvent transport elapsed now state with
      | none =>
          rw [next] at goesOn
          cases goesOn
          exact ⟨.refl, next⟩
      | some drawn =>
          rw [next] at goesOn
          dsimp only at goesOn
          rcases taken : take transport speculation now drawn.1 drawn.2 with ⟨result, second⟩
          rw [taken] at goesOn
          cases result with
          | some result => cases goesOn
          | none =>
              have turned : turn? transport ⟨speculation, elapsed, now⟩ state =
                  some (none, second) := by
                unfold turn?
                rw [next, Option.map_some, taken]
              obtain ⟨inStepNext, less, _⟩ := inStep.turned plain turned
              obtain ⟨reached, waits⟩ := ih inStepNext (by omega) goesOn
              exact ⟨.head (.turn _ turned) reached, waits⟩

theorem InStep.load_lt_eventBound (inStep : state.run.InStep) :
    state.run.load < state.run.eventBound := by
  have engaged := inStep.engaged
  have arrivals : state.run.arrived.length ≤ state.run.outstanding.length := by
    rw [← List.length_map]
    exact (List.subperm_of_subset engaged.once engaged.expected).length_le
  have single : state.run.timer.toList.length ≤ 1 := Option.length_toList_le
  simp only [load, eventBound]
  omega

/-- The answer that the execution chooses was kept, and the caller gets it. -/
theorem InStep.resolved (inStep : state.run.InStep) {speculation : SpeculationPolicy}
    {elapsed : Span} {now : Nat} {event : ExecutionEvent} {drawn : RunState Outside}
    {attempt : AttemptId} (next : nextEvent transport elapsed now state = some (event, drawn)) :
    let handled := drawn.run.execution.handle drawn.retry.current speculation event
    .resolve attempt ∈ handled.1 →
      ∃ address frame, drawn.run.answers.find? attempt = some (address, frame) ∧
        (take transport speculation now event drawn).1 =
          some (Response.ofFrame frame
            ({ drawn.run with execution := handled.2 }.info (some address))) := by
  intro handled chosen
  have step := Execution.handle_step drawn.retry.current speculation drawn.run.execution event
  obtain ⟨rfl, only⟩ := step.resolves chosen
  obtain ⟨⟨address, frame⟩, found⟩ := (inStep.draw next).kept_answer
  refine ⟨address, frame, found, ?_⟩
  obtain ⟨retry, shape⟩ := take_eq transport speculation now (.succeeded attempt) drawn
  rw [shape, only]
  simp only [perform, RequestRun.resolve, found]
  rfl

/-- For every transport that turns requests away plainly, all policies, and all that can happen
meanwhile: a loop that has to wait is in flight and waits for exactly the attempts that the
execution has in flight, and there is one; an answer that is chosen is there, and the caller gets
it; turns without a wait use up what is queued, at most one event, and what is left of the plan;
and so the loop comes to a wait, or to the end of the request, within the bound on its turns. The
pools and channels of a session turn requests away plainly. -/
theorem loop_in_step (plain : transport.RefusesPlainly) {plan : QueryPlan}
    {idempotent speculationEnabled : Bool} {deadline : Option Nat} {retry : RetrySource}
    {outside : Outside}
    (reached : Relation.ReflTransGen (Move transport)
      (.fresh plan idempotent speculationEnabled deadline retry outside) state) :
    (∀ number request, (Simulation.World.transport number request).RefusesPlainly) ∧
    (state.run.queued = [] →
      state.run.execution.phase = .inFlight ∧
        state.run.execution.inFlight.keys.Perm state.run.outstanding ∧
        state.run.outstanding ≠ []) ∧
    (∀ (turn : LoopTurn) event drawn attempt,
      nextEvent transport turn.elapsed turn.now state = some (event, drawn) →
      let handled := drawn.run.execution.handle drawn.retry.current turn.speculation event
      .resolve attempt ∈ handled.1 →
        ∃ address frame, drawn.run.answers.find? attempt = some (address, frame) ∧
          (take transport turn.speculation turn.now event drawn).1 =
            some (Response.ofFrame frame
              ({ drawn.run with execution := handled.2 }.info (some address)))) ∧
    state.run.queued.length ≤ 1 ∧
    (∀ count after, Unbroken transport count state after →
      count + (after.run.queued.length + after.run.execution.plan.length) ≤
        state.run.queued.length + state.run.execution.plan.length) ∧
    ∀ (turn : LoopTurn) after,
      proceed transport turn.speculation turn.elapsed turn.now state.run.eventBound state =
        (none, after) →
      Relation.ReflTransGen (Move transport) state after ∧ after.run.queued = [] ∧
        nextEvent transport turn.elapsed turn.now after = none := by
  have inStep := (inStep_fresh plan idempotent speculationEnabled deadline retry outside).reached
    plain reached
  refine ⟨Simulation.World.transport_refusesPlainly, inStep.waits, ?_, inStep.pressing.length_le,
    ?_, ?_⟩
  · intro turn event drawn attempt next
    exact inStep.resolved next
  · intro count after unbroken
    exact unbroken.le plain inStep
  · intro turn after goesOn
    obtain ⟨onward, waits⟩ := inStep.proceed plain turn.speculation turn.elapsed turn.now
      inStep.load_lt_eventBound goesOn
    refine ⟨onward, ?_, waits⟩
    unfold nextEvent at waits
    split at waits
    · cases waits
    · assumption

/-- So many attempts meet channels without a free stream; the later ones go out. -/
def crowded : Transport Nat :=
  { send := fun _ node left =>
      match left with
      | 0 => (.ok (), 0)
      | left + 1 => (.error (.busy node.address), left)
    distrust := fun _ left => left }

theorem crowded_refusesPlainly : crowded.RefusesPlainly := by
  intro attempt node left error refused
  cases left with
  | zero => cases refused
  | succ left =>
      cases refused
      rfl

def crowdedStart : RunState Nat :=
  let node (number : Nat) : Node :=
    { id := ⟨number⟩, info := { address := ⟨.ofParts 127 0 0 number, 9042, 0⟩ }
      distance := .localDc }
  .fresh [node 1, node 2, node 3] true false none (.script [.retrySameNode] none) 1

def crowdedTurn (state : RunState Nat) : RunState Nat :=
  ((turn? crowded ⟨.constant 1 .zero, .zero, 0⟩ state).map (·.2)).getD state

def crowdedWaiting : RunState Nat := crowdedTurn (crowdedTurn crowdedStart)

/-- The second node gives no answer in time, and now it is crowded, too. -/
def crowdedAgain : RunState Nat :=
  let late := crowdedWaiting.run.arrive ⟨1⟩ (.error (.requestTimeout .zero []))
  crowdedTurn { crowdedWaiting with run := late, outside := 2 }

theorem crowded_in_step :
    (crowdedWaiting.run.queued = [] ∧ crowdedWaiting.run.outstanding = [⟨1⟩] ∧
      crowdedWaiting.run.execution.inFlight.keys.Perm crowdedWaiting.run.outstanding) ∧
    crowdedAgain.run.queued.length = 1 ∧ crowdedAgain.run.execution.plan.length = 1 ∧
      ∀ count after, Unbroken crowded count crowdedAgain after → count ≤ 2 := by
  let turn : LoopTurn := ⟨.constant 1 .zero, .zero, 0⟩
  have waiting : Relation.ReflTransGen (Move crowded) crowdedStart crowdedWaiting :=
    .tail (.tail .refl (.turn turn rfl)) (.turn turn rfl)
  have late := waiting.tail (.meanwhile (.ended ⟨1⟩ (.error (.requestTimeout .zero []))))
  have crowdedNow := late.tail (.meanwhile (.around crowdedWaiting.retry 2))
  have timedOut : Relation.ReflTransGen (Move crowded) crowdedStart crowdedAgain :=
    crowdedNow.tail (.turn turn rfl)
  obtain ⟨_, waits, _⟩ := loop_in_step crowded_refusesPlainly waiting
  obtain ⟨_, _, _, _, bounded, _⟩ := loop_in_step crowded_refusesPlainly timedOut
  refine ⟨⟨rfl, rfl, (waits rfl).2.1⟩, rfl, rfl, fun count after unbroken => ?_⟩
  exact Nat.le_trans (Nat.le_add_right _ _) (bounded count after unbroken)

end RequestRun

end CqlDriver
