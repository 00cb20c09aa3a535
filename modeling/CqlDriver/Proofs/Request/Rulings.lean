/-
What the retry policy is asked, and how the retries of a line are counted. A failure is put to
the policy with the number of retries that its line has had. This number grows with the answers
by which the line goes on; no other line adds to it, and no failure of the transport does.
-/

import CqlDriver.Proofs.Request.Lines

namespace CqlDriver

def RetryDecision.goesOn : RetryDecision → Bool
  | .retrySameNode | .retryNextNode => true
  | .rethrow | .ignore => false

def RetryPolicy.answer (policy : RetryPolicy) (context : RetryContext) : RetryDecision :=
  if Execution.isTimeout context.error then policy.onRequestTimeout context
  else policy.onError context

/-- The failure of an attempt as the policy was asked about it, and the answer. -/
structure Ruling where
  attempt : AttemptId
  context : RetryContext
  decision : RetryDecision

def Ruling.chargedTo (sent : List Dispatch) (line : Nat) (ruling : Ruling) : Bool :=
  ruling.decision.goesOn && decide (lineOf sent ruling.attempt = some line)

namespace Execution

def retriesOf (execution : Execution) (line : Nat) : Nat := execution.retryCounts[line]?.getD 0

/-- The ruling on an event. The policy is asked about the failure of an attempt in flight,
unless the transport failed. -/
def ruling? (policy : RetryPolicy) (execution : Execution) : ExecutionEvent → Option Ruling
  | .failed attempt error =>
      if execution.phase.isTerminal || error.isConnectionLevel then none
      else
        (execution.inFlight.find? attempt).map fun state =>
          let context := execution.retryContext state error
          ⟨attempt, context, policy.answer context⟩
  | _ => none

def rulings (trail : List (Execution × ExecutionTurn)) : List Ruling :=
  trail.filterMap fun met => met.1.ruling? met.2.retry met.2.event

inductive Charges (policy : RetryPolicy) (before : Execution) (event : ExecutionEvent)
    (after : Execution) : Prop where
  | nothing
      (stays : ∀ ruling, before.ruling? policy event = some ruling →
        ruling.decision.goesOn = false)
      (same : ∀ line, after.retriesOf line = before.retriesOf line)
  | retry {ruling : Ruling} {state : Attempt} (ruled : before.ruling? policy event = some ruling)
      (goesOn : ruling.decision.goesOn = true)
      (found : before.inFlight.find? ruling.attempt = some state)
      (counted : ∀ line, after.retriesOf line =
        before.retriesOf line + if state.line = line then 1 else 0)

variable {execution before after : Execution} {policy : RetryPolicy}
  {speculation : SpeculationPolicy} {event : ExecutionEvent} {effects : List ExecutionEffect}
  {attempt : AttemptId} {state : Attempt} {error : DriverError}

theorem retriesOf_countRetry {line : Nat} (known : line < execution.retryCounts.length)
    (other : Nat) :
    (execution.countRetry line).retriesOf other =
      execution.retriesOf other + if line = other then 1 else 0 := by
  unfold retriesOf countRetry
  by_cases same : line = other
  · subst same
    simp [known]
  · simp [same]

theorem retriesOf_addLine (line : Nat) :
    execution.addLine.retriesOf line = execution.retriesOf line := by
  unfold retriesOf addLine
  rcases Nat.lt_or_ge line execution.retryCounts.length with known | new
  · rw [List.getElem?_append_left known]
  · rw [List.getElem?_append_right new, List.getElem?_eq_none new]
    cases line - execution.retryCounts.length with
    | zero => rfl
    | succ further => rfl

/-- The answer of the policy decides, except where the transport failed. -/
theorem decide_eq (policy : RetryPolicy) (execution : Execution) (state : Attempt)
    (error : DriverError) :
    execution.decide policy state error =
      if error.isConnectionLevel then .retryNextNode
      else policy.answer (execution.retryContext state error) := by
  unfold Execution.decide RetryPolicy.answer
  rfl

theorem ruling?_of_transport (transport : error.isConnectionLevel = true) :
    execution.ruling? policy (.failed attempt error) = none := by
  simp [ruling?, transport]

theorem ruling?_of_found (unfinished : execution.phase.isTerminal = false)
    (answered : error.isConnectionLevel = false)
    (found : execution.inFlight.find? attempt = some state) :
    execution.ruling? policy (.failed attempt error) =
      some ⟨attempt, execution.retryContext state error, execution.decide policy state error⟩ := by
  simp [ruling?, decide_eq, unfinished, answered, found]

theorem Idle.ruling? (idle : execution.Idle event) : execution.ruling? policy event = none := by
  cases event with
  | failed attempt error =>
      rcases idle with ended | missing
      · simp [Execution.ruling?, ended]
      · have absent : execution.inFlight.find? attempt = none := missing
        simp [Execution.ruling?, absent]
  | start | succeeded | speculativeTimer | deadlineExpired | cancelled => rfl

theorem exists_of_ruling? {ruling : Ruling}
    (ruled : execution.ruling? policy event = some ruling) :
    ∃ state, event = .failed ruling.attempt ruling.context.error ∧
      execution.inFlight.find? ruling.attempt = some state ∧
      ruling.context = execution.retryContext state ruling.context.error ∧
      ruling.context.error.isConnectionLevel = false ∧
      ruling.decision = policy.answer ruling.context := by
  cases event with
  | failed attempt error =>
      unfold ruling? at ruled
      dsimp only at ruled
      split at ruled
      · cases ruled
      · rename_i asked
        obtain ⟨state, found, same⟩ := Option.map_eq_some_iff.mp ruled
        subst same
        have answered : error.isConnectionLevel = false := by
          simp only [Bool.or_eq_true, not_or, Bool.not_eq_true] at asked
          exact asked.2
        exact ⟨state, rfl, found, rfl, answered, rfl⟩
  | start | succeeded | speculativeTimer | deadlineExpired | cancelled => cases ruled

theorem charges_of_ended (unfinished : before.phase.isTerminal = false)
    (found : before.inFlight.find? attempt = some state)
    (ends : (before.decide policy state error).goesOn = false)
    (same : after.retryCounts = before.retryCounts) :
    before.Charges policy (.failed attempt error) after := by
  apply Charges.nothing
  · intro ruling ruled
    cases transport : error.isConnectionLevel with
    | true =>
        rw [ruling?_of_transport transport] at ruled
        cases ruled
    | false =>
        rw [ruling?_of_found unfinished transport found] at ruled
        cases ruled
        exact ends
  · intro line
    rw [retriesOf, same]
    rfl

theorem charges_of_moved (lined : before.Lined) (unfinished : before.phase.isTerminal = false)
    (found : before.inFlight.find? attempt = some state)
    (decided : before.decide policy state error = .retryNextNode)
    (counted : after.retryCounts =
      ((before.settle attempt state error).countMove state.line error).retryCounts) :
    before.Charges policy (.failed attempt error) after := by
  unfold countMove at counted
  cases transport : error.isConnectionLevel with
  | true =>
      rw [if_pos transport] at counted
      apply Charges.nothing
      · simp [ruling?_of_transport transport]
      · intro line
        rw [retriesOf, counted]
        rfl
  | false =>
      rw [if_neg (by simp [transport])] at counted
      apply Charges.retry (ruling?_of_found unfinished transport found) (by rw [decided]; rfl) found
      intro line
      rw [retriesOf, counted]
      exact retriesOf_countRetry (lined.of_found found) line

theorem Step.charges (lined : before.Lined)
    (step : before.Step policy speculation event effects after) :
    before.Charges policy event after := by
  cases step with
  | idle unheeded => exact .nothing (by simp [unheeded.ruling?]) fun _ => rfl
  | started | unplanned | speculated => exact .nothing nofun retriesOf_addLine
  | resolved | expired | cancelled => exact .nothing nofun fun _ => rfl
  | @sentAgain attempt state error unfinished found decided =>
      have answered : error.isConnectionLevel = false := by
        cases transport : error.isConnectionLevel with
        | false => rfl
        | true => simp [decide_eq, transport] at decided
      apply Charges.retry (ruling?_of_found unfinished answered found) (by rw [decided]; rfl) found
      exact retriesOf_countRetry (lined.of_found found)
  | movedOn unfinished found decided planned
  | exhausted unfinished found decided planned last
  | lineEnded unfinished found decided planned others =>
      exact charges_of_moved lined unfinished found decided rfl
  | rethrown unfinished found decided | ignored unfinished found decided =>
      exact charges_of_ended unfinished found (by rw [decided]; rfl) rfl

theorem lineOf_append_of_lt {sent posted : List Dispatch}
    (later : ∀ dispatch ∈ posted, attempt.number < dispatch.attempt.number) :
    lineOf (sent ++ posted) attempt = lineOf sent attempt := by
  induction posted generalizing sent with
  | nil => rw [List.append_nil]
  | cons first rest ih =>
      obtain ⟨next, others⟩ := List.forall_mem_cons.mp later
      have other : first.attempt ≠ attempt := by
        intro same
        rw [same] at next
        exact Nat.lt_irrefl _ next
      rw [List.append_cons, ih others, lineOf_append_of_ne other]

/-- The numbers of retries that a request keeps, against the rulings on its failures. -/
structure Tally (plan : QueryPlan) (execution : Execution) (sent : List Dispatch)
    (settled : List Ruling) : Prop where
  lineage : Lineage plan execution sent
  lined : execution.Lined
  known : ∀ ruling ∈ settled, ruling.attempt.number < execution.nextAttempt
  tallied : ∀ line, execution.retriesOf line = settled.countP (Ruling.chargedTo sent line)

variable {plan : QueryPlan} {sent : List Dispatch} {settled : List Ruling}

theorem tally_new (plan : QueryPlan) (idempotent speculationEnabled : Bool) :
    Tally plan (new plan idempotent speculationEnabled) [] [] :=
  ⟨lineage_new plan idempotent speculationEnabled, nofun, nofun, fun _ => rfl⟩

theorem Tally.number_lt (tally : Tally plan execution sent settled)
    (found : execution.inFlight.find? attempt = some state) :
    attempt.number < execution.nextAttempt := by
  obtain ⟨sentTo, _⟩ := tally.lineage.placed attempt state found
  obtain ⟨dispatch, member, same⟩ := List.mem_map.mp sentTo
  have number : dispatch.attempt = attempt := congrArg Prod.fst same
  rw [← number]
  exact tally.lineage.number_lt member

/-- What a turn sends has new numbers, so that the lines of earlier attempts stay as they are. -/
theorem lineOf_append_dispatched (turn : ExecutionTurn)
    (earlier : attempt.number < execution.nextAttempt) :
    lineOf (sent ++ execution.dispatched turn) attempt = lineOf sent attempt := by
  obtain ⟨numbers, _⟩ := (turn_step execution turn).numbers
  apply lineOf_append_of_lt
  intro dispatch member
  have posted := List.mem_map_of_mem (f := Dispatch.sending) member
  rw [sending_dispatched] at posted
  have number := List.mem_map_of_mem (f := fun known : AttemptId × Node => known.1.number) posted
  rw [numbers] at number
  exact Nat.lt_of_lt_of_le earlier (List.mem_range'_1.mp number).1

theorem chargedTo_append_dispatched {ruling : Ruling} (turn : ExecutionTurn)
    (earlier : ruling.attempt.number < execution.nextAttempt) (line : Nat) :
    Ruling.chargedTo (sent ++ execution.dispatched turn) line ruling =
      Ruling.chargedTo sent line ruling := by
  unfold Ruling.chargedTo
  rw [lineOf_append_dispatched turn earlier]

theorem Tally.countP_append_dispatched (tally : Tally plan execution sent settled)
    (turn : ExecutionTurn) (line : Nat) :
    settled.countP (Ruling.chargedTo (sent ++ execution.dispatched turn) line) =
      execution.retriesOf line := by
  rw [tally.tallied]
  apply List.countP_congr
  intro ruling member
  rw [chargedTo_append_dispatched turn (tally.known ruling member)]

theorem Tally.turn (tally : Tally plan execution sent settled) (turn : ExecutionTurn) :
    Tally plan (execution.turn turn).2 (sent ++ execution.dispatched turn)
      (settled ++ (execution.ruling? turn.retry turn.event).toList) := by
  have step := turn_step execution turn
  constructor
  · exact tally.lineage.turn turn
  · exact step.lined tally.lined
  · intro ruling member
    rw [step.numbers.2]
    apply Nat.lt_add_right
    rcases List.mem_append.mp member with earlier | now
    · exact tally.known ruling earlier
    · obtain ⟨state, _, found, _⟩ := exists_of_ruling? (Option.mem_toList.mp now)
      exact tally.number_lt found
  · intro line
    rw [List.countP_append, tally.countP_append_dispatched]
    cases step.charges tally.lined with
    | nothing stays same =>
        rw [same]
        cases ruled : execution.ruling? turn.retry turn.event with
        | none => rfl
        | some ruling => simp [Ruling.chargedTo, stays ruling ruled]
    | @retry ruling state ruled goesOn found counted =>
        have placed := (tally.lineage.placed ruling.attempt state found).2
        rw [counted, ruled, Option.toList_some, List.countP_singleton,
          chargedTo_append_dispatched turn (tally.number_lt found)]
        simp [Ruling.chargedTo, goesOn, placed]

theorem rulings_cons (execution : Execution) (turn : ExecutionTurn)
    (rest : List (Execution × ExecutionTurn)) :
    rulings ((execution, turn) :: rest) =
      (execution.ruling? turn.retry turn.event).toList ++ rulings rest := by
  simp only [rulings, List.filterMap_eq_flatMap_toList, List.flatMap_cons]

theorem Tally.run (tally : Tally plan execution sent settled) (turns : List ExecutionTurn) :
    Tally plan (execution.run turns).2 (sent ++ dispatches (execution.trail turns))
      (settled ++ rulings (execution.trail turns)) := by
  induction turns generalizing execution sent settled with
  | nil => simpa [dispatches, rulings, Execution.trail, Execution.run] using tally
  | cons turn rest ih =>
      have further := ih (tally.turn turn)
      rw [List.append_assoc, List.append_assoc, ← rulings_cons] at further
      exact further

theorem turn_eq_of_answer (execution : Execution) (turn : ExecutionTurn) (other : RetryPolicy)
    (agrees : ∀ ruling, execution.ruling? turn.retry turn.event = some ruling →
      other.answer ruling.context = ruling.decision) :
    execution.turn { turn with retry := other } = execution.turn turn := by
  obtain ⟨policy, speculation, event⟩ := turn
  change execution.handle other speculation event = execution.handle policy speculation event
  cases ended : execution.phase.isTerminal with
  | true => rw [handle_of_terminal _ _ _ ended, handle_of_terminal _ _ _ ended]
  | false =>
      unfold handle
      rw [ended]
      cases event with
      | failed attempt error =>
          change execution.onFailure other attempt error = execution.onFailure policy attempt error
          unfold onFailure
          cases found : execution.inFlight.find? attempt with
          | none => rfl
          | some state =>
              have same : execution.decide other state error =
                  execution.decide policy state error := by
                rw [decide_eq, decide_eq]
                cases answered : error.isConnectionLevel with
                | true => rfl
                | false =>
                    have agreed := agrees _ (ruling?_of_found ended answered found)
                    rw [decide_eq, answered] at agreed
                    exact agreed
              change (execution.settle attempt state error).carryOut state error
                  (execution.decide other state error) =
                (execution.settle attempt state error).carryOut state error
                  (execution.decide policy state error)
              rw [same]
      | start | succeeded | speculativeTimer | deadlineExpired | cancelled => rfl

/-- Whatever the policies decide and in whatever order attempts fail: when the policy is asked
about the failure of an attempt, the number of retries it is told is that of the earlier
failures in the same line by whose rulings the line went on. The policy is asked this and no
more, so another one with the same answer changes nothing; and about failures of the
transport it is not asked. Neither these nor the failures of other lines change the number. -/
theorem lines_count_their_retries (plan : QueryPlan) (idempotent speculationEnabled : Bool)
    (earlier : List ExecutionTurn) (turn : ExecutionTurn) :
    let start := new plan idempotent speculationEnabled
    let sent := dispatches (start.trail earlier)
    let settled := rulings (start.trail earlier)
    let met := (start.run earlier).2
    (∀ line, met.retriesOf line = settled.countP (Ruling.chargedTo sent line)) ∧
    (∀ ruling, met.ruling? turn.retry turn.event = some ruling →
      turn.event = .failed ruling.attempt ruling.context.error ∧
      ruling.decision = turn.retry.answer ruling.context ∧
      ∃ line, lineOf sent ruling.attempt = some line ∧
        ruling.context.retryCount = met.retriesOf line) ∧
    (∀ other : RetryPolicy, (∀ ruling, met.ruling? turn.retry turn.event = some ruling →
      other.answer ruling.context = ruling.decision) →
        met.turn { turn with retry := other } = met.turn turn) ∧
    ∀ attempt error, turn.event = .failed attempt error →
      (error.isConnectionLevel = true → met.ruling? turn.retry turn.event = none) ∧
      ∀ line, error.isConnectionLevel = true ∨ lineOf sent attempt ≠ some line →
        (met.turn turn).2.retriesOf line = met.retriesOf line := by
  intro start sent settled met
  have tally : Tally plan met sent settled :=
    (tally_new plan idempotent speculationEnabled).run earlier
  refine ⟨tally.tallied, ?_, turn_eq_of_answer met turn, ?_⟩
  · intro ruling ruled
    obtain ⟨state, failed, found, context, _, decided⟩ := exists_of_ruling? ruled
    refine ⟨failed, decided, state.line, (tally.lineage.placed _ state found).2, ?_⟩
    rw [context]
    rfl
  · intro attempt error failed
    constructor
    · intro transport
      rw [failed, ruling?_of_transport transport]
    · intro line untouched
      cases (turn_step met turn).charges tally.lined with
      | nothing stays same => exact same line
      | @retry ruling state ruled goesOn found counted =>
          obtain ⟨_, event, _, _, answered, _⟩ := exists_of_ruling? ruled
          cases failed.symm.trans event
          have placed := (tally.lineage.placed ruling.attempt state found).2
          have other : state.line ≠ line := by
            intro same
            rw [answered, placed, same] at untouched
            simp at untouched
          simp [counted, other]

/-- Two lines over five nodes. The first one moves on twice after answers of servers, the second
one once after a closed channel. -/
def firstLineMovesOn : List ExecutionTurn :=
  let turn (event : ExecutionEvent) : ExecutionTurn :=
    { retry := .careful false, speculation := .constant 2 .zero, event }
  let answer (code : ErrorCode) : DriverError :=
    .server ⟨.ofParts 127 0 0 1, 9042, 0⟩ { code, message := "no" } []
  [turn .start, turn .speculativeTimer, turn (.failed ⟨0⟩ (answer .unavailable)),
    turn (.failed ⟨1⟩ (.channelClosed "reset")), turn (.failed ⟨2⟩ (answer .overloaded))]

/-- The policy has heard twice of the first line. Of the second one it has not heard before. -/
theorem firstLineMovesOn_counted :
    let plan := [1, 2, 3, 4, 5].map numberedNode
    let start := Execution.new plan true true
    let sent := dispatches (start.trail firstLineMovesOn)
    let settled := rulings (start.trail firstLineMovesOn)
    let met := (start.run firstLineMovesOn).2
    let next : ExecutionEvent := .failed ⟨3⟩
      (.server ⟨.ofParts 127 0 0 4, 9042, 0⟩ { code := .unavailable, message := "no" } [])
    settled.map (fun ruling => (ruling.attempt.number, ruling.context.retryCount)) =
      [(0, 0), (2, 1)] ∧
    met.retriesOf 0 = 2 ∧
    ∃ ruling, met.ruling? (.careful false) next = some ruling ∧
      lineOf sent ruling.attempt = some 1 ∧ ruling.context.retryCount = 0 := by
  intro plan start sent settled met next
  have asked : (met.ruling? (.careful false) next).isSome = true := by decide +revert
  have second : lineOf sent ⟨3⟩ = some 1 := by decide +revert
  have none : settled.countP (Ruling.chargedTo sent 1) = 0 := by decide +revert
  refine ⟨by decide +revert, by decide +revert, ?_⟩
  obtain ⟨counts, told, _⟩ := lines_count_their_retries plan true true firstLineMovesOn
    ⟨.careful false, .never, next⟩
  obtain ⟨ruling, ruled⟩ := Option.isSome_iff_exists.mp asked
  obtain ⟨event, _, line, ofLine, count⟩ := told ruling ruled
  have failed : ⟨3⟩ = ruling.attempt := (ExecutionEvent.failed.inj event).1
  rw [← failed, second] at ofLine
  rw [← Option.some.inj ofLine] at count
  exact ⟨ruling, ruled, by rw [← failed, second], count.trans ((counts 1).trans none)⟩

end Execution

end CqlDriver
