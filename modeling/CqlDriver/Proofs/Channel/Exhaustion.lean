/-
Streams that are all taken while no answer comes. No stream becomes free then, so nobody
new waits, and when those who wait have given up the orphans have every stream.
-/

import CqlDriver.Proofs.Channel.Answers
import CqlDriver.Proofs.Channel.StreamRuns

namespace CqlDriver

namespace StreamOperation

def isAnswer : StreamOperation → Bool
  | .complete _ | .failStream _ _ => true
  | _ => false

end StreamOperation

namespace StreamTable

variable {base table after : StreamTable}

theorem closed_abandon (shut : table.closed ≠ none) (ticket : Ticket) :
    (table.abandon ticket).2.closed ≠ none := by
  rcases abandon_cases table ticket with ⟨_, same⟩ | ⟨_, _, same⟩ | ⟨_, _, same⟩
  · rw [same]
    exact shut
  · rw [same]
    exact shut
  · rw [same]
    exact close_closed orphansReason _

theorem closed_perform (shut : table.closed ≠ none) (operation : StreamOperation) :
    (table.perform operation).closed ≠ none := by
  cases operation with
  | send address =>
      obtain ⟨reason, isReason⟩ := Option.ne_none_iff_exists'.mp shut
      have same : table.perform (.send address) = table :=
        congrArg Prod.snd (send_closed address isReason)
      rw [same]
      exact shut
  | askForSign =>
      have same : table.perform .askForSign = table :=
        if_pos (Option.isSome_iff_ne_none.mpr shut)
      rw [same]
      exact shut
  | complete frame => exact (complete_keeps frame table).1.trans_ne shut
  | failStream stream error => exact (failStream_keeps stream error table).1.trans_ne shut
  | abandon ticket => exact closed_abandon shut ticket
  | drain => exact shut
  | close reason => exact close_closed reason table

theorem closed_performAll (shut : table.closed ≠ none)
    (operations : List StreamOperation) : (table.performAll operations).closed ≠ none := by
  induction operations generalizing table with
  | nil => exact shut
  | cons operation rest ih => exact ih (closed_perform shut operation)

structure Starved (base table : StreamTable) : Prop where
  accounted : table.Accounted
  bounded : table.ids.capacity ≤ 0x8000
  full : table.held.length = table.ids.capacity
  fewer : ∀ ticket, table.isWaiting ticket = true → base.isWaiting ticket = true

namespace Starved

theorem nothing_free (starved : Starved base table) : table.reserve.1 = none :=
  (starved.accounted.reserve_none_iff starved.bounded).mpr starved.full

theorem refuse (starved : Starved base table) (refused : table.reserve = (none, after)) :
    Starved base after := by
  obtain ⟨accounted, same, _⟩ := starved.accounted.reserve_none refused
  have limits := limits_reserve table
  rw [refused] at limits
  have capacity : after.ids.capacity = table.ids.capacity := congrArg Prod.fst limits
  have held : after.held = table.held := by
    rw [same]
    rfl
  refine ⟨accounted, ?_, ?_, ?_⟩
  · rw [capacity]
    exact starved.bounded
  · rw [held, capacity]
    exact starved.full
  · intro ticket waits
    rw [same] at waits
    exact starved.fewer ticket waits

theorem reserve (starved : Starved base table) : Starved base table.reserve.2 := by
  have free := starved.nothing_free
  cases refused : table.reserve with
  | mk given after =>
      rw [refused] at free
      cases free
      exact starved.refuse refused

theorem orphan (starved : Starved base table) {ticket : Ticket}
    (waits : table.isWaiting ticket = true) (room : table.orphans.length < table.maxOrphans) :
    Starved base (table.orphan ticket.stream) := by
  have waiting := keys_of_isWaiting waits
  refine ⟨starved.accounted.orphan waiting room, starved.bounded, ?_, ?_⟩
  · rw [(starved.accounted.held_orphan waiting).length_eq]
    exact starved.full
  · intro other still
    exact starved.fewer other ((isWaiting_erase rfl other).mp still).1

theorem send (starved : Starved base table) (address : SocketAddress) :
    Starved base (table.send address).2 := by
  rcases send_cases address table with
    ⟨_, after, sent, same | ⟨_, refused⟩⟩ | ⟨ticket, after, _, reserved, _⟩
  · rw [sent, same]
    exact starved
  · rw [sent]
    exact starved.refuse refused
  · have free := starved.nothing_free
    rw [reserved] at free
    cases free

theorem abandon (starved : Starved base table) {ticket : Ticket}
    (stillOpen : (table.abandon ticket).2.closed = none) :
    Starved base (table.abandon ticket).2 := by
  rcases abandon_cases table ticket with ⟨_, same⟩ | ⟨waits, room, same⟩ | ⟨_, _, same⟩
  · rw [same]
    exact starved
  · rw [same]
    exact starved.orphan waits room
  · rw [same] at stillOpen
    exact absurd stillOpen (close_closed orphansReason _)

theorem drain (starved : Starved base table) : Starved base table.drain := by
  have accounted := starved.accounted
  exact ⟨⟨accounted.sound, accounted.reserved, accounted.distinct, accounted.counted,
    accounted.tolerated⟩, starved.bounded, starved.full, starved.fewer⟩

/-- Without answers no stream becomes free, so nobody comes to those who wait. -/
theorem perform (starved : Starved base table) {operation : StreamOperation}
    (noAnswer : operation.isAnswer = false)
    (stillOpen : (table.perform operation).closed = none) :
    Starved base (table.perform operation) := by
  cases operation with
  | send address => exact starved.send address
  | askForSign =>
      unfold StreamTable.perform
      dsimp only
      split
      · exact starved
      · exact starved.reserve
  | complete frame => cases noAnswer
  | failStream stream error => cases noAnswer
  | abandon ticket => exact starved.abandon stillOpen
  | drain => exact starved.drain
  | close reason => exact absurd stillOpen (close_closed reason table)

theorem performAll (starved : Starved base table) {operations : List StreamOperation}
    (noAnswers : ∀ operation ∈ operations, operation.isAnswer = false)
    (stillOpen : (table.performAll operations).closed = none) :
    Starved base (table.performAll operations) := by
  induction operations generalizing table with
  | nil => exact starved
  | cons operation rest ih =>
      have openBetween : (table.perform operation).closed = none := by
        by_contra shut
        exact closed_performAll shut rest stillOpen
      have between := starved.perform (noAnswers operation List.mem_cons_self) openBetween
      exact ih between (fun other member => noAnswers other (List.mem_cons_of_mem _ member))
        stillOpen

theorem idle (starved : Starved base table)
    (givenUp : ∀ ticket, base.isWaiting ticket = true → table.isWaiting ticket = false) :
    table.waiters = [] := by
  cases waiting : table.waiters with
  | nil => rfl
  | cons entry rest =>
      have waits : table.isWaiting ⟨entry.1, entry.2⟩ = true := by
        rw [isWaiting_iff, waiting]
        exact if_pos rfl
      rw [givenUp _ (starved.fewer _ waits)] at waits
      cases waits

/-- Where nobody waits the orphans have every stream. -/
theorem orphans_of_idle (starved : Starved base table) (idle : table.waiters = []) :
    table.orphans.length = table.ids.capacity := by
  have full := starved.full
  unfold held at full
  rw [idle] at full
  exact full

end Starved

end StreamTable

end CqlDriver
