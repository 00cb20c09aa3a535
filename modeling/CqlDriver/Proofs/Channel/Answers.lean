/-
Whose answer it is. The server answers each request at most once, on its stream. Hence
the requests that it can still answer have different streams, and whoever waits on a
stream is the request that the next answer on this stream is for.
-/

import CqlDriver.Proofs.Channel.Streams
import Mathlib.Data.List.Nodup

namespace CqlDriver.StreamTable

/-- The streams of a channel and the requests that can still be answered: their
answers are not given yet, or are under way. -/
structure Linked (table : StreamTable) (outstanding : List Ticket) : Prop where
  valid : table.Valid
  distinct : (outstanding.map Ticket.stream).Nodup
  awaited : ∀ ticket, table.isWaiting ticket = true → ticket ∈ outstanding
  covered : table.closed = none → ∀ ticket ∈ outstanding, ticket.stream ∈ table.held

theorem isWaiting_of_find? {table : StreamTable} {stream : Int16} {request : Nat}
    (found : table.waiters.find? stream = some request) :
    table.isWaiting { stream, request } = true :=
  isWaiting_iff.mpr found

theorem isWaiting_erase {table after : StreamTable} {stream : Int16}
    (erased : after.waiters = table.waiters.erase stream) (ticket : Ticket) :
    after.isWaiting ticket = true ↔ table.isWaiting ticket = true ∧ ticket.stream ≠ stream := by
  rw [isWaiting_iff, isWaiting_iff, erased]
  by_cases same : ticket.stream = stream
  · rw [same, Table.find?_erase_self]
    exact ⟨fun nothing => absurd nothing.symm (Option.some_ne_none _),
      fun both => absurd rfl both.2⟩
  · rw [Table.find?_erase_of_ne same]
    exact ⟨fun found => ⟨found, same⟩, fun both => both.1⟩

theorem complete_keeps (frame : Frame) (table : StreamTable) :
    (table.complete frame).2.closed = table.closed ∧
      (table.complete frame).2.accepted = table.accepted := by
  unfold complete
  split
  · exact ⟨rfl, rfl⟩
  · split
    · exact ⟨rfl, rfl⟩
    · exact ⟨rfl, rfl⟩

theorem failStream_keeps (stream : Int16) (error : DriverError) (table : StreamTable) :
    (table.failStream stream error).2.closed = table.closed ∧
      (table.failStream stream error).2.accepted = table.accepted := by
  unfold failStream
  split
  · exact ⟨rfl, rfl⟩
  · exact ⟨rfl, rfl⟩

theorem accepted_close (reason : String) (table : StreamTable) :
    (table.close reason).2.accepted = table.accepted := by
  unfold close
  split
  · rfl
  · rfl

theorem accepted_abandon (ticket : Ticket) (table : StreamTable) :
    (table.abandon ticket).2.accepted = table.accepted := by
  rcases abandon_cases table ticket with ⟨_, same⟩ | ⟨_, _, same⟩ | ⟨_, _, same⟩
  · rw [same]
  · rw [same]
    rfl
  · rw [same]
    exact accepted_close _ _

theorem stream_ne_of_missing {table : StreamTable} {stream : Int16} {ticket : Ticket}
    (missing : table.waiters.find? stream = none) (waits : table.isWaiting ticket = true) :
    ticket.stream ≠ stream := by
  intro same
  rw [isWaiting_iff, same, missing] at waits
  cases waits

/-- After an answer the requests wait that waited, but for the one on its stream. -/
theorem isWaiting_complete (frame : Frame) (table : StreamTable) (ticket : Ticket) :
    (table.complete frame).2.isWaiting ticket = true ↔
      table.isWaiting ticket = true ∧ ticket.stream ≠ frame.stream := by
  unfold complete
  split
  · exact isWaiting_erase rfl ticket
  · rename_i missing
    split
    · exact ⟨fun waits => ⟨waits, stream_ne_of_missing missing waits⟩, fun both => both.1⟩
    · exact ⟨fun waits => ⟨waits, stream_ne_of_missing missing waits⟩, fun both => both.1⟩

theorem isWaiting_failStream (stream : Int16) (error : DriverError) (table : StreamTable)
    (ticket : Ticket) :
    (table.failStream stream error).2.isWaiting ticket = true ↔
      table.isWaiting ticket = true ∧ ticket.stream ≠ stream := by
  unfold failStream
  split
  · exact isWaiting_erase rfl ticket
  · rename_i missing
    exact ⟨fun waits => ⟨waits, stream_ne_of_missing missing waits⟩, fun both => both.1⟩

theorem held_of_erase {table after : StreamTable} {stream other : Int16}
    (erased : after.waiters = table.waiters.erase stream)
    (sameOrphans : after.orphans = table.orphans)
    (taken : other ∈ table.held) (elsewhere : other ≠ stream) : other ∈ after.held := by
  unfold held
  rw [erased, sameOrphans, Table.keys_erase]
  rcases List.mem_append.mp taken with waiting | orphaned
  · exact List.mem_append_left _ (List.mem_filter.mpr ⟨waiting, decide_eq_true elsewhere⟩)
  · exact List.mem_append_right _ orphaned

theorem held_complete (frame : Frame) {table : StreamTable} {stream : Int16}
    (taken : stream ∈ table.held) (elsewhere : stream ≠ frame.stream) :
    stream ∈ (table.complete frame).2.held := by
  unfold complete
  split
  · exact held_of_erase rfl rfl taken elsewhere
  · split
    · rcases List.mem_append.mp taken with waiting | orphaned
      · exact List.mem_append_left _ waiting
      · exact List.mem_append_right _ ((List.mem_erase_of_ne elsewhere).mpr orphaned)
    · exact taken

theorem held_failStream (error : DriverError) {table : StreamTable} {stream other : Int16}
    (taken : other ∈ table.held) (elsewhere : other ≠ stream) :
    other ∈ (table.failStream stream error).2.held := by
  unfold failStream
  split
  · exact held_of_erase rfl rfl taken elsewhere
  · exact taken

theorem mem_close {table : StreamTable} (distinct : table.waiters.keys.Nodup)
    (isOpen : table.closed = none) (reason : String) (outcome : Outcome) :
    outcome ∈ (table.close reason).1 ↔
      ∃ ticket, table.isWaiting ticket = true ∧
        outcome = { request := ticket.request, result := .error (.channelClosed reason) } := by
  rw [close_of_open reason isOpen]
  dsimp only
  rw [List.mem_map]
  constructor
  · rintro ⟨request, member, same⟩
    obtain ⟨entry, inTable, number⟩ := List.mem_map.mp member
    refine ⟨{ stream := entry.1, request }, ?_, same.symm⟩
    exact isWaiting_of_find? (Table.find?_of_mem distinct (number ▸ inTable))
  · rintro ⟨ticket, waits, same⟩
    refine ⟨ticket.request, ?_, same.symm⟩
    exact List.mem_map.mpr ⟨_, Table.mem_of_find? (isWaiting_iff.mp waits), rfl⟩

variable {table after : StreamTable} {outstanding : List Ticket} {ticket other : Ticket}
  {stream : Int16}

namespace Linked

/-- No two requests that can still be answered share a stream. -/
theorem eq_of_stream_eq (linked : table.Linked outstanding) (first : ticket ∈ outstanding)
    (second : other ∈ outstanding) (same : ticket.stream = other.stream) : ticket = other :=
  List.inj_on_of_nodup_map linked.distinct first second same

theorem waiter_eq (linked : table.Linked outstanding) (member : ticket ∈ outstanding)
    {request : Nat} (found : table.waiters.find? ticket.stream = some request) :
    request = ticket.request := by
  have waits := isWaiting_of_find? found
  have same := linked.eq_of_stream_eq (linked.awaited _ waits) member rfl
  exact congrArg Ticket.request same

theorem complete_fst (linked : table.Linked outstanding) (member : ticket ∈ outstanding)
    {frame : Frame} (same : frame.stream = ticket.stream) :
    (table.complete frame).1 =
      if table.isWaiting ticket = true then
        some { request := ticket.request, result := .ok frame }
      else none := by
  unfold StreamTable.complete
  rw [same]
  cases found : table.waiters.find? ticket.stream with
  | some request =>
      have number := linked.waiter_eq member found
      have waits : table.isWaiting ticket = true := isWaiting_iff.mpr (number ▸ found)
      rw [if_pos waits, number]
  | none =>
      rw [if_neg fun waits => stream_ne_of_missing found waits rfl]
      dsimp only
      split
      · rfl
      · rfl

theorem failStream_fst (linked : table.Linked outstanding) (member : ticket ∈ outstanding)
    (error : DriverError) :
    (table.failStream ticket.stream error).1 =
      if table.isWaiting ticket = true then
        some { request := ticket.request, result := .error error }
      else none := by
  unfold StreamTable.failStream
  cases found : table.waiters.find? ticket.stream with
  | some request =>
      have number := linked.waiter_eq member found
      have waits : table.isWaiting ticket = true := isWaiting_iff.mpr (number ▸ found)
      rw [if_pos waits, number]
  | none => rw [if_neg fun waits => stream_ne_of_missing found waits rfl]

theorem keep (linked : table.Linked outstanding) (valid : after.Valid)
    (sameWaiters : after.waiters = table.waiters)
    (sameOrphans : after.orphans = table.orphans)
    (sameState : after.closed = table.closed) : after.Linked outstanding := by
  refine ⟨valid, linked.distinct, ?_, ?_⟩
  · intro ticket waits
    apply linked.awaited
    rw [isWaiting_iff] at waits ⊢
    rw [← sameWaiters]
    exact waits
  · intro isOpen ticket member
    unfold held
    rw [sameWaiters, sameOrphans]
    exact linked.covered (sameState ▸ isOpen) ticket member

/-- A new request gets a stream on which no answer is to come. -/
theorem reserve_some (linked : table.Linked outstanding) (isOpen : table.closed = none)
    (reserved : table.reserve = (some ticket, after)) : after.Linked (ticket :: outstanding) := by
  obtain ⟨booked, fresh, _, same⟩ := (linked.valid.whileOpen isOpen).reserve_some reserved
  have stillOpen : after.closed = none := by
    rw [same]
    exact isOpen
  have held : after.held.Perm (ticket.stream :: table.held) := by
    rw [same]
    unfold StreamTable.held Table.keys
    rw [List.map_append, List.append_assoc]
    exact List.perm_middle
  refine ⟨booked.valid stillOpen, ?_, ?_, ?_⟩
  · rw [List.map_cons, List.nodup_cons]
    refine ⟨?_, linked.distinct⟩
    intro shared
    obtain ⟨other, member, sameStream⟩ := List.mem_map.mp shared
    exact fresh (sameStream ▸ linked.covered isOpen other member)
  · intro other waits
    rw [isWaiting_iff, same] at waits
    dsimp only at waits
    rw [← Table.put_of_not_mem fun waiting => fresh (List.mem_append_left _ waiting)] at waits
    by_cases shared : other.stream = ticket.stream
    · rw [shared, Table.find?_put_self] at waits
      have sameTicket : other = ticket := by
        cases other
        cases ticket
        cases shared
        cases waits
        rfl
      exact List.mem_cons.mpr (Or.inl sameTicket)
    · rw [Table.find?_put_of_ne shared] at waits
      exact List.mem_cons_of_mem _ (linked.awaited other (isWaiting_iff.mpr waits))
  · intro _ other member
    rw [held.mem_iff, List.mem_cons]
    rcases List.mem_cons.mp member with new | old
    · exact Or.inl (congrArg Ticket.stream new)
    · exact Or.inr (linked.covered isOpen other old)

theorem reserve_none (linked : table.Linked outstanding) (isOpen : table.closed = none)
    (refused : table.reserve = (none, after)) : after.Linked outstanding := by
  obtain ⟨booked, same, _⟩ := (linked.valid.whileOpen isOpen).reserve_none refused
  have stillOpen : after.closed = none := by
    rw [same]
    exact isOpen
  apply linked.keep (booked.valid stillOpen)
  · rw [same]
  · rw [same]
  · rw [same]

theorem outstanding_nodup (linked : table.Linked outstanding) : outstanding.Nodup :=
  List.Nodup.of_map Ticket.stream linked.distinct

theorem erase_distinct (linked : table.Linked outstanding) (ticket : Ticket) :
    ((outstanding.erase ticket).map Ticket.stream).Nodup :=
  linked.distinct.sublist (List.Sublist.map _ List.erase_sublist)

/-- A request that was answered waits no more, and only its stream may have become free. -/
theorem settled (linked : table.Linked outstanding) (member : ticket ∈ outstanding)
    (valid : after.Valid)
    (waits : ∀ other, after.isWaiting other = true →
      table.isWaiting other = true ∧ other.stream ≠ ticket.stream)
    (kept : ∀ stream ∈ table.held, stream ≠ ticket.stream → stream ∈ after.held)
    (sameState : after.closed = table.closed) : after.Linked (outstanding.erase ticket) := by
  refine ⟨valid, linked.erase_distinct ticket, ?_, ?_⟩
  · intro other stillWaits
    obtain ⟨waited, elsewhere⟩ := waits other stillWaits
    apply linked.outstanding_nodup.mem_erase_iff.mpr
    exact ⟨fun same => elsewhere (congrArg Ticket.stream same), linked.awaited other waited⟩
  · intro isOpen other left
    obtain ⟨different, outstandingStill⟩ := linked.outstanding_nodup.mem_erase_iff.mp left
    apply kept other.stream (linked.covered (sameState ▸ isOpen) other outstandingStill)
    exact fun shared => different (linked.eq_of_stream_eq outstandingStill member shared)

theorem complete (linked : table.Linked outstanding) (member : ticket ∈ outstanding)
    {frame : Frame} (same : frame.stream = ticket.stream) :
    (table.complete frame).2.Linked (outstanding.erase ticket) := by
  apply linked.settled member (linked.valid.complete frame)
  · intro other waits
    rw [← same]
    exact (isWaiting_complete frame table other).mp waits
  · intro stream taken elsewhere
    exact held_complete frame taken (same ▸ elsewhere)
  · exact (complete_keeps frame table).1

theorem failStream (linked : table.Linked outstanding) (member : ticket ∈ outstanding)
    (error : DriverError) :
    (table.failStream ticket.stream error).2.Linked (outstanding.erase ticket) := by
  apply linked.settled member (linked.valid.failStream ticket.stream error)
  · intro other waits
    exact (isWaiting_failStream ticket.stream error table other).mp waits
  · intro stream taken elsewhere
    exact held_failStream error taken elsewhere
  · exact (failStream_keeps ticket.stream error table).1

theorem of_closed (distinct : (outstanding.map Ticket.stream).Nodup) (valid : table.Valid)
    (shut : table.closed ≠ none) : table.Linked outstanding := by
  refine ⟨valid, distinct, ?_, fun isOpen => absurd isOpen shut⟩
  intro ticket waits
  rw [isWaiting_iff, (valid.afterClose shut).1] at waits
  cases waits

theorem close (linked : table.Linked outstanding) (reason : String) :
    (table.close reason).2.Linked outstanding :=
  of_closed linked.distinct (linked.valid.close reason) (close_closed reason table)

theorem abandon (linked : table.Linked outstanding) (ticket : Ticket) :
    (table.abandon ticket).2.Linked outstanding := by
  have valid := linked.valid.abandon ticket
  rcases abandon_cases table ticket with ⟨_, same⟩ | ⟨waits, _, same⟩ | ⟨_, _, same⟩
  · rw [same]
    exact linked
  · rw [same] at valid ⊢
    refine ⟨valid, linked.distinct, ?_, ?_⟩
    · intro other waits
      exact linked.awaited other ((isWaiting_erase rfl other).mp waits).1
    · intro isOpen other member
      have accounted := linked.valid.whileOpen isOpen
      rw [(accounted.held_orphan (keys_of_isWaiting waits)).mem_iff]
      exact linked.covered isOpen other member
  · rw [same] at valid ⊢
    exact of_closed linked.distinct valid (close_closed _ _)

end Linked

end CqlDriver.StreamTable
