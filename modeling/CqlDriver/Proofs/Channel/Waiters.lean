/-
The requests that wait, whatever the order in which callers, the reader and the watch
over signs of life come. Between taking a stream from its request and closing the
channel because of it others may act, so that for a moment there can be more orphans
than the channel bears; what holds of those who wait holds then as well.
-/

import CqlDriver.Proofs.Channel.Answers

namespace CqlDriver

theorem StreamIdSet.release_keeps {ids : StreamIdSet} (sound : ids.Sound) (stream : Int16) :
    (ids.release stream).2.Sound ∧ ∀ other, other ≠ stream → ids.contains other = true →
      (ids.release stream).2.contains other = true := by
  by_cases marked : ids.contains stream = true
  · obtain ⟨_, after, contains, _⟩ := release_marked sound marked
    exact ⟨after, fun other different held => (contains other).mpr ⟨held, different⟩⟩
  · unfold release
    rw [if_neg marked]
    exact ⟨sound, fun _ _ held => held⟩

namespace StreamTable

structure Seated (table : StreamTable) : Prop where
  sound : table.ids.Sound
  reserved : ∀ stream ∈ table.waiters.keys, table.ids.contains stream = true
  streams : table.waiters.keys.Nodup
  numbers : table.waiters.values.Nodup
  issued : ∀ request ∈ table.waiters.values, request ≤ table.accepted
  afterClose : table.closed ≠ none → table.waiters = [] ∧ table.orphans = []

theorem new_seated (maxRequests maxOrphans : Nat) : (new maxRequests maxOrphans).Seated := by
  refine ⟨StreamIdSet.new_sound maxRequests, ?_, List.nodup_nil, List.nodup_nil, ?_, ?_⟩
  · intro stream member
    cases member
  · intro request member
    cases member
  · intro shut
    exact absurd rfl shut

variable {table after : StreamTable} {ticket other : Ticket} {stream : Int16}

namespace Seated

theorem mem_iff (seated : table.Seated) :
    table.isWaiting ticket = true ↔ (ticket.stream, ticket.request) ∈ table.waiters := by
  rw [isWaiting_iff]
  exact ⟨Table.mem_of_find?, Table.find?_of_mem seated.streams⟩

theorem eq_of_stream_eq (first : table.isWaiting ticket = true)
    (second : table.isWaiting other = true) (same : ticket.stream = other.stream) :
    ticket = other := by
  rw [isWaiting_iff] at first second
  rw [same, second] at first
  cases ticket
  cases other
  cases same
  cases first
  rfl

theorem eq_of_request_eq (seated : table.Seated) (first : table.isWaiting ticket = true)
    (second : table.isWaiting other = true) (same : ticket.request = other.request) :
    ticket = other := by
  have entries := List.inj_on_of_nodup_map seated.numbers (seated.mem_iff.mp first)
    (seated.mem_iff.mp second) same
  exact eq_of_stream_eq first second (congrArg Prod.fst entries)

theorem open_of_waiting (seated : table.Seated) (waits : table.isWaiting ticket = true) :
    table.closed = none := by
  by_cases isOpen : table.closed = none
  · exact isOpen
  · rw [isWaiting_iff, (seated.afterClose isOpen).1] at waits
    cases waits

theorem shrink (seated : table.Seated) (isOpen : after.closed = none) (sound : after.ids.Sound)
    (kept : ∀ other, other ≠ stream → table.ids.contains other = true →
      after.ids.contains other = true)
    (erased : after.waiters = table.waiters.erase stream)
    (sameCount : after.accepted = table.accepted) : after.Seated := by
  have fewer : (table.waiters.erase stream).values.Sublist table.waiters.values :=
    List.filter_sublist.map _
  refine ⟨sound, ?_, ?_, ?_, ?_, fun shut => absurd isOpen shut⟩
  · intro other member
    rw [erased, Table.keys_erase, List.mem_filter, decide_eq_true_iff] at member
    exact kept other member.2 (seated.reserved other member.1)
  · rw [erased]
    exact Table.nodup_keys_erase seated.streams stream
  · rw [erased]
    exact seated.numbers.sublist fewer
  · rw [erased, sameCount]
    exact fun request member => seated.issued request (fewer.subset member)

theorem endWaiter (seated : table.Seated) (isOpen : table.closed = none) (stream : Int16) :
    ({ table with waiters := table.waiters.erase stream }.release stream).Seated := by
  obtain ⟨sound, kept⟩ := StreamIdSet.release_keeps seated.sound stream
  exact seated.shrink isOpen sound kept rfl rfl

theorem endOrphan (seated : table.Seated) (isOpen : table.closed = none)
    (missing : table.waiters.find? stream = none) :
    ({ table with orphans := table.orphans.erase stream }.release stream).Seated := by
  have notWaiting := (Table.find?_eq_none_iff _ _).mp missing
  obtain ⟨sound, kept⟩ := StreamIdSet.release_keeps seated.sound stream
  refine ⟨sound, ?_, seated.streams, seated.numbers, seated.issued,
    fun shut => absurd isOpen shut⟩
  intro other member
  refine kept other ?_ (seated.reserved other member)
  rintro rfl
  exact notWaiting member

theorem orphan (seated : table.Seated) (isOpen : table.closed = none) (stream : Int16) :
    (table.orphan stream).Seated :=
  seated.shrink isOpen seated.sound (fun _ _ held => held) rfl rfl

theorem close (seated : table.Seated) (reason : String) : (table.close reason).2.Seated := by
  by_cases isOpen : table.closed = none
  · rw [close_of_open reason isOpen]
    refine ⟨seated.sound, ?_, List.nodup_nil, List.nodup_nil, ?_, fun _ => ⟨rfl, rfl⟩⟩
    · intro stream member
      cases member
    · intro request member
      cases member
  · rw [close_of_closed reason isOpen]
    exact seated

theorem drain (seated : table.Seated) : table.drain.Seated :=
  ⟨seated.sound, seated.reserved, seated.streams, seated.numbers, seated.issued,
    seated.afterClose⟩

theorem reserve_some (seated : table.Seated) (isOpen : table.closed = none)
    (reserved : table.reserve = (some ticket, after)) :
    after.Seated ∧ ticket.request = table.accepted + 1 ∧ after.accepted = ticket.request ∧
      ∀ other, after.isWaiting other = true ↔ other = ticket ∨ table.isWaiting other = true := by
  obtain ⟨allocated, number, same⟩ := reserve_eq_some reserved
  obtain ⟨free, sound, contains, _⟩ := StreamIdSet.allocate_some seated.sound allocated
  have fresh : ticket.stream ∉ table.waiters.keys := by
    intro waiting
    rw [seated.reserved ticket.stream waiting] at free
    cases free
  have entries : after.waiters = table.waiters ++ [(ticket.stream, ticket.request)] := by
    rw [same]
    exact Table.put_of_not_mem fresh ticket.request
  have sameCount : after.accepted = ticket.request := by
    rw [same]
  have seatedAfter : after.Seated := by
    refine ⟨sound, ?_, ?_, ?_, ?_, ?_⟩
    · intro stream member
      rw [entries, Table.keys, List.map_append, List.mem_append] at member
      refine (contains stream).mpr (member.imp (seated.reserved stream) ?_)
      exact List.mem_singleton.mp
    · rw [same]
      exact Table.nodup_keys_put seated.streams _ _
    · rw [entries, Table.values, List.map_append]
      refine List.nodup_append.mpr ⟨seated.numbers, List.nodup_singleton _, ?_⟩
      intro request member new isNew
      have old := seated.issued request member
      rw [List.mem_singleton.mp isNew]
      dsimp only
      omega
    · intro request member
      rw [entries, Table.values, List.map_append, List.mem_append] at member
      rw [sameCount, number]
      rcases member with old | new
      · exact Nat.le_succ_of_le (seated.issued request old)
      · rw [List.mem_singleton.mp new]
        exact Nat.le_of_eq number
    · intro shut
      rw [same] at shut
      exact absurd isOpen shut
  refine ⟨seatedAfter, number, sameCount, ?_⟩
  intro other
  rw [seatedAfter.mem_iff, seated.mem_iff, entries, List.mem_append, List.mem_singleton,
    Prod.mk.injEq]
  constructor
  · rintro (old | ⟨sameStream, sameRequest⟩)
    · exact .inr old
    · cases other
      cases ticket
      cases sameStream
      cases sameRequest
      exact .inl rfl
  · rintro (new | old)
    · rw [new]
      exact .inr ⟨rfl, rfl⟩
    · exact .inl old

theorem reserve_none (seated : table.Seated) (refused : table.reserve = (none, after)) :
    after.Seated ∧ after = { table with ids := after.ids } := by
  obtain ⟨allocated, same⟩ := reserve_eq_none refused
  obtain ⟨sound, contains, _⟩ := StreamIdSet.allocate_none seated.sound allocated
  refine ⟨?_, same⟩
  rw [same]
  exact ⟨sound, fun stream member => (contains stream).mpr (seated.reserved stream member),
    seated.streams, seated.numbers, seated.issued, seated.afterClose⟩

end Seated

/-- Some of those who waited are over: each has one outcome, or is gone without one. -/
structure Ends (table after : StreamTable) (outcomes : List Outcome) (gone : List Ticket) :
    Prop where
  seated : after.Seated
  sameCount : after.accepted = table.accepted
  fewer : ∀ ticket, after.isWaiting ticket = true → table.isWaiting ticket = true
  once : (outcomes.map Outcome.request).Nodup
  ended : ∀ outcome ∈ outcomes, ∃ ticket, table.isWaiting ticket = true ∧
    after.isWaiting ticket = false ∧ ticket.request = outcome.request
  told : ∀ ticket, table.isWaiting ticket = true → after.isWaiting ticket = true ∨
    ticket ∈ gone ∨ ∃ outcome ∈ outcomes, outcome.request = ticket.request

theorem Ends.nobody (seated : after.Seated) (sameCount : after.accepted = table.accepted)
    (sameWaiters : after.waiters = table.waiters) : table.Ends after [] [] := by
  have sameWaiting (ticket : Ticket) : after.isWaiting ticket = table.isWaiting ticket := by
    unfold isWaiting
    rw [sameWaiters]
  refine ⟨seated, sameCount, ?_, List.nodup_nil, ?_, ?_⟩
  · intro ticket waits
    rw [← sameWaiting]
    exact waits
  · intro outcome nothing
    cases nothing
  · intro ticket waits
    rw [sameWaiting]
    exact .inl waits

theorem Ends.one (waits : table.isWaiting ticket = true) (seated : after.Seated)
    (sameCount : after.accepted = table.accepted)
    (erased : after.waiters = table.waiters.erase ticket.stream)
    (result : Except DriverError Frame) :
    table.Ends after [{ request := ticket.request, result }] [] := by
  refine ⟨seated, sameCount, ?_, List.nodup_singleton _, ?_, ?_⟩
  · exact fun other still => ((isWaiting_erase erased other).mp still).1
  · intro outcome member
    rw [List.mem_singleton.mp member]
    refine ⟨ticket, waits, ?_, rfl⟩
    rw [Bool.eq_false_iff]
    exact fun still => ((isWaiting_erase erased ticket).mp still).2 rfl
  · intro other waited
    by_cases sameStream : other.stream = ticket.stream
    · rw [Seated.eq_of_stream_eq waited waits sameStream]
      exact .inr (.inr ⟨_, List.mem_singleton_self _, rfl⟩)
    · exact .inl ((isWaiting_erase erased other).mpr ⟨waited, sameStream⟩)

namespace Seated

theorem orphan_ends (seated : table.Seated) (waits : table.isWaiting ticket = true) :
    table.Ends (table.orphan ticket.stream) [] [ticket] := by
  refine ⟨seated.orphan (seated.open_of_waiting waits) _, rfl, ?_, List.nodup_nil, ?_, ?_⟩
  · exact fun other still => ((isWaiting_erase rfl other).mp still).1
  · intro outcome nothing
    cases nothing
  · intro other waited
    by_cases sameStream : other.stream = ticket.stream
    · exact .inr (.inl (List.mem_singleton.mpr (eq_of_stream_eq waited waits sameStream)))
    · exact .inl ((isWaiting_erase rfl other).mpr ⟨waited, sameStream⟩)

theorem complete_ends (seated : table.Seated) (isOpen : table.closed = none) (frame : Frame) :
    table.Ends (table.complete frame).2 (table.complete frame).1.toList [] := by
  unfold complete
  split
  · rename_i request found
    exact .one (isWaiting_of_find? found) (seated.endWaiter isOpen frame.stream) rfl rfl _
  · rename_i missing
    split
    · exact .nobody (seated.endOrphan isOpen missing) rfl rfl
    · exact .nobody seated rfl rfl

theorem failStream_ends (seated : table.Seated) (stream : Int16) (error : DriverError) :
    table.Ends (table.failStream stream error).2 (table.failStream stream error).1.toList [] := by
  unfold failStream
  split
  · rename_i request found
    have waits := isWaiting_of_find? found
    exact .one waits (seated.endWaiter (seated.open_of_waiting waits) stream) rfl rfl _
  · exact .nobody seated rfl rfl

theorem close_ends (seated : table.Seated) (reason : String) :
    table.Ends (table.close reason).2 (table.close reason).1 [] := by
  have closed := seated.close reason
  by_cases isOpen : table.closed = none
  · have nobody : ∀ ticket, (table.close reason).2.isWaiting ticket = false := by
      intro ticket
      rw [close_of_open reason isOpen]
      rfl
    refine ⟨closed, accepted_close reason table, ?_, ?_, ?_, ?_⟩
    · intro ticket still
      rw [nobody] at still
      cases still
    · rw [close_of_open reason isOpen, List.map_map]
      exact (List.map_id _).symm ▸ seated.numbers
    · intro outcome member
      obtain ⟨ticket, waits, same⟩ := (mem_close seated.streams isOpen reason outcome).mp member
      refine ⟨ticket, waits, nobody ticket, ?_⟩
      rw [same]
    · intro ticket waits
      have told := (mem_close seated.streams isOpen reason _).mpr ⟨ticket, waits, rfl⟩
      exact .inr (.inr ⟨_, told, rfl⟩)
  · rw [close_of_closed reason isOpen] at closed ⊢
    exact .nobody closed rfl rfl

end Seated

end StreamTable

end CqlDriver
