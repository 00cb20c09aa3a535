/-
Runs of operations on the streams of a channel, by callers, by the reader and by the
watch over signs of life, in any order. As long as the channel is open the books of
its streams are right, and a caller is turned away only when every stream is taken.
-/

import CqlDriver.Proofs.Channel.Streams

namespace CqlDriver

inductive StreamOperation where
  | send (address : SocketAddress)
  /-- A request of the channel itself, which also a draining channel makes. -/
  | askForSign
  | complete (frame : Frame)
  | failStream (stream : Int16) (error : DriverError)
  | abandon (ticket : Ticket)
  | drain
  | close (reason : String)

namespace StreamTable

def perform (table : StreamTable) : StreamOperation → StreamTable
  | .send address => (table.send address).2
  | .askForSign => if table.isClosed then table else table.reserve.2
  | .complete frame => (table.complete frame).2
  | .failStream stream error => (table.failStream stream error).2
  | .abandon ticket => (table.abandon ticket).2
  | .drain => table.drain
  | .close reason => (table.close reason).2

def performAll (table : StreamTable) (operations : List StreamOperation) : StreamTable :=
  operations.foldl perform table

theorem perform_valid {table : StreamTable} (valid : table.Valid) (operation : StreamOperation) :
    (table.perform operation).Valid := by
  cases operation with
  | send address => exact valid.send address
  | askForSign =>
      unfold perform
      cases shut : table.closed with
      | some reason =>
          have closed : table.isClosed = true := by
            unfold isClosed
            rw [shut]
            rfl
          dsimp only
          rw [if_pos closed]
          exact valid
      | none =>
          have isOpen : ¬table.isClosed = true := by
            unfold isClosed
            rw [shut]
            exact Bool.false_ne_true
          dsimp only
          rw [if_neg isOpen]
          exact valid.reserve shut
  | complete frame => exact valid.complete frame
  | failStream stream error => exact valid.failStream stream error
  | abandon ticket => exact valid.abandon ticket
  | drain => exact valid.drain
  | close reason => exact valid.close reason

theorem performAll_valid {table : StreamTable} (valid : table.Valid)
    (operations : List StreamOperation) : (table.performAll operations).Valid := by
  induction operations generalizing table with
  | nil => exact valid
  | cons operation rest ih => exact ih (perform_valid valid operation)

theorem limits_send (address : SocketAddress) (table : StreamTable) :
    (table.send address).2.limits = table.limits := by
  have kept := limits_reserve table
  rcases send_cases address table with
    ⟨_, after, sent, same | ⟨_, refused⟩⟩ | ⟨ticket, after, _, reserved, sent⟩
  · rw [sent, same]
  · rw [refused] at kept
    rw [sent]
    exact kept
  · rw [reserved] at kept
    rw [sent]
    exact kept

theorem limits_complete (frame : Frame) (table : StreamTable) :
    (table.complete frame).2.limits = table.limits := by
  unfold complete
  split
  · exact limits_release frame.stream _
  · split
    · exact limits_release frame.stream _
    · rfl

theorem limits_failStream (stream : Int16) (error : DriverError) (table : StreamTable) :
    (table.failStream stream error).2.limits = table.limits := by
  unfold failStream
  split
  · exact limits_release stream _
  · rfl

theorem limits_close (reason : String) (table : StreamTable) :
    (table.close reason).2.limits = table.limits := by
  unfold close
  split
  · rfl
  · rfl

theorem limits_abandon (ticket : Ticket) (table : StreamTable) :
    (table.abandon ticket).2.limits = table.limits := by
  unfold abandon
  split
  · dsimp only
    split
    · exact limits_close _ _
    · rfl
  · rfl

theorem limits_perform (operation : StreamOperation) (table : StreamTable) :
    (table.perform operation).limits = table.limits := by
  cases operation with
  | send address => exact limits_send address table
  | askForSign =>
      unfold perform
      dsimp only
      split
      · rfl
      · exact limits_reserve table
  | complete frame => exact limits_complete frame table
  | failStream stream error => exact limits_failStream stream error table
  | abandon ticket => exact limits_abandon ticket table
  | drain => rfl
  | close reason => exact limits_close reason table

theorem limits_performAll (operations : List StreamOperation) (table : StreamTable) :
    (table.performAll operations).limits = table.limits := by
  induction operations generalizing table with
  | nil => rfl
  | cons operation rest ih => exact (ih (table.perform operation)).trans (limits_perform operation table)

theorem Accounted.busy_iff {table : StreamTable} (accounted : table.Accounted)
    (bounded : table.ids.capacity ≤ 0x8000) (isOpen : table.closed = none)
    (accepting : table.draining = false) (address : SocketAddress) :
    (table.send address).1 = .error (.busy address) ↔
      table.held.length = table.ids.capacity := by
  rw [← accounted.reserve_none_iff bounded, send_open address isOpen accepting]
  cases table.reserve with
  | mk given after =>
      cases given with
      | none => exact ⟨fun _ => rfl, fun _ => rfl⟩
      | some ticket =>
          constructor
          · intro turnedAway
            cases turnedAway
          · intro nothing
            cases nothing

/-- Whatever was done to a channel, as long as it is open: the bits of its ids mark
exactly the streams that requests wait on and the orphans, each stream is only one of
these, the count is right, all streams are below the limit, there are no more orphans
than the channel bears, a caller is turned away as too many exactly when every stream
is taken, and a stream can be freed exactly when it is taken. -/
theorem open_streams_accounted (maxRequests maxOrphans : Nat) (bounded : maxRequests ≤ 32768)
    (operations : List StreamOperation) :
    let table := (StreamTable.new maxRequests maxOrphans).performAll operations
    table.closed = none →
      (∀ id : Nat, StreamIdSet.hasBit table.ids.words id = true ↔
        ∃ stream, (stream ∈ table.waiters.keys ∨ stream ∈ table.orphans) ∧ stream.toInt = id) ∧
      (table.waiters.keys.Nodup ∧ table.orphans.Nodup ∧
        ∀ stream ∈ table.waiters.keys, stream ∉ table.orphans) ∧
      table.ids.inUse = table.waiters.length + table.orphans.length ∧
      (∀ stream, stream ∈ table.waiters.keys ∨ stream ∈ table.orphans →
        0 ≤ stream.toInt ∧ stream.toInt < maxRequests) ∧
      table.orphans.length ≤ maxOrphans ∧
      (table.draining = false → ∀ address,
        ((table.send address).1 = .error (.busy address) ↔
          table.waiters.length + table.orphans.length = maxRequests)) ∧
      ∀ stream, (table.ids.release stream).1 = true ↔
        stream ∈ table.waiters.keys ∨ stream ∈ table.orphans := by
  intro table isOpen
  have start := (new_accounted maxRequests maxOrphans).valid rfl
  have accounted : table.Accounted := (performAll_valid start operations).whileOpen isOpen
  obtain ⟨capacity, orphanLimit⟩ :
      table.ids.capacity = maxRequests ∧ table.maxOrphans = maxOrphans :=
    Prod.mk.inj (limits_performAll operations (StreamTable.new maxRequests maxOrphans))
  have small : table.ids.capacity ≤ 0x8000 := by omega
  have heldLength : table.held.length = table.waiters.length + table.orphans.length := by
    unfold held Table.keys
    rw [List.length_append, List.length_map]
  have heldMember (stream : Int16) :
      stream ∈ table.held ↔ stream ∈ table.waiters.keys ∨ stream ∈ table.orphans :=
    List.mem_append
  refine ⟨?_, ⟨accounted.keys_nodup, accounted.orphans_nodup, fun stream waiting =>
    accounted.separate waiting⟩, ?_, ?_, ?_, ?_, ?_⟩
  · intro id
    simp only [accounted.hasBit_iff small, heldMember]
  · rw [accounted.counted small, heldLength]
  · intro stream taken
    rw [← capacity]
    exact accounted.in_range ((heldMember stream).mpr taken)
  · rw [← orphanLimit]
    exact accounted.tolerated
  · intro accepting address
    rw [accounted.busy_iff small isOpen accepting, heldLength, capacity]
  · intro stream
    rw [← heldMember, ← accounted.reserved, StreamIdSet.release_fst]

def someCaller : SocketAddress := { ip := .ofParts 10 0 0 1, port := 9042 }

/-- Two callers and the channel itself take a stream each. One caller gives up, the
other is answered and a third takes its stream. An answer on a stream that nobody
uses is dropped. -/
def crowd : List StreamOperation :=
  [.send someCaller, .send someCaller, .askForSign, .abandon ⟨1, 2⟩,
    .complete (.response 4 0 .result []), .complete (.response 4 77 .result []),
    .send someCaller]

theorem busy_beside_an_orphan :
    3 ≤ 32768 ∧ ((StreamTable.new 3 1).performAll crowd).closed = none ∧
      ((StreamTable.new 3 1).performAll crowd).waiters.keys = [2, 0] ∧
      ((StreamTable.new 3 1).performAll crowd).orphans = [1] ∧
      ((StreamTable.new 3 1).performAll crowd).orphans.length ≤ 1 ∧
      (((StreamTable.new 3 1).performAll crowd).send someCaller).1 = .error (.busy someCaller) := by
  have isOpen : ((StreamTable.new 3 1).performAll crowd).closed = none := by decide
  obtain ⟨_, _, _, _, tolerated, busy, _⟩ :=
    open_streams_accounted 3 1 (by decide) crowd isOpen
  exact ⟨by decide, isOpen, by decide, by decide, tolerated,
    (busy (by decide) someCaller).mpr (by decide)⟩

end StreamTable

end CqlDriver
