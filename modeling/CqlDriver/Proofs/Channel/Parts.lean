/-
The operations of a channel in parts: what each of them does to the streams and to the
request for a sign of life, and what it hands on.
-/

import CqlDriver.Proofs.Channel.Deliveries
import CqlDriver.Proofs.Channel.Waiters

namespace CqlDriver

namespace Channel

def complete (frame : Frame) (channel : Channel) : List Outcome × Channel :=
  let (outcome, table) := channel.table.complete frame
  channel.settle outcome.toList table

def failStream (stream : Int16) (error : DriverError) (channel : Channel) :
    List Outcome × Channel :=
  let (failed, table) := channel.table.failStream stream error
  channel.settle failed.toList table

def orphan (ticket : Ticket) (channel : Channel) : Channel :=
  if channel.table.isWaiting ticket then
    { channel with table := channel.table.orphan ticket.stream }
  else channel

def stopWatch (channel : Channel) : Channel := { channel with heartbeat := .stopped }

def expire (now : Nat) (channel : Channel) : Channel :=
  match channel.heartbeat.turn channel.config.heartbeatInterval.nanos now channel.lastRead with
  | .giveUp ticket => channel.stopWatch.orphan ticket
  | .rest _ | .ask => channel

/-- Closes the streams; the watch over signs of life learns of it later. -/
def closeStreams (reason : String) (channel : Channel) : List Outcome × Channel :=
  let (outcomes, table) := channel.table.close reason
  channel.settle outcomes table

variable {channel : Channel}

theorem isClosed_iff : channel.isClosed = true ↔ channel.table.closed ≠ none :=
  Option.isSome_iff_ne_none

theorem closeStreams_eq (reason : String) (channel : Channel) :
    channel.closeStreams reason =
      channel.settle (channel.table.close reason).1 (channel.table.close reason).2 := rfl

theorem close_eq_closeStreams (reason : String) (channel : Channel) :
    channel.close reason =
      ((channel.closeStreams reason).1, (channel.closeStreams reason).2.stopWatch) := rfl

theorem failAndClose_eq (stream : Int16) (error : DriverError) (reason : String)
    (channel : Channel) :
    channel.failAndClose stream error reason =
      ((channel.failStream stream error).1 ++ ((channel.failStream stream error).2.close reason).1,
        ((channel.failStream stream error).2.close reason).2) := rfl

theorem orphan_of_waiting {ticket : Ticket} (waits : channel.table.isWaiting ticket = true) :
    channel.orphan ticket = { channel with table := channel.table.orphan ticket.stream } :=
  if_pos waits

theorem orphan_of_over {ticket : Ticket} (isOver : channel.table.isWaiting ticket = false) :
    channel.orphan ticket = channel := by
  apply if_neg
  rw [isOver]
  exact Bool.false_ne_true

theorem orphan_stopWatch (ticket : Ticket) (channel : Channel) :
    channel.stopWatch.orphan ticket = (channel.orphan ticket).stopWatch := by
  by_cases waits : channel.table.isWaiting ticket = true
  · rw [orphan_of_waiting waits]
    exact if_pos waits
  · rw [orphan_of_over (Bool.eq_false_iff.mpr waits)]
    exact if_neg waits

theorem isWaiting_orphan {ticket other : Ticket} :
    (channel.orphan ticket).table.isWaiting other = true ↔
      channel.table.isWaiting other = true ∧ other ≠ ticket := by
  cases waits : channel.table.isWaiting ticket with
  | true =>
      have erased : (channel.table.orphan ticket.stream).isWaiting other = true ↔ _ :=
        StreamTable.isWaiting_erase rfl other
      rw [orphan_of_waiting waits, erased]
      refine and_congr_right fun waited => not_congr ?_
      constructor
      · exact StreamTable.Seated.eq_of_stream_eq waited waits
      · exact congrArg Ticket.stream
  | false =>
      rw [orphan_of_over waits]
      refine ⟨fun waited => ⟨waited, ?_⟩, And.left⟩
      rintro rfl
      rw [waits] at waited
      cases waited

theorem abandon_of_room {ticket : Ticket} (waits : channel.table.isWaiting ticket = true)
    (room : channel.table.orphans.length < channel.table.maxOrphans) :
    channel.abandon ticket = ([], channel.orphan ticket) := by
  rcases StreamTable.abandon_cases channel.table ticket with
    ⟨isOver, _⟩ | ⟨_, _, same⟩ | ⟨_, full, _⟩
  · rw [waits] at isOver
    cases isOver
  · rw [abandon_eq, same, orphan_of_waiting waits]
    rfl
  · omega

theorem send_parts (opcode : Opcode) (body : List UInt8) (channel : Channel) :
    (∃ error table, channel.send opcode body = (.error error, { channel with table }) ∧
      (table = channel.table ∨
        channel.table.closed = none ∧ channel.table.reserve = (none, table))) ∨
    ∃ ticket table, channel.table.closed = none ∧
      channel.table.reserve = (some ticket, table) ∧
      channel.send opcode body = (.ok ticket, { channel with table }.post ticket opcode body) := by
  unfold send
  rcases StreamTable.send_cases channel.address channel.table with
    ⟨error, table, sent, fewer⟩ | ⟨ticket, table, isOpen, reserved, sent⟩
  · rw [sent]
    exact .inl ⟨error, table, rfl, fewer⟩
  · rw [sent]
    exact .inr ⟨ticket, table, isOpen, reserved, rfl⟩

theorem askForSign_parts (now : Nat) (channel : Channel) :
    (∃ table heartbeat, heartbeat.asked? = none ∧ channel.table.reserve = (none, table) ∧
      channel.askForSign now = { channel with table, heartbeat }) ∨
    ∃ ticket table heartbeat, heartbeat.asked? = some ticket ∧
      channel.table.reserve = (some ticket, table) ∧
      channel.askForSign now = { channel with table, heartbeat }.post ticket .options [] := by
  unfold askForSign
  cases reserved : channel.table.reserve with
  | mk given table =>
      cases given with
      | none => exact .inl ⟨table, _, rfl, rfl, rfl⟩
      | some ticket => exact .inr ⟨ticket, table, _, rfl, rfl, rfl⟩

theorem table_askForSign (now : Nat) (channel : Channel) :
    (channel.askForSign now).table = channel.table.reserve.2 := by
  rcases channel.askForSign_parts now with
    ⟨table, _, _, refused, same⟩ | ⟨_, table, _, _, reserved, same⟩
  · rw [same, refused]
  · rw [same, reserved]
    rfl

/-- Giving a request up is making its stream an orphan, and then closing if it was one
orphan too many. -/
theorem abandon_parts (ticket : Ticket) (channel : Channel) :
    channel.abandon ticket = ([], channel.orphan ticket) ∨
    channel.table.isWaiting ticket = true ∧
      channel.abandon ticket = (channel.orphan ticket).closeStreams StreamTable.orphansReason := by
  rcases StreamTable.abandon_cases channel.table ticket with
    ⟨isOver, same⟩ | ⟨waits, _, same⟩ | ⟨waits, _, same⟩
  · left
    rw [abandon_eq, same, orphan_of_over isOver]
    rfl
  · left
    rw [abandon_eq, same, orphan_of_waiting waits]
    rfl
  · right
    rw [abandon_eq, same, orphan_of_waiting waits]
    exact ⟨waits, rfl⟩

theorem beat_parts (now : Nat) (isOpen : channel.table.closed = none) :
    (∃ heartbeat : Heartbeat, heartbeat.asked? = channel.heartbeat.asked? ∧
      channel.beat now = ([], { channel with heartbeat })) ∨
    (channel.heartbeat.asked? = none ∧ channel.beat now = ([], channel.askForSign now)) ∨
    ∃ ticket, channel.heartbeat.asked? = some ticket ∧
      let stopped := channel.stopWatch.abandon ticket
      let closing := stopped.2.close channel.noSign.message
      channel.beat now = (stopped.1 ++ closing.1, closing.2) := by
  have turn := Heartbeat.turn_asked? channel.config.heartbeatInterval.nanos now
    channel.lastRead channel.heartbeat
  have notClosed : ¬channel.isClosed = true := fun closed => isClosed_iff.mp closed isOpen
  unfold beat
  rw [if_neg notClosed]
  cases taken : channel.heartbeat.turn channel.config.heartbeatInterval.nanos now
      channel.lastRead with
  | rest heartbeat =>
      rw [taken] at turn
      exact .inl ⟨heartbeat, turn, rfl⟩
  | ask =>
      rw [taken] at turn
      exact .inr (.inl ⟨turn, rfl⟩)
  | giveUp ticket =>
      rw [taken] at turn
      exact .inr (.inr ⟨ticket, turn, rfl⟩)

theorem beat_closed (now : Nat) (shut : channel.table.closed ≠ none) :
    channel.beat now = ([], channel) :=
  if_pos (isClosed_iff.mpr shut)

theorem receive_closed (now : Nat) (finding : Frame.Received)
    (shut : channel.table.closed ≠ none) :
    acceptReceived now ({}, channel) finding = ({}, channel) :=
  if_pos (isClosed_iff.mpr shut)

/-- The request for a sign of life is given up, or it is not its time yet. -/
theorem expire_parts (now : Nat) (channel : Channel) :
    channel.expire now = channel ∨
    ∃ ticket, channel.heartbeat.asked? = some ticket ∧
      channel.expire now = channel.stopWatch.orphan ticket := by
  have turn := Heartbeat.turn_asked? channel.config.heartbeatInterval.nanos now
    channel.lastRead channel.heartbeat
  unfold expire
  cases taken : channel.heartbeat.turn channel.config.heartbeatInterval.nanos now
      channel.lastRead with
  | giveUp ticket =>
      rw [taken] at turn
      exact .inr ⟨ticket, turn, rfl⟩
  | _ => exact .inl rfl

theorem read_keeps {read : Channel} {now : Nat}
    (isRead : read = channel ∨ read = { channel with lastRead := now }) :
    read.table = channel.table ∧ read.heartbeat = channel.heartbeat := by
  rcases isRead with rfl | rfl
  · exact ⟨rfl, rfl⟩
  · exact ⟨rfl, rfl⟩

/-- A finding on an open channel is pushed by the server, or ends one request well, or
ends one request badly and closes the channel. -/
theorem receive_parts (now : Nat) (finding : Frame.Received)
    (isOpen : channel.table.closed = none) :
    ∃ read : Channel, (read = channel ∨ read = { channel with lastRead := now }) ∧
      let output := (acceptReceived now ({}, channel) finding).1
      let after := (acceptReceived now ({}, channel) finding).2
      (output.outcomes = [] ∧ after = read) ∨
      (∃ frame, output.outcomes = (read.complete frame).1 ∧ after = (read.complete frame).2) ∨
      ∃ error reason, finding.result = .error error ∧
        output.outcomes = (read.failAndClose finding.stream error reason).1 ∧
        after = (read.failAndClose finding.stream error reason).2 := by
  have notClosed : ¬channel.isClosed = true := fun closed => isClosed_iff.mp closed isOpen
  unfold acceptReceived
  dsimp only
  rw [if_neg notClosed]
  cases finding with
  | unsupported code stream => exact ⟨channel, .inl rfl, .inr (.inr ⟨_, _, rfl, rfl, rfl⟩)⟩
  | frame frame =>
      refine ⟨{ channel with lastRead := now }, .inr rfl, ?_⟩
      unfold accept Frame.Received.result
      dsimp only
      by_cases compressed : frame.isCompressed = true
      · rw [if_pos compressed, if_pos compressed]
        exact .inr (.inr ⟨_, _, rfl, rfl, rfl⟩)
      rw [if_neg compressed, if_neg compressed]
      by_cases push : frame.isPush = true
      · rw [if_pos push]
        left
        split
        · split
          · exact ⟨rfl, rfl⟩
          · exact ⟨rfl, rfl⟩
        · exact ⟨rfl, rfl⟩
      · rw [if_neg push]
        exact .inr (.inl ⟨frame, rfl, rfl⟩)

end Channel

end CqlDriver
