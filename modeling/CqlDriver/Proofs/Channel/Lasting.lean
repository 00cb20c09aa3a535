/-
What lasts in a channel. A channel that is closed stays closed, whatever is done to it, and
nothing but a drain makes an open channel turn its callers away.
-/

import CqlDriver.Proofs.Channel.Closing

namespace CqlDriver

namespace StreamTable

theorem draining_reserve (table : StreamTable) :
    table.reserve.2.draining = table.draining := by
  unfold reserve
  split
  · rfl
  · rfl

theorem draining_complete (frame : Frame) (table : StreamTable) :
    (table.complete frame).2.draining = table.draining := by
  unfold complete
  split
  · rfl
  · split
    · rfl
    · rfl

theorem draining_failStream (stream : Int16) (error : DriverError) (table : StreamTable) :
    (table.failStream stream error).2.draining = table.draining := by
  unfold failStream
  split
  · rfl
  · rfl

theorem draining_close (reason : String) (table : StreamTable) :
    (table.close reason).2.draining = table.draining := by
  unfold close
  split
  · rfl
  · rfl

end StreamTable

namespace Channel

variable {channel : Channel}

theorem draining_closeStreams (reason : String) (channel : Channel) :
    (channel.closeStreams reason).2.table.draining = channel.table.draining :=
  StreamTable.draining_close reason channel.table

theorem draining_close (reason : String) (channel : Channel) :
    (channel.close reason).2.table.draining = channel.table.draining :=
  StreamTable.draining_close reason channel.table

theorem draining_orphan (ticket : Ticket) (channel : Channel) :
    (channel.orphan ticket).table.draining = channel.table.draining := by
  unfold orphan
  split
  · rfl
  · rfl

theorem draining_abandon (ticket : Ticket) (channel : Channel) :
    (channel.abandon ticket).2.table.draining = channel.table.draining := by
  have orphaned := draining_orphan ticket channel
  rcases channel.abandon_parts ticket with same | ⟨_, same⟩
  · rw [same]
    exact orphaned
  · rw [same, draining_closeStreams]
    exact orphaned

theorem draining_send (opcode : Opcode) (body : List UInt8) (channel : Channel) :
    (channel.send opcode body).2.table.draining = channel.table.draining := by
  have kept := StreamTable.draining_reserve channel.table
  rcases channel.send_parts opcode body with
    ⟨_, table, sent, same | ⟨_, refused⟩⟩ | ⟨_, table, _, reserved, sent⟩
  · rw [sent, same]
  · rw [refused] at kept
    rw [sent]
    exact kept
  · rw [reserved] at kept
    rw [sent]
    exact kept

theorem draining_askForSign (now : Nat) (channel : Channel) :
    (channel.askForSign now).table.draining = channel.table.draining := by
  have kept := StreamTable.draining_reserve channel.table
  rcases channel.askForSign_parts now with
    ⟨table, _, _, refused, same⟩ | ⟨_, table, _, _, reserved, same⟩
  · rw [refused] at kept
    rw [same]
    exact kept
  · rw [reserved] at kept
    rw [same]
    exact kept

theorem draining_beat (now : Nat) (channel : Channel) :
    (channel.beat now).2.table.draining = channel.table.draining := by
  by_cases isOpen : channel.table.closed = none
  · rcases channel.beat_parts now isOpen with
      ⟨_, _, same⟩ | ⟨_, same⟩ | ⟨ticket, _, same⟩
    · rw [same]
    · rw [same]
      exact draining_askForSign now channel
    · rw [same]
      exact (draining_close _ _).trans (draining_abandon ticket channel.stopWatch)
  · rw [beat_closed now isOpen]

theorem draining_receive (now : Nat) (finding : Frame.Received) (channel : Channel) :
    (acceptReceived now ({}, channel) finding).2.table.draining = channel.table.draining := by
  by_cases isOpen : channel.table.closed = none
  · obtain ⟨read, isRead, parts⟩ := channel.receive_parts now finding isOpen
    rw [← (read_keeps isRead).1]
    rcases parts with ⟨_, after⟩ | ⟨frame, _, after⟩ | ⟨error, reason, _, _, after⟩
    · rw [after]
    · rw [after]
      exact StreamTable.draining_complete frame read.table
    · rw [after, failAndClose_eq]
      exact (draining_close reason _).trans
        (StreamTable.draining_failStream finding.stream error read.table)
  · rw [receive_closed now finding isOpen]

theorem draining_expire (now : Nat) (channel : Channel) :
    (channel.expire now).table.draining = channel.table.draining := by
  rcases channel.expire_parts now with same | ⟨ticket, _, same⟩
  · rw [same]
  · rw [same]
    exact draining_orphan ticket channel.stopWatch

theorem isClosed_close (reason : String) (channel : Channel) :
    (channel.close reason).2.isClosed = true :=
  isClosed_iff.mpr (StreamTable.close_closed reason channel.table)

theorem closed_abandon_of_closed (shut : channel.table.closed ≠ none) (ticket : Ticket) :
    (channel.abandon ticket).2.table.closed = channel.table.closed := by
  have orphaned := closed_orphan ticket channel
  rcases channel.abandon_parts ticket with same | ⟨_, same⟩
  · rw [same]
    exact orphaned
  · rw [same, closeStreams_closed (orphaned ▸ shut)]
    exact orphaned

end Channel

namespace ChannelMove

variable {channel : Channel}

/-- The reason for the close stays as well. -/
theorem closed_perform_of_closed (shut : channel.table.closed ≠ none) (move : ChannelMove) :
    (move.perform channel).2.table.closed = channel.table.closed := by
  cases move with
  | whole action =>
      cases action with
      | send opcode body => exact Channel.closed_send opcode body channel
      | receive now finding =>
          rw [perform_receive, Channel.receive_closed now finding shut]
      | beat now => rw [perform_beat, Channel.beat_closed now shut]
      | drop ticket => exact Channel.closed_abandon_of_closed shut ticket
      | drain => rfl
      | close reason =>
          rw [perform_close, Channel.close_closed shut]
          rfl
  | noteRead now => rfl
  | fail stream error => exact Channel.closed_failStream stream error channel
  | orphan ticket => exact Channel.closed_orphan ticket channel
  | expire now => exact Channel.closed_expire now channel

theorem isClosed_perform (closed : channel.isClosed = true) (move : ChannelMove) :
    (move.perform channel).2.isClosed = true := by
  have shut := Channel.isClosed_iff.mp closed
  rw [Channel.isClosed_iff, closed_perform_of_closed shut]
  exact shut

def isDrain : ChannelMove → Bool
  | .whole .drain => true
  | _ => false

theorem draining_perform {move : ChannelMove} (other : move.isDrain = false)
    (channel : Channel) :
    (move.perform channel).2.table.draining = channel.table.draining := by
  cases move with
  | whole action =>
      cases action with
      | send opcode body => exact Channel.draining_send opcode body channel
      | receive now finding => exact Channel.draining_receive now finding channel
      | beat now => exact Channel.draining_beat now channel
      | drop ticket => exact Channel.draining_abandon ticket channel
      | drain => cases other
      | close reason => exact Channel.draining_close reason channel
  | noteRead now => rfl
  | fail stream error => exact StreamTable.draining_failStream stream error channel.table
  | orphan ticket => exact Channel.draining_orphan ticket channel
  | expire now => exact Channel.draining_expire now channel

end ChannelMove

end CqlDriver
