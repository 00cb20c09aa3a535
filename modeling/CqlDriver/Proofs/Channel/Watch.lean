/-
The watch over signs of life, move by move. What becomes of it with everything that is done to a
channel at a time, and when it is in time: no such move makes it late, unless a sign of life is
due and there is no stream on which to ask for it.
-/

import CqlDriver.Proofs.Channel.Draining

namespace CqlDriver

namespace Heartbeat

/-- The watch is in time at a moment, if the last frame came when it did. -/
def OnTime (interval patience now heard : Nat) : Heartbeat → Prop
  | .resting due => due ≤ heard + interval ∧ now ≤ heard + interval
  | .awaiting _ due deadline =>
      due ≤ now + interval ∧ deadline ≤ heard + interval + patience ∧ now ≤ deadline
  | .stopped => now ≤ heard + interval + patience

inductive Turned (interval patience now heard : Nat) (whole skips : Bool) :
    Heartbeat → Heartbeat → Prop
  | same (heartbeat : Heartbeat) :
      Turned interval patience now heard whole skips heartbeat heartbeat
  | stops (heartbeat : Heartbeat) (part : whole = false) :
      Turned interval patience now heard whole skips heartbeat .stopped
  | answered {ticket : Ticket} {due deadline : Nat} (isNow : heard = now) :
      Turned interval patience now heard whole skips (.awaiting ticket due deadline) (.resting due)
  | rests {due : Nat} (soon : now < heard + interval) :
      Turned interval patience now heard whole skips (.resting due) (.resting (heard + interval))
  | asks {ticket : Ticket} {due : Nat} :
      Turned interval patience now heard whole skips (.resting due)
        (.awaiting ticket (now + interval) (now + patience))
  | leftOut {due : Nat} (skipped : skips = true) :
      Turned interval patience now heard whole skips (.resting due) (.resting (now + interval))

variable {interval patience now earlier heard moment alarm : Nat} {whole skips : Bool}
  {heartbeat before after : Heartbeat}

theorem OnTime.now_le (onTime : heartbeat.OnTime interval patience now heard) :
    now ≤ heard + interval + patience := by
  cases heartbeat with
  | resting due => exact Nat.le_add_right_of_le onTime.2
  | awaiting ticket due deadline => exact Nat.le_trans onTime.2.2 onTime.2.1
  | stopped => exact onTime

theorem OnTime.turned (onTime : before.OnTime interval patience now earlier)
    (turned : Turned interval patience now heard whole false before after)
    (since : earlier ≤ heard) :
    after.OnTime interval patience now heard := by
  have bound := onTime.now_le
  cases turned with
  | same =>
      cases before with
      | resting due =>
          obtain ⟨dueInTime, inTime⟩ := onTime
          exact ⟨by omega, by omega⟩
      | awaiting ticket due deadline =>
          obtain ⟨dueInTime, ends, inTime⟩ := onTime
          exact ⟨by omega, by omega, inTime⟩
      | stopped => exact Nat.le_trans bound (by omega)
  | stops => exact Nat.le_trans bound (by omega)
  | answered isNow =>
      obtain ⟨dueInTime, _, _⟩ := onTime
      exact ⟨by omega, by omega⟩
  | rests soon => exact ⟨Nat.le_refl _, by omega⟩
  | asks =>
      obtain ⟨_, inTime⟩ := onTime
      exact ⟨Nat.le_refl _, by omega, by omega⟩
  | leftOut skipped => cases skipped

theorem Turned.watching (turned : Turned interval patience now heard true skips before after)
    (watching : before ≠ .stopped) : after ≠ .stopped := by
  cases turned with
  | same => exact watching
  | stops _ part => cases part
  | answered | rests | asks | leftOut => nofun

/-- Time passes up to the moment at which the watch has to be looked at. -/
theorem OnTime.pass (onTime : heartbeat.OnTime interval patience now heard)
    (later : now ≤ moment) (next : heartbeat.alarm? = some alarm) (inTime : moment ≤ alarm) :
    heartbeat.OnTime interval patience moment heard := by
  cases heartbeat with
  | resting due =>
      cases next
      exact ⟨onTime.1, Nat.le_trans inTime onTime.1⟩
  | awaiting ticket due deadline =>
      cases next
      obtain ⟨dueInTime, ends, _⟩ := onTime
      exact ⟨by omega, ends, inTime⟩
  | stopped => cases next

theorem turn_eq_ask (asks : heartbeat.turn interval now heard = .ask) :
    (∃ due, heartbeat = .resting due) ∧ heard + interval ≤ now := by
  cases heartbeat with
  | resting due =>
      unfold turn at asks
      dsimp only at asks
      split at asks
      · cases asks
      · split at asks
        · cases asks
        · exact ⟨⟨due, rfl⟩, by omega⟩
  | awaiting ticket due deadline =>
      unfold turn at asks
      dsimp only at asks
      split at asks
      · cases asks
      · cases asks
  | stopped => cases asks

theorem turn_eq_rest {later : Heartbeat}
    (rests : heartbeat.turn interval now heard = .rest later) :
    Turned interval patience now heard whole skips heartbeat later := by
  cases heartbeat with
  | resting due =>
      unfold turn at rests
      dsimp only at rests
      split at rests
      · cases rests
        exact .same _
      · split at rests
        · rename_i soon
          cases rests
          exact .rests soon
        · cases rests
  | awaiting ticket due deadline =>
      unfold turn at rests
      dsimp only at rests
      split at rests
      · cases rests
        exact .same _
      · cases rests
  | stopped =>
      cases rests
      exact .same _

theorem alarm_of_rest {later : Heartbeat}
    (rests : heartbeat.turn interval now heard = .rest later) (watching : heartbeat ≠ .stopped) :
    ∃ alarm, later.alarm? = some alarm ∧ now < alarm := by
  cases heartbeat with
  | resting due =>
      unfold turn at rests
      dsimp only at rests
      split at rests
      · rename_i early
        cases rests
        exact ⟨due, rfl, early⟩
      · split at rests
        · rename_i soon
          cases rests
          exact ⟨heard + interval, rfl, soon⟩
        · cases rests
  | awaiting ticket due deadline =>
      unfold turn at rests
      dsimp only at rests
      split at rests
      · rename_i early
        cases rests
        exact ⟨deadline, rfl, early⟩
      · cases rests
  | stopped => exact absurd rfl watching

theorem answered_answered (first second : Except DriverError Frame) (heartbeat : Heartbeat) :
    (heartbeat.answered first).answered second = heartbeat.answered first := by
  cases heartbeat with
  | awaiting ticket due deadline =>
      cases first with
      | ok frame => rfl
      | error error => rfl
  | resting due => rfl
  | stopped => rfl

theorem foldl_answered (outcomes : List Outcome) (heartbeat : Heartbeat) :
    let after := outcomes.foldl (fun heartbeat outcome => heartbeat.answered outcome.result)
      heartbeat
    after = heartbeat ∨ ∃ outcome ∈ outcomes, after = heartbeat.answered outcome.result := by
  induction outcomes generalizing heartbeat with
  | nil => exact .inl rfl
  | cons first rest ih =>
      right
      cases ih (heartbeat.answered first.result) with
      | inl same => exact ⟨first, List.mem_cons_self, same⟩
      | inr later =>
          obtain ⟨outcome, _, same⟩ := later
          exact ⟨first, List.mem_cons_self, same.trans (answered_answered _ _ heartbeat)⟩

theorem turned_of_error (error : DriverError) (heartbeat : Heartbeat) :
    Turned interval patience now heard false skips heartbeat
      (heartbeat.answered (.error error)) := by
  cases heartbeat with
  | awaiting ticket due deadline => exact .stops _ rfl
  | resting due => exact .same _
  | stopped => exact .same _

theorem turned_of_answer (frame : Frame) (heartbeat : Heartbeat) :
    Turned interval patience now now whole skips heartbeat (heartbeat.answered (.ok frame)) := by
  cases heartbeat with
  | awaiting ticket due deadline => exact .answered rfl
  | resting due => exact .same _
  | stopped => exact .same _

end Heartbeat

namespace ChannelMove

def timed (now : Nat) : ChannelMove → ChannelMove
  | .whole (.receive _ finding) => .whole (.receive now finding)
  | .whole (.beat _) => .whole (.beat now)
  | .noteRead _ => .noteRead now
  | .expire _ => .expire now
  | other => other

def hears : ChannelMove → Bool
  | .whole (.receive _ _) | .noteRead _ => true
  | _ => false

def skips (channel : Channel) : ChannelMove → Bool
  | .whole (.beat now) => channel.isSignDue now && channel.table.reserve.1.isNone
  | _ => false

def isWhole : ChannelMove → Bool
  | .whole _ => true
  | _ => false

end ChannelMove

namespace Channel

open Heartbeat

variable {channel : Channel} {now : Nat}

structure Watched (now : Nat) (move : ChannelMove) (before after : Channel) : Prop where
  config : after.config = before.config
  lastRead : after.lastRead = if move.hears then now else before.lastRead
  turned : Turned before.config.heartbeatInterval.nanos
    before.config.heartbeatTimeout.nanos now after.lastRead move.isWhole (move.skips before)
    before.heartbeat after.heartbeat

variable {move : ChannelMove}

theorem Watched.of_same {after : Channel} (config : after.config = channel.config)
    (lastRead : after.lastRead = if move.hears then now else channel.lastRead)
    (heartbeat : after.heartbeat = channel.heartbeat) : Watched now move channel after :=
  ⟨config, lastRead, heartbeat ▸ .same _⟩

theorem settle_heartbeat (outcomes : List Outcome) (table : StreamTable) (channel : Channel) :
    let after := (channel.settle outcomes table).2.heartbeat
    after = channel.heartbeat ∨
      ∃ outcome ∈ outcomes, after = channel.heartbeat.answered outcome.result := by
  rw [settle_eq]
  cases foldl_answered (outcomes.filter fun outcome =>
      channel.heartbeat.isAsking outcome.request) channel.heartbeat with
  | inl same => exact .inl same
  | inr answered =>
      obtain ⟨outcome, member, same⟩ := answered
      exact .inr ⟨outcome, (List.mem_filter.mp member).1, same⟩

theorem complete_watched (hears : move.hears = true) (frame : Frame) (channel : Channel) :
    Watched now move channel (({ channel with lastRead := now } : Channel).complete frame).2 := by
  refine ⟨rfl, (if_pos hears).symm, ?_⟩
  unfold complete
  cases settle_heartbeat ({ channel with lastRead := now }.table.complete frame).1.toList
      ({ channel with lastRead := now }.table.complete frame).2
      ({ channel with lastRead := now } : Channel) with
  | inl same =>
      rw [same]
      exact .same _
  | inr answered =>
      obtain ⟨outcome, member, same⟩ := answered
      have result : outcome.result = .ok frame := by
        unfold StreamTable.complete at member
        split at member
        · cases Option.mem_toList.mp member
          rfl
        · split at member
          · cases member
          · cases member
      rw [same, result]
      exact turned_of_answer frame channel.heartbeat

theorem failStream_watched (stream : Int16) (error : DriverError) (channel : Channel) :
    Watched now (.fail stream error) channel (channel.failStream stream error).2 := by
  refine ⟨rfl, rfl, ?_⟩
  unfold failStream
  cases settle_heartbeat (channel.table.failStream stream error).1.toList
      (channel.table.failStream stream error).2 channel with
  | inl same =>
      rw [same]
      exact .same _
  | inr answered =>
      obtain ⟨outcome, member, same⟩ := answered
      have result : outcome.result = .error error := by
        unfold StreamTable.failStream at member
        split at member
        · cases Option.mem_toList.mp member
          rfl
        · cases member
      rw [same, result]
      exact turned_of_error error channel.heartbeat

theorem orphan_watched (silent : move.hears = false) (ticket : Ticket) (channel : Channel) :
    Watched now move channel (channel.orphan ticket) := by
  have lastRead : channel.lastRead = if move.hears then now else channel.lastRead := by
    rw [silent]
    rfl
  unfold orphan
  split
  · exact .of_same rfl lastRead rfl
  · exact .of_same rfl lastRead rfl

theorem expire_watched (channel : Channel) :
    Watched now (.expire now) channel (channel.expire now) := by
  rcases channel.expire_parts now with same | ⟨ticket, _, same⟩
  · rw [same]
    exact .of_same rfl rfl rfl
  · have orphaned : Watched now (.expire now) channel (channel.orphan ticket) :=
      orphan_watched rfl ticket channel
    rw [same, orphan_stopWatch]
    exact ⟨orphaned.config, orphaned.lastRead, .stops _ rfl⟩

theorem receive_watched {finding : Frame.Received}
    (stays : (acceptReceived now ({}, channel) finding).2.isClosed = false) :
    Watched now (.whole (.receive now finding)) channel
      (acceptReceived now ({}, channel) finding).2 := by
  by_cases closed : channel.isClosed = true
  · rw [receive_closed now finding (isClosed_iff.mp closed), closed] at stays
    cases stays
  · unfold acceptReceived at stays ⊢
    dsimp only at stays ⊢
    rw [if_neg closed] at stays ⊢
    cases finding with
    | unsupported code stream =>
        have shut := isClosed_close ("unsupported frame with opcode 0x" ++
          Text.Hex.upperPadded 2 code.toNat)
          (channel.failStream stream (.unsupportedFrame code stream)).2
        cases stays.symm.trans shut
    | frame frame =>
        unfold accept at stays ⊢
        dsimp only at stays ⊢
        by_cases compressed : frame.isCompressed = true
        · rw [if_pos compressed] at stays
          have shut := isClosed_close "received a compressed frame"
            (({ channel with lastRead := now } : Channel).failStream frame.stream
              (.protocol .compressedFrame)).2
          cases stays.symm.trans shut
        · rw [if_neg compressed]
          split
          · split
            · split
              · exact .of_same rfl rfl rfl
              · exact .of_same rfl rfl rfl
            · exact .of_same rfl rfl rfl
          · exact complete_watched rfl frame channel

theorem abandon_watched {ticket : Ticket} (stays : (channel.abandon ticket).2.isClosed = false) :
    Watched now (.whole (.drop ticket)) channel (channel.abandon ticket).2 := by
  rcases channel.abandon_parts ticket with same | ⟨_, same⟩
  · rw [same]
    exact orphan_watched rfl ticket channel
  · have shut : ((channel.orphan ticket).closeStreams StreamTable.orphansReason).2.isClosed =
        true := isClosed_iff.mpr (StreamTable.close_closed _ _)
    rw [same, shut] at stays
    cases stays

theorem beat_watched (stays : (channel.beat now).2.isClosed = false) :
    Watched now (.whole (.beat now)) channel (channel.beat now).2 := by
  by_cases isOpen : channel.table.closed = none
  · have notClosed : ¬channel.isClosed = true := fun closed => isClosed_iff.mp closed isOpen
    cases turn : channel.heartbeat.turn channel.config.heartbeatInterval.nanos now
        channel.lastRead with
    | rest heartbeat =>
        unfold beat
        rw [if_neg notClosed, turn]
        exact ⟨rfl, rfl, turn_eq_rest turn⟩
    | ask =>
        have due := isSignDue_iff.mpr ⟨isOpen, turn⟩
        obtain ⟨⟨last, resting⟩, _⟩ := turn_eq_ask turn
        rw [beat_of_due due]
        unfold askForSign
        cases reserved : channel.table.reserve with
        | mk given table =>
            cases given with
            | none =>
                have skips : ChannelMove.skips channel (.whole (.beat now)) = true := by
                  unfold ChannelMove.skips
                  dsimp only
                  rw [due, reserved]
                  rfl
                exact ⟨rfl, rfl, resting ▸ .leftOut skips⟩
            | some ticket => exact ⟨rfl, rfl, resting ▸ .asks⟩
    | giveUp ticket =>
        have shut := isClosed_close channel.noSign.message (channel.stopWatch.abandon ticket).2
        unfold beat at stays
        rw [if_neg notClosed, turn] at stays
        cases stays.symm.trans shut
  · rw [beat_closed now isOpen, isClosed_iff.mpr isOpen] at stays
    cases stays

/-- A watch that has been looked at waits for a later moment. -/
theorem alarm_of_beat (isOpen : channel.table.closed = none)
    (watching : channel.heartbeat ≠ .stopped)
    (interval : 0 < channel.config.heartbeatInterval.nanos)
    (patience : 0 < channel.config.heartbeatTimeout.nanos) :
    (channel.beat now).2.isClosed = true ∨
      ∃ alarm, (channel.beat now).2.heartbeat.alarm? = some alarm ∧ now < alarm := by
  have notClosed : ¬channel.isClosed = true := fun closed => isClosed_iff.mp closed isOpen
  cases turn : channel.heartbeat.turn channel.config.heartbeatInterval.nanos now
      channel.lastRead with
  | rest heartbeat =>
      right
      unfold beat
      rw [if_neg notClosed, turn]
      exact alarm_of_rest turn watching
  | ask =>
      right
      rw [beat_of_due (isSignDue_iff.mpr ⟨isOpen, turn⟩)]
      unfold askForSign
      cases channel.table.reserve with
      | mk given table =>
          cases given with
          | none => exact ⟨_, rfl, Nat.lt_add_of_pos_right interval⟩
          | some ticket => exact ⟨_, rfl, Nat.lt_add_of_pos_right patience⟩
  | giveUp ticket =>
      left
      have shut := isClosed_close channel.noSign.message (channel.stopWatch.abandon ticket).2
      unfold beat
      rw [if_neg notClosed, turn]
      exact shut

end Channel

namespace ChannelMove

variable {channel : Channel} {now : Nat}

theorem perform_watched (move : ChannelMove)
    (stays : ((move.timed now).perform channel).2.isClosed = false) :
    Channel.Watched now (move.timed now) channel ((move.timed now).perform channel).2 := by
  cases move with
  | whole action =>
      cases action with
      | send opcode body =>
          change Channel.Watched now _ channel (channel.send opcode body).2
          rcases channel.send_parts opcode body with ⟨_, _, sent, _⟩ | ⟨_, _, _, _, sent⟩
          · rw [sent]
            exact .of_same rfl rfl rfl
          · rw [sent]
            exact .of_same rfl rfl rfl
      | receive _ finding => exact Channel.receive_watched stays
      | beat _ => exact Channel.beat_watched stays
      | drop ticket => exact Channel.abandon_watched stays
      | drain => exact .of_same rfl rfl rfl
      | close reason => cases stays.symm.trans (channel.isClosed_close reason)
  | noteRead _ => exact .of_same rfl rfl rfl
  | fail stream error => exact Channel.failStream_watched stream error channel
  | orphan ticket => exact Channel.orphan_watched rfl ticket channel
  | expire _ => exact Channel.expire_watched channel

end ChannelMove

end CqlDriver
