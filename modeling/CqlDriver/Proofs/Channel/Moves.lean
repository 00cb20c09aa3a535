/-
What can happen to a channel, in any order. Callers, the reader and the watch over signs
of life share the streams under one lock, and where one of them has taken it twice the
others can come between: after the request on a stream has failed and before the channel
is closed because of it, and after a stream has become an orphan and before the channel
is closed because there are too many.
-/

import CqlDriver.Proofs.Channel.Parts

namespace CqlDriver

inductive ChannelAction where
  | send (opcode : Opcode) (body : List UInt8)
  | receive (now : Nat) (finding : Frame.Received)
  | beat (now : Nat)
  | drop (ticket : Ticket)
  | drain
  | close (reason : String)

/-- An action, or a part of one that others can see. -/
inductive ChannelMove where
  | whole (action : ChannelAction)
  | noteRead (now : Nat)
  | fail (stream : Int16) (error : DriverError)
  | orphan (ticket : Ticket)
  | expire (now : Nat)

structure ChannelNews where
  accepted : List Ticket := []
  outcomes : List Outcome := []

def ChannelAction.perform (action : ChannelAction) (channel : Channel) : ChannelNews × Channel :=
  match action with
  | .send opcode body =>
      let (given, channel) := channel.send opcode body
      ({ accepted := given.toOption.toList }, channel)
  | .receive now finding =>
      let (output, channel) := Channel.acceptReceived now ({}, channel) finding
      ({ outcomes := output.outcomes }, channel)
  | .beat now =>
      let (outcomes, channel) := channel.beat now
      ({ outcomes }, channel)
  | .drop ticket =>
      let (outcomes, channel) := channel.abandon ticket
      ({ outcomes }, channel)
  | .drain => ({}, channel.drain)
  | .close reason =>
      let (outcomes, channel) := channel.close reason
      ({ outcomes }, channel)

namespace ChannelMove

def perform (move : ChannelMove) (channel : Channel) : ChannelNews × Channel :=
  match move with
  | .whole action => action.perform channel
  | .noteRead now => ({}, { channel with lastRead := now })
  | .fail stream error =>
      let (outcomes, channel) := channel.failStream stream error
      ({ outcomes }, channel)
  | .orphan ticket => ({}, channel.orphan ticket)
  | .expire now => ({}, channel.expire now)

@[simp] theorem perform_send (opcode : Opcode) (body : List UInt8) (channel : Channel) :
    (whole (.send opcode body)).perform channel =
      ({ accepted := (channel.send opcode body).1.toOption.toList },
        (channel.send opcode body).2) := rfl

@[simp] theorem perform_receive (now : Nat) (finding : Frame.Received) (channel : Channel) :
    (whole (.receive now finding)).perform channel =
      ({ outcomes := (Channel.acceptReceived now ({}, channel) finding).1.outcomes },
        (Channel.acceptReceived now ({}, channel) finding).2) := rfl

@[simp] theorem perform_beat (now : Nat) (channel : Channel) :
    (whole (.beat now)).perform channel =
      ({ outcomes := (channel.beat now).1 }, (channel.beat now).2) := rfl

@[simp] theorem perform_drop (ticket : Ticket) (channel : Channel) :
    (whole (.drop ticket)).perform channel =
      ({ outcomes := (channel.abandon ticket).1 }, (channel.abandon ticket).2) := rfl

@[simp] theorem perform_close (reason : String) (channel : Channel) :
    (whole (.close reason)).perform channel =
      ({ outcomes := (channel.close reason).1 }, (channel.close reason).2) := rfl

@[simp] theorem perform_fail (stream : Int16) (error : DriverError) (channel : Channel) :
    (fail stream error).perform channel =
      ({ outcomes := (channel.failStream stream error).1 },
        (channel.failStream stream error).2) := rfl

@[simp] theorem perform_orphan (ticket : Ticket) (channel : Channel) :
    (orphan ticket).perform channel = ({}, channel.orphan ticket) := rfl

@[simp] theorem perform_expire (now : Nat) (channel : Channel) :
    (expire now).perform channel = ({}, channel.expire now) := rfl

def dropped : ChannelMove → List Ticket
  | .whole (.drop ticket) | .orphan ticket => [ticket]
  | _ => []

end ChannelMove

structure ChannelHistory where
  channel : Channel
  accepted : List Ticket := []
  dropped : List Ticket := []
  outcomes : List Outcome := []

namespace ChannelHistory

def start (address : SocketAddress) (config : ChannelConfig) (unread : List UInt8) (now : Nat) :
    ChannelHistory :=
  { channel := .start address config unread now }

def perform (history : ChannelHistory) (move : ChannelMove) : ChannelHistory :=
  let (news, channel) := move.perform history.channel
  { channel
    accepted := history.accepted ++ news.accepted
    dropped := history.dropped ++ move.dropped
    outcomes := history.outcomes ++ news.outcomes }

def performAll (history : ChannelHistory) (moves : List ChannelMove) : ChannelHistory :=
  moves.foldl perform history

@[simp] theorem performAll_nil (history : ChannelHistory) : history.performAll [] = history := rfl

@[simp] theorem performAll_cons (history : ChannelHistory) (move : ChannelMove)
    (rest : List ChannelMove) :
    history.performAll (move :: rest) = (history.perform move).performAll rest := rfl

theorem performAll_append (history : ChannelHistory) (moves more : List ChannelMove) :
    history.performAll (moves ++ more) = (history.performAll moves).performAll more :=
  List.foldl_append

theorem acceptReceived_onto (now : Nat) (output : ChannelOutput) (channel : Channel)
    (finding : Frame.Received) :
    (Channel.acceptReceived now (output, channel) finding).1.outcomes =
        output.outcomes ++ (Channel.acceptReceived now ({}, channel) finding).1.outcomes ∧
      (Channel.acceptReceived now (output, channel) finding).2 =
        (Channel.acceptReceived now ({}, channel) finding).2 := by
  unfold Channel.acceptReceived
  dsimp only
  by_cases closed : channel.isClosed = true
  · rw [if_pos closed, if_pos closed]
    exact ⟨(List.append_nil _).symm, rfl⟩
  · rw [if_neg closed, if_neg closed]
    exact ⟨rfl, rfl⟩

theorem performAll_receive (now : Nat) (findings : List Frame.Received)
    {history : ChannelHistory} {output : ChannelOutput}
    (same : history.outcomes = output.outcomes) :
    let later := history.performAll (findings.map fun finding => .whole (.receive now finding))
    let taken := findings.foldl (Channel.acceptReceived now) (output, history.channel)
    later.channel = taken.2 ∧ later.outcomes = taken.1.outcomes := by
  induction findings generalizing history output with
  | nil => exact ⟨rfl, same⟩
  | cons finding rest ih =>
      obtain ⟨outcomes, channel⟩ := acceptReceived_onto now output history.channel finding
      cases taken : Channel.acceptReceived now (output, history.channel) finding with
      | mk out next =>
          rw [taken, ← same] at outcomes
          rw [taken] at channel
          have behind := ih (show
            (history.perform (.whole (.receive now finding))).outcomes = out.outcomes from
              outcomes.symm)
          rw [show (history.perform (.whole (.receive now finding))).channel = next from
            channel.symm] at behind
          rw [List.foldl_cons, taken]
          exact behind

theorem receive_performs (now : Nat) (bytes : List UInt8) (ended : Bool) (channel : Channel) :
    let left := (Frame.decodeAll (channel.unread ++ bytes)).2.rest
    ∃ moves, let later := performAll { channel := { channel with unread := left } } moves
      later.channel = (channel.receive now bytes ended).2 ∧
      later.outcomes = (channel.receive now bytes ended).1.outcomes := by
  intro left
  let reads : List ChannelMove := (Frame.decodeAll (channel.unread ++ bytes)).1.map fun finding =>
    .whole (.receive now finding)
  let start : ChannelHistory := { channel := { channel with unread := left } }
  obtain ⟨sameChannel, sameOutcomes⟩ :=
    performAll_receive now (Frame.decodeAll (channel.unread ++ bytes)).1
      (show start.outcomes = ({} : ChannelOutput).outcomes from rfl)
  unfold Channel.receive
  dsimp only
  split
  · rename_i reason _ _
    refine ⟨reads ++ [.whole (.close reason)], ?_⟩
    rw [performAll_append, performAll_cons, performAll_nil]
    unfold perform
    dsimp only
    rw [ChannelMove.perform_close, sameChannel, sameOutcomes]
    exact ⟨rfl, rfl⟩
  · exact ⟨reads, sameChannel, sameOutcomes⟩

end ChannelHistory

/-- Whatever fails among these requests, the transport has failed. -/
def BlameTransport (outcomes : List Outcome) : Prop :=
  ∀ outcome ∈ outcomes, ∀ error, outcome.result = .error error → error.isConnectionLevel = true

namespace BlameTransport

theorem none : BlameTransport [] := nofun

theorem append {outcomes more : List Outcome} (first : BlameTransport outcomes)
    (second : BlameTransport more) : BlameTransport (outcomes ++ more) := by
  intro outcome member
  rcases List.mem_append.mp member with earlier | later
  · exact first outcome earlier
  · exact second outcome later

theorem settle {outcomes : List Outcome} (blame : BlameTransport outcomes) (table : StreamTable)
    (channel : Channel) : BlameTransport (channel.settle outcomes table).1 := by
  intro outcome member
  rw [Channel.settle_eq] at member
  exact blame outcome (List.mem_filter.mp member).1

theorem complete (frame : Frame) (channel : Channel) :
    BlameTransport (channel.complete frame).1 := by
  refine settle (fun outcome member error failed => ?_) _ channel
  split at member
  · cases Option.mem_toList.mp member
    cases failed
  · split at member
    · cases member
    · cases member

theorem failStream (stream : Int16) {error : DriverError}
    (transport : error.isConnectionLevel = true) (channel : Channel) :
    BlameTransport (channel.failStream stream error).1 := by
  refine settle (fun outcome member other failed => ?_) _ channel
  split at member
  · cases Option.mem_toList.mp member
    cases failed
    exact transport
  · cases member

theorem closeStreams (reason : String) (channel : Channel) :
    BlameTransport (channel.closeStreams reason).1 := by
  refine settle (fun outcome member error failed => ?_) _ channel
  split at member
  · cases member
  · obtain ⟨request, _, rfl⟩ := List.mem_map.mp member
    cases failed
    rfl

theorem close (reason : String) (channel : Channel) : BlameTransport (channel.close reason).1 := by
  rw [Channel.close_eq_closeStreams]
  exact closeStreams reason channel

theorem failAndClose (stream : Int16) {error : DriverError}
    (transport : error.isConnectionLevel = true) (reason : String) (channel : Channel) :
    BlameTransport (channel.failAndClose stream error reason).1 := by
  rw [Channel.failAndClose_eq]
  exact (failStream stream transport channel).append (close reason _)

theorem abandon (ticket : Ticket) (channel : Channel) :
    BlameTransport (channel.abandon ticket).1 := by
  rcases channel.abandon_parts ticket with same | ⟨_, same⟩
  · rw [same]
    exact none
  · rw [same]
    exact closeStreams _ _

theorem beat (now : Nat) (channel : Channel) : BlameTransport (channel.beat now).1 := by
  by_cases isOpen : channel.table.closed = .none
  · rcases Channel.beat_parts now isOpen with ⟨_, _, same⟩ | ⟨_, same⟩ | ⟨ticket, _, same⟩
    · rw [same]
      exact none
    · rw [same]
      exact none
    · rw [same]
      exact (abandon ticket _).append (close _ _)
  · rw [Channel.beat_closed now isOpen]
    exact none

theorem result_of_finding {finding : Frame.Received} {error : DriverError}
    (failed : finding.result = .error error) : error.isConnectionLevel = true := by
  unfold Frame.Received.result at failed
  split at failed
  · split at failed
    · cases failed
      rfl
    · cases failed
  · cases failed
    rfl

theorem receive (now : Nat) (finding : Frame.Received) (channel : Channel) :
    BlameTransport (Channel.acceptReceived now ({}, channel) finding).1.outcomes := by
  by_cases isOpen : channel.table.closed = .none
  · obtain ⟨read, _, parts⟩ := Channel.receive_parts now finding isOpen
    rcases parts with ⟨same, _⟩ | ⟨frame, same, _⟩ | ⟨error, reason, failed, same, _⟩
    · rw [same]
      exact none
    · rw [same]
      exact complete frame read
    · rw [same]
      exact failAndClose _ (result_of_finding failed) reason read
  · rw [Channel.receive_closed now finding isOpen]
    exact none

theorem perform (action : ChannelAction) (channel : Channel) :
    BlameTransport (action.perform channel).1.outcomes := by
  cases action with
  | send opcode body | drain => exact none
  | receive now finding => exact receive now finding channel
  | beat now => exact beat now channel
  | drop ticket => exact abandon ticket channel
  | close reason => exact close reason channel

end BlameTransport

end CqlDriver
