/-
The close of a channel. Whatever closes it first, all who wait then learn the reason, and
from then on nothing is given to anybody and nobody is taken in.
-/

import CqlDriver.Proofs.Channel.Fates

namespace CqlDriver

open StreamTable

namespace Channel

variable {channel : Channel} {ticket : Ticket} {reason given : String}

theorem closeStreams_closed (shut : channel.table.closed ≠ none) (reason : String) :
    channel.closeStreams reason = ([], channel) := by
  rw [closeStreams_eq, close_of_closed reason shut]
  rfl

theorem close_closed (shut : channel.table.closed ≠ none) (reason : String) :
    channel.close reason = ([], channel.stopWatch) := by
  rw [close_eq_closeStreams, closeStreams_closed shut]

theorem closed_closeStreams (isOpen : channel.table.closed = none) (reason : String) :
    (channel.closeStreams reason).2.table.closed = some reason := by
  rw [closeStreams_eq, close_of_open reason isOpen]
  rfl

theorem failStream_closed (seated : channel.table.Seated) (shut : channel.table.closed ≠ none)
    (stream : Int16) (error : DriverError) : channel.failStream stream error = ([], channel) := by
  have missing : channel.table.waiters.find? stream = none := by
    rw [(seated.afterClose shut).1]
    rfl
  unfold failStream StreamTable.failStream
  rw [missing]
  rfl

theorem orphan_closed (seated : channel.table.Seated) (shut : channel.table.closed ≠ none)
    (ticket : Ticket) : channel.orphan ticket = channel := by
  apply orphan_of_over
  rw [Bool.eq_false_iff]
  exact fun waits => shut (seated.open_of_waiting waits)

theorem abandon_closed (seated : channel.table.Seated) (shut : channel.table.closed ≠ none)
    (ticket : Ticket) : channel.abandon ticket = ([], channel) := by
  rcases channel.abandon_parts ticket with same | ⟨waits, _⟩
  · rw [same, orphan_closed seated shut]
  · exact absurd (seated.open_of_waiting waits) shut

theorem closed_orphan (ticket : Ticket) (channel : Channel) :
    (channel.orphan ticket).table.closed = channel.table.closed := by
  unfold orphan
  split
  · rfl
  · rfl

theorem closed_failStream (stream : Int16) (error : DriverError) (channel : Channel) :
    (channel.failStream stream error).2.table.closed = channel.table.closed :=
  (failStream_keeps stream error channel.table).1

theorem closed_complete (frame : Frame) (channel : Channel) :
    (channel.complete frame).2.table.closed = channel.table.closed :=
  (complete_keeps frame channel.table).1

theorem closed_reserve (table : StreamTable) : table.reserve.2.closed = table.closed := by
  unfold reserve
  split
  · rfl
  · rfl

theorem closed_send (opcode : Opcode) (body : List UInt8) (channel : Channel) :
    (channel.send opcode body).2.table.closed = channel.table.closed := by
  have kept := closed_reserve channel.table
  rcases channel.send_parts opcode body with
    ⟨_, table, sent, same | ⟨_, refused⟩⟩ | ⟨_, table, _, reserved, sent⟩
  · rw [sent, same]
  · rw [refused] at kept
    rw [sent]
    exact kept
  · rw [reserved] at kept
    rw [sent]
    exact kept

theorem closed_askForSign (now : Nat) (channel : Channel) :
    (channel.askForSign now).table.closed = channel.table.closed := by
  have kept := closed_reserve channel.table
  rcases channel.askForSign_parts now with
    ⟨table, _, _, refused, same⟩ | ⟨_, table, _, _, reserved, same⟩
  · rw [refused] at kept
    rw [same]
    exact kept
  · rw [reserved] at kept
    rw [same]
    exact kept

theorem closed_expire (now : Nat) (channel : Channel) :
    (channel.expire now).table.closed = channel.table.closed := by
  rcases channel.expire_parts now with same | ⟨ticket, _, same⟩
  · rw [same]
  · rw [same, closed_orphan]
    rfl

end Channel

namespace ChannelMove

variable {channel : Channel}

/-- A move on a closed channel gives nobody anything and leaves the streams alone. -/
theorem perform_closed (seated : channel.table.Seated) (shut : channel.table.closed ≠ none)
    (move : ChannelMove) :
    (move.perform channel).1 = {} ∧
      ((move.perform channel).2.table = channel.table ∨
        (move.perform channel).2.table = channel.table.drain) := by
  cases move with
  | whole action =>
      cases action with
      | send opcode body =>
          obtain ⟨reason, isReason⟩ := Option.ne_none_iff_exists'.mp shut
          rw [perform_send, Channel.send, send_closed channel.address isReason]
          exact ⟨rfl, .inl rfl⟩
      | receive now finding =>
          rw [perform_receive, Channel.receive_closed now finding shut]
          exact ⟨rfl, .inl rfl⟩
      | beat now =>
          rw [perform_beat, Channel.beat_closed now shut]
          exact ⟨rfl, .inl rfl⟩
      | drop ticket =>
          rw [perform_drop, Channel.abandon_closed seated shut]
          exact ⟨rfl, .inl rfl⟩
      | drain => exact ⟨rfl, .inr rfl⟩
      | close reason =>
          rw [perform_close, Channel.close_closed shut]
          exact ⟨rfl, .inl rfl⟩
  | noteRead now => exact ⟨rfl, .inl rfl⟩
  | fail stream error =>
      rw [perform_fail, Channel.failStream_closed seated shut]
      exact ⟨rfl, .inl rfl⟩
  | orphan ticket =>
      rw [perform_orphan, Channel.orphan_closed seated shut]
      exact ⟨rfl, .inl rfl⟩
  | expire now =>
      refine ⟨rfl, .inl ?_⟩
      rw [perform_expire]
      rcases channel.expire_parts now with same | ⟨ticket, _, same⟩
      · rw [same]
      · rw [same, Channel.orphan_stopWatch, Channel.orphan_closed seated shut]
        rfl

end ChannelMove

namespace ChannelHistory

variable {history : ChannelHistory} {ticket : Ticket} {reason : String}

def told (ticket : Ticket) (reason : String) : Outcome :=
  { request := ticket.request, result := .error (.channelClosed reason) }

namespace Fair

theorem closeStreams_tells (fair : history.Fair) (member : ticket ∈ history.accepted)
    (waits : history.channel.table.isWaiting ticket = true) (reason : String) :
    told ticket reason ∈ (history.channel.closeStreams reason).1 := by
  apply fair.handed_on member rfl
  exact (mem_close fair.seated.streams (fair.seated.open_of_waiting waits) reason _).mpr
    ⟨ticket, waits, rfl⟩

theorem failAndClose_tells (fair : history.Fair) (member : ticket ∈ history.accepted)
    (waits : history.channel.table.isWaiting ticket = true) (stream : Int16)
    (error : DriverError) (reason : String) :
    told ticket reason ∈ (history.channel.failAndClose stream error reason).1 ∨
      stream = ticket.stream ∧ { request := ticket.request, result := .error error } ∈
        (history.channel.failAndClose stream error reason).1 := by
  rw [Channel.failAndClose_eq]
  by_cases same : stream = ticket.stream
  · refine .inr ⟨same, List.mem_append_left _ (fair.handed_on member rfl ?_)⟩
    rw [same, isWaiting_iff.mp waits]
    exact List.mem_singleton_self _
  · refine .inl (List.mem_append_right _ ?_)
    have stillWaits : (history.channel.failStream stream error).2.table.isWaiting ticket = true :=
      (isWaiting_failStream stream error history.channel.table ticket).mpr ⟨waits, Ne.symm same⟩
    exact (fair.failStream stream error).closeStreams_tells member stillWaits reason

theorem receive_tells (fair : history.Fair) (member : ticket ∈ history.accepted)
    (waits : history.channel.table.isWaiting ticket = true) {now : Nat}
    {finding : Frame.Received} :
    let taken := Channel.acceptReceived now ({}, history.channel) finding
    taken.2.table.closed = some reason →
      told ticket reason ∈ taken.1.outcomes ∨
      finding.stream = ticket.stream ∧
        { request := ticket.request, result := finding.result } ∈ taken.1.outcomes := by
  intro taken shut
  have isOpen := fair.seated.open_of_waiting waits
  obtain ⟨read, isRead, parts⟩ := history.channel.receive_parts now finding isOpen
  obtain ⟨sameTable, sameHeartbeat⟩ := Channel.read_keeps isRead
  rcases parts with ⟨_, after⟩ | ⟨frame, _, after⟩ | ⟨error, given, result, outcomes, after⟩
  · rw [show taken.2 = _ from after, sameTable, isOpen] at shut
    cases shut
  · rw [show taken.2 = _ from after, Channel.closed_complete, sameTable, isOpen] at shut
    cases shut
  · have reads := fair.sameStreams sameTable sameHeartbeat
    have failedOpen := (Channel.closed_failStream finding.stream error read).trans
      (sameTable.symm ▸ isOpen)
    rw [show taken.2 = _ from after, Channel.failAndClose_eq,
      Channel.closed_close _ failedOpen] at shut
    cases shut
    rw [show taken.1.outcomes = _ from outcomes, result]
    exact reads.failAndClose_tells member (sameTable.symm ▸ waits) finding.stream error reason

theorem abandon_tells (fair : history.Fair) (member : ticket ∈ history.accepted)
    (waits : history.channel.table.isWaiting ticket = true) {given : Ticket}
    (shut : (history.channel.abandon given).2.table.closed = some reason) :
    ticket = given ∨ told ticket reason ∈ (history.channel.abandon given).1 := by
  have isOpen := fair.seated.open_of_waiting waits
  have orphanOpen := (Channel.closed_orphan given history.channel).trans isOpen
  rcases history.channel.abandon_parts given with same | ⟨_, same⟩
  · rw [same, orphanOpen] at shut
    cases shut
  · by_cases isGiven : ticket = given
    · exact .inl isGiven
    · rw [same, Channel.closed_closeStreams orphanOpen] at shut
      cases shut
      rw [same]
      have orphaned := fair.orphan [given] (.inl (List.mem_singleton_self given))
      exact .inr (orphaned.closeStreams_tells member
        (Channel.isWaiting_orphan.mpr ⟨waits, isGiven⟩) orphansReason)

theorem beat_tells (fair : history.Fair) (member : ticket ∈ history.accepted)
    (waits : history.channel.table.isWaiting ticket = true) {now : Nat}
    (shut : (history.channel.beat now).2.table.closed = some reason) :
    told ticket reason ∈ (history.channel.beat now).1 := by
  have isOpen := fair.seated.open_of_waiting waits
  rcases history.channel.beat_parts now isOpen with
    ⟨heartbeat, _, same⟩ | ⟨_, same⟩ | ⟨own, asked, same⟩
  · rw [same] at shut
    rw [show history.channel.table.closed = some reason from shut] at isOpen
    cases isOpen
  · rw [same, Channel.closed_askForSign, isOpen] at shut
    cases shut
  · have others : ticket ≠ own := by
      rintro rfl
      exact (fair.own ticket asked).2 ticket member rfl
    have orphaned := fair.giveUp asked
    have orphanOpen : (history.channel.stopWatch.orphan own).table.closed = none :=
      (Channel.closed_orphan own history.channel.stopWatch).trans isOpen
    have stillWaits : (history.channel.stopWatch.orphan own).table.isWaiting ticket = true :=
      Channel.isWaiting_orphan.mpr ⟨waits, others⟩
    rw [same] at shut ⊢
    rcases history.channel.stopWatch.abandon_parts own with early | ⟨_, early⟩
    · rw [early] at shut ⊢
      rw [Channel.closed_close _ orphanOpen] at shut
      cases shut
      exact List.mem_append_right _ (orphaned.closeStreams_tells member stillWaits _)
    · have closed := Channel.closed_closeStreams orphanOpen orphansReason
      rw [early] at shut ⊢
      rw [Channel.close_closed (by rw [closed]; exact Option.some_ne_none _)] at shut ⊢
      have sameReason : some orphansReason = some reason := closed.symm.trans shut
      cases sameReason
      exact List.mem_append_left _ (orphaned.closeStreams_tells member stillWaits _)

end Fair

/-- Who waits when the channel is closed learns the reason, but for a caller that gives its
request up by this very move and for the request that a bad answer is for. -/
theorem Fair.closing_tells (fair : history.Fair) (member : ticket ∈ history.accepted)
    (waits : history.channel.table.isWaiting ticket = true) {move : ChannelMove}
    (shut : (move.perform history.channel).2.table.closed = some reason) :
    told ticket reason ∈ (move.perform history.channel).1.outcomes ∨
    move = .whole (.drop ticket) ∨
    ∃ now finding, move = .whole (.receive now finding) ∧ finding.stream = ticket.stream ∧
      { request := ticket.request, result := finding.result } ∈
        (move.perform history.channel).1.outcomes := by
  have isOpen := fair.seated.open_of_waiting waits
  have open_of (channel : Channel) (same : channel.table.closed = history.channel.table.closed)
      (shut : channel.table.closed = some reason) : False := by
    rw [same, isOpen] at shut
    cases shut
  cases move with
  | whole action =>
      cases action with
      | send opcode body => exact (open_of _ (Channel.closed_send opcode body _) shut).elim
      | receive now finding =>
          rcases fair.receive_tells member waits shut with isTold | isAnswered
          · exact .inl isTold
          · exact .inr (.inr ⟨now, finding, rfl, isAnswered⟩)
      | beat now => exact .inl (fair.beat_tells member waits shut)
      | drop given =>
          rcases fair.abandon_tells member waits shut with isGiven | isTold
          · exact .inr (.inl (isGiven ▸ rfl))
          · exact .inl isTold
      | drain => exact (open_of history.channel.drain rfl shut).elim
      | close given =>
          have closed := Channel.closed_close history.channel isOpen given
          rw [ChannelMove.perform_close, closed] at shut
          cases shut
          exact .inl (fair.closeStreams_tells member waits _)
  | noteRead now => exact (open_of { history.channel with lastRead := now } rfl shut).elim
  | fail stream error => exact (open_of _ (Channel.closed_failStream stream error _) shut).elim
  | orphan given => exact (open_of _ (Channel.closed_orphan given _) shut).elim
  | expire now => exact (open_of _ (Channel.closed_expire now _) shut).elim

theorem closed_perform (fair : history.Fair) (shut : history.channel.table.closed ≠ none)
    (move : ChannelMove) :
    (history.perform move).accepted = history.accepted ∧
      (history.perform move).outcomes = history.outcomes ∧
      (history.perform move).channel.table.closed = history.channel.table.closed := by
  obtain ⟨nothing, table⟩ := ChannelMove.perform_closed fair.seated shut move
  unfold perform
  dsimp only
  rw [nothing]
  refine ⟨List.append_nil _, List.append_nil _, ?_⟩
  rcases table with same | draining
  · rw [same]
  · rw [draining]
    rfl

theorem closed_performAll (fair : history.Fair) (shut : history.channel.table.closed ≠ none)
    (moves : List ChannelMove) :
    (history.performAll moves).accepted = history.accepted ∧
      (history.performAll moves).outcomes = history.outcomes ∧
      (history.performAll moves).channel.table.closed = history.channel.table.closed := by
  induction moves generalizing history with
  | nil => exact ⟨rfl, rfl, rfl⟩
  | cons move rest ih =>
      obtain ⟨accepted, outcomes, closed⟩ := closed_perform fair shut move
      obtain ⟨laterAccepted, laterOutcomes, laterClosed⟩ :=
        ih (perform_fair fair move) (closed ▸ shut)
      exact ⟨laterAccepted.trans accepted, laterOutcomes.trans outcomes,
        laterClosed.trans closed⟩

/-- There is one move that closes the channel. -/
theorem exists_first_close (isOpen : history.channel.table.closed = none)
    {moves : List ChannelMove} (shut : (history.performAll moves).channel.table.closed ≠ none) :
    ∃ before move after, moves = before ++ move :: after ∧
      (history.performAll before).channel.table.closed = none ∧
      ((history.performAll before).perform move).channel.table.closed ≠ none := by
  induction moves generalizing history with
  | nil => exact absurd isOpen shut
  | cons move rest ih =>
      by_cases stillOpen : (history.perform move).channel.table.closed = none
      · obtain ⟨before, closing, after, whole, openBefore, closed⟩ := ih stillOpen shut
        exact ⟨move :: before, closing, after, by rw [whole]; rfl, openBefore, closed⟩
      · exact ⟨[], move, rest, rfl, isOpen, stillOpen⟩

/-- What bytes do that come is a run of moves. Every request that is accepted has one outcome at
most. Once the channel is closed,
there was a first move that closed it: all who waited then were told its reason, but for a
request that its caller gave up by this move or that this move answered; nobody waits and
there is no orphan; nothing was accepted or handed on since; whoever was accepted has an
outcome or gave up; and sending and closing once more change nothing, but that the watch
over signs of life, which does nothing on a closed channel, stops with a close. -/
theorem first_close_is_final (address : SocketAddress) (config : ChannelConfig)
    (unread : List UInt8) (now : Nat) (moves : List ChannelMove) :
    let start := ChannelHistory.start address config unread now
    let later := start.performAll moves
    (∀ now bytes ended channel, ∃ reads,
      let read := performAll { channel :=
        { channel with unread := (Frame.decodeAll (channel.unread ++ bytes)).2.rest } } reads
      read.channel = (Channel.receive now bytes ended channel).2 ∧
        read.outcomes = (Channel.receive now bytes ended channel).1.outcomes) ∧
    ((later.accepted.map Ticket.request).Nodup ∧
      (later.outcomes.map Outcome.request).Nodup ∧
      ∀ outcome ∈ later.outcomes, ∃ ticket ∈ later.accepted, ticket.request = outcome.request) ∧
    ∀ reason, later.channel.table.closed = some reason →
      (∃ before move after, moves = before ++ move :: after ∧
        let opened := start.performAll before
        let shut := opened.perform move
        opened.channel.table.closed = none ∧ shut.channel.table.closed = some reason ∧
        (∀ given, move = .whole (.close given) → given = reason) ∧
        (∀ ticket ∈ opened.accepted, opened.channel.table.isWaiting ticket = true →
          told ticket reason ∈ shut.outcomes ∨
          move = .whole (.drop ticket) ∨
          ∃ time finding, move = .whole (.receive time finding) ∧
            finding.stream = ticket.stream ∧
            { request := ticket.request, result := finding.result } ∈ shut.outcomes) ∧
        later.accepted = shut.accepted ∧ later.outcomes = shut.outcomes) ∧
      later.channel.table.waiters = [] ∧ later.channel.table.orphans = [] ∧
      (∀ ticket ∈ later.accepted, ticket ∈ later.dropped ∨
        ∃ outcome ∈ later.outcomes, outcome.request = ticket.request) ∧
      (∀ opcode body, later.channel.send opcode body =
        (.error (.channelClosed reason), later.channel)) ∧
      ∀ other, later.channel.close other = ([], later.channel.stopWatch) := by
  intro start later
  have startFair : start.Fair := start_fair address config unread now
  have fair : later.Fair := performAll_fair startFair moves
  refine ⟨receive_performs, ⟨fair.distinct, fair.single, fair.known⟩, ?_⟩
  intro reason isReason
  have closed : later.channel.table.closed ≠ none := by
    rw [isReason]
    exact Option.some_ne_none reason
  obtain ⟨noWaiters, noOrphans⟩ := fair.seated.afterClose closed
  refine ⟨?_, noWaiters, noOrphans, ?_, ?_, Channel.close_closed closed⟩
  · obtain ⟨before, move, after, whole, isOpen, shut⟩ :=
      exists_first_close (show start.channel.table.closed = none from rfl) closed
    have openedFair := performAll_fair startFair before
    obtain ⟨accepted, outcomes, sameReason⟩ :=
      closed_performAll (perform_fair openedFair move) shut after
    have decomposed : later =
        ((start.performAll before).perform move).performAll after := by
      rw [← performAll_cons, ← performAll_append, ← whole]
    rw [← decomposed] at accepted outcomes sameReason
    refine ⟨before, move, after, whole, isOpen, sameReason.symm.trans isReason, ?_, ?_,
      accepted, outcomes⟩
    · rintro given rfl
      have closing := Channel.closed_close _ isOpen given
      have same : some reason = some given :=
        (isReason.symm.trans sameReason).trans closing
      exact (Option.some.inj same).symm
    · intro ticket member waits
      have learned : ∀ outcome, outcome ∈ (move.perform
          (start.performAll before).channel).1.outcomes →
          outcome ∈ ((start.performAll before).perform move).outcomes :=
        fun outcome new => List.mem_append_right _ new
      rcases openedFair.closing_tells member waits (sameReason.symm.trans isReason) with
        isTold | dropped | ⟨time, finding, isReceive, same, answered⟩
      · exact .inl (learned _ isTold)
      · exact .inr (.inl dropped)
      · exact .inr (.inr ⟨time, finding, isReceive, same, learned _ answered⟩)
  · intro ticket member
    rcases fair.covered ticket member with waits | fate
    · rw [fair.nobody closed ticket] at waits
      cases waits
    · exact fate
  · intro opcode body
    unfold Channel.send
    rw [send_closed _ isReason]

/-- Three callers send. One is answered and one gives up; others come while its stream is
an orphan already, and then the channel is closed twice. -/
def closedTwice : List ChannelMove :=
  [.whole (.send .query []), .whole (.send .query []), .whole (.send .query []),
    .whole (.receive 7 (.frame (.response 4 0 .result []))), .orphan ⟨1, 2⟩,
    .whole (.close "first"), .whole (.close "second"), .whole (.send .query [])]

def strictStart : ChannelHistory :=
  start { ip := .ofParts 10 0 0 1, port := 9042 }
    { version := .v4
      connectTimeout := .ofMillis 500
      heartbeatInterval := .ofSecs 30
      heartbeatTimeout := .ofSecs 5
      maxRequests := 4
      maxOrphans := 0 } [] 0

theorem closed_twice_tells_first :
    (strictStart.performAll closedTwice).channel.table.closed = some "first" ∧
      (strictStart.performAll closedTwice).outcomes =
        [{ request := 1, result := .ok (.response 4 0 .result []) }, told ⟨2, 3⟩ "first"] ∧
      (strictStart.performAll closedTwice).channel.table.orphans = [] ∧
      (strictStart.performAll closedTwice).channel.close "third" =
        ([], (strictStart.performAll closedTwice).channel.stopWatch) := by
  have closed : (strictStart.performAll closedTwice).channel.table.closed = some "first" := by
    decide
  obtain ⟨_, _, noOrphans, _, _, again⟩ :=
    (first_close_is_final _ _ [] 0 closedTwice).2.2 "first" closed
  exact ⟨closed, rfl, noOrphans, again "third"⟩

end ChannelHistory

end CqlDriver
