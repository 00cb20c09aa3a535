/-
What becomes of the requests of callers. Each one that was accepted waits, has its one
outcome, or was given up by its caller; the request by which the channel itself asks for
a sign of life is none of them. Every part of a move keeps this, and so every run does.
-/

import CqlDriver.Proofs.Channel.Moves

namespace CqlDriver.ChannelHistory

open StreamTable

def learn (history : ChannelHistory) (outcomes : List Outcome) (dropped : List Ticket)
    (channel : Channel) : ChannelHistory :=
  { history with
    channel
    dropped := history.dropped ++ dropped
    outcomes := history.outcomes ++ outcomes }

theorem learn_nothing (history : ChannelHistory) (channel : Channel) :
    history.learn [] [] channel = { history with channel } := by
  unfold learn
  rw [List.append_nil, List.append_nil]

theorem learn_twice (history : ChannelHistory) (outcomes more : List Outcome)
    (dropped gone : List Ticket) (channel last : Channel) :
    (history.learn outcomes dropped channel).learn more gone last =
      history.learn (outcomes ++ more) (dropped ++ gone) last := by
  unfold learn
  dsimp only
  rw [List.append_assoc, List.append_assoc]

theorem perform_eq_learn (history : ChannelHistory) {move : ChannelMove}
    (nothing : (move.perform history.channel).1.accepted = []) :
    history.perform move = history.learn (move.perform history.channel).1.outcomes move.dropped
      (move.perform history.channel).2 := by
  unfold perform learn
  dsimp only
  rw [nothing, List.append_nil]

theorem perform_send (history : ChannelHistory) (opcode : Opcode) (body : List UInt8) :
    history.perform (.whole (.send opcode body)) =
      { history with
        channel := (history.channel.send opcode body).2
        accepted := history.accepted ++ (history.channel.send opcode body).1.toOption.toList } := by
  change ChannelHistory.mk _ _ (history.dropped ++ []) (history.outcomes ++ []) = _
  rw [List.append_nil, List.append_nil]
  rfl

structure Fair (history : ChannelHistory) : Prop where
  seated : history.channel.table.Seated
  numbered : ∀ ticket ∈ history.accepted, ticket.request ≤ history.channel.table.accepted
  distinct : (history.accepted.map Ticket.request).Nodup
  single : (history.outcomes.map Outcome.request).Nodup
  known : ∀ outcome ∈ history.outcomes,
    ∃ ticket ∈ history.accepted, ticket.request = outcome.request
  finished : ∀ outcome ∈ history.outcomes, ∀ ticket,
    history.channel.table.isWaiting ticket = true → ticket.request ≠ outcome.request
  own : ∀ ticket, history.channel.heartbeat.asked? = some ticket →
    ticket.request ≤ history.channel.table.accepted ∧
      ∀ other ∈ history.accepted, other.request ≠ ticket.request
  claimed : ∀ ticket, history.channel.table.isWaiting ticket = true →
    ticket ∈ history.accepted ∨ history.channel.heartbeat.asked? = some ticket
  covered : ∀ ticket ∈ history.accepted, history.channel.table.isWaiting ticket = true ∨
    ticket ∈ history.dropped ∨ ∃ outcome ∈ history.outcomes, outcome.request = ticket.request

theorem start_fair (address : SocketAddress) (config : ChannelConfig) (unread : List UInt8)
    (now : Nat) : (start address config unread now).Fair where
  seated := new_seated config.maxRequests config.maxOrphans
  numbered := by
    intro ticket member
    cases member
  distinct := List.nodup_nil
  single := List.nodup_nil
  known := by
    intro outcome member
    cases member
  finished := by
    intro outcome member
    cases member
  own := by
    intro ticket asked
    cases asked
  claimed := by
    intro ticket waits
    cases waits
  covered := by
    intro ticket member
    cases member

variable {history : ChannelHistory} {table : StreamTable} {outcomes : List Outcome}
  {gone : List Ticket} {ticket : Ticket}

namespace Fair

theorem sameStreams (fair : history.Fair) {channel : Channel}
    (sameTable : channel.table = history.channel.table)
    (sameHeartbeat : channel.heartbeat = history.channel.heartbeat) :
    Fair { history with channel } := by
  constructor
  · rw [sameTable]
    exact fair.seated
  · rw [sameTable]
    exact fair.numbered
  · exact fair.distinct
  · exact fair.single
  · exact fair.known
  · rw [sameTable]
    exact fair.finished
  · rw [sameTable, sameHeartbeat]
    exact fair.own
  · rw [sameTable, sameHeartbeat]
    exact fair.claimed
  · rw [sameTable]
    exact fair.covered

theorem not_asking (fair : history.Fair) (member : ticket ∈ history.accepted) :
    history.channel.heartbeat.isAsking ticket.request = false := by
  rw [Bool.eq_false_iff]
  intro asking
  obtain ⟨asked, isAsked, sameNumber⟩ := Heartbeat.isAsking_iff.mp asking
  exact (fair.own asked isAsked).2 ticket member sameNumber.symm

/-- As long as it waits, the channel's own request is not among those that are over. -/
theorem keeps_asked (fair : history.Fair) (ends : history.channel.table.Ends table outcomes gone)
    (asked : history.channel.heartbeat.asked? = some ticket)
    (waits : table.isWaiting ticket = true) :
    (history.channel.settle outcomes table).2.heartbeat = history.channel.heartbeat := by
  have nothingOwn : (outcomes.filter fun outcome =>
      history.channel.heartbeat.isAsking outcome.request) = [] := by
    apply List.filter_eq_nil_iff.mpr
    intro outcome member asking
    obtain ⟨other, isAsked, sameNumber⟩ := Heartbeat.isAsking_iff.mp asking
    obtain ⟨ended, waited, isOver, number⟩ := ends.ended outcome member
    rw [asked] at isAsked
    cases isAsked
    have same := fair.seated.eq_of_request_eq (ends.fewer ticket waits) waited
      (sameNumber.trans number.symm)
    rw [← same, waits] at isOver
    cases isOver
  rw [Channel.settle_eq, nothingOwn]
  rfl

theorem caller_of_outcome (fair : history.Fair)
    (ends : history.channel.table.Ends table outcomes gone) {outcome : Outcome}
    (handedOn : outcome ∈ (history.channel.settle outcomes table).1) :
    ∃ ticket ∈ history.accepted, history.channel.table.isWaiting ticket = true ∧
      table.isWaiting ticket = false ∧ ticket.request = outcome.request := by
  rw [Channel.settle_eq] at handedOn
  obtain ⟨member, notAsking⟩ := List.mem_filter.mp handedOn
  obtain ⟨ticket, waited, isOver, number⟩ := ends.ended outcome member
  rcases fair.claimed ticket waited with accepted | asked
  · exact ⟨ticket, accepted, waited, isOver, number⟩
  · rw [Heartbeat.isAsking_iff.mpr ⟨ticket, asked, number⟩] at notAsking
    cases notAsking

theorem handed_on (fair : history.Fair) (member : ticket ∈ history.accepted) {outcome : Outcome}
    (sameNumber : outcome.request = ticket.request) (isOver : outcome ∈ outcomes) :
    outcome ∈ (history.channel.settle outcomes table).1 := by
  rw [Channel.settle_eq]
  refine List.mem_filter.mpr ⟨isOver, ?_⟩
  rw [sameNumber, fair.not_asking member]
  rfl

theorem settle (fair : history.Fair) (ends : history.channel.table.Ends table outcomes gone)
    (more : List Ticket)
    (excused : ∀ ticket ∈ gone,
      ticket ∈ more ∨ history.channel.heartbeat.asked? = some ticket) :
    (history.learn (history.channel.settle outcomes table).1 more
      (history.channel.settle outcomes table).2).Fair := by
  have sameTable : (history.channel.settle outcomes table).2.table = table := rfl
  unfold learn
  constructor
  case seated =>
    rw [sameTable]
    exact ends.seated
  case numbered =>
    rw [sameTable, ends.sameCount]
    exact fair.numbered
  case distinct => exact fair.distinct
  case single =>
    rw [List.map_append]
    refine List.nodup_append.mpr ⟨fair.single, ?_, ?_⟩
    · rw [Channel.settle_eq]
      exact ends.once.sublist (List.filter_sublist.map _)
    · intro first old second new same
      obtain ⟨earlier, before, rfl⟩ := List.mem_map.mp old
      obtain ⟨later, handedOn, rfl⟩ := List.mem_map.mp new
      obtain ⟨caller, _, waited, _, number⟩ := fair.caller_of_outcome ends handedOn
      exact fair.finished earlier before caller waited (number.trans same.symm)
  case known =>
    intro outcome member
    rcases List.mem_append.mp member with before | handedOn
    · exact fair.known outcome before
    · obtain ⟨caller, accepted, _, _, number⟩ := fair.caller_of_outcome ends handedOn
      exact ⟨caller, accepted, number⟩
  case finished =>
    rw [sameTable]
    intro outcome member other waits same
    have waited := ends.fewer other waits
    rcases List.mem_append.mp member with before | handedOn
    · exact fair.finished outcome before other waited same
    · obtain ⟨caller, _, wasWaiting, isOver, number⟩ := fair.caller_of_outcome ends handedOn
      rw [← fair.seated.eq_of_request_eq waited wasWaiting (same.trans number.symm),
        waits] at isOver
      cases isOver
  case own =>
    rw [sameTable, ends.sameCount]
    intro other asked
    exact fair.own other (Channel.asked?_settle asked)
  case claimed =>
    rw [sameTable]
    intro other waits
    rcases fair.claimed other (ends.fewer other waits) with accepted | asked
    · exact .inl accepted
    · rw [fair.keeps_asked ends asked waits]
      exact .inr asked
  case covered =>
    rw [sameTable]
    intro caller accepted
    rcases fair.covered caller accepted with waited | dropped | ⟨outcome, before, number⟩
    · rcases ends.told caller waited with waits | isGone | ⟨outcome, isOver, number⟩
      · exact .inl waits
      · rcases excused caller isGone with new | asked
        · exact .inr (.inl (List.mem_append_right _ new))
        · exact absurd rfl ((fair.own caller asked).2 caller accepted)
      · exact .inr (.inr ⟨outcome,
          List.mem_append_right _ (fair.handed_on accepted number isOver), number⟩)
    · exact .inr (.inl (List.mem_append_left _ dropped))
    · exact .inr (.inr ⟨outcome, List.mem_append_left _ before, number⟩)

theorem withHeartbeat (fair : history.Fair) {heartbeat : Heartbeat}
    (kept : heartbeat.asked? = history.channel.heartbeat.asked? ∨
      heartbeat.asked? = none ∧ ∀ ticket, history.channel.heartbeat.asked? = some ticket →
        history.channel.table.isWaiting ticket = false) :
    Fair { history with channel := { history.channel with heartbeat } } := by
  refine ⟨fair.seated, fair.numbered, fair.distinct, fair.single, fair.known, fair.finished, ?_, ?_,
    fair.covered⟩
  · intro ticket asked
    apply fair.own
    rcases kept with same | ⟨nothing, _⟩
    · exact same ▸ asked
    · dsimp only at asked
      rw [nothing] at asked
      cases asked
  · intro ticket waits
    apply (fair.claimed ticket waits).imp_right
    intro asked
    rcases kept with same | ⟨_, nobody⟩
    · exact same.trans asked
    · have waits : history.channel.table.isWaiting ticket = true := waits
      rw [nobody ticket asked] at waits
      cases waits

theorem issue (fair : history.Fair) (isOpen : history.channel.table.closed = none)
    (reserved : history.channel.table.reserve = (some ticket, table)) {heartbeat : Heartbeat}
    (issued : List Ticket)
    (owner : issued = [ticket] ∧ heartbeat.asked? = history.channel.heartbeat.asked? ∨
      issued = [] ∧ history.channel.heartbeat.asked? = none ∧ heartbeat.asked? = some ticket) :
    Fair { history with
      channel := { history.channel with table, heartbeat }
      accepted := history.accepted ++ issued } := by
  obtain ⟨seated, number, sameCount, waiting⟩ := fair.seated.reserve_some isOpen reserved
  have new (other : Ticket) (old : other.request ≤ history.channel.table.accepted) :
      other.request ≠ ticket.request := by
    omega
  have small {other : Ticket} (member : other ∈ issued) : other = ticket := by
    rcases owner with ⟨whole, _⟩ | ⟨whole, _⟩
    · exact List.mem_singleton.mp (whole ▸ member)
    · rw [whole] at member
      cases member
  constructor
  case seated => exact seated
  case numbered =>
    intro other member
    dsimp only
    rw [sameCount, number]
    rcases List.mem_append.mp member with old | isNew
    · exact Nat.le_succ_of_le (fair.numbered other old)
    · rw [small isNew]
      exact Nat.le_of_eq number
  case distinct =>
    rcases owner with ⟨whole, _⟩ | ⟨whole, _⟩
    · rw [whole, List.map_append, List.nodup_append]
      refine ⟨fair.distinct, List.nodup_singleton _, ?_⟩
      intro first old second isNew same
      obtain ⟨other, member, rfl⟩ := List.mem_map.mp old
      rw [List.map_singleton, List.mem_singleton] at isNew
      exact new other (fair.numbered other member) (same.trans isNew)
    · rw [whole, List.append_nil]
      exact fair.distinct
  case single => exact fair.single
  case known =>
    intro outcome member
    obtain ⟨caller, accepted, same⟩ := fair.known outcome member
    exact ⟨caller, List.mem_append_left _ accepted, same⟩
  case finished =>
    intro outcome member other waits
    rcases (waiting other).mp waits with isNew | waited
    · obtain ⟨caller, accepted, same⟩ := fair.known outcome member
      rw [isNew, ← same]
      exact (new caller (fair.numbered caller accepted)).symm
    · exact fair.finished outcome member other waited
  case own =>
    intro asked isAsked
    dsimp only at isAsked ⊢
    rw [sameCount]
    rcases owner with ⟨whole, sameAsked⟩ | ⟨whole, resting, isTicket⟩
    · obtain ⟨bounded, others⟩ := fair.own asked (sameAsked ▸ isAsked)
      refine ⟨by omega, ?_⟩
      intro other member
      rcases List.mem_append.mp member with old | isNew
      · exact others other old
      · rw [small isNew]
        exact (new asked bounded).symm
    · rw [isTicket] at isAsked
      cases isAsked
      rw [whole, List.append_nil]
      exact ⟨Nat.le_refl _, fun other member => new other (fair.numbered other member)⟩
  case claimed =>
    intro other waits
    dsimp only
    rcases (waiting other).mp waits with isNew | waited
    · rw [isNew]
      rcases owner with ⟨whole, _⟩ | ⟨_, _, isTicket⟩
      · rw [whole]
        exact .inl (List.mem_append_right _ (List.mem_singleton_self _))
      · exact .inr isTicket
    · rcases fair.claimed other waited with old | asked
      · exact .inl (List.mem_append_left _ old)
      · rcases owner with ⟨_, sameAsked⟩ | ⟨_, resting, _⟩
        · exact .inr (sameAsked.trans asked)
        · rw [resting] at asked
          cases asked
  case covered =>
    intro caller member
    rcases List.mem_append.mp member with old | isNew
    · rcases fair.covered caller old with waited | gone | learned
      · exact .inl ((waiting caller).mpr (.inr waited))
      · exact .inr (.inl gone)
      · exact .inr (.inr learned)
    · exact .inl ((waiting caller).mpr (.inl (small isNew)))

theorem sameWaiters (fair : history.Fair) (seated : table.Seated)
    (sameCount : table.accepted = history.channel.table.accepted)
    (same : table.waiters = history.channel.table.waiters) :
    Fair { history with channel := { history.channel with table } } := by
  have settled := fair.settle (Ends.nobody seated sameCount same) []
    (fun ticket member => nomatch member)
  rw [← learn_nothing]
  exact settled

theorem drain (fair : history.Fair) :
    Fair { history with channel := history.channel.drain } :=
  fair.sameWaiters fair.seated.drain rfl rfl

theorem refuse (fair : history.Fair) (refused : history.channel.table.reserve = (none, table)) :
    Fair { history with channel := { history.channel with table } } := by
  obtain ⟨seated, same⟩ := fair.seated.reserve_none refused
  apply fair.sameWaiters seated
  · rw [same]
  · rw [same]

theorem orphan (fair : history.Fair) {ticket : Ticket} (dropped : List Ticket)
    (excused : ticket ∈ dropped ∨ history.channel.heartbeat.asked? = some ticket) :
    (history.learn [] dropped (history.channel.orphan ticket)).Fair := by
  cases waits : history.channel.table.isWaiting ticket with
  | true =>
      rw [Channel.orphan_of_waiting waits]
      apply fair.settle (fair.seated.orphan_ends waits) dropped
      intro gone member
      rw [List.mem_singleton.mp member]
      exact excused
  | false =>
      rw [Channel.orphan_of_over waits]
      exact fair.settle (Ends.nobody fair.seated rfl rfl) dropped (fun gone member => nomatch member)

theorem complete (fair : history.Fair) (isOpen : history.channel.table.closed = none)
    (frame : Frame) :
    (history.learn (history.channel.complete frame).1 []
      (history.channel.complete frame).2).Fair :=
  fair.settle (fair.seated.complete_ends isOpen frame) [] fun _ member => nomatch member

theorem failStream (fair : history.Fair) (stream : Int16) (error : DriverError) :
    (history.learn (history.channel.failStream stream error).1 []
      (history.channel.failStream stream error).2).Fair :=
  fair.settle (fair.seated.failStream_ends stream error) [] fun _ member => nomatch member

theorem closeStreams (fair : history.Fair) (reason : String) :
    (history.learn (history.channel.closeStreams reason).1 []
      (history.channel.closeStreams reason).2).Fair :=
  fair.settle (fair.seated.close_ends reason) [] fun _ member => nomatch member

theorem nobody (fair : history.Fair) (shut : history.channel.table.closed ≠ none)
    (ticket : Ticket) : history.channel.table.isWaiting ticket = false := by
  rw [Bool.eq_false_iff]
  exact fun waits => shut (fair.seated.open_of_waiting waits)

theorem close (fair : history.Fair) (reason : String) :
    (history.learn (history.channel.close reason).1 [] (history.channel.close reason).2).Fair := by
  have closed := fair.closeStreams reason
  have shut : (history.channel.closeStreams reason).2.table.closed ≠ none :=
    close_closed reason history.channel.table
  rw [Channel.close_eq_closeStreams]
  exact closed.withHeartbeat (.inr ⟨rfl, fun ticket _ => closed.nobody shut ticket⟩)

theorem failAndClose (fair : history.Fair) (stream : Int16) (error : DriverError)
    (reason : String) :
    (history.learn (history.channel.failAndClose stream error reason).1 []
      (history.channel.failAndClose stream error reason).2).Fair := by
  have closed := (fair.failStream stream error).close reason
  rw [learn_twice] at closed
  exact closed

theorem abandon (fair : history.Fair) (ticket : Ticket) :
    (history.learn (history.channel.abandon ticket).1 [ticket]
      (history.channel.abandon ticket).2).Fair := by
  have orphaned := fair.orphan [ticket] (.inl (List.mem_singleton_self ticket))
  rcases history.channel.abandon_parts ticket with same | ⟨_, same⟩
  · rw [same]
    exact orphaned
  · have closed := orphaned.closeStreams orphansReason
    rw [learn_twice, List.append_nil] at closed
    rw [same]
    exact closed

/-- The request for a sign of life is given up, and the watch stops. -/
theorem giveUp (fair : history.Fair)
    (asked : history.channel.heartbeat.asked? = some ticket) :
    (history.learn [] [] (history.channel.stopWatch.orphan ticket)).Fair := by
  have orphaned := fair.orphan [] (.inr asked)
  rw [Channel.orphan_stopWatch]
  apply orphaned.withHeartbeat
  refine .inr ⟨rfl, ?_⟩
  intro other isAsked
  have unchanged : (history.channel.orphan ticket).heartbeat = history.channel.heartbeat := by
    unfold Channel.orphan
    split
    · rfl
    · rfl
  have same : some other = some ticket := by
    rw [← asked, ← unchanged]
    exact isAsked.symm
  cases same
  rw [Bool.eq_false_iff]
  exact fun waits => (Channel.isWaiting_orphan.mp waits).2 rfl

theorem expire (fair : history.Fair) (now : Nat) :
    (history.learn [] [] (history.channel.expire now)).Fair := by
  rcases history.channel.expire_parts now with same | ⟨ticket, asked, same⟩
  · rw [same, learn_nothing]
    exact fair
  · rw [same]
    exact fair.giveUp asked

theorem giveUpAndClose (fair : history.Fair)
    (asked : history.channel.heartbeat.asked? = some ticket) (reason : String) :
    let stopped := history.channel.stopWatch.abandon ticket
    let closing := stopped.2.close reason
    (history.learn (stopped.1 ++ closing.1) [] closing.2).Fair := by
  intro stopped closing
  have orphaned := fair.giveUp asked
  have abandoned : (history.learn stopped.1 [] stopped.2).Fair := by
    rcases history.channel.stopWatch.abandon_parts ticket with same | ⟨_, same⟩
    · rw [show stopped = _ from same]
      exact orphaned
    · have closed := orphaned.closeStreams orphansReason
      rw [learn_twice] at closed
      rw [show stopped = _ from same]
      exact closed
  have closed := abandoned.close reason
  rw [learn_twice] at closed
  exact closed

theorem send (fair : history.Fair) (opcode : Opcode) (body : List UInt8) :
    (history.perform (.whole (.send opcode body))).Fair := by
  rw [perform_send]
  rcases Channel.send_parts opcode body history.channel with
    ⟨error, table, sent, fewer⟩ | ⟨ticket, table, isOpen, reserved, sent⟩
  · rw [sent]
    change Fair { history with channel := _, accepted := history.accepted ++ [] }
    rw [List.append_nil]
    rcases fewer with same | ⟨_, refused⟩
    · rw [same]
      exact fair
    · exact fair.refuse refused
  · rw [sent]
    exact (fair.issue isOpen reserved [ticket] (.inl ⟨rfl, rfl⟩)).sameStreams rfl rfl

theorem askForSign (fair : history.Fair) (isOpen : history.channel.table.closed = none)
    (resting : history.channel.heartbeat.asked? = none) (now : Nat) :
    Fair { history with channel := history.channel.askForSign now } := by
  rcases history.channel.askForSign_parts now with
    ⟨table, heartbeat, rests, refused, same⟩ | ⟨ticket, table, heartbeat, asks, reserved, same⟩
  · rw [same]
    exact (fair.refuse refused).withHeartbeat (.inl (rests.trans resting.symm))
  · have issued := fair.issue isOpen reserved [] (.inr ⟨rfl, resting, asks⟩)
    rw [List.append_nil] at issued
    rw [same]
    exact issued.sameStreams rfl rfl

theorem beat (fair : history.Fair) (now : Nat) :
    (history.learn (history.channel.beat now).1 [] (history.channel.beat now).2).Fair := by
  by_cases isOpen : history.channel.table.closed = none
  · rcases history.channel.beat_parts now isOpen with
      ⟨heartbeat, kept, same⟩ | ⟨resting, same⟩ | ⟨ticket, asked, same⟩
    · rw [same, learn_nothing]
      exact fair.withHeartbeat (.inl kept)
    · rw [same, learn_nothing]
      exact fair.askForSign isOpen resting now
    · rw [same]
      exact fair.giveUpAndClose asked _
  · rw [Channel.beat_closed now isOpen, learn_nothing]
    exact fair

theorem receive (fair : history.Fair) (now : Nat) (finding : Frame.Received) :
    let taken := Channel.acceptReceived now ({}, history.channel) finding
    (history.learn taken.1.outcomes [] taken.2).Fair := by
  intro taken
  by_cases isOpen : history.channel.table.closed = none
  · obtain ⟨read, isRead, parts⟩ := history.channel.receive_parts now finding isOpen
    obtain ⟨sameTable, sameHeartbeat⟩ := Channel.read_keeps isRead
    have reads := fair.sameStreams sameTable sameHeartbeat
    rcases parts with ⟨told, after⟩ | ⟨frame, told, after⟩ | ⟨error, reason, _, told, after⟩
    · rw [told, after, learn_nothing]
      exact reads
    · rw [told, after]
      exact reads.complete (sameTable ▸ isOpen) frame
    · rw [told, after]
      exact reads.failAndClose finding.stream error reason
  · have nothing : taken = ({}, history.channel) := Channel.receive_closed now finding isOpen
    rw [nothing, learn_nothing]
    exact fair

end Fair

theorem perform_fair (fair : history.Fair) (move : ChannelMove) : (history.perform move).Fair := by
  cases move with
  | whole action =>
      cases action with
      | send opcode body => exact fair.send opcode body
      | receive now finding =>
          rw [perform_eq_learn history rfl]
          exact fair.receive now finding
      | beat now =>
          rw [perform_eq_learn history rfl]
          exact fair.beat now
      | drop ticket =>
          rw [perform_eq_learn history rfl]
          exact fair.abandon ticket
      | drain =>
          have drained := fair.drain
          rw [← learn_nothing] at drained
          rw [perform_eq_learn history rfl]
          exact drained
      | close reason =>
          rw [perform_eq_learn history rfl]
          exact fair.close reason
  | noteRead now =>
      have noted : Fair { history with channel := { history.channel with lastRead := now } } :=
        fair.sameStreams rfl rfl
      rw [← learn_nothing] at noted
      rw [perform_eq_learn history rfl]
      exact noted
  | fail stream error =>
      rw [perform_eq_learn history rfl]
      exact fair.failStream stream error
  | orphan ticket =>
      rw [perform_eq_learn history rfl]
      exact fair.orphan [ticket] (.inl (List.mem_singleton_self ticket))
  | expire now =>
      rw [perform_eq_learn history rfl]
      exact fair.expire now

theorem performAll_fair (fair : history.Fair) (moves : List ChannelMove) :
    (history.performAll moves).Fair := by
  induction moves generalizing history with
  | nil => exact fair
  | cons move rest ih => exact ih (perform_fair fair move)

end CqlDriver.ChannelHistory
