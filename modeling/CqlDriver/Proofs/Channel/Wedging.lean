/-
Channels that the orphans alone can stop. If a channel bears fewer orphans than it has
streams, somebody still waits when all streams are taken, and the channel is closed once
all of them have given up. Otherwise it can be left open with nothing but orphans: callers
are turned away and no sign of life is asked for, until the server answers. The channel is
looked at between whole actions, as a close for too many orphans is part of the action that
makes the last of them.
-/

import CqlDriver.Channel.Config
import CqlDriver.Proofs.Channel.Exhaustion
import CqlDriver.Proofs.Channel.Moves

namespace CqlDriver

open StreamTable

namespace Channel

theorem table_receive (now : Nat) (finding : Frame.Received) (channel : Channel) :
    ∃ operations, (acceptReceived now ({}, channel) finding).2.table =
      channel.table.performAll operations := by
  by_cases isOpen : channel.table.closed = none
  · obtain ⟨read, isRead, parts⟩ := channel.receive_parts now finding isOpen
    rw [← (read_keeps isRead).1]
    rcases parts with ⟨_, after⟩ | ⟨frame, _, after⟩ | ⟨error, reason, _, _, after⟩
    · exact ⟨[], congrArg table after⟩
    · exact ⟨[.complete frame], congrArg table after⟩
    · exact ⟨[.failStream finding.stream error, .close reason], congrArg table after⟩
  · rw [receive_closed now finding isOpen]
    exact ⟨[], rfl⟩

theorem table_beat (now : Nat) (channel : Channel) :
    ∃ operations, (channel.beat now).2.table = channel.table.performAll operations ∧
      ∀ operation ∈ operations, operation.isAnswer = false := by
  by_cases isOpen : channel.table.closed = none
  · rcases channel.beat_parts now isOpen with
      ⟨_, _, same⟩ | ⟨_, same⟩ | ⟨ticket, _, same⟩
    · rw [same]
      exact ⟨[], rfl, by simp⟩
    · have notClosed : ¬channel.table.isClosed = true :=
        fun closed => Option.isSome_iff_ne_none.mp closed isOpen
      refine ⟨[.askForSign], ?_, by simp [StreamOperation.isAnswer]⟩
      rw [same, table_askForSign]
      exact (if_neg notClosed).symm
    · refine ⟨[.abandon ticket, .close channel.noSign.message], ?_,
        by simp [StreamOperation.isAnswer]⟩
      rw [same]
      rfl
  · rw [beat_closed now isOpen]
    exact ⟨[], rfl, by simp⟩

end Channel

namespace ChannelAction

def isSilent : ChannelAction → Bool
  | .receive _ _ | .close _ => false
  | _ => true

theorem table_perform (action : ChannelAction) (channel : Channel) :
    ∃ operations, (action.perform channel).2.table = channel.table.performAll operations ∧
      (action.isSilent = true → ∀ operation ∈ operations, operation.isAnswer = false) := by
  cases action with
  | send opcode body =>
      refine ⟨[.send channel.address], ?_, fun _ => by simp [StreamOperation.isAnswer]⟩
      change (channel.send opcode body).2.table = (channel.table.send channel.address).2
      unfold Channel.send
      split
      · rename_i sent
        rw [sent]
        rfl
      · rename_i sent
        rw [sent]
  | receive now finding =>
      obtain ⟨operations, same⟩ := channel.table_receive now finding
      exact ⟨operations, same, fun silent => nomatch silent⟩
  | beat now =>
      obtain ⟨operations, same, noAnswers⟩ := channel.table_beat now
      exact ⟨operations, same, fun _ => noAnswers⟩
  | drop ticket => exact ⟨[.abandon ticket], rfl, fun _ => by simp [StreamOperation.isAnswer]⟩
  | drain => exact ⟨[.drain], rfl, fun _ => by simp [StreamOperation.isAnswer]⟩
  | close reason => exact ⟨[.close reason], rfl, fun silent => nomatch silent⟩

end ChannelAction

namespace Channel

variable {channel : Channel}

def performAll (channel : Channel) (actions : List ChannelAction) : Channel :=
  actions.foldl (fun channel action => (action.perform channel).2) channel

theorem performAll_cons (channel : Channel) (action : ChannelAction)
    (rest : List ChannelAction) :
    channel.performAll (action :: rest) = (action.perform channel).2.performAll rest := rfl

theorem performAll_append (channel : Channel) (actions more : List ChannelAction) :
    channel.performAll (actions ++ more) = (channel.performAll actions).performAll more :=
  List.foldl_append

theorem table_performAll (actions : List ChannelAction) (channel : Channel) :
    ∃ operations, (channel.performAll actions).table = channel.table.performAll operations ∧
      ((∀ action ∈ actions, action.isSilent = true) →
        ∀ operation ∈ operations, operation.isAnswer = false) := by
  induction actions generalizing channel with
  | nil => exact ⟨[], rfl, fun _ => by simp⟩
  | cons action rest ih =>
      obtain ⟨first, sameFirst, quietFirst⟩ := action.table_perform channel
      obtain ⟨behind, sameBehind, quietBehind⟩ := ih (action.perform channel).2
      refine ⟨first ++ behind, ?_, ?_⟩
      · rw [performAll_cons, sameBehind, sameFirst]
        exact List.foldl_append.symm
      · intro silent operation member
        rcases List.mem_append.mp member with front | back
        · exact quietFirst (silent action List.mem_cons_self) operation front
        · exact quietBehind (fun other inRest => silent other (List.mem_cons_of_mem _ inRest))
            operation back

structure Limited (channel : Channel) (maxRequests maxOrphans : Nat) : Prop where
  valid : channel.table.Valid
  limits : channel.table.limits = (maxRequests, maxOrphans)
  small : maxRequests ≤ 0x8000

variable {maxRequests maxOrphans : Nat}

namespace Limited

theorem performAll (limited : channel.Limited maxRequests maxOrphans)
    (actions : List ChannelAction) : (channel.performAll actions).Limited maxRequests maxOrphans := by
  obtain ⟨operations, same, _⟩ := channel.table_performAll actions
  refine ⟨?_, ?_, limited.small⟩
  · rw [same]
    exact performAll_valid limited.valid operations
  · rw [same, limits_performAll]
    exact limited.limits

theorem capacity (limited : channel.Limited maxRequests maxOrphans) :
    channel.table.ids.capacity = maxRequests :=
  congrArg Prod.fst limited.limits

theorem bounded (limited : channel.Limited maxRequests maxOrphans) :
    channel.table.ids.capacity ≤ 0x8000 := by
  rw [limited.capacity]
  exact limited.small

theorem orphans_le (limited : channel.Limited maxRequests maxOrphans)
    (isOpen : channel.table.closed = none) : channel.table.orphans.length ≤ maxOrphans := by
  have tolerated := (limited.valid.whileOpen isOpen).tolerated
  rw [show channel.table.maxOrphans = maxOrphans from congrArg Prod.snd limited.limits] at tolerated
  exact tolerated

theorem starved (limited : channel.Limited maxRequests maxOrphans)
    (isOpen : channel.table.closed = none) (full : channel.table.reserve.1 = none) :
    Starved channel.table channel.table := by
  have accounted := limited.valid.whileOpen isOpen
  exact ⟨accounted, limited.bounded, (accounted.reserve_none_iff limited.bounded).mp full,
    fun _ waits => waits⟩

end Limited

/-- An open channel whose orphans leave it a stream, which is free or has a request that
still waits. Only if none is free a sign of life that is due is not asked for; and then, if
the server is silent, the channel is closed when all of these requests have been given up. -/
structure Usable (channel : Channel) (maxRequests : Nat) : Prop where
  fewer : channel.table.orphans.length < maxRequests
  alive : channel.table.reserve.1 ≠ none ∨ channel.table.waiters ≠ []
  asks : channel.table.reserve.1 ≠ none → ∀ now,
    channel.heartbeat.turn channel.config.heartbeatInterval.nanos now channel.lastRead = .ask →
    (channel.beat now).2.heartbeat.asked? ≠ none
  released : channel.table.reserve.1 = none → ∀ actions : List ChannelAction,
    (∀ action ∈ actions, action.isSilent = true) →
    (∀ ticket, channel.table.isWaiting ticket = true →
      (channel.performAll actions).table.isWaiting ticket = false) →
    (channel.performAll actions).table.closed ≠ none

theorem Limited.usable (limited : channel.Limited maxRequests maxOrphans)
    (fewer : maxOrphans < maxRequests) (isOpen : channel.table.closed = none) :
    channel.Usable maxRequests := by
  have few := limited.orphans_le isOpen
  constructor
  case fewer => omega
  case alive =>
    by_cases idle : channel.table.waiters = []
    · left
      intro full
      have taken := (limited.starved isOpen full).orphans_of_idle idle
      rw [limited.capacity] at taken
      omega
    · exact .inr idle
  case asks =>
    intro free now due
    have asking : channel.beat now = ([], channel.askForSign now) := by
      unfold Channel.beat
      rw [if_neg fun closed => isClosed_iff.mp closed isOpen, due]
    rw [asking]
    rcases channel.askForSign_parts now with
      ⟨_, _, _, refused, _⟩ | ⟨ticket, _, _, asks, _, same⟩
    · rw [refused] at free
      exact absurd rfl free
    · rw [same]
      exact asks.trans_ne (Option.some_ne_none ticket)
  case released =>
    intro full actions silent givenUp stillOpen
    obtain ⟨operations, same, noAnswers⟩ := channel.table_performAll actions
    have later := limited.performAll actions
    have starved : Starved channel.table (channel.performAll actions).table := by
      rw [same] at stillOpen ⊢
      exact (limited.starved isOpen full).performAll (noAnswers silent) stillOpen
    have taken := starved.orphans_of_idle (starved.idle givenUp)
    have fewLater := later.orphans_le stillOpen
    rw [later.capacity] at taken
    omega

structure Wedged (channel : Channel) : Prop where
  isOpen : channel.table.closed = none
  starved : Starved channel.table channel.table
  idle : channel.table.waiters = []
  resting : channel.heartbeat.asked? = none

namespace Wedged

theorem orphans_length (wedged : channel.Wedged) :
    channel.table.orphans.length = channel.table.ids.capacity :=
  wedged.starved.orphans_of_idle wedged.idle

theorem refused (wedged : channel.Wedged) : channel.table.reserve = (none, channel.table) := by
  have free := wedged.starved.nothing_free
  cases reserved : channel.table.reserve with
  | mk given after =>
      rw [reserved] at free
      cases free
      obtain ⟨allocated, same⟩ := reserve_eq_none reserved
      obtain ⟨_, _, full⟩ :=
        StreamIdSet.allocate_none wedged.starved.accounted.sound allocated
      rw [same, (full wedged.starved.bounded).1]

theorem nobody (wedged : channel.Wedged) (ticket : Ticket) :
    channel.table.isWaiting ticket = false := by
  unfold isWaiting
  rw [wedged.idle]
  rfl

/-- A caller is turned away, whatever it sends. -/
theorem send (wedged : channel.Wedged) (opcode : Opcode) (body : List UInt8) :
    channel.send opcode body =
      (.error (if channel.table.draining then .channelClosed "channel is draining"
        else .busy channel.address), channel) := by
  unfold Channel.send
  cases draining : channel.table.draining with
  | true =>
      rw [send_draining channel.address wedged.isOpen draining]
      rfl
  | false =>
      rw [send_open channel.address wedged.isOpen draining, wedged.refused]
      rfl

theorem beat (wedged : channel.Wedged) (now : Nat) :
    ∃ heartbeat : Heartbeat, heartbeat.asked? = none ∧
      channel.beat now = ([], { channel with heartbeat }) := by
  rcases channel.beat_parts now wedged.isOpen with
    ⟨heartbeat, kept, same⟩ | ⟨_, same⟩ | ⟨ticket, asked, _⟩
  · exact ⟨heartbeat, kept.trans wedged.resting, same⟩
  · rcases channel.askForSign_parts now with
      ⟨table, heartbeat, rests, refused, asked⟩ | ⟨_, _, _, _, reserved, _⟩
    · rw [wedged.refused] at refused
      cases refused
      exact ⟨heartbeat, rests, same.trans (by rw [asked])⟩
    · rw [wedged.refused] at reserved
      cases reserved
  · rw [wedged.resting] at asked
    cases asked

theorem drain (wedged : channel.Wedged) : channel.drain.Wedged := by
  obtain ⟨accounted, bounded, full, _⟩ := wedged.starved.drain
  exact ⟨wedged.isOpen, ⟨accounted, bounded, full, fun _ waits => waits⟩, wedged.idle,
    wedged.resting⟩

/-- As long as the server is silent nothing changes, and nothing is written to it. -/
theorem perform (wedged : channel.Wedged) {action : ChannelAction}
    (silent : action.isSilent = true) :
    (action.perform channel).2.Wedged ∧ (action.perform channel).2.outbox = channel.outbox := by
  cases action with
  | send opcode body =>
      have same : (ChannelAction.perform (.send opcode body) channel).2 = channel :=
        congrArg Prod.snd (wedged.send opcode body)
      rw [same]
      exact ⟨wedged, rfl⟩
  | receive now finding => cases silent
  | beat now =>
      obtain ⟨heartbeat, rests, same⟩ := wedged.beat now
      have after : (ChannelAction.perform (.beat now) channel).2 = { channel with heartbeat } :=
        congrArg Prod.snd same
      rw [after]
      exact ⟨⟨wedged.isOpen, wedged.starved, wedged.idle, rests⟩, rfl⟩
  | drop ticket =>
      have same : (ChannelAction.perform (.drop ticket) channel).2 = channel := by
        change (channel.abandon ticket).2 = channel
        rcases channel.abandon_parts ticket with same | ⟨waits, _⟩
        · rw [same]
          exact orphan_of_over (wedged.nobody ticket)
        · rw [wedged.nobody ticket] at waits
          cases waits
      rw [same]
      exact ⟨wedged, rfl⟩
  | drain => exact ⟨wedged.drain, rfl⟩
  | close reason => cases silent

theorem performAll (wedged : channel.Wedged) {actions : List ChannelAction}
    (silent : ∀ action ∈ actions, action.isSilent = true) :
    (channel.performAll actions).Wedged ∧
      (channel.performAll actions).outbox = channel.outbox := by
  induction actions generalizing channel with
  | nil => exact ⟨wedged, rfl⟩
  | cons action rest ih =>
      obtain ⟨first, outbox⟩ := wedged.perform (silent action List.mem_cons_self)
      obtain ⟨behind, laterOutbox⟩ :=
        ih first fun other member => silent other (List.mem_cons_of_mem _ member)
      exact ⟨behind, laterOutbox.trans outbox⟩

end Wedged

structure Forsaken (channel : Channel) (count : Nat) : Prop where
  isOpen : channel.table.closed = none
  accepting : channel.table.draining = false
  idle : channel.table.waiters = []
  resting : channel.heartbeat.asked? = none
  orphans : channel.table.orphans.length = count

theorem Forsaken.wedged (limited : channel.Limited maxRequests maxOrphans)
    (forsaken : channel.Forsaken maxRequests) : channel.Wedged := by
  have accounted := limited.valid.whileOpen forsaken.isOpen
  have full : channel.table.held.length = channel.table.ids.capacity := by
    unfold held
    rw [forsaken.idle, limited.capacity]
    exact forsaken.orphans
  exact ⟨forsaken.isOpen, ⟨accounted, limited.bounded, full, fun _ waits => waits⟩,
    forsaken.idle, forsaken.resting⟩

theorem Forsaken.next {count : Nat} (limited : channel.Limited maxRequests maxOrphans)
    (forsaken : channel.Forsaken count) (free : count < maxRequests) (borne : count < maxOrphans) :
    ∃ actions, (channel.performAll actions).Forsaken (count + 1) := by
  have accounted := limited.valid.whileOpen forsaken.isOpen
  have room : channel.table.reserve.1 ≠ none := by
    intro full
    have taken := (limited.starved forsaken.isOpen full).orphans_of_idle forsaken.idle
    rw [limited.capacity, forsaken.orphans] at taken
    omega
  cases reserved : channel.table.reserve with
  | mk given after =>
      cases given with
      | none =>
          rw [reserved] at room
          exact absurd rfl room
      | some ticket =>
          obtain ⟨_, _, same⟩ := reserve_eq_some reserved
          let sent : Channel := { channel with table := after }.post ticket .query []
          have sends : (channel.send .query []).2 = sent := by
            unfold Channel.send
            rw [send_open channel.address forsaken.isOpen forsaken.accepting, reserved]
          have waiters : sent.table.waiters = [(ticket.stream, ticket.request)] := by
            change after.waiters = _
            rw [same, forsaken.idle]
            rfl
          have waits : sent.table.isWaiting ticket = true := by
            rw [isWaiting_iff, waiters]
            exact if_pos rfl
          have bears : sent.table.orphans.length < sent.table.maxOrphans := by
            change after.orphans.length < after.maxOrphans
            rw [same]
            change channel.table.orphans.length < channel.table.limits.2
            rw [forsaken.orphans, limited.limits]
            exact borne
          refine ⟨[.send .query [], .drop ticket], ?_⟩
          change ((channel.send .query []).2.abandon ticket).2.Forsaken (count + 1)
          rw [sends, abandon_of_room waits bears, orphan_of_waiting waits]
          refine ⟨?_, ?_, ?_, forsaken.resting, ?_⟩
          · change after.closed = none
            rw [same]
            exact forsaken.isOpen
          · change after.draining = false
            rw [same]
            exact forsaken.accepting
          · change sent.table.waiters.erase ticket.stream = []
            rw [waiters]
            exact List.filter_cons_of_neg (by simp)
          · change (ticket.stream :: after.orphans).length = count + 1
            rw [same, List.length_cons, forsaken.orphans]

theorem exists_forsaken (limited : channel.Limited maxRequests maxOrphans)
    (forsaken : channel.Forsaken 0) {count : Nat} (free : count ≤ maxRequests)
    (borne : count ≤ maxOrphans) : ∃ actions, (channel.performAll actions).Forsaken count := by
  induction count with
  | zero => exact ⟨[], forsaken⟩
  | succ count ih =>
      obtain ⟨before, given⟩ := ih (by omega) (by omega)
      obtain ⟨last, more⟩ := given.next (limited.performAll before) (by omega) (by omega)
      refine ⟨before ++ last, ?_⟩
      rw [performAll_append]
      exact more

end Channel

theorem PoolSettings.build_small {settings : PoolSettings} {pool : PoolConfig}
    (built : settings.build = .ok pool) : pool.maxRequestsPerChannel ≤ 0x8000 := by
  unfold build at built
  dsimp only at built
  split at built
  · cases built
  · split at built
    · cases built
    · rename_i small
      split at built
      · cases built
      · cases built
        exact Nat.le_of_not_lt fun large => small (.inr large)

namespace Channel

def ofPool (config : DriverConfig) (version : ProtocolVersion)
    (authenticator : Option Authenticator) (wantsEvents : Bool) (address : SocketAddress)
    (unread : List UInt8) (now : Nat) : Channel :=
  .start address { ChannelConfig.ofDriver config version with authenticator, wantsEvents }
    unread now

theorem ofPool_limited {settings : PoolSettings} {config : DriverConfig}
    (built : settings.build = .ok config.pool) (version : ProtocolVersion)
    (authenticator : Option Authenticator) (wantsEvents : Bool) (address : SocketAddress)
    (unread : List UInt8) (now : Nat) :
    (ofPool config version authenticator wantsEvents address unread now).Limited
      config.pool.maxRequestsPerChannel config.pool.maxOrphanedStreams :=
  ⟨(new_accounted _ _).valid rfl, rfl, PoolSettings.build_small built⟩

/-- Of the pool configurations that are accepted, those with fewer orphans borne than
streams keep every open channel usable. With the others there is a way to a channel that
stays open, turns every caller away and writes nothing any more, as long as the server is
silent. -/
theorem usable_or_wedged {settings : PoolSettings} {config : DriverConfig}
    (built : settings.build = .ok config.pool) (version : ProtocolVersion)
    (authenticator : Option Authenticator) (wantsEvents : Bool) (address : SocketAddress)
    (unread : List UInt8) (now : Nat) :
    let start := ofPool config version authenticator wantsEvents address unread now
    (config.pool.maxOrphanedStreams < config.pool.maxRequestsPerChannel → ∀ actions,
      (start.performAll actions).table.closed = none →
        (start.performAll actions).Usable config.pool.maxRequestsPerChannel) ∧
    (config.pool.maxRequestsPerChannel ≤ config.pool.maxOrphanedStreams → ∃ actions,
      ∀ more : List ChannelAction, (∀ action ∈ more, action.isSilent = true) →
        let later := (start.performAll actions).performAll more
        later.table.closed = none ∧ later.table.waiters = [] ∧
        later.table.orphans.length = config.pool.maxRequestsPerChannel ∧
        later.outbox = (start.performAll actions).outbox ∧
        ∀ opcode body, (later.send opcode body).1 =
          .error (if later.table.draining then .channelClosed "channel is draining"
            else .busy later.address)) := by
  intro start
  have limited := ofPool_limited built version authenticator wantsEvents address unread now
  constructor
  · intro fewer actions isOpen
    exact (limited.performAll actions).usable fewer isOpen
  · intro many
    obtain ⟨actions, forsaken⟩ := exists_forsaken limited ⟨rfl, rfl, rfl, rfl, rfl⟩
      (Nat.le_refl _) many
    refine ⟨actions, ?_⟩
    intro more silent later
    obtain ⟨wedged, outbox⟩ :=
      (forsaken.wedged (limited.performAll actions)).performAll silent
    have capacity := ((limited.performAll actions).performAll more).capacity
    refine ⟨wedged.isOpen, wedged.idle, wedged.orphans_length.trans capacity, outbox, ?_⟩
    intro opcode body
    rw [wedged.send]

def someNode : SocketAddress := { ip := .ofParts 10 0 0 1, port := 9042 }

def driverWith (pool : PoolConfig) : DriverConfig :=
  { network := {}, pool, reconnection := {}, speculation := {}, profiles := default,
    credentials := none, replicationFactor := 1, retryServerErrors := false }

def roomy : PoolSettings := { maxRequestsPerChannel := some 4, maxOrphanedStreams := some 1 }

theorem usable_beside_one_orphan :
    roomy.build = .ok { maxRequestsPerChannel := 4, maxOrphanedStreams := 1 } ∧
      ((ofPool (driverWith { maxRequestsPerChannel := 4, maxOrphanedStreams := 1 }) .v4 none
        false someNode [] 0).performAll
          [.send .query [], .send .query [], .drop ⟨0, 1⟩]).Usable 4 := by
  have built : roomy.build =
      .ok (driverWith { maxRequestsPerChannel := 4, maxOrphanedStreams := 1 }).pool := rfl
  exact ⟨built, (usable_or_wedged built .v4 none false someNode [] 0).1 (by decide) _ rfl⟩

def tight : PoolSettings := { maxRequestsPerChannel := some 2 }

def forsakenTwice : List ChannelAction :=
  [.send .query [], .send .query [], .drop ⟨0, 1⟩, .drop ⟨1, 2⟩, .beat (Span.ofSecs 30).nanos]

theorem two_orphans_wedge :
    tight.build = .ok { maxRequestsPerChannel := 2 } ∧
      let channel := (ofPool (driverWith { maxRequestsPerChannel := 2 }) .v4 none false
        someNode [] 0).performAll forsakenTwice
      channel.table.closed = none ∧ channel.table.orphans = [1, 0] ∧
        channel.table.waiters = [] ∧ channel.table.reserve.1 = none ∧
        channel.heartbeat = .resting (Span.ofSecs 60).nanos ∧
        (channel.send .query []).1 = .error (.busy someNode) := by
  exact ⟨rfl, rfl, rfl, rfl, rfl, rfl, rfl⟩

end Channel

end CqlDriver
