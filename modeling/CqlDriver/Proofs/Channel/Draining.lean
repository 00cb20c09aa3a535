/-
A channel that drains. It takes no request of a caller any more, and those that wait become
fewer. The watch over signs of life goes on as before: whenever one is due it asks for it, and
then one request more waits that was not there when the drain began.
-/

import CqlDriver.Proofs.Channel.Fates
import CqlDriver.Proofs.Channel.Lasting

namespace CqlDriver

namespace StreamTable

structure Joined (joining : List Ticket) (before after : StreamTable) : Prop where
  waits : ∀ ticket, after.isWaiting ticket = true →
    before.isWaiting ticket = true ∨ ticket ∈ joining
  count : before.accepted ≤ after.accepted

variable {joining : List Ticket} {before after later : StreamTable}

theorem Joined.of_same (waiters : after.waiters = before.waiters)
    (accepted : after.accepted = before.accepted) : Joined joining before after := by
  refine ⟨fun ticket waits => .inl ?_, Nat.le_of_eq accepted.symm⟩
  unfold isWaiting at waits ⊢
  rw [← waiters]
  exact waits

theorem Joined.refl (joining : List Ticket) (table : StreamTable) : Joined joining table table :=
  .of_same rfl rfl

theorem Joined.trans (first : Joined [] before after) (second : Joined joining after later) :
    Joined joining before later := by
  refine ⟨fun ticket waits => ?_, Nat.le_trans first.count second.count⟩
  cases second.waits ticket waits with
  | inl waited => exact .inl ((first.waits ticket waited).resolve_right List.not_mem_nil)
  | inr joins => exact .inr joins

theorem Joined.of_erase {stream : Int16} (erased : after.waiters = before.waiters.erase stream)
    (same : after.accepted = before.accepted) : Joined joining before after :=
  ⟨fun ticket waits => .inl ((isWaiting_erase erased ticket).mp waits).1, Nat.le_of_eq same.symm⟩

theorem complete_joined (frame : Frame) (table : StreamTable) :
    Joined joining table (table.complete frame).2 := by
  unfold complete
  split
  · exact .of_erase rfl rfl
  · split
    · exact .of_same rfl rfl
    · exact .refl joining table

theorem failStream_joined (stream : Int16) (error : DriverError) (table : StreamTable) :
    Joined joining table (table.failStream stream error).2 := by
  unfold failStream
  split
  · exact .of_erase rfl rfl
  · exact .refl joining table

theorem close_joined (reason : String) (table : StreamTable) :
    Joined joining table (table.close reason).2 := by
  unfold close
  split
  · exact .refl joining table
  · refine ⟨fun ticket waits => ?_, Nat.le_refl _⟩
    cases waits

theorem reserve_joined {table : StreamTable} (seated : table.Seated)
    (isOpen : table.closed = none) :
    Joined table.reserve.1.toList table table.reserve.2 := by
  cases reserved : table.reserve with
  | mk given after =>
      cases given with
      | none =>
          rw [(seated.reserve_none reserved).2]
          exact .of_same rfl rfl
      | some ticket =>
          obtain ⟨_, number, same, waiting⟩ := seated.reserve_some isOpen reserved
          refine ⟨fun other waits => ?_, by dsimp only; omega⟩
          cases (waiting other).mp waits with
          | inl isNew => exact .inr (Option.mem_toList.mpr (congrArg some isNew.symm))
          | inr waited => exact .inl waited

end StreamTable

def Channel.isSignDue (now : Nat) (channel : Channel) : Bool :=
  !channel.isClosed &&
    decide (channel.heartbeat.turn channel.config.heartbeatInterval.nanos now
      channel.lastRead = .ask)

def ChannelMove.asks? (channel : Channel) : ChannelMove → Option Ticket
  | .whole (.beat now) => if channel.isSignDue now then channel.table.reserve.1 else none
  | _ => none

namespace Channel

open StreamTable

variable {channel : Channel} {joining : List Ticket}

theorem orphan_joined (ticket : Ticket) (channel : Channel) :
    Joined joining channel.table (channel.orphan ticket).table := by
  unfold orphan
  split
  · exact .of_erase rfl rfl
  · exact .refl joining channel.table

theorem abandon_joined (ticket : Ticket) (channel : Channel) :
    Joined joining channel.table (channel.abandon ticket).2.table := by
  rcases channel.abandon_parts ticket with same | ⟨_, same⟩
  · rw [same]
    exact orphan_joined ticket channel
  · rw [same]
    exact (orphan_joined ticket channel).trans (close_joined orphansReason _)

theorem receive_joined (now : Nat) (finding : Frame.Received) (channel : Channel) :
    Joined joining channel.table (acceptReceived now ({}, channel) finding).2.table := by
  by_cases isOpen : channel.table.closed = none
  · obtain ⟨read, isRead, parts⟩ := channel.receive_parts now finding isOpen
    rw [← (read_keeps isRead).1]
    rcases parts with ⟨_, after⟩ | ⟨frame, _, after⟩ | ⟨error, reason, _, _, after⟩
    · rw [after]
      exact .refl joining read.table
    · rw [after]
      exact complete_joined frame read.table
    · rw [after, failAndClose_eq]
      exact (failStream_joined finding.stream error read.table).trans (close_joined reason _)
  · rw [receive_closed now finding isOpen]
    exact .refl joining channel.table

theorem expire_joined (now : Nat) (channel : Channel) :
    Joined joining channel.table (channel.expire now).table := by
  rcases channel.expire_parts now with same | ⟨ticket, _, same⟩
  · rw [same]
    exact .refl joining channel.table
  · rw [same]
    exact orphan_joined ticket channel.stopWatch

theorem send_joined (seated : channel.table.Seated) (opcode : Opcode) (body : List UInt8) :
    Joined (channel.send opcode body).1.toOption.toList channel.table
      (channel.send opcode body).2.table := by
  rcases channel.send_parts opcode body with
    ⟨_, table, sent, same | ⟨isOpen, refused⟩⟩ | ⟨ticket, table, isOpen, reserved, sent⟩
  · rw [sent, same]
    exact .refl [] channel.table
  · have joins := reserve_joined seated isOpen
    rw [refused] at joins
    rw [sent]
    exact joins
  · have joins := reserve_joined seated isOpen
    rw [reserved] at joins
    rw [sent]
    exact joins

theorem isSignDue_iff {now : Nat} : channel.isSignDue now = true ↔
    channel.table.closed = none ∧ channel.heartbeat.turn
      channel.config.heartbeatInterval.nanos now channel.lastRead = .ask := by
  unfold isSignDue
  rw [Bool.and_eq_true, Bool.not_eq_true', decide_eq_true_iff]
  apply and_congr_left'
  rw [← Bool.not_eq_true, isClosed_iff, not_not]

theorem beat_of_due {now : Nat} (due : channel.isSignDue now = true) :
    channel.beat now = ([], channel.askForSign now) := by
  obtain ⟨isOpen, turn⟩ := isSignDue_iff.mp due
  unfold beat
  rw [if_neg fun closed => isClosed_iff.mp closed isOpen, turn]

theorem beat_joined (seated : channel.table.Seated) (now : Nat) :
    Joined (ChannelMove.asks? channel (.whole (.beat now))).toList channel.table
      (channel.beat now).2.table := by
  unfold ChannelMove.asks?
  dsimp only
  by_cases due : channel.isSignDue now = true
  · rw [if_pos due, beat_of_due due, table_askForSign]
    exact reserve_joined seated (isSignDue_iff.mp due).1
  · by_cases isOpen : channel.table.closed = none
    · have turned : channel.heartbeat.turn channel.config.heartbeatInterval.nanos now
          channel.lastRead ≠ .ask := fun ask => due (isSignDue_iff.mpr ⟨isOpen, ask⟩)
      unfold beat
      rw [if_neg fun closed => isClosed_iff.mp closed isOpen]
      cases turn : channel.heartbeat.turn channel.config.heartbeatInterval.nanos now
          channel.lastRead with
      | rest heartbeat => exact .of_same rfl rfl
      | ask => exact absurd turn turned
      | giveUp asked =>
          exact (abandon_joined asked channel.stopWatch).trans
            (close_joined channel.noSign.message _)
    · rw [beat_closed now isOpen]
      exact .refl _ channel.table

end Channel

namespace ChannelMove

open StreamTable

variable {channel : Channel}

theorem asks?_eq_some {move : ChannelMove} {ticket : Ticket}
    (asks : move.asks? channel = some ticket) :
    ∃ now, move = .whole (.beat now) ∧ channel.isSignDue now = true ∧
      channel.table.reserve.1 = some ticket := by
  unfold asks? at asks
  split at asks
  · rename_i now
    split at asks
    · rename_i due
      exact ⟨now, rfl, due, asks⟩
    · cases asks
  · cases asks

/-- With one move nobody joins those who wait but a request that is accepted from a caller, and
the one by which the watch asks for a sign of life. -/
theorem perform_joined (seated : channel.table.Seated) (move : ChannelMove) :
    Joined ((move.perform channel).1.accepted ++ (move.asks? channel).toList) channel.table
      (move.perform channel).2.table := by
  cases move with
  | whole action =>
      cases action with
      | send opcode body =>
          have joins := Channel.send_joined seated opcode body
          rw [← List.append_nil (Option.toList _)] at joins
          exact joins
      | receive now finding => exact Channel.receive_joined now finding channel
      | beat now => exact Channel.beat_joined seated now
      | drop ticket => exact Channel.abandon_joined ticket channel
      | drain => exact ⟨fun _ => .inl, Nat.le_refl _⟩
      | close reason => exact close_joined reason channel.table
  | noteRead now => exact .refl _ channel.table
  | fail stream error => exact failStream_joined stream error channel.table
  | orphan ticket => exact Channel.orphan_joined ticket channel
  | expire now => exact Channel.expire_joined now channel

theorem draining_perform_of_draining (draining : channel.table.draining = true)
    (move : ChannelMove) : (move.perform channel).2.table.draining = true := by
  cases drains : move.isDrain with
  | false => exact (draining_perform drains channel).trans draining
  | true =>
      unfold isDrain at drains
      split at drains
      · rfl
      · cases drains

theorem accepted_of_draining (draining : channel.table.draining = true) (move : ChannelMove) :
    (move.perform channel).1.accepted = [] := by
  cases move with
  | whole action =>
      cases action with
      | send opcode body =>
          rw [perform_send]
          unfold Channel.send StreamTable.send
          cases channel.table.closed with
          | none =>
              rw [if_pos draining]
              rfl
          | some reason => rfl
      | receive | beat | drop | drain | close => rfl
  | noteRead | fail | orphan | expire => rfl

end ChannelMove

namespace ChannelHistory

variable {history : ChannelHistory}

def asked (history : ChannelHistory) : List ChannelMove → List Ticket
  | [] => []
  | move :: rest => (move.asks? history.channel).toList ++ (history.perform move).asked rest

theorem Fair.asks_new (fair : history.Fair) {move : ChannelMove} {ticket : Ticket}
    (asks : move.asks? history.channel = some ticket) :
    ticket.request = history.channel.table.accepted + 1 ∧ ticket ∉ history.accepted := by
  have number : ticket.request = history.channel.table.accepted + 1 := by
    obtain ⟨_, _, _, reserved⟩ := ChannelMove.asks?_eq_some asks
    exact (StreamTable.reserve_eq_some (Prod.ext reserved rfl)).2.1
  refine ⟨number, fun accepted => ?_⟩
  have old := fair.numbered ticket accepted
  omega

theorem performAll_draining (draining : history.channel.table.draining = true)
    (moves : List ChannelMove) : (history.performAll moves).channel.table.draining = true := by
  induction moves generalizing history with
  | nil => exact draining
  | cons move rest ih => exact ih (ChannelMove.draining_perform_of_draining draining move)

theorem draining_performAll (fair : history.Fair)
    (draining : history.channel.table.draining = true) (moves : List ChannelMove) :
    let later := history.performAll moves
    later.accepted = history.accepted ∧ ∀ ticket,
      later.channel.table.isWaiting ticket = true →
        history.channel.table.isWaiting ticket = true ∨
          ticket ∈ history.asked moves ∧ ticket ∉ history.accepted := by
  induction moves generalizing history with
  | nil => exact ⟨rfl, fun ticket waits => .inl waits⟩
  | cons move rest ih =>
      have nobody := ChannelMove.accepted_of_draining draining move
      have accepted : (history.perform move).accepted = history.accepted := by
        change history.accepted ++ (move.perform history.channel).1.accepted = _
        rw [nobody, List.append_nil]
      obtain ⟨same, waiting⟩ := ih (perform_fair fair move)
        (ChannelMove.draining_perform_of_draining draining move)
      refine ⟨same.trans accepted, fun ticket waits => ?_⟩
      rw [accepted] at waiting
      unfold asked
      cases waiting ticket waits with
      | inl waited =>
          have joins := (ChannelMove.perform_joined fair.seated move).waits ticket waited
          rw [nobody, List.nil_append] at joins
          apply joins.imp_right
          intro asks
          exact ⟨List.mem_append_left _ asks, (fair.asks_new (Option.mem_toList.mp asks)).2⟩
      | inr asks => exact .inr ⟨List.mem_append_right _ asks.1, asks.2⟩

/-- After a drain has begun callers send nothing more, and fewer and fewer of them wait. Beside
them at most one request waits: the one by which the watch asks for a sign of life, since the
drain began. -/
theorem drain_adds_signs_alone (address : SocketAddress) (config : ChannelConfig)
    (unread : List UInt8) (now : Nat) (before first second : List ChannelMove) :
    let drained :=
      (start address config unread now).performAll (before ++ .whole .drain :: first)
    let later := drained.performAll second
    later.accepted = drained.accepted ∧ ∀ ticket,
      later.channel.table.isWaiting ticket = true →
        drained.channel.table.isWaiting ticket = true ∨
          ticket ∈ drained.asked second ∧ ticket ∉ drained.accepted ∧
            later.channel.heartbeat.asked? = some ticket := by
  intro drained later
  have fair : drained.Fair := performAll_fair (start_fair address config unread now) _
  have draining : drained.channel.table.draining = true := by
    rw [show drained = _ from performAll_append _ before _]
    exact performAll_draining rfl first
  obtain ⟨accepted, waiting⟩ := draining_performAll fair draining second
  refine ⟨accepted, fun ticket waits => ?_⟩
  cases waiting ticket waits with
  | inl before => exact .inl before
  | inr asks =>
      have claims := (performAll_fair fair second).claimed ticket waits
      have stranger : ticket ∉ later.accepted := accepted.symm ▸ asks.2
      exact .inr ⟨asks.1, asks.2, claims.resolve_left stranger⟩

/-- It is not true that fewer and fewer requests wait: here a sign of life becomes due during the
drain, and a second request waits beside the one of the caller. -/
theorem drain_can_grow : ¬ ∀ (address : SocketAddress) (config : ChannelConfig)
    (unread : List UInt8) (now : Nat) (before after : List ChannelMove) (ticket : Ticket),
    let drained := (start address config unread now).performAll (before ++ [.whole .drain])
    (drained.performAll after).channel.table.isWaiting ticket = true →
      drained.channel.table.isWaiting ticket = true := by
  intro shrinks
  have still := shrinks { ip := .ofParts 10 0 0 1, port := 9042 }
    { version := .v4
      connectTimeout := .ofMillis 500
      heartbeatInterval := .ofMillis 100
      heartbeatTimeout := .ofSecs 5
      maxRequests := 4
      maxOrphans := 0 } [] 0 [.whole (.send .query [])] [.whole (.beat (Span.ofMillis 100).nanos)] ⟨1, 2⟩
  revert still
  decide

end ChannelHistory

end CqlDriver
