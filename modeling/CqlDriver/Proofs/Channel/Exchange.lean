/-
A channel and its server. Callers send requests and give them up, the channel asks for
signs of life, the server answers each request at most once and in any order, and the
channel drains and closes: all of this at any time.
-/

import CqlDriver.Proofs.Channel.Parts

namespace CqlDriver

structure Exchange where
  channel : Channel
  issued : List Ticket := []
  unanswered : List Ticket := []

/-- What can happen. Whoever gives a request up may do so before or after the answer,
and also when another request has taken the stream. -/
inductive ExchangeAction where
  | send (opcode : Opcode) (body : List UInt8)
  | beat (now : Nat)
  | answer (now : Nat) (ticket : Ticket) (received : Frame.Received)
  | push (now : Nat) (frame : Frame)
  | drop (ticket : Ticket)
  | drain
  | close (reason : String)

namespace Heartbeat

def newlyAsked (earlier later : Heartbeat) : List Ticket :=
  match earlier.asked? with
  | some _ => []
  | none => later.asked?.toList

theorem newlyAsked_same {earlier later : Heartbeat} (same : later.asked? = earlier.asked?) :
    earlier.newlyAsked later = [] := by
  unfold newlyAsked
  rw [same]
  cases earlier.asked? with
  | none => rfl
  | some ticket => rfl

theorem newlyAsked_asked {earlier : Heartbeat} {ticket : Ticket}
    (asked : earlier.asked? = some ticket) (later : Heartbeat) :
    earlier.newlyAsked later = [] := by
  unfold newlyAsked
  rw [asked]

theorem newlyAsked_resting {earlier : Heartbeat} (resting : earlier.asked? = none)
    (later : Heartbeat) : earlier.newlyAsked later = later.asked?.toList := by
  unfold newlyAsked
  rw [resting]

end Heartbeat

namespace Exchange

def start (address : SocketAddress) (config : ChannelConfig) (unread : List UInt8) (now : Nat) :
    Exchange :=
  { channel := .start address config unread now }

def issue (tickets : List Ticket) (channel : Channel) (exchange : Exchange) : Exchange :=
  { channel
    issued := tickets ++ exchange.issued
    unanswered := tickets ++ exchange.unanswered }

/-- One action. The server answers no request twice, and only on its stream. -/
def step (exchange : Exchange) : ExchangeAction → Exchange
  | .send opcode body =>
      match exchange.channel.send opcode body with
      | (.ok ticket, channel) => exchange.issue [ticket] channel
      | (.error _, channel) => { exchange with channel }
  | .beat now =>
      let channel := (exchange.channel.beat now).2
      exchange.issue (exchange.channel.heartbeat.newlyAsked channel.heartbeat) channel
  | .answer now ticket received =>
      if ticket ∈ exchange.unanswered ∧ received.stream = ticket.stream then
        { exchange with
          channel := (Channel.acceptReceived now ({}, exchange.channel) received).2
          unanswered := exchange.unanswered.erase ticket }
      else exchange
  | .push now frame =>
      if frame.isPush then
        { exchange with
          channel := (Channel.acceptReceived now ({}, exchange.channel) (.frame frame)).2 }
      else exchange
  | .drop ticket => { exchange with channel := (exchange.channel.abandon ticket).2 }
  | .drain => { exchange with channel := exchange.channel.drain }
  | .close reason => { exchange with channel := (exchange.channel.close reason).2 }

def run (exchange : Exchange) (actions : List ExchangeAction) : Exchange :=
  actions.foldl step exchange

def Sound (exchange : Exchange) : Prop :=
  exchange.channel.Serving exchange.issued exchange.unanswered

end Exchange

namespace Channel

variable {before after : Channel} {issued outstanding : List Ticket} {ticket : Ticket}

namespace Serving

theorem issue (serving : before.Serving issued outstanding)
    (isOpen : before.table.closed = none)
    (reserved : before.table.reserve = (some ticket, after.table))
    (asked : ∀ other, after.heartbeat.asked? = some other →
      other = ticket ∨ before.heartbeat.asked? = some other) :
    after.Serving (ticket :: issued) (ticket :: outstanding) := by
  have accounted := serving.linked.valid.whileOpen isOpen
  obtain ⟨_, _, number, same⟩ := accounted.reserve_some reserved
  have numbers : after.table.accepted = ticket.request := by
    rw [same]
  refine ⟨serving.linked.reserve_some isOpen reserved, ?_, ?_, ?_, ?_⟩
  · exact List.cons_subset_cons ticket serving.known
  · intro other member
    rcases List.mem_cons.mp member with new | old
    · exact Nat.le_of_eq ((congrArg Ticket.request new).trans numbers.symm)
    · have earlier := serving.numbered other old
      omega
  · rw [List.map_cons, List.nodup_cons]
    refine ⟨?_, serving.distinct⟩
    intro repeated
    obtain ⟨other, old, sameNumber⟩ := List.mem_map.mp repeated
    have earlier := serving.numbered other old
    omega
  · intro other asks
    rcases asked other asks with new | old
    · exact List.mem_cons.mpr (Or.inl new)
    · exact List.mem_cons_of_mem _ (serving.asked other old)

theorem turnAway (serving : before.Serving issued outstanding)
    (isOpen : before.table.closed = none)
    (refused : before.table.reserve = (none, after.table))
    (asked : ∀ other, after.heartbeat.asked? = some other →
      before.heartbeat.asked? = some other) : after.Serving issued outstanding := by
  obtain ⟨_, same, _⟩ := (serving.linked.valid.whileOpen isOpen).reserve_none refused
  apply serving.keep (serving.linked.reserve_none isOpen refused) (List.Subset.refl _)
  · exact Nat.le_of_eq (congrArg StreamTable.accepted same).symm
  · exact asked

theorem send (serving : before.Serving issued outstanding) (opcode : Opcode) (body : List UInt8) :
    match before.send opcode body with
    | (.ok ticket, after) => after.Serving (ticket :: issued) (ticket :: outstanding)
    | (.error _, after) => after.Serving issued outstanding := by
  rcases before.send_parts opcode body with
    ⟨error, table, sent, same | ⟨isOpen, refused⟩⟩ | ⟨ticket, table, isOpen, reserved, sent⟩
  · rw [sent, same]
    exact serving
  · rw [sent]
    exact serving.turnAway isOpen refused fun _ asked => asked
  · rw [sent]
    exact serving.issue isOpen reserved fun _ asked => Or.inr asked

theorem withHeartbeat (serving : before.Serving issued outstanding) (heartbeat : Heartbeat)
    (asked : ∀ ticket, heartbeat.asked? = some ticket → before.heartbeat.asked? = some ticket) :
    Channel.Serving { before with heartbeat } issued outstanding :=
  ⟨serving.linked, serving.known, serving.numbered, serving.distinct,
    fun ticket asks => serving.asked ticket (asked ticket asks)⟩

theorem drain (serving : before.Serving issued outstanding) :
    before.drain.Serving issued outstanding :=
  serving.keep (serving.linked.keep serving.linked.valid.drain rfl rfl rfl)
    (List.Subset.refl _) (Nat.le_refl _) fun _ asked => asked

theorem push_missing (serving : before.Serving issued outstanding) {frame : Frame}
    (push : frame.isPush = true) : before.table.waiters.find? frame.stream = none := by
  cases found : before.table.waiters.find? frame.stream with
  | none => rfl
  | some request =>
      have waits := StreamTable.isWaiting_of_find? found
      have isOpen := serving.linked.valid.open_of_isWaiting waits
      have positive := serving.stream_nonneg isOpen (serving.linked.awaited _ waits)
      have negative := Int16.lt_iff_toInt_lt.mp (of_decide_eq_true push)
      exact absurd positive (Int.not_le.mpr negative)

theorem push (serving : before.Serving issued outstanding) (now : Nat) {frame : Frame}
    (push : frame.isPush = true) :
    (acceptReceived now ({}, before) (.frame frame)).2.Serving issued outstanding := by
  have reading := serving.readAt now
  unfold acceptReceived
  dsimp only
  by_cases closed : before.isClosed = true
  · rw [if_pos closed]
    exact serving
  · rw [if_neg closed]
    unfold Channel.accept
    dsimp only
    by_cases compressed : frame.isCompressed = true
    · rw [if_pos compressed]
      have unchanged (error : DriverError) :
          before.table.failStream frame.stream error = (none, before.table) := by
        unfold StreamTable.failStream
        rw [serving.push_missing push]
      unfold Channel.failAndClose
      dsimp only
      rw [unchanged]
      exact reading.close _
    · rw [if_neg compressed, if_pos push]
      split
      · split
        · exact reading
        · exact reading
      · exact reading

theorem askForSign (serving : before.Serving issued outstanding)
    (isOpen : before.table.closed = none) (now : Nat) :
    (before.askForSign now).Serving
      ((before.askForSign now).heartbeat.asked?.toList ++ issued)
      ((before.askForSign now).heartbeat.asked?.toList ++ outstanding) := by
  rcases before.askForSign_parts now with
    ⟨table, heartbeat, rests, refused, same⟩ | ⟨ticket, table, heartbeat, asks, reserved, same⟩
  · have nothing : (before.askForSign now).heartbeat.asked? = none := by
      rw [same]
      exact rests
    rw [nothing, same]
    apply serving.turnAway isOpen refused
    intro other asked
    exact nomatch rests.symm.trans asked
  · have own : (before.askForSign now).heartbeat.asked? = some ticket := by
      rw [same]
      exact asks
    rw [own, same]
    apply serving.issue isOpen reserved
    intro other asked
    exact Or.inl (Option.some.inj (asks.symm.trans asked)).symm

theorem beat (serving : before.Serving issued outstanding) (now : Nat) :
    (before.beat now).2.Serving
      (before.heartbeat.newlyAsked (before.beat now).2.heartbeat ++ issued)
      (before.heartbeat.newlyAsked (before.beat now).2.heartbeat ++ outstanding) := by
  by_cases isOpen : before.table.closed = none
  · rcases before.beat_parts now isOpen with
      ⟨later, kept, same⟩ | ⟨resting, same⟩ | ⟨ticket, asked, same⟩
    · rw [same, Heartbeat.newlyAsked_same kept]
      exact serving.withHeartbeat later fun _ asked => kept.symm.trans asked
    · rw [same, Heartbeat.newlyAsked_resting resting]
      exact serving.askForSign isOpen now
    · rw [same, Heartbeat.newlyAsked_asked asked]
      have stopped := serving.withHeartbeat .stopped fun _ asked => by cases asked
      exact (stopped.keep_abandon ticket).close _
  · rw [beat_closed now isOpen, Heartbeat.newlyAsked_same rfl]
    exact serving

end Serving

end Channel

namespace Exchange

theorem start_sound (address : SocketAddress) (config : ChannelConfig) (unread : List UInt8)
    (now : Nat) : (start address config unread now).Sound := by
  refine ⟨⟨?_, List.nodup_nil, ?_, ?_⟩, List.Subset.refl _, ?_, List.nodup_nil, ?_⟩
  · exact (StreamTable.new_accounted config.maxRequests config.maxOrphans).valid rfl
  · intro ticket waits
    cases waits
  · intro _ ticket member
    cases member
  · intro ticket member
    cases member
  · intro ticket asked
    cases asked

theorem step_sound {exchange : Exchange} (sound : exchange.Sound) (action : ExchangeAction) :
    (exchange.step action).Sound := by
  cases action with
  | send opcode body =>
      have sent := Channel.Serving.send sound opcode body
      unfold step
      dsimp only
      split
      · rename_i ticket channel given
        rw [given] at sent
        exact sent
      · rename_i error channel refused
        rw [refused] at sent
        exact sent
  | beat now => exact Channel.Serving.beat sound now
  | answer now ticket received =>
      unfold step
      dsimp only
      split
      · rename_i allowed
        exact (Channel.Serving.answer sound allowed.1 now allowed.2).2
      · exact sound
  | push now frame =>
      unfold step
      dsimp only
      split
      · rename_i push
        exact Channel.Serving.push sound now push
      · exact sound
  | drop ticket => exact Channel.Serving.keep_abandon sound ticket
  | drain => exact Channel.Serving.drain sound
  | close reason => exact Channel.Serving.close sound reason

theorem run_sound {exchange : Exchange} (sound : exchange.Sound)
    (actions : List ExchangeAction) : (exchange.run actions).Sound := by
  induction actions generalizing exchange with
  | nil => exact sound
  | cons action rest ih => exact ih (step_sound sound action)

/-- At any time of any run: no two requests have a number in common, whoever waits was
not answered yet, the answer to a request reaches its caller or the heartbeat that made
it, if that still waits, and no other, and whoever gives a request up takes no stream
from another one. Others are ended only together with the channel: by an answer that
cannot be accepted, or by one orphan more than the channel bears. -/
theorem answers_reach_their_requests (address : SocketAddress) (config : ChannelConfig)
    (unread : List UInt8) (opened : Nat) (actions : List ExchangeAction) :
    let exchange := (start address config unread opened).run actions
    let channel := exchange.channel
    (exchange.issued.map Ticket.request).Nodup ∧
      (∀ ticket, channel.table.isWaiting ticket = true →
        ticket ∈ exchange.unanswered ∧ ticket ∈ exchange.issued) ∧
      (∀ ticket, channel.heartbeat.asked? = some ticket → ticket ∈ exchange.issued) ∧
      (∀ ticket ∈ exchange.unanswered, ∀ received : Frame.Received,
        received.stream = ticket.stream → ∀ now,
          channel.Delivered ticket received.result
            (Channel.acceptReceived now ({}, channel) received).1.outcomes
            (Channel.acceptReceived now ({}, channel) received).2) ∧
      ∀ ticket, channel.Dropped ticket (channel.abandon ticket).1 (channel.abandon ticket).2 := by
  intro exchange channel
  have sound : exchange.Sound := run_sound (start_sound address config unread opened) actions
  refine ⟨sound.distinct, ?_, sound.asked, ?_, ?_⟩
  · intro ticket waits
    have unanswered := sound.linked.awaited ticket waits
    exact ⟨unanswered, sound.known unanswered⟩
  · intro ticket unanswered received same now
    exact (Channel.Serving.answer sound unanswered now same).1
  · intro ticket
    exact Channel.Serving.abandon sound ticket

def someServer : SocketAddress := { ip := .ofParts 10 0 0 1, port := 9042 }

def narrowConfig : ChannelConfig :=
  { version := .v4
    connectTimeout := .ofMillis 500
    heartbeatInterval := .ofSecs 30
    heartbeatTimeout := .ofSecs 5
    maxRequests := 4
    maxOrphans := 1 }

def someRequest : ExchangeAction := .send .query []

def someAnswer (stream : Int16) : Frame := .response 4 stream .result []

/-- A request is answered and its stream is taken by another one; a third request is
given up. -/
def reuse : List ExchangeAction :=
  [someRequest, someRequest, .answer 7 ⟨0, 1⟩ (.frame (someAnswer 0)), someRequest,
    .drop ⟨1, 2⟩]

/-- Giving up the request that is over leaves the one that has its stream now. Both the
answer to this one and the late answer to the orphan go where they belong. -/
theorem late_answers_after_reuse :
    let channel := ((start someServer narrowConfig [] 0).run reuse).channel
    (channel.abandon ⟨0, 1⟩).2.table.isWaiting ⟨0, 3⟩ = true ∧
      (Channel.acceptReceived 9 ({}, channel) (.frame (someAnswer 0))).1.outcomes =
        [{ request := 3, result := .ok (someAnswer 0) }] ∧
      (Channel.acceptReceived 9 ({}, channel) (.frame (someAnswer 1))).1.outcomes = [] := by
  intro channel
  obtain ⟨_, _, _, delivered, dropped⟩ :=
    answers_reach_their_requests someServer narrowConfig [] 0 reuse
  have own := delivered ⟨0, 3⟩ (by decide) (.frame (someAnswer 0)) rfl 9
  have late := delivered ⟨1, 2⟩ (by decide) (.frame (someAnswer 1)) rfl 9
  refine ⟨?_, ?_, ?_⟩
  · rw [((dropped ⟨0, 1⟩).stale (by decide)).2]
    decide
  · rw [(own.ordinary (someAnswer 0) rfl).2]
    exact if_pos (by decide)
  · rw [(late.ordinary (someAnswer 1) rfl).2]
    exact if_neg (by decide)

def orphanAtLimit : List ExchangeAction :=
  [someRequest, someRequest, someRequest, .drop ⟨0, 1⟩]

/-- Giving a request up can end another one, as one orphan too many closes the channel. -/
theorem drop_ends_another :
    let channel := ((start someServer narrowConfig [] 0).run orphanAtLimit).channel
    channel.table.isWaiting ⟨2, 3⟩ = true ∧
      (channel.abandon ⟨1, 2⟩).2.table.isWaiting ⟨2, 3⟩ = false := by
  decide

end Exchange

end CqlDriver
