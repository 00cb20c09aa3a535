/-
The watch over signs of life by the clock. Time passes no further than to the moment at which
the watch has to be looked at again, and what is done to the channel is done at the present time.
However the frames of the server come, no sign is asked for before one interval of silence, there
is one unanswered request for a sign at most, and a channel that had a free stream for every sign
is closed before the silence lasts longer than the interval and the time for the answer.
-/

import CqlDriver.Proofs.Channel.Watch

namespace CqlDriver

structure Sign where
  ticket : Ticket
  time : Nat
  heard : Nat

/-- What can happen: time passes up to a moment, or something is done at the present time. -/
inductive Happening where
  | pass (moment : Nat)
  | move (move : ChannelMove)

def Happening.isWhole : Happening → Bool
  | .pass _ => true
  | .move given => given.isWhole

def Happening.isOfWatch : Happening → Bool
  | .pass _ | .move (.whole (.beat _)) => true
  | .move _ => false

structure Vigil where
  history : ChannelHistory
  now : Nat
  /-- When the last frame came, or else when the channel was opened. -/
  heard : Nat
  signs : List Sign := []
  /-- Whether a sign of life was ever due when no stream was free. -/
  skipped : Bool := false

namespace Vigil

def start (address : SocketAddress) (config : ChannelConfig) (unread : List UInt8) (now : Nat) :
    Vigil :=
  { history := .start address config unread now, now, heard := now }

/-- Time does not pass over a moment at which the watch over an open channel has to be looked
at. -/
def mayPass (moment : Nat) (vigil : Vigil) : Bool :=
  decide (vigil.now ≤ moment) &&
    (vigil.history.channel.isClosed ||
      vigil.history.channel.heartbeat.alarm?.any fun alarm => decide (moment ≤ alarm))

def act (move : ChannelMove) (vigil : Vigil) : Vigil :=
  { vigil with
    history := vigil.history.perform move
    heard := if move.hears then vigil.now else vigil.heard
    signs := vigil.signs ++ (move.asks? vigil.history.channel).toList.map fun ticket =>
      { ticket, time := vigil.now, heard := vigil.heard }
    skipped := vigil.skipped || move.skips vigil.history.channel }

def step (vigil : Vigil) : Happening → Vigil
  | .pass moment => if vigil.mayPass moment then { vigil with now := moment } else vigil
  | .move move => vigil.act (move.timed vigil.now)

def run (vigil : Vigil) (happenings : List Happening) : Vigil := happenings.foldl step vigil

def unanswered (vigil : Vigil) : Nat :=
  vigil.signs.countP fun sign => vigil.history.channel.table.isWaiting sign.ticket

structure Kept (config : ChannelConfig) (vigil : Vigil) : Prop where
  fair : vigil.history.Fair
  past : vigil.heard ≤ vigil.now
  configured : vigil.history.channel.isClosed = false → vigil.history.channel.config = config
  lastRead : vigil.history.channel.isClosed = false →
    vigil.history.channel.lastRead = vigil.heard
  onTime : vigil.skipped = false → vigil.history.channel.isClosed = false →
    vigil.history.channel.heartbeat.OnTime config.heartbeatInterval.nanos
      config.heartbeatTimeout.nanos vigil.now vigil.heard

structure Signed (config : ChannelConfig) (vigil : Vigil) : Prop where
  late : ∀ sign ∈ vigil.signs, sign.heard + config.heartbeatInterval.nanos ≤ sign.time
  numbered : ∀ sign ∈ vigil.signs,
    sign.ticket.request ≤ vigil.history.channel.table.accepted
  distinct : (vigil.signs.map fun sign => sign.ticket.request).Nodup
  own : ∀ sign ∈ vigil.signs, sign.ticket ∉ vigil.history.accepted

def Watching (vigil : Vigil) : Prop :=
  vigil.history.channel.isClosed = false → vigil.history.channel.heartbeat ≠ .stopped

variable {vigil after : Vigil} {config : ChannelConfig} {move : ChannelMove} {ticket : Ticket}

theorem start_kept (address : SocketAddress) (config : ChannelConfig) (unread : List UInt8)
    (now : Nat) : (start address config unread now).Kept config where
  fair := ChannelHistory.start_fair address config unread now
  past := Nat.le_refl now
  configured := fun _ => rfl
  lastRead := fun _ => rfl
  onTime := fun _ _ => ⟨Nat.le_refl _, Nat.le_add_right _ _⟩

theorem start_signed (address : SocketAddress) (config : ChannelConfig) (unread : List UInt8)
    (now : Nat) : (start address config unread now).Signed config where
  late := nofun
  numbered := nofun
  distinct := List.nodup_nil
  own := nofun

theorem Kept.pass (kept : vigil.Kept config) {moment : Nat} (passes : vigil.mayPass moment = true) :
    Kept config { vigil with now := moment } := by
  unfold mayPass at passes
  rw [Bool.and_eq_true, decide_eq_true_iff, Bool.or_eq_true] at passes
  obtain ⟨later, free⟩ := passes
  refine ⟨kept.fair, Nat.le_trans kept.past later, kept.configured, kept.lastRead,
    fun able isOpen => ?_⟩
  cases free with
  | inl closed => cases isOpen.symm.trans closed
  | inr waits =>
      rw [Option.any_eq_true] at waits
      obtain ⟨alarm, next, inTime⟩ := waits
      exact (kept.onTime able isOpen).pass later next (of_decide_eq_true inTime)

theorem Kept.act (kept : vigil.Kept config) (move : ChannelMove) :
    (vigil.act (move.timed vigil.now)).Kept config := by
  have wasOpen (isOpen : (vigil.act (move.timed vigil.now)).history.channel.isClosed = false) :
      vigil.history.channel.isClosed = false := by
    rw [← Bool.not_eq_true] at isOpen ⊢
    exact fun closed => isOpen (ChannelMove.isClosed_perform closed _)
  have heard (isOpen : (vigil.act (move.timed vigil.now)).history.channel.isClosed = false) :
      (vigil.act (move.timed vigil.now)).history.channel.lastRead =
        (vigil.act (move.timed vigil.now)).heard := by
    have watched := ChannelMove.perform_watched move isOpen
    exact watched.lastRead.trans (by rw [kept.lastRead (wasOpen isOpen)]; rfl)
  have since : vigil.heard ≤ (vigil.act (move.timed vigil.now)).heard := by
    unfold Vigil.act
    dsimp only
    split
    · exact kept.past
    · exact Nat.le_refl _
  constructor
  case fair => exact ChannelHistory.perform_fair kept.fair _
  case past =>
    unfold Vigil.act
    dsimp only
    split
    · exact Nat.le_refl _
    · exact kept.past
  case configured =>
    intro isOpen
    have watched := ChannelMove.perform_watched move isOpen
    exact watched.config.trans (kept.configured (wasOpen isOpen))
  case lastRead => exact heard
  case onTime =>
    intro able isOpen
    obtain ⟨before, unskipped⟩ := Bool.or_eq_false_iff.mp able
    have turned := (ChannelMove.perform_watched move isOpen).turned
    rw [unskipped, kept.configured (wasOpen isOpen)] at turned
    exact (kept.onTime before (wasOpen isOpen)).turned (heard isOpen ▸ turned) since

theorem Kept.asks (kept : vigil.Kept config)
    (asks : (move.timed vigil.now).asks? vigil.history.channel = some ticket) :
    let next := (move.timed vigil.now).perform vigil.history.channel
    vigil.heard + config.heartbeatInterval.nanos ≤ vigil.now ∧
      next.1.accepted = [] ∧ next.2.table.accepted = ticket.request := by
  obtain ⟨now, same, due, reserved⟩ := ChannelMove.asks?_eq_some asks
  have present : now = vigil.now := by
    cases move with
    | whole action =>
        cases action with
        | beat _ =>
            cases same
            rfl
        | send | receive | drop | drain | close => cases same
    | noteRead | fail | orphan | expire => cases same
  rw [same, present]
  rw [present] at due
  obtain ⟨isOpen, turn⟩ := Channel.isSignDue_iff.mp due
  have notClosed : vigil.history.channel.isClosed = false :=
    Bool.eq_false_iff.mpr fun closed => Channel.isClosed_iff.mp closed isOpen
  have silent := (Heartbeat.turn_eq_ask turn).2
  rw [kept.configured notClosed, kept.lastRead notClosed] at silent
  refine ⟨silent, rfl, ?_⟩
  rw [ChannelMove.perform_beat, Channel.beat_of_due due, Channel.table_askForSign]
  exact congrArg StreamTable.accepted (StreamTable.reserve_eq_some (Prod.ext reserved rfl)).2.2

theorem accepted_new {channel : Channel}
    (accepted : ticket ∈ (move.perform channel).1.accepted) :
    ticket.request = channel.table.accepted + 1 := by
  cases move with
  | whole action =>
      cases action with
      | send opcode body =>
          rw [ChannelMove.perform_send] at accepted
          rcases channel.send_parts opcode body with
            ⟨_, _, sent, _⟩ | ⟨given, _, _, reserved, sent⟩
          · rw [sent] at accepted
            cases accepted
          · rw [sent] at accepted
            cases List.mem_singleton.mp accepted
            exact (StreamTable.reserve_eq_some reserved).2.1
      | receive | beat | drop | drain | close => cases accepted
  | noteRead | fail | orphan | expire => cases accepted

theorem Signed.keep (signed : vigil.Signed config) (same : after.signs = vigil.signs)
    (count : vigil.history.channel.table.accepted ≤ after.history.channel.table.accepted)
    (fresh : ∀ ticket ∈ after.history.accepted, ticket ∈ vigil.history.accepted ∨
      ticket.request = vigil.history.channel.table.accepted + 1) : after.Signed config := by
  constructor
  case late => exact same ▸ signed.late
  case numbered =>
    intro sign member
    exact Nat.le_trans (signed.numbered sign (same ▸ member)) count
  case distinct => exact same ▸ signed.distinct
  case own =>
    intro sign member accepted
    rw [same] at member
    cases fresh sign.ticket accepted with
    | inl before => exact signed.own sign member before
    | inr number =>
        have old := signed.numbered sign member
        omega

theorem Signed.add (signed : vigil.Signed config) {sign : Sign}
    (added : after.signs = vigil.signs ++ [sign])
    (late : sign.heard + config.heartbeatInterval.nanos ≤ sign.time)
    (number : sign.ticket.request = vigil.history.channel.table.accepted + 1)
    (count : after.history.channel.table.accepted = sign.ticket.request)
    (same : after.history.accepted = vigil.history.accepted)
    (stranger : sign.ticket ∉ vigil.history.accepted) : after.Signed config := by
  constructor
  case late =>
    intro other member
    rw [added] at member
    cases List.mem_append.mp member with
    | inl old => exact signed.late other old
    | inr isNew => exact List.mem_singleton.mp isNew ▸ late
  case numbered =>
    intro other member
    rw [added] at member
    rw [count]
    cases List.mem_append.mp member with
    | inl old =>
        have before := signed.numbered other old
        omega
    | inr isNew => exact List.mem_singleton.mp isNew ▸ Nat.le_refl _
  case distinct =>
    rw [added, List.map_append, List.map_singleton, List.nodup_append]
    refine ⟨signed.distinct, List.nodup_singleton _, fun first old second isNew => ?_⟩
    obtain ⟨other, member, rfl⟩ := List.mem_map.mp old
    have before := signed.numbered other member
    rw [List.mem_singleton.mp isNew]
    omega
  case own =>
    intro other member
    rw [added] at member
    rw [same]
    cases List.mem_append.mp member with
    | inl old => exact signed.own other old
    | inr isNew => exact List.mem_singleton.mp isNew ▸ stranger

theorem Signed.act (signed : vigil.Signed config) (kept : vigil.Kept config) (move : ChannelMove) :
    (vigil.act (move.timed vigil.now)).Signed config := by
  cases asked : (move.timed vigil.now).asks? vigil.history.channel with
  | none =>
      apply signed.keep
      · unfold Vigil.act
        dsimp only
        rw [asked]
        exact List.append_nil _
      · exact ((move.timed vigil.now).perform_joined kept.fair.seated).count
      · intro ticket member
        exact (List.mem_append.mp member).imp_right accepted_new
  | some ticket =>
      obtain ⟨late, nobody, count⟩ := kept.asks asked
      obtain ⟨number, stranger⟩ := kept.fair.asks_new asked
      apply signed.add
      case added =>
        unfold Vigil.act
        dsimp only
        rw [asked]
        rfl
      case late => exact late
      case number => exact number
      case count => exact count
      case same =>
        change vigil.history.accepted ++
          ((move.timed vigil.now).perform vigil.history.channel).1.accepted = _
        rw [nobody, List.append_nil]
      case stranger => exact stranger

theorem step_sound (kept : vigil.Kept config) (signed : vigil.Signed config)
    (happening : Happening) :
    (vigil.step happening).Kept config ∧ (vigil.step happening).Signed config := by
  cases happening with
  | pass moment =>
      unfold step
      dsimp only
      split
      · rename_i passes
        exact ⟨kept.pass passes, ⟨signed.late, signed.numbered, signed.distinct, signed.own⟩⟩
      · exact ⟨kept, signed⟩
  | move move => exact ⟨kept.act move, signed.act kept move⟩

theorem run_sound (kept : vigil.Kept config) (signed : vigil.Signed config)
    (happenings : List Happening) :
    (vigil.run happenings).Kept config ∧ (vigil.run happenings).Signed config := by
  induction happenings generalizing vigil with
  | nil => exact ⟨kept, signed⟩
  | cons happening rest ih =>
      obtain ⟨stillKept, stillSigned⟩ := step_sound kept signed happening
      exact ih stillKept stillSigned

theorem countP_le_one {Item Image : Type} {image : Item → Image} {items : List Item}
    {test : Item → Bool} (distinct : (items.map image).Nodup)
    (alike : ∀ first ∈ items, ∀ second ∈ items, test first = true → test second = true →
      image first = image second) : items.countP test ≤ 1 := by
  have once : ((items.filter test).map image).Nodup := distinct.sublist (List.filter_sublist.map _)
  have passing : ∀ item ∈ items.filter test, item ∈ items ∧ test item = true :=
    fun item => List.mem_filter.mp
  rw [List.countP_eq_length_filter]
  cases passed : items.filter test with
  | nil => exact Nat.zero_le 1
  | cons first others =>
      cases others with
      | nil => exact Nat.le_refl 1
      | cons second rest =>
          rw [passed] at once passing
          obtain ⟨firstMember, firstPasses⟩ := passing first (by simp)
          obtain ⟨secondMember, secondPasses⟩ := passing second (by simp)
          have same := alike first firstMember second secondMember firstPasses secondPasses
          simp [same] at once

/-- One request for a sign of life waits at most: it is the one that the watch waits for. -/
theorem unanswered_le_one (kept : vigil.Kept config) (signed : vigil.Signed config) :
    vigil.unanswered ≤ 1 := by
  have asked (sign : Sign) (member : sign ∈ vigil.signs)
      (waits : vigil.history.channel.table.isWaiting sign.ticket = true) :
      vigil.history.channel.heartbeat.asked? = some sign.ticket :=
    (kept.fair.claimed sign.ticket waits).resolve_left (signed.own sign member)
  apply countP_le_one signed.distinct
  intro first firstMember second secondMember firstWaits secondWaits
  have same := (asked first firstMember firstWaits).symm.trans
    (asked second secondMember secondWaits)
  exact congrArg Ticket.request (Option.some.inj same)

theorem start_watching (address : SocketAddress) (config : ChannelConfig) (unread : List UInt8)
    (now : Nat) : (start address config unread now).Watching :=
  fun _ stopped => Heartbeat.noConfusion stopped

theorem watching_step (watching : vigil.Watching) {happening : Happening}
    (whole : happening.isWhole = true) : (vigil.step happening).Watching := by
  intro isOpen
  cases happening with
  | pass moment =>
      unfold step at isOpen ⊢
      dsimp only at isOpen ⊢
      split at isOpen
      · rename_i passes
        rw [if_pos passes]
        exact watching isOpen
      · rename_i stays
        rw [if_neg stays]
        exact watching isOpen
  | move move =>
      have wasOpen : vigil.history.channel.isClosed = false := by
        rw [← Bool.not_eq_true] at isOpen ⊢
        exact fun closed => isOpen (ChannelMove.isClosed_perform closed _)
      have turned := (ChannelMove.perform_watched move isOpen).turned
      have same : (move.timed vigil.now).isWhole = true := by
        cases move with
        | whole action => cases action <;> rfl
        | noteRead | fail | orphan | expire => cases whole
      rw [same] at turned
      exact turned.watching (watching wasOpen)

theorem watching_run (watching : vigil.Watching) (happenings : List Happening)
    (whole : ∀ happening ∈ happenings, happening.isWhole = true) :
    (vigil.run happenings).Watching := by
  induction happenings generalizing vigil with
  | nil => exact watching
  | cons happening rest ih =>
      obtain ⟨first, others⟩ := List.forall_mem_cons.mp whole
      exact ih (watching_step watching first) others

/-- Once the watch has been looked at, time can go on. -/
theorem mayPass_of_beat (kept : vigil.Kept config) (watching : vigil.Watching)
    (interval : 0 < config.heartbeatInterval.nanos) (patience : 0 < config.heartbeatTimeout.nanos) :
    (vigil.step (.move (.whole (.beat vigil.now)))).mayPass (vigil.now + 1) = true := by
  unfold mayPass
  rw [Bool.and_eq_true, decide_eq_true_iff, Bool.or_eq_true, Option.any_eq_true]
  refine ⟨Nat.le_succ _, ?_⟩
  by_cases isOpen : vigil.history.channel.table.closed = none
  · have notClosed : vigil.history.channel.isClosed = false :=
      Bool.eq_false_iff.mpr fun closed => Channel.isClosed_iff.mp closed isOpen
    have configured : vigil.history.channel.config = config := kept.configured notClosed
    rw [← configured] at interval patience
    apply (Channel.alarm_of_beat isOpen (watching notClosed) interval patience).imp_right
    intro later
    obtain ⟨alarm, next, after⟩ := later
    exact ⟨alarm, next, decide_eq_true after⟩
  · left
    exact ChannelMove.isClosed_perform (Channel.isClosed_iff.mpr isOpen)
      (.whole (.beat vigil.now))

/-- Where only the watch is at work, every later moment is reached. -/
theorem exists_run_until (kept : vigil.Kept config) (signed : vigil.Signed config)
    (watching : vigil.Watching) (interval : 0 < config.heartbeatInterval.nanos)
    (patience : 0 < config.heartbeatTimeout.nanos) (further : Nat) :
    ∃ more : List Happening, (∀ happening ∈ more, happening.isOfWatch = true) ∧
      (vigil.run more).now = vigil.now + further := by
  induction further generalizing vigil with
  | zero => exact ⟨[], nofun, rfl⟩
  | succ further ih =>
      let looked := vigil.step (.move (.whole (.beat vigil.now)))
      let next := looked.step (.pass (vigil.now + 1))
      have passes : looked.mayPass (vigil.now + 1) = true :=
        mayPass_of_beat kept watching interval patience
      have now : next.now = vigil.now + 1 := congrArg Vigil.now (if_pos passes)
      obtain ⟨lookedKept, lookedSigned⟩ :=
        step_sound kept signed (.move (.whole (.beat vigil.now)))
      obtain ⟨nextKept, nextSigned⟩ := step_sound lookedKept lookedSigned (.pass (vigil.now + 1))
      have nextWatching : next.Watching := watching_step (watching_step watching rfl) rfl
      obtain ⟨more, ofWatch, reached⟩ := ih nextKept nextSigned nextWatching
      refine ⟨.move (.whole (.beat vigil.now)) :: .pass (vigil.now + 1) :: more, ?_, ?_⟩
      · intro happening member
        rcases List.mem_cons.mp member with rfl | member
        · rfl
        · rcases List.mem_cons.mp member with rfl | member
          · rfl
          · exact ofWatch happening member
      · change (next.run more).now = _
        rw [reached, now]
        omega

/-- However the frames of the server come, and whatever else is done to a channel: a sign of life
is asked for only after an interval of silence, one such request at most is not answered, and if
a stream was free for each of them, an open channel has heard from its server within the interval
and the time for an answer. The clock does not stand still for that: where nothing is done by
halves, the watch lets every later moment come. -/
theorem watch_is_kept (address : SocketAddress) (config : ChannelConfig) (unread : List UInt8)
    (now : Nat) (happenings : List Happening) :
    let interval := config.heartbeatInterval.nanos
    let patience := config.heartbeatTimeout.nanos
    let vigil := (start address config unread now).run happenings
    (∀ sign ∈ vigil.signs, sign.heard + interval ≤ sign.time) ∧
      vigil.unanswered ≤ 1 ∧
      (vigil.skipped = false → vigil.history.channel.isClosed = false →
        vigil.now ≤ vigil.heard + interval + patience) ∧
      (0 < interval → 0 < patience → (∀ happening ∈ happenings, happening.isWhole = true) →
        ∀ further, ∃ more : List Happening, (∀ happening ∈ more, happening.isOfWatch = true) ∧
          (vigil.run more).now = vigil.now + further) := by
  intro interval patience vigil
  obtain ⟨kept, signed⟩ := run_sound (start_kept address config unread now)
    (start_signed address config unread now) happenings
  refine ⟨signed.late, unanswered_le_one kept signed, ?_, ?_⟩
  · intro able isOpen
    exact (kept.onTime able isOpen).now_le
  · intro positive some whole further
    have watching : vigil.Watching :=
      watching_run (start_watching address config unread now) happenings whole
    exact exists_run_until kept signed watching positive some further

/-- An interval of a tenth of a millisecond, and half of that for an answer. -/
def restless : ChannelConfig :=
  { version := .v4
    connectTimeout := .ofMillis 500
    heartbeatInterval := ⟨100000⟩
    heartbeatTimeout := ⟨50000⟩
    maxRequests := 4
    maxOrphans := 0 }

def silence : List Happening :=
  [.pass 100000, .move (.whole (.beat 0)), .pass 150000, .pass 150001]

theorem silence_reaches_bound :
    let vigil := (start { ip := .ofParts 10 0 0 1, port := 9042 } restless [] 0).run silence
    (∀ happening ∈ silence, happening.isWhole = true) ∧ vigil.history.channel.isClosed = false ∧
      vigil.unanswered = 1 ∧ vigil.now = 150000 ∧ vigil.now ≤ 0 + 100000 + 50000 ∧
      ∃ more : List Happening, (∀ happening ∈ more, happening.isOfWatch = true) ∧
        (vigil.run more).now = 150001 := by
  intro vigil
  have whole : ∀ happening ∈ silence, happening.isWhole = true := by decide
  have isOpen : vigil.history.channel.isClosed = false := by decide
  obtain ⟨_, _, bounded, goesOn⟩ :=
    watch_is_kept { ip := .ofParts 10 0 0 1, port := 9042 } restless [] 0 silence
  exact ⟨whole, isOpen, by decide, by decide, bounded (by decide) isOpen,
    goesOn (by decide) (by decide) whole 1⟩

end Vigil

end CqlDriver
