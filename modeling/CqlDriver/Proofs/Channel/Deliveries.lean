/-
What an answer does to those who wait, and what giving a request up does to the others.
The channel tells its own request for a sign of life from the requests of callers by
its number, so that the numbers have to tell the requests apart.
-/

import CqlDriver.Channel.Channel
import CqlDriver.Proofs.Channel.Answers

namespace CqlDriver

def Frame.Received.stream : Frame.Received → Int16
  | .frame received => received.stream
  | .unsupported _ stream => stream

def Frame.Received.result : Frame.Received → Except DriverError Frame
  | .frame received =>
      if received.isCompressed then .error (.protocol .compressedFrame) else .ok received
  | .unsupported code stream => .error (.unsupportedFrame code stream)

namespace Heartbeat

def asked? : Heartbeat → Option Ticket
  | .awaiting ticket _ _ => some ticket
  | .resting _ | .stopped => none

theorem isAsking_iff {heartbeat : Heartbeat} {request : Nat} :
    heartbeat.isAsking request = true ↔
      ∃ ticket, heartbeat.asked? = some ticket ∧ ticket.request = request := by
  cases heartbeat with
  | awaiting ticket due deadline =>
      constructor
      · intro asking
        exact ⟨ticket, rfl, eq_of_beq asking⟩
      · rintro ⟨other, same, number⟩
        cases same
        exact beq_iff_eq.mpr number
  | resting due =>
      constructor
      · intro asking
        cases asking
      · rintro ⟨ticket, nothing, _⟩
        cases nothing
  | stopped =>
      constructor
      · intro asking
        cases asking
      · rintro ⟨ticket, nothing, _⟩
        cases nothing

theorem asked?_answered (result : Except DriverError Frame) (heartbeat : Heartbeat) :
    (heartbeat.answered result).asked? = none := by
  cases heartbeat with
  | awaiting ticket due deadline =>
      cases result with
      | ok frame => rfl
      | error error => rfl
  | resting due => rfl
  | stopped => rfl

/-- Only a heartbeat that does not wait for a sign asks for one, and only one that
waits gives up. -/
theorem turn_asked? (interval now lastRead : Nat) (heartbeat : Heartbeat) :
    match heartbeat.turn interval now lastRead with
    | .rest later => later.asked? = heartbeat.asked?
    | .ask => heartbeat.asked? = none
    | .giveUp ticket => heartbeat.asked? = some ticket := by
  cases heartbeat with
  | resting due =>
      unfold turn
      dsimp only
      by_cases early : now < due
      · rw [if_pos early]
      · rw [if_neg early]
        by_cases heard : now < lastRead + interval
        · rw [if_pos heard]
          rfl
        · rw [if_neg heard]
          rfl
  | awaiting ticket due deadline =>
      unfold turn
      dsimp only
      by_cases early : now < deadline
      · rw [if_pos early]
      · rw [if_neg early]
        rfl
  | stopped => rfl

end Heartbeat

namespace Channel

theorem open_of_not_isClosed {channel : Channel} (notClosed : ¬channel.isClosed = true) :
    channel.table.closed = none := by
  cases shut : channel.table.closed with
  | none => rfl
  | some reason =>
      have closed : channel.isClosed = true := by
        unfold isClosed StreamTable.isClosed
        rw [shut]
        rfl
      exact absurd closed notClosed

theorem settle_eq (outcomes : List Outcome) (table : StreamTable) (channel : Channel) :
    channel.settle outcomes table =
      (outcomes.filter fun outcome => !channel.heartbeat.isAsking outcome.request,
        { channel with
          table
          heartbeat :=
            (outcomes.filter fun outcome => channel.heartbeat.isAsking outcome.request).foldl
              (fun heartbeat outcome => heartbeat.answered outcome.result) channel.heartbeat }) := by
  unfold settle
  rw [List.partition_eq_filter_filter]
  rfl

/-- No request becomes the channel's own through the end of others. -/
theorem asked?_settle {outcomes : List Outcome} {table : StreamTable} {channel : Channel}
    {ticket : Ticket} (asked : (channel.settle outcomes table).2.heartbeat.asked? = some ticket) :
    channel.heartbeat.asked? = some ticket := by
  rw [settle_eq] at asked
  dsimp only at asked
  generalize outcomes.filter _ = own at asked
  generalize channel.heartbeat = heartbeat at asked ⊢
  induction own generalizing heartbeat with
  | nil => exact asked
  | cons outcome rest ih =>
      have sooner := ih (heartbeat.answered outcome.result) asked
      rw [Heartbeat.asked?_answered] at sooner
      cases sooner

structure Serving (channel : Channel) (issued outstanding : List Ticket) : Prop where
  linked : channel.table.Linked outstanding
  known : outstanding ⊆ issued
  numbered : ∀ ticket ∈ issued, ticket.request ≤ channel.table.accepted
  distinct : (issued.map Ticket.request).Nodup
  asked : ∀ ticket, channel.heartbeat.asked? = some ticket → ticket ∈ issued

def ownOutcomes (channel : Channel) (ticket : Ticket) (result : Except DriverError Frame) :
    List Outcome :=
  if channel.table.isWaiting ticket = true ∧ channel.heartbeat.asked? ≠ some ticket then
    [{ request := ticket.request, result }]
  else []

/-- The heartbeat after an answer to a request. The answer is a sign of life only if
this request asked for one. -/
def heartbeatAfter (channel : Channel) (ticket : Ticket) (result : Except DriverError Frame) :
    Heartbeat :=
  if channel.table.isWaiting ticket = true ∧ channel.heartbeat.asked? = some ticket then
    channel.heartbeat.answered result
  else channel.heartbeat

variable {before after : Channel} {issued outstanding : List Ticket} {ticket other : Ticket}

namespace Serving

theorem eq_of_request_eq (serving : before.Serving issued outstanding) (first : ticket ∈ issued)
    (second : other ∈ issued) (same : ticket.request = other.request) : ticket = other :=
  List.inj_on_of_nodup_map serving.distinct first second same

theorem isAsking_iff (serving : before.Serving issued outstanding) (member : ticket ∈ issued) :
    before.heartbeat.isAsking ticket.request = true ↔ before.heartbeat.asked? = some ticket := by
  rw [Heartbeat.isAsking_iff]
  constructor
  · rintro ⟨other, asked, number⟩
    rw [← serving.eq_of_request_eq (serving.asked other asked) member number]
    exact asked
  · intro asked
    exact ⟨ticket, asked, rfl⟩

/-- The end of a request that is answered reaches its caller, or is the sign that the
channel asked for. -/
theorem settle_answer (serving : before.Serving issued outstanding) (member : ticket ∈ issued)
    (result : Except DriverError Frame) (table : StreamTable) :
    before.settle
        (if before.table.isWaiting ticket = true then
          some { request := ticket.request, result } else none : Option Outcome).toList table =
      (before.ownOutcomes ticket result,
        { before with table, heartbeat := before.heartbeatAfter ticket result }) := by
  have asking := serving.isAsking_iff member
  rw [settle_eq]
  unfold ownOutcomes heartbeatAfter
  by_cases waits : before.table.isWaiting ticket = true
  · rw [if_pos waits]
    by_cases asked : before.heartbeat.asked? = some ticket
    · rw [if_neg fun both => both.2 asked, if_pos ⟨waits, asked⟩]
      simp [asking.mpr asked]
    · have notAsking : before.heartbeat.isAsking ticket.request = false := by
        rw [Bool.eq_false_iff]
        exact fun isAsking => asked (asking.mp isAsking)
      rw [if_pos ⟨waits, asked⟩, if_neg fun both => asked both.2]
      simp [notAsking]
  · rw [if_neg waits, if_neg fun both => waits both.1, if_neg fun both => waits both.1]
    rfl

theorem keep (serving : before.Serving issued outstanding) {left : List Ticket}
    (linked : after.table.Linked left) (fewer : left ⊆ outstanding)
    (numbers : before.table.accepted ≤ after.table.accepted)
    (asked : ∀ ticket, after.heartbeat.asked? = some ticket →
      before.heartbeat.asked? = some ticket) : after.Serving issued left :=
  ⟨linked, fun _ member => serving.known (fewer member),
    fun _ member => Nat.le_trans (serving.numbered _ member) numbers,
    serving.distinct, fun _ asks => serving.asked _ (asked _ asks)⟩

end Serving

theorem close_eq (reason : String) (channel : Channel) :
    channel.close reason =
      ((channel.table.close reason).1.filter fun outcome =>
          !channel.heartbeat.isAsking outcome.request,
        { channel with table := (channel.table.close reason).2, heartbeat := .stopped }) := by
  unfold close
  dsimp only
  rw [settle_eq]

theorem closed_close (channel : Channel) (isOpen : channel.table.closed = none)
    (reason : String) : (channel.close reason).2.table.closed = some reason := by
  rw [close_eq, StreamTable.close_of_open reason isOpen]

namespace Serving

theorem close (serving : before.Serving issued outstanding) (reason : String) :
    (before.close reason).2.Serving issued outstanding := by
  rw [close_eq]
  apply serving.keep (serving.linked.close reason) (List.Subset.refl _)
  · exact Nat.le_of_eq (StreamTable.accepted_close reason before.table).symm
  · intro ticket asked
    cases asked

theorem close_outcomes (serving : before.Serving issued outstanding)
    (isOpen : before.table.closed = none) (reason : String) :
    ∀ outcome ∈ (before.close reason).1,
      (∃ other ∈ outstanding, outcome.request = other.request) ∧
        outcome.result = .error (.channelClosed reason) := by
  intro outcome handedOn
  have accounted := serving.linked.valid.whileOpen isOpen
  rw [close_eq] at handedOn
  have told := (List.mem_filter.mp handedOn).1
  obtain ⟨other, waits, same⟩ :=
    (StreamTable.mem_close accounted.keys_nodup isOpen reason outcome).mp told
  rw [same]
  exact ⟨⟨other, serving.linked.awaited other waits, rfl⟩, rfl⟩

end Serving

/-- What an answer to a request leads to: it reaches its caller if that still waits, or
is the sign of life if this request asked for one. Others learn of it only if it makes
the channel close. -/
structure Delivered (before : Channel) (ticket : Ticket) (result : Except DriverError Frame)
    (outcomes : List Outcome) (after : Channel) : Prop where
  handedOn : ∃ closing, outcomes = before.ownOutcomes ticket result ++ closing ∧
    ∀ outcome ∈ closing, outcome.request ≠ ticket.request ∧ ∃ reason,
      after.table.closed = some reason ∧ outcome.result = .error (.channelClosed reason)
  ordinary : ∀ frame, result = .ok frame →
    after.table.closed = before.table.closed ∧ outcomes = before.ownOutcomes ticket result
  heartbeat : after.table.closed = none →
    after.heartbeat = before.heartbeatAfter ticket result
  waiters : after.table.closed = none → ∀ other,
    after.table.isWaiting other = true ↔ before.table.isWaiting other = true ∧ other ≠ ticket

theorem Delivered.readAt {now : Nat} {result : Except DriverError Frame}
    {outcomes : List Outcome}
    (delivered : Channel.Delivered { before with lastRead := now } ticket result outcomes after) :
    before.Delivered ticket result outcomes after :=
  ⟨delivered.handedOn, delivered.ordinary, delivered.heartbeat, delivered.waiters⟩

namespace Serving

theorem waiting_elsewhere (serving : before.Serving issued outstanding)
    (member : ticket ∈ outstanding) (waits : before.table.isWaiting other = true) :
    other.stream ≠ ticket.stream ↔ other ≠ ticket := by
  constructor
  · exact fun elsewhere same => elsewhere (congrArg Ticket.stream same)
  · exact fun different shared => different
      (serving.linked.eq_of_stream_eq (serving.linked.awaited other waits) member shared)

theorem settled (serving : before.Serving issued outstanding) (member : ticket ∈ outstanding)
    (result : Except DriverError Frame) {table : StreamTable}
    (linked : table.Linked (outstanding.erase ticket))
    (numbers : table.accepted = before.table.accepted) :
    Channel.Serving
      { before with table, heartbeat := before.heartbeatAfter ticket result } issued
      (outstanding.erase ticket) := by
  have settlement := serving.settle_answer (serving.known member) result table
  apply serving.keep linked List.erase_subset
  · exact Nat.le_of_eq numbers.symm
  · intro other asked
    apply asked?_settle
    rw [settlement]
    exact asked

theorem failAndClose (serving : before.Serving issued outstanding)
    (isOpen : before.table.closed = none) (member : ticket ∈ outstanding) (error : DriverError)
    (reason : String) :
    before.Delivered ticket (.error error) (before.failAndClose ticket.stream error reason).1
        (before.failAndClose ticket.stream error reason).2 ∧
      (before.failAndClose ticket.stream error reason).2.Serving issued
        (outstanding.erase ticket) := by
  have known := serving.known member
  obtain ⟨sameState, sameNumbers⟩ :=
    StreamTable.failStream_keeps ticket.stream error before.table
  have failed := serving.settled member (.error error)
    (serving.linked.failStream member error) sameNumbers
  have settlement := serving.settle_answer known (.error error)
    (before.table.failStream ticket.stream error).2
  rw [← serving.linked.failStream_fst member error] at settlement
  unfold Channel.failAndClose
  dsimp only
  rw [settlement]
  have stillOpen := sameState.trans isOpen
  generalize StreamTable.failStream ticket.stream error before.table = ended at failed stillOpen
  have told := failed.close_outcomes stillOpen reason
  have shut := closed_close
    { before with
      table := ended.2
      heartbeat := before.heartbeatAfter ticket (.error error) } stillOpen reason
  refine ⟨⟨⟨_, rfl, ?_⟩, ?_, ?_, ?_⟩, failed.close reason⟩
  · intro outcome handedOn
    obtain ⟨⟨other, left, number⟩, result⟩ := told outcome handedOn
    obtain ⟨different, outstandingStill⟩ :=
      serving.linked.outstanding_nodup.mem_erase_iff.mp left
    refine ⟨?_, reason, shut, result⟩
    intro same
    exact different (serving.eq_of_request_eq (serving.known outstandingStill) known
      (number.symm.trans same))
  · intro frame impossible
    cases impossible
  · intro isOpenStill
    rw [shut] at isOpenStill
    cases isOpenStill
  · intro isOpenStill
    rw [shut] at isOpenStill
    cases isOpenStill

theorem complete (serving : before.Serving issued outstanding) (member : ticket ∈ outstanding)
    {frame : Frame} (same : frame.stream = ticket.stream) :
    let ended := before.table.complete frame
    let settlement := before.settle ended.1.toList ended.2
    before.Delivered ticket (.ok frame) settlement.1 settlement.2 ∧
      settlement.2.Serving issued (outstanding.erase ticket) := by
  intro ended settlement
  obtain ⟨sameState, sameNumbers⟩ := StreamTable.complete_keeps frame before.table
  have settled := serving.settled member (.ok frame) (serving.linked.complete member same)
    sameNumbers
  have settles := serving.settle_answer (serving.known member) (.ok frame) ended.2
  rw [← serving.linked.complete_fst member same] at settles
  change settlement = _ at settles
  rw [settles]
  refine ⟨⟨⟨[], (List.append_nil _).symm, ?_⟩, ?_, ?_, ?_⟩, settled⟩
  · intro outcome nothing
    cases nothing
  · exact fun _ _ => ⟨sameState, rfl⟩
  · exact fun _ => rfl
  · intro _ other
    have waits := StreamTable.isWaiting_complete frame before.table other
    rw [same] at waits
    rw [waits]
    exact and_congr_right fun waited => serving.waiting_elsewhere member waited

/-- Streams on which answers can come are numbers of requests, not of what the server
sends unasked. -/
theorem stream_nonneg (serving : before.Serving issued outstanding)
    (isOpen : before.table.closed = none) (member : ticket ∈ outstanding) :
    0 ≤ ticket.stream.toInt :=
  ((serving.linked.valid.whileOpen isOpen).in_range
    (serving.linked.covered isOpen ticket member)).1

theorem readAt (serving : before.Serving issued outstanding) (now : Nat) :
    Channel.Serving { before with lastRead := now } issued outstanding :=
  ⟨serving.linked, serving.known, serving.numbered, serving.distinct, serving.asked⟩

theorem accept (serving : before.Serving issued outstanding)
    (isOpen : before.table.closed = none) (member : ticket ∈ outstanding) (now : Nat)
    {frame : Frame} (same : frame.stream = ticket.stream) :
    before.Delivered ticket (Frame.Received.frame frame).result
        (before.accept now frame).1.outcomes (before.accept now frame).2 ∧
      (before.accept now frame).2.Serving issued (outstanding.erase ticket) := by
  have notPush : ¬frame.isPush = true := by
    intro push
    have negative := Int16.lt_iff_toInt_lt.mp (of_decide_eq_true push)
    rw [same] at negative
    exact absurd (serving.stream_nonneg isOpen member) (Int.not_le.mpr negative)
  unfold Channel.accept Frame.Received.result
  dsimp only
  by_cases compressed : frame.isCompressed = true
  · obtain ⟨delivered, left⟩ := (serving.readAt now).failAndClose isOpen member
      (.protocol .compressedFrame) "received a compressed frame"
    rw [if_pos compressed, if_pos compressed, same]
    exact ⟨delivered.readAt, left⟩
  · obtain ⟨delivered, left⟩ := (serving.readAt now).complete member same
    rw [if_neg compressed, if_neg compressed, if_neg notPush]
    exact ⟨delivered.readAt, left⟩

theorem answer_closed (serving : before.Serving issued outstanding)
    (shut : before.table.closed ≠ none) (result : Except DriverError Frame) :
    before.Delivered ticket result [] before := by
  have nobody : ¬before.table.isWaiting ticket = true :=
    fun waits => shut (serving.linked.valid.open_of_isWaiting waits)
  have nothing : before.ownOutcomes ticket result = [] := if_neg fun both => nobody both.1
  refine ⟨⟨[], ?_, ?_⟩, ?_, ?_, ?_⟩
  · rw [nothing]
    rfl
  · intro outcome impossible
    cases impossible
  · exact fun _ _ => ⟨rfl, nothing.symm⟩
  · exact fun isOpen => absurd isOpen shut
  · exact fun isOpen => absurd isOpen shut

/-- Whatever the answer to a request is, and whenever it comes. -/
theorem answer (serving : before.Serving issued outstanding) (member : ticket ∈ outstanding)
    (now : Nat) {received : Frame.Received} (same : received.stream = ticket.stream) :
    before.Delivered ticket received.result
        (acceptReceived now ({}, before) received).1.outcomes
        (acceptReceived now ({}, before) received).2 ∧
      (acceptReceived now ({}, before) received).2.Serving issued (outstanding.erase ticket) := by
  unfold acceptReceived
  dsimp only
  by_cases closed : before.isClosed = true
  · have shut : before.table.closed ≠ none := Option.isSome_iff_ne_none.mp closed
    rw [if_pos closed]
    exact ⟨serving.answer_closed shut received.result, serving.keep
      (StreamTable.Linked.of_closed (serving.linked.erase_distinct ticket)
        serving.linked.valid shut)
      List.erase_subset (Nat.le_refl _) fun _ asked => asked⟩
  · have isOpen := open_of_not_isClosed closed
    rw [if_neg closed]
    cases received with
    | frame frame => exact serving.accept isOpen member now same
    | unsupported code stream =>
        cases same
        exact serving.failAndClose isOpen member _ _

end Serving

/-- What giving a request up leads to: nothing, if the request is over. The others go on
waiting, on streams that are no orphans. Only if there are as many orphans as the channel
bears is it closed, and then the others learn that. -/
structure Dropped (before : Channel) (ticket : Ticket) (outcomes : List Outcome)
    (after : Channel) : Prop where
  gone : after.table.isWaiting ticket = false
  stale : before.table.isWaiting ticket = false → outcomes = [] ∧ after = before
  others : ∀ other, other ≠ ticket → before.table.isWaiting other = true →
    after.table.isWaiting other = true ∧ other.stream ∉ after.table.orphans ∨
    before.table.isWaiting ticket = true ∧
      before.table.orphans.length = before.table.maxOrphans ∧
      after.table.closed = some StreamTable.orphansReason ∧
      (before.heartbeat.asked? = some other ∨
        { request := other.request, result := .error (.channelClosed StreamTable.orphansReason) }
          ∈ outcomes)
  orphaned : before.table.isWaiting ticket = true → after.table.closed = none →
    outcomes = [] ∧ after.heartbeat = before.heartbeat ∧
      after.table.orphans = ticket.stream :: before.table.orphans

theorem abandon_eq (ticket : Ticket) (channel : Channel) :
    channel.abandon ticket =
      channel.settle (channel.table.abandon ticket).1 (channel.table.abandon ticket).2 := rfl

namespace Serving

theorem keep_abandon (serving : before.Serving issued outstanding) (ticket : Ticket) :
    (before.abandon ticket).2.Serving issued outstanding := by
  have linked := serving.linked.abandon ticket
  have numbers := StreamTable.accepted_abandon ticket before.table
  apply serving.keep
  · rw [abandon_eq, settle_eq]
    exact linked
  · exact List.Subset.refl _
  · rw [abandon_eq, settle_eq]
    exact Nat.le_of_eq numbers.symm
  · intro other asked
    exact asked?_settle asked

theorem overflow (serving : before.Serving issued outstanding)
    (waits : before.table.isWaiting ticket = true)
    (full : before.table.orphans.length = before.table.maxOrphans)
    (same : before.table.abandon ticket =
      (before.table.orphan ticket.stream).close StreamTable.orphansReason) :
    before.Dropped ticket (before.abandon ticket).1 (before.abandon ticket).2 := by
  have isOpen := serving.linked.valid.open_of_isWaiting waits
  have accounted := serving.linked.valid.whileOpen isOpen
  have member := serving.linked.awaited ticket waits
  have distinct : (before.table.orphan ticket.stream).waiters.keys.Nodup := by
    change (before.table.waiters.erase ticket.stream).keys.Nodup
    rw [Table.keys_erase_of_nodup accounted.keys_nodup]
    exact accounted.keys_nodup.erase _
  have orphanOpen : (before.table.orphan ticket.stream).closed = none := isOpen
  have shut : (before.abandon ticket).2.table.closed = some StreamTable.orphansReason := by
    rw [abandon_eq, settle_eq, same, StreamTable.close_of_open _ orphanOpen]
  refine ⟨?_, ?_, ?_, ?_⟩
  · rw [abandon_eq, settle_eq, same, StreamTable.close_of_open _ orphanOpen]
    rfl
  · intro isOver
    rw [isOver] at waits
    cases waits
  · intro other different waited
    refine Or.inr ⟨waits, full, shut, ?_⟩
    have elsewhere := (serving.waiting_elsewhere member waited).mpr different
    have stillWaits : (before.table.orphan ticket.stream).isWaiting other = true :=
      (StreamTable.isWaiting_erase rfl other).mpr ⟨waited, elsewhere⟩
    have told := (StreamTable.mem_close distinct orphanOpen StreamTable.orphansReason _).mpr
      ⟨other, stillWaits, rfl⟩
    have known := serving.known (serving.linked.awaited other waited)
    by_cases asked : before.heartbeat.asked? = some other
    · exact Or.inl asked
    · refine Or.inr ?_
      rw [abandon_eq, settle_eq, same]
      refine List.mem_filter.mpr ⟨told, ?_⟩
      rw [Bool.not_eq_true', Bool.eq_false_iff]
      exact fun asking => asked ((serving.isAsking_iff known).mp asking)
  · intro _ stillOpen
    rw [shut] at stillOpen
    cases stillOpen

theorem abandon (serving : before.Serving issued outstanding) (ticket : Ticket) :
    before.Dropped ticket (before.abandon ticket).1 (before.abandon ticket).2 := by
  rcases StreamTable.abandon_cases before.table ticket with
    ⟨isOver, same⟩ | ⟨waits, _, same⟩ | ⟨waits, full, same⟩
  · have nothing : before.abandon ticket = ([], before) := by
      rw [abandon_eq, same]
      rfl
    rw [nothing]
    refine ⟨isOver, fun _ => ⟨rfl, rfl⟩, ?_, ?_⟩
    · intro other _ waited
      have accounted := serving.linked.valid.whileOpen
        (serving.linked.valid.open_of_isWaiting waited)
      exact Or.inl ⟨waited, accounted.separate (StreamTable.keys_of_isWaiting waited)⟩
    · intro waits
      rw [isOver] at waits
      cases waits
  · have isOpen := serving.linked.valid.open_of_isWaiting waits
    have accounted := serving.linked.valid.whileOpen isOpen
    have member := serving.linked.awaited ticket waits
    have orphaned : before.abandon ticket =
        ([], { before with table := before.table.orphan ticket.stream }) := by
      rw [abandon_eq, same]
      rfl
    rw [orphaned]
    refine ⟨?_, ?_, ?_, fun _ _ => ⟨rfl, rfl, rfl⟩⟩
    · rw [Bool.eq_false_iff]
      exact fun still => ((StreamTable.isWaiting_erase rfl ticket).mp still).2 rfl
    · intro isOver
      rw [isOver] at waits
      cases waits
    · intro other different waited
      have elsewhere := (serving.waiting_elsewhere member waited).mpr different
      refine Or.inl ⟨(StreamTable.isWaiting_erase rfl other).mpr ⟨waited, elsewhere⟩, ?_⟩
      intro shared
      rcases List.mem_cons.mp shared with new | old
      · exact elsewhere new
      · exact accounted.separate (StreamTable.keys_of_isWaiting waited) old
  · have isOpen := serving.linked.valid.open_of_isWaiting waits
    have tolerated := (serving.linked.valid.whileOpen isOpen).tolerated
    exact serving.overflow waits (Nat.le_antisymm tolerated full) same

end Serving

end Channel

end CqlDriver
