/-
The streams of an open channel. A stream is reserved exactly when a request waits on
it or it is an orphan, and never both. Every operation keeps this, so no stream is
lost, none is freed twice, and requests are turned away only when all are taken.
-/

import CqlDriver.Channel.StreamTable
import CqlDriver.Proofs.Channel.StreamIds

namespace CqlDriver.StreamTable

/-- The streams that are taken: those that requests wait on, and the orphans. -/
def held (table : StreamTable) : List Int16 := table.waiters.keys ++ table.orphans

/-- The books of an open channel. The count is exact as long as every id is the number
of a stream. -/
structure Accounted (table : StreamTable) : Prop where
  sound : table.ids.Sound
  reserved : ∀ stream, table.ids.contains stream = true ↔ stream ∈ table.held
  distinct : table.held.Nodup
  counted : table.ids.capacity ≤ 0x8000 → table.ids.inUse = table.held.length
  tolerated : table.orphans.length ≤ table.maxOrphans

structure Valid (table : StreamTable) : Prop where
  whileOpen : table.closed = none → table.Accounted
  afterClose : table.closed ≠ none → table.waiters = [] ∧ table.orphans = []

theorem new_accounted (maxRequests maxOrphans : Nat) : (new maxRequests maxOrphans).Accounted := by
  have sound := StreamIdSet.new_sound maxRequests
  refine ⟨sound, ?_, List.nodup_nil, fun _ => rfl, Nat.zero_le _⟩
  intro stream
  change (StreamIdSet.new maxRequests).contains stream = true ↔ stream ∈ []
  rw [sound.contains_iff, StreamIdSet.hasBit_new]
  simp

theorem Accounted.valid {table : StreamTable} (accounted : table.Accounted)
    (isOpen : table.closed = none) : table.Valid :=
  ⟨fun _ => accounted, fun closed => absurd isOpen closed⟩

def limits (table : StreamTable) : Nat × Nat := (table.ids.capacity, table.maxOrphans)

theorem limits_release (stream : Int16) (table : StreamTable) :
    (table.release stream).limits = table.limits :=
  congrArg (·, table.maxOrphans) (StreamIdSet.release_capacity table.ids stream)

theorem limits_reserve (table : StreamTable) : table.reserve.2.limits = table.limits := by
  have capacity := StreamIdSet.allocate_capacity table.ids
  unfold reserve
  split
  · rename_i ids allocated
    rw [allocated] at capacity
    exact congrArg (·, table.maxOrphans) capacity
  · rename_i stream ids allocated
    rw [allocated] at capacity
    exact congrArg (·, table.maxOrphans) capacity

theorem isWaiting_iff {table : StreamTable} {ticket : Ticket} :
    table.isWaiting ticket = true ↔
      table.waiters.find? ticket.stream = some ticket.request :=
  decide_eq_true_iff

theorem keys_of_isWaiting {table : StreamTable} {ticket : Ticket}
    (waits : table.isWaiting ticket = true) : ticket.stream ∈ table.waiters.keys :=
  (Table.find?_isSome_iff _ _).mp ⟨ticket.request, isWaiting_iff.mp waits⟩

/-- A request is given up too late, or its stream becomes an orphan, or this is one
orphan too many. -/
theorem abandon_cases (table : StreamTable) (ticket : Ticket) :
    (table.isWaiting ticket = false ∧ table.abandon ticket = ([], table)) ∨
    (table.isWaiting ticket = true ∧ table.orphans.length < table.maxOrphans ∧
      table.abandon ticket = ([], table.orphan ticket.stream)) ∨
    (table.isWaiting ticket = true ∧ table.maxOrphans ≤ table.orphans.length ∧
      table.abandon ticket = (table.orphan ticket.stream).close orphansReason) := by
  unfold abandon
  cases waits : table.isWaiting ticket with
  | false => exact Or.inl ⟨rfl, rfl⟩
  | true =>
      rw [if_pos rfl]
      dsimp only
      by_cases full : (table.orphan ticket.stream).maxOrphans <
          (table.orphan ticket.stream).orphans.length
      · rw [if_pos full]
        exact Or.inr (Or.inr ⟨rfl, Nat.le_of_lt_succ full, rfl⟩)
      · rw [if_neg full]
        exact Or.inr (Or.inl ⟨rfl, Nat.lt_of_succ_le (Nat.le_of_not_lt full), rfl⟩)

variable {table after : StreamTable} {stream : Int16} {ticket : Ticket}

theorem reserve_eq_some (reserved : table.reserve = (some ticket, after)) :
    table.ids.allocate = (some ticket.stream, after.ids) ∧
      ticket.request = table.accepted + 1 ∧
      after = { table with
        ids := after.ids
        waiters := table.waiters.put ticket.stream ticket.request
        accepted := ticket.request } := by
  unfold reserve at reserved
  cases allocated : table.ids.allocate with
  | mk given ids =>
      rw [allocated] at reserved
      cases given with
      | none => cases reserved
      | some stream =>
          cases reserved
          exact ⟨rfl, rfl, rfl⟩

theorem reserve_eq_none (refused : table.reserve = (none, after)) :
    table.ids.allocate = (none, after.ids) ∧ after = { table with ids := after.ids } := by
  unfold reserve at refused
  cases allocated : table.ids.allocate with
  | mk given ids =>
      rw [allocated] at refused
      cases given with
      | some stream => cases refused
      | none =>
          cases refused
          exact ⟨rfl, rfl⟩

namespace Accounted

theorem keys_nodup (accounted : table.Accounted) : table.waiters.keys.Nodup :=
  (List.nodup_append.mp accounted.distinct).1

theorem orphans_nodup (accounted : table.Accounted) : table.orphans.Nodup :=
  (List.nodup_append.mp accounted.distinct).2.1

/-- No request waits on an orphan. -/
theorem separate (accounted : table.Accounted) (waiting : stream ∈ table.waiters.keys) :
    stream ∉ table.orphans :=
  fun orphaned => (List.nodup_append.mp accounted.distinct).2.2 stream waiting stream orphaned rfl

theorem allocate_fresh (accounted : table.Accounted) {ids : StreamIdSet}
    (allocated : table.ids.allocate = (some stream, ids)) : stream ∉ table.held := by
  intro wasTaken
  have free := (StreamIdSet.allocate_some accounted.sound allocated).1
  rw [(accounted.reserved stream).mpr wasTaken] at free
  cases free

theorem take (accounted : table.Accounted)
    (allocated : table.ids.allocate = (some stream, after.ids))
    (taken : after.held.Perm (stream :: table.held))
    (sameOrphans : after.orphans = table.orphans)
    (sameLimit : after.maxOrphans = table.maxOrphans) :
    after.Accounted := by
  obtain ⟨_, sound, contains, inUse⟩ := StreamIdSet.allocate_some accounted.sound allocated
  have capacity := StreamIdSet.allocate_capacity table.ids
  rw [allocated] at capacity
  dsimp only at capacity
  refine ⟨sound, ?_, ?_, ?_, ?_⟩
  · intro other
    rw [contains, accounted.reserved, taken.mem_iff, List.mem_cons]
    exact Or.comm
  · exact taken.nodup_iff.mpr (List.nodup_cons.mpr
      ⟨accounted.allocate_fresh allocated, accounted.distinct⟩)
  · intro bounded
    rw [inUse, accounted.counted (by omega), taken.length_eq, List.length_cons]
  · rw [sameOrphans, sameLimit]
    exact accounted.tolerated

theorem free (accounted : table.Accounted) (wasTaken : stream ∈ table.held)
    (released : after.ids = (table.ids.release stream).2)
    (left : after.held.Perm (table.held.erase stream))
    (fewer : after.orphans.length ≤ table.orphans.length)
    (sameLimit : after.maxOrphans = table.maxOrphans) : after.Accounted := by
  obtain ⟨_, sound, contains, inUse⟩ :=
    StreamIdSet.release_marked accounted.sound ((accounted.reserved stream).mpr wasTaken)
  have capacity := StreamIdSet.release_capacity table.ids stream
  rw [← released] at sound contains inUse capacity
  refine ⟨sound, ?_, ?_, ?_, ?_⟩
  · intro other
    rw [contains, accounted.reserved, left.mem_iff, accounted.distinct.mem_erase_iff]
    exact And.comm
  · exact left.nodup_iff.mpr (accounted.distinct.erase stream)
  · intro bounded
    rw [inUse, accounted.counted (by omega), left.length_eq, List.length_erase_of_mem wasTaken]
  · have tolerated := accounted.tolerated
    omega

/-- A new request waits on a stream that was free. -/
theorem reserve_some (accounted : table.Accounted)
    (reserved : table.reserve = (some ticket, after)) :
    after.Accounted ∧ ticket.stream ∉ table.held ∧ ticket.request = table.accepted + 1 ∧
      after = { table with
        ids := after.ids
        waiters := table.waiters ++ [(ticket.stream, ticket.request)]
        accepted := ticket.request } := by
  obtain ⟨allocated, number, same⟩ := reserve_eq_some reserved
  have fresh := accounted.allocate_fresh allocated
  rw [Table.put_of_not_mem fun waiting => fresh (List.mem_append_left _ waiting)] at same
  refine ⟨?_, fresh, number, same⟩
  apply accounted.take allocated
  · rw [same]
    unfold held Table.keys
    rw [List.map_append, List.append_assoc]
    exact List.perm_middle
  · rw [same]
  · rw [same]

theorem reserve_none (accounted : table.Accounted) (refused : table.reserve = (none, after)) :
    after.Accounted ∧ after = { table with ids := after.ids } ∧
      (table.ids.capacity ≤ 0x8000 →
        ∀ id, id < table.ids.capacity → StreamIdSet.hasBit table.ids.words id = true) := by
  obtain ⟨allocated, same⟩ := reserve_eq_none refused
  obtain ⟨sound, contains, full⟩ := StreamIdSet.allocate_none accounted.sound allocated
  have capacity := StreamIdSet.allocate_capacity table.ids
  rw [allocated] at capacity
  dsimp only at capacity
  refine ⟨?_, same, fun bounded => (full bounded).2⟩
  rw [same]
  refine ⟨sound, ?_, accounted.distinct, ?_, accounted.tolerated⟩
  · intro other
    rw [contains]
    exact accounted.reserved other
  · intro bounded
    have bounded : after.ids.capacity ≤ 0x8000 := bounded
    have sameIds := (full (by omega)).1
    change after.ids.inUse = table.held.length
    rw [sameIds]
    exact accounted.counted (by omega)

theorem held_erase_waiter (accounted : table.Accounted)
    (waiting : stream ∈ table.waiters.keys) :
    (table.waiters.erase stream).keys ++ table.orphans = table.held.erase stream := by
  unfold held
  rw [Table.keys_erase_of_nodup accounted.keys_nodup, List.erase_append_left _ waiting]

theorem endWaiter (accounted : table.Accounted) (waiting : stream ∈ table.waiters.keys) :
    ({ table with waiters := table.waiters.erase stream }.release stream).Accounted := by
  refine accounted.free (List.mem_append_left _ waiting) rfl ?_ (Nat.le_refl _) rfl
  have left := accounted.held_erase_waiter waiting
  exact .of_eq left

theorem endOrphan (accounted : table.Accounted) (notWaiting : stream ∉ table.waiters.keys)
    (orphaned : stream ∈ table.orphans) :
    ({ table with orphans := table.orphans.erase stream }.release stream).Accounted := by
  refine accounted.free (List.mem_append_right _ orphaned) rfl ?_ List.length_erase_le rfl
  have left : table.waiters.keys ++ table.orphans.erase stream = table.held.erase stream :=
    (List.erase_append_right _ notWaiting).symm
  exact .of_eq left

theorem complete (accounted : table.Accounted) (frame : Frame) :
    (table.complete frame).2.Accounted := by
  unfold StreamTable.complete
  split
  · rename_i request found
    exact accounted.endWaiter ((Table.find?_isSome_iff _ _).mp ⟨request, found⟩)
  · rename_i missing
    split
    · rename_i orphaned
      exact accounted.endOrphan ((Table.find?_eq_none_iff _ _).mp missing) orphaned
    · exact accounted

theorem failStream (accounted : table.Accounted) (stream : Int16) (error : DriverError) :
    (table.failStream stream error).2.Accounted := by
  unfold StreamTable.failStream
  split
  · rename_i request found
    exact accounted.endWaiter ((Table.find?_isSome_iff _ _).mp ⟨request, found⟩)
  · exact accounted

theorem held_orphan (accounted : table.Accounted) (waiting : stream ∈ table.waiters.keys) :
    (table.orphan stream).held.Perm table.held := by
  have behind : (table.orphan stream).held.Perm (stream :: table.held.erase stream) := by
    rw [← accounted.held_erase_waiter waiting]
    exact List.perm_middle
  exact behind.trans (List.perm_cons_erase (List.mem_append_left _ waiting)).symm

theorem orphan (accounted : table.Accounted) (waiting : stream ∈ table.waiters.keys)
    (room : table.orphans.length < table.maxOrphans) :
    (table.orphan stream).Accounted := by
  have moved := accounted.held_orphan waiting
  refine ⟨accounted.sound, ?_, ?_, ?_, room⟩
  · intro other
    rw [moved.mem_iff]
    exact accounted.reserved other
  · exact moved.nodup_iff.mpr accounted.distinct
  · intro bounded
    rw [moved.length_eq]
    exact accounted.counted bounded

end Accounted

theorem Accounted.in_range (accounted : table.Accounted) (taken : stream ∈ table.held) :
    0 ≤ stream.toInt ∧ stream.toInt < table.ids.capacity := by
  obtain ⟨positive, bit⟩ := accounted.sound.contains_iff.mp ((accounted.reserved stream).mpr taken)
  have below := accounted.sound.within _ bit
  omega

theorem Accounted.hasBit_iff (accounted : table.Accounted)
    (bounded : table.ids.capacity ≤ 0x8000) (id : Nat) :
    StreamIdSet.hasBit table.ids.words id = true ↔ ∃ stream ∈ table.held, stream.toInt = id := by
  constructor
  · intro bit
    have below := accounted.sound.within id bit
    have number : (Int16.ofNat id).toInt = id :=
      Int16.toInt_ofNat_of_lt (Nat.lt_of_lt_of_le below bounded)
    refine ⟨Int16.ofNat id, ?_, number⟩
    rw [← accounted.reserved, accounted.sound.contains_iff, number, Int.toNat_natCast]
    exact ⟨Int.natCast_nonneg id, bit⟩
  · rintro ⟨stream, taken, number⟩
    have bit := (accounted.sound.contains_iff.mp ((accounted.reserved stream).mpr taken)).2
    rw [number, Int.toNat_natCast] at bit
    exact bit

def numbersBelow (bound : Nat) : List Int := (List.range bound).map Int.ofNat

theorem mem_numbersBelow {bound : Nat} {number : Int} :
    number ∈ numbersBelow bound ↔ 0 ≤ number ∧ number < bound := by
  unfold numbersBelow
  rw [List.mem_map]
  constructor
  · rintro ⟨id, member, same⟩
    have below := List.mem_range.mp member
    rw [← same]
    exact ⟨Int.natCast_nonneg id, Int.ofNat_lt.mpr below⟩
  · rintro ⟨positive, below⟩
    exact ⟨number.toNat, List.mem_range.mpr (by omega), Int.toNat_of_nonneg positive⟩

theorem Accounted.length_held_le (accounted : table.Accounted) :
    table.held.length ≤ table.ids.capacity := by
  have distinct : (table.held.map Int16.toInt).Nodup :=
    List.Pairwise.map Int16.toInt
      (fun left right different same => different (Int16.toInt_inj.mp same)) accounted.distinct
  have inside : table.held.map Int16.toInt ⊆ numbersBelow table.ids.capacity := by
    intro number member
    obtain ⟨stream, taken, same⟩ := List.mem_map.mp member
    rw [mem_numbersBelow, ← same]
    exact accounted.in_range taken
  have shorter := distinct.length_le_of_subset inside
  unfold numbersBelow at shorter
  rw [List.length_map, List.length_map, List.length_range] at shorter
  exact shorter

theorem Accounted.length_held_of_full (accounted : table.Accounted)
    (bounded : table.ids.capacity ≤ 0x8000)
    (full : ∀ id, id < table.ids.capacity → StreamIdSet.hasBit table.ids.words id = true) :
    table.ids.capacity ≤ table.held.length := by
  have distinct : (numbersBelow table.ids.capacity).Nodup :=
    List.Pairwise.map Int.ofNat
      (fun left right different same => different (Int.ofNat.inj same)) List.nodup_range
  have covered : numbersBelow table.ids.capacity ⊆ table.held.map Int16.toInt := by
    intro number member
    obtain ⟨positive, below⟩ := mem_numbersBelow.mp member
    obtain ⟨stream, taken, same⟩ :=
      (accounted.hasBit_iff bounded number.toNat).mp (full number.toNat (by omega))
    exact List.mem_map.mpr ⟨stream, taken, by omega⟩
  have shorter := distinct.length_le_of_subset covered
  unfold numbersBelow at shorter
  rw [List.length_map, List.length_map, List.length_range] at shorter
  exact shorter

/-- A request finds no stream exactly when every one is taken. -/
theorem Accounted.reserve_none_iff (accounted : table.Accounted)
    (bounded : table.ids.capacity ≤ 0x8000) :
    table.reserve.1 = none ↔ table.held.length = table.ids.capacity := by
  cases reserved : table.reserve with
  | mk given after =>
      cases given with
      | none =>
          have full := accounted.length_held_of_full bounded ((accounted.reserve_none reserved).2.2 bounded)
          have most := accounted.length_held_le
          exact ⟨fun _ => by omega, fun _ => rfl⟩
      | some ticket =>
          have room : table.held.length ≠ table.ids.capacity := by
            obtain ⟨booked, _, _, same⟩ := accounted.reserve_some reserved
            have most := booked.length_held_le
            have capacity : after.ids.capacity = table.ids.capacity := by
              have kept := limits_reserve table
              rw [reserved] at kept
              exact (Prod.mk.inj kept).1
            have longer : after.held.length = table.held.length + 1 := by
              rw [same]
              unfold held Table.keys
              simp only [List.length_append, List.length_map, List.length_cons, List.length_nil]
              omega
            omega
          exact ⟨fun nothing => absurd nothing (Option.some_ne_none ticket),
            fun full => absurd full room⟩

theorem close_of_closed (reason : String) (shut : table.closed ≠ none) :
    table.close reason = ([], table) := by
  unfold close
  cases state : table.closed with
  | none => exact absurd state shut
  | some earlier => rfl

theorem close_of_open (reason : String) (isOpen : table.closed = none) :
    table.close reason =
      (table.waiters.values.map fun request =>
          { request, result := .error (.channelClosed reason) },
        { table with closed := some reason, waiters := [], orphans := [] }) := by
  unfold close
  rw [isOpen]

theorem close_closed (reason : String) (table : StreamTable) :
    (table.close reason).2.closed ≠ none := by
  by_cases isOpen : table.closed = none
  · rw [close_of_open reason isOpen]
    exact Option.some_ne_none reason
  · rw [close_of_closed reason isOpen]
    exact isOpen

namespace Valid

theorem close (valid : table.Valid) (reason : String) : (table.close reason).2.Valid := by
  by_cases isOpen : table.closed = none
  · rw [close_of_open reason isOpen]
    exact ⟨fun still => absurd still (Option.some_ne_none reason), fun _ => ⟨rfl, rfl⟩⟩
  · rw [close_of_closed reason isOpen]
    exact valid

theorem open_of_isWaiting (valid : table.Valid) (waits : table.isWaiting ticket = true) :
    table.closed = none := by
  by_cases isOpen : table.closed = none
  · exact isOpen
  · rw [isWaiting_iff, (valid.afterClose isOpen).1] at waits
    cases waits

theorem drain (valid : table.Valid) : table.drain.Valid :=
  ⟨fun isOpen =>
    have accounted := valid.whileOpen isOpen
    ⟨accounted.sound, accounted.reserved, accounted.distinct, accounted.counted,
      accounted.tolerated⟩,
    valid.afterClose⟩

/-- An operation that does nothing where no stream is taken, and that neither opens
nor closes the channel. -/
theorem keep (valid : table.Valid) (sameState : after.closed = table.closed)
    (booked : table.Accounted → after.Accounted)
    (idle : table.waiters = [] → table.orphans = [] → after = table) : after.Valid := by
  refine ⟨fun isOpen => booked (valid.whileOpen (sameState ▸ isOpen)), fun shut => ?_⟩
  rw [sameState] at shut
  obtain ⟨noWaiters, noOrphans⟩ := valid.afterClose shut
  rw [idle noWaiters noOrphans]
  exact ⟨noWaiters, noOrphans⟩

theorem complete (valid : table.Valid) (frame : Frame) : (table.complete frame).2.Valid := by
  apply valid.keep
  · unfold StreamTable.complete
    split
    · rfl
    · split
      · rfl
      · rfl
  · exact fun accounted => accounted.complete frame
  · intro noWaiters noOrphans
    unfold StreamTable.complete
    rw [noWaiters, noOrphans]
    rfl

theorem failStream (valid : table.Valid) (stream : Int16) (error : DriverError) :
    (table.failStream stream error).2.Valid := by
  apply valid.keep
  · unfold StreamTable.failStream
    split
    · rfl
    · rfl
  · exact fun accounted => accounted.failStream stream error
  · intro noWaiters _
    unfold StreamTable.failStream
    rw [noWaiters]
    rfl

theorem reserve (valid : table.Valid) (isOpen : table.closed = none) :
    table.reserve.2.Valid := by
  have accounted := valid.whileOpen isOpen
  cases reserved : table.reserve with
  | mk given after =>
      cases given with
      | none =>
          obtain ⟨booked, same, _⟩ := accounted.reserve_none reserved
          exact booked.valid (by rw [same]; exact isOpen)
      | some ticket =>
          obtain ⟨booked, _, _, same⟩ := accounted.reserve_some reserved
          exact booked.valid (by rw [same]; exact isOpen)

theorem abandon (valid : table.Valid) (ticket : Ticket) : (table.abandon ticket).2.Valid := by
  rcases abandon_cases table ticket with ⟨_, same⟩ | ⟨waits, room, same⟩ | ⟨waits, _, same⟩
  · rw [same]
    exact valid
  · have isOpen := valid.open_of_isWaiting waits
    rw [same]
    exact ((valid.whileOpen isOpen).orphan (keys_of_isWaiting waits) room).valid isOpen
  · have isOpen : (table.orphan ticket.stream).closed = none := valid.open_of_isWaiting waits
    rw [same, close_of_open _ isOpen]
    exact ⟨fun still => absurd still (Option.some_ne_none _), fun _ => ⟨rfl, rfl⟩⟩

end Valid

theorem send_draining (address : SocketAddress) (isOpen : table.closed = none)
    (draining : table.draining = true) :
    table.send address = (.error (.channelClosed "channel is draining"), table) := by
  unfold send
  rw [isOpen]
  dsimp only
  rw [if_pos draining]

/-- A caller of an open channel gets a ticket exactly when a stream could be reserved. -/
theorem send_open (address : SocketAddress) (isOpen : table.closed = none)
    (accepting : table.draining = false) :
    table.send address =
      match table.reserve with
      | (some ticket, after) => (.ok ticket, after)
      | (none, after) => (.error (.busy address), after) := by
  unfold send
  rw [isOpen]
  dsimp only
  have notDraining : ¬table.draining = true := by
    rw [accepting]
    exact Bool.false_ne_true
  exact if_neg notDraining

theorem send_closed (address : SocketAddress) {reason : String}
    (shut : table.closed = some reason) :
    table.send address = (.error (.channelClosed reason), table) := by
  unfold send
  rw [shut]

theorem send_cases (address : SocketAddress) (table : StreamTable) :
    (∃ error after, table.send address = (.error error, after) ∧
      (after = table ∨ table.closed = none ∧ table.reserve = (none, after))) ∨
    ∃ ticket after, table.closed = none ∧ table.reserve = (some ticket, after) ∧
      table.send address = (.ok ticket, after) := by
  cases shut : table.closed with
  | some reason => exact .inl ⟨_, table, send_closed address shut, .inl rfl⟩
  | none =>
      cases draining : table.draining with
      | true => exact .inl ⟨_, table, send_draining address shut draining, .inl rfl⟩
      | false =>
          rw [send_open address shut draining]
          cases reserved : table.reserve with
          | mk given after =>
              cases given with
              | none => exact .inl ⟨_, after, rfl, .inr ⟨rfl, rfl⟩⟩
              | some ticket => exact .inr ⟨ticket, after, rfl, rfl, rfl⟩

theorem Valid.send (valid : table.Valid) (address : SocketAddress) :
    (table.send address).2.Valid := by
  rcases send_cases address table with
    ⟨_, after, sent, same | ⟨isOpen, refused⟩⟩ | ⟨ticket, after, isOpen, reserved, sent⟩
  · rw [sent, same]
    exact valid
  · have booked := valid.reserve isOpen
    rw [refused] at booked
    rw [sent]
    exact booked
  · have booked := valid.reserve isOpen
    rw [reserved] at booked
    rw [sent]
    exact booked

end CqlDriver.StreamTable
