/-
A resize by itself. Nothing happens to the pool from its turn to its end but what it waits for:
the ends of its attempts to open channels, or of its drains, in any order.
-/

import CqlDriver.Proofs.Pool.Arrivals
import CqlDriver.Proofs.Pool.Distinct

namespace CqlDriver

namespace PoolSite

variable {site found : PoolSite} {caller : ResizeCaller}
  {outcomes : Nat → Except DriverError (List UInt8 × Nat)} {arrivals : List PoolMove}
  {results : List (Except DriverError ChannelId)} {id : ChannelId}

def held (site : PoolSite) : List ChannelId := site.pool.unclosed site.view

/-- How many channels there are too few. -/
def missing (site : PoolSite) : Nat := site.target - site.held.length

/-- How an open pool is after a resize by itself, with what it asked for until then, and what
the resize gives. -/
structure Resized (site after : PoolSite)
    (outcomes : Nat → Except DriverError (List UInt8 × Nat)) (asked : List PoolEffect)
    (sized : Pool) (result : Except DriverError Nat) : Prop where
  stays : ∀ id ∈ after.pool.channels, id ∈ site.held ∨ site.channels.length ≤ id.number
  untouched : ∀ id ∈ site.held, id ∈ after.pool.channels →
    after.channels[id.number]? = site.channels[id.number]?
  shrinks : site.target < site.held.length →
    after.pool.channels.length = site.target ∧
      ∀ id ∈ site.held, id ∉ after.pool.channels →
        .drain id ∈ asked ∧ (after.view.channel id).isClosed = true ∧
          ∀ kept ∈ after.pool.channels,
            ∀ idle ∈ site.channels[id.number]?, ∀ busy ∈ site.channels[kept.number]?,
              idle.table.ids.inUse ≤ busy.table.ids.inUse
  grows : site.held.length ≤ site.target →
    (∀ id ∈ site.held, id ∈ after.pool.channels) ∧
      after.pool.channels.length = site.held.length +
        (List.range site.missing).countP fun place => (outcomes place).isOk
  attempts : asked.countP PoolEffect.isAttempt = site.missing
  within : after.pool.channels.length ≤ site.target
  failed : result.isOk = false ↔
    (∃ place < site.missing, (outcomes place).isOk = false) ∧ after.pool.channels = []
  down : .signalDown ∈ asked ↔ result.isOk = false
  up : .signalUp ∈ asked ↔ ∃ place < site.missing, (outcomes place).isOk = true
  looping : sized.isReconnecting =
    (site.pool.isReconnecting || decide (after.pool.channels.length < site.target))
  silent : asked.filterMap PoolEffect.answer? = []
  begun : asked.countP PoolEffect.isAlarm =
    if after.pool.channels.length < site.target ∧ site.pool.isReconnecting = false then 1 else 0

/-- How the end of a resize is told. One who asked gets the result, and nobody else is told
anything. The loop ends once the pool has its size. -/
structure Told (target : Nat) (caller : ResizeCaller) (result : Except DriverError Nat)
    (effects : List PoolEffect) (sized after : Pool) : Prop where
  answers : effects.filterMap PoolEffect.answer? =
    if caller = .loop then [] else [(caller, result)]
  goesOn : after.isReconnecting =
    (sized.isReconnecting && (decide (caller ≠ .loop) || !Pool.reaches target result))

def Concludes (site : PoolSite) (caller : ResizeCaller)
    (outcomes : Nat → Except DriverError (List UInt8 × Nat)) (arrivals : List PoolMove) : Prop :=
  let outcome := site.pool.beginResize site.view caller
  let begun := site.carryOut outcome
  ∃ asked sized result,
    let ending := sized.finishResize site.view caller result
    outcome.1 ++ begun.wants arrivals = asked ++ ending.1 ∧
      (begun.performAll arrivals).pool = ending.2 ∧
        site.Resized (begun.performAll arrivals) outcomes asked sized result

theorem known_of_held (member : id ∈ site.held) : id.number < site.channels.length := by
  have closed := (Pool.mem_unclosed.mp member).2
  apply Nat.lt_of_not_le
  intro beyond
  change (ChannelView.among site.channels id).isClosed = false at closed
  unfold ChannelView.among at closed
  rw [List.getElem?_eq_none beyond] at closed
  cases closed

theorem channels_finish {ending : List PoolEffect × Pool}
    (aside : ∀ effect ∈ ending.1, effect.isAside = true) :
    (site.carryOut ending).channels = site.channels :=
  PoolEffect.foldl_touch_of_idle
    (fun effect member => PoolEffect.touch_of_aside (aside effect member)) site.channels

theorem channels_grown {effects rest : List PoolEffect} {pool : Pool}
    (asked : ∀ effect ∈ effects, (∃ id, effect = .watch id) ∨ effect.isAside = true)
    (aside : ∀ effect ∈ rest, effect.isAside = true) :
    (site.carryOut (effects ++ rest, pool)).channels = site.channels := by
  apply PoolEffect.foldl_touch_of_idle
  intro effect member channels
  cases List.mem_append.mp member with
  | inl among =>
      cases asked effect among with
      | inl watching =>
          obtain ⟨id, rfl⟩ := watching
          rfl
      | inr away => exact PoolEffect.touch_of_aside away channels
  | inr among => exact PoolEffect.touch_of_aside (aside effect among) channels

theorem awaited_finishResize (view : PoolView) (caller : ResizeCaller)
    (result : Except DriverError Nat) (pool : Pool) :
    (site.carryOut (pool.finishResize view caller result)).awaited outcomes = [] := by
  unfold awaited
  rcases Pool.finishResize_resizing view caller result pool with idle | ⟨next, turn⟩
  · simp only [carryOut, idle]
  · simp only [carryOut, turn]

theorem concludes_of_enough (isOpen : site.pool.isClosed = false)
    (enough : site.held.length = site.target)
    (awaited : arrivals.Perm
      ((site.carryOut (site.pool.beginResize site.view caller)).awaited outcomes)) :
    site.Concludes caller outcomes arrivals := by
  let sized : Pool := { site.pool with channels := site.held }
  have begins : site.pool.beginResize site.view caller =
      sized.finishResize site.view caller (.ok site.target) :=
    Pool.beginResize_of_enough isOpen enough caller
  rw [begins, awaited_finishResize, List.perm_nil] at awaited
  subst awaited
  unfold Concludes
  rw [begins]
  let ending := sized.finishResize site.view caller (.ok site.target)
  have kept : ending.2.channels = site.held := Pool.finishResize_channels caller _ sized
  have same : (site.carryOut ending).channels = site.channels :=
    channels_finish (Pool.finishResize_aside caller _ sized)
  have none : site.missing = 0 := by
    unfold missing
    omega
  have whole : ¬ending.2.channels.length < site.target := by
    rw [kept]
    omega
  refine ⟨[], sized, .ok site.target, List.append_nil _, rfl, ?_⟩
  change site.Resized (site.carryOut ending) outcomes [] sized _
  constructor
  case stays => exact fun id member => .inl (kept ▸ member)
  case untouched =>
    intro id _ _
    rw [same]
  case shrinks => omega
  case grows =>
    intro _
    rw [none]
    exact ⟨fun id member => kept.symm ▸ member, congrArg List.length kept⟩
  case attempts => exact none.symm
  case within => exact Nat.le_of_eq ((congrArg List.length kept).trans enough)
  case failed => simp [none, Except.isOk, Except.toBool]
  case down => simp [Except.isOk, Except.toBool]
  case up => simp [none]
  case looping =>
    change site.pool.isReconnecting = (_ || decide (ending.2.channels.length < site.target))
    rw [decide_eq_false whole, Bool.or_false]
  case silent => rfl
  case begun => exact (if_neg fun short => whole short.1).symm

structure Parted (site : PoolSite) (stay excess : List ChannelId) : Prop where
  perm : (stay ++ excess).Perm site.held
  busier : ∀ kept ∈ stay, ∀ other ∈ excess,
    (site.view.channel other).streamsInUse ≤ (site.view.channel kept).streamsInUse

theorem parted_busiestFirst (site : PoolSite) (count : Nat) :
    let sorted := Pool.busiestFirst site.view site.held
    site.Parted (sorted.take count) (sorted.drop count) := by
  refine ⟨?_, Pool.busiestFirst_split site.view site.held count⟩
  rw [List.take_append_drop]
  exact List.mergeSort_perm _ _

theorem Parted.busier_reserved {stay excess : List ChannelId} {kept : ChannelId}
    (parted : site.Parted stay excess) (stays : kept ∈ stay) (goes : id ∈ excess) :
    ∀ idle ∈ site.channels[id.number]?, ∀ busy ∈ site.channels[kept.number]?,
      idle.table.ids.inUse ≤ busy.table.ids.inUse := by
  intro idle left busy right
  have ordered := parted.busier kept stays id goes
  change (ChannelView.among site.channels id).streamsInUse ≤
    (ChannelView.among site.channels kept).streamsInUse at ordered
  unfold ChannelView.among at ordered
  rw [left, right] at ordered
  exact ordered

/-- A resize whose drains are over, with all channels that had to be drained shut. -/
theorem Parted.resized {stay excess order : List ChannelId} (parted : site.Parted stay excess)
    (distinct : site.pool.channels.Nodup) (more : site.target < site.held.length)
    (count : stay.length = site.target) (reordered : order.Perm excess) {after : PoolSite}
    (kept : after.pool.channels = stay)
    (drained : after.channels =
      changeAll shut order (changeAll Channel.drain excess site.channels))
    {sized : Pool} (same : sized.isReconnecting = site.pool.isReconnecting) (size : Nat) :
    site.Resized after outcomes (excess.map .drain) sized (.ok size) := by
  have once : (stay ++ excess).Nodup := parted.perm.nodup_iff.mpr (distinct.filter _)
  obtain ⟨_, onceDrained, apart⟩ := List.nodup_append.mp once
  have onceShut := reordered.nodup_iff.mpr onceDrained
  have none : site.missing = 0 := by
    unfold missing
    omega
  have whole : ¬after.pool.channels.length < site.target := by
    rw [kept, count]
    omega
  constructor
  case stays =>
    intro id member
    rw [kept] at member
    exact .inl (parted.perm.mem_iff.mp (List.mem_append_left _ member))
  case untouched =>
    intro id _ member
    rw [kept] at member
    have spared : id ∉ excess := fun gone => apart id member id gone rfl
    rw [drained, getElem?_changeAll onceShut, getElem?_changeAll onceDrained,
      if_neg fun gone => spared (reordered.mem_iff.mp gone), if_neg spared]
  case shrinks =>
    intro _
    refine ⟨(congrArg List.length kept).trans count, fun id member left => ?_⟩
    have gone : id ∈ excess := by
      rw [kept] at left
      exact (List.mem_append.mp (parted.perm.mem_iff.mpr member)).resolve_left left
    refine ⟨List.mem_map_of_mem gone, ?_, fun other stays => ?_⟩
    · apply ChannelView.isClosed_among.mpr
      intro channel present
      rw [drained, getElem?_changeAll onceShut, if_pos (reordered.mem_iff.mpr gone)] at present
      obtain ⟨before, _, rfl⟩ := Option.map_eq_some_iff.mp present
      exact before.isClosed_close Channel.drainedReason
    · rw [kept] at stays
      exact parted.busier_reserved stays gone
  case grows => omega
  case attempts =>
    rw [none, List.countP_eq_zero]
    simp [PoolEffect.isAttempt]
  case within => exact Nat.le_of_eq ((congrArg List.length kept).trans count)
  case failed => simp [none, Except.isOk, Except.toBool]
  case down => simp [Except.isOk, Except.toBool]
  case up => simp [none]
  case looping => rw [decide_eq_false whole, Bool.or_false, same]
  case silent => simp [PoolEffect.answer?]
  case begun =>
    rw [if_neg fun short => whole short.1, List.countP_eq_zero]
    simp [PoolEffect.isAlarm]

theorem concludes_of_more (isOpen : site.pool.isClosed = false)
    (distinct : site.pool.channels.Nodup) (more : site.target < site.held.length)
    (awaited : arrivals.Perm
      ((site.carryOut (site.pool.beginResize site.view caller)).awaited outcomes)) :
    site.Concludes caller outcomes arrivals := by
  let sorted := Pool.busiestFirst site.view site.held
  let stay := sorted.take site.target
  let excess := sorted.drop site.target
  have parted : site.Parted stay excess := parted_busiestFirst site site.target
  have all : sorted.length = site.held.length := List.length_mergeSort _
  have count : stay.length = site.target := by
    rw [List.length_take]
    omega
  have begins : site.pool.beginResize site.view caller = (excess.map .drain,
      { site.pool with channels := stay, resizing := some (caller, .draining excess) }) :=
    Pool.beginResize_of_more isOpen more caller
  rw [begins] at awaited
  obtain ⟨order, reordered, rfl⟩ := exists_order awaited
  have pending : order ≠ [] := by
    intro none
    have rest : excess.length = 0 := by rw [← reordered.length_eq, none]; rfl
    rw [List.length_drop] at rest
    omega
  let begun : PoolSite := site.carryOut (excess.map .drain,
    { site.pool with channels := stay, resizing := some (caller, .draining excess) })
  have waits : begun.pool.resizing = some (caller, .draining excess) := rfl
  have drains : begun.channels = changeAll Channel.drain excess site.channels := by
    change (excess.map PoolEffect.drain).foldl PoolEffect.touch site.channels = _
    rw [List.foldl_map]
    rfl
  obtain ⟨found, size, ⟨resizing, reached⟩, performs, wanted⟩ :=
    exists_drained waits reordered pending
  have target : found.view.target = site.view.target := by rw [reached]; rfl
  rw [Pool.finishResize_of_target target] at performs wanted
  let ending := found.pool.finishResize site.view caller (.ok size)
  unfold Concludes
  rw [begins]
  refine ⟨excess.map .drain, found.pool, .ok size, congrArg (_ ++ ·) wanted,
    congrArg PoolSite.pool performs, ?_⟩
  change site.Resized (begun.performAll (order.map .drained)) outcomes _ _ _
  rw [performs]
  apply parted.resized distinct more count reordered
  case kept =>
    change ending.2.channels = stay
    rw [Pool.finishResize_channels, reached]
    rfl
  case drained =>
    rw [channels_finish (Pool.finishResize_aside caller _ _), reached, drains]
  case same =>
    rw [reached]
    rfl

structure Growth (site found : PoolSite)
    (outcomes : Nat → Except DriverError (List UInt8 × Nat))
    (results : List (Except DriverError ChannelId)) : Prop where
  isOpen : found.pool.isClosed = false
  target : found.target = site.target
  held : found.pool.channels = site.held
  reconnecting : found.pool.isReconnecting = site.pool.isReconnecting
  channels : ∃ more, found.channels = site.channels ++ more
  failing : (∃ result ∈ results, result.isOk = false) ↔
    ∃ place < site.missing, (outcomes place).isOk = false
  count : (Pool.opened results).length =
    (List.range site.missing).countP fun place => (outcomes place).isOk
  fresh : ∀ id ∈ Pool.opened results, site.channels.length ≤ id.number

theorem exists_growth (isOpen : site.pool.isClosed = false)
    (fewer : site.held.length < site.target)
    (awaited : arrivals.Perm
      ((site.carryOut (site.pool.beginResize site.view caller)).awaited outcomes)) :
    let outcome := site.pool.beginResize site.view caller
    let begun := site.carryOut outcome
    outcome.1 = (List.range site.missing).map .connect ∧
      ∃ found results, site.Growth found outcomes results ∧
        let grown := found.pool.grown found.view caller site.target results
        begun.performAll arrivals = found.carryOut grown ∧ begun.wants arrivals = grown.1 := by
  let places : List (Option (Except DriverError ChannelId)) := List.replicate site.missing none
  let connects := (List.range site.missing).map PoolEffect.connect
  have whole : places.length = site.missing := List.length_replicate
  have begins : site.pool.beginResize site.view caller = (connects,
      { site.pool with
        channels := site.held
        resizing := some (caller, .connecting site.target places) }) :=
    Pool.beginResize_of_fewer isOpen fewer caller
  rw [begins] at awaited ⊢
  obtain ⟨order, reordered, rfl⟩ := exists_order awaited
  intro outcome begun
  have untouched : begun.channels = site.channels := by
    apply PoolEffect.foldl_touch_of_idle
    intro effect member channels
    obtain ⟨place, _, rfl⟩ := List.mem_map.mp member
    rfl
  have undecided (place : Nat) : places[place]? = some none ↔ place ∈ order := by
    rw [reordered.mem_iff, List.mem_range, whole]
    simp [places, List.getElem?_replicate]
  have pending : order ≠ [] := by
    intro none
    have count := reordered.length_eq
    rw [none, List.length_range, whole, List.length_nil] at count
    unfold missing at count
    omega
  have waits : begun.pool.resizing = some (caller, .connecting site.target places) := rfl
  obtain ⟨found, results, ⟨more, resizing, reached⟩, performs, wanted, settles⟩ :=
    exists_grown outcomes waits undecided (reordered.nodup_iff.mpr List.nodup_range) pending
  refine ⟨rfl, found, results, ?_, performs, wanted⟩
  have failing := settles.exists_isOk reordered false
  have count := settles.length_opened reordered
  rw [whole] at failing count
  constructor
  case isOpen => rw [reached]; exact isOpen
  case target => rw [reached]; rfl
  case held => rw [reached]; rfl
  case reconnecting => rw [reached]; rfl
  case channels => exact ⟨more, by rw [reached, untouched]⟩
  case failing => exact failing
  case count => exact count
  case fresh =>
    intro id isNew
    rw [← untouched]
    exact settles.known_le reordered isNew

theorem Growth.resized (growth : site.Growth found outcomes results)
    (fewer : site.held.length < site.target) :
    let asked := (List.range site.missing).map .connect ++
      found.pool.growthAsked site.target results
    let grown := found.pool.grownBy results
    let sized := (grown.seekMore site.target).2
    let result := Pool.growthResult grown.channels.length results
    let ending := sized.finishResize site.view caller result
    site.Resized (found.carryOut (found.pool.growthAsked site.target results ++ ending.1,
      ending.2)) outcomes asked sized result := by
  intro asked grown sized result ending
  let connects := (List.range site.missing).map PoolEffect.connect
  have taken : grown.channels = site.held ++ Pool.opened results :=
    congrArg (· ++ Pool.opened results) growth.held
  have kept : ending.2.channels = site.held ++ Pool.opened results := by
    rw [Pool.finishResize_channels, ← taken]
    exact (grown.seekMore_same site.target).channels
  obtain ⟨more, same⟩ := growth.channels
  have channels : (found.carryOut (found.pool.growthAsked site.target results ++ ending.1,
      ending.2)).channels = site.channels ++ more := by
    rw [channels_grown (fun effect => Pool.mem_growthAsked _ _ _)
      (Pool.finishResize_aside caller _ _), same]
  have most : ending.2.channels.length ≤ site.target := by
    have fit := List.countP_le_length (p := fun place => (outcomes place).isOk)
      (l := List.range site.missing)
    rw [kept, List.length_append, growth.count]
    rw [List.length_range] at fit
    unfold missing at fit ⊢
    omega
  constructor
  case stays =>
    intro id member
    have among : id ∈ site.held ++ Pool.opened results := kept ▸ member
    exact (List.mem_append.mp among).imp_right (growth.fresh id)
  case untouched =>
    intro id member _
    rw [channels]
    exact List.getElem?_append_left (known_of_held member)
  case shrinks => omega
  case grows =>
    intro _
    change (∀ id ∈ site.held, id ∈ ending.2.channels) ∧ ending.2.channels.length = _
    rw [kept, List.length_append, growth.count]
    exact ⟨fun id member => List.mem_append_left _ member, rfl⟩
  case attempts =>
    have all : connects.countP PoolEffect.isAttempt = connects.length := by
      rw [List.countP_eq_length]
      simp [connects, PoolEffect.isAttempt]
    rw [List.countP_append, all, Pool.countP_isAttempt_growthAsked, List.length_map,
      List.length_range, Nat.add_zero]
  case within => exact most
  case failed =>
    have empty : grown.channels.length = 0 ↔ ending.2.channels = [] := by
      rw [taken, kept, List.length_eq_zero_iff]
    rw [Pool.growthResult_isOk, empty, growth.failing]
    rfl
  case down =>
    have other : .signalDown ∉ connects := by simp [connects]
    rw [List.mem_append, or_iff_right other]
    exact Pool.signalDown_mem_growthAsked _ _ _
  case up =>
    have other : .signalUp ∉ connects := by simp [connects]
    rw [List.mem_append, or_iff_right other, Pool.signalUp_mem_growthAsked,
      ← List.length_pos_iff_ne_nil, growth.count, List.countP_pos_iff]
    simp
  case looping =>
    have stillOpen : grown.isClosed = false := growth.isOpen
    change sized.isReconnecting = (_ || decide (ending.2.channels.length < site.target))
    rw [Pool.seekMore_isReconnecting stillOpen, taken, kept, ← growth.reconnecting]
    rfl
  case silent =>
    have none : connects.filterMap PoolEffect.answer? = [] := by
      simp [connects, PoolEffect.answer?]
    rw [List.filterMap_append, none, Pool.answers_growthAsked]
    rfl
  case begun =>
    have none : connects.countP PoolEffect.isAlarm = 0 := by
      simp [List.countP_eq_zero, connects, PoolEffect.isAlarm]
    have count :=
      Pool.countP_isAlarm_growthAsked site.target results found.pool growth.isOpen
    rw [taken, growth.reconnecting, ← kept] at count
    rw [List.countP_append, none, Nat.zero_add]
    exact count

theorem concludes_of_fewer (isOpen : site.pool.isClosed = false)
    (fewer : site.held.length < site.target)
    (awaited : arrivals.Perm
      ((site.carryOut (site.pool.beginResize site.view caller)).awaited outcomes)) :
    site.Concludes caller outcomes arrivals := by
  obtain ⟨begins, found, results, growth, performs, wanted⟩ :=
    exists_growth isOpen fewer awaited
  let asked := found.pool.growthAsked site.target results
  let grown := found.pool.grownBy results
  let sized := (grown.seekMore site.target).2
  let result := Pool.growthResult grown.channels.length results
  let ending := sized.finishResize site.view caller result
  have grows : found.pool.grown found.view caller site.target results =
      (asked ++ (sized.finishResize found.view caller result).1,
        (sized.finishResize found.view caller result).2) :=
    Pool.grown_eq growth.isOpen caller site.target results
  have target : found.view.target = site.view.target := growth.target
  rw [Pool.finishResize_of_target target] at grows
  rw [grows] at performs wanted
  unfold Concludes
  dsimp only
  rw [begins, wanted, performs]
  refine ⟨_ ++ asked, sized, result, (List.append_assoc _ _ _).symm, rfl, ?_⟩
  exact growth.resized fewer

/-- A pool never holds a channel twice. A resize of an open pool, with nothing on the way but the
ends of what it waits for: what it asks for, how it ends, what its caller is told, and how the
pool is then. -/
theorem resize_by_itself :
    (∀ node address config policy channelConfig target moves,
      ((start node address config policy channelConfig target).performAll moves
        ).pool.channels.Nodup) ∧
    ∀ (site : PoolSite) (caller : ResizeCaller)
      (outcomes : Nat → Except DriverError (List UInt8 × Nat)) (arrivals : List PoolMove),
      let begun := site.carryOut (site.pool.beginResize site.view caller)
      let effects := (site.pool.beginResize site.view caller).1 ++ begun.wants arrivals
      site.pool.isClosed = false → site.pool.channels.Nodup →
        arrivals.Perm (begun.awaited outcomes) →
      ∃ asked sized result,
        let ending := sized.finishResize site.view caller result
        effects = asked ++ ending.1 ∧ (begun.performAll arrivals).pool = ending.2 ∧
          Told site.target caller result effects sized (begun.performAll arrivals).pool ∧
            site.Resized (begun.performAll arrivals) outcomes asked sized result := by
  constructor
  · intro node address config policy channelConfig target moves
    exact (performAll_distinct node address config policy channelConfig target moves).held
  intro site caller outcomes arrivals begun effects isOpen distinct awaited
  have concludes : site.Concludes caller outcomes arrivals := by
    rcases Nat.lt_trichotomy site.held.length site.target with fewer | enough | more
    · exact concludes_of_fewer isOpen fewer awaited
    · exact concludes_of_enough isOpen enough awaited
    · exact concludes_of_more isOpen distinct more awaited
  obtain ⟨asked, sized, result, whole, ends, resized⟩ := concludes
  obtain ⟨answers, goesOn⟩ := Pool.finishResize_told site.view caller result sized
  refine ⟨asked, sized, result, whole, ends, ?_, resized⟩
  constructor
  case answers =>
    have all : effects = asked ++ (sized.finishResize site.view caller result).1 := whole
    rw [all, List.filterMap_append, resized.silent, answers]
    rfl
  case goesOn =>
    have kept : (begun.performAll arrivals).pool = (sized.finishResize site.view caller result).2 :=
      ends
    rw [kept, goesOn]
    rfl

/-- Of two channels one is closed by now, and there shall be three. -/
def worn : PoolSite :=
  (small 2).performAll [.ask .session, .connected 0 (.ok ([], 0)), .connected 1 (.ok ([], 0)),
    .channel ⟨0⟩ (.whole (.close "reset")), .retarget 3]

def onlyFirst : Nat → Except DriverError (List UInt8 × Nat)
  | 0 => .ok ([], 5)
  | _ => .error .cancelled

theorem worn_resized :
    let outcome := worn.pool.beginResize worn.view .background
    let begun := worn.carryOut outcome
    let arrivals : List PoolMove := [.connected 1 (onlyFirst 1), .connected 0 (onlyFirst 0)]
    worn.pool.isClosed = false ∧ worn.pool.channels.Nodup ∧
      arrivals.Perm (begun.awaited onlyFirst) ∧
        ⟨1⟩ ∈ (begun.performAll arrivals).pool.channels ∧
          (begun.performAll arrivals).pool.channels.length = 2 ∧
            ∃ result, result.isOk = true ∧
              (outcome.1 ++ begun.wants arrivals).filterMap PoolEffect.answer? =
                [(.background, result)] := by
  intro outcome begun arrivals
  have isOpen : worn.pool.isClosed = false := rfl
  have distinct : worn.pool.channels.Nodup := resize_by_itself.1 _ _ _ _ _ _ _
  have awaited : arrivals.Perm (begun.awaited onlyFirst) := List.Perm.swap _ _ []
  obtain ⟨asked, sized, result, _, _, told, resized⟩ :=
    resize_by_itself.2 worn .background onlyFirst arrivals isOpen distinct awaited
  have held : worn.held = [⟨1⟩] := by decide
  have grown := resized.grows (by rw [held]; decide)
  rw [held] at grown
  have succeeds : result.isOk ≠ false := by
    intro failing
    have none := (resized.failed.mp failing).2
    exact absurd grown.1 (by rw [none]; simp)
  refine ⟨isOpen, distinct, awaited, grown.1 ⟨1⟩ List.mem_cons_self, grown.2, result, ?_, ?_⟩
  · exact eq_true_of_ne_false succeeds
  · exact told.answers

end PoolSite

end CqlDriver
