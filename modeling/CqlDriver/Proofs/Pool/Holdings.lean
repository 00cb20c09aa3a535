/-
What becomes of the channels of a pool. A pool holds the channels that requests can take, and
those that the resize at work drains or has opened already. It gives a channel up only when
the channel is closed, or closes it then. A closed pool holds no more than the resize at work
has left, and begins nothing.
-/

import CqlDriver.Proofs.Pool.Site

namespace CqlDriver

namespace Pool

def inHand (pool : Pool) : List ChannelId :=
  match pool.resizing with
  | some (_, .draining left) => left
  | some (_, .connecting _ places) => opened (places.filterMap id)
  | some (_, .granted) | none => []

def Holds (pool : Pool) (channel : ChannelId) : Prop :=
  channel ∈ pool.channels ∨ channel ∈ pool.inHand

/-- What was held is held on, or it is closed. -/
def Accounts (view : PoolView) (held : ChannelId → Prop) (outcome : List PoolEffect × Pool) :
    Prop :=
  ∀ channel, held channel → outcome.2.Holds channel ∨ (view.channel channel).isClosed = true ∨
    ∃ reason, .close channel reason ∈ outcome.1

structure Vacant (pool : Pool) : Prop where
  isClosed : pool.isClosed = true
  channels : pool.channels = []

variable {view : PoolView} {pool : Pool} {held : ChannelId → Prop}
  {outcome : List PoolEffect × Pool}

theorem Accounts.weaken (accounts : Accounts view held outcome) {fewer : ChannelId → Prop}
    (within : ∀ channel, fewer channel → held channel ∨ (view.channel channel).isClosed = true) :
    Accounts view fewer outcome := by
  intro channel member
  rcases within channel member with before | closed
  · exact accounts channel before
  · exact .inr (.inl closed)

theorem accounts_of_same (channels : outcome.2.channels = pool.channels)
    (resizing : outcome.2.resizing = pool.resizing) : Accounts view pool.Holds outcome := by
  intro channel before
  left
  unfold Holds inHand at before ⊢
  rw [channels, resizing]
  exact before

theorem finishResize_channels (caller : ResizeCaller) (result : Except DriverError Nat)
    (pool : Pool) : (pool.finishResize view caller result).2.channels = pool.channels :=
  have quiet : Quiet pool.node pool (pool.finishResize view caller result) :=
    finishResize_quiet caller result pool
  quiet.channels

theorem finishResize_accounts (caller : ResizeCaller) (result : Except DriverError Nat)
    (pool : Pool) :
    Accounts view (· ∈ pool.channels) (pool.finishResize view caller result) := by
  intro channel member
  refine .inl (.inl ?_)
  rw [finishResize_channels]
  exact member

theorem beginResize_accounts (caller : ResizeCaller) (pool : Pool) :
    Accounts view (· ∈ pool.channels) (pool.beginResize view caller) := by
  have kept (channel : ChannelId) (member : channel ∈ pool.channels) :
      channel ∈ pool.channels.filter (fun channel => !(view.channel channel).isClosed) ∨
        (view.channel channel).isClosed = true := by
    cases closed : (view.channel channel).isClosed with
    | true => exact .inr rfl
    | false =>
        refine .inl (List.mem_filter.mpr ⟨member, ?_⟩)
        rw [closed]
        rfl
  unfold beginResize
  split
  · exact finishResize_accounts caller _ pool
  · dsimp only
    split
    · intro channel member
      refine (kept channel member).imp (fun still => ?_) .inl
      have sorted : channel ∈ busiestFirst view
          (pool.channels.filter fun channel => !(view.channel channel).isClosed) :=
        (List.mergeSort_perm _ _).mem_iff.mpr still
      rw [← List.take_append_drop view.target (busiestFirst view _)] at sorted
      exact List.mem_append.mp sorted
    · split
      · exact (finishResize_accounts caller _ _).weaken kept
      · intro channel member
        exact (kept channel member).imp .inl .inl

theorem ensureSize_accounts (caller : ResizeCaller) (pool : Pool) :
    Accounts view pool.Holds (pool.ensureSize view caller) := by
  unfold ensureSize
  split
  · exact accounts_of_same rfl rfl
  · rename_i idle
    refine (beginResize_accounts caller pool).weaken fun channel before => ?_
    unfold Holds inHand at before
    rw [idle] at before
    exact .inl (before.resolve_right List.not_mem_nil)

theorem resume_accounts (pool : Pool) : Accounts view pool.Holds (pool.resume view) := by
  unfold resume
  split
  · rename_i caller turn
    refine (beginResize_accounts caller pool).weaken fun channel before => ?_
    unfold Holds inHand at before
    rw [turn] at before
    exact .inl (before.resolve_right List.not_mem_nil)
  · exact accounts_of_same rfl rfl

theorem drained_accounts {finished : ChannelId} (closed : (view.channel finished).isClosed = true)
    (pool : Pool) : Accounts view pool.Holds (pool.drained view finished) := by
  unfold drained
  split
  · rename_i caller left draining
    have stays (channel : ChannelId) (before : pool.Holds channel) :
        (channel ∈ pool.channels ∨ channel ∈ left.erase finished) ∨
          (view.channel channel).isClosed = true := by
      unfold Holds inHand at before
      rw [draining] at before
      by_cases same : channel = finished
      · exact .inr (same ▸ closed)
      · exact .inl (before.imp_right (List.mem_erase_of_ne same).mpr)
    split
    · rename_i last
      rw [last] at stays
      refine (finishResize_accounts caller _ pool).weaken fun channel before => ?_
      exact (stays channel before).imp_left fun still => still.resolve_right List.not_mem_nil
    · exact fun channel before => (stays channel before).imp_right .inl
  · exact accounts_of_same rfl rfl

theorem mem_opened {channel : ChannelId} {results : List (Except DriverError ChannelId)} :
    channel ∈ opened results ↔ .ok channel ∈ results := by
  unfold opened
  rw [List.mem_filterMap]
  constructor
  · rintro ⟨result, member, same⟩
    cases result with
    | error error => cases same
    | ok other => exact Option.some.inj same ▸ member
  · exact fun member => ⟨.ok channel, member, rfl⟩

theorem allDecided_eq_some {Value : Type} {places : List (Option Value)} {values : List Value}
    (decided : allDecided places = some values) : places = values.map some := by
  induction places generalizing values with
  | nil =>
      cases decided
      rfl
  | cons place rest ih =>
      cases place with
      | none => cases decided
      | some value =>
          obtain ⟨later, whole, rfl⟩ := Option.map_eq_some_iff.mp decided
          rw [List.map_cons, ← ih whole]

/-- When all attempts have ended, a closed pool closes what they opened, and another one
takes it in. -/
theorem grown_accounts (caller : ResizeCaller) (target : Nat)
    (results : List (Except DriverError ChannelId)) (pool : Pool) :
    Accounts view (fun channel => channel ∈ pool.channels ∨ channel ∈ opened results)
      (pool.grown view caller target results) := by
  intro channel member
  have taken : channel ∈ (pool.grownBy results).channels := List.mem_append.mpr member
  cases isOpen : pool.isClosed with
  | true =>
      refine .inr (.inr ⟨closedReason, ?_⟩)
      unfold grown
      rw [if_pos isOpen]
      refine List.mem_append_left _ (List.mem_append_right _ ?_)
      exact List.mem_map_of_mem taken
  | false =>
      obtain ⟨effects, result, same, _, _⟩ :=
        grown_of_open pool.node view isOpen caller target results
      refine .inl (.inl ?_)
      rw [same]
      dsimp only
      rw [finishResize_channels, (seekMore_quiet pool.node target _).channels]
      exact taken

theorem exists_of_isUndecided {place : Nat} (undecided : pool.isUndecided place = true) :
    ∃ caller target places, pool.resizing = some (caller, .connecting target places) ∧
      places[place]? = some none := by
  unfold isUndecided at undecided
  split at undecided
  · rename_i caller target places growing
    refine ⟨caller, target, places, growing, ?_⟩
    cases found : places[place]? with
    | none =>
        rw [found] at undecided
        cases undecided
    | some result =>
        rw [found] at undecided
        rw [Option.isNone_iff_eq_none.mp undecided]
  · cases undecided

/-- What an attempt opened does not get lost when another attempt ends. -/
theorem mem_set_of_decided {Value : Type} {places : List (Option Value)} {place : Nat}
    (free : places[place]? = some none) {value : Value} (result : Value)
    (decided : some value ∈ places ∨ result = value) :
    some value ∈ places.set place (some result) := by
  obtain ⟨within, isNone⟩ := List.getElem?_eq_some_iff.mp free
  rw [List.mem_iff_getElem?]
  rcases decided with member | rfl
  · obtain ⟨index, found⟩ := List.mem_iff_getElem?.mp member
    have elsewhere : place ≠ index := by
      rintro rfl
      rw [free] at found
      cases found
    exact ⟨index, (List.getElem?_set_ne elsewhere).trans found⟩
  · exact ⟨place, List.getElem?_set_self within⟩

theorem connected_accounts {place : Nat} (undecided : pool.isUndecided place = true)
    (result : Except DriverError ChannelId) :
    Accounts view (fun channel => pool.Holds channel ∨ result = .ok channel)
      (pool.connected view place result) := by
  obtain ⟨caller, target, places, growing, free⟩ := exists_of_isUndecided undecided
  have stays (channel : ChannelId) (before : pool.Holds channel ∨ result = .ok channel) :
      channel ∈ pool.channels ∨ some (.ok channel) ∈ places.set place (some result) := by
    unfold Holds inHand at before
    rw [growing] at before
    rcases before with (member | inHand) | opening
    · exact .inl member
    · rw [mem_opened, List.mem_filterMap] at inHand
      obtain ⟨decided, member, same⟩ := inHand
      exact .inr (mem_set_of_decided free result (.inl (same ▸ member)))
    · exact .inr (mem_set_of_decided free result (.inr opening))
  unfold connected
  rw [growing]
  dsimp only
  split
  · rename_i results decided
    refine (grown_accounts caller target results pool).weaken fun channel before => .inl ?_
    refine (stays channel before).imp_right fun member => ?_
    rw [allDecided_eq_some decided] at member
    obtain ⟨whole, member, same⟩ := List.mem_map.mp member
    exact mem_opened.mpr (Option.some.inj same ▸ member)
  · intro channel before
    refine .inl ((stays channel before).imp_right fun member => ?_)
    exact mem_opened.mpr (List.mem_filterMap.mpr ⟨_, member, rfl⟩)

theorem lost_accounts {gone : ChannelId} (closed : (view.channel gone).isClosed = true)
    (pool : Pool) : Accounts view pool.Holds (pool.lost view gone) := by
  have stays (channel : ChannelId) (before : pool.Holds channel) :
      (pool.without gone).Holds channel ∨ (view.channel channel).isClosed = true := by
    by_cases same : channel = gone
    · exact .inr (same ▸ closed)
    · refine .inl (before.imp_left fun member => ?_)
      exact List.mem_filter.mpr ⟨member, decide_eq_true same⟩
  have kept := (pool.without gone).seekMore_same view.target
  rcases pool.lost_cases view gone with same | ⟨_, _, same⟩
  · rw [same]
    exact (accounts_of_same rfl rfl).weaken stays
  · rw [same]
    refine Accounts.weaken ?_ stays
    exact accounts_of_same kept.channels kept.resizing

theorem closeChannels_closes (reason : String) (pool : Pool) (channel : ChannelId)
    (member : channel ∈ pool.channels) : .close channel reason ∈ (pool.closeChannels reason).1 :=
  List.mem_map_of_mem member

theorem wake_accounts (pool : Pool) : Accounts view pool.Holds (pool.wake view) := by
  unfold wake
  split
  · exact accounts_of_same rfl rfl
  · split
    · exact accounts_of_same rfl rfl
    · split
      · exact accounts_of_same rfl rfl
      · exact ensureSize_accounts .loop pool

theorem onNodeDown_accounts (pool : Pool) : Accounts view pool.Holds pool.onNodeDown := by
  rintro channel (member | inHand)
  · exact .inr (.inr ⟨_, List.mem_append_left _ (closeChannels_closes _ pool channel member)⟩)
  · refine .inl (.inr ?_)
    have kept := (closeChannels "node reported down" pool).2.scheduleReconnect_same
    unfold Pool.inHand at inHand ⊢
    rw [show pool.onNodeDown.2.resizing = pool.resizing from kept.resizing]
    exact inHand

theorem close_accounts (pool : Pool) : Accounts view pool.Holds pool.close := by
  unfold close
  split
  · exact accounts_of_same rfl rfl
  · rintro channel (member | inHand)
    · exact .inr (.inr ⟨_, List.mem_map_of_mem member⟩)
    · exact .inl (.inr inHand)

theorem resizing_of_nobody (nobody : pool.callers = []) : pool.resizing = none := by
  have resting := (List.append_eq_nil_iff.mp nobody).1
  rw [List.map_eq_nil_iff] at resting
  exact Option.toList_eq_nil_iff.mp resting

theorem beginResize_of_closed (isClosed : pool.isClosed = true) (caller : ResizeCaller) :
    pool.beginResize view caller = pool.finishResize view caller (.ok 0) :=
  if_pos isClosed

theorem scheduleReconnect_of_closed (isClosed : pool.isClosed = true) :
    pool.scheduleReconnect = ([], pool) := by
  unfold scheduleReconnect
  rw [isClosed]
  rfl

theorem close_of_closed (isClosed : pool.isClosed = true) : pool.close = ([], pool) := by
  unfold close
  rw [if_pos isClosed]

theorem onNodeDown_of_closed (isClosed : pool.isClosed = true) :
    pool.onNodeDown = pool.closeChannels "node reported down" := by
  let emptied : Pool := { pool with channels := [] }
  have idle : emptied.scheduleReconnect = ([], emptied) := scheduleReconnect_of_closed isClosed
  unfold onNodeDown closeChannels
  dsimp only
  rw [idle, List.append_nil]

theorem lost_of_empty (empty : pool.channels = []) (gone : ChannelId) :
    pool.lost view gone = ([], pool) := by
  unfold lost
  rw [if_pos (by rw [empty]; exact List.not_mem_nil)]

def StaysVacant (outcome : List PoolEffect × Pool) : Prop :=
  outcome.2.Vacant ∧ ∀ effect ∈ outcome.1, effect.isAttempt = false

namespace Vacant

theorem idle (vacant : pool.Vacant) : StaysVacant ([], pool) :=
  ⟨vacant, fun _ member => nomatch member⟩

theorem finishResize (vacant : pool.Vacant) (caller : ResizeCaller)
    (result : Except DriverError Nat) : StaysVacant (pool.finishResize view caller result) := by
  have quiet : Quiet pool.node pool (pool.finishResize view caller result) :=
    finishResize_quiet caller result pool
  refine ⟨⟨quiet.isClosed.trans vacant.isClosed, quiet.channels.trans vacant.channels⟩, ?_⟩
  exact fun effect member =>
    PoolEffect.isAttempt_of_isAside (finishResize_aside caller result pool effect member)

theorem ensureSize (vacant : pool.Vacant) (caller : ResizeCaller) :
    StaysVacant (pool.ensureSize view caller) := by
  unfold Pool.ensureSize
  split
  · exact Vacant.idle ⟨vacant.isClosed, vacant.channels⟩
  · rw [beginResize_of_closed vacant.isClosed]
    exact vacant.finishResize caller _

theorem resume (vacant : pool.Vacant) : StaysVacant (pool.resume view) := by
  unfold Pool.resume
  split
  · rw [beginResize_of_closed vacant.isClosed]
    exact vacant.finishResize _ _
  · exact vacant.idle

theorem drained (vacant : pool.Vacant) (channel : ChannelId) :
    StaysVacant (pool.drained view channel) := by
  unfold Pool.drained
  split
  · split
    · exact vacant.finishResize _ _
    · exact Vacant.idle ⟨vacant.isClosed, vacant.channels⟩
  · exact vacant.idle

theorem grown (vacant : pool.Vacant) (caller : ResizeCaller) (target : Nat)
    (results : List (Except DriverError ChannelId)) :
    StaysVacant (pool.grown view caller target results) := by
  have emptied : (closeChannels closedReason (pool.grownBy results)).2.Vacant :=
    ⟨vacant.isClosed, rfl⟩
  have ending : StaysVacant (Pool.finishResize view caller (.ok 0)
      (closeChannels closedReason (pool.grownBy results)).2) :=
    emptied.finishResize caller (.ok 0)
  obtain ⟨still, unattempted⟩ := ending
  unfold Pool.grown
  rw [if_pos vacant.isClosed]
  refine ⟨still, fun effect member => ?_⟩
  rcases List.mem_append.mp member with early | ending
  · rcases List.mem_append.mp early with watching | closing
    · obtain ⟨channel, _, rfl⟩ := List.mem_map.mp watching
      rfl
    · obtain ⟨channel, _, rfl⟩ := List.mem_map.mp closing
      rfl
  · exact unattempted effect ending

theorem connected (vacant : pool.Vacant) (place : Nat) (result : Except DriverError ChannelId) :
    StaysVacant (pool.connected view place result) := by
  unfold Pool.connected
  split
  · dsimp only
    split
    · exact vacant.grown _ _ _
    · exact Vacant.idle ⟨vacant.isClosed, vacant.channels⟩
  · exact vacant.idle

theorem undertake (vacant : pool.Vacant) (task : PoolTask) :
    StaysVacant (pool.undertake view task) := by
  cases task with
  | resize caller => exact vacant.ensureSize caller
  | resume => exact vacant.resume
  | connected place result => exact vacant.connected place result
  | drained channel => exact vacant.drained channel
  | lost channel =>
      change StaysVacant (pool.lost view channel)
      rw [lost_of_empty vacant.channels]
      exact vacant.idle
  | wake =>
      change StaysVacant (pool.wake view)
      unfold Pool.wake
      split
      · exact vacant.idle
      · rw [if_pos vacant.isClosed]
        exact Vacant.idle ⟨vacant.isClosed, vacant.channels⟩
  | nodeDown =>
      change StaysVacant pool.onNodeDown
      rw [onNodeDown_of_closed vacant.isClosed]
      refine ⟨⟨vacant.isClosed, rfl⟩, fun effect member => ?_⟩
      obtain ⟨channel, _, rfl⟩ := List.mem_map.mp member
      rfl

/-- Nobody comes to wait in a closed pool that nobody waits in. -/
theorem callers_undertake (vacant : pool.Vacant) (nobody : pool.callers = []) (task : PoolTask) :
    (pool.undertake view task).2.callers = [] := by
  have noQueue := (List.append_eq_nil_iff.mp nobody).2
  have idle := resizing_of_nobody nobody
  cases task with
  | resize caller =>
      change (pool.ensureSize view caller).2.callers = []
      unfold Pool.ensureSize
      rw [idle]
      dsimp only
      rw [beginResize_of_closed vacant.isClosed, finishResize_callers]
      exact noQueue
  | resume =>
      change (pool.resume view).2.callers = []
      unfold Pool.resume
      rw [idle]
      exact nobody
  | connected place result =>
      change (pool.connected view place result).2.callers = []
      unfold Pool.connected
      rw [idle]
      exact nobody
  | drained channel =>
      change (pool.drained view channel).2.callers = []
      unfold Pool.drained
      rw [idle]
      exact nobody
  | lost channel =>
      change (pool.lost view channel).2.callers = []
      rw [lost_of_empty vacant.channels]
      exact nobody
  | wake =>
      change (pool.wake view).2.callers = []
      unfold Pool.wake
      split
      · exact nobody
      · rw [if_pos vacant.isClosed]
        exact nobody
  | nodeDown =>
      change pool.onNodeDown.2.callers = []
      rw [onNodeDown_of_closed vacant.isClosed]
      exact nobody

end Vacant

end Pool

end CqlDriver
