/-
No channel twice. The channels that a pool holds, and those that it is about to take in, are
different from each other and all of them were opened for it, whatever happens.
-/

import Mathlib.Data.List.Perm.Subperm
import CqlDriver.Proofs.Pool.Fitting
import CqlDriver.Proofs.Pool.Leaving

namespace CqlDriver

def PoolTask.brings : PoolTask → List ChannelId
  | .connected _ (.ok channel) => [channel]
  | _ => []

namespace Pool

def arrival? : Option (Except DriverError ChannelId) → Option ChannelId
  | some (.ok channel) => some channel
  | _ => none

def arrived (pool : Pool) : List ChannelId :=
  match pool.resizing with
  | some (_, .connecting _ places) => places.filterMap arrival?
  | _ => []

/-- All channels that are, or may soon be, among those of the pool. -/
def taken (pool : Pool) : List ChannelId := pool.channels ++ pool.arrived

variable {view : PoolView} {pool : Pool}

theorem finishResize_taken (caller : ResizeCaller) (result : Except DriverError Nat)
    (pool : Pool) : (pool.finishResize view caller result).2.taken = pool.channels := by
  rcases finishResize_resizing view caller result pool with idle | ⟨next, turn⟩
  · simp [taken, arrived, idle, finishResize_channels]
  · simp [taken, arrived, turn, finishResize_channels]

theorem subperm_of_fewer {other : Pool} (fewer : other.channels.Sublist pool.channels)
    (same : other.resizing = pool.resizing) : other.taken.Subperm pool.taken := by
  have still : other.arrived = pool.arrived := by simp [arrived, same]
  unfold taken
  rw [still]
  exact (fewer.append_right _).subperm

theorem beginResize_taken (caller : ResizeCaller) (pool : Pool) :
    (pool.beginResize view caller).2.taken.Subperm pool.taken := by
  have held : pool.channels.Subperm pool.taken := (List.sublist_append_left _ _).subperm
  have kept := (List.filter_sublist (l := pool.channels)
    (p := fun channel => !(view.channel channel).isClosed)).subperm
  refine List.Subperm.trans ?_ held
  unfold beginResize
  split
  · rw [finishResize_taken]
  · dsimp only
    split
    · have sorted := List.mergeSort_perm (pool.channels.filter fun channel =>
        !(view.channel channel).isClosed) fun left right =>
          decide ((view.channel right).streamsInUse ≤ (view.channel left).streamsInUse)
      simp only [taken, arrived, List.append_nil]
      exact ((List.take_sublist _ _).subperm.trans sorted.subperm).trans kept
    · split
      · rw [finishResize_taken]
        exact kept
      · have none (count : Nat) : (List.replicate count none).filterMap arrival? = [] := by
          simp [arrival?]
        simp only [taken, arrived, none, List.append_nil]
        exact kept

theorem ensureSize_taken (caller : ResizeCaller) (pool : Pool) :
    (pool.ensureSize view caller).2.taken.Subperm pool.taken := by
  unfold ensureSize
  split
  · exact subperm_of_fewer (List.Sublist.refl _) rfl
  · exact beginResize_taken caller pool

theorem filterMap_set_subperm {Item Image : Type} (image? : Item → Option Image)
    (items : List Item) (place : Nat) (item : Item) :
    ((items.set place item).filterMap image?).Subperm
      ((image? item).toList ++ items.filterMap image?) := by
  induction items generalizing place with
  | nil => exact List.nil_subperm
  | cons first rest ih =>
      cases place with
      | zero =>
          rw [List.set_cons_zero]
          have after := (List.sublist_cons_self first rest).filterMap image?
          cases found : image? item with
          | none =>
              rw [List.filterMap_cons_none found]
              exact after.subperm
          | some value =>
              rw [List.filterMap_cons_some found]
              exact (after.cons_cons value).subperm
      | succ place =>
          rw [List.set_cons_succ]
          cases found : image? first with
          | none =>
              rw [List.filterMap_cons_none found, List.filterMap_cons_none found]
              exact ih place
          | some value =>
              rw [List.filterMap_cons_some found, List.filterMap_cons_some found]
              exact ((List.subperm_cons value).mpr (ih place)).trans
                List.perm_middle.symm.subperm

theorem filterMap_arrival?_map_some (results : List (Except DriverError ChannelId)) :
    (results.map some).filterMap arrival? = opened results := by
  unfold opened
  rw [List.filterMap_map]
  apply List.filterMap_congr
  intro result _
  cases result with
  | ok channel => rfl
  | error error => rfl

theorem grown_taken (caller : ResizeCaller) (target : Nat)
    (results : List (Except DriverError ChannelId)) (pool : Pool) :
    (pool.grown view caller target results).2.taken.Subperm
      (pool.channels ++ opened results) := by
  cases isOpen : pool.isClosed with
  | true =>
      unfold grown
      rw [if_pos isOpen]
      dsimp only
      rw [finishResize_taken]
      exact List.nil_subperm
  | false =>
      obtain ⟨upward, downward, result, same, _⟩ :=
        pool.grown_parts view isOpen caller target results
      have kept := ((pool.grownBy results).seekMore_same target).channels
      rw [same, finishResize_taken, kept]
      exact List.Subperm.refl _

theorem connected_taken (place : Nat) (result : Except DriverError ChannelId) (pool : Pool) :
    (pool.connected view place result).2.taken.Subperm
      ((arrival? (some result)).toList ++ pool.taken) := by
  unfold connected
  split
  · rename_i caller target places growing
    have settled := filterMap_set_subperm arrival? places place (some result)
    have before : pool.taken = pool.channels ++ places.filterMap arrival? := by
      simp [taken, arrived, growing]
    rw [before]
    dsimp only
    have room := ((List.subperm_append_left pool.channels).mpr settled).trans
      (List.perm_append_comm_assoc pool.channels _ _).subperm
    split
    · rename_i results decided
      rw [allDecided_eq_some decided, filterMap_arrival?_map_some] at room
      exact (grown_taken caller target results pool).trans room
    · exact room
  · exact (List.sublist_append_right _ _).subperm

theorem drained_taken (finished : ChannelId) (pool : Pool) :
    (pool.drained view finished).2.taken.Subperm pool.taken := by
  have held : pool.channels.Subperm pool.taken := (List.sublist_append_left _ _).subperm
  unfold drained
  split
  · split
    · rw [finishResize_taken]
      exact held
    · simp only [taken, arrived, List.append_nil]
      exact held
  · exact List.Subperm.refl _

theorem lost_taken (gone : ChannelId) (pool : Pool) :
    (pool.lost view gone).2.taken.Subperm pool.taken := by
  have fewer : (pool.without gone).channels.Sublist pool.channels := List.filter_sublist
  cases pool.lost_cases view gone with
  | inl same =>
      rw [same]
      exact subperm_of_fewer fewer rfl
  | inr signalled =>
      obtain ⟨signals, _, same⟩ := signalled
      have kept := (pool.without gone).seekMore_same view.target
      rw [same]
      exact subperm_of_fewer (kept.channels.symm ▸ fewer) kept.resizing

theorem wake_taken (pool : Pool) : (pool.wake view).2.taken.Subperm pool.taken := by
  unfold wake
  split
  · exact List.Subperm.refl _
  · split
    · exact List.Subperm.refl _
    · split
      · exact List.Subperm.refl _
      · exact ensureSize_taken .loop pool

theorem resume_taken (pool : Pool) : (pool.resume view).2.taken.Subperm pool.taken := by
  unfold resume
  split
  · exact beginResize_taken _ pool
  · exact List.Subperm.refl _

theorem onNodeDown_taken (pool : Pool) : pool.onNodeDown.2.taken.Subperm pool.taken := by
  let emptied : Pool := { pool with channels := [] }
  have same := emptied.scheduleReconnect_same
  have none : emptied.scheduleReconnect.2.channels.Sublist pool.channels := by
    rw [same.channels]
    exact List.nil_sublist _
  exact subperm_of_fewer none same.resizing

theorem close_taken (pool : Pool) : pool.close.2.taken.Subperm pool.taken := by
  unfold close
  split
  · exact List.Subperm.refl _
  · exact subperm_of_fewer (List.nil_sublist _) rfl

theorem undertake_taken (view : PoolView) (task : PoolTask) (pool : Pool) :
    (pool.undertake view task).2.taken.Subperm (task.brings ++ pool.taken) := by
  cases task with
  | resize caller => exact ensureSize_taken caller pool
  | resume => exact resume_taken pool
  | connected place result =>
      cases result with
      | ok channel => exact connected_taken place (.ok channel) pool
      | error error => exact connected_taken place (.error error) pool
  | drained channel => exact drained_taken channel pool
  | lost channel => exact lost_taken channel pool
  | wake => exact wake_taken pool
  | nodeDown => exact onNodeDown_taken pool

end Pool

namespace PoolSite

structure Distinct (site : PoolSite) : Prop where
  once : site.pool.taken.Nodup
  known : ∀ id ∈ site.pool.taken, id.number < site.channels.length

variable {site : PoolSite}

theorem Distinct.held (distinct : site.Distinct) : site.pool.channels.Nodup :=
  distinct.once.sublist (List.sublist_append_left _ _)

theorem Distinct.of_subperm {other : PoolSite} (distinct : site.Distinct)
    (fewer : other.pool.taken.Subperm site.pool.taken)
    (more : site.channels.length ≤ other.channels.length) : other.Distinct := by
  obtain ⟨same, reordered, within⟩ := fewer
  refine ⟨reordered.nodup_iff.mp (distinct.once.sublist within), fun id member => ?_⟩
  have among := within.subset (reordered.mem_iff.mpr member)
  exact Nat.lt_of_lt_of_le (distinct.known id among) more

theorem Distinct.work {channels : List Channel} {watched : List ChannelId} {pausing : Nat}
    (distinct : site.Distinct) {task : PoolTask}
    (isNew : ∀ id ∈ task.brings, id.number = site.channels.length)
    (room : channels.length = site.channels.length + task.brings.length) :
    ({ site with channels, watched, pausing }.work task).Distinct := by
  let ready : PoolSite := { site with channels, watched, pausing }
  obtain ⟨same, reordered, within⟩ := site.pool.undertake_taken ready.view task
  have count : (ready.work task).channels.length = channels.length := length_carryOut ready _
  have apart : ∀ id ∈ task.brings, id ∉ site.pool.taken := by
    intro id brought member
    have before := distinct.known id member
    have now := isNew id brought
    omega
  have single : task.brings.Nodup := by
    cases task with
    | connected place result =>
        cases result with
        | ok channel => exact List.nodup_singleton channel
        | error error => exact List.nodup_nil
    | _ => exact List.nodup_nil
  constructor
  case once =>
    apply reordered.nodup_iff.mp
    apply List.Nodup.sublist within
    rw [List.nodup_append]
    exact ⟨single, distinct.once, fun id brought other member equal =>
      apart id brought (equal ▸ member)⟩
  case known =>
    intro id member
    rw [count, room]
    cases List.mem_append.mp (within.subset (reordered.mem_iff.mpr member)) with
    | inl brought =>
        have now := isNew id brought
        have some := List.length_pos_of_mem brought
        omega
    | inr held =>
        have before := distinct.known id held
        omega

theorem Distinct.connect (distinct : site.Distinct) (place : Nat)
    (outcome : Except DriverError (List UInt8 × Nat)) : (site.connect place outcome).Distinct := by
  unfold PoolSite.connect
  split
  · cases outcome with
    | error error => exact distinct.work nofun rfl
    | ok opened =>
        apply distinct.work
        · simp [PoolTask.brings]
        · simp [PoolTask.brings]
  · exact distinct

theorem Distinct.perform (distinct : site.Distinct) (move : PoolMove) :
    (site.perform move).Distinct := by
  have same (outcome : List PoolEffect × Pool) :
      site.channels.length ≤ (site.carryOut outcome).channels.length :=
    Nat.le_of_eq (length_carryOut site outcome).symm
  cases move with
  | ask caller =>
      change (site.ask caller).Distinct
      unfold ask
      split
      · exact distinct
      · exact distinct.work nofun rfl
  | resume => exact distinct.work nofun rfl
  | connected place outcome => exact distinct.connect place outcome
  | drained id =>
      change (site.finishDrain id).Distinct
      unfold finishDrain
      split
      · exact distinct.work nofun (List.length_modify _ _ _)
      · exact distinct
  | tell id =>
      change (site.tell id).Distinct
      unfold tell
      split
      · exact distinct.work nofun rfl
      · exact distinct
  | wake =>
      change site.wake.Distinct
      unfold wake
      split
      · exact distinct
      · exact distinct.work nofun rfl
  | nodeDown => exact distinct.work nofun rfl
  | reconnect =>
      have kept := site.pool.scheduleReconnect_same
      have fewer : site.pool.scheduleReconnect.2.channels.Sublist site.pool.channels :=
        kept.channels.symm ▸ List.Sublist.refl _
      exact distinct.of_subperm (Pool.subperm_of_fewer fewer kept.resizing) (same _)
  | close => exact distinct.of_subperm site.pool.close_taken (same _)
  | channel id move =>
      have count : (site.perform (.channel id move)).channels.length = site.channels.length :=
        List.length_modify _ _ _
      exact ⟨distinct.once, fun other member => count ▸ distinct.known other member⟩
  | retarget target => exact ⟨distinct.once, distinct.known⟩

theorem performAll_distinct (node : NodeId) (address : SocketAddress) (config : PoolConfig)
    (policy : ReconnectionPolicy) (channelConfig : ChannelConfig) (target : Nat)
    (moves : List PoolMove) :
    ((start node address config policy channelConfig target).performAll moves).Distinct := by
  suffices run : ∀ site : PoolSite, site.Distinct → (site.performAll moves).Distinct from
    run _ ⟨List.nodup_nil, nofun⟩
  induction moves with
  | nil => exact fun _ => id
  | cons move rest ih => exact fun site distinct => ih (site.perform move) (distinct.perform move)

end PoolSite

end CqlDriver
