/-
A pool that is not to shrink. It never has or awaits more channels than its target, so it
drains none; and each channel that it takes in is watched from then on.
-/

import CqlDriver.Proofs.Pool.Holdings

namespace CqlDriver

def PoolEffect.isDrain : PoolEffect → Bool
  | .drain _ => true
  | _ => false

namespace Pool

def incoming (pool : Pool) : Nat :=
  match pool.resizing with
  | some (_, .connecting _ places) => places.length
  | _ => 0

structure Fits (size : Nat) (pool : Pool) : Prop where
  within : pool.channels.length + pool.incoming ≤ size
  undrained : ∀ caller left, pool.resizing ≠ some (caller, .draining left)

def Undrained (effects : List PoolEffect) : Prop := ∀ channel, .drain channel ∉ effects

structure Steady (size : Nat) (before : List ChannelId) (outcome : List PoolEffect × Pool) :
    Prop where
  fits : outcome.2.Fits size
  undrained : Undrained outcome.1
  watching : ∀ channel ∈ outcome.2.channels, channel ∈ before ∨ .watch channel ∈ outcome.1

variable {view : PoolView} {pool : Pool} {size : Nat}

theorem Undrained.of_aside {effects : List PoolEffect}
    (aside : ∀ effect ∈ effects, effect.isAside = true) : Undrained effects :=
  fun _ member => nomatch aside _ member

theorem Undrained.nil : Undrained [] := fun _ => List.not_mem_nil

theorem Undrained.of_map {Item : Type} {effect : Item → PoolEffect}
    (other : ∀ item, (effect item).isDrain = false) (items : List Item) :
    Undrained (items.map effect) := by
  intro channel member
  obtain ⟨item, _, same⟩ := List.mem_map.mp member
  have kind := other item
  rw [same] at kind
  cases kind

theorem Undrained.append {first second : List PoolEffect} (before : Undrained first)
    (after : Undrained second) : Undrained (first ++ second) :=
  fun channel member => (List.mem_append.mp member).elim (before channel) (after channel)

theorem Fits.of_same {other : Pool} (fits : pool.Fits size)
    (fewer : other.channels.length ≤ pool.channels.length)
    (resizing : other.resizing = pool.resizing) : other.Fits size := by
  obtain ⟨within, undrained⟩ := fits
  unfold incoming at within
  refine ⟨?_, resizing ▸ undrained⟩
  unfold incoming
  rw [resizing]
  omega

theorem Fits.idle (fits : pool.Fits size) : Steady size pool.channels ([], pool) :=
  ⟨fits, .nil, fun _ => .inl⟩

theorem finishResize_resizing (view : PoolView) (caller : ResizeCaller)
    (result : Except DriverError Nat) (pool : Pool) :
    let after := (pool.finishResize view caller result).2
    after.resizing = none ∨ ∃ next, after.resizing = some (next, .granted) := by
  cases waiting : pool.queue with
  | nil =>
      rw [finishResize_of_alone waiting]
      exact .inl (report_same view caller result _).resizing
  | cons next rest =>
      rw [finishResize_of_waiting waiting]
      exact .inr ⟨next, (report_same view caller result _).resizing⟩

theorem finishResize_steady (view : PoolView) (within : pool.channels.length ≤ size)
    (caller : ResizeCaller) (result : Except DriverError Nat) :
    Steady size pool.channels (pool.finishResize view caller result) := by
  have channels : (pool.finishResize view caller result).2.channels = pool.channels :=
    finishResize_channels caller result pool
  refine ⟨⟨?_, fun other left draining => ?_⟩, .of_aside (finishResize_aside _ _ _), ?_⟩
  · unfold incoming
    rw [channels]
    rcases finishResize_resizing view caller result pool with idle | ⟨next, turn⟩
    · rw [idle]
      exact within
    · rw [turn]
      exact within
  · rcases finishResize_resizing view caller result pool with idle | ⟨next, turn⟩
    · cases idle.symm.trans draining
    · cases turn.symm.trans draining
  · rw [channels]
    exact fun channel => .inl

theorem beginResize_steady (within : pool.channels.length ≤ view.target)
    (isOpen : pool.isClosed = false) (caller : ResizeCaller) :
    Steady view.target pool.channels (pool.beginResize view caller) := by
  have fewer := List.length_filter_le (fun channel => !(view.channel channel).isClosed)
    pool.channels
  have kept : ∀ channel ∈ pool.channels.filter fun channel => !(view.channel channel).isClosed,
      channel ∈ pool.channels := fun _ member => (List.mem_filter.mp member).1
  unfold beginResize
  rw [if_neg (by rw [isOpen]; nofun)]
  dsimp only
  rw [if_neg (by omega)]
  split
  · rename_i enough
    let remaining : Pool :=
      { pool with channels := pool.channels.filter fun channel => !(view.channel channel).isClosed }
    have within : remaining.channels.length ≤ view.target := Nat.le_of_eq enough
    obtain ⟨fits, undrained, watching⟩ := finishResize_steady view within caller (.ok view.target)
    exact ⟨fits, undrained, fun channel member => (watching channel member).imp_left (kept _)⟩
  · refine ⟨⟨?_, nofun⟩, .of_map (fun _ => rfl) _, fun channel member => .inl (kept channel member)⟩
    dsimp only [incoming]
    rw [List.length_replicate]
    omega

theorem ensureSize_steady (fits : pool.Fits view.target) (isOpen : pool.isClosed = false)
    (caller : ResizeCaller) :
    Steady view.target pool.channels (pool.ensureSize view caller) := by
  unfold ensureSize
  split
  · have queued : { pool with queue := pool.queue ++ [caller] }.Fits view.target :=
      fits.of_same (Nat.le_refl _) rfl
    exact queued.idle
  · exact beginResize_steady (Nat.le_of_add_right_le fits.within) isOpen caller

theorem resume_steady (fits : pool.Fits view.target) (isOpen : pool.isClosed = false) :
    Steady view.target pool.channels (pool.resume view) := by
  unfold resume
  split
  · exact beginResize_steady (Nat.le_of_add_right_le fits.within) isOpen _
  · exact fits.idle

theorem Fits.steady_of_same {outcome : List PoolEffect × Pool} (fits : pool.Fits size)
    (same : SameBesidesLoop pool outcome.2) (aside : ∀ effect ∈ outcome.1, effect.isAside = true) :
    Steady size pool.channels outcome := by
  refine ⟨fits.of_same (Nat.le_of_eq (congrArg _ same.channels)) same.resizing,
    .of_aside aside, fun channel member => .inl ?_⟩
  rw [← same.channels]
  exact member

theorem seekMore_steady (fits : pool.Fits size) (target : Nat) :
    Steady size pool.channels (pool.seekMore target) :=
  fits.steady_of_same (pool.seekMore_same target) (seekMore_aside target pool)

theorem scheduleReconnect_steady (fits : pool.Fits size) :
    Steady size pool.channels pool.scheduleReconnect :=
  fits.steady_of_same pool.scheduleReconnect_same (scheduleReconnect_aside pool)

theorem length_opened (results : List (Except DriverError ChannelId)) :
    (opened results).length ≤ results.length :=
  List.length_filterMap_le _ _

theorem grown_steady {results : List (Except DriverError ChannelId)}
    (within : pool.channels.length + results.length ≤ size) (isOpen : pool.isClosed = false)
    (caller : ResizeCaller) (target : Nat) :
    Steady size pool.channels (pool.grown view caller target results) := by
  obtain ⟨upward, downward, result, same, up, ended⟩ :=
    grown_parts view isOpen caller target results
  have taken : ((pool.grownBy results).seekMore target).2.channels =
      pool.channels ++ opened results := ((pool.grownBy results).seekMore_same target).channels
  have fewer : ((pool.grownBy results).seekMore target).2.channels.length ≤ size := by
    have most := length_opened results
    rw [taken, List.length_append]
    omega
  obtain ⟨fits, undrained, watching⟩ := finishResize_steady view fewer caller result
  have calmUp : Undrained upward := by
    rw [up]
    split
    · exact .nil
    · exact .of_aside (by simp [PoolEffect.isAside])
  have calmDown : Undrained downward := by
    rcases ended with ⟨rfl, _⟩ | ⟨rfl, _⟩
    · exact .nil
    · exact .of_aside (by simp [PoolEffect.isAside])
  rw [same]
  refine ⟨fits, ?_, fun channel member => ?_⟩
  · refine .append (.append (.append (.append ?_ calmUp) ?_) calmDown) undrained
    · exact .of_map (fun _ => rfl) _
    · exact .of_aside (seekMore_aside target _)
  · rw [finishResize_channels, taken] at member
    refine (List.mem_append.mp member).imp_right fun isNew => ?_
    simp only [List.append_assoc]
    exact List.mem_append_left _ (List.mem_map_of_mem isNew)

theorem connected_steady (fits : pool.Fits size) (isOpen : pool.isClosed = false) (place : Nat)
    (result : Except DriverError ChannelId) :
    Steady size pool.channels (pool.connected view place result) := by
  unfold connected
  split
  · rename_i caller target places growing
    have within := fits.within
    unfold incoming at within
    rw [growing] at within
    dsimp only
    split
    · rename_i results decided
      have count := congrArg List.length (allDecided_eq_some decided)
      rw [List.length_set, List.length_map] at count
      exact grown_steady (count ▸ within) isOpen caller target
    · refine ⟨⟨?_, nofun⟩, .nil, fun _ => .inl⟩
      dsimp only [incoming]
      rw [List.length_set]
      exact within
  · exact fits.idle

theorem lost_steady (fits : pool.Fits size) (gone : ChannelId) :
    Steady size (pool.without gone).channels (pool.lost view gone) := by
  have fewer : (pool.without gone).Fits size := fits.of_same (List.length_filter_le _ _) rfl
  rcases pool.lost_cases view gone with same | ⟨signals, word, same⟩
  · rw [same]
    exact fewer.idle
  · obtain ⟨sought, undrained, watching⟩ := seekMore_steady fewer view.target
    have calm : Undrained signals := by
      rcases word with rfl | rfl
      · exact .nil
      · exact .of_aside (by simp [PoolEffect.isAside])
    rw [same]
    refine ⟨sought, .append calm undrained, fun channel member => ?_⟩
    exact (watching channel member).imp_right (List.mem_append_right _)

theorem wake_steady (fits : pool.Fits view.target) (isOpen : pool.isClosed = false) :
    Steady view.target pool.channels (pool.wake view) := by
  unfold wake
  split
  · exact fits.idle
  · rw [if_neg (by rw [isOpen]; nofun)]
    split
    · have ended : pool.endLoop.Fits view.target := fits.of_same (Nat.le_refl _) rfl
      exact ended.idle
    · exact ensureSize_steady fits isOpen .loop

theorem onNodeDown_steady (fits : pool.Fits size) :
    Steady size [] pool.onNodeDown := by
  let emptied : Pool := { pool with channels := [] }
  have fewer : emptied.Fits size := fits.of_same (Nat.zero_le _) rfl
  obtain ⟨sought, undrained, watching⟩ := scheduleReconnect_steady fewer
  refine ⟨sought, .append (.of_map (fun _ => rfl) _) undrained, fun channel member => ?_⟩
  exact (watching channel member).imp_right (List.mem_append_right _)

end Pool

end CqlDriver
