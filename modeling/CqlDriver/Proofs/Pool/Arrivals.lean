/-
What a resize waits for: the ends of its attempts to open channels, or of its drains. They come
in any order, and with the last one the pool grows, or the resize is over.
-/

import Mathlib.Data.List.Perm.Basic
import CqlDriver.Proofs.Pool.Growing

namespace CqlDriver

namespace PoolSite

variable {site found : PoolSite} {task : PoolTask} {caller : ResizeCaller} {move : PoolMove}
  {outcomes : Nat → Except DriverError (List UInt8 × Nat)}

def changeAll (change : Channel → Channel) (ids : List ChannelId) (channels : List Channel) :
    List Channel :=
  ids.foldl (fun channels id => channels.modify id.number change) channels

theorem getElem?_changeAll {ids : List ChannelId} (distinct : ids.Nodup)
    (change : Channel → Channel) (channels : List Channel) (id : ChannelId) :
    (changeAll change ids channels)[id.number]? =
      if id ∈ ids then channels[id.number]?.map change else channels[id.number]? := by
  unfold changeAll
  induction ids generalizing channels with
  | nil => rfl
  | cons first rest ih =>
      obtain ⟨absent, others⟩ := List.nodup_cons.mp distinct
      rw [List.foldl_cons, ih others, List.getElem?_modify]
      by_cases same : id = first
      · rw [same]
        simp [absent]
      · have apart : first.number ≠ id.number := fun equal => same (by
          cases id
          cases first
          cases equal
          rfl)
        simp [apart, same]

/-- What the resize at work waits for, if its attempts to open channels end like this. -/
def awaited (outcomes : Nat → Except DriverError (List UInt8 × Nat)) (site : PoolSite) :
    List PoolMove :=
  match site.pool.resizing with
  | some (_, .draining left) => left.map .drained
  | some (_, .connecting _ places) =>
      (List.range places.length).map fun place => .connected place (outcomes place)
  | _ => []

def arrival (site : PoolSite) : PoolMove → Option (PoolSite × PoolTask)
  | .connected place outcome =>
      if site.pool.isUndecided place then
        match outcome with
        | .error error => some (site, .connected place (.error error))
        | .ok (unread, now) =>
            let channel := Channel.start site.pool.address site.channelConfig unread now
            some ({ site with channels := site.channels ++ [channel] },
              .connected place (.ok ⟨site.channels.length⟩))
      else none
  | .drained id =>
      if site.pool.isDraining id then
        some ({ site with
          channels := site.channels.modify id.number fun channel =>
            (channel.close Channel.drainedReason).2 }, .drained id)
      else none
  | _ => none

theorem perform_of_arrival (arrives : site.arrival move = some (found, task)) :
    site.perform move = found.work task := by
  unfold arrival at arrives
  split at arrives
  · rename_i place outcome
    change site.connect place outcome = _
    unfold connect
    split at arrives
    · rename_i undecided
      rw [if_pos undecided]
      cases outcome with
      | error error =>
          cases arrives
          rfl
      | ok opened =>
          cases arrives
          rfl
    · cases arrives
  · rename_i id
    change site.finishDrain id = _
    unfold finishDrain
    split at arrives
    · rename_i draining
      rw [if_pos draining]
      cases arrives
      rfl
    · cases arrives
  · cases arrives

def wants (site : PoolSite) : List PoolMove → List PoolEffect
  | [] => []
  | move :: rest =>
      (match site.arrival move with
        | some (found, task) => (found.pool.undertake found.view task).1
        | none => []) ++ (site.perform move).wants rest

theorem wants_of_arrival (arrives : site.arrival move = some (found, task))
    (rest : List PoolMove) :
    site.wants (move :: rest) =
      (found.pool.undertake found.view task).1 ++ (found.work task).wants rest := by
  rw [wants, arrives, perform_of_arrival arrives]

theorem performAll_of_arrival (arrives : site.arrival move = some (found, task))
    (rest : List PoolMove) :
    site.performAll (move :: rest) = (found.work task).performAll rest := by
  rw [← perform_of_arrival arrives]
  rfl

@[simp] theorem carryOut_nothing (pool : Pool) :
    site.carryOut ([], pool) = { site with pool } := by
  simp [carryOut]

/-- An attempt ended like this, and gave a channel of which there were not so many before. -/
def Answers (count : Nat) : Except DriverError (List UInt8 × Nat) →
    Except DriverError ChannelId → Prop
  | .ok _, .ok id => count ≤ id.number
  | .error error, .error other => other = error
  | _, _ => False

theorem Answers.isOk {count : Nat} {outcome : Except DriverError (List UInt8 × Nat)}
    {result : Except DriverError ChannelId} (answers : Answers count outcome result) :
    result.isOk = outcome.isOk := by
  cases outcome with
  | ok opened =>
      cases result with
      | ok id => rfl
      | error error => cases answers
  | error error =>
      cases result with
      | ok id => cases answers
      | error other => rfl

theorem Answers.weaken {count fewer : Nat} {outcome : Except DriverError (List UInt8 × Nat)}
    {result : Except DriverError ChannelId} (answers : Answers count outcome result)
    (less : fewer ≤ count) : Answers fewer outcome result := by
  cases outcome with
  | ok opened =>
      cases result with
      | ok id => exact Nat.le_trans less answers
      | error error => cases answers
  | error error =>
      cases result with
      | ok id => cases answers
      | error other => exact answers

theorem arrival_connected {place : Nat} (undecided : site.pool.isUndecided place = true)
    (outcome : Except DriverError (List UInt8 × Nat)) :
    ∃ more result, site.arrival (.connected place outcome) =
        some ({ site with channels := site.channels ++ more }, .connected place result) ∧
      Answers site.channels.length outcome result := by
  unfold arrival
  cases outcome with
  | error error =>
      refine ⟨[], .error error, ?_, rfl⟩
      rw [List.append_nil]
      exact if_pos undecided
  | ok opened => exact ⟨[_], .ok ⟨site.channels.length⟩, if_pos undecided, Nat.le_refl _⟩

theorem isUndecided_of_getElem? {target place : Nat}
    {places : List (Option (Except DriverError ChannelId))}
    (growing : site.pool.resizing = some (caller, .connecting target places))
    (free : places[place]? = some none) : site.pool.isUndecided place = true := by
  unfold Pool.isUndecided
  rw [growing]
  dsimp only
  rw [free]
  rfl

theorem getElem?_set_iff {Value : Type} {places : List (Option Value)} {place : Nat}
    {rest : List Nat} (undecided : ∀ other, places[other]? = some none ↔ other ∈ place :: rest)
    (absent : place ∉ rest) (value : Value) (other : Nat) :
    (places.set place (some value))[other]? = some none ↔ other ∈ rest := by
  rw [List.getElem?_set]
  by_cases same : place = other
  · subst same
    simp only [if_pos]
    split
    · simp [absent]
    · simp [absent]
  · rw [if_neg same, undecided, List.mem_cons]
    exact or_iff_right fun equal => same equal.symm

structure Settles (known : Nat) (outcomes : Nat → Except DriverError (List UInt8 × Nat))
    (order : List Nat) (places : List (Option (Except DriverError ChannelId)))
    (results : List (Except DriverError ChannelId)) : Prop where
  length : results.length = places.length
  kept : ∀ (place : Nat) (result : Except DriverError ChannelId),
    places[place]? = some (some result) → results[place]? = some result
  ends : ∀ place ∈ order, ∃ result, results[place]? = some result ∧
    Answers known (outcomes place) result

variable {known later place : Nat} {order rest : List Nat}
  {places : List (Option (Except DriverError ChannelId))} {result : Except DriverError ChannelId}
  {results : List (Except DriverError ChannelId)}

theorem Settles.nil (decided : places = results.map some) :
    Settles known outcomes [] places results := by
  subst decided
  constructor
  case length => simp
  case kept =>
    intro place result taken
    simpa using taken
  case ends => simp

theorem Settles.cons (free : places[place]? = some none)
    (answers : Answers known (outcomes place) result) (more : known ≤ later)
    (settles : Settles later outcomes rest (places.set place (some result)) results) :
    Settles known outcomes (place :: rest) places results := by
  obtain ⟨within, _⟩ := List.getElem?_eq_some_iff.mp free
  constructor
  case length => rw [settles.length, List.length_set]
  case kept =>
    intro other value taken
    apply settles.kept
    have apart : place ≠ other := by
      intro same
      rw [← same, free] at taken
      cases taken
    rw [List.getElem?_set_ne apart]
    exact taken
  case ends =>
    intro other member
    cases List.mem_cons.mp member with
    | inl same =>
        subst same
        exact ⟨result, settles.kept other result (List.getElem?_set_self within), answers⟩
    | inr among =>
        obtain ⟨value, taken, answer⟩ := settles.ends other among
        exact ⟨value, taken, answer.weaken more⟩

theorem Settles.map_isOk (settles : Settles known outcomes order places results)
    (all : order.Perm (List.range places.length)) :
    results.map Except.isOk =
      (List.range places.length).map fun place => (outcomes place).isOk := by
  apply List.ext_getElem
  · simp [settles.length]
  · intro place first second
    have within : place ∈ order := by
      rw [all.mem_iff]
      simpa using second
    obtain ⟨result, taken, answers⟩ := settles.ends place within
    obtain ⟨_, same⟩ := List.getElem?_eq_some_iff.mp taken
    simp [same, answers.isOk]

theorem Settles.exists_isOk (settles : Settles known outcomes order places results)
    (all : order.Perm (List.range places.length)) (success : Bool) :
    (∃ result ∈ results, result.isOk = success) ↔
      ∃ place < places.length, (outcomes place).isOk = success := by
  have same : success ∈ results.map Except.isOk ↔
      success ∈ (List.range places.length).map fun place => (outcomes place).isOk := by
    rw [settles.map_isOk all]
  simpa [eq_comm] using same

theorem Settles.length_opened (settles : Settles known outcomes order places results)
    (all : order.Perm (List.range places.length)) :
    (Pool.opened results).length =
      (List.range places.length).countP fun place => (outcomes place).isOk := by
  rw [Pool.length_opened_eq, settles.map_isOk all, List.countP_map]
  rfl

theorem Settles.known_le (settles : Settles known outcomes order places results)
    (all : order.Perm (List.range places.length)) {id : ChannelId}
    (member : id ∈ Pool.opened results) : known ≤ id.number := by
  unfold Pool.opened at member
  obtain ⟨result, among, same⟩ := List.mem_filterMap.mp member
  obtain ⟨place, taken⟩ := List.mem_iff_getElem?.mp among
  obtain ⟨within, _⟩ := List.getElem?_eq_some_iff.mp taken
  have pending : place ∈ order := by
    rw [all.mem_iff, List.mem_range, ← settles.length]
    exact within
  obtain ⟨other, found, answers⟩ := settles.ends place pending
  cases taken.symm.trans found
  cases result with
  | error error => cases same
  | ok channel =>
      cases same
      cases outcome : outcomes place with
      | ok opened =>
          rw [outcome] at answers
          exact answers
      | error error =>
          rw [outcome] at answers
          cases answers

/-- The attempts end one after the other; with the last one the pool grows. -/
theorem exists_grown {target : Nat} (outcomes : Nat → Except DriverError (List UInt8 × Nat))
    (growing : site.pool.resizing = some (caller, .connecting target places))
    (undecided : ∀ place, places[place]? = some none ↔ place ∈ order) (distinct : order.Nodup)
    (more : order ≠ []) :
    ∃ (found : PoolSite) (results : List (Except DriverError ChannelId)),
      (∃ channels resizing, found = { site with
        channels := site.channels ++ channels, pool := { site.pool with resizing } }) ∧
      site.performAll (order.map fun place => .connected place (outcomes place)) =
        found.carryOut (found.pool.grown found.view caller target results) ∧
      site.wants (order.map fun place => .connected place (outcomes place)) =
        (found.pool.grown found.view caller target results).1 ∧
      Settles site.channels.length outcomes order places results := by
  induction order generalizing site places with
  | nil => exact absurd rfl more
  | cons place rest ih =>
      obtain ⟨absent, others⟩ := List.nodup_cons.mp distinct
      have free : places[place]? = some none := (undecided place).mpr List.mem_cons_self
      obtain ⟨channels, result, arrives, answers⟩ :=
        arrival_connected (isUndecided_of_getElem? growing free) (outcomes place)
      have left := getElem?_set_iff undecided absent result
      let met : PoolSite := { site with channels := site.channels ++ channels }
      rw [List.map_cons, performAll_of_arrival arrives, wants_of_arrival arrives]
      unfold work
      by_cases last : rest = []
      · subst last
        have whole : none ∉ places.set place (some result) := by
          intro member
          obtain ⟨other, found⟩ := List.mem_iff_getElem?.mp member
          exact List.not_mem_nil ((left other).mp found)
        obtain ⟨results, same⟩ := Pool.exists_of_decided whole
        have step : met.pool.undertake met.view (.connected place result) = _ :=
          Pool.connected_of_last growing (by rw [same, Pool.allDecided_map_some])
        rw [step]
        exact ⟨met, results, ⟨channels, site.pool.resizing, rfl⟩, rfl, List.append_nil _,
          .cons free answers (Nat.le_refl _) (.nil same)⟩
      · obtain ⟨next, pending⟩ := List.exists_mem_of_ne_nil rest last
        have waits : none ∈ places.set place (some result) :=
          List.mem_iff_getElem?.mpr ⟨next, (left next).mpr pending⟩
        have step : met.pool.undertake met.view (.connected place result) = _ :=
          Pool.connected_of_pending growing (Pool.allDecided_of_undecided waits)
        rw [step, carryOut_nothing, List.nil_append]
        let later : PoolSite := { met with pool := { site.pool with
          resizing := some (caller, .connecting target (places.set place (some result))) } }
        have goesOn : later.pool.resizing =
            some (caller, .connecting target (places.set place (some result))) := rfl
        obtain ⟨found, results, ⟨opened, resizing, same⟩, performs, wanted, settles⟩ :=
          ih goesOn left others last
        have known : site.channels.length ≤ met.channels.length :=
          List.length_append ▸ Nat.le_add_right _ _
        refine ⟨found, results, ⟨channels ++ opened, resizing, ?_⟩, performs, wanted,
          .cons free answers known settles⟩
        rw [same, ← List.append_assoc]

def shut (channel : Channel) : Channel := (channel.close Channel.drainedReason).2

/-- The drains end one after the other; with the last one the resize is over. -/
theorem exists_drained {order left : List ChannelId}
    (draining : site.pool.resizing = some (caller, .draining left)) (perm : order.Perm left)
    (more : order ≠ []) :
    ∃ (found : PoolSite) (size : Nat),
      (∃ resizing, found = { site with
        channels := changeAll shut order site.channels, pool := { site.pool with resizing } }) ∧
      site.performAll (order.map .drained) =
        found.carryOut (found.pool.finishResize found.view caller (.ok size)) ∧
      site.wants (order.map .drained) =
        (found.pool.finishResize found.view caller (.ok size)).1 := by
  induction order generalizing site left with
  | nil => exact absurd rfl more
  | cons id rest ih =>
      have among : id ∈ left := perm.subset List.mem_cons_self
      have fewer : rest.Perm (left.erase id) := (List.cons_perm_iff_perm_erase.mp perm).2
      let met : PoolSite := { site with channels := site.channels.modify id.number shut }
      have arrives : site.arrival (.drained id) = some (met, .drained id) := by
        unfold arrival Pool.isDraining
        rw [draining]
        exact if_pos (decide_eq_true among)
      rw [List.map_cons, performAll_of_arrival arrives, wants_of_arrival arrives]
      unfold work
      cases remaining : left.erase id with
      | nil =>
          have step : met.pool.undertake met.view (.drained id) = _ :=
            Pool.drained_of_last draining remaining
          rw [remaining, List.perm_nil] at fewer
          subst fewer
          rw [step]
          exact ⟨met, _, ⟨site.pool.resizing, rfl⟩, rfl, List.append_nil _⟩
      | cons next others =>
          have some : rest ≠ [] := by
            intro none
            rw [remaining, none] at fewer
            cases fewer.symm.eq_nil
          have step : met.pool.undertake met.view (.drained id) = _ :=
            Pool.drained_of_pending draining remaining
          rw [remaining] at fewer
          rw [step, carryOut_nothing, List.nil_append]
          let later : PoolSite := { met with pool := { site.pool with
            resizing := Option.some (caller, .draining (next :: others)) } }
          have goesOn : later.pool.resizing = Option.some (caller, .draining (next :: others)) :=
            rfl
          exact ih goesOn fewer some

theorem exists_order {Item Image : Type} {image : Item → Image} {items : List Item}
    {images : List Image} (perm : images.Perm (items.map image)) :
    ∃ order : List Item, order.Perm items ∧ images = order.map image := by
  have pairs : List.Forall₂ (fun value item => value = image item) (items.map image) items := by
    rw [← List.forall₂_map_right_iff, List.forall₂_eq_eq_eq]
  obtain ⟨order, matched, reordered⟩ := List.perm_comp_forall₂ perm pairs
  rw [← List.forall₂_map_right_iff, List.forall₂_eq_eq_eq] at matched
  exact ⟨order, reordered, matched⟩

end PoolSite

end CqlDriver
