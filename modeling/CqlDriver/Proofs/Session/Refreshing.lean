/-
The node list at the start of a session and the same list taken in again. The start keeps the
first description of each address and adds the node that was reached; a refresh keeps the last
one and adds nothing. Where these differ, the first refresh changes a registry in which nothing
has happened.
-/

import CqlDriver.Proofs.Session.Effects

namespace CqlDriver

def firstOf (infos : List NodeInfo) (address : SocketAddress) : Option NodeInfo :=
  infos.find? fun info => decide (info.address = address)

def lastOf (infos : List NodeInfo) (address : SocketAddress) : Option NodeInfo :=
  firstOf infos.reverse address

namespace NodeRegistry

variable {registry : NodeRegistry} {distanceOf : NodeInfo → Distance} {infos : List NodeInfo}
  {address control : SocketAddress} {id : NodeId} {node : Node} {info : NodeInfo}

theorem firstOf_address (found : firstOf infos address = some info) : info.address = address :=
  by simpa using List.find?_some found

theorem firstOf_eq_none_iff : firstOf infos address = none ↔ ¬Listed infos address := by
  simp only [firstOf, List.find?_eq_none, decide_eq_true_eq, Listed, not_exists, not_and]

theorem listed_of_firstOf (found : firstOf infos address = some info) : Listed infos address :=
  ⟨info, List.mem_of_find?_eq_some found, firstOf_address found⟩

theorem exists_firstOf (listed : Listed infos address) :
    ∃ info, firstOf infos address = some info :=
  Option.ne_none_iff_exists'.mp (mt firstOf_eq_none_iff.mp (not_not_intro listed))

theorem listed_reverse : Listed infos.reverse address ↔ Listed infos address := by
  simp only [Listed, List.mem_reverse]

theorem firstOf_append_of_some (more : List NodeInfo) (found : firstOf infos address = some info) :
    firstOf (infos ++ more) address = some info := by
  unfold firstOf at found ⊢
  rw [List.find?_append, found, Option.some_or]

theorem firstOf_append_self (unlisted : ¬Listed infos info.address) :
    firstOf (infos ++ [info]) info.address = some info := by
  have nothing := firstOf_eq_none_iff.mpr unlisted
  unfold firstOf at nothing ⊢
  rw [List.find?_append, nothing, Option.none_or, List.find?_singleton,
    if_pos (decide_eq_true rfl)]

structure Filled (distanceOf : NodeInfo → Distance) (infos : List NodeInfo)
    (registry : NodeRegistry) : Prop where
  sound : registry.Sound
  first : ∀ {id info distance}, registry.knowledge id = some (info, distance) →
    firstOf infos info.address = some info ∧ distance = distanceOf info
  covers : ∀ {address}, Listed infos address → registry.Holds address

theorem holds_iff_knowledge :
    registry.Holds address ↔
      ∃ id info distance, registry.knowledge id = some (info, distance) ∧
        info.address = address := by
  constructor
  · rintro ⟨id, node, found, here⟩
    exact ⟨id, node.info, node.distance, knowledge_of_get? found, here⟩
  · rintro ⟨id, info, distance, known, here⟩
    obtain ⟨node, found, rfl, rfl⟩ := exists_of_knowledge known
    exact ⟨id, node, found, here⟩

theorem filled_empty (distanceOf : NodeInfo → Distance) : empty.Filled distanceOf [] :=
  ⟨sound_empty, nofun, by rintro address ⟨info, member, _⟩; cases member⟩

theorem Filled.addNode (filled : registry.Filled distanceOf infos) (info : NodeInfo) :
    (registry.addNode info (distanceOf info)).2.Filled distanceOf (infos ++ [info]) := by
  obtain ⟨new, old⟩ := filled.sound.holds_addNode info (distanceOf info)
  refine ⟨filled.sound.addNode info (distanceOf info), ?_, ?_⟩
  · intro id other distance known
    cases here : registry.atAddress? info.address with
    | some node =>
        rw [addNode_of_present here] at known
        obtain ⟨earlier, right⟩ := filled.first known
        exact ⟨firstOf_append_of_some [info] earlier, right⟩
    | none =>
        obtain ⟨node, found, rfl, rfl⟩ := exists_of_knowledge known
        rw [get?_addNode here] at found
        by_cases isNew : id = ⟨registry.nextNumber⟩
        · rw [if_pos isNew] at found
          cases found
          have unlisted : ¬Listed infos info.address :=
            fun listed => filled.sound.not_holds here (filled.covers listed)
          exact ⟨firstOf_append_self unlisted, rfl⟩
        · rw [if_neg isNew] at found
          obtain ⟨earlier, right⟩ := filled.first (knowledge_of_get? found)
          exact ⟨firstOf_append_of_some [info] earlier, right⟩
  · rintro address ⟨other, member, rfl⟩
    rcases List.mem_append.mp member with earlier | last
    · exact old (filled.covers ⟨other, earlier, rfl⟩)
    · rw [List.mem_singleton.mp last]
      exact new

theorem Filled.discover (filled : registry.Filled distanceOf infos) (more : List NodeInfo) :
    (registry.discover distanceOf more).Filled distanceOf (infos ++ more) := by
  unfold NodeRegistry.discover
  induction more generalizing registry infos with
  | nil =>
      rw [List.append_nil]
      exact filled
  | cons info rest ih =>
      have added := ih (filled.addNode info)
      rw [List.append_assoc] at added
      exact added

/-- Only what is known of the nodes matters, and not their health. -/
theorem Filled.of_knowledge {after : NodeRegistry} (filled : registry.Filled distanceOf infos)
    (sound : after.Sound) (same : ∀ id, after.knowledge id = registry.knowledge id) :
    after.Filled distanceOf infos := by
  refine ⟨sound, fun known => filled.first (same _ ▸ known), fun listed => ?_⟩
  obtain ⟨id, info, distance, known, here⟩ := holds_iff_knowledge.mp (filled.covers listed)
  exact holds_iff_knowledge.mpr ⟨id, info, distance, (same id).trans known, here⟩

theorem Filled.signal (filled : registry.Filled distanceOf infos) (signal : RegistryOperation)
    (isSignal : signal.isSignal = true) : (registry.perform signal).2.Filled distanceOf infos :=
  filled.of_knowledge (filled.sound.perform signal)
    (filled.sound.knowledge_signal signal isSignal)

theorem Filled.signals (filled : registry.Filled distanceOf infos)
    {signals : List RegistryOperation} (health : ∀ signal ∈ signals, signal.isSignal = true) :
    (registry.performAll signals).Filled distanceOf infos := by
  induction signals generalizing registry with
  | nil => exact filled
  | cons signal rest ih =>
      obtain ⟨first, later⟩ := List.forall_mem_cons.mp health
      exact ih (filled.signal signal first) later

theorem filled_fill (distanceOf : NodeInfo → Distance) (control : SocketAddress)
    (infos : List NodeInfo) : (empty.fill distanceOf control infos).Filled distanceOf infos := by
  have discovered := (filled_empty distanceOf).discover infos
  rw [List.nil_append] at discovered
  unfold fill
  dsimp only
  split
  · exact discovered.signal (.signalUp _) rfl
  · exact discovered

theorem listed_withReached (listed : Listed infos control) :
    withReached control infos = infos := if_pos (listed_iff.mpr listed)

theorem withReached_of_unlisted (unlisted : ¬Listed infos control) :
    withReached control infos = infos ++ [{ address := control }] :=
  if_neg (mt listed_iff.mp unlisted)

theorem firstOf_withReached (control : SocketAddress) (found : firstOf infos address = some info) :
    firstOf (withReached control infos) address = some info := by
  by_cases listed : Listed infos control
  · rw [listed_withReached listed]
    exact found
  · rw [withReached_of_unlisted listed]
    exact firstOf_append_of_some _ found

theorem listed_withReached_iff :
    Listed (withReached control infos) address ↔ Listed infos address ∨ address = control := by
  by_cases listed : Listed infos control
  · rw [listed_withReached listed]
    refine (or_iff_left_of_imp ?_).symm
    rintro rfl
    exact listed
  · rw [withReached_of_unlisted listed]
    simp only [Listed, List.mem_append, List.mem_singleton, or_and_right, exists_or,
      exists_eq_left]
    exact or_congr_right eq_comm

/-- A refresh, seen from a node: it goes if it is not listed, and otherwise its last description
counts. -/
theorem Filled.get?_refreshNodes (filled : registry.Filled distanceOf (withReached control infos))
    (told : infos ≠ []) (id : NodeId) :
    (registry.refreshNodes distanceOf infos).get? id =
      (registry.get? id).bind fun node =>
        (lastOf infos node.address).map fun info =>
          { node with info, distance := distanceOf info } := by
  obtain ⟨leftSound, left⟩ := filled.sound.removeMissing infos
  have known : ∀ info ∈ infos, (registry.removeMissing infos).Holds info.address := by
    intro info member
    have listed : Listed infos info.address := ⟨info, member, rfl⟩
    obtain ⟨id, node, found, here⟩ := filled.covers (listed_withReached_iff.mpr (.inl listed))
    exact ⟨id, node, (left id node).mpr ⟨found, here ▸ listed⟩, here⟩
  have all := leftSound.get?_applyAll distanceOf known id
  unfold refreshNodes
  rw [if_neg (by rw [List.isEmpty_iff]; exact told), all]
  have gone : (∀ node, registry.get? id = some node → ¬Listed infos node.address) →
      (registry.removeMissing infos).get? id = none := by
    intro unlisted
    rw [Option.eq_none_iff_forall_not_mem]
    intro node found
    obtain ⟨present, listed⟩ := (left id node).mp found
    exact unlisted node present listed
  cases present : registry.get? id with
  | none =>
      rw [gone fun node found => nomatch present.symm.trans found]
      rfl
  | some node =>
      rw [Option.bind_some]
      by_cases listed : Listed infos node.address
      · obtain ⟨last, found⟩ := exists_firstOf (listed_reverse.mpr listed)
        have described := Node.afterAll_eq distanceOf node infos
        unfold firstOf at found
        rw [found] at described
        unfold lastOf firstOf
        rw [(left id node).mpr ⟨present, listed⟩, Option.map_some, described, found,
          Option.map_some]
      · have nothing : lastOf infos node.address = none :=
          firstOf_eq_none_iff.mpr (mt listed_reverse.mp listed)
        rw [nothing, Option.map_none, gone fun other found => ?_]
        · rfl
        · cases present.symm.trans found
          exact listed

/-- Of a node that is listed the first description counts at the start. -/
theorem Filled.described_first (filled : registry.Filled distanceOf (withReached control infos))
    (found : registry.get? id = some node) (listed : Listed infos node.address) :
    firstOf infos node.address = some node.info ∧ node.distance = distanceOf node.info := by
  obtain ⟨first, right⟩ := filled.first (knowledge_of_get? found)
  obtain ⟨info, earliest⟩ := exists_firstOf listed
  have same : some info = some node.info :=
    (firstOf_withReached control earliest).symm.trans first
  exact ⟨earliest.trans same, right⟩

theorem Filled.address_of_unlisted
    (filled : registry.Filled distanceOf (withReached control infos))
    (found : registry.get? id = some node) (unlisted : ¬Listed infos node.address) :
    node.address = control :=
  (listed_withReached_iff.mp
    (listed_of_firstOf (filled.first (knowledge_of_get? found)).1)).resolve_left unlisted

theorem Filled.kept (filled : registry.Filled distanceOf (withReached control infos))
    {after : Node} (found : (registry.refreshNodes distanceOf infos).get? id = some after) :
    ∃ node, registry.get? id = some node ∧ after.address = node.address ∧
      after.state = node.state := by
  by_cases told : infos = []
  · subst told
    exact ⟨after, found, rfl, rfl⟩
  · rw [filled.get?_refreshNodes told] at found
    obtain ⟨node, present, described⟩ := Option.bind_eq_some_iff.mp found
    obtain ⟨info, last, rfl⟩ := Option.map_eq_some_iff.mp described
    exact ⟨node, present, firstOf_address last, rfl⟩

theorem Filled.gone_iff (filled : registry.Filled distanceOf (withReached control infos))
    (found : registry.get? id = some node) :
    (registry.refreshNodes distanceOf infos).get? id = none ↔
      infos ≠ [] ∧ node.address = control ∧ ¬Listed infos control := by
  by_cases told : infos = []
  · subst told
    refine ⟨fun gone => ?_, fun gone => absurd rfl gone.1⟩
    cases found.symm.trans gone
  · rw [filled.get?_refreshNodes told, found, Option.bind_some, Option.map_eq_none_iff]
    unfold lastOf
    rw [firstOf_eq_none_iff, listed_reverse]
    constructor
    · intro unlisted
      have itself := filled.address_of_unlisted found unlisted
      exact ⟨told, itself, itself ▸ unlisted⟩
    · rintro ⟨_, itself, unlisted⟩
      rw [itself]
      exact unlisted

theorem Filled.described_last (filled : registry.Filled distanceOf (withReached control infos))
    (found : registry.get? id = some node) (listed : Listed infos node.address) :
    ∃ info, lastOf infos node.address = some info ∧
      (registry.refreshNodes distanceOf infos).get? id =
        some { node with info, distance := distanceOf info } := by
  have told : infos ≠ [] := by
    rintro rfl
    obtain ⟨info, member, _⟩ := listed
    cases member
  obtain ⟨info, last⟩ := exists_firstOf (listed_reverse.mpr listed)
  refine ⟨info, last, ?_⟩
  rw [filled.get?_refreshNodes told, found, Option.bind_some]
  unfold lastOf
  rw [last, Option.map_some]

theorem Filled.unchanged_iff (filled : registry.Filled distanceOf (withReached control infos)) :
    (∀ id, (registry.refreshNodes distanceOf infos).get? id = registry.get? id) ↔
      (infos = [] ∨ Listed infos control) ∧
        ∀ address, firstOf infos address = lastOf infos address := by
  constructor
  · intro unchanged
    constructor
    · refine Classical.or_iff_not_imp_left.mpr fun told =>
        Classical.byContradiction fun unlisted => ?_
      obtain ⟨id, node, found, itself⟩ :=
        filled.covers (listed_withReached_iff.mpr (.inr rfl))
      have gone := (filled.gone_iff found).mpr ⟨told, itself, unlisted⟩
      cases found.symm.trans ((unchanged id).symm.trans gone)
    · intro address
      by_cases listed : Listed infos address
      · obtain ⟨id, node, found, rfl⟩ := filled.covers (listed_withReached_iff.mpr (.inl listed))
        obtain ⟨info, last, now⟩ := filled.described_last found listed
        have same := now.symm.trans ((unchanged id).trans found)
        injection same with same
        rw [(filled.described_first found listed).1, last]
        exact congrArg (fun node => some node.info) same.symm
      · rw [firstOf_eq_none_iff.mpr listed]
        exact (firstOf_eq_none_iff.mpr (mt listed_reverse.mp listed)).symm
  · rintro ⟨covered, same⟩ id
    cases found : registry.get? id with
    | none =>
        rw [Option.eq_none_iff_forall_not_mem]
        intro node present
        obtain ⟨old, older, _⟩ := filled.kept present
        cases found.symm.trans older
    | some node =>
        by_cases told : infos = []
        · subst told
          exact found
        · by_cases listed : Listed infos node.address
          · obtain ⟨info, last, now⟩ := filled.described_last found listed
            obtain ⟨first, right⟩ := filled.described_first found listed
            rw [← same, first] at last
            injection last with last
            rw [now, ← last, ← right]
          · have itself := filled.address_of_unlisted found listed
            rw [itself] at listed
            exact absurd (covered.resolve_left told) listed

/-- The start of a session and a refresh of its registry from the same list. Nothing is added,
and the node that was reached goes if it is not listed. A listed node is as its first
description says before and as its last one says after; so nothing changes just if the node
that was reached is listed, or nothing is, and each address is described first as it is last. -/
theorem refresh_after_start (distanceOf : NodeInfo → Distance) (control : SocketAddress)
    (infos : List NodeInfo) {signals : List RegistryOperation}
    (health : ∀ signal ∈ signals, signal.isSignal = true) :
    let before := (empty.fill distanceOf control (withReached control infos)).performAll signals
    let after := before.refreshNodes distanceOf infos
    (∀ id node, after.get? id = some node → ∃ old, before.get? id = some old ∧
      node.address = old.address ∧ node.state = old.state) ∧
    (∀ id node, before.get? id = some node →
      (after.get? id = none ↔ infos ≠ [] ∧ node.address = control ∧ ¬Listed infos control) ∧
      (Listed infos node.address →
        (firstOf infos node.address = some node.info ∧
          node.distance = distanceOf node.info) ∧
        ∃ info, lastOf infos node.address = some info ∧
          after.get? id = some { node with info, distance := distanceOf info })) ∧
    ((∀ id, after.get? id = before.get? id) ↔
      (infos = [] ∨ Listed infos control) ∧
        ∀ address, firstOf infos address = lastOf infos address) := by
  intro before after
  have filled : before.Filled distanceOf (withReached control infos) :=
    (filled_fill distanceOf control _).signals health
  refine ⟨fun id node found => filled.kept found, fun id node found => ?_, filled.unchanged_iff⟩
  exact ⟨filled.gone_iff found,
    fun listed => ⟨filled.described_first found listed, filled.described_last found listed⟩⟩

def homeDistance : NodeInfo → Distance := (Balancing.init {} (some "dc1")).distance

def hostAddress (part : Nat) : SocketAddress := ⟨.ofParts 10 0 0 part, 9042, 0⟩

/-- A session that reached the first host and was told of the second one, twice. -/
def toldTwice : List NodeInfo :=
  [{ address := hostAddress 2, datacenter := some "dc1" },
    { address := hostAddress 2, datacenter := some "dc2" }]

theorem refresh_after_switching_off :
    let before := (empty.fill homeDistance (hostAddress 1)
      (withReached (hostAddress 1) toldTwice)).performAll [.forceDown ⟨2⟩, .signalUp ⟨1⟩]
    let after := before.refreshNodes homeDistance toldTwice
    (∀ signal ∈ [RegistryOperation.forceDown ⟨2⟩, .signalUp ⟨1⟩], signal.isSignal = true) ∧
      after.get? ⟨2⟩ = none ∧
      ∃ info, lastOf toldTwice (hostAddress 2) = some info ∧
        after.get? ⟨1⟩ = some { id := ⟨1⟩, info, state := .up, distance := homeDistance info } := by
  intro before after
  have health : ∀ signal ∈ [RegistryOperation.forceDown ⟨2⟩, .signalUp ⟨1⟩],
      signal.isSignal = true := by decide
  obtain ⟨_, along, _⟩ := refresh_after_start homeDistance (hostAddress 1) toldTwice health
  let near : Node :=
    { id := ⟨1⟩, info := { address := hostAddress 2, datacenter := some "dc1" }, state := .up
      distance := .localDc }
  let reached : Node :=
    { id := ⟨2⟩, info := { address := hostAddress 1 }, state := .forcedDown, distance := .remote }
  have unlisted : ¬Listed toldTwice (hostAddress 1) := by
    rw [← listed_iff]
    decide
  have listed : Listed toldTwice (hostAddress 2) := listed_iff.mp (by decide)
  refine ⟨health, ?_, ?_⟩
  · exact (along ⟨2⟩ reached (by decide)).1.mpr ⟨by decide, rfl, unlisted⟩
  · obtain ⟨info, last, now⟩ := ((along ⟨1⟩ near (by decide)).2 listed).2
    exact ⟨info, last, now⟩

/-- The session is connected to the first host, which a refresh from the same list drops; and
what it knows of the second one changes. -/
theorem refresh_drops_the_reached :
    let registry := empty.fill homeDistance (hostAddress 1) (withReached (hostAddress 1) toldTwice)
    let refreshed := registry.refreshNodes homeDistance toldTwice
    (registry.atAddress? (hostAddress 1)).map Node.state = some .up ∧
      refreshed.atAddress? (hostAddress 1) = none ∧
      (registry.atAddress? (hostAddress 2)).map Node.distance = some .localDc ∧
      (refreshed.atAddress? (hostAddress 2)).map Node.distance = some .remote := by decide

end NodeRegistry

end CqlDriver
