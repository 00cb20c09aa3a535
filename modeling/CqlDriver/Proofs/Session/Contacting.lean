/-
The search for a first node, attempt by attempt, whatever comes of the attempts. A node that
rejects a version is tried again with the next lower one, which stays for all others; every other
failure gives the node up.
-/

import Mathlib.Data.List.Chain
import CqlDriver.Simulation.Sessions

namespace CqlDriver

namespace ProtocolVersion

def lowerings : ProtocolVersion → Nat
  | .v4 => 1
  | .v3 => 0

theorem lowerings_le_one (version : ProtocolVersion) : version.lowerings ≤ 1 := by
  cases version with
  | v4 => exact Nat.le_refl 1
  | v3 => exact Nat.zero_le 1

theorem lowerings_of_downgrade? {version lower : ProtocolVersion}
    (lowered : version.downgrade? = some lower) :
    lower.lowerings + 1 = version.lowerings ∧ lower.number ≤ version.number := by
  cases version with
  | v4 =>
      cases lowered
      decide
  | v3 => cases lowered

end ProtocolVersion

namespace FirstContact

structure Attempt where
  address : SocketAddress
  version : ProtocolVersion
  result : Except DriverError ChannelId

structure Course where
  attempts : List Attempt
  result : Except DriverError (ChannelId × ProtocolVersion)

variable {contact : FirstContact} {address : SocketAddress} {rest : List SocketAddress}
  {error : DriverError}

theorem reject_of_lower {lower : ProtocolVersion} (next : contact.remaining = address :: rest)
    (lowered : contact.lower? error = some lower) :
    contact.reject error = { contact with version := lower } := by
  unfold reject
  simp only [next, lowered]

theorem reject_of_no_lower (next : contact.remaining = address :: rest)
    (none : contact.lower? error = none) :
    contact.reject error =
      { contact with remaining := rest, errors := contact.errors ++ [(address, error)] } := by
  unfold reject
  simp only [next, none]

theorem downgrade?_of_lower? {lower : ProtocolVersion}
    (lowered : contact.lower? error = some lower) :
    rejectsVersion error = true ∧ contact.version.downgrade? = some lower := by
  unfold lower? at lowered
  split at lowered
  · exact ⟨by assumption, lowered⟩
  · cases lowered

def allowance (contact : FirstContact) : Nat :=
  contact.remaining.length + contact.version.lowerings

theorem allowance_reject (next : contact.remaining = address :: rest) (error : DriverError) :
    (contact.reject error).allowance + 1 ≤ contact.allowance := by
  unfold allowance
  cases lowered : contact.lower? error with
  | some lower =>
      have fewer := ProtocolVersion.lowerings_of_downgrade? (downgrade?_of_lower? lowered).2
      rw [reject_of_lower next lowered]
      dsimp only
      omega
  | none =>
      rw [reject_of_no_lower next lowered, next, List.length_cons]
      dsimp only
      omega

/-- The search, when its attempts end like this one after the other. -/
def search (outcomes : Nat → Except DriverError ChannelId) (contact : FirstContact) : Course :=
  match _next : contact.remaining with
  | [] => { attempts := [], result := .error contact.failure }
  | address :: _ =>
      let attempt : Attempt := { address, version := contact.version, result := outcomes 0 }
      match outcomes 0 with
      | .ok channel => { attempts := [attempt], result := .ok (channel, contact.version) }
      | .error error =>
          let later := search (fun number => outcomes (number + 1)) (contact.reject error)
          { later with attempts := attempt :: later.attempts }
termination_by contact.allowance
decreasing_by exact allowance_reject _next error

/-- The search step by step. An attempt that failed is made again with a lower version, or its
contact point is given up. -/
inductive Searches : (Nat → Except DriverError ChannelId) → FirstContact → Course → Prop
  | done {outcomes : Nat → Except DriverError ChannelId} {contact : FirstContact}
      (nowhere : contact.remaining = []) :
      Searches outcomes contact { attempts := [], result := .error contact.failure }
  | reached {outcomes : Nat → Except DriverError ChannelId} {contact : FirstContact}
      {address : SocketAddress} {rest : List SocketAddress} {channel : ChannelId}
      (next : contact.remaining = address :: rest) (opened : outcomes 0 = .ok channel) :
      Searches outcomes contact
        { attempts := [{ address, version := contact.version, result := .ok channel }]
          result := .ok (channel, contact.version) }
  | lowered {outcomes : Nat → Except DriverError ChannelId} {contact : FirstContact}
      {address : SocketAddress} {rest : List SocketAddress} {error : DriverError}
      {lower : ProtocolVersion} {later : Course}
      (next : contact.remaining = address :: rest) (failed : outcomes 0 = .error error)
      (again : contact.lower? error = some lower)
      (goesOn : Searches (fun number => outcomes (number + 1)) { contact with version := lower }
        later) :
      Searches outcomes contact
        { attempts :=
            { address, version := contact.version, result := .error error } :: later.attempts
          result := later.result }
  | givenUp {outcomes : Nat → Except DriverError ChannelId} {contact : FirstContact}
      {address : SocketAddress} {rest : List SocketAddress} {error : DriverError}
      {later : Course}
      (next : contact.remaining = address :: rest) (failed : outcomes 0 = .error error)
      (never : contact.lower? error = none)
      (goesOn : Searches (fun number => outcomes (number + 1))
        { contact with remaining := rest, errors := contact.errors ++ [(address, error)] } later) :
      Searches outcomes contact
        { attempts :=
            { address, version := contact.version, result := .error error } :: later.attempts
          result := later.result }

theorem search_searches (outcomes : Nat → Except DriverError ChannelId) (contact : FirstContact) :
    Searches outcomes contact (search outcomes contact) := by
  fun_induction search outcomes contact with
  | case1 outcomes contact nowhere => exact .done nowhere
  | case2 outcomes contact address rest next attempt channel opened =>
      have made : attempt = { address, version := contact.version, result := .ok channel } := by
        rw [← opened]
      rw [made]
      exact .reached next opened
  | case3 outcomes contact address rest next attempt error failed later ih =>
      have made : attempt = { address, version := contact.version, result := .error error } := by
        rw [← failed]
      have goesOn : Searches _ (contact.reject error) later := ih
      rw [made]
      cases again : contact.lower? error with
      | some lower =>
          rw [reject_of_lower next again] at goesOn
          exact .lowered next failed again goesOn
      | none =>
          rw [reject_of_no_lower next again] at goesOn
          exact .givenUp next failed again goesOn

namespace Attempt

/-- Its version was rejected, and there is a lower one. -/
def isRepeated (attempt : Attempt) : Bool :=
  match attempt.result with
  | .error (.connection (.protocolMismatch _ _)) => attempt.version.downgrade?.isSome
  | _ => false

def LeadsTo (attempt later : Attempt) : Prop :=
  (∃ error, attempt.result = .error error) ∧
    if attempt.isRepeated then
      later.address = attempt.address ∧ attempt.version.downgrade? = some later.version
    else later.version = attempt.version

theorem isRepeated_eq (address : SocketAddress) (contact : FirstContact) (error : DriverError) :
    ({ address, version := contact.version, result := .error error } : Attempt).isRepeated =
      (contact.lower? error).isSome := by
  unfold isRepeated lower? rejectsVersion
  cases error with
  | connection cause =>
      cases cause with
      | protocolMismatch version text => rfl
      | _ => rfl
  | _ => rfl

theorem LeadsTo.falls {attempt later : Attempt} (leads : attempt.LeadsTo later) :
    later.version.number ≤ attempt.version.number := by
  obtain ⟨_, versions⟩ := leads
  split at versions
  · exact (ProtocolVersion.lowerings_of_downgrade? versions.2).2
  · exact UInt8.le_of_eq (congrArg ProtocolVersion.number versions)

end Attempt

variable {outcomes : Nat → Except DriverError ChannelId} {course : Course}

namespace Searches

theorem length_le (searches : Searches outcomes contact course) :
    course.attempts.length ≤ contact.allowance := by
  induction searches with
  | done nowhere => simp
  | reached next opened =>
      unfold allowance
      rw [next, List.length_cons, List.length_cons, List.length_nil]
      omega
  | @lowered outcomes contact address rest error lower later next failed again goesOn ih =>
      have fewer := allowance_reject next error
      rw [reject_of_lower next again] at fewer
      rw [List.length_cons]
      omega
  | @givenUp outcomes contact address rest error later next failed never goesOn ih =>
      have fewer := allowance_reject next error
      rw [reject_of_no_lower next never] at fewer
      rw [List.length_cons]
      omega

theorem first (searches : Searches outcomes contact course) {attempt : Attempt}
    (made : attempt ∈ course.attempts.head?) :
    contact.remaining.head? = some attempt.address ∧ attempt.version = contact.version := by
  cases searches with
  | done nowhere => cases made
  | reached next opened =>
      cases made
      simp [next]
  | lowered next failed again goesOn =>
      cases made
      simp [next]
  | givenUp next failed never goesOn =>
      cases made
      simp [next]

theorem chain (searches : Searches outcomes contact course) :
    course.attempts.IsChain Attempt.LeadsTo := by
  induction searches with
  | done nowhere => exact .nil
  | reached next opened => exact .singleton _
  | @lowered outcomes contact address rest error lower later next failed again goesOn ih =>
      apply ih.cons
      intro attempt made
      obtain ⟨place, version⟩ := goesOn.first made
      refine ⟨⟨error, rfl⟩, ?_⟩
      rw [Attempt.isRepeated_eq, again, if_pos Option.isSome_some]
      simp only [next, List.head?_cons, Option.some.injEq] at place
      rw [version]
      exact ⟨place.symm, (downgrade?_of_lower? again).2⟩
  | @givenUp outcomes contact address rest error later next failed never goesOn ih =>
      apply ih.cons
      intro attempt made
      refine ⟨⟨error, rfl⟩, ?_⟩
      rw [Attempt.isRepeated_eq, never, if_neg (by simp)]
      exact (goesOn.first made).2

end Searches

/-- How many contact points were given up before an attempt. -/
def passed (attempts : List Attempt) (number : Nat) : Nat :=
  (attempts.take number).countP fun attempt => !attempt.isRepeated

@[simp] theorem passed_zero (attempts : List Attempt) : passed attempts 0 = 0 := rfl

theorem passed_succ (attempt : Attempt) (attempts : List Attempt) (number : Nat) :
    passed (attempt :: attempts) (number + 1) =
      passed attempts number + (!attempt.isRepeated).toNat := by
  unfold passed
  rw [List.take_succ_cons, List.countP_cons]
  cases attempt.isRepeated with
  | true => rfl
  | false => rfl

namespace Searches

/-- Each attempt is at the contact point behind those that were given up. -/
theorem visits (searches : Searches outcomes contact course) {number : Nat} {attempt : Attempt}
    (made : course.attempts[number]? = some attempt) :
    contact.remaining[passed course.attempts number]? = some attempt.address ∧
      attempt.result = outcomes number := by
  induction searches generalizing number with
  | done nowhere => simp at made
  | reached next opened =>
      cases number with
      | zero =>
          cases made
          simp [next, opened]
      | succ number => simp at made
  | lowered next failed again goesOn ih =>
      cases number with
      | zero =>
          cases made
          simp [next, failed]
      | succ number =>
          rw [passed_succ, Attempt.isRepeated_eq, again]
          exact ih made
  | givenUp next failed never goesOn ih =>
      cases number with
      | zero =>
          cases made
          simp [next, failed]
      | succ number =>
          rw [passed_succ, Attempt.isRepeated_eq, never, next]
          exact ih made

theorem version_le (searches : Searches outcomes contact course) :
    ∀ attempt ∈ course.attempts, attempt.version.number ≤ contact.version.number := by
  induction searches with
  | done nowhere => simp
  | reached next opened => simp
  | lowered next failed again goesOn ih =>
      have falls := (ProtocolVersion.lowerings_of_downgrade? (downgrade?_of_lower? again).2).2
      refine List.forall_mem_cons.mpr ⟨UInt8.le_refl _, fun attempt later => ?_⟩
      exact UInt8.le_trans (ih attempt later) falls
  | givenUp next failed never goesOn ih => exact List.forall_mem_cons.mpr ⟨UInt8.le_refl _, ih⟩

theorem falls (searches : Searches outcomes contact course) :
    course.attempts.Pairwise fun earlier later =>
      later.version.number ≤ earlier.version.number := by
  induction searches with
  | done nowhere => exact .nil
  | reached next opened => exact List.pairwise_singleton _ _
  | lowered next failed again goesOn ih =>
      have lower := (ProtocolVersion.lowerings_of_downgrade? (downgrade?_of_lower? again).2).2
      refine List.pairwise_cons.mpr ⟨fun attempt later => ?_, ih⟩
      exact UInt8.le_trans (goesOn.version_le attempt later) lower
  | givenUp next failed never goesOn ih => exact List.pairwise_cons.mpr ⟨goesOn.version_le, ih⟩

end Searches

def FailsLast (attempts : List Attempt) (place : Nat) (error : DriverError) : Prop :=
  ∃ number attempt, attempts[number]? = some attempt ∧ passed attempts number = place ∧
    attempt.result = .error error ∧
    ∀ later, number < later → later < attempts.length → place < passed attempts later

theorem FailsLast.behind {attempts : List Attempt} {place : Nat}
    (fails : FailsLast attempts place error) (attempt : Attempt) :
    FailsLast (attempt :: attempts) (place + (!attempt.isRepeated).toNat) error := by
  obtain ⟨number, last, made, passes, failed, ended⟩ := fails
  refine ⟨number + 1, last, made, ?_, failed, fun later behind within => ?_⟩
  · rw [passed_succ, passes]
  · cases later with
    | zero => omega
    | succ later =>
        rw [List.length_cons] at within
        have gone := ended later (by omega) (by omega)
        rw [passed_succ]
        omega

theorem failsLast_of_givenUp {attempt : Attempt} (failed : attempt.result = .error error)
    (once : attempt.isRepeated = false) (later : List Attempt) :
    FailsLast (attempt :: later) 0 error := by
  refine ⟨0, attempt, rfl, rfl, failed, fun number behind within => ?_⟩
  cases number with
  | zero => omega
  | succ number =>
      rw [passed_succ, once]
      exact Nat.succ_pos _

/-- The search found a node with its last attempt, or each contact point failed. -/
def Ends (contact : FirstContact) (course : Course) : Prop :=
  (∃ channel last, course.attempts.getLast? = some last ∧ last.result = .ok channel ∧
    course.result = .ok (channel, last.version)) ∨
  ∃ errors, course.result = .error (.noNodeAvailable (contact.errors ++ errors)) ∧
    errors.map Prod.fst = contact.remaining ∧
    (∀ attempt ∈ course.attempts, ∃ error, attempt.result = .error error) ∧
    ∀ place address error, errors[place]? = some (address, error) →
      FailsLast course.attempts place error

namespace Searches

theorem attempts_ne_nil (searches : Searches outcomes contact course)
    (more : contact.remaining ≠ []) : course.attempts ≠ [] := by
  cases searches with
  | done nowhere => exact absurd nowhere more
  | reached | lowered | givenUp => exact List.cons_ne_nil _ _

theorem last_not_repeated (searches : Searches outcomes contact course) :
    ∀ last ∈ course.attempts.getLast?, last.isRepeated = false := by
  induction searches with
  | done nowhere => simp
  | reached next opened => simp [Attempt.isRepeated]
  | lowered next failed again goesOn ih =>
      have more := goesOn.attempts_ne_nil (by simp [next])
      intro last isLast
      rw [List.getLast?_cons_of_ne_nil more] at isLast
      exact ih last isLast
  | @givenUp outcomes contact address rest error later next failed never goesOn ih =>
      intro last isLast
      by_cases more : later.attempts = []
      · rw [more, List.getLast?_singleton] at isLast
        cases isLast
        rw [Attempt.isRepeated_eq, never]
        rfl
      · rw [List.getLast?_cons_of_ne_nil more] at isLast
        exact ih last isLast

theorem ends (searches : Searches outcomes contact course) : contact.Ends course := by
  induction searches with
  | done nowhere =>
      right
      exact ⟨[], by simp [failure], by simp [nowhere], by simp, by simp⟩
  | reached next opened => exact .inl ⟨_, _, rfl, rfl, rfl⟩
  | @lowered outcomes contact address rest error lower later next failed again goesOn ih =>
      refine ih.imp ?_ ?_
      · intro found
        obtain ⟨channel, last, isLast, opened, given⟩ := found
        exact ⟨channel, last, by simp [List.getLast?_cons, isLast], opened, given⟩
      · intro nothing
        obtain ⟨errors, given, listed, all, fails⟩ := nothing
        refine ⟨errors, given, listed, List.forall_mem_cons.mpr ⟨⟨error, rfl⟩, all⟩, ?_⟩
        intro place other last found
        have behind := (fails place other last found).behind
          { address, version := contact.version, result := .error error }
        rw [Attempt.isRepeated_eq, again] at behind
        exact behind
  | @givenUp outcomes contact address rest error later next failed never goesOn ih =>
      refine ih.imp ?_ ?_
      · intro found
        obtain ⟨channel, last, isLast, opened, given⟩ := found
        exact ⟨channel, last, by simp [List.getLast?_cons, isLast], opened, given⟩
      · intro nothing
        obtain ⟨errors, given, listed, all, fails⟩ := nothing
        refine ⟨(address, error) :: errors, ?_, ?_,
          List.forall_mem_cons.mpr ⟨⟨error, rfl⟩, all⟩, ?_⟩
        · rw [given, List.append_assoc]
          rfl
        · rw [List.map_cons, listed, next]
        · have once := Attempt.isRepeated_eq address contact error
          rw [never] at once
          intro place other last found
          cases place with
          | zero =>
              cases found
              exact failsLast_of_givenUp rfl once later.attempts
          | succ place =>
              have behind := (fails place other last found).behind
                { address, version := contact.version, result := .error error }
              rw [once] at behind
              exact behind

end Searches

theorem search_of_error (outcomes : Nat → Except DriverError ChannelId)
    (next : contact.remaining = address :: rest) (failed : outcomes 0 = .error error) :
    let later := search (fun number => outcomes (number + 1)) (contact.reject error)
    search outcomes contact =
      { attempts :=
          { address, version := contact.version, result := .error error } :: later.attempts
        result := later.result } := by
  intro later
  conv_lhs => rw [search]
  split
  · rename_i nowhere
    cases next.symm.trans nowhere
  · rename_i first others same
    cases next.symm.trans same
    simp only [failed]
    rfl

/-- Whatever its attempts come to, the search makes one more of them than there are contact
points at most. It visits the contact points in order and never raises the version; it lowers the
version only for another attempt at a contact point that rejected it. The first attempt that
succeeds is the last one and gives its channel with its own version. If none does, the error has
each contact point once and in order, with the error of the last attempt at it. -/
theorem search_visits_in_order (contactPoints : List SocketAddress) (version : ProtocolVersion)
    (outcomes : Nat → Except DriverError ChannelId) :
    let course := search outcomes (start contactPoints version)
    let attempts := course.attempts
    attempts.length ≤ contactPoints.length + 1 ∧
      (∀ number attempt, attempts[number]? = some attempt →
        contactPoints[passed attempts number]? = some attempt.address ∧
          attempt.result = outcomes number) ∧
      (∀ attempt ∈ attempts.head?, attempt.version = version) ∧
      (attempts.Pairwise fun earlier later => later.version.number ≤ earlier.version.number) ∧
      attempts.IsChain Attempt.LeadsTo ∧
      (∀ last ∈ attempts.getLast?, last.isRepeated = false) ∧
      ((∃ channel last, attempts.getLast? = some last ∧ last.result = .ok channel ∧
          course.result = .ok (channel, last.version)) ∨
        ∃ errors, course.result = .error (.noNodeAvailable errors) ∧
          errors.map Prod.fst = contactPoints ∧
          (∀ attempt ∈ attempts, ∃ error, attempt.result = .error error) ∧
          ∀ place address error, errors[place]? = some (address, error) →
            FailsLast attempts place error) := by
  intro course attempts
  have searches : Searches outcomes (start contactPoints version) course :=
    search_searches outcomes (start contactPoints version)
  have bounded : attempts.length ≤ contactPoints.length + version.lowerings := searches.length_le
  have few := version.lowerings_le_one
  refine ⟨by omega, fun number attempt => searches.visits, ?_, searches.falls, searches.chain,
    searches.last_not_repeated, searches.ends⟩
  exact fun attempt made => (searches.first made).2

end FirstContact

namespace Simulation.World

variable {world before after start : World} {contact : FirstContact}

theorem stage_rearrange (agenda : Agenda Job) (world : World) :
    { world with agenda }.stage = world.stage := rfl

theorem stage_push (job : Job) (world : World) : (world.push job).stage = world.stage :=
  stage_rearrange _ world

theorem stage_after (span : Span) (job : Job) (world : World) :
    (world.after span job).stage = world.stage :=
  stage_rearrange _ world

theorem stage_writeToServer (id : ChannelId) (bytes : List UInt8) (world : World) :
    (world.writeToServer id bytes).stage = world.stage := by
  unfold writeToServer
  split
  · rfl
  · rw [stage_push]
    unfold modifyLink
    split
    · rfl
    · rfl

theorem stage_openChannel (address : SocketAddress) (config : ChannelConfig) (asker : Asker)
    (world : World) : (world.openChannel address config asker).stage = world.stage := by
  unfold openChannel
  split
  · exact stage_push _ world
  · exact (stage_writeToServer _ _ _).trans (stage_after _ _ _)

/-- The session looks for its first node like this, or it has found that there is none. -/
def Seeks (contact : FirstContact) (world : World) : Prop :=
  match contact.remaining with
  | [] => world.stage = .fresh ∧ world.connected = some (.error contact.failure)
  | _ :: _ => world.stage = .contacting contact

theorem seeks_tryContact (contact : FirstContact) (world : World) :
    (world.tryContact contact).Seeks contact := by
  unfold Seeks tryContact
  cases contact.remaining with
  | nil => exact ⟨rfl, rfl⟩
  | cons address rest => exact stage_openChannel address _ _ _

/-- The worlds in which a session looks for its first node, with the errors of the attempts that
are over. Between them all may happen that is no matter of the search. -/
inductive Contacts (start : World) (contact : FirstContact) : List DriverError → World → Prop
  | begins : Contacts start contact [] (start.tryContact contact)
  | waits {errors : List DriverError} {before after : World}
      (contacts : Contacts start contact errors before) (sameStage : after.stage = before.stage)
      (sameEnd : after.connected = before.connected) : Contacts start contact errors after
  | fails {errors : List DriverError} {before : World} {present : FirstContact}
      (contacts : Contacts start contact errors before)
      (contacting : before.stage = .contacting present) (error : DriverError) :
      Contacts start contact (errors ++ [error]) (before.contactDecided (.error error))

/-- A session goes on with the attempts that are left in the search. -/
theorem Contacts.follow {errors : List DriverError} (contacts : Contacts start contact errors world)
    {outcomes : Nat → Except DriverError ChannelId}
    (decided : ∀ number error, errors[number]? = some error → outcomes number = .error error) :
    ∃ present, world.Seeks present ∧
      let later := present.search fun number => outcomes (number + errors.length)
      (contact.search outcomes).attempts.drop errors.length = later.attempts ∧
        (contact.search outcomes).result = later.result := by
  induction contacts with
  | begins => exact ⟨contact, seeks_tryContact contact start, rfl, rfl⟩
  | waits contacts sameStage sameEnd ih =>
      obtain ⟨present, seeks, left, given⟩ := ih decided
      refine ⟨present, ?_, left, given⟩
      unfold Seeks at seeks ⊢
      rw [sameStage, sameEnd]
      exact seeks
  | @fails errors before present contacts contacting error ih =>
      have known :
          ∀ number other, errors[number]? = some other → outcomes number = .error other := by
        intro number other found
        obtain ⟨within, _⟩ := List.getElem?_eq_some_iff.mp found
        apply decided number other
        rw [List.getElem?_append_left within]
        exact found
      have failed : outcomes (0 + errors.length) = .error error := by
        apply decided
        rw [Nat.zero_add, List.getElem?_append_right (Nat.le_refl _), Nat.sub_self]
        rfl
      obtain ⟨sought, seeks, left, given⟩ := ih known
      unfold Seeks at seeks
      split at seeks
      · cases contacting.symm.trans seeks.1
      · rename_i address rest next
        cases contacting.symm.trans seeks
        have goesOn := FirstContact.search_of_error
          (fun number => outcomes (number + errors.length)) next failed
        have shift : (fun number => outcomes (number + 1 + errors.length)) =
            fun number => outcomes (number + (errors ++ [error]).length) := by
          funext number
          rw [List.length_append, List.length_singleton]
          congr 1
          omega
        dsimp only at goesOn
        rw [shift] at goesOn
        rw [goesOn] at left given
        refine ⟨present.reject error, ?_, ?_, given⟩
        · unfold contactDecided
          rw [contacting]
          exact seeks_tryContact _ before
        · have behind : (contact.search outcomes).attempts.drop (errors ++ [error]).length =
              ((contact.search outcomes).attempts.drop errors.length).drop 1 := by
            rw [List.drop_drop, List.length_append, List.length_singleton]
          rw [behind, left]
          rfl

end Simulation.World

end CqlDriver
