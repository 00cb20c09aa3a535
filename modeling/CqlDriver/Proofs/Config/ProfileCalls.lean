/-
Settings of profiles as calls that are made one after the other, on the default profile
or to add a named one. Settings that are made by name are such calls, in whatever order
and mixed with whatever other settings, and so are the settings of a file.
-/

import CqlDriver.Config.Assignment
import CqlDriver.Config.FileSettings

namespace CqlDriver

inductive ProfileCall where
  | requestTimeout (span : Span)
  | deadline (span : Span)
  | noDeadline
  | idempotent (value : Bool)
  | speculates (value : Bool)
  deriving DecidableEq, Repr

namespace ProfileSettings

def call (settings : ProfileSettings) : ProfileCall → ProfileSettings
  | .requestTimeout span => { settings with requestTimeout := some span }
  | .deadline span => { settings with deadline := some (some span) }
  | .noDeadline => { settings with deadline := some none }
  | .idempotent value => { settings with idempotent := some value }
  | .speculates value => { settings with speculates := some value }

def callAll (settings : ProfileSettings) (calls : List ProfileCall) : ProfileSettings :=
  calls.foldl call settings

end ProfileSettings

/-- A call about profiles: a change of the settings that the default profile has so far,
or a new profile with what is made of no settings at all. -/
inductive ConfigCall where
  | request (configure : ProfileSettings → ProfileSettings)
  | profile (name : String) (configure : ProfileSettings → ProfileSettings)

namespace ConfigCall

def isAddition : ConfigCall → Bool
  | .request _ => false
  | .profile _ _ => true

def onDefault (own : ProfileSettings) : ConfigCall → ProfileSettings
  | .request configure => configure own
  | .profile _ _ => own

def ofDefault (calls : List ConfigCall) : ProfileSettings := calls.foldl onDefault {}

def addition? : ConfigCall → Option (String × ProfileSettings)
  | .request _ => none
  | .profile name configure => some (name, configure {})

def additions (calls : List ConfigCall) : List (String × ProfileSettings) :=
  calls.filterMap addition?

theorem ofDefault_append (first second : List ConfigCall) :
    ofDefault (first ++ second) = second.foldl onDefault (ofDefault first) :=
  List.foldl_append

theorem additions_append (first second : List ConfigCall) :
    additions (first ++ second) = additions first ++ additions second :=
  List.filterMap_append

/-! The calls on the default profile and those that add profiles, as two groups. -/

def onDefaultOnly (calls : List ConfigCall) : List ConfigCall :=
  calls.filter fun call => !call.isAddition

def additionsOnly (calls : List ConfigCall) : List ConfigCall := calls.filter isAddition

theorem foldl_onDefaultOnly (calls : List ConfigCall) (own : ProfileSettings) :
    (onDefaultOnly calls).foldl onDefault own = calls.foldl onDefault own := by
  unfold onDefaultOnly
  induction calls generalizing own with
  | nil => rfl
  | cons call rest ih =>
      cases call with
      | request configure => exact ih (configure own)
      | profile name configure => exact ih own

theorem foldl_onDefault_of_additions {calls : List ConfigCall}
    (added : ∀ call ∈ calls, call.isAddition = true) (own : ProfileSettings) :
    calls.foldl onDefault own = own := by
  induction calls with
  | nil => rfl
  | cons call rest ih =>
      obtain ⟨isAdded, restAdded⟩ := List.forall_mem_cons.mp added
      cases call with
      | request configure => cases isAdded
      | profile name configure => exact ih restAdded

theorem foldl_additionsOnly (calls : List ConfigCall) (own : ProfileSettings) :
    (additionsOnly calls).foldl onDefault own = own := by
  apply foldl_onDefault_of_additions
  intro call member
  exact (List.mem_filter.mp member).2

theorem additions_onDefaultOnly (calls : List ConfigCall) :
    additions (onDefaultOnly calls) = [] := by
  unfold onDefaultOnly
  induction calls with
  | nil => rfl
  | cons call rest ih =>
      cases call with
      | request configure => exact ih
      | profile name configure => exact ih

theorem additions_additionsOnly (calls : List ConfigCall) :
    additions (additionsOnly calls) = additions calls := by
  unfold additionsOnly
  induction calls with
  | nil => rfl
  | cons call rest ih =>
      cases call with
      | request configure => exact ih
      | profile name configure => exact congrArg ((name, configure {}) :: ·) ih

end ConfigCall

namespace DriverSettings

def withoutProfiles (settings : DriverSettings) : DriverSettings :=
  { settings with request := {}, profiles := [] }

def call (settings : DriverSettings) : ConfigCall → DriverSettings
  | .request configure => { settings with request := configure settings.request }
  | .profile name configure =>
      { settings with profiles := settings.profiles ++ [(name, configure {})] }

def callAll (settings : DriverSettings) (calls : List ConfigCall) : DriverSettings :=
  calls.foldl call settings

theorem callAll_eq (settings : DriverSettings) (calls : List ConfigCall) :
    settings.callAll calls =
      { settings with
        request := calls.foldl ConfigCall.onDefault settings.request
        profiles := settings.profiles ++ ConfigCall.additions calls } := by
  induction calls generalizing settings with
  | nil => simp [callAll, ConfigCall.additions]
  | cons first rest ih =>
      change (settings.call first).callAll rest = _
      rw [ih]
      cases first with
      | request configure => rfl
      | profile name configure =>
          simp [call, ConfigCall.additions, ConfigCall.addition?, ConfigCall.onDefault]

theorem callAll_withoutProfiles (settings : DriverSettings) (calls : List ConfigCall) :
    settings.withoutProfiles.callAll calls =
      { settings with
        request := ConfigCall.ofDefault calls
        profiles := ConfigCall.additions calls } := by
  rw [callAll_eq]
  rfl

/-- The default profile may be configured before all named ones are added. -/
theorem callAll_onDefaultOnly_append (settings : DriverSettings) (calls : List ConfigCall) :
    settings.withoutProfiles.callAll
        (ConfigCall.onDefaultOnly calls ++ ConfigCall.additionsOnly calls) =
      settings.withoutProfiles.callAll calls := by
  rw [callAll_withoutProfiles, callAll_withoutProfiles, ConfigCall.ofDefault_append,
    ConfigCall.foldl_additionsOnly, ConfigCall.ofDefault, ConfigCall.foldl_onDefaultOnly,
    ConfigCall.additions_append, ConfigCall.additions_onDefaultOnly,
    ConfigCall.additions_additionsOnly]
  rfl

/-- It may be configured after them as well. -/
theorem callAll_additionsOnly_append (settings : DriverSettings) (calls : List ConfigCall) :
    settings.withoutProfiles.callAll
        (ConfigCall.additionsOnly calls ++ ConfigCall.onDefaultOnly calls) =
      settings.withoutProfiles.callAll calls := by
  rw [callAll_withoutProfiles, callAll_withoutProfiles, ConfigCall.ofDefault_append,
    ConfigCall.foldl_onDefaultOnly, ConfigCall.ofDefault, ConfigCall.foldl_additionsOnly,
    ConfigCall.additions_append, ConfigCall.additions_onDefaultOnly,
    ConfigCall.additions_additionsOnly, List.append_nil]
  rfl

end DriverSettings

/-! Settings by name. -/

namespace Assignment

def profileCall? (assignment : Assignment) : Option ProfileCall :=
  match assignment.name with
  | "request_timeout" => some (.requestTimeout assignment.value.spanOrZero)
  | "deadline" => some (.deadline assignment.value.spanOrZero)
  | "no_deadline" => some .noDeadline
  | "idempotent" => some (.idempotent assignment.value.boolOrFalse)
  | "speculative_execution" => some (.speculates assignment.value.boolOrFalse)
  | _ => none

def profileCalls (document : Document) : List ProfileCall :=
  (document.items.map ofDocument).filterMap profileCall?

def configCall? (assignment : Assignment) : Option ConfigCall :=
  match assignment.name with
  | "request" => some (.request fun own => own.callAll (profileCalls assignment.value))
  | "profile" =>
      some (.profile assignment.value.textOrEmpty fun own =>
        own.callAll (profileCalls assignment.secondValue))
  | _ => none

def configCalls (document : Document) : List ConfigCall :=
  (document.items.map ofDocument).filterMap configCall?

end Assignment

theorem ProfileSettings.assign_eq (settings : ProfileSettings) (assignment : Assignment) :
    settings.assign assignment = settings.callAll assignment.profileCall?.toList := by
  obtain ⟨name, values⟩ := assignment
  unfold assign Assignment.profileCall?
  dsimp only
  split <;> simp_all [callAll, call]

theorem ProfileSettings.assignAll_eq (settings : ProfileSettings) (document : Document) :
    settings.assignAll document = settings.callAll (Assignment.profileCalls document) := by
  unfold assignAll Assignment.profileCalls
  generalize document.items.map Assignment.ofDocument = assignments
  induction assignments generalizing settings with
  | nil => rfl
  | cons first rest ih =>
      rw [List.foldl_cons, ih, assign_eq]
      cases call : first.profileCall? with
      | none => rw [List.filterMap_cons_none call]; rfl
      | some found => rw [List.filterMap_cons_some call]; rfl

namespace DriverSettings

theorem assign_eq (settings : DriverSettings) (assignment : Assignment) :
    (settings.assign assignment).request =
        assignment.configCall?.toList.foldl ConfigCall.onDefault settings.request ∧
      (settings.assign assignment).profiles =
        settings.profiles ++ ConfigCall.additions assignment.configCall?.toList := by
  obtain ⟨name, values⟩ := assignment
  unfold assign Assignment.configCall?
  dsimp only
  split <;>
    simp_all [ConfigCall.onDefault, ConfigCall.additions, ConfigCall.addition?,
      ProfileSettings.assignAll_eq]

theorem foldl_assign_eq (settings : DriverSettings) (assignments : List Assignment) :
    let made := assignments.foldl assign settings
    let calls := assignments.filterMap Assignment.configCall?
    made.request = calls.foldl ConfigCall.onDefault settings.request ∧
      made.profiles = settings.profiles ++ ConfigCall.additions calls := by
  induction assignments generalizing settings with
  | nil => exact ⟨rfl, (List.append_nil _).symm⟩
  | cons first rest ih =>
      obtain ⟨request, profiles⟩ := settings.assign_eq first
      obtain ⟨requestAfter, profilesAfter⟩ := ih (settings.assign first)
      dsimp only
      rw [List.foldl_cons, requestAfter, profilesAfter, request, profiles]
      cases call : first.configCall? with
      | none => rw [List.filterMap_cons_none call]; simp [ConfigCall.additions]
      | some found =>
          rw [List.filterMap_cons_some call, List.append_assoc, ← ConfigCall.additions_append]
          exact ⟨rfl, rfl⟩

/-- Settings by name, of profiles and of anything else, are calls about profiles on top of
the settings of the other parts. -/
theorem ofAssignments_eq (document : Document) :
    ofAssignments document =
      (ofAssignments document).withoutProfiles.callAll (Assignment.configCalls document) := by
  obtain ⟨request, profiles⟩ := foldl_assign_eq {} (document.items.map Assignment.ofDocument)
  rw [callAll_withoutProfiles]
  unfold Assignment.configCalls ConfigCall.ofDefault
  rw [← request]
  exact congrArg (fun named => { ofAssignments document with profiles := named }) profiles

end DriverSettings

/-! Files. -/

namespace FileSettings

def Profile.calls (profile : Profile) : List ProfileCall :=
  (profile.requestTimeoutMs.map fun millis => .requestTimeout (.ofMillis millis)).toList ++
  (profile.deadlineMs.map fun millis =>
    if millis = 0 then .noDeadline else .deadline (.ofMillis millis)).toList ++
  (profile.idempotent.map .idempotent).toList ++
  (profile.speculativeExecution.map .speculates).toList

/-- The calls that a file stands for: for the default profile if it has a section, then
for the named ones. -/
def calls (file : FileSettings) : List ConfigCall :=
  (file.request.map fun profile => .request fun own => own.callAll profile.calls).toList ++
  (file.profiles.getD []).map fun (name, profile) =>
    .profile name fun own => own.callAll profile.calls

theorem Profile.settings_eq (profile : Profile) :
    profile.settings = ({} : ProfileSettings).callAll profile.calls := by
  obtain ⟨timeout, deadline, idempotent, speculative⟩ := profile
  cases timeout <;> cases deadline <;> cases idempotent <;> cases speculative <;>
    simp only [settings, calls, Option.map_some, Option.map_none, Option.toList_some,
      Option.toList_none, List.nil_append, List.append_nil, List.cons_append,
      ProfileSettings.callAll, List.foldl_cons, List.foldl_nil, ProfileSettings.call] <;>
    split <;> rfl

theorem ofDefault_calls (file : FileSettings) :
    ConfigCall.ofDefault file.calls = (file.request.getD {}).settings := by
  unfold calls
  rw [ConfigCall.ofDefault_append, ConfigCall.foldl_onDefault_of_additions]
  · cases file.request with
    | none => rfl
    | some profile => exact profile.settings_eq.symm
  · intro call member
    obtain ⟨entry, _, same⟩ := List.mem_map.mp member
    rw [← same]
    rfl

theorem additions_calls (file : FileSettings) :
    ConfigCall.additions file.calls =
      (file.profiles.getD []).map fun (name, profile) => (name, profile.settings) := by
  have onDefault : ConfigCall.additions (file.request.map fun profile =>
      ConfigCall.request fun own => own.callAll profile.calls).toList = [] := by
    cases file.request with
    | none => rfl
    | some profile => rfl
  have named : ConfigCall.addition? ∘ (fun (name, profile) =>
      ConfigCall.profile name fun own => own.callAll profile.calls) =
        some ∘ fun (entry : String × Profile) => (entry.1, entry.2.settings) := by
    funext ⟨name, profile⟩
    exact congrArg (fun own => some (name, own)) profile.settings_eq.symm
  unfold calls
  rw [ConfigCall.additions_append, onDefault, List.nil_append, ConfigCall.additions,
    List.filterMap_map, named, List.filterMap_eq_map]

theorem settings_eq (file : FileSettings) (version : Option ProtocolVersion) :
    file.settings version = (file.settings version).withoutProfiles.callAll file.calls := by
  rw [DriverSettings.callAll_withoutProfiles, file.ofDefault_calls, file.additions_calls]
  rfl

end FileSettings

end CqlDriver
