/-
Configurations with profiles. It is told which profiles calls mean, when a configuration
with them can be had, and that it holds these profiles and no others, be it made by calls,
by names or from a file.
-/

import CqlDriver.Proofs.Config.Inheritance
import CqlDriver.Proofs.Config.ProfileCalls

namespace CqlDriver

namespace DriverSettings

structure PartsValid (settings : DriverSettings) : Prop where
  replicas : settings.replicationFactor ≠ some 0
  network : ∃ network, settings.network.build = .ok network
  pool : ∃ pool, settings.pool.build = .ok pool
  reconnection : ∃ reconnection, settings.reconnection.build = .ok reconnection
  speculation : ∃ speculation, settings.speculation.build = .ok speculation

theorem buildAll_of_build {settings : DriverSettings} {config : DriverConfig}
    (built : settings.build = .ok config) :
    ProfileSettings.buildAll settings.request settings.profiles = .ok config.profiles := by
  unfold build at built
  simp only [ConfigFault.bind_eq_ok_iff] at built
  obtain ⟨profiles, success, rest⟩ := built
  split at rest
  · cases rest
  · simp only [ConfigFault.bind_eq_ok_iff] at rest
    obtain ⟨_, _, _, _, _, _, _, _, same⟩ := rest
    rw [success, ← Except.ok.inj same]

theorem PartsValid.exists_build {settings : DriverSettings} (valid : settings.PartsValid)
    {profiles : Profile.Set}
    (success : ProfileSettings.buildAll settings.request settings.profiles = .ok profiles) :
    ∃ config, settings.build = .ok config ∧ config.profiles = profiles := by
  obtain ⟨replicas, ⟨network, builtNetwork⟩, ⟨pool, builtPool⟩,
    ⟨reconnection, builtReconnection⟩, ⟨speculation, builtSpeculation⟩⟩ := valid
  have positive : settings.replicationFactor.getD 3 ≠ 0 := by
    cases given : settings.replicationFactor with
    | none => decide
    | some count => simpa [given] using replicas
  refine ⟨{
    network
    pool
    reconnection
    speculation
    profiles
    credentials := settings.credentials
    replicationFactor := settings.replicationFactor.getD 3
    retryServerErrors := settings.retryServerErrors.getD false }, ?_, rfl⟩
  unfold build
  rw [success, builtNetwork, builtPool, builtReconnection, builtSpeculation]
  change (if settings.replicationFactor.getD 3 = 0 then _ else _) = _
  rw [if_neg positive]
  rfl

theorem buildAll_of_called {settings : DriverSettings} {calls : List ConfigCall}
    {config : DriverConfig}
    (built : (settings.withoutProfiles.callAll calls).build = .ok config) :
    ProfileSettings.buildAll (ConfigCall.ofDefault calls) (ConfigCall.additions calls) =
      .ok config.profiles := by
  have success := buildAll_of_build built
  rwa [callAll_withoutProfiles] at success

theorem PartsValid.exists_called {settings : DriverSettings} (valid : settings.PartsValid)
    {calls : List ConfigCall} {profiles : Profile.Set}
    (success : ProfileSettings.buildAll (ConfigCall.ofDefault calls)
      (ConfigCall.additions calls) = .ok profiles) :
    ∃ config, (settings.withoutProfiles.callAll calls).build = .ok config ∧
      config.profiles = profiles := by
  rw [callAll_withoutProfiles]
  have called : PartsValid { settings with
      request := ConfigCall.ofDefault calls
      profiles := ConfigCall.additions calls } :=
    ⟨valid.replicas, valid.network, valid.pool, valid.reconnection, valid.speculation⟩
  exact called.exists_build success

end DriverSettings

namespace ConfigCall

structure IsFallback (calls : List ConfigCall) (profile : Profile) : Prop where
  name : profile.name = Profile.defaultName
  made : (ofDefault calls).Makes Profile.standard profile

/-- The profiles that calls mean: the default one on top of what is built in, and for each
addition one on top of the default profile with all that any call sets of it. -/
inductive Effective (calls : List ConfigCall) : Profile → Prop where
  | fallback {profile : Profile} (isFallback : IsFallback calls profile) :
      Effective calls profile
  | named {own : ProfileSettings} {fallback profile : Profile}
      (added : (profile.name, own) ∈ additions calls) (isFallback : IsFallback calls fallback)
      (made : own.Makes fallback profile) : Effective calls profile

theorem isFallback_iff {calls : List ConfigCall} {profile : Profile} :
    IsFallback calls profile ↔ profile = (ofDefault calls).asDefault := by
  constructor
  · rintro ⟨name, made⟩
    rw [made.eq_onTopOf, name]
    rfl
  · intro same
    rw [same]
    exact ⟨rfl, ProfileSettings.makes_onTopOf _ _ _⟩

theorem effective_iff {calls : List ConfigCall} {profile : Profile} :
    Effective calls profile ↔
      profile = (ofDefault calls).asDefault ∨
        ∃ entry ∈ additions calls,
          profile = entry.2.onTopOf entry.1 (ofDefault calls).asDefault := by
  constructor
  · intro effective
    cases effective with
    | fallback isFallback => exact Or.inl (isFallback_iff.mp isFallback)
    | named added isFallback made =>
        rw [isFallback_iff.mp isFallback] at made
        exact Or.inr ⟨_, added, made.eq_onTopOf⟩
  · rintro (same | ⟨⟨name, own⟩, member, same⟩)
    · exact .fallback (isFallback_iff.mpr same)
    · subst same
      exact .named member (isFallback_iff.mpr rfl) (ProfileSettings.makes_onTopOf _ _ _)

/-- The calls can be had: names that are not empty, not that of the default profile and
each given once, and positive times of every profile. -/
theorem exists_buildAll_iff (calls : List ConfigCall) :
    (∃ profiles, ProfileSettings.buildAll (ofDefault calls) (additions calls) = .ok profiles) ↔
      (∀ name ∈ (additions calls).map Prod.fst, name ≠ "" ∧ name ≠ Profile.defaultName) ∧
        ((additions calls).map Prod.fst).Nodup ∧
        ∀ profile, Effective calls profile → profile.IsTimely := by
  simp only [ProfileSettings.buildAll_eq_ok_iff]
  constructor
  · rintro ⟨_, timely, admitted, distinct, _⟩
    refine ⟨?_, distinct, ?_⟩
    · intro name member
      obtain ⟨entry, added, same⟩ := List.mem_map.mp member
      subst same
      exact ⟨(admitted entry added).named, (admitted entry added).notDefault⟩
    · intro profile effective
      rcases effective_iff.mp effective with same | ⟨entry, added, same⟩
      · rw [same]
        exact timely
      · rw [same]
        exact (admitted entry added).timely
  · rintro ⟨names, distinct, timely⟩
    refine ⟨_, timely _ (effective_iff.mpr (.inl rfl)), ?_, distinct, rfl⟩
    intro entry added
    obtain ⟨named, notDefault⟩ := names entry.1 (List.mem_map.mpr ⟨entry, added, rfl⟩)
    exact ⟨named, notDefault, List.not_mem_nil,
      timely _ (effective_iff.mpr (.inr ⟨entry, added, rfl⟩))⟩

theorem find?_of_buildAll {calls : List ConfigCall} {profiles : Profile.Set}
    (built : ProfileSettings.buildAll (ofDefault calls) (additions calls) = .ok profiles)
    (name : String) (profile : Profile) :
    profiles.find? name = some profile ↔ Effective calls profile ∧ profile.name = name := by
  obtain ⟨_, admitted, distinct, same⟩ := ProfileSettings.buildAll_eq_ok_iff.mp built
  subst same
  rw [effective_iff]
  unfold Profile.Set.find?
  by_cases isDefault : name = Profile.defaultName
  · rw [if_pos isDefault, Option.some.injEq]
    constructor
    · intro same
      rw [← same]
      exact ⟨Or.inl rfl, isDefault.symm⟩
    · rintro ⟨same | ⟨entry, added, same⟩, sameName⟩
      · exact same.symm
      · subst same
        exact absurd (sameName.trans isDefault) (admitted entry added).notDefault
  · rw [if_neg isDefault, ProfileSettings.find?_resolve distinct]
    constructor
    · rintro ⟨entry, added, sameName, same⟩
      subst same
      exact ⟨Or.inr ⟨entry, added, rfl⟩, sameName⟩
    · rintro ⟨same | ⟨entry, added, same⟩, sameName⟩
      · subst same
        exact absurd sameName.symm isDefault
      · subst same
        exact ⟨entry, added, sameName, rfl⟩

end ConfigCall

namespace FileSettings

theorem build_eq {file : FileSettings} {version : Option ProtocolVersion}
    (accepted : file.version = .ok version) : file.build = (file.settings version).build := by
  unfold build
  rw [accepted]
  rfl

theorem buildAll_of_build {file : FileSettings} {config : DriverConfig}
    (built : file.build = .ok config) :
    ProfileSettings.buildAll (ConfigCall.ofDefault file.calls)
      (ConfigCall.additions file.calls) = .ok config.profiles := by
  obtain ⟨version, _, builtSettings⟩ := ConfigFault.bind_eq_ok_iff.mp built
  rw [ofDefault_calls, additions_calls]
  exact DriverSettings.buildAll_of_build builtSettings

theorem deadline_onTopOf {part : Profile} (removed : part.deadlineMs = some 0) (name : String)
    (parent : CqlDriver.Profile) : (part.settings.onTopOf name parent).deadline = none := by
  simp [ProfileSettings.onTopOf, Profile.settings, removed]

theorem deadline_of_fallback {file : FileSettings} {config : DriverConfig} {part : Profile}
    (built : file.build = .ok config) (given : file.request = some part)
    (removed : part.deadlineMs = some 0) : config.profiles.fallback.deadline = none := by
  obtain ⟨_, _, _, same⟩ := ProfileSettings.buildAll_eq_ok_iff.mp (buildAll_of_build built)
  rw [same, ofDefault_calls, given]
  exact deadline_onTopOf removed _ _

theorem deadline_of_named {file : FileSettings} {config : DriverConfig} {name : String}
    {part : Profile} (built : file.build = .ok config)
    (given : (name, part) ∈ file.profiles.getD []) (removed : part.deadlineMs = some 0) :
    ∃ profile, config.profiles.find? name = some profile ∧ profile.deadline = none := by
  refine ⟨_, (ConfigCall.find?_of_buildAll (buildAll_of_build built) name
    (part.settings.onTopOf name (ConfigCall.ofDefault file.calls).asDefault)).mpr ⟨?_, rfl⟩,
    deadline_onTopOf removed _ _⟩
  refine ConfigCall.effective_iff.mpr (.inr ⟨(name, part.settings), ?_, rfl⟩)
  rw [additions_calls]
  exact List.mem_map.mpr ⟨(name, part), given, rfl⟩

end FileSettings

namespace DriverSettings

/-- A configuration with profiles, made by any calls in any order. It can be had just if
the names that are added are not empty, not that of the default profile and pairwise
distinct, and all profiles have positive times. Then it holds the default profile and
those that were added, each with the settings of its own and the rest of the default
profile as it is in the end, whether that was configured first or last. Settings by name
are such calls. A file stands for the calls for what it sets and gives the profiles that
these give; where its deadline is zero there is none. -/
theorem profiles_as_called (settings : DriverSettings) (valid : settings.PartsValid)
    (calls : List ConfigCall) :
    let base := settings.withoutProfiles
    let names := (ConfigCall.additions calls).map Prod.fst
    ((∃ config, (base.callAll calls).build = .ok config) ↔
      (∀ name ∈ names, name ≠ "" ∧ name ≠ Profile.defaultName) ∧ names.Nodup ∧
        ∀ profile, ConfigCall.Effective calls profile → profile.IsTimely) ∧
    (∀ config, (base.callAll calls).build = .ok config →
      config.profiles.named.keys = names ∧
      ∀ name profile, config.profiles.find? name = some profile ↔
        ConfigCall.Effective calls profile ∧ profile.name = name) ∧
    (base.callAll (ConfigCall.onDefaultOnly calls ++ ConfigCall.additionsOnly calls)).build =
      (base.callAll calls).build ∧
    (base.callAll (ConfigCall.additionsOnly calls ++ ConfigCall.onDefaultOnly calls)).build =
      (base.callAll calls).build ∧
    (∀ document, ofAssignments document =
      (ofAssignments document).withoutProfiles.callAll (Assignment.configCalls document)) ∧
    (∀ (file : FileSettings) version, file.version = .ok version →
      file.build = ((file.settings version).withoutProfiles.callAll file.calls).build) ∧
    ∀ (file : FileSettings) config, file.build = .ok config →
      (∃ called, (base.callAll file.calls).build = .ok called ∧
        called.profiles = config.profiles) ∧
      (∀ part, file.request = some part → part.deadlineMs = some 0 →
        config.profiles.fallback.deadline = none) ∧
      ∀ name part, (name, part) ∈ file.profiles.getD [] → part.deadlineMs = some 0 →
        ∃ profile, config.profiles.find? name = some profile ∧ profile.deadline = none := by
  intro base names
  refine ⟨?_, ?_, ?_, ?_, ofAssignments_eq, ?_, ?_⟩
  · rw [← ConfigCall.exists_buildAll_iff]
    constructor
    · rintro ⟨config, built⟩
      exact ⟨config.profiles, buildAll_of_called built⟩
    · rintro ⟨profiles, success⟩
      obtain ⟨config, built, _⟩ := valid.exists_called success
      exact ⟨config, built⟩
  · intro config built
    have success := buildAll_of_called built
    obtain ⟨_, _, _, same⟩ := ProfileSettings.buildAll_eq_ok_iff.mp success
    refine ⟨?_, ConfigCall.find?_of_buildAll success⟩
    rw [same]
    exact ProfileSettings.keys_resolve _ _
  · rw [callAll_onDefaultOnly_append]
  · rw [callAll_additionsOnly_append]
  · intro file version accepted
    rw [file.build_eq accepted, ← file.settings_eq]
  · intro file config built
    refine ⟨valid.exists_called (FileSettings.buildAll_of_build built), ?_, ?_⟩
    · intro part given removed
      exact FileSettings.deadline_of_fallback built given removed
    · intro name part given removed
      exact FileSettings.deadline_of_named built given removed

/-- A profile without a deadline is added before the default profile gets one, and another
profile after that. The default deadline is changed once more at the end. -/
def nightlyCalls : List ConfigCall :=
  [.profile "nightly" (·.callAll [.noDeadline, .requestTimeout (.ofSecs 30)]),
   .request (·.callAll [.deadline (.ofSecs 5), .idempotent true]),
   .profile "login" (·.callAll [.speculates false]),
   .request (·.callAll [.deadline (.ofSecs 4)])]

def nightlyFile : FileSettings :=
  { request := some { deadlineMs := some 4000, idempotent := some true }
    profiles := some
      [("login", { speculativeExecution := some false }),
       ("nightly", { requestTimeoutMs := some 30000, deadlineMs := some 0 })] }

theorem partsValid_standard : PartsValid {} where
  replicas := by decide
  network := ⟨_, rfl⟩
  pool := ⟨_, rfl⟩
  reconnection := ⟨_, rfl⟩
  speculation := ⟨_, rfl⟩

theorem nightly_profiles :
    PartsValid {} ∧
    (∃ config, ((withoutProfiles {}).callAll nightlyCalls).build = .ok config ∧
      config.profiles.find? "nightly" =
        some ⟨"nightly", .ofSecs 30, none, true, true⟩ ∧
      config.profiles.find? "login" =
        some ⟨"login", .ofSecs 2, some (.ofSecs 4), true, false⟩) ∧
    ∃ config profile, nightlyFile.build = .ok config ∧
      config.profiles.find? "nightly" = some profile ∧ profile.deadline = none := by
  obtain ⟨success, holds, _, _, _, _, fromFile⟩ :=
    profiles_as_called {} partsValid_standard nightlyCalls
  have accepted : ∃ config, ((withoutProfiles {}).callAll nightlyCalls).build = .ok config := by
    refine success.mpr ⟨by decide, by decide, ?_⟩
    have fallback : (ConfigCall.ofDefault nightlyCalls).asDefault.IsTimely := by decide
    have named : ∀ entry ∈ ConfigCall.additions nightlyCalls,
        (entry.2.onTopOf entry.1 (ConfigCall.ofDefault nightlyCalls).asDefault).IsTimely := by
      decide
    intro profile effective
    rcases ConfigCall.effective_iff.mp effective with same | ⟨entry, added, same⟩
    · rw [same]
      exact fallback
    · rw [same]
      exact named entry added
  refine ⟨partsValid_standard, ?_, ?_⟩
  · obtain ⟨config, built⟩ := accepted
    obtain ⟨_, find⟩ := holds config built
    refine ⟨config, built, ?_, ?_⟩
    · exact (find _ _).mpr ⟨ConfigCall.effective_iff.mpr (.inr ⟨_, .head _, rfl⟩), rfl⟩
    · exact (find _ _).mpr ⟨ConfigCall.effective_iff.mpr (.inr ⟨_, .tail _ (.head _), rfl⟩), rfl⟩
  · obtain ⟨config, built⟩ : ∃ config, nightlyFile.build = .ok config := ⟨_, rfl⟩
    obtain ⟨_, _, removed⟩ := fromFile nightlyFile config built
    obtain ⟨profile, found, without⟩ := removed "nightly" _ (.tail _ (.head _)) rfl
    exact ⟨config, profile, built, found, without⟩

end DriverSettings

end CqlDriver
