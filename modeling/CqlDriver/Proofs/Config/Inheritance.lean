/-
Profiles that take from one another. The default profile stands on what is built in, and
named ones on the default profile. They are built if their times are positive and each
named one has a name of its own, and only then.
-/

import CqlDriver.Config.Profile

namespace CqlDriver

inductive OwnOr {Value : Type} : Option Value → Value → Value → Prop where
  | own (value inherited : Value) : OwnOr (some value) inherited value
  | inherited (value : Value) : OwnOr none value value

theorem ownOr_iff {Value : Type} {own : Option Value} {inherited value : Value} :
    OwnOr own inherited value ↔ value = own.getD inherited := by
  constructor
  · rintro (_ | _)
    · rfl
    · rfl
  · intro same
    rw [same]
    cases own with
    | none => exact .inherited inherited
    | some set => exact .own set inherited

/-- A check and what comes after it give a result if both do. -/
theorem ConfigFault.bind_eq_ok_iff {First Second : Type} {checked : Except ConfigFault First}
    {next : First → Except ConfigFault Second} {result : Second} :
    checked >>= next = .ok result ↔ ∃ first, checked = .ok first ∧ next first = .ok result := by
  cases checked with
  | error fault => simp [bind, Except.bind]
  | ok first => simp [bind, Except.bind]

structure Profile.IsTimely (profile : Profile) : Prop where
  requestTimeout : 0 < profile.requestTimeout.nanos
  deadline : ∀ deadline, profile.deadline = some deadline → 0 < deadline.nanos

theorem Span.not_isZero_iff (span : Span) : ¬span.isZero = true ↔ 0 < span.nanos := by
  simp [isZero, Nat.pos_iff_ne_zero]

theorem ProfileSettings.not_isZeroDeadline_iff (limit : Option Span) :
    ¬isZeroDeadline limit = true ↔ ∀ deadline, limit = some deadline → 0 < deadline.nanos := by
  cases limit with
  | none => simp [isZeroDeadline]
  | some deadline =>
      change ¬deadline.isZero = true ↔ _
      rw [Span.not_isZero_iff]
      simp

theorem Profile.isTimely_iff (profile : Profile) :
    profile.IsTimely ↔
      ¬profile.requestTimeout.isZero = true ∧
        ¬ProfileSettings.isZeroDeadline profile.deadline = true := by
  rw [Span.not_isZero_iff, ProfileSettings.not_isZeroDeadline_iff]
  exact ⟨fun timely => ⟨timely.requestTimeout, timely.deadline⟩,
    fun both => ⟨both.1, both.2⟩⟩

instance (profile : Profile) : Decidable profile.IsTimely :=
  decidable_of_iff _ profile.isTimely_iff.symm

namespace ProfileSettings

/-- A profile with these settings of its own and the rest of another profile. That there
shall be no deadline is a setting of its own, `some none`. -/
structure Makes (own : ProfileSettings) (parent profile : Profile) : Prop where
  requestTimeout : OwnOr own.requestTimeout parent.requestTimeout profile.requestTimeout
  deadline : OwnOr own.deadline parent.deadline profile.deadline
  idempotent : OwnOr own.idempotent parent.idempotent profile.idempotent
  speculates : OwnOr own.speculates parent.speculates profile.speculates

theorem makes_onTopOf (own : ProfileSettings) (name : String) (parent : Profile) :
    own.Makes parent (own.onTopOf name parent) :=
  ⟨ownOr_iff.mpr rfl, ownOr_iff.mpr rfl, ownOr_iff.mpr rfl, ownOr_iff.mpr rfl⟩

theorem Makes.eq_onTopOf {own : ProfileSettings} {parent profile : Profile}
    (made : own.Makes parent profile) : profile = own.onTopOf profile.name parent := by
  obtain ⟨requestTimeout, deadline, idempotent, speculates⟩ := made
  rw [ownOr_iff] at requestTimeout deadline idempotent speculates
  obtain ⟨name, timeout, limit, repeatable, eager⟩ := profile
  simp only at requestTimeout deadline idempotent speculates
  rw [requestTimeout, deadline, idempotent, speculates]
  rfl

/-- A profile is built as it stands on its parent, if its times are positive. -/
theorem build_eq_ok_iff {own : ProfileSettings} {name : String} {parent profile : Profile} :
    own.build name parent = .ok profile ↔
      (own.onTopOf name parent).IsTimely ∧ profile = own.onTopOf name parent := by
  rw [Profile.isTimely_iff]
  unfold build
  dsimp only
  split
  · rename_i noTime
    simp [noTime]
  · rename_i inTime
    split
    · rename_i tooLate
      simp [tooLate]
    · rename_i later
      simp [inTime, later, eq_comm]

def resolve (fallback : Profile) (named : List (String × ProfileSettings)) :
    Table String Profile :=
  named.map fun entry => (entry.1, entry.2.onTopOf entry.1 fallback)

theorem keys_resolve (fallback : Profile) (named : List (String × ProfileSettings)) :
    (resolve fallback named).keys = named.map Prod.fst := by
  simp [resolve, Table.keys]

theorem find?_resolve {fallback profile : Profile} {named : List (String × ProfileSettings)}
    {name : String} (distinct : (named.map Prod.fst).Nodup) :
    (resolve fallback named).find? name = some profile ↔
      ∃ entry ∈ named, entry.1 = name ∧ profile = entry.2.onTopOf entry.1 fallback := by
  rw [← keys_resolve fallback] at distinct
  constructor
  · intro found
    obtain ⟨entry, member, same⟩ := List.mem_map.mp (Table.mem_of_find? found)
    obtain ⟨sameName, sameProfile⟩ := Prod.mk.inj same
    exact ⟨entry, member, sameName, sameProfile.symm⟩
  · rintro ⟨entry, member, sameName, sameProfile⟩
    subst sameName sameProfile
    exact Table.find?_of_mem distinct (List.mem_map.mpr ⟨entry, member, rfl⟩)

/-- A named profile may be added to others that have names already. -/
structure Admitted (fallback : Profile) (taken : List String) (entry : String × ProfileSettings) :
    Prop where
  named : entry.1 ≠ ""
  notDefault : entry.1 ≠ Profile.defaultName
  fresh : entry.1 ∉ taken
  timely : (entry.2.onTopOf entry.1 fallback).IsTimely

theorem admitted_concat_iff {fallback : Profile} {taken : List String} {name : String}
    {entry : String × ProfileSettings} :
    Admitted fallback (taken ++ [name]) entry ↔
      Admitted fallback taken entry ∧ entry.1 ≠ name := by
  constructor
  · rintro ⟨named, notDefault, fresh, timely⟩
    rw [List.mem_append, List.mem_singleton] at fresh
    obtain ⟨old, other⟩ := not_or.mp fresh
    exact ⟨⟨named, notDefault, old, timely⟩, other⟩
  · rintro ⟨⟨named, notDefault, fresh, timely⟩, other⟩
    refine ⟨named, notDefault, ?_, timely⟩
    rw [List.mem_append, List.mem_singleton]
    exact not_or.mpr ⟨fresh, other⟩

theorem buildNamed_of_admitted {fallback : Profile} {known : Table String Profile}
    {entry : String × ProfileSettings} (admitted : Admitted fallback known.keys entry)
    (rest : List (String × ProfileSettings)) :
    buildNamed fallback known (entry :: rest) =
      buildNamed fallback (known ++ resolve fallback [entry]) rest := by
  obtain ⟨name, own⟩ := entry
  obtain ⟨named, notDefault, fresh, timely⟩ := admitted
  have unknown : known.find? name = none := (Table.find?_eq_none_iff name known).mpr fresh
  have built : own.build name fallback = .ok (own.onTopOf name fallback) :=
    build_eq_ok_iff.mpr ⟨timely, rfl⟩
  have named : ¬name.isEmpty = true := by simpa using named
  rw [buildNamed, if_neg named, unknown, if_neg (by simpa using notDefault), built]
  dsimp only
  rw [Table.put_of_not_mem fresh]
  rfl

theorem admitted_of_buildNamed {fallback : Profile} {known built : Table String Profile}
    {entry : String × ProfileSettings} {rest : List (String × ProfileSettings)}
    (success : buildNamed fallback known (entry :: rest) = .ok built) :
    Admitted fallback known.keys entry := by
  obtain ⟨name, own⟩ := entry
  unfold buildNamed at success
  split at success
  · cases success
  · rename_i named
    split at success
    · cases success
    · rename_i free
      obtain ⟨notDefault, unknown⟩ := not_or.mp free
      cases single : own.build name fallback with
      | error fault =>
          rw [single] at success
          cases success
      | ok profile =>
          refine ⟨by simpa using named, notDefault, ?_, (build_eq_ok_iff.mp single).1⟩
          apply (Table.find?_eq_none_iff name known).mp
          simpa using unknown

/-- Named profiles are built one after the other, each as it stands on the default one, if
each has a name of its own and positive times. -/
theorem buildNamed_eq_ok_iff {fallback : Profile} {known built : Table String Profile}
    {named : List (String × ProfileSettings)} :
    buildNamed fallback known named = .ok built ↔
      (∀ entry ∈ named, Admitted fallback known.keys entry) ∧ (named.map Prod.fst).Nodup ∧
        built = known ++ resolve fallback named := by
  induction named generalizing known with
  | nil => simp [buildNamed, resolve, eq_comm]
  | cons entry rest ih =>
      have keys : Table.keys (known ++ resolve fallback [entry]) = known.keys ++ [entry.1] := by
        simp [resolve, Table.keys]
      have whole : known ++ resolve fallback (entry :: rest) =
          known ++ resolve fallback [entry] ++ resolve fallback rest := by
        simp [resolve]
      rw [List.forall_mem_cons, List.map_cons, List.nodup_cons, whole]
      constructor
      · intro success
        have admitted := admitted_of_buildNamed success
        rw [buildNamed_of_admitted admitted, ih, keys] at success
        obtain ⟨others, distinct, same⟩ := success
        refine ⟨⟨admitted, ?_⟩, ⟨?_, distinct⟩, same⟩
        · intro other member
          exact (admitted_concat_iff.mp (others other member)).1
        · intro repeated
          obtain ⟨other, member, sameName⟩ := List.mem_map.mp repeated
          exact (admitted_concat_iff.mp (others other member)).2 sameName
      · rintro ⟨⟨admitted, others⟩, ⟨unrepeated, distinct⟩, same⟩
        rw [buildNamed_of_admitted admitted, ih, keys]
        refine ⟨?_, distinct, same⟩
        intro other member
        refine admitted_concat_iff.mpr ⟨others other member, ?_⟩
        intro sameName
        exact unrepeated (List.mem_map.mpr ⟨other, member, sameName⟩)

def asDefault (own : ProfileSettings) : Profile :=
  own.onTopOf Profile.defaultName Profile.standard

theorem buildAll_eq_ok_iff {own : ProfileSettings} {named : List (String × ProfileSettings)}
    {profiles : Profile.Set} :
    buildAll own named = .ok profiles ↔
      own.asDefault.IsTimely ∧ (∀ entry ∈ named, Admitted own.asDefault [] entry) ∧
        (named.map Prod.fst).Nodup ∧
        profiles = ⟨own.asDefault, resolve own.asDefault named⟩ := by
  unfold buildAll
  simp only [ConfigFault.bind_eq_ok_iff, build_eq_ok_iff, buildNamed_eq_ok_iff]
  constructor
  · rintro ⟨_, ⟨timely, rfl⟩, _, ⟨admitted, distinct, rfl⟩, same⟩
    exact ⟨timely, admitted, distinct, (Except.ok.inj same).symm⟩
  · rintro ⟨timely, admitted, distinct, rfl⟩
    exact ⟨own.asDefault, ⟨timely, rfl⟩, _, ⟨admitted, distinct, rfl⟩, rfl⟩

end ProfileSettings

end CqlDriver
