/-
Execution profiles: the settings that can vary from request to request. A named
profile takes what it does not set from the default profile.
-/

import CqlDriver.Config.Fault
import CqlDriver.Span
import CqlDriver.Table

namespace CqlDriver

structure Profile where
  name : String
  requestTimeout : Span
  deadline : Option Span
  /-- Whether requests that do not say so may be applied more than once. -/
  idempotent : Bool
  speculates : Bool
  deriving DecidableEq, Repr, Inhabited

/-- The settings of a profile, as far as they are its own. That there shall be no
deadline is a setting too. -/
structure ProfileSettings where
  requestTimeout : Option Span := none
  deadline : Option (Option Span) := none
  idempotent : Option Bool := none
  speculates : Option Bool := none
  deriving DecidableEq, Repr, Inhabited

namespace Profile

def defaultName : String := "default"

/-- What the default profile takes where it sets nothing. -/
def standard : Profile :=
  { name := defaultName
    requestTimeout := .ofSecs 2
    deadline := none
    idempotent := false
    speculates := true }

structure Set where
  fallback : Profile
  named : Table String Profile := []
  deriving Repr, Inhabited

def Set.find? (profiles : Set) (name : String) : Option Profile :=
  if name = defaultName then some profiles.fallback else profiles.named.find? name

end Profile

namespace ProfileSettings

def onTopOf (settings : ProfileSettings) (name : String) (parent : Profile) : Profile :=
  { name
    requestTimeout := settings.requestTimeout.getD parent.requestTimeout
    deadline := settings.deadline.getD parent.deadline
    idempotent := settings.idempotent.getD parent.idempotent
    speculates := settings.speculates.getD parent.speculates }

def isZeroDeadline : Option Span → Bool
  | some deadline => deadline.isZero
  | none => false

/-- A profile whose times are positive. -/
def build (settings : ProfileSettings) (name : String) (parent : Profile) :
    Except ConfigFault Profile :=
  let profile := settings.onTopOf name parent
  if profile.requestTimeout.isZero then .error (.zeroRequestTimeout name)
  else if isZeroDeadline profile.deadline then .error (.zeroDeadline name)
  else .ok profile

/-- Adds named profiles one after the other. Each needs a name of its own. -/
def buildNamed (fallback : Profile) (known : Table String Profile) :
    List (String × ProfileSettings) → Except ConfigFault (Table String Profile)
  | [] => .ok known
  | (name, settings) :: rest =>
      if name.isEmpty then .error .emptyProfileName
      else if name = Profile.defaultName ∨ (known.find? name).isSome then
        .error (.duplicateProfile name)
      else
        match settings.build name fallback with
        | .error fault => .error fault
        | .ok profile => buildNamed fallback (known.put name profile) rest

def buildAll (fallback : ProfileSettings) (named : List (String × ProfileSettings)) :
    Except ConfigFault Profile.Set := do
  let fallback ← fallback.build Profile.defaultName Profile.standard
  let named ← buildNamed fallback [] named
  return { fallback, named }

end ProfileSettings

end CqlDriver
