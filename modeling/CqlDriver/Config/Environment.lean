/-
Settings from the environment.
-/

import CqlDriver.Config.FileSettings

namespace CqlDriver.Environment

abbrev Variables := String → Option String

/-- The number in a variable, if it is set. White space around it does not
matter. -/
def number? (environment : Variables) (most : Nat) (name : String) :
    Except ConfigFault (Option Nat) :=
  match environment name with
  | none => .ok none
  | some value =>
      match Text.unsigned? most (Text.trim value) with
      | some number => .ok (some number)
      | none => .error (.invalidVariable name value)

def word? (environment : Variables) : String → Except ConfigFault (Option Nat) :=
  number? environment Document.greatestWord

def splitCommas : List Char → List (List Char)
  | [] => [[]]
  | ',' :: rest => [] :: splitCommas rest
  | first :: rest =>
      match splitCommas rest with
      | [] => [[first]]
      | part :: parts => (first :: part) :: parts

/-- The contact points between commas, without those that are blank. -/
def contactPoints (value : String) : List String :=
  ((splitCommas value.toList).map fun part => Text.trim (String.ofList part)).filter
    fun part => !part.isEmpty

/-- Whether a text is the word true, in letters of either case. -/
def isTrue (value : String) : Bool := value.toLower == "true"

/-- The credentials, if both of their variables are set. -/
def credentials? (environment : Variables) : Option Credentials := do
  let username ← environment "CQL_USERNAME"
  let password ← environment "CQL_PASSWORD"
  return { username, password }

def settings (environment : Variables) : Except ConfigFault FileSettings := do
  let protocolVersion ← number? environment 255 "CQL_PROTOCOL_VERSION"
  let connectTimeoutMs ← word? environment "CQL_CONNECT_TIMEOUT_MS"
  let heartbeatIntervalMs ← word? environment "CQL_HEARTBEAT_INTERVAL_MS"
  let localSize ← word? environment "CQL_POOL_LOCAL_SIZE"
  let remoteSize ← word? environment "CQL_POOL_REMOTE_SIZE"
  let requestTimeoutMs ← word? environment "CQL_REQUEST_TIMEOUT_MS"
  return {
    contactPoints := (environment "CQL_CONTACT_POINTS").map contactPoints
    localDatacenter := environment "CQL_LOCAL_DATACENTER"
    protocolVersion
    network := some { connectTimeoutMs, heartbeatIntervalMs }
    pool := some { localSize, remoteSize }
    request := some
      { requestTimeoutMs, idempotent := (environment "CQL_IDEMPOTENT").map isTrue }
    credentials := credentials? environment }

def config (environment : Variables) : Except ConfigFault DriverConfig := do
  (← settings environment).build

end CqlDriver.Environment
