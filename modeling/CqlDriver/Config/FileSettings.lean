/-
The settings as files and the environment give them: times in milliseconds, contact
points as text. A deadline of zero means that there is none.
-/

import CqlDriver.Config.Document
import CqlDriver.Config.Settings
import CqlDriver.Net.AddressParser

namespace CqlDriver.FileSettings

structure Network where
  connectTimeoutMs : Option Nat := none
  heartbeatIntervalMs : Option Nat := none
  heartbeatTimeoutMs : Option Nat := none
  tcpNodelay : Option Bool := none
  deriving DecidableEq, Repr, Inhabited

structure Pool where
  localSize : Option Nat := none
  remoteSize : Option Nat := none
  maxRequestsPerChannel : Option Nat := none
  maxOrphanedStreams : Option Nat := none
  drainTimeoutMs : Option Nat := none
  deriving DecidableEq, Repr, Inhabited

structure Reconnection where
  baseDelayMs : Option Nat := none
  maxDelayMs : Option Nat := none
  multiplier : Option Float := none
  jitter : Option Float := none
  deriving Repr, Inhabited

structure Speculation where
  maxExecutions : Option Nat := none
  delayMs : Option Nat := none
  deriving DecidableEq, Repr, Inhabited

structure Profile where
  requestTimeoutMs : Option Nat := none
  /-- Zero removes a deadline. -/
  deadlineMs : Option Nat := none
  idempotent : Option Bool := none
  speculativeExecution : Option Bool := none
  deriving DecidableEq, Repr, Inhabited

end CqlDriver.FileSettings

namespace CqlDriver

structure FileSettings where
  contactPoints : Option (List String) := none
  localDatacenter : Option String := none
  protocolVersion : Option Nat := none
  network : Option FileSettings.Network := none
  pool : Option FileSettings.Pool := none
  reconnection : Option FileSettings.Reconnection := none
  speculation : Option FileSettings.Speculation := none
  request : Option FileSettings.Profile := none
  profiles : Option (List (String × FileSettings.Profile)) := none
  credentials : Option Credentials := none
  replicationFactor : Option Nat := none
  retryServerErrors : Option Bool := none
  deriving Repr, Inhabited

namespace FileSettings

open Document (optional ofOption asWord? asFloat? asBool? asText? asTexts? asByte?)

/-! The names of the fields, in the order in which a list gives them. -/

def networkNames : List String :=
  ["connect-timeout-ms", "heartbeat-interval-ms", "heartbeat-timeout-ms", "tcp-nodelay"]

def poolNames : List String :=
  ["local-size", "remote-size", "max-requests-per-channel", "max-orphaned-streams",
   "drain-timeout-ms"]

def reconnectionNames : List String := ["base-delay-ms", "max-delay-ms", "multiplier", "jitter"]

def speculationNames : List String := ["max-executions", "delay-ms"]

def profileNames : List String :=
  ["request-timeout-ms", "deadline-ms", "idempotent", "speculative-execution"]

def credentialsNames : List String := ["username", "password"]

def names : List String :=
  ["contact-points", "local-datacenter", "protocol-version", "network", "pool",
   "reconnection", "speculative", "request", "profiles", "credentials",
   "replication-factor", "retry-server-errors"]

/-! Reading. -/

def readNetwork (lists : Bool) (document : Document) : Option Network := do
  let fields ← document.fields? lists networkNames
  return {
    connectTimeoutMs := ← optional asWord? fields 0
    heartbeatIntervalMs := ← optional asWord? fields 1
    heartbeatTimeoutMs := ← optional asWord? fields 2
    tcpNodelay := ← optional asBool? fields 3 }

def readPool (lists : Bool) (document : Document) : Option Pool := do
  let fields ← document.fields? lists poolNames
  return {
    localSize := ← optional asWord? fields 0
    remoteSize := ← optional asWord? fields 1
    maxRequestsPerChannel := ← optional asWord? fields 2
    maxOrphanedStreams := ← optional asWord? fields 3
    drainTimeoutMs := ← optional asWord? fields 4 }

def readReconnection (lists : Bool) (document : Document) : Option Reconnection := do
  let fields ← document.fields? lists reconnectionNames
  return {
    baseDelayMs := ← optional asWord? fields 0
    maxDelayMs := ← optional asWord? fields 1
    multiplier := ← optional asFloat? fields 2
    jitter := ← optional asFloat? fields 3 }

def readSpeculation (lists : Bool) (document : Document) : Option Speculation := do
  let fields ← document.fields? lists speculationNames
  return {
    maxExecutions := ← optional asWord? fields 0
    delayMs := ← optional asWord? fields 1 }

def readProfile (lists : Bool) (document : Document) : Option Profile := do
  let fields ← document.fields? lists profileNames
  return {
    requestTimeoutMs := ← optional asWord? fields 0
    deadlineMs := ← optional asWord? fields 1
    idempotent := ← optional asBool? fields 2
    speculativeExecution := ← optional asBool? fields 3 }

/-- A text that is empty where it is missing, but may not be null. -/
def requiredText (fields : List (Option Document)) (place : Nat) : Option String :=
  match fields[place]?.join with
  | none => some ""
  | some document => document.asText?

def readCredentials (lists : Bool) (document : Document) : Option Credentials := do
  let fields ← document.fields? lists credentialsNames
  return { username := ← requiredText fields 0, password := ← requiredText fields 1 }

def placeProfile (name : String) (profile : Profile) :
    List (String × Profile) → List (String × Profile)
  | [] => [(name, profile)]
  | entry :: rest =>
      if entry.1 = name then (name, profile) :: rest
      else if name < entry.1 then (name, profile) :: entry :: rest
      else entry :: placeProfile name profile rest

/-- The profiles in the order of their names. Of several profiles of one name the
last counts. -/
def readProfiles (lists : Bool) (document : Document) : Option (List (String × Profile)) := do
  let entries ← document.asEntries?
  let profiles ← entries.mapM fun (name, document) => do
    return (name, ← readProfile lists document)
  return profiles.foldl (fun known (name, profile) => placeProfile name profile known) []

def read (lists : Bool) (document : Document) : Option FileSettings := do
  let fields ← document.fields? lists names
  return {
    contactPoints := ← optional asTexts? fields 0
    localDatacenter := ← optional asText? fields 1
    protocolVersion := ← optional asByte? fields 2
    network := ← optional (readNetwork lists) fields 3
    pool := ← optional (readPool lists) fields 4
    reconnection := ← optional (readReconnection lists) fields 5
    speculation := ← optional (readSpeculation lists) fields 6
    request := ← optional (readProfile lists) fields 7
    profiles := ← optional (readProfiles lists) fields 8
    credentials := ← optional (readCredentials lists) fields 9
    replicationFactor := ← optional asWord? fields 10
    retryServerErrors := ← optional asBool? fields 11 }

/-! Writing. -/

def number : Option Nat → Document := ofOption Document.ofNat

def truth : Option Bool → Document := ofOption Document.bool

def double : Option Float → Document := ofOption Document.decimal

def writeNetwork (network : Network) : Document :=
  .table (networkNames.zip
    [number network.connectTimeoutMs, number network.heartbeatIntervalMs,
     number network.heartbeatTimeoutMs, truth network.tcpNodelay])

def writePool (pool : Pool) : Document :=
  .table (poolNames.zip
    [number pool.localSize, number pool.remoteSize, number pool.maxRequestsPerChannel,
     number pool.maxOrphanedStreams, number pool.drainTimeoutMs])

def writeReconnection (reconnection : Reconnection) : Document :=
  .table (reconnectionNames.zip
    [number reconnection.baseDelayMs, number reconnection.maxDelayMs,
     double reconnection.multiplier, double reconnection.jitter])

def writeSpeculation (speculation : Speculation) : Document :=
  .table (speculationNames.zip [number speculation.maxExecutions, number speculation.delayMs])

def writeProfile (profile : Profile) : Document :=
  .table (profileNames.zip
    [number profile.requestTimeoutMs, number profile.deadlineMs, truth profile.idempotent,
     truth profile.speculativeExecution])

def writeCredentials (credentials : Credentials) : Document :=
  .table (credentialsNames.zip [.text credentials.username, .text credentials.password])

def write (settings : FileSettings) : Document :=
  .table (names.zip
    [ofOption (fun points => .list (points.map .text)) settings.contactPoints,
     ofOption .text settings.localDatacenter,
     number settings.protocolVersion,
     ofOption writeNetwork settings.network,
     ofOption writePool settings.pool,
     ofOption writeReconnection settings.reconnection,
     ofOption writeSpeculation settings.speculation,
     ofOption writeProfile settings.request,
     ofOption (fun profiles => .table (profiles.map fun (name, profile) =>
       (name, writeProfile profile))) settings.profiles,
     ofOption writeCredentials settings.credentials,
     number settings.replicationFactor,
     truth settings.retryServerErrors])

def renderCredentials (credentials : Credentials) : String :=
  "FileCredentials \x7b username: " ++ Text.Quoted.quote credentials.username
    ++ ", password: \"<redacted>\" \x7d"

/-! Meaning. -/

def Profile.settings (profile : Profile) : ProfileSettings :=
  { requestTimeout := profile.requestTimeoutMs.map Span.ofMillis
    deadline := profile.deadlineMs.map fun millis =>
      if millis = 0 then none else some (Span.ofMillis millis)
    idempotent := profile.idempotent
    speculates := profile.speculativeExecution }

/-- A contact point: an address with or without a port, or else the name of a
host. -/
inductive ContactPoint where
  | known (address : SocketAddress)
  | host (name : String)
  deriving DecidableEq, Repr

def ContactPoint.parse (text : String) : ContactPoint :=
  let text := Text.trim text
  match SocketAddress.parse? text with
  | some address => .known address
  | none =>
      match IpAddress.parse? text with
      | some ip => .known { ip, port := defaultPort }
      | none =>
          if text.toList.contains ':' then .host text
          else .host (text ++ ":" ++ toString defaultPort.toNat)

def addContactPoint (network : NetworkSettings) (text : String) : NetworkSettings :=
  match ContactPoint.parse text with
  | .known address => { network with contactPoints := network.contactPoints ++ [address] }
  | .host name => { network with contactHosts := network.contactHosts ++ [name] }

def networkSettings (settings : FileSettings) (version : Option ProtocolVersion) :
    NetworkSettings :=
  let network := settings.network.getD {}
  { (settings.contactPoints.getD []).foldl addContactPoint {} with
    localDatacenter := settings.localDatacenter
    protocolVersion := version
    connectTimeout := network.connectTimeoutMs.map Span.ofMillis
    heartbeatInterval := network.heartbeatIntervalMs.map Span.ofMillis
    heartbeatTimeout := network.heartbeatTimeoutMs.map Span.ofMillis
    tcpNodelay := network.tcpNodelay }

def poolSettings (settings : FileSettings) : PoolSettings :=
  let pool := settings.pool.getD {}
  { localSize := pool.localSize
    remoteSize := pool.remoteSize
    maxRequestsPerChannel := pool.maxRequestsPerChannel
    maxOrphanedStreams := pool.maxOrphanedStreams
    drainTimeout := pool.drainTimeoutMs.map Span.ofMillis }

def reconnectionSettings (settings : FileSettings) : ReconnectionSettings :=
  let reconnection := settings.reconnection.getD {}
  { baseDelay := reconnection.baseDelayMs.map Span.ofMillis
    maxDelay := reconnection.maxDelayMs.map Span.ofMillis
    multiplier := reconnection.multiplier
    jitter := reconnection.jitter }

def speculationSettings (settings : FileSettings) : SpeculationSettings :=
  let speculation := settings.speculation.getD {}
  { maxExecutions := speculation.maxExecutions
    delay := speculation.delayMs.map Span.ofMillis }

def version (settings : FileSettings) : Except ConfigFault (Option ProtocolVersion) :=
  match settings.protocolVersion with
  | none => .ok none
  | some number =>
      match ProtocolVersion.ofNumber? number with
      | some version => .ok (some version)
      | none => .error (.unsupportedVersion number)

def settings (file : FileSettings) (version : Option ProtocolVersion) : DriverSettings :=
  { network := file.networkSettings version
    pool := file.poolSettings
    reconnection := file.reconnectionSettings
    speculation := file.speculationSettings
    request := (file.request.getD {}).settings
    profiles := (file.profiles.getD []).map fun (name, profile) => (name, profile.settings)
    credentials := file.credentials
    replicationFactor := file.replicationFactor
    retryServerErrors := file.retryServerErrors }

def build (file : FileSettings) : Except ConfigFault DriverConfig := do
  (file.settings (← file.version)).build

end FileSettings

end CqlDriver
