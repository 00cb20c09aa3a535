/-
The configuration of the client: what is set, what is taken where nothing is set,
and which combinations are refused.
-/

import CqlDriver.Config.Profile
import CqlDriver.Net.Address
import CqlDriver.Text.Blank
import CqlDriver.Text.Quoted

namespace CqlDriver

inductive ProtocolVersion where
  | v3
  | v4
  deriving DecidableEq, Repr, Inhabited

namespace ProtocolVersion

def number : ProtocolVersion → UInt8
  | .v3 => 3
  | .v4 => 4

def ofNumber? (number : Nat) : Option ProtocolVersion :=
  if number = 3 then some .v3 else if number = 4 then some .v4 else none

def downgrade? : ProtocolVersion → Option ProtocolVersion
  | .v4 => some .v3
  | .v3 => none

def render (version : ProtocolVersion) : String := s!"v{version.number.toNat}"

def name (version : ProtocolVersion) : String := s!"V{version.number.toNat}"

end ProtocolVersion

def defaultPort : UInt16 := 9042

structure NetworkConfig where
  contactPoints : List SocketAddress := []
  /-- Contact points whose addresses are looked up by name. -/
  contactHosts : List String := []
  localDatacenter : Option String := none
  protocolVersion : ProtocolVersion := .v4
  connectTimeout : Span := .ofSecs 5
  heartbeatInterval : Span := .ofSecs 30
  heartbeatTimeout : Span := .ofSecs 5
  tcpNodelay : Bool := true
  deriving DecidableEq, Repr, Inhabited

namespace NetworkConfig

def hasExplicitContactPoints (config : NetworkConfig) : Bool :=
  !config.contactPoints.isEmpty || !config.contactHosts.isEmpty

/-- The contact point that is assumed when none is given. -/
def implicitContactPoint : SocketAddress := { ip := .ofParts 127 0 0 1, port := defaultPort }

end NetworkConfig

structure PoolConfig where
  localSize : Nat := 2
  remoteSize : Nat := 1
  maxRequestsPerChannel : Nat := 1024
  maxOrphanedStreams : Nat := 256
  drainTimeout : Span := .ofSecs 5
  deriving DecidableEq, Repr, Inhabited

structure ReconnectionConfig where
  baseDelay : Span := .ofSecs 1
  maxDelay : Span := .ofSecs 60
  multiplier : Float := 2.0
  jitter : Float := 0.15
  deriving Repr, Inhabited

structure SpeculationConfig where
  /-- The number of lines of a request, with the first one. -/
  maxExecutions : Nat := 1
  delay : Span := .ofMillis 100
  deriving DecidableEq, Repr, Inhabited

def SpeculationConfig.isEnabled (config : SpeculationConfig) : Bool := 1 < config.maxExecutions

structure Credentials where
  username : String
  password : String
  deriving DecidableEq, Repr, Inhabited

def Credentials.render (credentials : Credentials) : String :=
  "Credentials \x7b username: " ++ Text.Quoted.quote credentials.username
    ++ ", password: \"***\" \x7d"

structure DriverConfig where
  network : NetworkConfig
  pool : PoolConfig
  reconnection : ReconnectionConfig
  speculation : SpeculationConfig
  profiles : Profile.Set
  credentials : Option Credentials
  replicationFactor : Nat
  retryServerErrors : Bool
  deriving Repr, Inhabited

structure NetworkSettings where
  contactPoints : List SocketAddress := []
  contactHosts : List String := []
  localDatacenter : Option String := none
  protocolVersion : Option ProtocolVersion := none
  connectTimeout : Option Span := none
  heartbeatInterval : Option Span := none
  heartbeatTimeout : Option Span := none
  tcpNodelay : Option Bool := none
  deriving DecidableEq, Repr, Inhabited

def isBlankText : Option String → Bool
  | some text => (Text.trim text).isEmpty
  | none => false

namespace NetworkSettings

def complete (settings : NetworkSettings) : NetworkConfig :=
  let standard : NetworkConfig := {}
  { contactPoints := settings.contactPoints
    contactHosts := settings.contactHosts
    localDatacenter := settings.localDatacenter
    protocolVersion := settings.protocolVersion.getD standard.protocolVersion
    connectTimeout := settings.connectTimeout.getD standard.connectTimeout
    heartbeatInterval := settings.heartbeatInterval.getD standard.heartbeatInterval
    heartbeatTimeout := settings.heartbeatTimeout.getD standard.heartbeatTimeout
    tcpNodelay := settings.tcpNodelay.getD standard.tcpNodelay }

def build (settings : NetworkSettings) : Except ConfigFault NetworkConfig :=
  let config := settings.complete
  if config.connectTimeout.isZero then .error .zeroConnectTimeout
  else if config.heartbeatInterval.isZero then .error .zeroHeartbeatInterval
  else if config.heartbeatTimeout.isZero then .error .zeroHeartbeatTimeout
  else if isBlankText config.localDatacenter then .error .blankDatacenter
  else .ok config

end NetworkSettings

structure PoolSettings where
  localSize : Option Nat := none
  remoteSize : Option Nat := none
  maxRequestsPerChannel : Option Nat := none
  maxOrphanedStreams : Option Nat := none
  drainTimeout : Option Span := none
  deriving DecidableEq, Repr, Inhabited

namespace PoolSettings

/-- The number of stream ids that a connection has. -/
def maxStreamIds : Nat := 32768

def complete (settings : PoolSettings) : PoolConfig :=
  let standard : PoolConfig := {}
  { localSize := settings.localSize.getD standard.localSize
    remoteSize := settings.remoteSize.getD standard.remoteSize
    maxRequestsPerChannel :=
      settings.maxRequestsPerChannel.getD standard.maxRequestsPerChannel
    maxOrphanedStreams := settings.maxOrphanedStreams.getD standard.maxOrphanedStreams
    drainTimeout := settings.drainTimeout.getD standard.drainTimeout }

def build (settings : PoolSettings) : Except ConfigFault PoolConfig :=
  let config := settings.complete
  if config.localSize = 0 then .error .noLocalChannels
  else if config.maxRequestsPerChannel = 0 ∨ maxStreamIds < config.maxRequestsPerChannel then
    .error (.requestsPerChannel maxStreamIds)
  else if config.maxOrphanedStreams = 0 then .error .noOrphans
  else .ok config

end PoolSettings

structure ReconnectionSettings where
  baseDelay : Option Span := none
  maxDelay : Option Span := none
  multiplier : Option Float := none
  jitter : Option Float := none
  deriving Repr, Inhabited

namespace ReconnectionSettings

def complete (settings : ReconnectionSettings) : ReconnectionConfig :=
  let standard : ReconnectionConfig := {}
  { baseDelay := settings.baseDelay.getD standard.baseDelay
    maxDelay := settings.maxDelay.getD standard.maxDelay
    multiplier := settings.multiplier.getD standard.multiplier
    jitter := settings.jitter.getD standard.jitter }

def build (settings : ReconnectionSettings) : Except ConfigFault ReconnectionConfig :=
  let config := settings.complete
  if config.maxDelay.nanos < config.baseDelay.nanos then .error .baseAboveLimit
  else if !config.multiplier.isFinite || config.multiplier < 1.0 then
    .error .multiplierOutOfRange
  else if !config.jitter.isFinite || !(0.0 ≤ config.jitter && config.jitter ≤ 1.0) then
    .error .jitterOutOfRange
  else .ok config

end ReconnectionSettings

structure SpeculationSettings where
  maxExecutions : Option Nat := none
  delay : Option Span := none
  deriving DecidableEq, Repr, Inhabited

namespace SpeculationSettings

def complete (settings : SpeculationSettings) : SpeculationConfig :=
  let standard : SpeculationConfig := {}
  { maxExecutions := settings.maxExecutions.getD standard.maxExecutions
    delay := settings.delay.getD standard.delay }

def build (settings : SpeculationSettings) : Except ConfigFault SpeculationConfig :=
  let config := settings.complete
  if config.maxExecutions = 0 then .error .noExecutions else .ok config

end SpeculationSettings

structure DriverSettings where
  network : NetworkSettings := {}
  pool : PoolSettings := {}
  reconnection : ReconnectionSettings := {}
  speculation : SpeculationSettings := {}
  request : ProfileSettings := {}
  profiles : List (String × ProfileSettings) := []
  credentials : Option Credentials := none
  replicationFactor : Option Nat := none
  retryServerErrors : Option Bool := none
  deriving Repr, Inhabited

namespace DriverSettings

/-- The configuration, if nothing in it is refused. The profiles are looked at
first, then the number of replicas, then the other parts in order. -/
def build (settings : DriverSettings) : Except ConfigFault DriverConfig := do
  let profiles ← ProfileSettings.buildAll settings.request settings.profiles
  let replicationFactor := settings.replicationFactor.getD 3
  if replicationFactor = 0 then throw .noReplicas
  return {
    network := ← settings.network.build
    pool := ← settings.pool.build
    reconnection := ← settings.reconnection.build
    speculation := ← settings.speculation.build
    profiles
    credentials := settings.credentials
    replicationFactor
    retryServerErrors := settings.retryServerErrors.getD false }

def standard : DriverConfig :=
  { network := {}
    pool := {}
    reconnection := {}
    speculation := {}
    profiles := { fallback := Profile.standard }
    credentials := none
    replicationFactor := 3
    retryServerErrors := false }

end DriverSettings

end CqlDriver
