/-
The whole configuration as a document.
-/

import CqlDriver.Config.Document
import CqlDriver.Config.Settings

namespace CqlDriver

def Span.describe (span : Span) : Document := .text (toString span.nanos)

def Profile.describe (profile : Profile) : Document :=
  .table
    [("name", .text profile.name),
      ("request_timeout", profile.requestTimeout.describe),
      ("deadline", .ofOption Span.describe profile.deadline),
      ("idempotent", .bool profile.idempotent),
      ("speculative", .bool profile.speculates)]

def NetworkConfig.describe (config : NetworkConfig) : Document :=
  .table
    [("contact_points", .list (config.contactPoints.map fun address => .text address.render)),
      ("contact_hosts", .list (config.contactHosts.map .text)),
      ("explicit", .bool config.hasExplicitContactPoints),
      ("local_datacenter", .ofOption .text config.localDatacenter),
      ("protocol_version", .text config.protocolVersion.render),
      ("connect_timeout", config.connectTimeout.describe),
      ("heartbeat_interval", config.heartbeatInterval.describe),
      ("heartbeat_timeout", config.heartbeatTimeout.describe),
      ("tcp_nodelay", .bool config.tcpNodelay)]

def PoolConfig.describe (config : PoolConfig) : Document :=
  .table
    [("local_size", .ofNat config.localSize),
      ("remote_size", .ofNat config.remoteSize),
      ("max_requests_per_channel", .ofNat config.maxRequestsPerChannel),
      ("max_orphaned_streams", .ofNat config.maxOrphanedStreams),
      ("drain_timeout", config.drainTimeout.describe)]

def ReconnectionConfig.describe (config : ReconnectionConfig) : Document :=
  .table
    [("base_delay", config.baseDelay.describe),
      ("max_delay", config.maxDelay.describe),
      ("multiplier", .decimal config.multiplier),
      ("jitter", .decimal config.jitter)]

def SpeculationConfig.describe (config : SpeculationConfig) : Document :=
  .table
    [("max_executions", .ofNat config.maxExecutions),
      ("delay", config.delay.describe),
      ("enabled", .bool config.isEnabled)]

def Credentials.describe (credentials : Credentials) : Document :=
  .list
    [.text credentials.username, .text credentials.password, .text credentials.render]

/-- The profiles in the order of their names. -/
def Profile.Set.sorted (profiles : Profile.Set) : List Profile :=
  (profiles.fallback :: profiles.named.values).mergeSort fun left right =>
    decide (left.name ≤ right.name)

def DriverConfig.describe (config : DriverConfig) : Document :=
  .table
    [("network", config.network.describe),
      ("pool", config.pool.describe),
      ("reconnection", config.reconnection.describe),
      ("speculative", config.speculation.describe),
      ("default_profile", config.profiles.fallback.describe),
      ("profiles", .list (config.profiles.sorted.map Profile.describe)),
      ("credentials", .ofOption Credentials.describe config.credentials),
      ("replication_factor", .ofNat config.replicationFactor),
      ("retry_server_errors", .bool config.retryServerErrors)]

end CqlDriver
