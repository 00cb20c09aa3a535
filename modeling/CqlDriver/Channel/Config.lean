/-
What a channel is opened with.
-/

import CqlDriver.Channel.Authenticator
import CqlDriver.Config.Settings

namespace CqlDriver

structure ChannelConfig where
  version : ProtocolVersion
  connectTimeout : Span
  /-- The silence after which the server is asked for a sign of life. -/
  heartbeatInterval : Span
  /-- The time that the server has for the sign. -/
  heartbeatTimeout : Span
  /-- The number of stream ids. -/
  maxRequests : Nat
  /-- The number of given up requests that a channel bears. -/
  maxOrphans : Nat
  authenticator : Option Authenticator := none
  wantsEvents : Bool := false

namespace ChannelConfig

def ofDriver (config : DriverConfig) (version : ProtocolVersion) : ChannelConfig :=
  { version
    connectTimeout := config.network.connectTimeout
    heartbeatInterval := config.network.heartbeatInterval
    heartbeatTimeout := config.network.heartbeatTimeout
    maxRequests := config.pool.maxRequestsPerChannel
    maxOrphans := config.pool.maxOrphanedStreams }

def render (config : ChannelConfig) : String :=
  "ChannelConfig \x7b " ++ s!"version: {config.version.name}, "
    ++ s!"connect_timeout: {config.connectTimeout.render}, "
    ++ s!"heartbeat_interval: {config.heartbeatInterval.render}, "
    ++ s!"max_requests: {config.maxRequests}, register_events: {config.wantsEvents}, .. \x7d"

end ChannelConfig

end CqlDriver
