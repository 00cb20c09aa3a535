/-
What can be wrong with a configuration, and the wording of each case.
-/

namespace CqlDriver

inductive FileFormat where
  | yaml
  | toml
  deriving DecidableEq, Repr, Inhabited

def FileFormat.name : FileFormat → String
  | .yaml => "YAML"
  | .toml => "TOML"

inductive ConfigFault where
  | zeroConnectTimeout
  | zeroHeartbeatInterval
  | zeroHeartbeatTimeout
  | blankDatacenter
  | noLocalChannels
  | requestsPerChannel (most : Nat)
  | noOrphans
  | baseAboveLimit
  | multiplierOutOfRange
  | jitterOutOfRange
  | zeroRequestTimeout (profile : String)
  | zeroDeadline (profile : String)
  | noExecutions
  | emptyProfileName
  | duplicateProfile (name : String)
  | noReplicas
  | unsupportedVersion (version : Nat)
  | invalidVariable (name value : String)
  | missingFile (format : FileFormat)
  | malformedFile (format : FileFormat)
  | unknownExtension (ext : String)
  | noExtension
  deriving DecidableEq, Repr

def ConfigFault.detail : ConfigFault → String
  | .zeroConnectTimeout => "connect_timeout must be greater than zero"
  | .zeroHeartbeatInterval => "heartbeat_interval must be greater than zero"
  | .zeroHeartbeatTimeout => "heartbeat_timeout must be greater than zero"
  | .blankDatacenter => "local_datacenter must not be blank"
  | .noLocalChannels => "local_size must be at least 1"
  | .requestsPerChannel most => s!"max_requests_per_channel must be between 1 and {most}"
  | .noOrphans => "max_orphaned_streams must be at least 1"
  | .baseAboveLimit => "base_delay must not exceed max_delay"
  | .multiplierOutOfRange => "multiplier must be a finite value of at least 1.0"
  | .jitterOutOfRange => "jitter must be between 0.0 and 1.0"
  | .zeroRequestTimeout profile => s!"profile {profile}: request_timeout must be greater than zero"
  | .zeroDeadline profile => s!"profile {profile}: deadline must be greater than zero"
  | .noExecutions => "max_executions must be at least 1"
  | .emptyProfileName => "profile name must not be empty"
  | .duplicateProfile name => s!"duplicate profile {name}"
  | .noReplicas => "replication_factor must be at least 1"
  | .unsupportedVersion version => s!"unsupported protocol version {version}"
  | .invalidVariable name value => s!"invalid value for {name}: {value}"
  | .missingFile format =>
      s!"failed to read {format.name} config file: No such file or directory (os error 2)"
  | .malformedFile format => s!"failed to parse {format.name} config"
  | .unknownExtension ext =>
      s!"unsupported config file extension: .{ext} (expected .yaml, .yml, or .toml)"
  | .noExtension => "config file has no extension; expected .yaml, .yml, or .toml"

def ConfigFault.message (fault : ConfigFault) : String := "configuration error: " ++ fault.detail

end CqlDriver
