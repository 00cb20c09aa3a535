/-
Settings made one after the other, each by its name: `local_size` with a number,
`deadline` with a span in nanoseconds. What is set last stands, except that contact
points, contact hosts and profiles that are added stay beside the earlier ones. A
name that is not known sets nothing.
-/

import CqlDriver.Config.Document
import CqlDriver.Config.Settings
import CqlDriver.Net.AddressParser

namespace CqlDriver

namespace Document

/-! Values that are taken as they are meant: what is missing or of another kind
counts as zero, as no text or as false. -/

def textOrEmpty (document : Document) : String := document.asText?.getD ""

def naturalOrZero : Document → Nat
  | .text digits => (Text.natural? 10 digits.toList).getD 0
  | document => document.asWord?.getD 0

/-- A span as its number of nanoseconds. -/
def spanOrZero (document : Document) : Span := ⟨document.naturalOrZero⟩

def boolOrFalse (document : Document) : Bool := document.asBool?.getD false

def floatOrNaN : Document → Float
  | .text "inf" => 1.0 / 0.0
  | .text "-inf" => -1.0 / 0.0
  | document => document.asFloat?.getD (0.0 / 0.0)

def addressOrDefault (document : Document) : SocketAddress :=
  (SocketAddress.parse? document.textOrEmpty).getD default

def items : Document → List Document
  | .list items => items
  | _ => []

end Document

structure Assignment where
  name : String
  values : List Document
  deriving Inhabited

namespace Assignment

/-- A setting as a list that begins with its name. -/
def ofDocument : Document → Assignment
  | .list (name :: values) => ⟨name.textOrEmpty, values⟩
  | _ => ⟨"", []⟩

def value (assignment : Assignment) : Document := assignment.values.headD .null

def secondValue (assignment : Assignment) : Document := (assignment.values.drop 1).headD .null

end Assignment

namespace ProfileSettings

def assign (settings : ProfileSettings) (assignment : Assignment) : ProfileSettings :=
  let value := assignment.value
  match assignment.name with
  | "request_timeout" => { settings with requestTimeout := some value.spanOrZero }
  | "deadline" => { settings with deadline := some (some value.spanOrZero) }
  | "no_deadline" => { settings with deadline := some none }
  | "idempotent" => { settings with idempotent := some value.boolOrFalse }
  | "speculative_execution" => { settings with speculates := some value.boolOrFalse }
  | _ => settings

def assignAll (settings : ProfileSettings) (document : Document) : ProfileSettings :=
  (document.items.map Assignment.ofDocument).foldl assign settings

end ProfileSettings

namespace NetworkSettings

def assign (settings : NetworkSettings) (assignment : Assignment) : NetworkSettings :=
  let value := assignment.value
  match assignment.name with
  | "add_contact_point" =>
      { settings with contactPoints := settings.contactPoints ++ [value.addressOrDefault] }
  | "contact_points" =>
      { settings with contactPoints := value.items.map Document.addressOrDefault }
  | "add_contact_host" =>
      { settings with contactHosts := settings.contactHosts ++ [value.textOrEmpty] }
  | "local_datacenter" => { settings with localDatacenter := some value.textOrEmpty }
  | "protocol_version" =>
      { settings with protocolVersion := ProtocolVersion.ofNumber? value.naturalOrZero }
  | "connect_timeout" => { settings with connectTimeout := some value.spanOrZero }
  | "heartbeat_interval" => { settings with heartbeatInterval := some value.spanOrZero }
  | "heartbeat_timeout" => { settings with heartbeatTimeout := some value.spanOrZero }
  | "tcp_nodelay" => { settings with tcpNodelay := some value.boolOrFalse }
  | _ => settings

end NetworkSettings

namespace PoolSettings

def assign (settings : PoolSettings) (assignment : Assignment) : PoolSettings :=
  let value := assignment.value
  match assignment.name with
  | "local_size" => { settings with localSize := some value.naturalOrZero }
  | "remote_size" => { settings with remoteSize := some value.naturalOrZero }
  | "max_requests_per_channel" =>
      { settings with maxRequestsPerChannel := some value.naturalOrZero }
  | "max_orphaned_streams" => { settings with maxOrphanedStreams := some value.naturalOrZero }
  | "drain_timeout" => { settings with drainTimeout := some value.spanOrZero }
  | _ => settings

end PoolSettings

namespace ReconnectionSettings

def assign (settings : ReconnectionSettings) (assignment : Assignment) : ReconnectionSettings :=
  let value := assignment.value
  match assignment.name with
  | "base_delay" => { settings with baseDelay := some value.spanOrZero }
  | "max_delay" => { settings with maxDelay := some value.spanOrZero }
  | "multiplier" => { settings with multiplier := some value.floatOrNaN }
  | "jitter" => { settings with jitter := some value.floatOrNaN }
  | _ => settings

end ReconnectionSettings

namespace SpeculationSettings

def assign (settings : SpeculationSettings) (assignment : Assignment) : SpeculationSettings :=
  let value := assignment.value
  match assignment.name with
  | "max_executions" => { settings with maxExecutions := some value.naturalOrZero }
  | "speculative_delay" => { settings with delay := some value.spanOrZero }
  | _ => settings

end SpeculationSettings

namespace DriverSettings

/-- Makes one setting. The names of the parts do not overlap, so that each setting
reaches one part only. -/
def assign (settings : DriverSettings) (assignment : Assignment) : DriverSettings :=
  let value := assignment.value
  match assignment.name with
  | "request" => { settings with request := settings.request.assignAll value }
  | "profile" =>
      let profile := ProfileSettings.assignAll {} assignment.secondValue
      { settings with profiles := settings.profiles ++ [(value.textOrEmpty, profile)] }
  | "credentials" =>
      let password := assignment.secondValue.textOrEmpty
      { settings with credentials := some ⟨value.textOrEmpty, password⟩ }
  | "replication_factor" => { settings with replicationFactor := some value.naturalOrZero }
  | "retry_server_errors" => { settings with retryServerErrors := some value.boolOrFalse }
  | _ =>
      { settings with
        network := settings.network.assign assignment
        pool := settings.pool.assign assignment
        reconnection := settings.reconnection.assign assignment
        speculation := settings.speculation.assign assignment }

def ofAssignments (document : Document) : DriverSettings :=
  (document.items.map Assignment.ofDocument).foldl assign {}

end DriverSettings

end CqlDriver
