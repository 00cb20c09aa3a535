/-
Finding a first node to talk to. The contact points are tried in order. A node that
rejects the version of the protocol is tried again with the next lower one, which
is kept for all later attempts.
-/

import CqlDriver.Config.Settings
import CqlDriver.Error.Driver

namespace CqlDriver

structure FirstContact where
  remaining : List SocketAddress
  version : ProtocolVersion
  errors : NodeErrors := []
  deriving Repr, Inhabited

namespace FirstContact

def start (contactPoints : List SocketAddress) (version : ProtocolVersion) : FirstContact :=
  { remaining := contactPoints, version }

def rejectsVersion : DriverError → Bool
  | .connection (.protocolMismatch ..) => true
  | _ => false

theorem rejectsVersion_iff (error : DriverError) :
    rejectsVersion error = true ↔
      ∃ version text, error = .connection (.protocolMismatch version text) := by
  unfold rejectsVersion
  split
  · exact iff_of_true rfl ⟨_, _, rfl⟩
  · rename_i other
    refine iff_of_false nofun ?_
    rintro ⟨version, text, same⟩
    exact other version text same

/-- The version for another attempt at the same node, if there shall be one. -/
def lower? (contact : FirstContact) (error : DriverError) : Option ProtocolVersion :=
  if rejectsVersion error then contact.version.downgrade? else none

def reject (error : DriverError) (contact : FirstContact) : FirstContact :=
  match contact.remaining with
  | [] => contact
  | address :: rest =>
      match contact.lower? error with
      | some version => { contact with version }
      | none =>
          { contact with remaining := rest, errors := contact.errors ++ [(address, error)] }

def failure (contact : FirstContact) : DriverError := .noNodeAvailable contact.errors

end FirstContact

/-- The contact points whose addresses are known: those that were given by address,
then those that were looked up by name, each of which counts once. -/
def NetworkConfig.resolve (config : NetworkConfig)
    (lookup : String → Option (List SocketAddress)) : Except DriverError (List SocketAddress) :=
  if !config.hasExplicitContactPoints then .ok [NetworkConfig.implicitContactPoint]
  else
    let found := config.contactHosts.flatMap fun host => (lookup host).getD []
    let addresses := found.foldl
      (fun known address => if address ∈ known then known else known ++ [address])
      config.contactPoints
    if addresses.isEmpty then
      .error (.connection (.resolve (", ".intercalate config.contactHosts)))
    else .ok addresses

end CqlDriver
