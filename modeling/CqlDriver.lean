import CqlDriver.Net.AddressParser
import CqlDriver.Text.Quoted
import CqlDriver.Text.Utf8
import CqlDriver.Text.Blank
import CqlDriver.Span
import CqlDriver.Wire.Frame
import CqlDriver.Error.Driver
import CqlDriver.Wire.Request
import CqlDriver.Wire.ErrorBody
import CqlDriver.Wire.EventBody
import CqlDriver.Wire.Reply
import CqlDriver.Ring.TokenMap
import CqlDriver.Cluster.Feed
import CqlDriver.Cluster.Directory
import CqlDriver.Policy.Balancing
import CqlDriver.Policy.LocalDatacenter
import CqlDriver.Policy.Reconnection
import CqlDriver.Request.Execution
import CqlDriver.Request.Request
import CqlDriver.Request.Response
import CqlDriver.Config.Settings
import CqlDriver.Config.Environment
import CqlDriver.Config.Description
import CqlDriver.Config.Assignment
import CqlDriver.Error.Description
import CqlDriver.Config.Load
import CqlDriver.Channel.StreamIds
import CqlDriver.Channel.Authenticator
import CqlDriver.Pool.Target
import CqlDriver.Channel.Channel
import CqlDriver.Channel.Opening
import CqlDriver.Pool.Pool
import CqlDriver.Request.Run
import CqlDriver.Session.FirstContact
import CqlDriver.Session.Membership
import CqlDriver.Session.Pools
import CqlDriver.Simulation.ChannelScene
import CqlDriver.Simulation.PoolScene
import CqlDriver.Simulation.SessionScene
import CqlDriver.Proofs.Request.Endings
import CqlDriver.Proofs.Wire.Decoding
import CqlDriver.Proofs.Channel.Exchange
import CqlDriver.Proofs.Channel.StreamRuns
import CqlDriver.Proofs.Wire.RoundTrip
import CqlDriver.Proofs.Cluster.Moves
import CqlDriver.Proofs.Ring.Building
import CqlDriver.Proofs.Cluster.Indexes
import CqlDriver.Proofs.Cluster.Log
import CqlDriver.Proofs.Request.Steps
import CqlDriver.Proofs.Request.Unrepeatable
import CqlDriver.Proofs.Request.Trail
import CqlDriver.Proofs.Request.History
import CqlDriver.Proofs.Request.Retries
import CqlDriver.Proofs.Request.Loop
import CqlDriver.Proofs.Request.Waiting
import CqlDriver.Proofs.Cluster.Order
import CqlDriver.Proofs.Ring.Walking
import CqlDriver.Proofs.Ring.Replicas
import CqlDriver.Proofs.Policy.Plans
import CqlDriver.Proofs.Wire.Notation
import CqlDriver.Proofs.Wire.Truncation
import CqlDriver.Proofs.Wire.Sequences
import CqlDriver.Proofs.Wire.ErrorBodies
import CqlDriver.Proofs.Wire.EventBodies
import CqlDriver.Proofs.Channel.Waiters
import CqlDriver.Proofs.Channel.Moves
import CqlDriver.Proofs.Channel.Fates
import CqlDriver.Proofs.Channel.Closing
import CqlDriver.Proofs.Channel.Exhaustion
import CqlDriver.Proofs.Channel.Wedging
import CqlDriver.Proofs.Session.SwitchedOff
import CqlDriver.Proofs.Cluster.LastWord
import CqlDriver.Proofs.Pool.Tasks
import CqlDriver.Proofs.Session.Fleet
import CqlDriver.Proofs.Session.Roster
import CqlDriver.Proofs.Session.Steps
import CqlDriver.Proofs.Session.Following
import CqlDriver.Proofs.Session.StaleNews
import CqlDriver.Proofs.Pool.Tending
import CqlDriver.Proofs.Session.Recovery
import CqlDriver.Proofs.Channel.Lasting
import CqlDriver.Proofs.Pool.Site
import CqlDriver.Proofs.Pool.Holdings
import CqlDriver.Proofs.Pool.Leaving
import CqlDriver.Proofs.Pool.Looping
import CqlDriver.Proofs.Pool.Shortage
import CqlDriver.Proofs.Pool.Fitting
import CqlDriver.Proofs.Channel.Conversing
import CqlDriver.Proofs.Channel.Agreement
import CqlDriver.Proofs.Channel.Interruptions
import CqlDriver.Proofs.Request.Forewords
import CqlDriver.Proofs.Request.Stripping
import CqlDriver.Proofs.Request.Surfacing
import CqlDriver.Proofs.Session.Effects
import CqlDriver.Proofs.Session.Reconciling
import CqlDriver.Proofs.Session.Updates
import CqlDriver.Proofs.Session.Refreshing
import CqlDriver.Proofs.Session.Distances
import CqlDriver.Proofs.Request.Lines
import CqlDriver.Proofs.Request.Rulings
import CqlDriver.Proofs.Request.Speculation
import CqlDriver.Proofs.Pool.Emptying
import CqlDriver.Proofs.Session.ControlSearch
import CqlDriver.Proofs.Session.OffLimits
import CqlDriver.Proofs.Wire.Cutting
import CqlDriver.Proofs.Wire.Shortfall
import CqlDriver.Proofs.Ring.Murmur
import CqlDriver.Proofs.Policy.Fairness
import CqlDriver.Proofs.Session.Contacting
import CqlDriver.Proofs.Pool.Distinct
import CqlDriver.Proofs.Pool.Growing
import CqlDriver.Proofs.Pool.Arrivals
import CqlDriver.Proofs.Pool.Resizing
import CqlDriver.Proofs.Channel.Draining
import CqlDriver.Proofs.Channel.Watch
import CqlDriver.Proofs.Channel.Vigil
import CqlDriver.Proofs.Channel.ReservedIds
import CqlDriver.Proofs.Config.ProfileCalls
import CqlDriver.Proofs.Config.Inheritance
import CqlDriver.Proofs.Config.Profiles
