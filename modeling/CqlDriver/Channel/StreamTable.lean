/-
The streams of a channel. A stream id is free, or a request waits on it for its
answer, or it is an orphan: its request was given up before the answer came. An
orphan stays reserved until the late answer is there, so that the answer cannot
reach a newer request. Requests are numbered, because an id can be used again.
-/

import CqlDriver.Channel.StreamIds
import CqlDriver.Error.Driver
import CqlDriver.Table
import CqlDriver.Wire.Frame

namespace CqlDriver

/-- The claim of a request to an answer: the stream it waits on, and its number. -/
structure Ticket where
  stream : Int16
  request : Nat
  deriving DecidableEq, Repr, Inhabited

structure Outcome where
  request : Nat
  result : Except DriverError Frame

structure StreamTable where
  ids : StreamIdSet
  maxOrphans : Nat
  waiters : Table Int16 Nat := []
  orphans : List Int16 := []
  accepted : Nat := 0
  draining : Bool := false
  closed : Option String := none
  deriving Repr, Inhabited

namespace StreamTable

def new (maxRequests maxOrphans : Nat) : StreamTable :=
  { ids := .new maxRequests, maxOrphans }

def isOpen (table : StreamTable) : Bool := table.closed.isNone && !table.draining

def isClosed (table : StreamTable) : Bool := table.closed.isSome

def isIdle (table : StreamTable) : Bool := table.waiters.isEmpty

def reserve (table : StreamTable) : Option Ticket × StreamTable :=
  match table.ids.allocate with
  | (none, ids) => (none, { table with ids })
  | (some stream, ids) =>
      let request := table.accepted + 1
      (some { stream, request },
        { table with ids, waiters := table.waiters.put stream request, accepted := request })

def send (address : SocketAddress) (table : StreamTable) :
    Except DriverError Ticket × StreamTable :=
  match table.closed with
  | some reason => (.error (.channelClosed reason), table)
  | none =>
      if table.draining then (.error (.channelClosed "channel is draining"), table)
      else
        match table.reserve with
        | (some ticket, table) => (.ok ticket, table)
        | (none, table) => (.error (.busy address), table)

def release (stream : Int16) (table : StreamTable) : StreamTable :=
  { table with ids := (table.ids.release stream).2 }

/-- Takes an answer. It ends the request that waits on its stream, and otherwise is
dropped; a stream that was reserved becomes free. -/
def complete (frame : Frame) (table : StreamTable) : Option Outcome × StreamTable :=
  match table.waiters.find? frame.stream with
  | some request =>
      (some { request, result := .ok frame },
        { table with waiters := table.waiters.erase frame.stream }.release frame.stream)
  | none =>
      if frame.stream ∈ table.orphans then
        (none, { table with orphans := table.orphans.erase frame.stream }.release frame.stream)
      else (none, table)

def failStream (stream : Int16) (error : DriverError) (table : StreamTable) :
    Option Outcome × StreamTable :=
  match table.waiters.find? stream with
  | some request =>
      (some { request, result := .error error },
        { table with waiters := table.waiters.erase stream }.release stream)
  | none => (none, table)

/-- Closes the channel. Every request that waits ends with the reason, and the
orphans are forgotten; the ids stay reserved. Only the first reason counts. -/
def close (reason : String) (table : StreamTable) : List Outcome × StreamTable :=
  match table.closed with
  | some _ => ([], table)
  | none =>
      (table.waiters.values.map fun request =>
          { request, result := .error (.channelClosed reason) },
        { table with closed := some reason, waiters := [], orphans := [] })

def orphansReason : String := "too many orphaned streams"

def isWaiting (ticket : Ticket) (table : StreamTable) : Bool :=
  table.waiters.find? ticket.stream = some ticket.request

/-- Takes a stream from its request; it stays reserved for the late answer. -/
def orphan (stream : Int16) (table : StreamTable) : StreamTable :=
  { table with
    waiters := table.waiters.erase stream
    orphans := stream :: table.orphans }

/-- Gives a request up. If it still waits, its stream becomes an orphan, and one
orphan too many closes the channel. -/
def abandon (ticket : Ticket) (table : StreamTable) : List Outcome × StreamTable :=
  if table.isWaiting ticket then
    let table := table.orphan ticket.stream
    if table.maxOrphans < table.orphans.length then table.close orphansReason else ([], table)
  else ([], table)

def drain (table : StreamTable) : StreamTable := { table with draining := true }

end StreamTable

end CqlDriver
