/-
A clock that moves only when it is told to, and the work that hangs on it. Work
that is ready is done in the order in which it became so; work that waits for a
time becomes ready when the clock gets there, and work for the same time in the
order in which it was put down. Times are milliseconds.
-/

namespace CqlDriver.Simulation

structure Agenda (Job : Type) where
  now : Nat := 0
  ready : List Job := []
  alarms : List (Nat × Job) := []

namespace Agenda

variable {Job : Type}

def push (job : Job) (agenda : Agenda Job) : Agenda Job :=
  { agenda with ready := agenda.ready ++ [job] }

def insert (due : Nat) (job : Job) : List (Nat × Job) → List (Nat × Job)
  | [] => [(due, job)]
  | first :: rest =>
      if due < first.1 then (due, job) :: first :: rest else first :: insert due job rest

def schedule (due : Nat) (job : Job) (agenda : Agenda Job) : Agenda Job :=
  if due ≤ agenda.now then agenda.push job
  else { agenda with alarms := insert due job agenda.alarms }

def next? (agenda : Agenda Job) : Option (Job × Agenda Job) :=
  match agenda.ready with
  | [] => none
  | job :: rest => some (job, { agenda with ready := rest })

/-- Moves the clock to the next time at which work waits, if that is not after the
limit. -/
def tick? (limit : Option Nat) (agenda : Agenda Job) : Option (Agenda Job) :=
  match agenda.alarms with
  | [] => none
  | (due, _) :: _ =>
      if limit.any fun limit => decide (limit < due) then none
      else
        let (woken, later) := agenda.alarms.span fun alarm => decide (alarm.1 ≤ due)
        some
          { now := max agenda.now due
            ready := agenda.ready ++ woken.map (·.2)
            alarms := later }

def reach (time : Nat) (agenda : Agenda Job) : Agenda Job :=
  { agenda with now := max agenda.now time }

end Agenda

end CqlDriver.Simulation
