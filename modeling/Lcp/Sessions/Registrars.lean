/-
# Sessions.Registrars -- `register_worker`, statement by statement

Any number of calls of `register_worker`, each on a session of its own, under the system
principal.  The registry of a world holds the committed rows; a session that has sent its
INSERT or UPDATE holds the row's lock until its commit, which writes the row.

* A call draws its lease and selects the row in one stretch.  The row it found it assigns in
  memory, and the UPDATE writes the columns that differ from the loaded ones.
* An INSERT waits while another session has the row, and raises an `IntegrityError` when a
  committed row has the `worker_id`; the call rolls back and starts over.
* After the commit the call reads the row again (`refresh`), and returns what it finds.

`other` is a commit of another service, which leaves the lease alone.
-/
import Lcp.Services.SchedulerService
import Lcp.Sessions.Model
import Lcp.Theory.Calls

namespace Lcp.Registrars

open Theory SchedulerService

set_option autoImplicit false

/-! ## Sessions -/

/-- The UPDATE of a registration: the columns that it changed. -/
def flushRegistration (loaded modified row : WorkerRegistry) : WorkerRegistry :=
  { WorkerRegistry.flush loaded modified row with
    workerType := flushed loaded.workerType modified.workerType row.workerType
    host := flushed loaded.host modified.host row.host
    leaseId := flushed loaded.leaseId modified.leaseId row.leaseId
    capacity := flushed loaded.capacity modified.capacity row.capacity
    labels := flushed loaded.labels modified.labels row.labels }

theorem workerId_flushRegistration (loaded modified row : WorkerRegistry) :
    (flushRegistration loaded modified row).workerId = row.workerId := rfl

/-- A statement sent and not committed. -/
inductive Write where
  | insert (row : WorkerRegistry)
  | update (loaded modified : WorkerRegistry)

namespace Write

def workerId : Write → String
  | .insert row => row.workerId
  | .update loaded _ => loaded.workerId

/-- The lease it registers. -/
def leaseId : Write → String
  | .insert row => row.leaseId
  | .update _ modified => modified.leaseId

def apply (registry : Table WorkerRegistry WorkerRegistry.workerId) :
    Write → Table WorkerRegistry WorkerRegistry.workerId
  | .insert row => registry.insert row
  | .update loaded modified =>
      registry.update loaded.workerId (flushRegistration loaded modified)
        (workerId_flushRegistration loaded modified)

end Write

/-- Where a call is. -/
inductive Session where
  /-- Before its SELECT, after so many refused INSERTs. -/
  | calling (args : Registration) (retries : Nat)
  | inserting (args : Registration) (row : WorkerRegistry) (retries : Nat)
  | updating (loaded modified : WorkerRegistry)
  | committing (write : Write)
  | refreshing (workerId leaseId : String)
  /-- The row that is returned, and the lease that the call drew. -/
  | returned (leaseId : String) (row : WorkerRegistry)
  | raised

namespace Session

/-- The lease of the current attempt. -/
def leaseId? : Session → Option String
  | .inserting _ row _ => some row.leaseId
  | .updating _ modified => some modified.leaseId
  | .committing write => some write.leaseId
  | .refreshing _ leaseId => some leaseId
  | .returned leaseId _ => some leaseId
  | .calling .. | .raised => none

/-- The statements a call can still take. -/
def remaining : Session → Nat
  | .calling _ retries => 8 - 2 * retries
  | .inserting _ _ retries => 7 - 2 * retries
  | .updating .. => 3
  | .committing _ => 2
  | .refreshing .. => 1
  | .returned .. | .raised => 0

end Session

structure World where
  registry : Table WorkerRegistry WorkerRegistry.workerId
  locks : RowLocks String Nat := .none_
  /-- The leases so far; a `uuid4` is none of them. -/
  drawn : List String
  sessions : List Session
  /-- The committed registrations by worker and lease, the latest first. -/
  published : List (String × String) := []

/-- What other services do to a worker row. -/
structure Change where
  apply : WorkerRegistry → WorkerRegistry
  keepsId : ∀ row, (apply row).workerId = row.workerId
  keepsLease : ∀ row, (apply row).leaseId = row.leaseId

inductive Action where
  /-- The next statement of a call, with the `uuid4` and the time a new attempt draws. -/
  | statement (session : Nat) (newLease : String) (now : DateTime)
  | other (workerId : String) (change : Change)

def Action.isStatement : Action → Bool
  | .statement .. => true
  | .other .. => false

namespace World

/-- Move session `i`. -/
def set (s : World) (i : Nat) (session : Session) : World :=
  { s with sessions := s.sessions.set i session }

/-- Session `i` takes the lock of a row. -/
def lock (s : World) (i : Nat) (workerId : String) : World :=
  { s with locks := s.locks.acquire i [workerId] }

/-- `session.rollback()`: nothing of the session is in the registry yet. -/
def rollback (s : World) (i : Nat) : World := { s with locks := s.locks.release i }

/-- `session.commit()` of the session's write. -/
def commit (s : World) (i : Nat) (write : Write) : World :=
  { s with
    registry := write.apply s.registry
    locks := s.locks.release i
    published := (write.workerId, write.leaseId) :: s.published }

/-- The lease of the last registration of a worker. -/
def latest (s : World) (workerId : String) : Option String :=
  (s.published.find? fun entry => entry.1 = workerId).map Prod.snd

/-- The lease of a worker's committed row. -/
def leaseOf (s : World) (workerId : String) : Option String :=
  (s.registry.get workerId).map WorkerRegistry.leaseId

end World

/-! ## Steps -/

/-- A new attempt: the draws and the SELECT. -/
def attempt (s : World) (i : Nat) (newLease : String) (now : DateTime) (args : Registration)
    (retries : Nat) : Option World :=
  if newLease ∈ s.drawn then none
  else
    let next :=
      match s.registry.get args.workerId with
      | some existing => .updating existing (args.refresh newLease now existing)
      | none => .inserting args (args.row newLease now) retries
    some ({ s with drawn := newLease :: s.drawn }.set i next)

/-- The INSERT: it waits, takes the row, or is refused. -/
def flush (s : World) (i : Nat) (args : Registration) (row : WorkerRegistry) (retries : Nat) :
    Option World :=
  if s.locks.openTo i row.workerId then
    match s.registry.get row.workerId with
    | none => some ((s.lock i row.workerId).set i (.committing (.insert row)))
    | some _ =>
        some ((s.rollback i).set i
          (if 2 ≤ retries then .raised else .calling args (retries + 1)))
  else none

/-- The UPDATE at the flush of a commit; one that matches no row raises `StaleDataError`. -/
def update (s : World) (i : Nat) (loaded modified : WorkerRegistry) : Option World :=
  if s.locks.openTo i loaded.workerId then
    match s.registry.get loaded.workerId with
    | some _ => some ((s.lock i loaded.workerId).set i (.committing (.update loaded modified)))
    | none => some ((s.rollback i).set i .raised)
  else none

/-- One statement of session `i`. -/
def perform (s : World) (i : Nat) (newLease : String) (now : DateTime) :
    Session → Option World
  | .calling args retries => attempt s i newLease now args retries
  | .inserting args row retries => flush s i args row retries
  | .updating loaded modified => update s i loaded modified
  | .committing write =>
      some ((s.commit i write).set i (.refreshing write.workerId write.leaseId))
  | .refreshing workerId leaseId =>
      match s.registry.get workerId with
      | some row => some (s.set i (.returned leaseId row))
      | none => some (s.set i .raised)
  | .returned .. | .raised => none

def step (s : World) : Action → Option World
  | .statement i newLease now => s.sessions[i]?.bind (perform s i newLease now)
  | .other workerId change =>
      if s.locks workerId = none then
        some { s with registry := s.registry.update workerId change.apply change.keepsId }
      else none

/-- Runs of registrations, in every interleaving. -/
def registrars : Machine World Action where
  step := step

/-- No call has begun. -/
def start (registry : Table WorkerRegistry WorkerRegistry.workerId)
    (calls : List Registration) : World where
  registry
  drawn := registry.rows.map WorkerRegistry.leaseId
  sessions := calls.map fun args => .calling args 0

end Lcp.Registrars
