import CodestraMiddleware.AiJobs.Schema
import CodestraMiddleware.Telephony.Operations

/-!
# The telephony command worker

`dispatch_one` is cut where other sessions and the world can come in: at its transactions, at the
two calls of the adapter, and at the places where it can fail. A worker that is between two of them
keeps the lease it was given and the data it has read.
-/
namespace CodestraMiddleware.Telephony

open CompactJson

def leaseSeconds : Nat := 120

def maxAttempts : Nat := 8

inductive Failure where
  | readbackPending
  | clientError (message : String)
  | httpStatus (status : Nat)
  | other (message : String)

def Failure.permanent : Failure → Bool
  | .readbackPending => false
  | .clientError _ => true
  | .httpStatus status =>
    400 ≤ status && status < 500 && status ≠ 408 && status ≠ 409 && status ≠ 425 && status ≠ 429
  | .other _ => false

structure Lease where
  commandId : UUID
  owner : String

def TelephonyCommandJournal.claimable (r : TelephonyCommandJournal) (now : Int)
    (environment : Environment) : Bool :=
  r.environment = environment && ((r.state = .authorized || r.state = .failedTransient ||
    r.state = .readbackPending) &&
        r.nextAttemptAt.all (· ≤ now) || r.state = .submitting && r.nextAttemptAt.any (· ≤ now))

section

variable (now : Int) (environment : Environment) (locked : UUID → Bool)

def claimedRow? (db : Database) :
    Option TelephonyCommandJournal :=
  (db.commands.rows.filter fun r => r.claimable now environment && !locked r.commandId).minOn?
    (·.createdAt)

def CommandProgress.claim (now : Int) (owner : String) (p : CommandProgress) : CommandProgress where
  state := .submitting
  attemptCount := p.attemptCount + 1
  leaseOwner := some owner
  nextAttemptAt := some (now + seconds leaseSeconds)
  updatedAt := now

def claimAuthorized (owner : String)
    (db : Database) : Option (Lease × Database) :=
  (claimedRow? now environment locked db).map fun row =>
    (⟨row.commandId, owner⟩, db.updateCommand row.commandId (.claim now owner))

end

/-- The command, if it is still being submitted under the lease. Every later transaction of the
worker looks for it first. -/
def ownedRow? (lease : Lease) (db : Database) : Option TelephonyCommandJournal :=
  (db.command? lease.commandId).filter fun r =>
    r.state = .submitting && r.leaseOwner = some lease.owner

theorem claimedRow?_mem (found : claimedRow? now environment locked db = some row) :
    row ∈ db.commands.rows ∧ row.claimable now environment = true := by
  have member := List.minOn?_mem found
  simp only [List.mem_filter, Bool.and_eq_true] at member
  exact ⟨member.1, member.2.1⟩

theorem ownedRow?_eq_some : ownedRow? lease db = some row ↔ row ∈ db.commands.rows ∧
    row.commandId = lease.commandId ∧
      row.state = .submitting ∧ row.leaseOwner = some lease.owner := by
  simp [ownedRow?, Option.filter_eq_some_iff, db.command?_eq_some, and_assoc]

def CommandProgress.renew (now : Int) (p : CommandProgress) : CommandProgress :=
  { p with nextAttemptAt := some (now + seconds leaseSeconds), updatedAt := now }

/-- One round of `_renew_lease`; `none` if the renewal stops. -/
def renewLease (now : Int) (lease : Lease) (db : Database) : Option Database :=
  (ownedRow? lease db).map fun row => db.updateCommand row.commandId (.renew now)

/-! ## Transactions under a lease -/

def CommandProgress.fail (now : Int) (exc : Failure) (p : CommandProgress) : CommandProgress :=
  let permanent := exc.permanent || maxAttempts ≤ p.attemptCount
  { p with
    state := if permanent then .failedPermanent else .failedTransient
    -- Twice as long from attempt to attempt; the exponent stops at 8.
    nextAttemptAt :=
      if permanent then none else some (now + seconds (min 300 (2 ^ min p.attemptCount 8)))
    leaseOwner := none
    updatedAt := now }

def recordFailure (now : Int) (lease : Lease) (exc : Failure) (db : Database) : Database :=
  match ownedRow? lease db with
  -- Whoever has lost the lease leaves the row to its new owner.
  | none => db
  | some row => db.updateCommand row.commandId (.fail now exc)

structure OperationView where
  (operationId operationPublicId adapterOperationId endpointKey readbackEndpointKey : String)
  targetConfigurationChecksum : String
  targetAttested : Bool
  desiredHash : String

structure DispatchAnswer extends OperationView where
  (adapterServiceKey endpointId endpointVersionId : String)
  ambiguous : Bool

def TelephonyOperationJournal.operation (o : TelephonyOperationJournal) : OperationView where
  operationId := o.operationPublicId
  operationPublicId := o.operationPublicId
  adapterOperationId := o.adapterOperationId
  endpointKey := o.endpointKey
  readbackEndpointKey := o.readbackEndpointKey
  targetConfigurationChecksum := o.targetConfigurationChecksum
  targetAttested := o.targetAttested
  desiredHash := o.desiredHash

variable (sha256 : String → String)

def DispatchAnswer.row (answer : DispatchAnswer) (operationId commandId : UUID)
    (command : TelephonyCommandRequest) : TelephonyOperationJournal where
  operationId := operationId
  operationPublicId := answer.operationPublicId
  commandId := commandId
  state := if answer.ambiguous then .ambiguous else .submitted
  endpointKey := answer.endpointKey
  readbackEndpointKey := answer.readbackEndpointKey
  targetConfigurationChecksum := answer.targetConfigurationChecksum
  targetAttested := answer.targetAttested
  adapterServiceKey := answer.adapterServiceKey
  adapterOperationId := answer.adapterOperationId
  targetSystem := command.targetSystem
  targetResourceType := command.targetResourceType
  targetPublicId := command.targetPublicId
  desiredStateVersion := command.payload.desiredStateVersion
  idempotencyHash := payloadHash sha256 (.object [
    ("command_public_id", .text (orElse command.commandPublicId (AiJobs.UUID.text commandId))),
    ("endpoint_configuration_version", .text answer.endpointVersionId),
    ("resolved_endpoint_id", .text answer.endpointId)])
  desiredHash := answer.desiredHash
  correlationId := command.correlationId
  transitionSequence := 0
  actualHash := none
  readbackMatches := none
  response := "\x7b\x7d"
  completedAt := none

section

variable (now : Int)

def persistSubmission (operationId : UUID) (lease : Lease)
    (command : TelephonyCommandRequest) (answer : DispatchAnswer) (db : Database) :
    Except Failure Database :=
  match ownedRow? lease db with
  | none => .error (.other "telephony command submission ownership conflict")
  | some row =>
    match db.operation? row.commandId with
    | none =>
      match db.insertOperation? (answer.row sha256 operationId row.commandId command) with
      -- The adapter's operation, or its key, is in the journal under another command.
      | none => .error (.other "IntegrityError")
      | some db' => .ok (db'.updateCommand row.commandId (.renew now))
    | some existing =>
      if existing.operationPublicId ≠ answer.operationPublicId then
        .error (.other "adapter operation idempotency conflict")
      -- The state and the owner are written back as they are.
      else .ok (db.updateCommand row.commandId (.renew now))

/-- The messages of the API and of the worker differ. -/
def PolicyDefect.message : PolicyDefect → String
  | .correlation => "telephony policy correlation changed"
  | .hash => "telephony policy decision changed"
  | .scope => "telephony policy scope changed"
  | .expirationInvalid => "telephony policy expiration is invalid"
  | .expired => "telephony policy authorization expired"

/-- `_validate_policy_for_dispatch`: the message of the `TelephonyClientError`, if any. -/
def validatePolicyForDispatch (command : TelephonyCommandRequest)
    (decision : Option PolicyDecision) : Option String :=
  match decision with
  | none => some "telephony policy decision is unavailable"
  | some decision =>
    match decision.bindingDefect? sha256 command with
    | some defect => some defect.message
    | none =>
      if !decision.authorizes then some "telephony policy no longer authorizes dispatch"
      else (decision.expirationDefect? now).map PolicyDefect.message

structure Readback where
  readbackMatches : Bool
  (actualHash actual : String)

def Readback.commandState (r : Readback) : TelephonyCommandState :=
  if r.readbackMatches then .odooResultPending else .reconciliationRequired

def Readback.operationState (r : Readback) : OperationState :=
  if r.readbackMatches then .odooResultPending else .reconciliationRequired

def CommandProgress.finalize (readback : Readback) (p : CommandProgress) : CommandProgress :=
  { p with state := readback.commandState, nextAttemptAt := none, leaseOwner := none,
           updatedAt := now }

def OperationProgress.finalize (readback : Readback) (p : OperationProgress) : OperationProgress :=
  { p with
    state := readback.operationState, actualHash := some readback.actualHash,
    readbackMatches := some readback.readbackMatches, response := readback.actual,
    completedAt := some now }

def finalizeCommand (lease : Lease) (readback : Readback) (db : Database) : Except Fault Database :=
  match ownedRow? lease db, db.operation? lease.commandId with
  | some row, some operation =>
    .ok ((db.updateOperation operation.operationId (.finalize now readback)).updateCommand
      row.commandId (.finalize now readback))
  | _, _ => .error (.runtimeError "telephony command finalization state conflict")

/-! ## `dispatch_one` -/

/-- How far `dispatch_one` has come. From `loaded` to `readingBack` it is in its `try` block, and
`failing` is the `except` clause. -/
inductive Stage where
  | claimed
  | loaded (command : TelephonyCommandRequest) (operation : Option OperationView)
      (decision : Option PolicyDecision)
  | dispatching (command : TelephonyCommandRequest)
  | dispatched (command : TelephonyCommandRequest) (answer : DispatchAnswer)
  | readingBack (operation : OperationView)
  | failing (exc : Failure)
  | readBack (operation : OperationView) (readback : Readback)

def Stage.catches : Stage → Bool
  | .loaded .. | .dispatching .. | .dispatched .. | .readingBack .. => true
  | _ => false

/-- A worker process; `heartbeat` says that its renewal task is running. -/
inductive Worker where
  | idle
  | running (lease : Lease) (heartbeat : Bool) (stage : Stage)

inductive WorkerEvent where
  | claim (now : Int) (environment : Environment) (locked : UUID → Bool) (owner : String)
  | load (now : Int) (decision : Option PolicyDecision)
  | call (now : Int)
  | answer (answer : DispatchAnswer)
  | persist (now : Int) (operationId : UUID)
  | readback (readback : Readback)
  | raise (exc : Failure)
  | recordFailure (now : Int)
  | finalize (now : Int)
  | renew (now : Int)
  -- The process dies, or an exception leaves `dispatch_one` outside its `try` block.
  | crash

inductive Trace where
  | claimed (commandId : UUID)
  | read (commandId : UUID) (present : Bool)
  | dispatched (commandId : UUID)
  deriving DecidableEq

def lookup (commandId : UUID) (db : Database) : Trace :=
  .read commandId (db.operation? commandId).isSome

structure Reaction where
  database : Database
  worker : Worker
  trace : Option Trace

/-- The load of `dispatch_one`; the worker goes idle when an exception escapes. -/
def loadCommand (decision : Option PolicyDecision) (lease : Lease) (db : Database) :
    Worker × Option Trace :=
  match db.command? lease.commandId with
  | none => (.idle, none)
  | some row =>
    match row.request.forbidApplicationSelectedResources now with
    | .error _ => (.idle, none)
    | .ok () =>
      let operation := (db.operation? lease.commandId).map (·.operation)
      -- The decision is only asked for when there is something to dispatch.
      (.running lease false (.loaded row.request operation
        (if operation.isSome then none else decision)), some (lookup lease.commandId db))

/-- The beginning of the `try` block, up to the first call of the adapter. -/
def callAdapter (lease : Lease) (command : TelephonyCommandRequest)
    (operation : Option OperationView) (decision : Option PolicyDecision) : Worker × Option Trace :=
  match operation with
  -- What an earlier attempt has dispatched is read back only.
  | some operation => (.running lease true (.readingBack operation), none)
  | none =>
    match validatePolicyForDispatch sha256 now command decision with
    | some message => (.running lease true (.failing (.clientError message)), none)
    | none => (.running lease true (.dispatching command), some (.dispatched lease.commandId))

end

/-- What an event does to a worker and the database. An event that does not fit the worker's stage
does nothing. -/
def Worker.react (e : WorkerEvent) (w : Worker) (db : Database) : Reaction :=
  match e, w with
  | .claim now environment locked owner, .idle =>
    match claimAuthorized now environment locked owner db with
    | none => ⟨db, .idle, none⟩
    | some (lease, db') => ⟨db', .running lease false .claimed, some (.claimed lease.commandId)⟩
  | .load now decision, .running lease _ .claimed =>
    let (w', trace) := loadCommand now decision lease db
    ⟨db, w', trace⟩
  | .call now, .running lease _ (.loaded command operation decision) =>
    let (w', trace) := callAdapter sha256 now lease command operation decision
    ⟨db, w', trace⟩
  | .answer answer, .running lease heartbeat (.dispatching command) =>
    ⟨db, .running lease heartbeat (.dispatched command answer), none⟩
  | .persist now operationId, .running lease heartbeat (.dispatched command answer) =>
    -- The operation is looked up under the lease only.
    let trace := (ownedRow? lease db).map fun row => lookup row.commandId db
    match persistSubmission sha256 now operationId lease command answer db with
    | .error exc => ⟨db, .running lease heartbeat (.failing exc), trace⟩
    | .ok db' => ⟨db', .running lease heartbeat (.readingBack answer.toOperationView), trace⟩
  -- The renewal task is cancelled when the `try` block is left.
  | .readback readback, .running lease _ (.readingBack operation) =>
    ⟨db, .running lease false (.readBack operation readback), none⟩
  | .raise exc, .running lease heartbeat stage =>
    ⟨db, .running lease heartbeat (if stage.catches then .failing exc else stage), none⟩
  | .recordFailure now, .running lease _ (.failing exc) =>
    ⟨recordFailure now lease exc db, .idle, none⟩
  | .finalize now, .running lease _ (.readBack _ readback) =>
    match finalizeCommand now lease readback db with
    | .error _ => ⟨db, .idle, some (lookup lease.commandId db)⟩
    | .ok db' => ⟨db', .idle, some (lookup lease.commandId db)⟩
  | .renew now, .running lease true stage =>
    match renewLease now lease db with
    | none => ⟨db, .running lease false stage, none⟩
    | some db' => ⟨db', .running lease true stage, none⟩
  | .crash, _ => ⟨db, .idle, none⟩
  | _, w => ⟨db, w, none⟩

end CodestraMiddleware.Telephony
