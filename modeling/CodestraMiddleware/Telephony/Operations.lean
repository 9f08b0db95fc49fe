import CodestraMiddleware.Telephony.Contracts

/-!
# The command and operation API

Each handler is one transaction: it returns the database it commits and its answer, or the error
with which it leaves the database as it was. The row locks that the handlers take make them atomic
towards each other.
-/
namespace CodestraMiddleware.Telephony

open CompactJson Relational Option Database Constrained

inductive IdempotencyStatus where
  | new | duplicate

structure CommandView where
  commandId : UUID
  commandPublicId : String
  commandType : TelephonyCommandType
  aggregatePublicId : String
  aggregateVersion : Nat
  state : TelephonyCommandState
  correlationId : String
  replayed : Bool

structure ResultView where
  (resultPublicId operationPublicId commandPublicId : String)
  applicationStatus : ApplicationStatus
  readbackStatus : ReadbackStatus
  reconciliationStatus : ReconciliationStatus
  correlationId : String
  idempotencyStatus : IdempotencyStatus

inductive Reply where
  | command (view : CommandView)
  | registered (operationPublicId : String) (status : IdempotencyStatus)
  | transitioned (operationPublicId : String) (state : OperationState) (status : IdempotencyStatus)
  | result (view : ResultView)

/-- A handler that fails leaves the database as it was. -/
abbrev Outcome := Except Fault (Database × Reply)

def Outcome.database (db : Database) : Outcome → Database
  | .ok (db', _) => db'
  | .error _ => db

@[simp] theorem Outcome.database_ok (db db' : Database) (reply : Reply) :
    Outcome.database db (.ok (db', reply)) = db' := rfl

@[simp] theorem Outcome.database_error (db : Database) (fault : Fault) :
    Outcome.database db (.error fault) = db := rfl

variable (sha256 : String → String)

/-- One call of `create_command`: its time, the generated identifier, the header, the body and the
decision that the body names. -/
structure CommandCall where
  now : Int
  commandId : UUID
  header : String
  body : TelephonyCommandRequest
  decision : Option PolicyDecision

def PolicyDefect.detail : PolicyDefect → String
  | .correlation => "policy correlation mismatch"
  | .hash => "policy decision hash mismatch"
  | .scope => "policy authorization scope mismatch"
  | .expirationInvalid => "policy expiration is invalid"
  | .expired => "policy decision expired"

namespace CommandCall

variable (call : CommandCall)

/-- The checks before the journal is read. -/
def start : Except Fault (TelephonyCommandRequest × PolicyDecision) :=
  match call.body.forbidApplicationSelectedResources call.now with
  | .error message => .error (.http 422 message)
  | .ok () =>
    if call.header ≠ call.body.idempotencyKey then
      .error (.http 400 "header and command idempotency keys must match")
    else
      -- By the identifier in the body, or else the latest with the body's correlation.
      match call.decision with
      | none => .error (.http 422 "policy decision not found")
      | some decision =>
        .ok ({ call.body with
          policyDecisionId := some (call.body.policyDecisionId.getD decision.id) }, decision)

/-- A command that the policy denies is stored as well. -/
def row (body : TelephonyCommandRequest) (decision : PolicyDecision) : TelephonyCommandJournal :=
  newCommandRecord sha256 call.now call.commandId (if decision.authorizes then .authorized
    else .policyDenied) body

end CommandCall

section

variable (body : TelephonyCommandRequest)

/-- The command that was stored with this key. -/
def existingCommand? (db : Database) : Option TelephonyCommandJournal :=
  db.commands.find? fun r => decide (r.idempotencyHash = body.stableIdempotencyKey sha256)

def TelephonyCommandJournal.view (r : TelephonyCommandJournal) (replayed : Bool) : Reply :=
  .command {
    commandId := r.commandId
    commandPublicId := r.commandPublicId
    commandType := r.commandType
    aggregatePublicId := r.aggregatePublicId
    aggregateVersion := r.aggregateVersion
    state := r.state
    correlationId := r.correlationId
    replayed := replayed }

/-- The same key has to come with the same request. -/
def replay (existing : TelephonyCommandJournal) : Except Fault Reply :=
  if existing.requestHash ≠ body.requestHash sha256 then
    .error (.http 409 "idempotency key conflict")
  else .ok (existing.view true)

/-- The binding is checked before the expiration. -/
def policyDefect? (now : Int) (body : TelephonyCommandRequest) (decision : PolicyDecision) :
    Option PolicyDefect :=
  (decision.bindingDefect? sha256 body).or (decision.expirationDefect? now)

def TelephonyCommandRequest.aggregate (c : TelephonyCommandRequest) :
    Environment × String × String :=
  (c.environment, c.aggregateType, c.aggregatePublicId)

def latestVersion? (db : Database) : Option Nat :=
  ((db.commands.rows.filter fun r => decide (r.aggregate = body.aggregate)).map
    (·.aggregateVersion)).max?

/-- The versions of an aggregate increase. -/
def stale (db : Database) : Bool :=
  (latestVersion? body db).any (body.aggregateVersion ≤ ·)

/-- After a clash of unique values: a repetition, or a conflict. -/
def recover (db : Database) : Except Fault Reply :=
  match existingCommand? sha256 body db with
  | some existing =>
    if existing.requestHash = body.requestHash sha256 then .ok (existing.view true)
    else if stale body db then .error (.http 409 "stale or duplicate aggregate version")
    else .error (.http 409 "concurrent command conflict")
  | none =>
    if stale body db then .error (.http 409 "stale or duplicate aggregate version")
    else .error (.http 409 "concurrent command conflict")

end

def createCommand (call : CommandCall) (db : Database) : Outcome :=
  match call.start with
  | .error fault => .error fault
  | .ok (body, decision) =>
    match existingCommand? sha256 body db with
    -- A retry is answered before its decision is looked at, which may have expired since.
    | some existing => (replay sha256 body existing).map (db, ·)
    | none =>
      match policyDefect? sha256 call.now body decision with
      | some defect => .error (.http 409 defect.detail)
      | none =>
        -- The lock on the aggregate is held from here to the commit.
        if stale body db then .error (.http 409 "stale or duplicate aggregate version")
        else
          match db.insertCommand? (call.row sha256 body decision) with
          | some db' => .ok (db', (call.row sha256 body decision).view false)
          | none => (recover sha256 body db).map (db, ·)

/-- The other final states may be cancelled. -/
def TelephonyCommandState.uncancellable : TelephonyCommandState → Bool
  | .succeeded | .reconciled | .failedPermanent => true
  | _ => false

def CommandProgress.cancel (now : Int) (p : CommandProgress) : CommandProgress :=
  { p with state := .cancelled, leaseOwner := none, nextAttemptAt := none, updatedAt := now }

def cancelCommand (now : Int) (commandPublicId : String) (db : Database) : Outcome :=
  match db.commandByPublicId? commandPublicId with
  | none => .error (.http 404 "command not found")
  | some row =>
    if row.state.uncancellable then .error (.http 409 "terminal command cannot be cancelled")
    else
      .ok (db.updateCommand row.commandId (.cancel now),
        { row with toCommandProgress := row.toCommandProgress.cancel now }.view false)

variable {command : TelephonyCommandJournal}

namespace OperationRegistration

variable (body : OperationRegistration)

/-- The operation is the one that the command asks for. -/
def boundTo (command : TelephonyCommandJournal) : Bool :=
  command.correlationId = body.correlationId && command.request.payload.desiredStateVersion =
    body.desiredStateVersion && (bareHash (command.request.payload.desiredStateHash.getD "") = "" ||
      bareHash (command.request.payload.desiredStateHash.getD "") = bareHash body.desiredStateHash)

def idempotencyHash : String := payloadHash sha256 (.text body.idempotencyKey)

/-- An operation that has one of the unique values. -/
def prior? (command : TelephonyCommandJournal) (db : Database) : Option TelephonyOperationJournal :=
  db.operations.find? fun o => decide (o.operationPublicId = body.operationPublicId ∨
    o.commandId = command.commandId ∨ o.idempotencyHash = body.idempotencyHash sha256)

def row (operationId : UUID) (command : TelephonyCommandJournal) : TelephonyOperationJournal where
  operationId := operationId
  operationPublicId := body.operationPublicId
  commandId := command.commandId
  adapterServiceKey := body.adapterServiceKey
  adapterOperationId := body.adapterOperationId
  targetSystem := body.targetSystem
  targetResourceType := body.targetResourceType
  targetPublicId := body.targetPublicId
  desiredStateVersion := body.desiredStateVersion
  idempotencyHash := body.idempotencyHash sha256
  endpointKey := "telephony.operation.registered"
  readbackEndpointKey := "telephony.operation.readback"
  targetConfigurationChecksum := "pending"
  targetAttested := true
  desiredHash := bareHash body.desiredStateHash
  correlationId := body.correlationId
  state := .registered
  transitionSequence := 0
  actualHash := none
  readbackMatches := none
  response := "\x7b\x7d"
  completedAt := none

/-- The registration names what the stored operation has. -/
def repeats (prior : TelephonyOperationJournal) : Bool :=
  prior.operationPublicId = body.operationPublicId &&
    prior.adapterServiceKey = body.adapterServiceKey &&
    prior.adapterOperationId = body.adapterOperationId && prior.targetSystem = body.targetSystem &&
    prior.targetResourceType = body.targetResourceType &&
    prior.targetPublicId = body.targetPublicId &&
    prior.desiredStateVersion = body.desiredStateVersion &&
    prior.desiredHash = bareHash body.desiredStateHash && prior.correlationId = body.correlationId

/-- The conditions under which a new row is stored. -/
def accepted (operationId : UUID) (command : TelephonyCommandJournal) (db : Database) : Bool :=
  body.boundTo command && (body.prior? sha256 command db).isNone && db.operations.rows.all fun o =>
    o.operationId ≠ operationId

/-- `prior?` looks at every unique column but the identifier. -/
theorem insertOperation?_of_accepted
    (accepted : body.accepted sha256 operationId command db = true) :
    ∃ db', db.insertOperation? (body.row sha256 operationId command) = some db' := by
  simp only [OperationRegistration.accepted, Bool.and_eq_true, isNone_iff_eq_none, prior?,
    find?_eq_none_iff, List.all_eq_true, decide_eq_true_eq, decide_eq_false_iff_not, not_or]
    at accepted
  obtain ⟨⟨-, unknown⟩, unused⟩ := accepted
  have free : (db.operations.insert? (body.row sha256 operationId command)).isSome := by
    apply insert?_isSome
    -- One case for each unique column: its identifier, public identifier, key and command.
    rintro old member (same | same | same | same)
    · exact unused old member same
    · exact (unknown old member).1 same
    · exact (unknown old member).2.2 same
    · exact (unknown old member).2.1 same
  obtain ⟨operations, inserted⟩ := isSome_iff_exists.mp free
  exact ⟨_, insertOperation?_eq_some.mpr ⟨operations, inserted, rfl⟩⟩

theorem accepted_of_insert (bound : body.boundTo command = true)
    (unknown : body.prior? sha256 command db = none)
    (inserted : db.insertOperation? (body.row sha256 operationId command) = some db') :
    body.accepted sha256 operationId command db = true := by
  simp only [accepted, bound, unknown, isNone_none, Bool.and_self, Bool.true_and, List.all_eq_true,
    decide_eq_true_eq]
  obtain ⟨_, added, -⟩ := insertOperation?_eq_some.mp inserted
  intro old listed same
  exact insert?_apart added old listed (.inl same)

end OperationRegistration

def CommandProgress.register (now : Int) (p : CommandProgress) : CommandProgress :=
  { p with state := .operationRegistered, updatedAt := now }

def registerOperation (now : Int) (operationId : UUID) (body : OperationRegistration)
    (db : Database) : Outcome :=
  match db.commandByPublicId? body.commandPublicId with
  | none => .error (.http 404 "command not found")
  | some command =>
    if !body.boundTo command then .error (.http 409 "operation correlation binding mismatch")
    else
      match body.prior? sha256 command db with
      -- The state of the command is not looked at, here or below.
      | some prior =>
        if !body.repeats prior then .error (.http 409 "immutable operation binding conflict")
        else .ok (db, .registered prior.operationPublicId .duplicate)
      | none =>
        match db.insertOperation? (body.row sha256 operationId command) with
        | none => .error .integrityError
        | some db' =>
          .ok (db'.updateCommand command.commandId (.register now),
            .registered body.operationPublicId .new)

def transitions : OperationState → List TransitionState
  | .registered => [.applying, .failed]
  | .applying => [.applied, .failed, .compensationRequired]
  | .applied => [.readbackPending, .compensationRequired]
  | .readbackPending => [.readbackVerified, .readbackMismatch, .failed]
  | .readbackVerified => [.succeeded]
  | .readbackMismatch => [.compensationRequired, .failed]
  | .compensationRequired => [.compensated, .failed]
  | _ => []

/-- The states that set `completed_at`. -/
def OperationState.completed : OperationState → Bool
  | .succeeded | .failed | .compensated => true
  | _ => false

namespace OperationTransition

variable (body : OperationTransition)

def boundTo (row : OperationSpec) (command : CommandSpec) : Bool :=
  command.commandPublicId = body.binding.commandPublicId &&
    command.environment = body.binding.environment &&
    row.correlationId = body.binding.correlationId &&
    row.targetSystem = body.binding.targetSystem &&
    row.targetResourceType = body.binding.targetResourceType &&
    row.targetPublicId = body.binding.targetPublicId &&
    row.desiredStateVersion = body.binding.desiredStateVersion &&
    row.adapterServiceKey = body.binding.adapterServiceKey &&
    payloadHash sha256 body.binding.json = bareHash body.transitionHash

/-- The command is there, and the transition is bound to both. -/
def bound (row : TelephonyOperationJournal) (db : Database) : Bool :=
  (db.command? row.commandId).any fun command =>
    body.boundTo sha256 row.toOperationSpec command.toCommandSpec

/-- A transition with the same number or the same hash. -/
def prior? (row : TelephonyOperationJournal) (db : Database) :
    Option TelephonyOperationTransition :=
  db.transitions.find? fun t => decide (t.operationId = row.operationId ∧
    (t.sequence = body.binding.transitionSequence ∨
      t.transitionHash = bareHash body.transitionHash))

def row (operation : TelephonyOperationJournal) : TelephonyOperationTransition where
  operationId := operation.operationId
  commandId := operation.commandId
  sequence := body.binding.transitionSequence
  fromState := operation.state
  toState := body.binding.state.operation
  transitionHash := bareHash body.transitionHash
  binding := body.binding

def accepted (row : TelephonyOperationJournal) (db : Database) : Bool :=
  body.bound sha256 row db && (body.prior? row db).isNone &&
    body.binding.transitionSequence = row.transitionSequence + 1 &&
    body.binding.state ∈ transitions row.state

theorem accepted_iff {row : TelephonyOperationJournal} :
    body.accepted sha256 row db = true ↔ body.bound sha256 row db = true ∧
    body.prior? row db = none ∧
      body.binding.transitionSequence = row.transitionSequence + 1 ∧
      body.binding.state ∈ transitions row.state := by
  simp [accepted, and_assoc]

/-- A transition that `prior?` does not find clashes with none. -/
theorem insertTransition?_of_unknown {row : TelephonyOperationJournal}
    (unknown : body.prior? row db = none) :
    ∃ db', db.insertTransition? (body.row row) = some db' := by
  have free : (db.transitions.insert? (body.row row)).isSome := by
    apply insert?_isSome
    rintro old member ⟨same, clash⟩
    rw [prior?, find?_eq_none_iff] at unknown
    exact of_decide_eq_false (unknown old member) ⟨same, clash⟩
  obtain ⟨transitions, inserted⟩ := isSome_iff_exists.mp free
  exact ⟨_, insertTransition?_eq_some.mpr ⟨transitions, inserted, rfl⟩⟩

end OperationTransition

def OperationProgress.transit (now : Int) (binding : TransitionBinding) (p : OperationProgress) :
    OperationProgress :=
  { p with
    state := binding.state.operation, transitionSequence := binding.transitionSequence,
    completedAt := if binding.state.operation.completed then some now else p.completedAt }

def transitionOperation (now : Int) (operationPublicId : String) (body : OperationTransition)
    (db : Database) : Outcome :=
  match db.operationByPublicId? operationPublicId with
  | none => .error (.http 404 "operation not found")
  | some row =>
    if !body.bound sha256 row db then
      .error (.http 409 "operation transition binding mismatch")
    else
      match body.prior? row db with
      -- Found by sequence number or by hash, it has to agree as a whole.
      | some prior =>
        if prior.binding ≠ body.binding then .error (.http 409 "conflicting operation transition")
        else .ok (db, .transitioned row.operationPublicId prior.toState .duplicate)
      | none =>
        if body.binding.transitionSequence ≠ row.transitionSequence + 1 then
          .error (.http 409 "out-of-order operation transition")
        else if body.binding.state ∉ transitions row.state then
          .error (.http 409 "invalid operation transition")
        else
          match db.insertTransition? (body.row row) with
          -- Not reached: a clash would have been found as the prior transition.
          | none => .error .integrityError
          | some db' =>
            .ok (db'.updateOperation row.operationId (.transit now body.binding),
              .transitioned row.operationPublicId body.binding.state.operation .new)

namespace TerminalResultRequest

variable (body : TerminalResultRequest)

section

variable (operation : TelephonyOperationJournal)

def boundTo (command : TelephonyCommandJournal) : Bool :=
  operation.commandId = command.commandId && command.correlationId = body.correlationId &&
    command.policyDecisionHash = bareHash body.policyHash &&
    operation.targetSystem = body.targetSystem &&
    operation.targetResourceType = body.targetResourceType &&
    operation.targetPublicId = body.targetPublicId &&
    operation.desiredStateVersion = body.requestedStateVersion &&
    operation.adapterServiceKey = body.adapterServiceKey

def reconciliation : ReconciliationStatus :=
  if body.readbackStatus = .readbackVerified then .inSync else .reconciliationRequired

/-- A verified result is still to be reported to Odoo. -/
def operationState : OperationState :=
  if body.readbackStatus = .readbackVerified then .odooResultPending else .readbackMismatch

def row : TelephonyTerminalResult where
  operationId := operation.operationId
  commandId := operation.commandId
  reconciliationStatus := body.reconciliation
  immutable := body

def prior? (db : Database) : Option TelephonyTerminalResult :=
  db.results.find? fun r => decide (r.immutable.resultPublicId = body.resultPublicId)

/-- The first result of the operation, under a new identifier. -/
def accepted (command : TelephonyCommandJournal) (db : Database) : Bool :=
  (body.prior? db).isNone && body.boundTo operation command &&
    db.results.rows.all fun r => r.operationId ≠ operation.operationId

end

theorem accepted_iff {operation : TelephonyOperationJournal} :
    body.accepted operation command db = true ↔
      body.prior? db = none ∧ body.boundTo operation command = true ∧
      ∃ db', db.insertResult? (body.row operation) = some db' := by
  simp only [accepted, Bool.and_eq_true, isNone_iff_eq_none, List.all_eq_true,
    decide_eq_true_eq, and_assoc]
  refine and_congr_right fun unknown => and_congr_right fun _ => ?_
  constructor
  · intro first
    have free : (db.results.insert? (body.row operation)).isSome := by
      apply insert?_isSome
      rintro old member (same | same)
      · rw [prior?, find?_eq_none_iff] at unknown
        exact of_decide_eq_false (unknown old member) same
      · exact first old member same
    obtain ⟨results, inserted⟩ := isSome_iff_exists.mp free
    exact ⟨_, insertResult?_eq_some.mpr ⟨results, inserted, rfl⟩⟩
  · rintro ⟨db', inserted⟩ old member same
    obtain ⟨_, added, -⟩ := insertResult?_eq_some.mp inserted
    exact insert?_apart added old member (.inr same)

end TerminalResultRequest

def TelephonyTerminalResult.view (r : TelephonyTerminalResult)
    (status : IdempotencyStatus) : Reply :=
  .result {
    resultPublicId := r.immutable.resultPublicId
    operationPublicId := r.immutable.operationPublicId
    commandPublicId := r.immutable.commandPublicId
    applicationStatus := r.immutable.applicationStatus
    readbackStatus := r.immutable.readbackStatus
    reconciliationStatus := r.reconciliationStatus
    correlationId := r.immutable.correlationId
    idempotencyStatus := status }

def OperationProgress.conclude (state : OperationState) (p : OperationProgress) :
    OperationProgress :=
  { p with state := state }

def createTerminalResult (body : TerminalResultRequest) (db : Database) : Outcome :=
  match body.prior? db with
  | some prior =>
    -- The stored body is compared whole, the correlation and the times included.
    if prior.immutable ≠ body then .error (.http 409 "IMMUTABLE_RESULT_BINDING_CONFLICT")
    else .ok (db, prior.view .duplicate)
  | none =>
    match db.operationByPublicId? body.operationPublicId, db.commandByPublicId?
        body.commandPublicId with
    | some operation, some command =>
      if !body.boundTo operation command then .error (.http 409 "terminal result binding mismatch")
      else
        match db.insertResult? (body.row operation) with
        -- A second result of the operation under another identifier.
        | none => .error .integrityError
        | some db' =>
          .ok (db'.updateOperation operation.operationId (.conclude body.operationState),
            (body.row operation).view .new)
    | _, _ => .error (.http 409 "terminal result binding mismatch")

/-- The handlers that write. -/
inductive ApiCall where
  | createCommand (call : CommandCall)
  | cancelCommand (now : Int) (commandPublicId : String)
  | registerOperation (now : Int) (operationId : UUID) (body : OperationRegistration)
  | transitionOperation (now : Int) (operationPublicId : String) (body : OperationTransition)
  | createTerminalResult (body : TerminalResultRequest)

def ApiCall.handle (db : Database) : ApiCall → Outcome
  | .createCommand call => Telephony.createCommand sha256 call db
  | .cancelCommand now commandPublicId => Telephony.cancelCommand now commandPublicId db
  | .registerOperation now operationId body =>
    Telephony.registerOperation sha256 now operationId body db
  | .transitionOperation now operationPublicId body =>
    Telephony.transitionOperation sha256 now operationPublicId body db
  | .createTerminalResult body => Telephony.createTerminalResult body db

/-- What a handler can do to the database, one constructor for each write. -/
inductive Calls (db : Database) : ApiCall → Database → Prop where
  | keeps {call} : Calls db call db
  | creates {call body decision db'} (started : call.start = .ok (body, decision))
      (fresh : stale body db = false)
      (inserted : db.insertCommand? (call.row sha256 body decision) = some db') :
      Calls db (.createCommand call) db'
  | cancels {now commandPublicId row} (found : db.commandByPublicId? commandPublicId = some row)
      (cancellable : row.state.uncancellable = false) :
      Calls db (.cancelCommand now commandPublicId) (db.updateCommand row.commandId (.cancel now))
  | registers {now operationId body command db'}
      (found : db.commandByPublicId? body.commandPublicId = some command)
      (bound : body.boundTo command = true) (unknown : body.prior? sha256 command db = none)
      (inserted : db.insertOperation? (body.row sha256 operationId command) = some db') :
      Calls db (.registerOperation now operationId body)
      (db'.updateCommand command.commandId (.register now))
  | transits {now operationPublicId body row db'}
      (found : db.operationByPublicId? operationPublicId = some row)
      (accepted : body.accepted sha256 row db = true)
      (inserted : db.insertTransition? (body.row row) = some db') :
      Calls db (.transitionOperation now operationPublicId body)
        (db'.updateOperation row.operationId (.transit now body.binding))
  | concludes {body operation command db'}
      (found : db.operationByPublicId? body.operationPublicId = some operation)
      (commanded : db.commandByPublicId? body.commandPublicId = some command)
      (accepted : body.accepted operation command db = true)
      (inserted : db.insertResult? (body.row operation) = some db') :
      Calls db (.createTerminalResult body)
        (db'.updateOperation operation.operationId (.conclude body.operationState))

section Calls

variable (db : Database)

/-- Every branch of the handler is one of the two. -/
theorem createCommand_calls (call : CommandCall) :
    Calls sha256 db (.createCommand call) ((createCommand sha256 call db).database db) := by
  unfold createCommand
  split
  · exact .keeps
  next body decision started =>
    split
    next existing found => cases replay sha256 body existing <;> exact .keeps
    next =>
      split
      · exact .keeps
      next =>
        split
        · exact .keeps
        next fresh =>
          split
          next db' inserted =>
            exact .creates started (by simpa using fresh) inserted
          next => cases recover sha256 body db <;> exact .keeps

theorem cancelCommand_calls (now : Int) (commandPublicId : String) :
    Calls sha256 db (.cancelCommand now commandPublicId)
    ((cancelCommand now commandPublicId db).database db) := by
  unfold cancelCommand
  split
  · exact .keeps
  next row found =>
    split
    · exact .keeps
    next cancellable => exact .cancels found (by simpa using cancellable)

theorem registerOperation_calls (now : Int) (operationId : UUID) (body : OperationRegistration) :
    Calls sha256 db (.registerOperation now operationId body)
      ((registerOperation sha256 now operationId body db).database db) := by
  unfold registerOperation
  split
  · exact .keeps
  next command found =>
    split
    · exact .keeps
    next bound =>
      split
      next prior known =>
        split <;> exact .keeps
      next unknown =>
        split
        · exact .keeps
        next db' inserted => exact .registers found (by simpa using bound) unknown inserted

theorem transitionOperation_calls (now : Int) (operationPublicId : String)
    (body : OperationTransition) : Calls sha256 db (.transitionOperation now operationPublicId body)
      ((transitionOperation sha256 now operationPublicId body db).database db) := by
  unfold transitionOperation
  split
  · exact .keeps
  next row found =>
    split
    · exact .keeps
    next bound =>
      split
      next prior known =>
        split <;> exact .keeps
      next unknown =>
        split
        · exact .keeps
        next next =>
          split
          · exact .keeps
          next allowed =>
            split
            · exact .keeps
            next db' inserted =>
              have accepted := (body.accepted_iff sha256).mpr
                ⟨by simpa using bound, unknown, not_not.mp next, not_not.mp allowed⟩
              exact .transits found accepted inserted

theorem createTerminalResult_calls (body : TerminalResultRequest) :
    Calls sha256 db (.createTerminalResult body) ((createTerminalResult body db).database db) := by
  unfold createTerminalResult
  split
  next prior known =>
    split <;> exact .keeps
  next unknown =>
    split
    next operation command found commanded =>
      split
      · exact .keeps
      next bound =>
        split
        · exact .keeps
        next db' inserted =>
          have accepted := body.accepted_iff.mpr ⟨unknown, by simpa using bound, db', inserted⟩
          exact .concludes found commanded accepted inserted
    · exact .keeps

theorem handle_calls (call : ApiCall) :
    Calls sha256 db call ((call.handle sha256 db).database db) := by
  cases call with
  | createCommand call => exact createCommand_calls sha256 db call
  | cancelCommand now id => exact cancelCommand_calls sha256 db now id
  | registerOperation now id body => exact registerOperation_calls sha256 db now id body
  | transitionOperation now id body => exact transitionOperation_calls sha256 db now id body
  | createTerminalResult body => exact createTerminalResult_calls sha256 db body

end Calls

end CodestraMiddleware.Telephony
