import CodestraMiddleware.Foundations.Constrained
import Mathlib.Algebra.Ring.Int.Defs

/-!
# Tables of the telephony command journal

The columns of migration 0027 that the command API and the command worker read, write or return,
with the unique constraints of the four journal tables.
-/
namespace CodestraMiddleware.Telephony

open Relational

abbrev UUID := BitVec 128

def seconds (n : Nat) : Int := n * 1000000

inductive Environment where
  | staging | test | production
  deriving DecidableEq

inductive TargetSystem where
  | asterisk | vicidial
  deriving DecidableEq

inductive TelephonyCommandType where
  | userApply | userDisable | phoneApply | phoneDisable | endpointApply | endpointDisable
  | contactRevoke | contactsRevokeAll | targetReconcile | agentReconcile | campaignReconcile

/-- `TelephonyCommandState`, and the state `CANCELLED` that `cancel_command` writes beside it. -/
inductive TelephonyCommandState where
  | received | validating | validated | policyPending | policyDenied | policyApproved | journaled
  | routeResolved | targetAttested | authorized | dispatching | dispatched | operationRegistered
  | applying | applied | submitting | submitted | readbackPending | readbackVerified
  | odooResultPending | odooResultDelivered | reconciled | succeeded | reconciliationRequired
  | failedTransient | failedPermanent
  | cancelled
  deriving DecidableEq

/-- The states that the operation API, the result API and the worker write to an operation. -/
inductive OperationState where
  | registered | applying | applied | readbackPending | readbackVerified | readbackMismatch
  | succeeded | failed | compensationRequired | compensated
  | submitted | ambiguous | odooResultPending | reconciliationRequired
  deriving DecidableEq

/-- A `datetime` field: its JSON text, the instant it denotes, and whether it has a time zone. -/
structure Timestamp where
  text : String
  instant : Int
  aware : Bool
  deriving DecidableEq

inductive DesiredState where
  | disabled | enabled

structure TelephonyCommandPayload where
  (endpointPublicId sourceEndpointPublicId destinationEndpointPublicId agentPublicId :
    Option String)
  (phonePublicId callPublicId contactId : Option String)
  allocationReservationId : String
  desiredStateVersion : Nat
  state : DesiredState
  maximumDurationSeconds : Option Nat
  purpose : Option String
  reservationGeneration : Option Nat
  (reservationHash desiredStateHash contextKey : Option String)
  (externalRouteAllowed transferAllowed : Bool)

structure TelephonyCommandRequest where
  (commandPublicId originatingOutboxPublicId eventId : Option String)
  commandType : TelephonyCommandType
  (aggregateType aggregatePublicId : String)
  aggregateVersion : Nat
  environment : Environment
  (organizationPublicId businessUnitPublicId campaignPublicId idempotencyKey correlationId : String)
  causationId : String
  policyDecisionId : Option String
  policyDecisionHash : String
  (requestedAt expiresAt : Option Timestamp)
  payload : TelephonyCommandPayload

/-- The columns of `telephony_command_journal` that are written once; `request_json` and
`payload_json` hold the request. -/
structure CommandSpec where
  commandId : UUID
  commandPublicId : String
  commandType : TelephonyCommandType
  (aggregateType aggregatePublicId : String)
  aggregateVersion : Nat
  environment : Environment
  (idempotencyHash requestHash correlationId policyDecisionHash : String)
  request : TelephonyCommandRequest
  createdAt : Int

structure CommandProgress where
  state : TelephonyCommandState
  attemptCount : Nat
  nextAttemptAt : Option Int
  leaseOwner : Option String
  updatedAt : Int

structure TelephonyCommandJournal extends CommandSpec, CommandProgress

def CommandSpec.aggregate (r : CommandSpec) : Environment × String × String :=
  (r.environment, r.aggregateType, r.aggregatePublicId)

/-- The primary key, the two unique columns and `uq_telephony_command_aggregate_version`. -/
def CommandSpec.Clash (r r' : CommandSpec) : Prop :=
  r.commandId = r'.commandId ∨ r.commandPublicId = r'.commandPublicId ∨
    r.idempotencyHash = r'.idempotencyHash ∨
    r.aggregate = r'.aggregate ∧ r.aggregateVersion = r'.aggregateVersion

instance : DecidableRel CommandSpec.Clash :=
  fun _ _ => inferInstanceAs (Decidable (_ ∨ _ ∨ _ ∨ _ ∧ _))

theorem CommandSpec.Clash.symm {r : CommandSpec} (clash : r.Clash r') : r'.Clash r := by
  rcases clash with same | same | same | same <;> simp [CommandSpec.Clash, same]

def TelephonyCommandJournal.Clash (r r' : TelephonyCommandJournal) : Prop :=
  r.toCommandSpec.Clash r'.toCommandSpec

instance : DecidableRel TelephonyCommandJournal.Clash := fun r r' =>
  inferInstanceAs (Decidable (r.toCommandSpec.Clash r'.toCommandSpec))

structure OperationSpec where
  operationId : UUID
  operationPublicId : String
  commandId : UUID
  (adapterServiceKey adapterOperationId : String)
  targetSystem : TargetSystem
  (targetResourceType targetPublicId : String)
  desiredStateVersion : Nat
  (idempotencyHash endpointKey readbackEndpointKey targetConfigurationChecksum : String)
  targetAttested : Bool
  (desiredHash correlationId : String)

structure OperationProgress where
  state : OperationState
  transitionSequence : Nat
  actualHash : Option String
  readbackMatches : Option Bool
  response : String
  completedAt : Option Int

structure TelephonyOperationJournal extends OperationSpec, OperationProgress

/-- The primary key and the three unique columns. -/
def OperationSpec.Clash (o o' : OperationSpec) : Prop :=
  o.operationId = o'.operationId ∨ o.operationPublicId = o'.operationPublicId ∨
    o.idempotencyHash = o'.idempotencyHash ∨ o.commandId = o'.commandId

instance : DecidableRel OperationSpec.Clash :=
  fun _ _ => inferInstanceAs (Decidable (_ ∨ _ ∨ _ ∨ _))

theorem OperationSpec.Clash.symm {o : OperationSpec} (clash : o.Clash o') : o'.Clash o := by
  rcases clash with same | same | same | same <;> simp [OperationSpec.Clash, same]

def TelephonyOperationJournal.Clash (o o' : TelephonyOperationJournal) : Prop :=
  o.toOperationSpec.Clash o'.toOperationSpec

instance : DecidableRel TelephonyOperationJournal.Clash := fun o o' =>
  inferInstanceAs (Decidable (o.toOperationSpec.Clash o'.toOperationSpec))

inductive TransitionState where
  | registered | applying | applied | readbackPending | readbackVerified | readbackMismatch
  | succeeded | failed | compensationRequired | compensated
  deriving DecidableEq

def TransitionState.operation : TransitionState → OperationState
  | .registered => .registered
  | .applying => .applying
  | .applied => .applied
  | .readbackPending => .readbackPending
  | .readbackVerified => .readbackVerified
  | .readbackMismatch => .readbackMismatch
  | .succeeded => .succeeded
  | .failed => .failed
  | .compensationRequired => .compensationRequired
  | .compensated => .compensated

structure TransitionBinding where
  commandPublicId : String
  state : TransitionState
  targetSystem : TargetSystem
  (targetResourceType targetPublicId : String)
  desiredStateVersion : Nat
  adapterServiceKey : String
  environment : Environment
  correlationId : String
  transitionSequence : Nat
  occurredAt : Timestamp
  deriving DecidableEq

structure TelephonyOperationTransition where
  (operationId commandId : UUID)
  sequence : Nat
  (fromState toState : OperationState)
  transitionHash : String
  binding : TransitionBinding

/-- `uq_telephony_transition_sequence` and `uq_telephony_transition_hash`. -/
def TelephonyOperationTransition.Clash (t t' : TelephonyOperationTransition) : Prop :=
  t.operationId = t'.operationId ∧ (t.sequence = t'.sequence ∨ t.transitionHash = t'.transitionHash)

instance : DecidableRel TelephonyOperationTransition.Clash :=
  fun _ _ => inferInstanceAs (Decidable (_ ∧ (_ ∨ _)))

theorem TelephonyOperationTransition.Clash.symm {t : TelephonyOperationTransition}
    (clash : t.Clash t') : t'.Clash t :=
  ⟨clash.1.symm, clash.2.imp Eq.symm Eq.symm⟩

inductive ApplicationStatus where
  | applied | failed | stale
  deriving DecidableEq

inductive ReadbackStatus where
  | readbackVerified | readbackMismatch | failed
  deriving DecidableEq

inductive ReconciliationStatus where
  | inSync | reconciliationRequired

structure TerminalResultRequest where
  (resultPublicId operationPublicId commandPublicId : String)
  targetSystem : TargetSystem
  (targetResourceType targetPublicId : String)
  applicationStatus : ApplicationStatus
  readbackStatus : ReadbackStatus
  (requestedStateVersion appliedStateVersion observedStateVersion : Nat)
  (resultHash applicationHash readbackHash adapterServiceKey adapterConfigurationChecksum : String)
  (appliedAt readbackAt : Timestamp)
  (safeSummary policyHash correlationId : String)
  deriving DecidableEq

/-- A row of `telephony_terminal_result`; `immutable_json` holds the request, from which the
other columns are copied. -/
structure TelephonyTerminalResult where
  (operationId commandId : UUID)
  reconciliationStatus : ReconciliationStatus
  immutable : TerminalResultRequest

/-- The unique columns `result_public_id` and `operation_id`. -/
def TelephonyTerminalResult.Clash (r r' : TelephonyTerminalResult) : Prop :=
  r.immutable.resultPublicId = r'.immutable.resultPublicId ∨ r.operationId = r'.operationId

instance : DecidableRel TelephonyTerminalResult.Clash :=
  fun _ _ => inferInstanceAs (Decidable (_ ∨ _))

structure Database where
  commands : Constrained TelephonyCommandJournal.Clash
  operations : Constrained TelephonyOperationJournal.Clash
  transitions : Constrained TelephonyOperationTransition.Clash
  results : Constrained TelephonyTerminalResult.Clash

def Database.empty : Database := ⟨.empty _, .empty _, .empty _, .empty _⟩

section

variable (id : UUID) (change : CommandProgress → CommandProgress) (r : TelephonyCommandJournal)

def TelephonyCommandJournal.advance : TelephonyCommandJournal :=
  if r.commandId = id then { r with toCommandProgress := change r.toCommandProgress } else r

@[simp] theorem TelephonyCommandJournal.advance_spec :
    (r.advance id change).toCommandSpec = r.toCommandSpec := by
  unfold advance
  split <;> rfl

end

section

variable (id : UUID) (change : OperationProgress → OperationProgress)
  (o : TelephonyOperationJournal)

def TelephonyOperationJournal.advance : TelephonyOperationJournal :=
  if o.operationId = id then { o with toOperationProgress := change o.toOperationProgress } else o

@[simp] theorem TelephonyOperationJournal.advance_spec :
    (o.advance id change).toOperationSpec = o.toOperationSpec := by
  unfold advance
  split <;> rfl

end

variable {r : TelephonyCommandJournal} {o : TelephonyOperationJournal}

namespace Database

section

variable (db : Database)

def command? (id : UUID) : Option TelephonyCommandJournal :=
  db.commands.find? fun r => decide (r.commandId = id)

def commandByPublicId? (publicId : String) : Option TelephonyCommandJournal :=
  db.commands.find? fun r => decide (r.commandPublicId = publicId)

def operation? (commandId : UUID) : Option TelephonyOperationJournal :=
  db.operations.find? fun o => decide (o.commandId = commandId)

def operationByPublicId? (publicId : String) : Option TelephonyOperationJournal :=
  db.operations.find? fun o => decide (o.operationPublicId = publicId)

def updateCommand (id : UUID) (change : CommandProgress → CommandProgress) : Database where
  commands := db.commands.update (TelephonyCommandJournal.advance id change) (by
    intro r r' clash
    rwa [TelephonyCommandJournal.Clash, TelephonyCommandJournal.advance_spec,
      TelephonyCommandJournal.advance_spec] at clash)
  operations := db.operations
  transitions := db.transitions
  results := db.results

def updateOperation (id : UUID) (change : OperationProgress → OperationProgress) : Database where
  commands := db.commands
  operations := db.operations.update (TelephonyOperationJournal.advance id change) (by
    intro o o' clash
    rwa [TelephonyOperationJournal.Clash, TelephonyOperationJournal.advance_spec,
      TelephonyOperationJournal.advance_spec] at clash)
  transitions := db.transitions
  results := db.results

def insertCommand? (r : TelephonyCommandJournal) : Option Database :=
  (db.commands.insert? r).map fun commands => { db with commands := commands }

def insertOperation? (o : TelephonyOperationJournal) : Option Database :=
  (db.operations.insert? o).map fun operations => { db with operations := operations }

def insertTransition? (t : TelephonyOperationTransition) : Option Database :=
  (db.transitions.insert? t).map fun transitions => { db with transitions := transitions }

def insertResult? (r : TelephonyTerminalResult) : Option Database :=
  (db.results.insert? r).map fun results => { db with results := results }

end

section Rows

variable (db : Database)

theorem command?_eq_some {id : UUID} : db.command? id = some r ↔ r ∈ db.commands.rows ∧
    r.commandId = id := by
  rw [command?, db.commands.find?_eq_some_iff fun r r' clash => CommandSpec.Clash.symm clash]
  · simp
  · intro r r' first second
    exact .inl ((of_decide_eq_true first).trans (of_decide_eq_true second).symm)

theorem commandByPublicId?_mem (found : db.commandByPublicId? publicId = some r) :
    r ∈ db.commands.rows :=
  (Constrained.find?_mem found).1

theorem operation?_eq_some {id : UUID} : db.operation? id = some o ↔ o ∈ db.operations.rows ∧
    o.commandId = id := by
  rw [operation?, db.operations.find?_eq_some_iff fun o o' clash => OperationSpec.Clash.symm clash]
  · simp
  · intro o o' first second
    exact .inr (.inr (.inr ((of_decide_eq_true first).trans (of_decide_eq_true second).symm)))

theorem command_eq (member : r ∈ db.commands.rows)
    (member' : r' ∈ db.commands.rows) (same : r.commandId = r'.commandId) : r = r' :=
  db.commands.eq_of_clash (fun _ _ clash => CommandSpec.Clash.symm clash) member member' (.inl same)

theorem operation_eq (member : o ∈ db.operations.rows)
    (member' : o' ∈ db.operations.rows) (same : o.commandId = o'.commandId) : o = o' :=
  db.operations.eq_of_clash (fun _ _ clash => OperationSpec.Clash.symm clash) member member'
    (.inr (.inr (.inr same)))

variable (id : UUID)

@[simp] theorem rows_updateCommand (change : CommandProgress → CommandProgress) :
    (db.updateCommand id change).commands.rows = db.commands.rows.map (·.advance id change) := rfl

theorem mem_updateCommand (member : r' ∈ (db.updateCommand id change).commands.rows) :
    (r' ∈ db.commands.rows ∧ r'.commandId ≠ id) ∨ ∃ r ∈ db.commands.rows, r.commandId = id ∧
      r' = { r with toCommandProgress := change r.toCommandProgress } := by
  obtain ⟨r, old, rfl⟩ := List.mem_map.mp member
  unfold TelephonyCommandJournal.advance
  split
  next same => exact .inr ⟨r, old, same, rfl⟩
  next other => exact .inl ⟨old, other⟩

theorem updateCommand_mem (member : r ∈ db.commands.rows) :
    { r with toCommandProgress := change r.toCommandProgress } ∈
    (db.updateCommand r.commandId change).commands.rows :=
  List.mem_map.mpr ⟨r, member, if_pos rfl⟩

@[simp] theorem operation?_updateCommand (change : CommandProgress → CommandProgress)
    (commandId : UUID) : (db.updateCommand id change).operation? commandId = db.operation?
    commandId := rfl

@[simp] theorem rows_updateOperation (change : OperationProgress → OperationProgress) :
    (db.updateOperation id change).operations.rows = db.operations.rows.map (·.advance id change) :=
  rfl

variable {db} {db' : Database}

theorem insertCommand?_eq_some : db.insertCommand? r = some db' ↔
      ∃ commands, db.commands.insert? r = some commands ∧
      db' = { db with commands := commands } := by
  simp [insertCommand?, @eq_comm _ db']

theorem insertOperation?_eq_some : db.insertOperation? o = some db' ↔ ∃ operations,
      db.operations.insert? o = some operations ∧ db' = { db with operations := operations } := by
  simp [insertOperation?, @eq_comm _ db']

theorem insertTransition?_eq_some : db.insertTransition? t = some db' ↔ ∃ transitions,
      db.transitions.insert? t = some transitions ∧
      db' = { db with transitions := transitions } := by
  simp [insertTransition?, @eq_comm _ db']

theorem insertResult?_eq_some {r : TelephonyTerminalResult} : db.insertResult? r = some db' ↔
      ∃ results, db.results.insert? r = some results ∧ db' = { db with results := results } := by
  simp [insertResult?, @eq_comm _ db']

theorem operation?_insertOperation? (inserted : db.insertOperation? o = some db') :
    db'.operation? o.commandId = some o := by
  obtain ⟨_, added, rfl⟩ := insertOperation?_eq_some.mp inserted
  rw [operation?_eq_some, Constrained.rows_insert? added]
  exact ⟨List.mem_append_right _ (List.mem_singleton_self o), rfl⟩

end Rows

end Database

end CodestraMiddleware.Telephony
