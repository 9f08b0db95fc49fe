import CodestraMiddleware.AiJobs.Schema
import CodestraMiddleware.Foundations.Constrained
import CodestraMiddleware.Foundations.Values

/-!
# Tables of the n8n runtime

Executions, their results and nonces; integration events, their deliveries, and which execution a
social delivery is mapped to. Columns are those that the runtime, its worker and the delivery
workers read, write or return.
-/
namespace CodestraMiddleware.N8n

open Relational Constrained PythonValue

abbrev UUID := AiJobs.UUID

instance : LawfulBEq (UUID × String) := inferInstance

def timedelta (seconds : Int) : Int := seconds * 1000000

inductive ExecutionStatus where
  | pending | dispatching | running | completed | failed | retry | deadLetter | cancelled | timedOut
  deriving DecidableEq

namespace ExecutionStatus

def value : ExecutionStatus → String
  | pending => "PENDING"
  | dispatching => "DISPATCHING"
  | running => "RUNNING"
  | completed => "COMPLETED"
  | failed => "FAILED"
  | retry => "RETRY"
  | deadLetter => "DEAD_LETTER"
  | cancelled => "CANCELLED"
  | timedOut => "TIMED_OUT"

def terminal : ExecutionStatus → Bool
  | completed | failed | deadLetter | cancelled | timedOut => true
  | _ => false

def waiting : ExecutionStatus → Bool
  | pending | retry => true
  | _ => false

end ExecutionStatus

inductive FailureClass where
  | transient | permanent

structure Execution where
  executionId : UUID
  (tenantId eventId eventType sourceEventId workflowCode workflowVersion : String)
  n8nExecutionId : Option String
  (correlationId causationId traceId idempotencyKeyHash payloadHash : String)
  payloadJson : Dict
  status : ExecutionStatus
  attemptCount : Nat
  nextAttemptAt : Option Int
  timeoutAt : Int
  failureClass : Option FailureClass
  lastErrorCode : Option String
  (createdAt updatedAt : Int)
  completedAt : Option Int

/-- The primary key, and `uq_n8n_runtime_idempotency`. The texts of `n8n_execution_id` name the
execution itself, so they are unique as well. -/
def Execution.keys (x : Execution) : UUID × String × String × String × String × String :=
  (x.executionId, x.tenantId, x.eventType, x.sourceEventId, x.workflowVersion, x.idempotencyKeyHash)

structure Registry where
  (workflowCode workflowVersion : String)
  (eventTypes tenantScope : List String)
  enabled : Bool
  timeoutSeconds : Int
  webhookPath : String

structure IntegrationEvent where
  id : Nat
  (idempotencyKey eventType originalEventId : String)
  entityKey : Option String
  (sourceSystem correlationId : String)
  payloadJson : Dict

def IntegrationEvent.keys (e : IntegrationEvent) : Nat × String := (e.id, e.originalEventId)

inductive DeliveryStatus where
  | disabled | pending | leased | delivering | delivered | retryWait | failed
  | deadLetter | canceled
  deriving DecidableEq

namespace DeliveryStatus

/-- The statuses with which an older delivery does not hold up the next one. -/
def final : DeliveryStatus → Bool
  | delivered | canceled | deadLetter => true
  | _ => false

def active : DeliveryStatus → Bool
  | leased | delivering => true
  | _ => false

end DeliveryStatus

structure Delivery where
  id : UUID
  eventId : Nat
  target : String
  status : DeliveryStatus
  attempts : Nat
  availableAt : Option Int
  leaseOwner : Option String
  leaseExpiresAt : Option Int
  lastError : Option String

/-- The primary key, and `uq_delivery_event_target`. -/
def Delivery.keys (d : Delivery) : UUID × Nat × String := (d.id, d.eventId, d.target)

structure Mapping where
  (deliveryId executionId : UUID)

structure Database where
  executions : Constrained (Shares Execution.keys)
  /-- `(execution_id, result_hash)` of the results. -/
  results : List (UUID × String)
  /-- `(identity, nonce)` of the nonces. -/
  nonces : List (String × String)
  events : Constrained (Shares IntegrationEvent.keys)
  deliveries : Constrained (Shares Delivery.keys)
  mappings : Table Mapping.deliveryId

namespace Database

def empty : Database where
  executions := .empty _
  results := []
  nonces := []
  events := .empty _
  deliveries := .empty _
  mappings := .empty _

end Database

end CodestraMiddleware.N8n
