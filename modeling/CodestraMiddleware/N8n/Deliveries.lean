import CodestraMiddleware.N8n.Runtime

/-!
# Deliveries of integration events

The lease operations of `workers/delivery.py` and the bridge of `workers/social_n8n_delivery.py`,
which stages a claimed social delivery as an execution of the runtime.
-/
namespace CodestraMiddleware.N8n

open Relational Constrained PythonValue

variable (rt : Runtime)

namespace Database

variable (db : Database)

def entity (eventId : Nat) : Option String := (db.events.lookup eventId).bind (·.entityKey)

/-- A delivery of an older event of the same entity to the same target; no two entities that are
`NULL` are the same. -/
def Precedes (older d : Delivery) : Prop :=
  older.target = d.target ∧ older.eventId < d.eventId ∧
    (db.entity d.eventId).isSome = true ∧ db.entity older.eventId = db.entity d.eventId

instance (older d : Delivery) : Decidable (db.Precedes older d) :=
  inferInstanceAs (Decidable (_ ∧ _ ∧ _ ∧ _))

def blocked (d : Delivery) : Bool :=
  db.deliveries.rows.any fun older => decide (db.Precedes older d) && !older.status.final

end Database

structure Row where
  id : UUID
  eventId : Nat
  target : String
  attempts : Nat
  deriving DecidableEq

def Delivery.row (d : Delivery) : Row := ⟨d.id, d.eventId, d.target, d.attempts⟩

variable (db : Database)

def eligible (target : String) (now : Int) (d : Delivery) : Bool :=
  decide (d.target = target) && decide (d.status ∈ [.pending, .retryWait]) &&
  (d.availableAt.all fun at_ => decide (at_ ≤ now)) && (db.events.lookup d.eventId).isSome &&
    !db.blocked d

variable (locked : List UUID)

def claimableDeliveries (target : String) (limit : Nat) (now : Int) : List Delivery :=
  taken (·.eventId) (fun d => eligible db target now d && decide (d.id ∉ locked)) limit
    db.deliveries.rows

def Delivery.lease (owner : String) (expires : Int) (d : Delivery) : Delivery :=
  { d with status := .leased, leaseOwner := some owner, leaseExpiresAt := some expires }

theorem Delivery.keys_lease (owner : String) (expires : Int) (d : Delivery) :
    (d.lease owner expires).keys = d.keys := rfl

def claimDeliveries (target owner : String) (limit : Nat) (leaseSeconds now : Int) :
    Database × List Row :=
  let rows := claimableDeliveries db locked target limit now
  let expires := now + timedelta leaseSeconds
  let deliveries := db.deliveries.updateWhere (fun d => decide (d.id ∈ rows.map (·.id)))
    (Delivery.lease owner expires) (fun d _ => d.keys_lease owner expires)
  ({ db with deliveries }, rows.map Delivery.row)

variable (now : Int)

def Delivery.expired (d : Delivery) : Bool :=
  decide (d.status = .leased) && d.leaseExpiresAt.any fun at_ => decide (at_ ≤ now)

def Delivery.release (d : Delivery) : Delivery :=
  { d with status := .retryWait, leaseOwner := none, leaseExpiresAt := none,
           availableAt := some now }

theorem Delivery.keys_release (d : Delivery) : (d.release now).keys = d.keys := rfl

def recoverDeliveries : Database × Nat :=
  let deliveries := db.deliveries.updateWhere (Delivery.expired now) (Delivery.release now)
    (fun d _ => d.keys_release now)
  ({ db with deliveries }, db.deliveries.rows.countP (Delivery.expired now))

def socialRouterCode : String := "CDST_SOCIAL_EVENT_ROUTER"

def socialRouterVersion : String := "1"

def tenant (payload : Dict) : Except Exc String :=
  let value := (payload.getD "tenant_id" (.str "")).toText rt.texts
  if value = "" ∨ value.length > 64 then .error (.valueError "social event tenant is invalid")
  else .ok value

/-- The event of a claimed row, its tenant and its workflow, or the error with
which the delivery ends. -/
def Row.route (row : Row) (db : Database) (registries : List Registry) :
    Except String (IntegrationEvent × String × Registry) :=
  match db.events.lookup row.eventId with
  | none => .error "INVALID_SOCIAL_EVENT"
  | some event =>
    if event.sourceSystem ≠ "social" then .error "INVALID_SOCIAL_EVENT"
    else
      match tenant rt event.payloadJson with
      | .error _ => .error "INVALID_TENANT"
      | .ok tenantId =>
        let registered := registries.find? fun r =>
          decide (r.workflowCode = socialRouterCode) &&
            decide (r.workflowVersion = socialRouterVersion) &&
          r.enabled && decide (event.eventType ∈ r.eventTypes) && decide (tenantId ∈ r.tenantScope)
        match registered with
        | none => .error "SOCIAL_ROUTER_NOT_REGISTERED"
        | some registry => .ok (event, tenantId, registry)

def IntegrationEvent.execution (event : IntegrationEvent) (tenantId : String) (registry : Registry)
    (executionId : UUID) (now : Int) : Execution where
  executionId := executionId
  tenantId := tenantId
  eventId := event.originalEventId
  eventType := event.eventType
  sourceEventId := event.originalEventId
  workflowCode := registry.workflowCode
  workflowVersion := registry.workflowVersion
  n8nExecutionId := none
  correlationId := event.correlationId
  causationId := event.originalEventId
  traceId := String.ofList ((rt.sha256 event.correlationId).toList.take 32)
  idempotencyKeyHash := rt.sha256 event.idempotencyKey
  payloadHash := rt.payloadHash event.payloadJson
  payloadJson := event.payloadJson
  status := .pending
  attemptCount := 0
  nextAttemptAt := none
  timeoutAt := now + timedelta registry.timeoutSeconds
  failureClass := none
  lastErrorCode := none
  createdAt := now
  updatedAt := now
  completedAt := none

def Delivery.refuse (errorCode : String) (d : Delivery) : Delivery :=
  { d with
    status := .deadLetter, lastError := some errorCode, attempts := d.attempts + 1,
    leaseOwner := none,
    leaseExpiresAt := none }

theorem Delivery.keys_refuse (errorCode : String) (d : Delivery) :
    (d.refuse errorCode).keys = d.keys := rfl

def terminalFailure (deliveryId : UUID) (errorCode : String) : Database :=
  { db with
    deliveries := db.deliveries.updateWhere (fun d => decide (d.id = deliveryId))
      (Delivery.refuse errorCode) (fun d _ => d.keys_refuse errorCode) }

/-- The row of a delivery that has just been mapped, with the number of its
attempt, or was before. -/
def Delivery.stage (attempt : Option Nat) (d : Delivery) : Delivery :=
  { d with
    status := .delivering, leaseOwner := none, leaseExpiresAt := none,
    attempts := attempt.getD d.attempts,
    lastError := if attempt.isSome then none else d.lastError }

theorem Delivery.keys_stage (attempt : Option Nat) (d : Delivery) :
    (d.stage attempt).keys = d.keys := rfl

/-- The update goes by the delivery's id alone. -/
def Database.stage (db : Database) (deliveryId : UUID) (attempt : Option Nat) : Database :=
  { db with
    deliveries := db.deliveries.updateWhere (fun d => decide (d.id = deliveryId))
      (Delivery.stage attempt) (fun d _ => d.keys_stage attempt) }

/-- The execution that the delivery is mapped to. -/
def stageClaimedDelivery (row : Row) (registries : List Registry) (executionId : UUID)
    (now : Int) : Except Exc (Database × Option UUID) :=
  match db.mappings.find? row.id with
  | some mapped => .ok (db.stage row.id none, some mapped.executionId)
  | none =>
    match row.route rt db registries with
    | .error errorCode => .ok (terminalFailure db row.id errorCode, none)
    | .ok (event, tenantId, registry) =>
      match db.executions.insert? (event.execution rt tenantId registry executionId now),
          db.mappings.insert? ⟨row.id, executionId⟩ with
      | some executions, some mappings =>
        .ok ({ db.stage row.id (some (row.attempts + 1)) with executions, mappings },
          some executionId)
      | _, _ => .error .integrityError

def Database.ended (deliveryId : UUID) : Option ExecutionStatus :=
  (db.mappings.find? deliveryId).bind fun m =>
    (db.executions.lookup m.executionId).bind fun x => if x.status.terminal then some x.status
      else none

def Delivery.reconcile (d : Delivery) : Delivery := (db.ended d.id).elim d d.settle

theorem Delivery.keys_reconcile (d : Delivery) : (d.reconcile db).keys = d.keys := by
  unfold Delivery.reconcile
  cases db.ended d.id <;> rfl

def reconcileTerminal : Database × Nat :=
  let qualifies (d : Delivery) : Bool :=
    decide (d.status = .delivering) && (db.ended d.id).isSome && decide (d.id ∉ locked)
  let deliveries := db.deliveries.updateWhere qualifies (Delivery.reconcile db)
    (fun d _ => d.keys_reconcile db)
  ({ db with deliveries }, db.deliveries.rows.countP qualifies)

def IntegrationEvent.delivery (event : IntegrationEvent) (id : UUID) (target : String) :
    Delivery where
  id := id
  eventId := event.id
  target := target
  status := .pending
  attempts := 0
  availableAt := none
  leaseOwner := none
  leaseExpiresAt := none
  lastError := none

/-- `INSERT ... ON CONFLICT DO NOTHING`, one delivery after the other. -/
def insertDeliveries (event : IntegrationEvent) (t : Constrained (Shares Delivery.keys)) :
    List (UUID × String) → Constrained (Shares Delivery.keys)
  | [] => t
  | (id, target) :: rest =>
    insertDeliveries event ((t.insert? (event.delivery id target)).getD t) rest

/-- The transaction that records an event together with its deliveries, as the publishers, the
webhook and the polling worker make it. -/
def publish (event : IntegrationEvent) (deliveries : List (UUID × String)) :
    Except Exc (Database × Unit) :=
  match db.events.insert? event with
  | none => .error .integrityError
  | some events =>
    .ok ({ db with events, deliveries := insertDeliveries event db.deliveries deliveries }, ())

end CodestraMiddleware.N8n
