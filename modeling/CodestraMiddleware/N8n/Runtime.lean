import CodestraMiddleware.N8n.Schema

/-!
# The n8n runtime

The routes `dispatch` and `result_callback` of `api/v1/n8n_runtime.py` and the dispatcher of
`workers/n8n_runtime.py`. Each of them is one transaction; the row of an execution stays locked from
the read to the commit, also while `dispatch_one` waits for n8n. An exception rolls the transaction
back.
-/
namespace CodestraMiddleware.N8n

open Relational Constrained PythonValue

inductive Exc where
  | valueError (message : String)
  | httpException (status : Nat) (detail : String)
  | integrityError
  /-- Any other exception, and the end of the process. -/
  | aborted

/-- `urlsplit(settings.n8n_runtime_base_url)`. -/
structure Url where
  scheme : String
  (hostname username password : Option String)
  (query fragment : String)

structure TestSyn where
  resultDeliveryEnabled : Bool
  (environment tenantId workflowCode workflowVersion eventType eventId correlationId : String)
  (organizationPublicId businessUnitPublicId campaignPublicId outboxPublicId : String)

inductive ResultStatus where
  | running | completed | failed | retry | deadLetter
  deriving DecidableEq

def ResultStatus.mapped : ResultStatus → ExecutionStatus
  | running => .running
  | completed => .completed
  | failed => .failed
  | retry => .retry
  | deadLetter => .deadLetter

structure ResultContract where
  (workflowCode workflowVersion executionId correlationId tenantId : String)
  status : ResultStatus
  occurredAt : Int
  result : Dict
  errorCode : Option String

structure Runtime where
  n8nRuntimeEnabled : Bool
  n8nRuntimeMaxAttempts : Int
  (n8nRuntimeEnvironment n8nRuntimeBaseUrl : String)
  target : Url
  testSyn : TestSyn
  sha256 : String → String
  /-- `sha256(canonical_bytes(payload))`. -/
  payloadHash : Dict → String
  /-- `sha256(canonical_bytes(body))`. -/
  resultHash : ResultContract → String
  texts : Value.Texts

variable (rt : Runtime)

structure DispatchRequest where
  (tenantId eventId eventType sourceEventId correlationId causationId traceId idempotencyKey :
    String)
  payload : Dict

section

variable (body : DispatchRequest)

def DispatchRequest.approved (registries : List Registry) : Option Registry :=
  registries.find? fun r =>
    r.enabled && decide (body.eventType ∈ r.eventTypes) && decide (body.tenantId ∈ r.tenantScope)

def DispatchRequest.existing (registry : Registry) (db : Database) : Option Execution :=
  db.executions.find? fun x =>
    decide (x.keys.2 = (body.tenantId, body.eventType, body.sourceEventId, registry.workflowVersion,
      rt.sha256 body.idempotencyKey))

def DispatchRequest.execution (registry : Registry) (executionId : UUID) (now : Int) :
    Execution where
  executionId := executionId
  tenantId := body.tenantId
  eventId := body.eventId
  eventType := body.eventType
  sourceEventId := body.sourceEventId
  workflowCode := registry.workflowCode
  workflowVersion := registry.workflowVersion
  n8nExecutionId := none
  correlationId := body.correlationId
  causationId := body.causationId
  traceId := body.traceId
  idempotencyKeyHash := rt.sha256 body.idempotencyKey
  payloadHash := rt.payloadHash body.payload
  payloadJson := body.payload
  status := .pending
  attemptCount := 0
  nextAttemptAt := none
  timeoutAt := now + timedelta registry.timeoutSeconds
  failureClass := none
  lastErrorCode := none
  createdAt := now
  updatedAt := now
  completedAt := none

end

def dispatch (db : Database) (body : DispatchRequest) (registries : List Registry)
    (executionId : UUID) (now : Int) : Except Exc (Database × Execution × Bool) :=
  if rt.n8nRuntimeEnabled = false then
    .error (.httpException 503 "governed n8n runtime is disabled")
  else
    match body.approved registries with
    | none => .error (.httpException 403 "no approved workflow mapping")
    | some registry =>
      match body.existing rt registry db with
      | some existing =>
        if existing.payloadHash ≠ rt.payloadHash body.payload then
          .error (.httpException 409 "workflow payload conflict")
        else .ok (db, existing, true)
      | none =>
        let execution := body.execution rt registry executionId now
        match db.executions.insert? execution with
        | none => .error .integrityError
        | some executions => .ok ({ db with executions }, execution, false)

variable (now : Int)

def Execution.due (x : Execution) : Bool :=
  x.status.waiting && x.nextAttemptAt.all fun at_ => decide (at_ ≤ now)

def Execution.claimed (x : Execution) : Execution :=
  if x.timeoutAt ≤ now then { x with status := .timedOut, completedAt := some now }
  else { x with status := .dispatching, attemptCount := x.attemptCount + 1, updatedAt := now }

theorem Execution.keys_claimed (x : Execution) : (x.claimed now).keys = x.keys := by
  unfold Execution.claimed
  split <;> rfl

def claimable (db : Database) (locked : List UUID) (limit : Int) (now : Int) : List Execution :=
  taken (·.createdAt) (fun x => x.due now && decide (x.executionId ∉ locked)) limit.toNat
    db.executions.rows

def claim (db : Database) (locked : List UUID) (limit : Int) (now : Int) :
    Except Exc (Database × List Execution) :=
  if limit < 1 ∨ limit > 25 then .error (.valueError "claim limit is outside bounds")
  else
    let rows := claimable db locked limit now
    let executions := db.executions.updateWhere
      (fun x => decide (x.executionId ∈ rows.map (·.executionId))) (Execution.claimed now)
      (fun x _ => x.keys_claimed now)
    .ok ({ db with executions }, (rows.map (Execution.claimed now)).filter fun x =>
      decide (x.status = .dispatching))

def Execution.stale (leaseSeconds now : Int) (x : Execution) : Bool :=
  decide (x.status = .dispatching) && decide (x.updatedAt ≤ now - timedelta leaseSeconds)

def Execution.recover (x : Execution) : Execution :=
  { x with
    status := .retry, nextAttemptAt := some now, failureClass := some .transient,
    lastErrorCode := some "STALE_DISPATCH_LEASE", updatedAt := now }

theorem Execution.keys_recover (x : Execution) : (x.recover now).keys = x.keys := rfl

def recoverStaleDispatches (db : Database) (leaseSeconds now : Int) : Except Exc (Database × Nat) :=
  if leaseSeconds < 10 ∨ leaseSeconds > 600 then
    .error (.valueError "dispatch lease is outside bounds")
  else
    let executions := db.executions.updateWhere (Execution.stale leaseSeconds now)
      (Execution.recover now)
      (fun x _ => x.keys_recover now)
    .ok ({ db with executions }, db.executions.rows.countP (Execution.stale leaseSeconds now))

def Execution.overdue (x : Execution) : Bool :=
  decide (x.status = .running) && decide (x.timeoutAt ≤ now)

def Execution.expire (x : Execution) : Execution :=
  { x with
    status := .timedOut, failureClass := some .permanent, lastErrorCode := some "WORKFLOW_TIMEOUT",
    completedAt := some now, updatedAt := now }

theorem Execution.keys_expire (x : Execution) : (x.expire now).keys = x.keys := rfl

def expireRunning (db : Database) (now : Int) : Database × Nat :=
  let executions := db.executions.updateWhere (Execution.overdue now) (Execution.expire now)
    (fun x _ => x.keys_expire now)
  ({ db with executions }, db.executions.rows.countP (Execution.overdue now))

def retryDelay (attempt draw : Nat) : Except Exc Nat :=
  if attempt < 1 then .error (.valueError "attempt must be positive")
  else .ok (min draw (min 60 (2 ^ (attempt - 1)) * 1000000))

def retryable (statusCode : Nat) : Bool := decide (statusCode ∈ [408, 429, 502, 503, 504])

namespace Runtime

def maxAttempts : Int := min rt.n8nRuntimeMaxAttempts 8

def targetIsAllowed : Bool :=
  let given (part : Option String) : Bool := part.any fun text => decide (text ≠ "")
  let approvedStagingHosts := ["webhook", "n8n-webhook-staging", "n8n-runtime-test-double"]
  ((decide (rt.target.scheme = "https") && given rt.target.hostname) ||
    (decide (rt.n8nRuntimeEnvironment = "staging") && decide (rt.target.scheme = "http") &&
      rt.target.hostname.any fun host => decide (host ∈ approvedStagingHosts))) &&
  !(given rt.target.username || given rt.target.password || decide (rt.target.query ≠ "") ||
    decide (rt.target.fragment ≠ ""))

end Runtime

namespace Execution

section

variable (errorCode : String) (canRetry : Bool) (delay : Nat) (now : Int) (x : Execution)

def fail : Execution :=
  let x := { x with
    failureClass := some (if canRetry then .transient else .permanent),
             lastErrorCode := some errorCode,
    updatedAt := now }
  if canRetry = true ∧ (x.attemptCount : Int) < rt.maxAttempts then
    { x with status := .retry, nextAttemptAt := some (now + delay) }
  else { x with status := .deadLetter, completedAt := some now }

theorem keys_fail :
    (x.fail rt errorCode canRetry delay now).keys = x.keys := by
  unfold fail
  simp only
  split <;> rfl

end

structure Post where
  url : String
  envelope : Value

def post (registries : List Registry) (x : Execution) : Except String Post :=
  let registered := registries.find? fun r =>
    decide (r.workflowCode = x.workflowCode) &&
      decide (r.workflowVersion = x.workflowVersion) && r.enabled
  match registered with
  | none => .error "REGISTRY_DENIED"
  | some registry =>
    if x.tenantId ∉ registry.tenantScope then .error "REGISTRY_DENIED"
    else if rt.targetIsAllowed = false then .error "TARGET_NOT_PRIVATE_HTTPS"
    else
      let base := (rt.n8nRuntimeBaseUrl.toList.reverse.dropWhile (· == '/')).reverse
      .ok {
        url := String.ofList base ++ registry.webhookPath
        envelope := .dict [
          ("schema_version", .str "codestra.n8n.execution.v1"),
          ("execution_id", .str x.executionId.text),
          ("tenant_id", .str x.tenantId),
          ("event_id", .str x.eventId),
          ("event_type", .str x.eventType),
          ("workflow_code", .str x.workflowCode),
          ("workflow_version", .str x.workflowVersion),
          ("correlation_id", .str x.correlationId),
          ("causation_id", .str x.causationId),
          ("trace_id", .str x.traceId),
          ("payload", x.payloadJson.value)] }

end Execution

/-- How a request to n8n ends, unless the dispatcher ends before. -/
inductive Answer where
  | httpError
  | response (statusCode : Nat) (isRedirect : Bool)

/-- `_fail`, which draws a delay only if there is to be another attempt. -/
def Execution.failed (errorCode : String) (canRetry : Bool) (draw : Nat) (now : Int)
    (x : Execution) : Except Exc (Execution × Bool) :=
  if canRetry = true ∧ (x.attemptCount : Int) < rt.maxAttempts then do
    let delay ← retryDelay x.attemptCount draw
    return (x.fail rt errorCode canRetry delay now, false)
  else return (x.fail rt errorCode canRetry 0 now, false)

/-- What `dispatch_one` makes of the row that it has locked, and whether the
execution was submitted. -/
def Execution.dispatched (registries : List Registry) (answer : Option Answer)
    (draw : Nat) (now : Int) (x : Execution) : Except Exc (Execution × Bool) :=
  match x.post rt registries with
  | .error errorCode => x.failed rt errorCode false draw now
  | .ok _ =>
    match answer with
    | none => .error .aborted
    | some .httpError => x.failed rt "NETWORK_INTERRUPTION" true draw now
    | some (.response statusCode isRedirect) =>
      if (statusCode ≠ 200 ∧ statusCode ≠ 202) ∨ isRedirect = true then
        x.failed rt ("HTTP_" ++ toString statusCode) (retryable statusCode) draw now
      else
        .ok ({ x with
          status := .running, failureClass := none, lastErrorCode := none, nextAttemptAt := none,
          updatedAt := now }, true)

variable (db : Database)

section

variable (executionId : UUID)

def dispatchOne (registries : List Registry) (answer : Option Answer) (draw : Nat) (now : Int) :
    Except Exc (Database × Bool) :=
  match db.executions.lookup executionId with
  | none => .ok (db, false)
  | some x =>
    if x.status ≠ .dispatching then .ok (db, false)
    else do
      let (x, submitted) ← x.dispatched rt registries answer draw now
      return ({ db with executions := db.executions.save x }, submitted)

def posted (registries : List Registry) : Option Execution.Post :=
  match db.executions.lookup executionId with
  | none => none
  | some x => if x.status ≠ .dispatching then none else (x.post rt registries).toOption

/-- A request to `result_callback`: its headers, and what verification of the signature and parsing
of the body and of the execution's id give. -/
structure Callback where
  (identity tenant workflow execution correlationId nonce : String)
  verified : Option (UUID × ResultContract)

def Callback.binds (q : Callback) (body : ResultContract) (x : Execution) : Bool :=
  decide (x.tenantId = q.tenant) && decide (x.workflowCode = q.workflow) &&
  decide (x.correlationId = q.correlationId) && decide (body.tenantId = x.tenantId) &&
  decide (body.workflowCode = x.workflowCode) &&
    decide (body.workflowVersion = x.workflowVersion) &&
  decide (body.executionId = x.executionId.text) && decide (body.correlationId = x.correlationId)

def Runtime.isTestSynOdooExecution (x : Execution) : Bool :=
  rt.testSyn.resultDeliveryEnabled && decide (rt.testSyn.environment = "staging") &&
  decide (x.tenantId = rt.testSyn.tenantId) && decide (x.workflowCode = rt.testSyn.workflowCode) &&
  decide (x.workflowVersion = rt.testSyn.workflowVersion) &&
    decide (x.eventType = rt.testSyn.eventType) &&
  decide (x.eventId = rt.testSyn.eventId) && decide (x.correlationId = rt.testSyn.correlationId)

/-- `approved_runtime_binding` with a result: the four public ids. -/
def Runtime.approvedRuntimeBinding (x : Execution) (body : ResultContract) : Option (List String) :=
  let binding := [rt.testSyn.organizationPublicId, rt.testSyn.businessUnitPublicId,
    rt.testSyn.campaignPublicId, rt.testSyn.outboxPublicId]
  if rt.isTestSynOdooExecution x = false then none
  else if (x.payloadJson.getD "synthetic" .null).isTrue = false then none
  else if binding.any fun value => decide (value = "") || decide (128 < value.length) then none
  else if body.status ≠ .completed then none
  else if (body.result.keys.all fun key => decide (key ∈ ["synthetic", "event_id"])) =
    false then none
  else if (body.result.getD "synthetic" .null).isTrue = false then none
  else if (body.result.getD "event_id" .null).text? ≠ some x.eventId then none
  else some binding

def Execution.report (q : Callback) (body : ResultContract) (now : Int) (x : Execution) :
    Execution :=
  { x with
    status := body.status.mapped
    n8nExecutionId := some ((x.n8nExecutionId.filter fun text => decide (text ≠ "")).getD
      q.execution)
    updatedAt := now
    completedAt := if body.status.mapped ∈ [.completed, .failed, .deadLetter] then some now
      else x.completedAt }

def Database.mappedDelivery : Option UUID :=
  (db.mappings.rows.find? fun m => decide (m.executionId = executionId)).map (·.deliveryId)

def ExecutionStatus.delivery : ExecutionStatus → DeliveryStatus
  | .completed => .delivered
  | _ => .deadLetter

def Delivery.settle (status : ExecutionStatus) (d : Delivery) : Delivery :=
  { d with
    status := status.delivery,
    lastError := if status = .completed then none else some ("N8N_" ++ status.value),
    leaseOwner := none, leaseExpiresAt := none }

theorem Delivery.keys_settle (status : ExecutionStatus) (d : Delivery) :
    (d.settle status).keys = d.keys :=
  rfl

def Database.settled (mapped : ExecutionStatus) : Constrained (Shares Delivery.keys) :=
  match db.mappedDelivery executionId with
  | none => db.deliveries
  | some deliveryId =>
    if mapped ∈ [.completed, .failed, .deadLetter] then
      db.deliveries.updateWhere (fun d => decide (d.id = deliveryId) &&
        decide (d.status = .delivering)) (Delivery.settle mapped) (fun d _ => d.keys_settle mapped)
    else db.deliveries

end

/-- The execution that the result is for, where all checks before the first write pass. -/
def Callback.admitted (q : Callback) (db : Database) : Except Exc (Execution × ResultContract) :=
  match q.verified with
  | none => .error (.httpException 401 "invalid n8n result authentication or contract")
  | some (executionId, body) =>
    match db.executions.lookup executionId with
    | none => .error (.httpException 409 "n8n result binding mismatch")
    | some x =>
      if q.binds body x = false then .error (.httpException 409 "n8n result binding mismatch")
      else if (q.identity, q.nonce) ∈ db.nonces then
        .error (.httpException 409 "replayed n8n result")
      else .ok (x, body)

def resultCallback (q : Callback) (now : Int) : Except Exc (Database × Option ExecutionStatus) := do
  let (x, body) ← q.admitted db
  let nonces := (q.identity, q.nonce) :: db.nonces
  if (x.executionId, rt.resultHash body) ∈ db.results then
    return ({ db with nonces }, none)
  else if rt.isTestSynOdooExecution x = true ∧ rt.approvedRuntimeBinding x body = none then
    .error (.httpException 422 "unapproved TEST_SYN result contract")
  else
    let mapped := body.status.mapped
    return ({ db with
      nonces, executions := db.executions.save (x.report q body now),
      results := (x.executionId, rt.resultHash body) :: db.results,
      deliveries := db.settled x.executionId mapped }, some mapped)

end CodestraMiddleware.N8n
