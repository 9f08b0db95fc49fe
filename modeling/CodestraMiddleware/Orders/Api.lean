import CodestraMiddleware.Foundations.Raising
import CodestraMiddleware.Foundations.Run

/-!
# Order orchestration

`order_orchestration.py` and the endpoints of `api/v1/orders.py` that write. The store is a set of
dictionaries in memory: what an endpoint has written before it raises stays written.
-/
namespace CodestraMiddleware.Orders

open Transition Raising Function

inductive OrderStatus where
  | received | validating | validated | approvalRequired | approved | rejected | queued
  | dispatchedToN8n
  | running | partiallyCompleted | completed | failedRetryable | retryScheduled | failedFinal
  | deadLetter
  | humanReview | cancelled | expired
  deriving DecidableEq

inductive ApprovalStatus where
  | pending | approved | rejected
  deriving DecidableEq

structure Approval where
  required : Bool := true
  status : ApprovalStatus
  approvedBy : Option String := none
  approvedAt : Option Int := none
  contentHash : String
  deriving DecidableEq

/-- The fields of an envelope that `content_hash` covers; `other` is the text of those that nothing
else reads. -/
structure Content where
  (commandId orderId sourceSystem workflowCode : String)
  requestedActions : List String
  (idempotencyKey traceId : String)
  expiresAt : Int
  other : String
  deriving DecidableEq

structure OrderEnvelope extends Content where
  approval : Approval
  deriving DecidableEq

structure ApprovalRequest where
  (approvedBy contentHash : String)
  deriving DecidableEq

inductive ResultStatus where
  | completed | partiallyCompleted | failed
  deriving DecidableEq

/-- What the three kinds of callback name. -/
structure Reference where
  (commandId orderId traceId other : String)
  deriving DecidableEq

structure ResultEnvelope extends Reference where
  status : ResultStatus
  deriving DecidableEq

structure ErrorEnvelope extends Reference where
  errorCode : String
  retryable : Bool := false
  deriving DecidableEq

abbrev DeadLetterEnvelope := Reference

structure ProgressEnvelope extends OrderEnvelope where
  progressPercent : Nat
  message : String
  deriving DecidableEq

def allowedWorkflows : List String :=
  ["CDST-ORDER-VALIDATE-V1", "CDST-ORDER-ROUTER-V1", "CDST-ORDER-EXECUTE-V1",
    "CDST-ORDER-SHIPPING-V1", "CDST-ORDER-FULFILLMENT-V1", "CDST-ORDER-CUSTOMER-SETUP-V1",
    "CDST-ORDER-SOCIAL-DRAFT-V1", "CDST-ORDER-SOCIAL-CAMPAIGN-V1", "CDST-ORDER-CALLBACK-V1",
    "CDST-ORDER-INTERNAL-REPORT-V1", "CDST-ORDER-RESULT-V1", "CDST-ORDER-FAILURE-V1",
    "CDST-ORDER-DEAD-LETTER-V1", "CDST-ORDER-RECONCILIATION-V1"]

def allowedActions : List String :=
  ["validate_customer", "create_fulfillment_task", "request_shipping_quote", "schedule_pickup",
    "create_callback", "prepare_campaign_draft", "create_social_draft", "request_document",
    "generate_internal_report", "notify_internal_team"]

def blockedActions : List String :=
  ["charge_payment_method", "send_customer_message", "place_external_call", "publish_social_post",
    "delete_record", "cancel_customer_service", "export_customer_database"]

inductive Exc where
  | http (status : Nat) (detail : String)
  | keyError
  deriving DecidableEq

/-- The settings, and the hash of the canonical text of an order. -/
structure Runtime where
  contentHash : Content → String
  (orderOrchestrationEnabled n8nOrderDispatchEnabled : Bool)

variable (rt : Runtime)

def isSynthetic (order : OrderEnvelope) : Bool :=
  order.orderId.startsWith "CODESTRA-INTEGRATION-TEST-"

def validateForDispatch (order : OrderEnvelope) (now : Int) : Except Exc Unit := do
  check (now < order.expiresAt) (.http 422 "order has expired")
  check (order.workflowCode ∈ allowedWorkflows) (.http 422 "workflow code is not allowlisted")
  check (∀ action ∈ order.requestedActions, action ∉ blockedActions)
    (.http 422 "requested action is blocked")
  check (order.requestedActions ⊆ allowedActions) (.http 422 "requested action is not allowlisted")
  check (order.approval.required = true → order.approval.status = .approved)
    (.http 409 "approval is required before dispatch")
  check (order.approval.contentHash = rt.contentHash order.toContent)
    (.http 409 "approval content hash does not match order")
  check (rt.orderOrchestrationEnabled || isSynthetic order)
    (.http 503 "order orchestration is disabled")
  check (rt.n8nOrderDispatchEnabled || isSynthetic order)
    (.http 503 "n8n order dispatch is disabled")

structure Record where
  (commandId workflowCode : String)
  status : OrderStatus
  (contentHash traceId : String)
  envelope : OrderEnvelope

structure Command where
  (orderId workflowCode : String)
  status : OrderStatus := .queued
  progress : List (Nat × String) := []
  attempts : Nat := 0

def Command.fail (command : Command) (status : OrderStatus) : Command :=
  { command with status, attempts := command.attempts + 1 }

structure Store where
  orders : String → Option Record
  byIdempotency : String → Option String
  commands : String → Option Command

namespace Store

def empty : Store := ⟨fun _ => none, fun _ => none, fun _ => none⟩

variable (s : Store)

def record (order : OrderEnvelope) : Record where
  commandId := order.commandId
  workflowCode := order.workflowCode
  status := if order.approval.required then .approvalRequired else .validated
  contentHash := rt.contentHash order.toContent
  traceId := order.traceId
  envelope := order

def insert (order : OrderEnvelope) : Store :=
  { s with
    orders := update s.orders order.orderId (some (record rt order)),
    byIdempotency := update s.byIdempotency order.idempotencyKey (some order.orderId) }

def create (order : OrderEnvelope) : Except Exc Store :=
  match s.byIdempotency order.idempotencyKey with
  | some existingId =>
    match s.orders existingId with
    | none => .error .keyError
    | some existing =>
      if existing.contentHash = rt.contentHash order.toContent then .ok s
      else .error (.http 409 "duplicate idempotency key conflict")
  -- A new key: nothing asks whether the order id is new as well.
  | none => .ok (s.insert rt order)

def get (orderId : String) : Except Exc Record :=
  match s.orders orderId with
  | some record => .ok record
  | none => .error (.http 404 "order not found")

section

variable (commandId : String)

def getCommand : Except Exc Command :=
  match s.commands commandId with
  | some command => .ok command
  | none => .error (.http 404 "command not found")

def modify (orderId : String) (f : Record → Record) : Store :=
  { s with orders := update s.orders orderId ((s.orders orderId).map f) }

def setStatus (orderId : String) (status : OrderStatus) : Store :=
  s.modify orderId fun record => { record with status }

def modifyCommand (f : Command → Command) : Store :=
  { s with commands := update s.commands commandId ((s.commands commandId).map f) }

def addCommand (command : Command) : Store :=
  { s with commands := update s.commands commandId (some command) }

def setCommandStatus (status : OrderStatus) : Store :=
  s.modifyCommand commandId fun command => { command with status }

def command (commandId orderId : String) : Except Exc Store := do
  let record ← s.get orderId
  match s.commands commandId with
  | some existing =>
    if existing.orderId = orderId then .ok s else .error (.http 409 "command reference conflict")
  | none => .ok (s.addCommand commandId { orderId, workflowCode := record.workflowCode })

def securityFailures : List String :=
  ["AUTHENTICATION_FAILURE", "AUTHORIZATION_FAILURE", "INVALID_SIGNATURE"]

def maxAttempts : Nat := 3

/-- The statuses of a command and of its order after a failure, the `attempts`-th of the command. -/
def failureStatus (errorCode : String) (retryable : Bool) (attempts : Nat) :
    OrderStatus × OrderStatus :=
  if retryable = true ∧ errorCode ∉ securityFailures ∧ attempts < maxAttempts then
    (.retryScheduled, .failedRetryable)
  else if retryable then (.deadLetter, .deadLetter)
  else (.failedFinal, .failedFinal)

def recordFailure (commandId errorCode : String) (retryable : Bool) : Except Exc Store := do
  let command ← s.getCommand commandId
  let _ ← s.get command.orderId
  let statuses := failureStatus errorCode retryable (command.attempts + 1)
  .ok ((s.modifyCommand commandId (·.fail statuses.1)).setStatus command.orderId statuses.2)

def resultStatus (status : ResultStatus) : OrderStatus :=
  if status = .completed then .completed else .partiallyCompleted

def recordResult (status : ResultStatus) : Except Exc Store := do
  let command ← s.getCommand commandId
  if command.status = .completed ∧ status = .completed then .ok s
  else
    let _ ← s.get command.orderId
    .ok ((s.setCommandStatus commandId (resultStatus status)).setStatus command.orderId
      (resultStatus status))

end

end Store

abbrev Outcome := Store × Except Exc Unit

/-- An endpoint that raises before it writes. -/
def Store.commit (s : Store) : Except Exc Store → Outcome
  | .ok written => (written, .ok ())
  | .error raised => (s, .error raised)

variable (s : Store)

def Record.approve (record : Record) (approvedBy : String) (now : Int) : Record :=
  { record with
    status := .approved, envelope.approval.status := .approved,
    envelope.approval.approvedBy := some approvedBy,
    envelope.approval.approvedAt := some now }

def approveOrder (orderId : String) (approval : ApprovalRequest) (now : Int) :
    Except Exc Store := do
  let record ← s.get orderId
  check (approval.contentHash = record.contentHash)
    (.http 409 "approval content hash does not match order")
  check (approval.approvedBy ≠ record.envelope.sourceSystem)
    (.http 403 "self approval is not permitted")
  .ok (s.modify orderId (·.approve approval.approvedBy now))

def rejectOrder (orderId : String) : Except Exc Store := do
  let _ ← s.get orderId
  .ok (s.setStatus orderId .rejected)

/-- The approval that is checked is the one of the request. -/
def dispatchable (order : OrderEnvelope) (now : Int) : Except Exc Unit := do
  let record ← s.get order.orderId
  validateForDispatch rt order now
  check (record.contentHash = rt.contentHash order.toContent)
    (.http 409 "order content changed after intake")

def dispatchOrder (order : OrderEnvelope) (now : Int) : Outcome :=
  match dispatchable rt s order now with
  | .error raised => (s, .error raised)
  | .ok () =>
    -- The record is written before the command is looked up, which may still raise.
    let dispatched := s.setStatus order.orderId .dispatchedToN8n
    dispatched.commit do
      .ok ((← dispatched.command order.commandId order.orderId).setCommandStatus order.commandId
        .dispatchedToN8n)

section

variable (path : Option String)

/-- What the callbacks ask of the record they name; `path` is the command in the
path, where it is. -/
def referenced (reference : Reference) : Except Exc Unit := do
  check (∀ commandId ∈ path, reference.commandId = commandId)
    (.http 409 "command reference mismatch")
  let record ← s.get reference.orderId
  check (record.commandId = reference.commandId ∧ record.traceId = reference.traceId)
    (.http 409 "command or trace reference mismatch")

def receiveResult (result : ResultEnvelope) : Except Exc Store := do
  referenced s path result.toReference
  s.recordResult result.commandId result.status

def receiveError (error : ErrorEnvelope) : Except Exc Store := do
  referenced s path error.toReference
  s.recordFailure error.commandId error.errorCode error.retryable

def receiveDeadLetter (deadLetter : DeadLetterEnvelope) : Except Exc Store := do
  referenced s path deadLetter
  .ok (s.setStatus deadLetter.orderId .deadLetter)

end

def Store.addProgress (progress : ProgressEnvelope) : Store :=
  s.modifyCommand progress.commandId fun command =>
    { command with progress := command.progress ++ [(progress.progressPercent, progress.message)] }

def receiveProgress (progress : ProgressEnvelope) : Except Exc Store := do
  let record ← s.get progress.orderId
  check ((s.commands progress.commandId).isSome ∧ record.commandId = progress.commandId)
    (.http 409 "command or trace reference mismatch")
  .ok ((s.addProgress progress).setStatus progress.orderId .running)

def progressCommand (commandId : String) (progress : ProgressEnvelope) : Except Exc Store := do
  let _ ← s.getCommand commandId
  check (progress.commandId = commandId) (.http 409 "command reference mismatch")
  .ok (s.addProgress progress)

def startCommand (commandId : String) : Outcome :=
  match s.getCommand commandId with
  | .error raised => (s, .error raised)
  | .ok command =>
    let started := s.setCommandStatus commandId .running
    started.commit do
      let _ ← started.get command.orderId
      .ok (started.setStatus command.orderId .running)

/-- A call of an endpoint that may write, with what it finds in the path and the
body, and the clock. -/
inductive Call where
  | receiveOrder (order : OrderEnvelope)
  | approveOrder (orderId : String) (approval : ApprovalRequest) (now : Int)
  | rejectOrder (orderId : String)
  | dispatchOrder (order : OrderEnvelope) (now : Int)
  | receiveResult (path : Option String) (result : ResultEnvelope)
  | receiveError (path : Option String) (error : ErrorEnvelope)
  | receiveDeadLetter (path : Option String) (deadLetter : DeadLetterEnvelope)
  | receiveProgress (progress : ProgressEnvelope)
  | createCommand (order : OrderEnvelope)
  | startCommand (commandId : String)
  | progressCommand (commandId : String) (progress : ProgressEnvelope)

def perform (s : Store) : Call → Outcome
  | .receiveOrder order => s.commit (s.create rt order)
  | .approveOrder orderId approval now => s.commit (approveOrder s orderId approval now)
  | .rejectOrder orderId => s.commit (rejectOrder s orderId)
  | .dispatchOrder order now => dispatchOrder rt s order now
  | .receiveResult path result => s.commit (receiveResult s path result)
  | .receiveError path error => s.commit (receiveError s path error)
  | .receiveDeadLetter path deadLetter => s.commit (receiveDeadLetter s path deadLetter)
  | .receiveProgress progress => s.commit (receiveProgress s progress)
  | .createCommand order => s.commit (s.command order.commandId order.orderId)
  | .startCommand commandId => startCommand s commandId
  | .progressCommand commandId progress => s.commit (progressCommand s commandId progress)

def Accepts (s : Store) (call : Call) : Prop := (perform rt s call).2 = .ok ()

instance (call : Call) : Decidable (Accepts rt s call) :=
  inferInstanceAs (Decidable ((perform rt s call).2 = .ok ()))

def system : System Store Call where
  step s call := (perform rt s call).1
  admits _ _ := True

variable {rt s}

@[simp] theorem Store.get_eq_ok {record : Record} : s.get orderId = .ok record ↔
    s.orders orderId = some record := by
  unfold get
  split <;> simp_all

end CodestraMiddleware.Orders
