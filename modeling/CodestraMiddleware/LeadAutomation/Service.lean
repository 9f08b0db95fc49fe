import CodestraMiddleware.LeadAutomation.OdooApply

/-!
# The lead automation service

`LeadAutomationService`, operation by operation. An operation returns the service it leaves behind
together with its answer or the exception it raises: what was written before an exception stays
written.
-/
namespace CodestraMiddleware.LeadAutomation

open PythonValue Raising

structure UuidHex where
  text : String
  length : text.length = 32

/-- An entry of `self.events`. -/
structure Held where
  scope : TenantScope
  eventId : Value
  event : Event

structure Status where
  automationEventId : String
  (eventId environment : Value)
  state : State
  policyVersion : Value

structure IdempotencyRecord where
  scope : TenantScope
  key : Value
  digest : String
  response : Status

structure OutboxRow where
  automationEventId : String
  scope : TenantScope
  enabled : Bool
  attempts : Nat

structure QuarantineRecord where
  eventId : Value
  reason : String

/-- `actionSwitches` are the actions that are switched on. -/
structure Service where
  enabled : Bool := false
  bindingEnabled : Bool := false
  resultProcessingEnabled : Bool := false
  odooApplyEnabled : Bool := false
  actionSwitches : List String := []
  policies : List Policy := []
  events : List Held := []
  idempotency : List IdempotencyRecord := []
  workflowIds : List (Value × Value) := []
  outbox : List OutboxRow := []
  quarantine : List QuarantineRecord := []
  odooOperations : Nat := 0

def Policy.key (p : Policy) : List String :=
  [p.environment, p.businessUnitKey, p.campaignKey, p.eventType, p.action, p.policyVersion]

def policyFields : List String := [
  "environment", "business_unit_key", "campaign_key", "event_type", "automation_action",
    "policy_version"]

def Event.status (e : Event) : Except Raised Status := do
  let eventId ← item e.payload.entries "event_id"
  let environment ← item e.payload.entries "environment"
  let policyVersion ← item e.payload.entries "policy_version"
  .ok ⟨e.automationEventId, eventId, environment, e.state, policyVersion⟩

namespace Service

variable (s : Service)

def addPolicy (p : Policy) : Service :=
  { s with policies := p :: s.policies.filter fun old => old.key ≠ p.key }

/-! ## The dict of events -/

def place (new : Held) : List Held → List Held
  | [] => [new]
  | old :: rest =>
    if old.scope = new.scope ∧ old.eventId.eq new.eventId = true then
      { old with event := new.event } :: rest
    else old :: place new rest

def hold (new : Held) : Service := { s with events := place new s.events }

def write (e : Event) : Service :=
  { s with events := s.events.map fun h =>
      if h.event.automationEventId = e.automationEventId then { h with event := e } else h }

def answersTo (eventId : Value) (scope : TenantScope) (h : Held) : Bool :=
  decide (h.scope = scope) && (h.eventId.eq eventId ||
    (Value.str h.event.automationEventId).eq eventId)

def find? (eventId : Value) (scope : TenantScope) : Option Event :=
  (s.events.find? (answersTo eventId scope)).map (·.event)

def notFound : Raised := .leadAutomation "event not found"

def move {α : Type} (e : Event) (path : List AuditEntry) (answer : Event → Except Raised α) :
    Service × Except Raised α :=
  match e.follow path with
  | (e', .ok ()) => (s.write e', answer e')
  | (e', .error raised) => (s.write e', .error raised)

/-! ## `receive` -/

def requiredEventFields : List String := [
  "contract_version", "event_id", "event_type", "environment", "company_key", "business_unit_key",
  "campaign_key", "automation_action", "policy_version", "attributes", "consent_snapshot"]

section

variable (payload : Dict)

def ingress : Except Raised Unit := do
  let violation := Raised.leadAutomation "schema violation"
  check ((payload.getD "contract_version" .null).eq (.str "1.1") = true) violation
  check (requiredEventFields ⊆ payload.keys) violation
  let known ← typed ((payload.getD "automation_action" .null).isIn actions)
  check (known = true) violation
  let company ← fullmatch companyKey (payload.getD "company_key" (.str ""))
  check (company = true) violation
  let schemaViolation := Raised.leadAutomation "business-unit attribute schema violation"
  let schemaKey := payload.getD "attributes_schema_key" .null
  let registered ← typed (schemaKey.isIn (attributeSchemaFields.map (·.1)))
  check (registered = true) schemaViolation
  match payload.getD "attributes" .null, attributeSchemaFields.find? fun schema =>
      schemaKey.eq (.str schema.1) with
  | .dict entries, some schema => check (entries.map (·.1) ⊆ schema.2) schemaViolation
  | _, _ => .error schemaViolation

def attributeNames : List String :=
  match payload.getD "attributes" .null with
  | .dict entries => entries.map (·.1)
  | _ => []

def lookupPolicy : Except Raised (Option Policy) := do
  let key ← items payload policyFields
  check (∀ field ∈ key, field.2.hashable = true) .typeError
  .ok (s.policies.find? fun p => (key.zip p.key).all fun field => field.1.2.eq (.str field.2))

/-- `consent.get(name)`, where the policy asks for it. -/
def consentField (asked : Bool) (consent : Value) (name : String) (unasked : Value) :
    Except Raised Value :=
  match asked, consent with
  | false, _ => .ok unasked
  | true, .dict entries => .ok ((entries.lookup name).getD .null)
  | true, _ => .error .attributeError

inductive Verdict where
  | denied (code : String)
  | dncBlocked | consentBlocked | allowed
  deriving DecidableEq

def Verdict.path : Verdict → List AuditEntry
  | .denied code => [⟨.policyDenied, .str code⟩]
  | .dncBlocked => [⟨.dncBlocked, .str "DNC_BLOCKED"⟩]
  | .consentBlocked => [⟨.consentBlocked, .str "CONSENT_REQUIRED"⟩]
  | .allowed => [⟨.policyAllowed, .str ""⟩, ⟨.outboxPending, .str ""⟩]

def inForce (policy : Policy) (payload : Dict) : Bool :=
  policy.enabled && policy.allow && s.enabled &&
    s.actionSwitches.any fun action => (payload.getD "automation_action" .null).eq (.str action)

def evaluateConsent (policy : Policy) (consent : Value) : Except Raised (Option Verdict) := do
  let dnc ← consentField policy.contactEligible consent "dnc_status" .null
  if dnc.isTrue then .ok (some .dncBlocked)
  else
    let status ← consentField policy.requiresConsent consent "consent_status" (.str "granted")
    if status.eq (.str "granted") then .ok none else .ok (some .consentBlocked)

def evaluate : Except Raised Verdict := do
  let found ← s.lookupPolicy payload
  let consent ← item payload.entries "consent_snapshot"
  match found with
  | none => .ok (.denied "DEFAULT_DENY")
  | some policy =>
    if s.inForce policy payload then
      match ← evaluateConsent policy consent with
      | some verdict => .ok verdict
      | none =>
        if attributeNames payload ⊆ policy.allowedFields then .ok .allowed
        else .ok (.denied "ATTRIBUTE_NOT_ALLOWED")
    else .ok (.denied "DEFAULT_DENY")

end

end Service

namespace Service

variable (rt : Runtime) (s : Service)

def replay? (scope : TenantScope) (key : Value) : Option IdempotencyRecord :=
  s.idempotency.find? fun r => decide (r.scope = scope) && r.key.eq key

def arrival (uuid : UuidHex) (payload : Dict) : Held where
  scope := .fromPayload rt payload
  eventId := payload.getD "event_id" (.str "")
  event := {
    automationEventId := "LAE-" ++ uuid.text
    payload := payload
    payloadHash := canonicalHash rt payload }

def ingressPath : List AuditEntry := [⟨.schemaValidated, .str ""⟩, ⟨.policyEvaluating, .str ""⟩]

def accept (arrived : Held) (key : Value) : Service × Except Raised Status :=
  let payload := arrived.event.payload
  match arrived.event.follow ingressPath with
  | (e, .error raised) => (s.hold { arrived with event := e }, .error raised)
  | (e, .ok ()) =>
    match s.evaluate payload with
    | .error raised => (s.hold { arrived with event := e }, .error raised)
    | .ok verdict =>
      match e.follow verdict.path with
      | (e, .error raised) => (s.hold { arrived with event := e }, .error raised)
      | (e, .ok ()) =>
        let held := s.hold { arrived with event := e }
        let sent := if verdict = .allowed then { held with
            outbox := s.outbox ++ [{
              automationEventId := e.automationEventId
              scope := arrived.scope
              enabled := s.bindingEnabled
              attempts := 0 }] }
          else held
        match e.status with
        | .error raised => (sent, .error raised)
        | .ok response =>
          ({ sent with
            idempotency := s.idempotency ++ [⟨arrived.scope, key, e.payloadHash, response⟩] },
            .ok response)

def receive (uuid : UuidHex) (payload : Dict) : Service × Except Raised Status :=
  let arrived := arrival rt uuid payload
  let key := payload.getD "idempotency_key" (.str "")
  if key.hashable = false then (s, .error .typeError)
  else
    match s.replay? arrived.scope key with
    | some record =>
      if record.digest = arrived.event.payloadHash then (s, .ok record.response)
      else ({ s with quarantine := s.quarantine ++ [⟨arrived.eventId, "IDEMPOTENCY_CONFLICT"⟩] },
        .error (.conflict "conflicting event replay"))
    | none =>
      match ingress payload with
      | .error raised => (s, .error raised)
      | .ok () =>
        if arrived.eventId.hashable = false then (s, .error .typeError)
        else s.accept arrived key

section

variable (eventId : String) (scope : TenantScope)

def reserveDispatch : Service × Except Raised Bool :=
  match s.find? (.str eventId) scope with
  | none => (s, .error notFound)
  | some e =>
    if e.state ≠ .outboxPending ∨ s.enabled = false ∨ s.bindingEnabled = false then (s, .ok false)
    else s.move e [⟨.dispatchReserved, .str ""⟩] fun _ => .ok true

def markDispatched : Service × Except Raised Unit :=
  match s.find? (.str eventId) scope with
  | none => (s, .error notFound)
  | some e => s.move e [⟨.dispatched, .str ""⟩] fun _ => .ok ()

def acknowledgeN8n : Service × Except Raised Unit :=
  match s.find? (.str eventId) scope with
  | none => (s, .error notFound)
  | some e => s.move e [⟨.n8nAcknowledged, .str ""⟩] fun _ => .ok ()

end

/-! ## `receive_result` -/

def requiredResultFields : List String := [
  "contract_version", "event_id", "workflow_execution_id", "binding_key", "environment",
  "company_key", "business_unit_key", "campaign_key", "automation_action", "result_status",
  "result_code", "result_payload", "occurred_at", "idempotency_key"]

def immutable : List String :=
  ["environment", "company_key", "business_unit_key", "campaign_key", "automation_action"]

def immutableFields : List String := [
  "consent_status", "dnc_status", "environment", "business_unit_key", "campaign_key",
    "policy_version"]

def resultFields (payload : Dict) : Except Raised (List Value) :=
  match payload.getD "result_payload" (.dict []) with
  | .dict entries => do
    let fields ← typed ((entries.lookup "field_updates").getD (.dict [])).iterate
    check (∀ field ∈ fields, field.hashable = true) .typeError
    .ok fields
  | _ => .error .attributeError

def checkResult (e : Event) (payload : Dict) : Except Raised (Value × Value) := do
  let violation := Raised.leadAutomation "result schema violation"
  check (payload.keys ⊆ requiredResultFields ∧ requiredResultFields ⊆ payload.keys) violation
  check ((payload.getD "contract_version" .null).eq (.str "1.1") = true) violation
  let company ← fullmatch companyKey (payload.getD "company_key" (.str ""))
  check (company = true) violation
  let binding := Raised.conflict "immutable binding conflict"
  check (∀ name ∈ immutable, (payload.getD name .null).eq (e.payload.getD name .null) = true)
    binding
  check ((payload.getD "binding_key" .null).eq (.str "n8n.leads.ingest") = true) binding
  match ← s.lookupPolicy e.payload with
  | none => .error .unknownPolicy
  | some policy =>
    let fields ← resultFields payload
    check (∀ field ∈ fields, (∃ name ∈ policy.allowedFields, field.eq (.str name) = true) ∧
        ∀ name ∈ immutableFields, field.eq (.str name) = false)
        (.conflict "result field outside policy allowlist")
    let environment ← item payload.entries "environment"
    let execution ← item payload.entries "workflow_execution_id"
    check (environment.hashable = true ∧ execution.hashable = true) .typeError
    check (∀ known ∈ s.workflowIds, (known.1.eq environment && known.2.eq execution) = false)
      (.conflict "duplicate workflow execution")
    .ok (environment, execution)

/-- `event.state = State.QUARANTINED`, whatever the state was, and the conflict that follows. -/
def quarantined {α : Type} (e : Event) (message : String) : Service × Except Raised α :=
  (s.write { e with state := .quarantined }, .error (.conflict message))

/-- `quarantined`, with an entry in the list of quarantined events. -/
def quarantinedAs {α : Type} (e : Event) (record : QuarantineRecord) (message : String) :
    Service × Except Raised α :=
  { s with quarantine := s.quarantine ++ [record] }.quarantined e message

def resultPath : List AuditEntry :=
  [⟨.resultReceived, .str ""⟩, ⟨.resultValidated, .str ""⟩, ⟨.odooApplyPending, .str ""⟩]

def acceptResult (e : Event) (payload : Dict) : Service × Except Raised ResultResponse :=
  match e.follow resultPath with
  | (e, .error raised) => (s.write e, .error raised)
  | (e, .ok ()) =>
    let response : ResultResponse := ⟨e.automationEventId, e.state, true⟩
    (s.write { e with
        resultHash := some (canonicalHash rt payload), resultResponse := some response,
        resultPayload := some payload }, .ok response)

/-- An empty hash counts as none. The answer is `none` where the code returns an empty dict. -/
def receiveResult (payload : Dict) (scope : TenantScope) :
    Service × Except Raised (Option ResultResponse) :=
  let eventId := payload.getD "event_id" (.str "")
  if scope ≠ .fromPayload rt payload then (s, .error notFound)
  else
    match s.find? eventId scope with
    | none => (s, .error notFound)
    | some e =>
      if e.resultHash.any (· ≠ "") then
        if e.resultHash = some (canonicalHash rt payload) then (s, .ok e.resultResponse)
        else s.quarantinedAs e ⟨eventId, "RESULT_CONFLICT"⟩ "conflicting result replay"
      else if s.resultProcessingEnabled = false then
        (s, .error (.leadAutomation "result processing disabled"))
      else
        match s.checkResult e payload with
        | .error (.conflict message) => s.quarantined e message
        | .error raised => (s, .error raised)
        | .ok execution =>
          let accepted := { s with workflowIds := s.workflowIds ++ [execution] }.acceptResult
            rt e payload
          (accepted.1, accepted.2.map some)

/-! ## `apply_odoo_ack` -/

def ackPath (ack : Dict) : AckClass → List AuditEntry
  | .complete => [⟨.odooApplied, .str ""⟩, ⟨.completed, .str ""⟩]
  | .retry => [⟨.retryPending, ack.getD "result_code" .null⟩]
  | .permanent =>
    let result := ack.getD "result" .null
    let code := ack.getD "result_code" result
    if result.eq (.str "DENIED") then [⟨.policyDenied, code⟩]
    else if result.eq (.str "CONSENT_BLOCKED") then [⟨.consentBlocked, code⟩]
    else if result.eq (.str "DNC_BLOCKED") then [⟨.dncBlocked, code⟩]
    else [⟨.quarantined, code⟩]

def applyAck (e : Event) (ack : Dict) : Service × Except Raised Status :=
  match e.resultPayload, e.state with
  | some result, .odooApplyPending =>
    match buildApplyPayload rt e.payload result e.automationEventId with
    | .error raised => (s, .error raised)
    | .ok request =>
      match validateAck rt ack request with
      | .error (.ackValidation _) =>
        s.quarantinedAs e ⟨e.payload.getD "event_id" .null, "ODOO_ACK_INVALID"⟩
          "Odoo acknowledgement schema or binding mismatch"
      | .error raised => (s, .error raised)
      | .ok () =>
        match classifyAck ack with
        | .error raised => (s, .error raised)
        | .ok ackClass =>
          { s with odooOperations := s.odooOperations + 1 }.move { e with odooAck := some ack }
            (ackPath ack ackClass) (·.status)
  | _, _ => s.quarantined e "Odoo acknowledgement without pending apply"

def applyOdooAck (eventId : String) (ack : Dict) (scope : TenantScope) :
    Service × Except Raised Status :=
  match s.find? (.str eventId) scope with
  | none => (s, .error notFound)
  | some e =>
    if s.odooApplyEnabled = false then (s, .error (.leadAutomation "Odoo apply disabled"))
    else
      match e.odooAck with
      | none => s.applyAck rt e ack
      | some previous =>
        if canonicalHash rt previous = canonicalHash rt ack then (s, e.status)
        else
          match classifyAck previous with
          | .error raised => (s, .error raised)
          | .ok earlier =>
            if earlier = .retry ∧ e.state = .odooApplyPending then s.applyAck rt e ack
            else s.quarantinedAs e ⟨e.payload.getD "event_id" .null, "ODOO_ACK_CONFLICT"⟩
              "conflicting Odoo acknowledgement replay"

/-! ## Retries and reconciliation -/

def retryPath (e : Event) (attempts maximumAttempts : Int) : List AuditEntry :=
  if attempts ≥ maximumAttempts then
    if e.state = .retryPending then [⟨.failedTerminal, .str ""⟩]
    else [⟨.retryPending, .str ""⟩, ⟨.failedTerminal, .str ""⟩]
  else [⟨.retryPending, .str ""⟩]

def recordRetry (eventId : String) (scope : TenantScope) (attempts maximumAttempts : Int) :
    Service × Except Raised State :=
  match s.find? (.str eventId) scope with
  | none => (s, .error notFound)
  | some e => s.move e (retryPath e attempts maximumAttempts) fun e => .ok e.state

inductive GapKind where
  | eventWithoutOutbox | missingAcknowledgement

/-- A finding of `reconcile`. -/
structure Gap where
  automationEventId : String
  kind : GapKind

def Gap.text (gap : Gap) : String :=
  gap.automationEventId ++ match gap.kind with
    | .eventWithoutOutbox => ":event_without_outbox"
    | .missingAcknowledgement => ":missing_acknowledgement"

def expectsOutbox (state : State) : Bool :=
  decide (state ∉ State.terminal ∧ state ∉ [.received, .schemaValidated, .policyEvaluating])

def gaps (e : Event) : List Gap :=
  (if expectsOutbox e.state && !s.outbox.any (·.automationEventId = e.automationEventId) then
    [⟨e.automationEventId, .eventWithoutOutbox⟩] else []) ++
  (if e.state = .odooApplied ∧ e.odooAck.all (·.entries.isEmpty) then
    [⟨e.automationEventId, .missingAcknowledgement⟩] else [])

def reconcile (scope : TenantScope) : List Gap :=
  (s.events.filter fun h => TenantScope.fromPayload rt h.event.payload = scope).flatMap fun h =>
    s.gaps h.event

end Service

end CodestraMiddleware.LeadAutomation
