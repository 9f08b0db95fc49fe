import CodestraMiddleware.Foundations.Json
import CodestraMiddleware.Telephony.Schema

/-!
# Contracts of telephony commands

The request model with its checks, its hashes and the journal row made from it, the policy decision
that authorizes a command, and the bodies of the operation and result APIs.
-/
namespace CodestraMiddleware.Telephony

open CompactJson

inductive Fault where
  | http (status : Nat) (detail : String)
  | integrityError
  | runtimeError (message : String)

def truthy (s : Option String) : Bool := s.any (· ≠ "")

def orElse (x : Option String) (y : String) : String :=
  match x with
  | some s => if s = "" then y else s
  | none => y

def bareHash (s : String) : String :=
  if s.toList.take 7 = "sha256:".toList then String.ofList (s.toList.drop 7) else s

def payloadHash (sha256 : String → String) (value : Json) : String := sha256 value.dumps

def Environment.value : Environment → String
  | .staging => "staging"
  | .test => "test"
  | .production => "production"

def TargetSystem.value : TargetSystem → String
  | .asterisk => "ASTERISK"
  | .vicidial => "VICIDIAL"

def TelephonyCommandType.value : TelephonyCommandType → String
  | .userApply => "telephony.vicidial.user.apply"
  | .userDisable => "telephony.vicidial.user.disable"
  | .phoneApply => "telephony.vicidial.phone.apply"
  | .phoneDisable => "telephony.vicidial.phone.disable"
  | .endpointApply => "telephony.asterisk.endpoint.apply"
  | .endpointDisable => "telephony.asterisk.endpoint.disable"
  | .contactRevoke => "telephony.asterisk.contact.revoke"
  | .contactsRevokeAll => "telephony.asterisk.contacts.revoke_all"
  | .targetReconcile => "telephony.target.reconcile"
  | .agentReconcile => "telephony.agent.reconcile"
  | .campaignReconcile => "telephony.campaign.reconcile"

def DesiredState.value : DesiredState → String
  | .disabled => "DISABLED"
  | .enabled => "ENABLED"

def TransitionState.value : TransitionState → String
  | .registered => "REGISTERED"
  | .applying => "APPLYING"
  | .applied => "APPLIED"
  | .readbackPending => "READBACK_PENDING"
  | .readbackVerified => "READBACK_VERIFIED"
  | .readbackMismatch => "READBACK_MISMATCH"
  | .succeeded => "SUCCEEDED"
  | .failed => "FAILED"
  | .compensationRequired => "COMPENSATION_REQUIRED"
  | .compensated => "COMPENSATED"

/-- `model_dump(mode="json")`, its fields in the order of `sort_keys`. -/
def TelephonyCommandPayload.json (p : TelephonyCommandPayload) : Json :=
  .object [("agent_public_id", optional .text p.agentPublicId),
    ("allocation_reservation_id", .text p.allocationReservationId),
    ("call_public_id", optional .text p.callPublicId),
    ("contact_id", optional .text p.contactId), ("context_key", optional .text p.contextKey),
    ("desired_state_hash", optional .text p.desiredStateHash),
    ("desired_state_version", .int p.desiredStateVersion),
    ("destination_endpoint_public_id", optional .text p.destinationEndpointPublicId),
    ("endpoint_public_id", optional .text p.endpointPublicId),
    ("external_route_allowed", .bool p.externalRouteAllowed),
    ("maximum_duration_seconds", optional (.int ·) p.maximumDurationSeconds),
    ("phone_public_id", optional .text p.phonePublicId), ("purpose", optional .text p.purpose),
    ("reservation_generation", optional (.int ·) p.reservationGeneration),
    ("reservation_hash", optional .text p.reservationHash),
    ("source_endpoint_public_id", optional .text p.sourceEndpointPublicId),
    ("state", .text p.state.value), ("transfer_allowed", .bool p.transferAllowed)]

structure PolicyScope where
  (action subject resource environment businessUnit campaign agent : String)
  deriving DecidableEq

namespace TelephonyCommandRequest

variable (c : TelephonyCommandRequest)

def json : Json :=
  .object [("aggregate_public_id", .text c.aggregatePublicId),
    ("aggregate_type", .text c.aggregateType),
    ("aggregate_version", .int c.aggregateVersion),
    ("business_unit_public_id", .text c.businessUnitPublicId),
    ("campaign_public_id", .text c.campaignPublicId), ("causation_id", .text c.causationId),
    ("command_public_id", optional .text c.commandPublicId),
    ("command_type", .text c.commandType.value),
    ("correlation_id", .text c.correlationId), ("environment", .text c.environment.value),
    ("event_id", optional .text c.eventId), ("expires_at", optional (.text ·.text) c.expiresAt),
    ("idempotency_key", .text c.idempotencyKey),
    ("organization_public_id", .text c.organizationPublicId),
    ("originating_outbox_public_id", optional .text c.originatingOutboxPublicId),
    ("payload", c.payload.json),
    ("policy_decision_hash", .text c.policyDecisionHash),
    ("policy_decision_id", optional .text c.policyDecisionId),
    ("requested_at", optional (.text ·.text) c.requestedAt), ("schema_version", .text "1.0")]

def missing : List String :=
  let p := c.payload
  let required (fields : List (String × Option String)) : List String :=
    (fields.filter fun field => !truthy field.2).map (·.1)
  match c.commandType with
  | .userApply | .userDisable => required [("agent_public_id", p.agentPublicId)]
  | .phoneApply | .phoneDisable => required [("phone_public_id", p.phonePublicId)]
  | .endpointApply | .endpointDisable | .contactsRevokeAll =>
    required [("endpoint_public_id", p.endpointPublicId)]
  | .contactRevoke =>
    required [("contact_id", p.contactId), ("endpoint_public_id", p.endpointPublicId)]
  | .targetReconcile | .agentReconcile | .campaignReconcile => []

/-- `model_validate` at `now`. The names of the payload's fields are none of the forbidden ones, so
that check never fails. -/
def forbidApplicationSelectedResources (now : Int) : Except String Unit :=
  let resources : Except String Unit :=
    if c.missing = [] then .ok ()
    else .error (c.commandType.value ++ " requires " ++ ", ".intercalate c.missing)
  match c.requestedAt, c.expiresAt with
  | some requestedAt, some expiresAt =>
    if !requestedAt.aware || !expiresAt.aware then
      .error "command timestamps must be timezone-aware"
    else if expiresAt.instant ≤ requestedAt.instant then
      .error "command expiry must follow request time"
    else if expiresAt.instant ≤ now then .error "command is expired"
    else resources
  | _, _ => resources

def policyScope : PolicyScope where
  action := "sync"
  subject := c.aggregatePublicId
  resource := c.commandType.value
  environment := c.environment.value
  businessUnit := c.businessUnitPublicId
  campaign := c.campaignPublicId
  agent := c.payload.agentPublicId.getD ""

def targetSystem : TargetSystem :=
  match c.commandType with
  | .endpointApply | .endpointDisable | .contactRevoke | .contactsRevokeAll => .asterisk
  | _ => .vicidial

def targetPublicId : String :=
  orElse c.payload.endpointPublicId (orElse c.payload.phonePublicId
    (orElse c.payload.agentPublicId c.aggregatePublicId))

def targetResourceType : String :=
  if truthy c.payload.endpointPublicId then "ENDPOINT"
  else if truthy c.payload.phonePublicId then "PHONE"
  else "USER"

variable (sha256 : String → String)

def requestHash : String := payloadHash sha256 c.json

def stableIdempotencyKey : String :=
  sha256 ("\x1f".intercalate [c.environment.value, c.commandType.value, c.aggregatePublicId,
    toString c.payload.desiredStateVersion, c.targetSystem.value, c.targetPublicId])

end TelephonyCommandRequest

/-- `new_command_record` with the state that `create_command` gives it. -/
def newCommandRecord (sha256 : String → String) (now : Int) (commandId : UUID)
    (state : TelephonyCommandState) (c : TelephonyCommandRequest) : TelephonyCommandJournal where
  commandId := commandId
  commandPublicId := orElse c.commandPublicId
    ("CMD-" ++ String.ofList ((c.stableIdempotencyKey sha256).toList.take 32))
  commandType := c.commandType
  aggregateType := c.aggregateType
  aggregatePublicId := c.aggregatePublicId
  aggregateVersion := c.aggregateVersion
  environment := c.environment
  idempotencyHash := c.stableIdempotencyKey sha256
  requestHash := c.requestHash sha256
  correlationId := c.correlationId
  policyDecisionHash := c.policyDecisionHash
  request := c
  createdAt := now
  state := state
  attemptCount := 0
  nextAttemptAt := none
  leaseOwner := none
  updatedAt := now

/-! ## Policy decisions -/

/-- The `expiration` of a decision's context: no text, no timestamp, without or with a zone. -/
inductive Expiration where
  | missing | malformed | naive
  | aware (instant : Int)

/-- A row of `policy_decision`. `context` is the canonical JSON of its context; the other fields are
what is read from it. -/
structure PolicyDecision where
  id : String
  allowed : Bool
  (correlationId context : String)
  authorizationScope : Option PolicyScope
  enforced : Bool
  expiration : Expiration

/-- What a check of a decision can find; `none` if all is well. -/
inductive PolicyDefect where
  | correlation | hash | scope | expirationInvalid | expired

namespace PolicyDecision

variable (sha256 : String → String) (d : PolicyDecision) (c : TelephonyCommandRequest)

/-- Correlation, hash and scope, which the API and the worker check in this order. -/
def bindingDefect? : Option PolicyDefect :=
  if d.correlationId ≠ c.correlationId then some .correlation
  else if sha256 d.context ≠ c.policyDecisionHash then some .hash
  else if d.authorizationScope ≠ some c.policyScope then some .scope
  else none

def expirationDefect? (now : Int) : Option PolicyDefect :=
  match d.expiration with
  | .missing | .malformed => some .expirationInvalid
  | .naive => some .expired
  | .aware instant => if instant ≤ now then some .expired else none

def authorizes : Bool := d.allowed && d.enforced

end PolicyDecision

/-! ## Operations and results -/

structure OperationRegistration where
  (operationPublicId commandPublicId adapterServiceKey adapterOperationId : String)
  targetSystem : TargetSystem
  (targetResourceType targetPublicId : String)
  desiredStateVersion : Nat
  (desiredStateHash idempotencyKey correlationId : String)

structure OperationTransition where
  binding : TransitionBinding
  transitionHash : String

/-- `model_dump(mode="json", exclude={"transition_hash"})`. -/
def TransitionBinding.json (b : TransitionBinding) : Json :=
  .object [("adapter_service_key", .text b.adapterServiceKey),
    ("command_public_id", .text b.commandPublicId),
    ("correlation_id", .text b.correlationId),
    ("desired_state_version", .int b.desiredStateVersion),
    ("environment", .text b.environment.value), ("occurred_at", .text b.occurredAt.text),
    ("schema_version", .text "1.0"), ("state", .text b.state.value),
    ("target_public_id", .text b.targetPublicId),
    ("target_resource_type", .text b.targetResourceType),
    ("target_system", .text b.targetSystem.value),
    ("transition_sequence", .int b.transitionSequence)]

/-! ## A sample command

The digests are those of SHA-256.
-/

namespace Sample

def newYear : Int := 1767225600000000

def scope : PolicyScope where
  action := "sync"
  subject := "AGT-100"
  resource := "telephony.asterisk.endpoint.apply"
  environment := "staging"
  businessUnit := "BU-100"
  campaign := "CMP-100"
  agent := "AGT-100"

def decision (allowed : Bool) : PolicyDecision where
  id := "11111111-1111-4111-8111-111111111111"
  allowed := allowed
  correlationId := "COR-00000001"
  context := "\x7b\"authorization_scope\":\x7b\"action\":\"sync\",\"agent\":\"AGT-100\"," ++
    "\"business_unit\":\"BU-100\",\"campaign\":\"CMP-100\",\"environment\":\"staging\"," ++
    "\"resource\":\"telephony.asterisk.endpoint.apply\",\"subject\":\"AGT-100\"\x7d," ++
    "\"enforced\":true,\"expiration\":\"2026-01-01T00:10:00+00:00\"\x7d"
  authorizationScope := some scope
  enforced := true
  expiration := .aware (newYear + seconds 600)

def command (n : Nat) : TelephonyCommandRequest where
  commandPublicId := none
  originatingOutboxPublicId := none
  eventId := none
  commandType := .endpointApply
  aggregateType := "agent"
  aggregatePublicId := "AGT-100"
  aggregateVersion := n
  environment := .staging
  organizationPublicId := ""
  businessUnitPublicId := "BU-100"
  campaignPublicId := "CMP-100"
  idempotencyKey := "IDM-00000001"
  correlationId := "COR-00000001"
  causationId := "CAU-1"
  policyDecisionId := some "11111111-1111-4111-8111-111111111111"
  policyDecisionHash := "178182048daadd579d3460a30b506d4747b9a5c10c3ef00f903a6a9c80617ba1"
  requestedAt := some ⟨"2026-01-01T00:00:00Z", newYear, true⟩
  expiresAt := some ⟨"2026-01-01T00:05:00Z", newYear + seconds 300, true⟩
  payload := {
    endpointPublicId := some "EPT-100"
    sourceEndpointPublicId := none
    destinationEndpointPublicId := none
    agentPublicId := some "AGT-100"
    phonePublicId := none
    callPublicId := none
    contactId := none
    allocationReservationId := "RSV-100"
    desiredStateVersion := n
    state := .disabled
    maximumDurationSeconds := none
    purpose := none
    reservationGeneration := none
    reservationHash := none
    desiredStateHash := none
    contextKey := none
    externalRouteAllowed := false
    transferAllowed := false }

def digests : List (String × String) := [
  ((decision true).context, "178182048daadd579d3460a30b506d4747b9a5c10c3ef00f903a6a9c80617ba1"),
  ("staging\x1ftelephony.asterisk.endpoint.apply\x1fAGT-100\x1f1\x1fASTERISK\x1fEPT-100",
    "66a49d9e28b1a46f32641f2a97e2a41ff599b21f8aea39d2d75f390476dc4c1f"),
  ("staging\x1ftelephony.asterisk.endpoint.apply\x1fAGT-100\x1f2\x1fASTERISK\x1fEPT-100",
    "b6509a0c03ad3bdf9bd90b3a80fa2d295f2511a6ef0c2743f598aee4620eca2e"),
  ("\"IDM-OPR-0001\"", "ff76a4d756a23f72361c5d8628067ad31ba4f419aa8ff66ef82879196ba625c9"),
  ((command 1).json.dumps, "7e3a05c2f1130c30fddbb377e179963f4c758edb4eb028928d810bf9c25e27d2"),
  ((command 2).json.dumps, "0542851b438bf25ecaa5a01f5597545ce06674126bfe8f2d6d3c5675374595f7")]

def sha256 (text : String) : String :=
  ((digests.find? (·.1 = text)).map (·.2)).getD ""

example : (decision true).bindingDefect? sha256 (command 1) = none := by decide +kernel

end Sample

end CodestraMiddleware.Telephony
