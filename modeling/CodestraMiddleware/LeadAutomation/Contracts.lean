import CodestraMiddleware.Foundations.Raising
import CodestraMiddleware.Foundations.Values

/-!
# Lead automation: states, policies and events

The constants and data of `app/core/lead_automation.py`. Payloads are whatever JSON object a caller
sends: their fields have no type until a function asks for one, and a function that asks for the
wrong one raises.
-/
namespace CodestraMiddleware.LeadAutomation

open PythonValue Raising

inductive Raised where
  | leadAutomation (message : String)
  | conflict (message : String)
  | applySchema (message : String)
  | ackValidation (message : String)
  | keyError (name : String)
  /-- The `KeyError` of a policy's whole key. -/
  | unknownPolicy | typeError | attributeError | overflowError
  deriving DecidableEq

/-- What a `TypeError` stands for where a value has the wrong type. -/
def typed {α : Type} : Option α → Except Raised α
  | some a => .ok a
  | none => .error .typeError

@[simp] theorem typed_eq_ok : typed o = .ok a ↔ o = some a := by
  cases o <;> simp [typed]

/-- What `datetime.fromisoformat` answers, followed for an aware time by `astimezone(UTC)`, which
fails where the instant has no date. -/
inductive IsoFormat where
  | invalid | naive
  | aware (utc : Option Int)

/-- What the standard library answers: the hash of a text, the texts of values, whether `UUID`
accepts a text, and the time that a text denotes, in microseconds. -/
structure Runtime where
  sha256 : String → String
  texts : Value.Texts
  uuid : String → Bool
  fromisoformat : String → IsoFormat

variable (rt : Runtime)

def canonicalHash (value : Dict) : String := rt.sha256 (value.value.dumps rt.texts)

def actions : List String := ["CREATE_LEAD", "UPDATE_ALLOWLISTED_FIELDS", "ASSIGN_AUTHORIZED_TEAM",
  "ASSIGN_AUTHORIZED_USER", "CHANGE_AUTHORIZED_STAGE", "CREATE_INTERNAL_CALLBACK_ACTIVITY"]

def attributeSchemaFields : List (String × List String) := [("transportation-logistics-lead-v1",
    ["contact_reference", "shipment_mode", "origin_region", "destination_region", "load_class",
      "estimated_volume_band"]), ("web-mobile-ai-lead-v1",
    ["contact_reference", "solution_type", "company_size_band", "budget_band", "delivery_window"]),
  ("senior-citizen-products-lead-v1",
    ["contact_reference", "product_category", "service_region", "accessibility_support"]),
    ("business-loan-lead-v1",
    ["contact_reference", "loan_purpose", "amount_band", "business_age_band", "industry_key"]),
    ("real-estate-lead-v1",
    ["contact_reference", "transaction_type", "property_type", "region_key", "budget_band"]),
    ("fundraising-lead-v1",
    ["contact_reference", "campaign_type", "interest_band", "region_key"]), ("trading-ai-lead-v1",
    ["contact_reference", "experience_band", "product_interest", "risk_profile_reference"]),
    ("farming-lead-v1",
    ["contact_reference", "operation_type", "acreage_band", "region_key", "solution_interest"])]

def companyKey (s : String) : Bool :=
  match s.toList.drop 8 with
  | first :: rest =>
    decide (s.toList.take 8 = "COMPANY-".toList) && decide ('1' ≤ first ∧ first ≤ '9') &&
      rest.all (fun c => decide ('0' ≤ c ∧ c ≤ '9')) && decide (rest.length ≤ 9)
  | [] => false

def fullmatch (pattern : String → Bool) : Value → Except Raised Bool
  | .str s => .ok (pattern s)
  | _ => .error .typeError

theorem fullmatch_eq_true_iff : fullmatch pattern v = .ok true ↔
    ∃ s, v = .str s ∧ pattern s = true := by
  cases v <;> simp [fullmatch]

inductive State where
  | received | schemaValidated | policyEvaluating | policyAllowed | policyDenied | consentBlocked
  | dncBlocked
  | outboxPending | dispatchReserved | dispatched | n8nAcknowledged | resultReceived
  | resultValidated
  | odooApplyPending | odooApplied | completed | retryPending | quarantined | failedTerminal
  deriving DecidableEq

namespace State

def value : State → String
  | .received => "RECEIVED"
  | .schemaValidated => "SCHEMA_VALIDATED"
  | .policyEvaluating => "POLICY_EVALUATING"
  | .policyAllowed => "POLICY_ALLOWED"
  | .policyDenied => "POLICY_DENIED"
  | .consentBlocked => "CONSENT_BLOCKED"
  | .dncBlocked => "DNC_BLOCKED"
  | .outboxPending => "OUTBOX_PENDING"
  | .dispatchReserved => "DISPATCH_RESERVED"
  | .dispatched => "DISPATCHED"
  | .n8nAcknowledged => "N8N_ACKNOWLEDGED"
  | .resultReceived => "RESULT_RECEIVED"
  | .resultValidated => "RESULT_VALIDATED"
  | .odooApplyPending => "ODOO_APPLY_PENDING"
  | .odooApplied => "ODOO_APPLIED"
  | .completed => "COMPLETED"
  | .retryPending => "RETRY_PENDING"
  | .quarantined => "QUARANTINED"
  | .failedTerminal => "FAILED_TERMINAL"

def terminal : List State :=
  [.policyDenied, .consentBlocked, .dncBlocked, .quarantined, .failedTerminal, .completed]

def transitions : State → List State
  | .received => [.schemaValidated, .quarantined]
  | .schemaValidated => [.policyEvaluating]
  | .policyEvaluating => [.policyAllowed, .policyDenied, .consentBlocked, .dncBlocked]
  | .policyAllowed => [.outboxPending]
  | .outboxPending => [.dispatchReserved]
  | .dispatchReserved => [.dispatched, .retryPending, .quarantined]
  | .dispatched => [.n8nAcknowledged, .retryPending, .quarantined]
  | .n8nAcknowledged => [.resultReceived, .retryPending]
  | .resultReceived => [.resultValidated, .quarantined]
  | .resultValidated => [.odooApplyPending]
  | .odooApplyPending =>
    [.odooApplied, .policyDenied, .consentBlocked, .dncBlocked, .retryPending, .quarantined]
  | .odooApplied => [.completed, .quarantined]
  | .retryPending => [.dispatchReserved, .odooApplyPending, .failedTerminal]
  | _ => []

theorem transitions_terminal (final : state ∈ terminal) : transitions state = [] := by
  revert final
  cases state <;> decide

end State

/-! ## Policies, scopes, events -/

structure Policy where
  (environment businessUnitKey campaignKey eventType action policyVersion : String)
  (allow requiresConsent contactEligible : Bool)
  allowedFields : List String
  enabled : Bool

structure TenantScope where
  (environment businessUnitKey campaignKey : String)
  deriving DecidableEq

def TenantScope.fromPayload (payload : Dict) : TenantScope where
  environment := (payload.getD "environment" (.str "")).toText rt.texts
  businessUnitKey := (payload.getD "business_unit_key" (.str "")).toText rt.texts
  campaignKey := (payload.getD "campaign_key" (.str "")).toText rt.texts

structure AuditEntry where
  state : State
  resultCode : Value

structure ResultResponse where
  automationEventId : String
  state : State
  accepted : Bool

structure Event where
  automationEventId : String
  payload : Dict
  payloadHash : String
  state : State := .received
  resultHash : Option String := none
  resultResponse : Option ResultResponse := none
  resultPayload : Option Dict := none
  odooAck : Option Dict := none
  audit : List AuditEntry := []

namespace Event

variable (e : Event)

def transition (target : State) (code : Value) : Except Raised Event :=
  if target ∈ e.state.transitions then
    .ok { e with state := target, audit := e.audit ++ [⟨target, code⟩] }
  else .error (.leadAutomation ("invalid transition " ++ e.state.value ++ "->" ++ target.value))

/-- Several transitions in turn. The ones before an invalid one are not taken back. -/
def follow : Event → List AuditEntry → Event × Except Raised Unit
  | e, [] => (e, .ok ())
  | e, step :: path =>
    match e.transition step.state step.resultCode with
    | .ok e' => follow e' path
    | .error raised => (e, .error raised)

/-- The rest of the event stays as it is along a path. -/
structure Agrees (e e' : Event) : Prop where
  automationEventId : e'.automationEventId = e.automationEventId
  payload : e'.payload = e.payload
  resultPayload : e'.resultPayload = e.resultPayload
  odooAck : e'.odooAck = e.odooAck

theorem follow_agrees (e : Event) (path : List AuditEntry) : Agrees e (e.follow path).1 := by
  induction path generalizing e with
  | nil => exact ⟨rfl, rfl, rfl, rfl⟩
  | cons step path ih =>
    rw [follow, transition]
    split
    next e' moved =>
      split at moved
      · cases moved
        obtain ⟨id, payload, result, ack⟩ := ih { e with
          state := step.state, audit := e.audit ++ [⟨step.state, step.resultCode⟩] }
        exact ⟨id, payload, result, ack⟩
      · cases moved
    · exact ⟨rfl, rfl, rfl, rfl⟩

end Event

end CodestraMiddleware.LeadAutomation
