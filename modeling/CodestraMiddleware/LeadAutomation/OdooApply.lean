import CodestraMiddleware.LeadAutomation.Contracts

/-!
# The request to Odoo and its acknowledgement

`build_apply_payload`, `validate_apply`, `validate_ack` and `classify_ack` of
`app/adapters/odoo/lead_automation.py`, with the eight attribute schemas under
`schemas/lead-automation`.
-/
namespace CodestraMiddleware.LeadAutomation

open PythonValue Raising

variable (rt : Runtime)

/-! ## Attribute schemas -/

/-- A pattern `^<literal>[A-Z0-9_-]{least,most}$`, where the class may have the
small letters too. -/
structure Pattern where
  literal : String := ""
  small : Bool := false
  (least most : Nat)

def Pattern.fullmatch (p : Pattern) (s : String) : Bool :=
  let rest := s.toList.drop p.literal.length
  decide (s.toList.take p.literal.length = p.literal.toList) &&
    rest.all (fun c => decide (('A' ≤ c ∧ c ≤ 'Z') ∨ ('0' ≤ c ∧ c ≤ '9') ∨ c = '_' ∨ c = '-' ∨
      (p.small ∧ 'a' ≤ c ∧ c ≤ 'z'))) && decide (p.least ≤ rest.length ∧ rest.length ≤ p.most)

inductive AttributeRule where
  | enum (values : List String)
  | boolean
  | string (pattern : Pattern)

def AttributeRule.accepts : AttributeRule → Value → Bool
  | .enum values, v => values.any fun value => v.eq (.str value)
  | .boolean, .bool _ => true
  | .string pattern, .str s => pattern.fullmatch s
  | _, _ => false

structure AttributeSchema where
  maxProperties : Nat
  properties : List (String × AttributeRule)

def contactReference : AttributeRule :=
  .string { literal := "CONTACT-", small := true, least := 8, most := 64 }

def regionKey : AttributeRule := .string { least := 2, most := 16 }

/-- The files of `schemas/lead-automation`. -/
def attributeSchemas : List (String × AttributeSchema) :=
  [("transportation-logistics-lead-v1", ⟨6, [
    ("contact_reference", contactReference),
    ("shipment_mode", .enum ["GROUND", "AIR", "SEA", "MULTIMODAL"]),
    ("origin_region", regionKey), ("destination_region", regionKey),
    ("load_class", .enum ["PARCEL", "LTL", "FTL", "CONTAINER"]),
    ("estimated_volume_band", .enum ["LOW", "MEDIUM", "HIGH"])]⟩), ("web-mobile-ai-lead-v1", ⟨5, [
    ("contact_reference", contactReference),
    ("solution_type", .enum ["WEB", "MOBILE", "AI", "INTEGRATION"]),
    ("company_size_band", .enum ["MICRO", "SMALL", "MEDIUM", "ENTERPRISE"]),
    ("budget_band", .enum ["LOW", "MEDIUM", "HIGH"]),
    ("delivery_window", .enum ["IMMEDIATE", "QUARTER", "HALF_YEAR", "UNSPECIFIED"])]⟩),
  ("senior-citizen-products-lead-v1", ⟨4, [("contact_reference", contactReference),
    ("product_category", .enum ["MOBILITY", "SAFETY", "WELLNESS", "HOME_SUPPORT"]),
    ("service_region", regionKey),
    ("accessibility_support", .boolean)]⟩),
    ("business-loan-lead-v1", ⟨5, [("contact_reference", contactReference),
    ("loan_purpose", .enum ["WORKING_CAPITAL", "EQUIPMENT", "EXPANSION", "REFINANCE"]),
    ("amount_band", .enum ["MICRO", "SMALL", "MEDIUM", "LARGE"]),
    ("business_age_band", .enum ["STARTUP", "ONE_TO_THREE", "FOUR_PLUS"]),
    ("industry_key", .string { least := 2, most := 24 })]⟩), ("real-estate-lead-v1", ⟨5, [
    ("contact_reference", contactReference),
    ("transaction_type", .enum ["BUY", "SELL", "RENT", "INVEST"]),
    ("property_type", .enum ["RESIDENTIAL", "COMMERCIAL", "LAND"]), ("region_key", regionKey),
    ("budget_band", .enum ["LOW", "MEDIUM", "HIGH", "PREMIUM"])]⟩), ("fundraising-lead-v1", ⟨4, [
    ("contact_reference", contactReference),
    ("campaign_type", .enum ["NONPROFIT", "COMMUNITY", "EDUCATION", "MEDICAL"]),
    ("interest_band", .enum ["LOW", "MEDIUM", "HIGH"]), ("region_key", regionKey)]⟩),
    ("trading-ai-lead-v1", ⟨4, [
    ("contact_reference", contactReference),
    ("experience_band", .enum ["BEGINNER", "INTERMEDIATE", "ADVANCED"]),
    ("product_interest", .enum ["ANALYTICS", "AUTOMATION", "EDUCATION"]), ("risk_profile_reference",
      .string { literal := "RISK-", small := true, least := 8, most := 64 })]⟩),
      ("farming-lead-v1", ⟨5, [
    ("contact_reference", contactReference),
    ("operation_type", .enum ["CROP", "LIVESTOCK", "MIXED", "PROCESSING"]),
    ("acreage_band", .enum ["SMALL", "MEDIUM", "LARGE"]), ("region_key", regionKey),
    ("solution_interest", .enum ["EQUIPMENT", "INPUTS", "FINANCE", "TECHNOLOGY"])]⟩)]

theorem attributeSchemas_fields : attributeSchemaFields =
    attributeSchemas.map fun schema => (schema.1, schema.2.properties.map (·.1)) := by decide

theorem attributeSchemas_maxProperties :
    ∀ schema ∈ attributeSchemas, schema.2.maxProperties = schema.2.properties.length := by
  intro schema member
  simp only [attributeSchemas, List.mem_cons, List.not_mem_nil, or_false] at member
  rcases member with rfl | rfl | rfl | rfl | rfl | rfl | rfl | rfl <;> rfl

def item (payload : List (String × Value)) (name : String) : Except Raised Value :=
  match payload.lookup name with
  | some v => .ok v
  | none => .error (.keyError name)

variable {v : Value}

@[simp] theorem item_eq_ok : item payload name = .ok v ↔ payload.lookup name = some v := by
  cases found : payload.lookup name <;> simp [item, found]

def bounded (maximum : Nat) (literal : String) : Value → Bool
  | .str s => decide (s ≠ "" ∧ s.length ≤ maximum) && literal.toList.isPrefixOf s.toList
  | _ => false

def boundedString (v : Value) (label : String) (maximum : Nat) (literal : String := "") :
    Except Raised Unit :=
  check (bounded maximum literal v = true) (.applySchema ("invalid " ++ label))

def environments : List String := ["test", "staging", "production"]

def requiredApplyFields : List String := [
  "contract_version", "automation_event_id", "idempotency_key", "environment", "company_key",
  "business_unit_key", "campaign_key", "automation_action", "policy_version", "correlation_id",
  "attributes_schema_key", "attributes", "consent_snapshot", "workflow_execution_id", "result_code"]

def optionalApplyFields : List String := ["lead_uid", "source_reference"]

def validateAttributes (schemaKey attributes : Value) : Except Raised Unit := do
  let known ← typed (schemaKey.isIn (attributeSchemas.map (·.1)))
  check (known = true) (.applySchema "unknown attributes_schema_key")
  match attributeSchemas.find? fun schema => schemaKey.eq (.str schema.1), attributes with
  | some (_, schema), .dict entries =>
    check (entries.length ≤ schema.maxProperties) (.applySchema "invalid attributes")
    check (∀ entry ∈ entries, entry.1 ∈ schema.properties.map (·.1))
      (.applySchema "attribute outside registered schema")
    entries.forM fun entry =>
      check (∀ rule ∈ schema.properties.lookup entry.1, rule.accepts entry.2 = true)
        (.applySchema ("invalid attribute " ++ entry.1))
  | _, _ => .error (.applySchema "invalid attributes")

def consentFields : List String :=
  ["consent_status", "consent_purpose", "consent_source", "consent_updated_at", "dnc_status",
  "dnc_updated_at", "jurisdiction", "source_system"]

def flag (raised : Raised) : Value → Except Raised Unit
  | .bool _ => .ok ()
  | _ => .error raised

@[simp] theorem flag_eq_ok : flag raised v = .ok u ↔ ∃ b, v = .bool b := by
  cases v <;> simp [flag]

def validateConsent : Value → Except Raised Unit
  | .dict consent => do
    check (consent.map (·.1) ⊆ consentFields ∧ consentFields ⊆ consent.map (·.1))
      (.applySchema "invalid consent_snapshot")
    let status ← item consent "consent_status"
    let known ← typed (status.isIn ["granted", "denied", "expired", "unknown"])
    check (known = true) (.applySchema "invalid consent_snapshot")
    flag (.applySchema "invalid consent_snapshot") (← item consent "dnc_status")
  | _ => .error (.applySchema "invalid consent_snapshot")

def hexDigit (c : Char) : Bool :=
  decide (('0' ≤ c ∧ c ≤ '9') ∨ ('a' ≤ c ∧ c ≤ 'f') ∨ ('A' ≤ c ∧ c ≤ 'F'))

def boundedFields : List (String × Nat) := [
  ("company_key", 18), ("business_unit_key", 63), ("campaign_key", 64), ("policy_version", 32),
  ("attributes_schema_key", 64), ("result_code", 48)]

def boundedOptions : List (String × String × Nat) :=
  [("lead_uid", "LEAD-", 69), ("source_reference", "SRC-", 68)]

def validateOption (payload : List (String × Value)) (option : String × String × Nat) :
    Except Raised Unit :=
  match payload.lookup option.1 with
  | some v => boundedString v option.1 option.2.2 option.2.1
  | none => .ok ()

def validateApply (payload : List (String × Value)) : Except Raised Unit := do
  check (requiredApplyFields ⊆ payload.map (·.1) ∧ payload.map (·.1) ⊆ requiredApplyFields ++
    optionalApplyFields) (.applySchema "apply fields do not match contract")
  let version ← item payload "contract_version"
  check (version.eq (.str "1.1") = true) (.applySchema "contract version mismatch")
  boundedString (← item payload "automation_event_id") "automation_event_id" 68 "LAE-"
  let idem ← item payload "idempotency_key"
  boundedString idem "idempotency_key" 64
  check (∃ s ∈ idem.text?, s.length = 64 ∧ s.toList.all hexDigit = true)
    (.applySchema "invalid idempotency_key")
  let environment ← item payload "environment"
  let served ← typed (environment.isIn environments)
  check (served = true) (.applySchema "invalid apply enum")
  let action ← item payload "automation_action"
  let known ← typed (action.isIn actions)
  check (known = true) (.applySchema "invalid apply enum")
  boundedFields.forM fun field => do
    boundedString (← item payload field.1) field.1 field.2
  let company ← fullmatch companyKey (← item payload "company_key")
  check (company = true) (.applySchema "invalid company_key")
  let correlation ← item payload "correlation_id"
  check (rt.uuid (correlation.toText rt.texts) = true) (.applySchema "invalid correlation_id")
  boundedString (← item payload "workflow_execution_id") "workflow_execution_id" 68 "N8N-"
  boundedOptions.forM (validateOption payload)
  validateAttributes (← item payload "attributes_schema_key") (← item payload "attributes")
  validateConsent (← item payload "consent_snapshot")

def eventFields : List String :=
  ["idempotency_key", "environment", "company_key", "business_unit_key", "campaign_key",
  "automation_action", "policy_version", "correlation_id", "attributes_schema_key", "attributes",
    "consent_snapshot"]

def items (payload : Dict) : List String → Except Raised (List (String × Value))
  | [] => .ok []
  | name :: names => do
    let v ← item payload.entries name
    let rest ← items payload names
    .ok ((name, v) :: rest)

theorem item_eq_ok_iff {payload : Dict} :
    item payload.entries name = .ok v ↔ name ∈ payload.keys ∧ v = payload.getD name .null := by
  rw [item_eq_ok, ← payload.get?_isSome_iff, Dict.getD, Dict.get?]
  cases payload.entries.lookup name <;> simp [eq_comm]

theorem items_eq_ok_iff {payload : Dict} : items payload names = .ok fields ↔
      names ⊆ payload.keys ∧ fields = names.map fun name => (name, payload.getD name .null) := by
  induction names generalizing fields with
  | nil => simp [items, eq_comm]
  | cons name names ih =>
    simp only [items, bind_eq_ok, item_eq_ok_iff, ih, Except.ok.injEq, List.cons_subset,
      List.map_cons]
    constructor
    · rintro ⟨_, ⟨here, rfl⟩, _, ⟨there, rfl⟩, rfl⟩
      exact ⟨⟨here, there⟩, rfl⟩
    · rintro ⟨⟨here, there⟩, rfl⟩
      exact ⟨_, ⟨here, rfl⟩, _, ⟨there, rfl⟩, rfl⟩

def buildApplyPayload (event result : Dict) (automationEventId : String) :
    Except Raised (List (String × Value)) := do
  let fromEvent ← items event eventFields
  let fromResult ← items result ["workflow_execution_id", "result_code"]
  let payload := [("contract_version", .str "1.1"),
    ("automation_event_id", .str automationEventId)] ++
    fromEvent ++ fromResult ++
    optionalApplyFields.filterMap fun name => (event.get? name).map fun v => (name, v)
  validateApply rt payload
  .ok payload

/-! ## The acknowledgement -/

def ackResults : List String :=
  ["APPLIED", "NO_CHANGE", "DENIED", "CONSENT_BLOCKED", "DNC_BLOCKED", "QUARANTINED", "FAILED"]

def retryableResultCodes : List String := ["TEMPORARY_UNAVAILABLE", "ODOO_TEMPORARY_UNAVAILABLE"]

def requiredAckFields : List String := [
  "contract_version", "automation_event_id", "automation_action", "lead_uid", "odoo_record_id",
  "result", "applied_fields", "unchanged_fields", "rejected_fields", "company_key",
  "business_unit_key", "campaign_key", "policy_version", "updated_at", "idempotent_replay"]

def boundFields : List String := [
  "automation_event_id", "automation_action", "company_key", "business_unit_key", "campaign_key",
    "policy_version"]

/-- Whether the record is missing, or a positive integer. `True` counts as one. -/
def recordId : Value → Bool
  | .null | .bool true => true
  | .int n => decide (1 ≤ n)
  | _ => false

def validateNames (field : String) : Value → Except Raised Unit
  | .list names => do
    check (names.length ≤ 20) (.ackValidation ("invalid " ++ field))
    check (names.all (·.hashable) = true) .typeError
    check ((names.map (·.text?)).Nodup ∧ ∀ name ∈ names, bounded 48 "" name = true)
      (.ackValidation ("invalid " ++ field))
  | _ => .error (.ackValidation ("invalid " ++ field))

def validateUpdatedAt : Value → Except Raised Unit
  | .str s =>
    match rt.fromisoformat s with
    | .aware (some _) => .ok ()
    | .aware none => .error .overflowError
    | .invalid | .naive => .error (.ackValidation "invalid updated_at")
  | _ => .error .typeError

/-- The lead has to be the one of the request, where the request names one. -/
def validateLead (request : List (String × Value)) (lead : Value) : Except Raised Unit :=
  match request.lookup "lead_uid" with
  | none | some .null => .ok ()
  | some expected => check (lead.eq expected = true) (.ackValidation "ack lead_uid mismatch")

def validateAck (ack : Dict) (request : List (String × Value)) : Except Raised Unit := do
  check (requiredAckFields ⊆ ack.keys ∧ ack.keys ⊆ requiredAckFields ++ ["result_code"])
    (.ackValidation "ack fields do not match contract")
  let version ← item ack.entries "contract_version"
  let unknown := Raised.ackValidation "unknown acknowledgement contract or result"
  check (version.eq (.str "1.1") = true) unknown
  let result ← item ack.entries "result"
  let known ← typed (result.isIn ackResults)
  check (known = true) unknown
  boundFields.forM fun field => do
    let answered ← item ack.entries field
    let asked ← item request field
    check (answered.eq asked = true) (.ackValidation ("ack " ++ field ++ " mismatch"))
  let lead ← item ack.entries "lead_uid"
  validateLead request lead
  check (bounded 69 "LEAD-" lead = true) (.ackValidation "invalid lead_uid")
  let record ← item ack.entries "odoo_record_id"
  check (recordId record = true) (.ackValidation "invalid odoo_record_id")
  check (result.isIn ["APPLIED", "NO_CHANGE"] = some true → record.eq .null = false)
    (.ackValidation "successful ack requires odoo_record_id")
  ["applied_fields", "unchanged_fields", "rejected_fields"].forM fun field => do
    validateNames field (← item ack.entries field)
  flag (.ackValidation "invalid idempotent_replay") (← item ack.entries "idempotent_replay")
  validateUpdatedAt rt (← item ack.entries "updated_at")
  check (result.eq (.str "FAILED") = true → (ack.getD "result_code" .null).eq .null = false)
    (.ackValidation "FAILED requires result_code")

inductive AckClass where
  | complete | retry | permanent
  deriving DecidableEq

def classifyAck (ack : Dict) : Except Raised AckClass := do
  let result ← item ack.entries "result"
  let done ← typed (result.isIn ["APPLIED", "NO_CHANGE"])
  if done then .ok .complete
  else if result.eq (.str "FAILED") then
    let retryable ← typed ((ack.getD "result_code" .null).isIn retryableResultCodes)
    if retryable then .ok .retry else .ok .permanent
  else .ok .permanent

end CodestraMiddleware.LeadAutomation
