import CodestraMiddleware.ClickToCall.Policy
import CodestraMiddleware.Foundations.Transactions
import CodestraMiddleware.Telephony.Contracts

/-!
# Click-to-call

`originate_call` of `app/api/v1/telephony.py`, as one function and statement by statement. What the
identity service, the policy file, the clocks and the adapter answer is part of the call.
-/
namespace CodestraMiddleware.ClickToCall

open Relational ReadCommitted CompactJson
open Telephony (Timestamp seconds)

inductive Fault where
  | http (status : Nat) (detail : String)
  /-- An exception that no handler catches. -/
  | unhandled (message : String)

structure OriginateCallRequest where
  (idempotencyKey employeeId campaign businessUnit destination destinationClass destinationCountry :
    String)
  (destinationTimezone callerId leadModel : String)
  leadId : Int
  recordingRequested : Bool
  consent : Option Consent
  deriving DecidableEq

def Consent.json (c : Consent) : Json :=
  .object [("expiration", optional (fun t => .text t.text) c.expiration),
    ("reference", .text c.reference),
    ("scope", .text c.scope), ("source", .text c.source), ("status", .text c.status),
    ("timestamp", optional (fun t => .text t.text) c.timestamp)]

/-- `model_dump(mode="json")`, with sorted keys. -/
def OriginateCallRequest.json (b : OriginateCallRequest) : Json :=
  .object [("business_unit", .text b.businessUnit), ("caller_id", .text b.callerId),
    ("campaign", .text b.campaign),
    ("consent", optional Consent.json b.consent), ("destination", .text b.destination),
    ("destination_class", .text b.destinationClass),
    ("destination_country", .text b.destinationCountry),
    ("destination_timezone", .text b.destinationTimezone), ("employee_id", .text b.employeeId),
    ("idempotency_key", .text b.idempotencyKey), ("lead_id", .int b.leadId),
    ("lead_model", .text b.leadModel), ("recording_requested", .bool b.recordingRequested)]

/-- The fields read from the identity service's answer; `none` where the value has another type, is
missing or, for the business unit, is false. -/
structure Identity where
  campaignIds : Option (List String)
  (endpoint vicidialUsername businessUnitId : Option String)

inductive AdapterAnswer where
  /-- The client cannot be built, and nothing is dialled. -/
  | unconfigured (message : String)
  | accepts
  /-- A `VicidialMtlsError`. -/
  | refuses (reason : String)
  | raises (message : String)

structure OriginateCall where
  payload : OriginateCallRequest
  header : Option String
  generatedCorrelationId : String
  process : Nat
  monotonic : Int
  identity : Except Fault Identity
  callId : String
  now : Int
  policy : Except String Policy
  adapter : AdapterAnswer
  endedAt : Int

inductive LifecycleState where
  | started | ended
  deriving DecidableEq

inductive Dialing where
  | blocked | attempting
  deriving DecidableEq

structure OriginateResponse where
  (callId correlationId : String)
  lifecycleState : LifecycleState
  dialing : Dialing
  reason : String
  policyDecision : Decision
  deriving DecidableEq

structure Agent where
  (endpoint vicidialUsername businessUnitId : String)

structure Attempt where
  agent : Agent
  decision : Decision
  lifecycleState : LifecycleState
  endedAt : Option Int
  hangupCause : Option String
  dialing : Dialing
  reason : String

structure TelephonyCallLifecycle where
  (id correlationId primaryUniqueId : String)
  lifecycleState : LifecycleState
  startedAt : Int
  endedAt : Option Int
  hangupCause : Option String
  (sourceExtension destination : String)

structure AuditEvent where
  (subject correlationId : String)
  decision : Decision
  (employeeId campaign businessUnit leadModel : String)
  leadId : Int
  destinationReference : String

structure OutboxEvent where
  (callId correlationId leadModel : String)
  leadId : Int
  (businessUnit campaign : String)
  state : LifecycleState
  dialing : Dialing

structure IdempotencyRecord where
  (keyHash requestHash : String)
  response : OriginateResponse

def TelephonyCallLifecycle.Clash (l l' : TelephonyCallLifecycle) : Prop :=
  l.id = l'.id ∨ l.correlationId = l'.correlationId

instance : DecidableRel TelephonyCallLifecycle.Clash :=
  fun _ _ => inferInstanceAs (Decidable (_ ∨ _))

def IdempotencyRecord.Clash (r r' : IdempotencyRecord) : Prop := r.keyHash = r'.keyHash

instance : DecidableRel IdempotencyRecord.Clash := fun r r' =>
  inferInstanceAs (Decidable (r.keyHash = r'.keyHash))

structure Dial where
  (idempotencyKey callId correlationId extension vicidialUsername campaign destination callerId :
    String)

structure World where
  lifecycles : Constrained TelephonyCallLifecycle.Clash
  audits : List AuditEvent
  outbox : List OutboxEvent
  records : Constrained IdempotencyRecord.Clash
  -- By process and employee.
  originateRequests : Nat → String → List Int
  dialled : List Dial

def World.empty : World := ⟨.empty _, [], [], .empty _, fun _ _ => [], []⟩

structure OriginationRows where
  lifecycle : TelephonyCallLifecycle
  audit : AuditEvent
  outbox : OutboxEvent
  record : IdempotencyRecord

def World.insert? (w : World) (rows : OriginationRows) : Option World :=
  match w.lifecycles.insert? rows.lifecycle, w.records.insert? rows.record with
  | some lifecycles, some records =>
    some { w with
      lifecycles := lifecycles, audits := w.audits ++ [rows.audit],
           outbox := w.outbox ++ [rows.outbox],
      records := records }
  | _, _ => none

/-- The texts are no longer than the columns `String(128)`, `String(32)` and `String(64)`. -/
def OriginationRows.fits (rows : OriginationRows) : Bool :=
  decide (rows.lifecycle.correlationId.length ≤ 128 ∧ rows.lifecycle.sourceExtension.length ≤ 32 ∧
    rows.lifecycle.destination.length ≤ 64)

def OriginationRows.clash (rows rows' : OriginationRows) : Bool :=
  decide (rows.lifecycle.Clash rows'.lifecycle ∨ rows.record.Clash rows'.record)

theorem insert?_dialled {w : World} (inserted : w.insert? rows = some w') :
    w'.dialled = w.dialled := by
  unfold World.insert? at inserted
  split at inserted
  · cases inserted
    rfl
  · cases inserted

/-! ## The steps of a call -/

/-- The deployment: the standard library, SHA-256 and `allow_non_test_campaigns`. -/
structure Config where
  python : Python
  sha256 : String → String
  allowNonTestCampaigns : Bool

variable (cfg : Config)

namespace OriginateCall

variable (x : OriginateCall)

def correlationId : String := Telephony.orElse x.header x.generatedCorrelationId

def keyHash : String := cfg.sha256 x.payload.idempotencyKey

def requestHash : String := cfg.sha256 x.payload.json.dumps

def bucket (w : World) : List Int :=
  (w.originateRequests x.process x.payload.employeeId).dropWhile (· < x.monotonic - seconds 60)

def rateLimit (w : World) : World × Except Fault Unit :=
  let keep (times : List Int) : World :=
    { w with
      originateRequests := Function.update w.originateRequests x.process
        (Function.update (w.originateRequests x.process) x.payload.employeeId times) }
  if (x.bucket w).length ≥ 10 then
    (keep (x.bucket w), .error (.http 429 "call origination rate limit exceeded"))
  else (keep (x.bucket w ++ [x.monotonic]), .ok ())

/-- The agent, if the identity service authorizes it for the campaign. -/
def assignment? (identity : Identity) : Option Agent :=
  match identity.campaignIds, identity.endpoint, identity.vicidialUsername,
      identity.businessUnitId with
  | some campaigns, some endpoint, some username, some unit =>
    if x.payload.campaign ∈ campaigns ∧ endpoint ≠ "" ∧ endpoint.toList.all cfg.python.isdigit ∧
        username ≠ "" ∧ unit = x.payload.businessUnit then
      some ⟨endpoint, username, unit⟩
    else none
  | _, _, _, _ => none

def policyRequest (agent : Agent) : CallRequest where
  agentSubject := agent.vicidialUsername
  tenant := agent.businessUnitId
  businessUnit := x.payload.businessUnit
  campaign := x.payload.campaign
  extension := agent.endpoint
  callerId := x.payload.callerId
  destination := x.payload.destination
  destinationClass := x.payload.destinationClass
  destinationCountry := x.payload.destinationCountry
  destinationTimezone := x.payload.destinationTimezone
  recordingRequested := x.payload.recordingRequested
  consent := x.payload.consent
  requestedAt := x.now

/-- From the campaign guard to the policy's decision, which is asked for without a capacity. -/
def evaluate : Except Fault (Agent × Decision) :=
  if x.payload.campaign ≠ "TEST_SYN" ∧ ¬ cfg.allowNonTestCampaigns then
    .error (.http 403 "production campaigns are disabled")
  else
    match x.identity with
    | .error fault => .error fault
    | .ok identity =>
      match x.assignment? cfg identity with
      | none => .error (.http 403 "agent is not authorized for this campaign")
      | some agent =>
        if ¬ e164 x.payload.destination then
          .error (.http 422 "destination must be a valid E.164 number")
        else
          match x.policy with
          | .error message => .error (.unhandled message)
          | .ok policy =>
            match authorize cfg.python policy (x.policyRequest agent) none with
            | .error message => .error (.unhandled message)
            | .ok (decision, _) => .ok (agent, decision)

def denied (agent : Agent) (decision : Decision) : Attempt where
  agent := agent
  decision := decision
  lifecycleState := .started
  endedAt := none
  hangupCause := none
  dialing := .blocked
  reason := "policy_decision:" ++ decision.value

def dial (agent : Agent) : Dial where
  idempotencyKey := x.payload.idempotencyKey
  callId := x.callId
  correlationId := x.correlationId
  extension := agent.endpoint
  vicidialUsername := agent.vicidialUsername
  campaign := x.payload.campaign
  destination := x.payload.destination
  callerId := x.payload.callerId

/-- The adapter's part: whether it was invoked, and what the request goes on with. -/
def originate (agent : Agent) (w : World) : World × Except Fault Attempt :=
  let invoked : World := { w with dialled := w.dialled ++ [x.dial agent] }
  match x.adapter with
  | .unconfigured message => (w, .error (.unhandled message))
  -- The adapter is configured and asked from here on.
  | .accepts =>
    (invoked, .ok {
      agent := agent
      decision := .allow
      lifecycleState := .started
      endedAt := none
      hangupCause := none
      dialing := .attempting
      reason := "accepted" })
  | .refuses reason =>
    (invoked, .ok {
      agent := agent
      decision := .allow
      lifecycleState := .ended
      endedAt := some x.endedAt
      hangupCause := some "adapter_error"
      dialing := .blocked
      reason := reason })
  | .raises message => (invoked, .error (.unhandled message))

def response (attempt : Attempt) : OriginateResponse where
  callId := x.callId
  correlationId := x.correlationId
  lifecycleState := attempt.lifecycleState
  dialing := attempt.dialing
  reason := attempt.reason
  policyDecision := attempt.decision

def rows (attempt : Attempt) : OriginationRows where
  lifecycle := {
    id := x.callId
    correlationId := x.correlationId
    primaryUniqueId := "click-to-call:" ++ x.callId
    lifecycleState := attempt.lifecycleState
    startedAt := x.now
    endedAt := attempt.endedAt
    hangupCause := attempt.hangupCause
    sourceExtension := attempt.agent.endpoint
    destination := x.payload.destination }
  audit := {
    subject := x.callId
    correlationId := x.correlationId
    decision := attempt.decision
    employeeId := x.payload.employeeId
    campaign := x.payload.campaign
    businessUnit := x.payload.businessUnit
    leadModel := x.payload.leadModel
    leadId := x.payload.leadId
    destinationReference := String.ofList ((cfg.sha256 x.payload.destination).toList.take 16) }
  outbox := {
    callId := x.callId
    correlationId := x.correlationId
    leadModel := x.payload.leadModel
    leadId := x.payload.leadId
    businessUnit := x.payload.businessUnit
    campaign := x.payload.campaign
    state := attempt.lifecycleState
    dialing := attempt.dialing }
  record := {
    keyHash := x.keyHash cfg
    requestHash := x.requestHash cfg
    response := x.response attempt }

end OriginateCall

def World.replay? (keyHash : String) (w : World) : Option IdempotencyRecord :=
  w.records.find? fun r => decide (r.keyHash = keyHash)

inductive Reply where
  | placed (response : OriginateResponse)
  | replayed (response : OriginateResponse)
  deriving DecidableEq

/-- A `DataError`, which nothing catches, comes after the call was dialled. -/
def tooLong : Fault := .unhandled "value too long for type character varying"

def record (x : OriginateCall) (attempt : Attempt) (w : World) : World × Except Fault Reply :=
  if (x.rows cfg attempt).fits then
    match w.insert? (x.rows cfg attempt) with
    | some w' => (w', .ok (.placed (x.response attempt)))
    | none => (w, .error (.http 409 "concurrent origination conflict; retry safely"))
  else (w, .error tooLong)

def settle (x : OriginateCall) (agent : Agent) (decision : Decision) (w : World) :
    World × Except Fault Reply :=
  if decision = .allow then
    match x.originate agent w with
    | (w, .error fault) => (w, .error fault)
    | (w, .ok attempt) => record cfg x attempt w
  else record cfg x (OriginateCall.denied agent decision) w

def originateCall (x : OriginateCall) (w : World) : World × Except Fault Reply :=
  match w.replay? (x.keyHash cfg) with
  -- The request hash that the record has is not compared.
  | some prior => (w, .ok (.replayed prior.response))
  | none =>
    match x.rateLimit w with
    | (w, .error fault) => (w, .error fault)
    | (w, .ok ()) =>
      match x.evaluate cfg with
      | .error fault => (w, .error fault)
      | .ok (agent, decision) => settle cfg x agent decision w

/-! ## Statement by statement -/

inductive CallStage where
  | started | absent | limited
  | calling (agent : Agent)
  | recording (attempt : Attempt)
  | flushed (attempt : Attempt)
  | conflicted
  | answered (response : OriginateResponse)
  | raised (fault : Fault)
  | finished (outcome : Except Fault Reply)

/-- A request in progress. -/
structure Origination where
  call : OriginateCall
  stage : CallStage

namespace Origination

variable (x : Origination)

def enter (stage : CallStage) : Origination := { x with stage := stage }

def lookup (w : World) : CallStage :=
  match w.replay? (x.call.keyHash cfg) with
  | some prior => .answered prior.response
  | none => .absent

def evaluated : CallStage :=
  match x.call.evaluate cfg with
  | .error fault => .raised fault
  | .ok (agent, decision) =>
    if decision = .allow then .calling agent
    else .recording (OriginateCall.denied agent decision)

end Origination

def CallStage.ofResult {α : Type} (next : α → CallStage) : Except Fault α → CallStage
  | .error fault => .raised fault
  | .ok a => next a

/-- The statements of `originate_call`. Nothing is locked. -/
def originateStatement (x : Origination) : Statement World OriginationRows Empty Origination :=
  match x.stage with
  | .started => .select fun w => x.enter (x.lookup cfg w)
  | .absent => .effect fun w =>
    ((x.call.rateLimit w).1, x.enter (.ofResult (fun _ => .limited) (x.call.rateLimit w).2))
  -- The identity service is asked here.
  | .limited => .select fun _ => x.enter (x.evaluated cfg)
  | .calling agent => .effect fun w =>
    ((x.call.originate agent w).1, x.enter (.ofResult .recording (x.call.originate agent w).2))
  -- By now the call is dialled, whatever the insert comes to.
  | .recording attempt =>
    if (x.call.rows cfg attempt).fits then
      .insert (x.call.rows cfg attempt) (x.enter (.flushed attempt)) (x.enter .conflicted)
    else .rollback (x.enter (.finished (.error tooLong)))
  | .flushed attempt => .commit (x.enter (.finished (.ok (.placed (x.call.response attempt)))))
  | .conflicted => .rollback (x.enter (.finished
      (.error (.http 409 "concurrent origination conflict; retry safely"))))
  | .answered response => .rollback (x.enter (.finished (.ok (.replayed response))))
  | .raised fault => .rollback (x.enter (.finished (.error fault)))
  | .finished _ => .halt

def originateProgram : Program World OriginationRows Empty Origination where
  statement := originateStatement cfg
  insert? := World.insert?
  clash := OriginationRows.clash

variable {result : World × Except Fault Reply}

section Alone

variable (x : Origination) (w : World)

theorem originateRaised_ends (fault : Fault) :
    Ends (originateProgram cfg) w []
    (x.enter (.raised fault)) w (x.enter (.finished (.error fault))) :=
  .rollback rfl (.halt rfl)

theorem record_ends (attempt : Attempt) (records : record cfg x.call attempt w = result) :
    Ends (originateProgram cfg) w [] (x.enter (.recording attempt)) result.1
    (x.enter (.finished result.2)) := by
  subst records
  rw [record]
  split
  next fits =>
    have stmt : originateStatement cfg (x.enter (.recording attempt)) = .insert
        (x.call.rows cfg attempt) (x.enter (.flushed attempt)) (x.enter .conflicted) := if_pos fits
    cases inserted : w.insert? (x.call.rows cfg attempt) with
    | none => exact .violate stmt inserted (.rollback rfl (.halt rfl))
    | some w' => exact .store stmt inserted rfl rfl
  next long => exact .rollback (if_neg long) (.halt rfl)

theorem settle_ends (agent : Agent) (decision : Decision)
    (settles : settle cfg x.call agent decision w = result) :
    Ends (originateProgram cfg) w [] (x.enter (if decision = .allow then .calling agent
      else .recording (OriginateCall.denied agent decision))) result.1
      (x.enter (.finished result.2)) := by
  subst settles
  rw [settle]
  split
  · apply Ends.effect rfl
    cases originated : x.call.originate agent w with
    | mk w' outcome =>
      show Ends _ (x.call.originate agent w).1 []
        (x.enter (.ofResult .recording (x.call.originate agent w).2)) _ _
      rw [originated]
      cases outcome with
      | error fault => exact originateRaised_ends cfg x w' fault
      | ok attempt => exact record_ends cfg x w' attempt rfl
  · exact record_ends cfg x w _ rfl

/-- Alone, the request ends with what `originateCall` computes. -/
theorem originateCall_ends (call : OriginateCall) (calls : originateCall cfg call w = result) :
    Ends (originateProgram cfg) w [] ⟨call, .started⟩ result.1 ⟨call, .finished result.2⟩ := by
  subst calls
  let x : Origination := ⟨call, .started⟩
  rw [originateCall]
  apply Ends.select rfl
  show Ends _ w [] (x.enter (x.lookup cfg w)) _ _
  rw [Origination.lookup]
  cases w.replay? (call.keyHash cfg) with
  | some prior => exact .rollback rfl (.halt rfl)
  | none =>
    apply Ends.effect rfl
    show Ends _ (call.rateLimit w).1 [] (x.enter
      (.ofResult (fun _ => .limited) (call.rateLimit w).2)) _ _
    cases call.rateLimit w with
    | mk w' outcome =>
      cases outcome with
      | error fault => exact originateRaised_ends cfg x w' fault
      | ok =>
        apply Ends.select rfl
        show Ends _ w' [] (x.enter (x.evaluated cfg)) _ _
        rw [Origination.evaluated]
        cases call.evaluate cfg with
        | error fault => exact originateRaised_ends cfg x w' fault
        | ok evaluated => exact settle_ends cfg x w' evaluated.1 evaluated.2 rfl

end Alone

/-! ## A sample call

The digests are those of SHA-256. Santo Domingo is four hours behind UTC all year.
-/

namespace Sample

def now : Int := 1787238000000000

def santoDomingo (instant : Int) : ZoneAnswer :=
  let there := instant - seconds 14400
  .localTime ((there / seconds 86400 + 3) % 7) (there % seconds 86400)

def python : Python where
  isdigit c := c.isDigit
  zoneInfo name instant :=
    if name = "America/Santo_Domingo" then santoDomingo instant else .notFound

def policy : Policy where
  enabled := true
  killSwitch := false
  allowedCampaign := some "TEST_SYN"
  allowedBusinessUnit := some "COD"
  allowedAgent := some "agent.syn"
  allowedExtension := some "7410"
  allowedCallerId := some "+18095550100"
  allowedDestination := some "+18095550101"
  allowedDestinationClasses := ["CONSENTED_PILOT"]
  allowedCountries := ["DO"]
  prohibitedDestinations := []
  timezone := some "America/Santo_Domingo"
  callingStart := some (seconds 28800)
  callingEnd := some (seconds 64800)
  allowedWeekdays := [0, 1, 2, 3, 4]
  pilotStart := some (now - seconds 3600)
  pilotEnd := some (now + seconds 3600)
  maxConcurrentCalls := 1
  maxCallAttempts := 1
  recordingMode := "disabled"
  emergencyBlocking := true
  premiumBlocking := true
  consentRequired := true

def payload (key : String) (leadId : Int) : OriginateCallRequest where
  idempotencyKey := key
  employeeId := "EMP-001"
  campaign := "TEST_SYN"
  businessUnit := "COD"
  destination := "+18095550101"
  destinationClass := "CONSENTED_PILOT"
  destinationCountry := "DO"
  destinationTimezone := "America/Santo_Domingo"
  callerId := "+18095550100"
  leadModel := "crm.lead"
  leadId := leadId
  recordingRequested := false
  consent := some {
    status := "granted"
    scope := "production-webrtc-pilot"
    timestamp := some ⟨"2026-08-19T15:00:00Z", now - seconds 86400, true⟩
    expiration := some ⟨"2026-08-21T15:00:00Z", now + seconds 86400, true⟩
    source := "written"
    reference := "ref-1" }

def call (id key : String) (leadId : Int) : OriginateCall where
  payload := payload key leadId
  header := none
  generatedCorrelationId := "corr-" ++ id
  process := 1
  monotonic := seconds 1000
  identity := .ok ⟨some ["TEST_SYN"], some "7410", some "agent.syn", some "COD"⟩
  callId := id
  now := now
  policy := .ok policy
  adapter := .accepts
  endedAt := now + seconds 1

def digests : List (String × String) := [
  ("originate-sample-key-0001", "a3adb451dddfaa4fd82ae176a4aa6c54ed602e5c52badf9dac6a8b1ec7b8ddd8"),
  ("originate-sample-key-0002", "8a9f6f1eda1b2167be3b8f06c5458ba758f0cb8d835bcbd8f56849afc4c76c67"),
  ("+18095550101", "4a19fa3c128c43fa14cecdb168f16f5617a75a72759359cae74ca164cb7c1eea"),
  ((payload "originate-sample-key-0001" 42).json.dumps,
    "8e0a7a286a18fbdba2eb926bf4f02d27eddb28a58547b130996c34ec441b23f0"),
  ((payload "originate-sample-key-0001" 43).json.dumps,
    "9edf528c9edb902d591881c28dff6f92416a04ff601ca503dad22cd3d91604e2")]

def config : Config where
  python := python
  sha256 text := ((digests.find? (·.1 = text)).map (·.2)).getD ""
  allowNonTestCampaigns := false

example : (call "call-1" "originate-sample-key-0001" 42).evaluate config =
    .ok (⟨"7410", "agent.syn", "COD"⟩, .allow) := by rfl

end Sample

/-! ## Premium numbers -/

def Python.ReadsAscii (python : Python) : Prop := ∀ c : Char, c.toNat < 128 →
    python.isdigit c = c.isDigit

def NorthAmericanPremium (number : String) : Prop := ['+', '1', '9', '0', '0'] <+: number.toList

def BritishPremium (number : String) : Prop := ['+', '4', '4', '9'] <+: number.toList

/-- Every term of `authorize` but the one about premium numbers lets the request pass. -/
structure Cleared (python : Python) (p : Policy) (request : CallRequest) : Prop where
  active : p.enabled = true ∧ p.killSwitch = false ∧ p.validateForActivation = []
  campaign : some request.campaign = p.allowedCampaign ∧
    some request.businessUnit = p.allowedBusinessUnit
  agent : some request.agentSubject = p.allowedAgent ∧ some request.extension = p.allowedExtension ∧
    request.tenant ≠ ""
  callerId : some request.callerId = p.allowedCallerId
  ordinary : isEmergency python request.destination request.destinationCountry = false
  destination : e164 request.destination = true ∧ some request.destination = p.allowedDestination ∧
    request.destination ∉ p.prohibitedDestinations ∧
    request.destinationClass ∈ p.allowedDestinationClasses
  country : request.destinationCountry ∈ p.allowedCountries
  pilot : p.pilotStart.any (request.requestedAt < ·) = false ∧
    p.pilotEnd.any (· ≤ request.requestedAt) = false
  consent : p.consentRequired = true → consentLacking request.requestedAt
    request.consent = .ok false
  recording : ¬ (p.recordingMode = "disabled" ∧ request.recordingRequested = true) ∧
    ¬ (p.recordingMode = "required" ∧ request.recordingRequested = false)
  hours : callingHours python p request = .ok .allow

/-- A destination that is a premium number is one of +1900 and comes with a country of that plan. -/
def OwnPlan (request : CallRequest) : Prop :=
  (NorthAmericanPremium request.destination → request.destinationCountry ∈ ["US", "CA", "DO"]) ∧
    ¬ BritishPremium request.destination

theorem denial_iff [Decidable c] {d : Decision} (other : d ≠ .allow) :
    (if c then .ok d else terms : Except String Decision) = .ok .allow ↔
    ¬c ∧ terms = .ok .allow := by
  split <;> simp_all

theorem authorizeTerms_allow_iff : authorizeTerms python p request = .ok .allow ↔
    Cleared python p request ∧ isPremium python request.destination
    request.destinationCountry = false := by
  unfold authorizeTerms
  dsimp only
  constructor
  · intro allowed
    obtain ⟨active, allowed⟩ := (denial_iff (by decide)).mp allowed
    obtain ⟨campaign, allowed⟩ := (denial_iff (by decide)).mp allowed
    obtain ⟨agent, allowed⟩ := (denial_iff (by decide)).mp allowed
    obtain ⟨callerId, allowed⟩ := (denial_iff (by decide)).mp allowed
    obtain ⟨emergency, allowed⟩ := (denial_iff (by decide)).mp allowed
    obtain ⟨premium, allowed⟩ := (denial_iff (by decide)).mp allowed
    obtain ⟨destination, allowed⟩ := (denial_iff (by decide)).mp allowed
    obtain ⟨country, allowed⟩ := (denial_iff (by decide)).mp allowed
    obtain ⟨pilot, allowed⟩ := (denial_iff (by decide)).mp allowed
    split at allowed
    · cases allowed
    · cases allowed
    next consent =>
      obtain ⟨disabled, allowed⟩ := (denial_iff (by decide)).mp allowed
      obtain ⟨required, hours⟩ := (denial_iff (by decide)).mp allowed
      refine ⟨⟨?_, ?_, ?_, not_not.mp callerId, by simpa using emergency, ?_,
        not_not.mp country, ?_, ?_, ?_, hours⟩, by simpa using premium⟩
      · simpa [not_or] using active
      · simpa [not_or] using campaign
      · simpa [not_or] using agent
      · simpa [not_or] using destination
      · simpa only [not_or, Bool.not_eq_true] using pilot
      · intro needed
        rwa [if_pos needed] at consent
      · exact ⟨disabled, by simpa using required⟩
  · rintro ⟨⟨⟨enabled, live, activatable⟩, ⟨campaign, unit⟩, ⟨agent, extension, tenant⟩,
      callerId, emergency,
      ⟨e164, number, permitted, kind⟩, country, ⟨started, running⟩, consent, ⟨disabled, required⟩,
      hours⟩, premium⟩
    have consented : (if p.consentRequired then consentLacking request.requestedAt request.consent
        else .ok false) = .ok false := by
      split
      next needed => exact consent needed
      next => rfl
    simp [enabled, live, activatable, campaign, unit, agent, extension, tenant, callerId,
      emergency, premium,
      e164, number, permitted, kind, country, started, running, consented, disabled,
      required, hours]

/-- The digits of a +1900 number are taken for a premium number in its own plan only, those of a
+449 number in none. -/
theorem isPremium_northAmerican (reads : python.ReadsAscii)
    (premium : NorthAmericanPremium number) :
    isPremium python number country = decide (country ∈ ["US", "CA", "DO"]) := by
  obtain ⟨rest, start⟩ := premium
  have digits : digits python number = '1' :: '9' :: '0' :: '0' :: rest.filter python.isdigit := by
    rw [ClickToCall.digits, ← start]
    simp [reads '+' (by decide), reads '1' (by decide), reads '9' (by decide),
      reads '0' (by decide)]
  by_cases own : country ∈ ["US", "CA", "DO"] <;>
    simp [isPremium, national, digits, own, List.isPrefixOf]

theorem isPremium_british (reads : python.ReadsAscii) (premium : BritishPremium number) :
    isPremium python number country = false := by
  obtain ⟨rest, start⟩ := premium
  have digits : digits python number = '4' :: '4' :: '9' :: rest.filter python.isdigit := by
    rw [ClickToCall.digits, ← start]
    simp [reads '+' (by decide), reads '4' (by decide), reads '9' (by decide)]
  simp [isPremium, national, digits, List.isPrefixOf]

/-- No premium number is allowed exactly if a request that passes all the other terms is not for a
+449 number, nor for a +1900 number with a country outside its plan. -/
theorem premium_never_allowed_iff (python : Python) (reads : python.ReadsAscii) (p : Policy)
    (request : CallRequest) (capacity : Option Capacity) :
    ((authorize python p request capacity).map Prod.fst = .ok .allow →
        ¬ NorthAmericanPremium request.destination ∧ ¬ BritishPremium request.destination) ↔
      (Cleared python p request → (∀ c ∈ capacity, (c.reserve p).isSome) → OwnPlan request) := by
  have allowed_iff : (authorize python p request capacity).map Prod.fst = .ok .allow ↔
      (Cleared python p request ∧ isPremium python request.destination
        request.destinationCountry = false) ∧ ∀ c ∈ capacity, (c.reserve p).isSome := by
    rw [← authorizeTerms_allow_iff]
    cases capacity with
    | none => simp [authorize_none]
    | some c => simp [authorize_some_allow]
  rw [allowed_iff]
  constructor
  · intro never cleared room
    constructor
    · intro premium
      by_contra foreign
      have passes := (isPremium_northAmerican reads premium).trans (decide_eq_false foreign)
      exact (never ⟨⟨cleared, passes⟩, room⟩).1 premium
    · intro premium
      exact (never ⟨⟨cleared, isPremium_british reads premium⟩, room⟩).2 premium
  · rintro plan ⟨⟨cleared, ordinary⟩, room⟩
    obtain ⟨own, british⟩ := plan cleared room
    refine ⟨fun premium => ?_, british⟩
    rw [isPremium_northAmerican reads premium] at ordinary
    exact of_decide_eq_false ordinary (own premium)

namespace Sample

def dialled (destination country : String) : CallRequest :=
  { (call "call-1" "originate-sample-key-0001" 42).policyRequest ⟨"7410", "agent.syn", "COD"⟩ with
    destination, destinationCountry := country }

def permitting (destination : String) : Policy :=
  { policy with allowedDestination := some destination, allowedCountries := ["GB"] }

end Sample

open Sample

/-- The sample call passes every term, and its number is of neither plan. -/
theorem ordinary_allowed : ¬ NorthAmericanPremium "+18095550101" ∧
    ¬ BritishPremium "+18095550101" := by
  refine (premium_never_allowed_iff python (fun _ _ => rfl) policy
    (dialled "+18095550101" "DO") none).mpr (fun _ _ => ⟨fun _ => ?_, ?_⟩) rfl
  · decide
  · unfold BritishPremium
    decide

theorem premium_allowed :
    authorize python (permitting "+449012345678") (dialled "+449012345678" "GB") none =
    .ok (.allow, none) ∧
      authorize python (permitting "+19005550101") (dialled "+19005550101" "GB") none =
      .ok (.allow, none) := by
  exact ⟨rfl, rfl⟩

theorem first_originate_ends : ∃ w outcome, Ends (originateProgram config) .empty []
    ⟨call "call-1" "key" 42, .started⟩ w ⟨call "call-1" "key" 42, .finished outcome⟩ :=
  ⟨_, _, originateCall_ends config _ _ rfl⟩

end CodestraMiddleware.ClickToCall
