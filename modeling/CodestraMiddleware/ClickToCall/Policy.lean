import CodestraMiddleware.Telephony.Schema

/-!
# The production call policy

`app/core/webrtc_production_policy.py`: the default-deny policy that decides whether a call may be
placed, and the counters that bound calls and attempts.
-/
namespace CodestraMiddleware.ClickToCall

open Telephony (Timestamp)

inductive Decision where
  | allow | deny | denyNoConsent | denyOutsideCallingHours | denyEmergency | denyPremium
  | denyProhibited | denyUnsupportedCountry | denyUnauthorizedAgent | denyUnauthorizedCampaign
  | denyUnauthorizedCallerId | denyOutsidePilotWindow | denyCapacity
  deriving DecidableEq

def Decision.value : Decision → String
  | .allow => "ALLOW"
  | .deny => "DENY"
  | .denyNoConsent => "DENY_NO_CONSENT"
  | .denyOutsideCallingHours => "DENY_OUTSIDE_CALLING_HOURS"
  | .denyEmergency => "DENY_EMERGENCY"
  | .denyPremium => "DENY_PREMIUM"
  | .denyProhibited => "DENY_PROHIBITED"
  | .denyUnsupportedCountry => "DENY_UNSUPPORTED_COUNTRY"
  | .denyUnauthorizedAgent => "DENY_UNAUTHORIZED_AGENT"
  | .denyUnauthorizedCampaign => "DENY_UNAUTHORIZED_CAMPAIGN"
  | .denyUnauthorizedCallerId => "DENY_UNAUTHORIZED_CALLER_ID"
  | .denyOutsidePilotWindow => "DENY_OUTSIDE_PILOT_WINDOW"
  | .denyCapacity => "DENY_CAPACITY"

structure Consent where
  (status scope : String)
  (timestamp expiration : Option Timestamp)
  (source reference : String)
  deriving DecidableEq

structure CallRequest where
  (agentSubject tenant businessUnit campaign extension callerId destination destinationClass :
    String)
  (destinationCountry destinationTimezone : String)
  recordingRequested : Bool
  consent : Option Consent
  requestedAt : Int

/-- The calling hours are microseconds since midnight, the pilot window is given by instants. -/
structure Policy where
  (enabled killSwitch : Bool)
  (allowedCampaign allowedBusinessUnit allowedAgent allowedExtension allowedCallerId :
    Option String)
  allowedDestination : Option String
  (allowedDestinationClasses allowedCountries prohibitedDestinations : List String)
  timezone : Option String
  (callingStart callingEnd : Option Int)
  allowedWeekdays : List Int
  (pilotStart pilotEnd : Option Int)
  (maxConcurrentCalls maxCallAttempts : Int)
  recordingMode : String
  (emergencyBlocking premiumBlocking consentRequired : Bool)

namespace Policy

variable (p : Policy)

def missing : List String :=
  ([("allowed_campaign", p.allowedCampaign.isNone),
    ("allowed_business_unit", p.allowedBusinessUnit.isNone),
    ("allowed_agent", p.allowedAgent.isNone), ("allowed_extension", p.allowedExtension.isNone),
    ("allowed_caller_id", p.allowedCallerId.isNone),
    ("allowed_destination", p.allowedDestination.isNone),
    ("timezone", p.timezone.isNone), ("calling_start", p.callingStart.isNone),
    ("calling_end", p.callingEnd.isNone), ("pilot_start", p.pilotStart.isNone),
    ("pilot_end", p.pilotEnd.isNone)].filter (·.2)).map fun required => "missing_" ++ required.1

def validateForActivation : List String :=
  p.missing ++
  (if p.emergencyBlocking then [] else ["emergency_blocking_required"]) ++
  (if p.premiumBlocking then [] else ["premium_blocking_required"]) ++
  (if p.consentRequired then [] else ["consent_engine_required"]) ++
  (if p.allowedCountries = [] then ["country_allowlist_required"] else []) ++
  (if p.allowedDestinationClasses = [] then ["destination_class_allowlist_required"] else []) ++
  (if p.maxConcurrentCalls = 1 then [] else ["max_concurrent_calls_must_equal_1"]) ++
  (if p.maxCallAttempts = 1 then [] else ["max_call_attempts_must_equal_1"]) ++
  (if p.recordingMode ∈ ["disabled", "allowed", "required"] then [] else ["invalid_recording_mode"])

theorem ceilings_of_activatable (activatable : p.validateForActivation = []) :
    p.maxConcurrentCalls = 1 ∧ p.maxCallAttempts = 1 := by
  simp only [validateForActivation, List.append_eq_nil_iff, ite_eq_left_iff, List.cons_ne_nil,
    imp_false, not_not] at activatable
  exact ⟨activatable.1.1.2, activatable.1.2⟩

end Policy

def e164 (s : String) : Bool :=
  match s.toList with
  | '+' :: first :: rest =>
    decide ('1' ≤ first ∧ first ≤ '9') && rest.all (fun c => decide ('0' ≤ c ∧ c ≤ '9')) &&
      decide (7 ≤ rest.length ∧ rest.length ≤ 14)
  | _ => false

/-- What `now.astimezone(ZoneInfo(name))` gives: the weekday and the microseconds since midnight, a
`ZoneInfoNotFoundError`, or another exception. -/
inductive ZoneAnswer where
  | localTime (weekday time : Int)
  | notFound
  | raises (message : String)

/-- What Python's standard library answers: `str.isdigit` on one character, and the local weekday
and time of day in a named zone. -/
structure Python where
  isdigit : Char → Bool
  zoneInfo : String → Int → ZoneAnswer

variable (python : Python)

def digits (s : String) : List Char := s.toList.filter python.isdigit

variable (destination country : String)

def national : List Char :=
  let ds := digits python destination
  if country ∈ ["US", "CA", "DO"] ∧ ds.head? = some '1' then ds.drop 1 else ds

def isEmergency : Bool :=
  decide (national python destination country ∈
    (["911", "112", "999", "000", "110", "118", "119"].map String.toList))

def isPremium : Bool :=
  let ds := national python destination country
  (decide (country ∈ ["US", "CA", "DO"]) && "900".toList.isPrefixOf ds) ||
    (decide (country = "GB") && "9".toList.isPrefixOf ds)

structure Capacity where
  (active attempts : Int)

namespace Capacity

variable (c : Capacity)

/-- The counters after a reservation, or `none` if it is refused. -/
def reserve (p : Policy) : Option Capacity :=
  if c.active ≥ p.maxConcurrentCalls ∨ c.attempts ≥ p.maxCallAttempts then none
  else some ⟨c.active + 1, c.attempts + 1⟩

def release : Capacity := { c with active := max 0 (c.active - 1) }

end Capacity

/-- Whether the consent does not cover the call. A naive expiration cannot be compared. -/
def consentLacking (now : Int) : Option Consent → Except String Bool
  | none => .ok true
  | some c =>
    if c.status ≠ "granted" ∨ c.reference = "" ∨ c.scope ≠ "production-webrtc-pilot" ∨
      c.timestamp = none then .ok true
    else
      match c.expiration with
      | none => .ok false
      | some expiration =>
        if expiration.aware then .ok (decide (expiration.instant ≤ now))
        else .error "can't compare offset-naive and offset-aware datetimes"

section

variable (p : Policy) (request : CallRequest)

def callingHours : Except String Decision :=
  match python.zoneInfo request.destinationTimezone request.requestedAt with
  | .raises message => .error message
  -- Only a zone that is not found is caught.
  | .notFound => .ok .denyOutsideCallingHours
  | .localTime weekday time =>
    if some request.destinationTimezone ≠ p.timezone ∨ weekday ∉ p.allowedWeekdays ∨
        ¬ (p.callingStart.any (· ≤ time) ∧ p.callingEnd.any (time < ·)) then
      .ok .denyOutsideCallingHours
    else .ok .allow

/-- Every term of `authorize` but the capacity, which comes last. -/
def authorizeTerms : Except String Decision :=
  let now := request.requestedAt
  if ¬ p.enabled ∨ p.killSwitch ∨ p.validateForActivation ≠ [] then .ok .deny
  else if some request.campaign ≠ p.allowedCampaign ∨
      some request.businessUnit ≠ p.allowedBusinessUnit then .ok .denyUnauthorizedCampaign
  else if some request.agentSubject ≠ p.allowedAgent ∨ some request.extension ≠ p.allowedExtension ∨
      request.tenant = "" then
    .ok .denyUnauthorizedAgent
  else if some request.callerId ≠ p.allowedCallerId then .ok .denyUnauthorizedCallerId
  else if isEmergency python request.destination request.destinationCountry then .ok .denyEmergency
  else if isPremium python request.destination request.destinationCountry then .ok .denyPremium
  else if ¬ e164 request.destination ∨ some request.destination ≠ p.allowedDestination ∨
      request.destination ∈ p.prohibitedDestinations ∨
      request.destinationClass ∉ p.allowedDestinationClasses then .ok .denyProhibited
  else if request.destinationCountry ∉ p.allowedCountries then .ok .denyUnsupportedCountry
  -- An activatable policy has both ends of the window.
  else if p.pilotStart.any (now < ·) ∨ p.pilotEnd.any (· ≤ now) then .ok .denyOutsidePilotWindow
  else
    match if p.consentRequired then consentLacking now request.consent else .ok false with
    | .error message => .error message
    | .ok true => .ok .denyNoConsent
    | .ok false =>
      if p.recordingMode = "disabled" ∧ request.recordingRequested then .ok .deny
      else if p.recordingMode = "required" ∧ ¬ request.recordingRequested then .ok .deny
      else callingHours python p request

def authorize (capacity : Option Capacity) : Except String (Decision × Option Capacity) :=
  match authorizeTerms python p request with
  | .error message => .error message
  | .ok .allow =>
    match capacity with
    -- Without counters nothing is reserved and the ceilings are not looked at.
    | none => .ok (.allow, none)
    | some c =>
      match c.reserve p with
      | none => .ok (.denyCapacity, some c)
      | some c' => .ok (.allow, some c')
  | .ok decision => .ok (decision, capacity)

theorem authorize_none :
    (authorize python p request none).map Prod.fst = authorizeTerms python p request := by
  unfold authorize
  cases authorizeTerms python p request with
  | error message => rfl
  | ok decision => cases decision <;> rfl

end

theorem authorize_some_allow : (authorize python p request (some c)).map Prod.fst = .ok .allow ↔
      authorizeTerms python p request = .ok .allow ∧ (c.reserve p).isSome := by
  unfold authorize
  cases authorizeTerms python p request with
  | error message => simp [Except.map]
  | ok decision =>
    cases decision
    case allow => cases reserved : c.reserve p <;> simp [Except.map, reserved]
    all_goals simp [Except.map]

end CodestraMiddleware.ClickToCall
