import CodestraMiddleware.Sales.Contracts

/-!
# The compliance gate

`sales/compliance.py`. The first obstacle decides; without a snapshot for the candidate's tenant and
campaign the gate is closed.
-/
namespace CodestraMiddleware.Sales

inductive Consent where
  | granted | withdrawn | unknown

structure ComplianceSnapshot where
  (tenantId campaignId : String)
  available : Bool := true
  globalDnc : Bool := false
  tenantDnc : Bool := false
  campaignDnc : Bool := false
  internalSuppression : Bool := false
  emailSuppressed : Bool := false
  phoneSuppressed : Bool := false
  optedOut : Bool := false
  legalRestriction : Bool := false
  consent : Consent := .unknown
  channelEligible : Bool := false

/-- A decision, less the `status` that nobody reads. -/
structure ComplianceDecision where
  gates : Gates
  reasons : List String
  (blocked reviewRequired : Bool)

def ComplianceDecision.unavailable (reason : String) : ComplianceDecision where
  gates := ⟨.dependencyUnavailable, .dependencyUnavailable, .dependencyUnavailable,
    .dependencyUnavailable, .dependencyUnavailable⟩
  reasons := [reason]
  blocked := true
  reviewRequired := true

namespace ComplianceSnapshot

variable (s : ComplianceSnapshot)

def gates : Gates where
  globalDnc := if s.globalDnc then .blocked else .eligible
  campaignDnc := if s.campaignDnc then .blocked else .eligible
  suppression := if s.internalSuppression then .blocked else .eligible
  consent :=
    match s.consent with
    | .withdrawn => .blocked
    | .granted => .eligible
    | .unknown => .reviewRequired
  channelEligibility := if s.channelEligible then .eligible else .reviewRequired

def suppressions : List (Bool × String) :=
  [(s.globalDnc, "GLOBAL_DNC"), (s.tenantDnc, "TENANT_DNC"), (s.campaignDnc, "CAMPAIGN_DNC"),
    (s.emailSuppressed, "EMAIL_SUPPRESSED"), (s.phoneSuppressed, "PHONE_SUPPRESSED"),
    (s.optedOut, "OPTED_OUT"), (s.legalRestriction, "LEGAL_RESTRICTION"),
    (s.internalSuppression, "INTERNAL_SUPPRESSION")]

def evaluate (tenantId campaignId : String) : ComplianceDecision :=
  if s.tenantId ≠ tenantId ∨ s.campaignId ≠ campaignId then .unavailable "COMPLIANCE_SCOPE_MISMATCH"
  else if !s.available then .unavailable "COMPLIANCE_DEPENDENCY_UNAVAILABLE"
  else
    match s.suppressions.find? (·.1) with
    | some (_, reason) => ⟨s.gates, [reason], true, false⟩
    | none =>
      match s.consent with
      | .withdrawn => ⟨s.gates, ["CONSENT_DENIED"], true, false⟩
      | .unknown => ⟨s.gates, ["CONSENT_UNKNOWN"], false, true⟩
      | .granted => ⟨s.gates, ["COMPLIANCE_ELIGIBLE"], false, !s.channelEligible⟩

/-- Everything that outreach to a candidate of a campaign needs. -/
structure Clears (tenantId campaignId : String) : Prop where
  tenant : s.tenantId = tenantId
  campaign : s.campaignId = campaignId
  available : s.available = true
  unsuppressed : ∀ flag ∈ s.suppressions, flag.1 = false
  consent : s.consent = .granted
  channel : s.channelEligible = true

theorem evaluate_clear_iff {tenantId campaignId : String} :
    ((s.evaluate tenantId campaignId).blocked = false ∧
      (s.evaluate tenantId campaignId).reviewRequired = false) ↔ s.Clears tenantId campaignId := by
  unfold evaluate
  split
  next elsewhere =>
    refine iff_of_false (fun clear => by cases clear.1) fun clears => ?_
    exact elsewhere.elim (fun other => other clears.tenant) fun other => other clears.campaign
  next here =>
    rw [not_or, not_not, not_not] at here
    split
    next absent =>
      refine iff_of_false (fun clear => by cases clear.1) fun clears => ?_
      simp [clears.available] at absent
    next available =>
      have available : s.available = true := by simpa using available
      split
      next flag reason found =>
        refine iff_of_false (fun clear => by cases clear.1) fun clears => ?_
        have active := List.find?_some found
        rw [clears.unsuppressed _ (List.mem_of_find?_eq_some found)] at active
        cases active
      next none =>
        have unsuppressed : ∀ flag ∈ s.suppressions, flag.1 = false := by
          simpa [List.find?_eq_none] using none
        constructor
        · intro clear
          cases consent : s.consent with
          | withdrawn | unknown => simp [consent] at clear
          | granted =>
            simp only [consent, Bool.not_eq_false'] at clear
            exact ⟨here.1, here.2, available, unsuppressed, consent, clear.2⟩
        · intro clears
          simp [clears.consent, clears.channel]

end ComplianceSnapshot

end CodestraMiddleware.Sales
