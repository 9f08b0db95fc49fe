import CodestraMiddleware.AiJobs.Schema
import CodestraMiddleware.Foundations.Values

/-!
# Sales lead contracts

`sales/contracts.py`: candidates, resolutions and verification requests, with the fields that the
service reads or returns. The fields of a candidate or request that only its canonical hash reads
are kept together.
-/
namespace CodestraMiddleware.Sales

open AiJobs (UUID)

structure Source where
  (jobId requestId : String)
  request_bounded : 1 ≤ requestId.length ∧ requestId.length ≤ 128

structure Address where
  (line1 city region : Option String)

structure Company where
  name : String
  (legalName domain websiteUrl registrationNumber : Option String)
  countryCode : String
  address : Address

structure Contact where
  (firstName lastName fullName title businessEmail businessPhone countryCode : Option String)

structure LeadCandidate where
  (tenantId campaignId : String)
  source : Source
  company : Company
  contact : Contact
  /-- The `content_hash` of each item of the evidence. -/
  evidence : List String
  hashed : PythonValue.Dict

inductive Decision where
  | accepted | exactDuplicate | possibleDuplicate | suppressed | manualReview
  deriving DecidableEq

def Decision.value : Decision → String
  | .accepted => "ACCEPTED"
  | .exactDuplicate => "EXACT_DUPLICATE"
  | .possibleDuplicate => "POSSIBLE_DUPLICATE"
  | .suppressed => "SUPPRESSED"
  | .manualReview => "MANUAL_REVIEW"

inductive GateState where
  | eligible | blocked | reviewRequired | dependencyUnavailable

structure Gates where
  (globalDnc campaignDnc suppression consent channelEligibility : GateState)

structure MatchResolution where
  matched : Bool
  (odooCompanyId odooLeadId : Option String)
  score : Nat
  reasons : List String

structure LeadResolution where
  candidateId : UUID
  decision : Decision
  decisionCode : String
  eligibleForOutreach : Bool
  (duplicateStatus matchType : String)
  matchedEntityReferences : List String
  matchConfidence : Nat
  (companyResolution contactResolution : MatchResolution)
  gates : Gates
  (rejectionReasons manualReviewReasons suppressionResults consentResults : List String)
  /-- The summary for the provider `odoo`. -/
  providerValidation : String
  reviewRequired : Bool
  correlationId : String

/-! ## Verification jobs -/

/-- A request that `prohibit_writes` lets through. -/
structure VerificationJobRequest where
  tenantId : String
  campaignId : Option String
  batchSize : Nat
  filters : PythonValue.Dict
  batch_bounded : 1 ≤ batchSize ∧ batchSize ≤ 100

inductive VerificationJobState where
  | queued | running | completed | completedWithWarnings | failed | canceled
  deriving DecidableEq

/-- What the service and its adapters raise. `SalesError` and `SalesConflict` are value errors too;
no handler of the modelled functions looks at that. -/
inductive Exc where
  | odooReadUnavailable (message : String)
  | timeout
  | valueError (message : String)
  | salesError (message : String)
  | salesConflict (message : String)
  | cancelled | other

def Exc.unavailable : Exc → Bool
  | .odooReadUnavailable _ | .timeout => true
  | _ => false

abbrev Fallible (α : Type) := Except Exc α

end CodestraMiddleware.Sales
