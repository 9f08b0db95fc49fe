import CodestraMiddleware.Foundations.Run
import CodestraMiddleware.Sales.Odoo

/-!
# The sales lead service

`sales/service.py`. The state of the service is its dicts; the audit trail is left out. A task is a
call of `resolve` or `create_job`, cut where it waits: for the lock of its idempotency key, for the
page of a verification job, for the lookup of a candidate. Everything between two waits happens at
once.
-/
namespace CodestraMiddleware.Sales

open Raising Transition Function String
open AiJobs (UUID)

structure Runtime where
  lib : Library
  keyHash : String → String
  candidateHash : LeadCandidate → String
  requestHash : VerificationJobRequest → String

/-- The tenant and the hash of the key. An idempotency entry has the operation as well; there is one
dict here for each of the two. -/
abbrev Scope := String × String

structure IdempotencyEntry (α : Type) where
  payloadHash : String
  result : α

structure DuplicateReview where
  reviewId : UUID
  (tenantId campaignId : String)
  candidateId : UUID
  (odooCompanyId odooLeadId : Option String)
  (companyScore contactScore : Nat)
  (matchReasons evidenceHashes : List String)
  policyVersion : String

structure JobResult where
  candidateId : Option UUID
  classification : String
  reasonCodes : List String

structure VerificationJob where
  request : VerificationJobRequest
  state : VerificationJobState
  (total processed warnings : Nat)
  results : List JobResult

/-- The dicts of `SalesLeadService`, the audit trail apart. -/
structure Service where
  resolveEntries : Scope → Option (IdempotencyEntry LeadResolution)
  jobEntries : Scope → Option (IdempotencyEntry UUID)
  candidates : UUID → Option LeadCandidate
  resolutions : UUID → Option LeadResolution
  reviews : List DuplicateReview
  jobs : UUID → Option VerificationJob

def Service.empty : Service :=
  ⟨fun _ => none, fun _ => none, fun _ => none, fun _ => none, [], fun _ => none⟩

structure ResolveCall where
  candidate : LeadCandidate
  (key correlationId : String)

structure CreateCall where
  request : VerificationJobRequest
  (key correlationId : String)

/-- What a resolution rests on. -/
inductive Basis where
  | lookup (found : OdooLookup)
  | unavailable | replay

variable {call : ResolveCall} {s s' : Service} {basis : Basis}

section Service

variable (rt : Runtime) (policy : MatchPolicy)

def ResolveCall.scope (call : ResolveCall) : Scope := (call.candidate.tenantId, rt.keyHash call.key)

def CreateCall.scope (call : CreateCall) : Scope := (call.request.tenantId, rt.keyHash call.key)

/-! ## `resolve` -/

/-- What the lookup of a candidate leads to. -/
structure Findings where
  (company contact : Match)
  compliance : ComplianceDecision

def findings (candidate : LeadCandidate) (lookup : OdooLookup) : Fallible Findings := do
  let company ← bestCompany rt.lib candidate lookup.companies
  let contact ← bestContact rt.lib candidate lookup.contacts company
  let snapshot := lookup.compliance.getD
    { tenantId := candidate.tenantId, campaignId := candidate.campaignId, available := false }
  return ⟨company, contact, snapshot.evaluate candidate.tenantId candidate.campaignId⟩

namespace Findings

variable (f : Findings)

def highest : Nat := max f.company.score f.contact.score

/-- Compliance comes before duplicates. -/
def decision : Decision :=
  if f.compliance.blocked then .suppressed
  else if policy.exactThreshold ≤ f.highest then .exactDuplicate
  else if policy.reviewThreshold ≤ f.highest then .possibleDuplicate
  else if f.compliance.reviewRequired then .manualReview
  else .accepted

def reviewRequired : Bool :=
  f.compliance.reviewRequired || f.decision policy = .possibleDuplicate

/-- Eligible are accepted candidates that nothing blocks or holds for review. -/
def resolution (call : ResolveCall) (candidateId : UUID) : LeadResolution where
  candidateId := candidateId
  decision := f.decision policy
  decisionCode := (f.decision policy).value
  eligibleForOutreach := f.decision policy = .accepted && !f.compliance.blocked &&
    !f.compliance.reviewRequired
  duplicateStatus :=
    match f.decision policy with
    | .exactDuplicate => "EXACT"
    | .possibleDuplicate => "POSSIBLE"
    | _ => "NONE"
  matchType :=
    match f.decision policy with
    | .exactDuplicate => "EXACT"
    | .possibleDuplicate => "FUZZY"
    | _ => "NONE"
  matchedEntityReferences :=
    ([f.company.publicId, f.contact.publicId].filterMap truthy?).map rt.lib.strip
  matchConfidence := f.highest
  companyResolution :=
    ⟨policy.exactThreshold ≤ f.company.score, f.company.publicId.map rt.lib.strip, none,
      f.company.score, f.company.reasons⟩
  contactResolution :=
    ⟨policy.exactThreshold ≤ f.contact.score, none, f.contact.publicId.map rt.lib.strip,
      f.contact.score, f.contact.reasons⟩
  gates := f.compliance.gates
  rejectionReasons := if f.compliance.blocked then f.compliance.reasons else []
  manualReviewReasons :=
    if f.reviewRequired policy && !f.compliance.blocked then f.compliance.reasons else []
  suppressionResults := if f.compliance.blocked then f.compliance.reasons else []
  consentResults := f.compliance.reasons.filter fun reason => "CONSENT_".toList <+: reason.toList
  providerValidation := "AVAILABLE"
  reviewRequired := f.reviewRequired policy
  correlationId := rt.lib.strip call.correlationId

def evidenceHash (contentHash : String) : String :=
  if "sha256:".toList <+: contentHash.toList then ofList (contentHash.toList.drop 7)
  else contentHash

def review (candidate : LeadCandidate) (candidateId reviewId : UUID) : List DuplicateReview :=
  if f.decision policy = .possibleDuplicate then [{
    reviewId
    tenantId := candidate.tenantId
    campaignId := candidate.campaignId
    candidateId
    odooCompanyId := f.company.publicId
    odooLeadId := f.contact.publicId
    companyScore := f.company.score
    contactScore := f.contact.score
    matchReasons := f.company.reasons ++ f.contact.reasons
    evidenceHashes := candidate.evidence.map evidenceHash
    policyVersion := policy.version }]
  else []

end Findings

/-- Without Odoo nothing is eligible. -/
def unavailableResolution (call : ResolveCall) (candidateId : UUID) : LeadResolution where
  candidateId := candidateId
  decision := .manualReview
  decisionCode := "ODOO_UNAVAILABLE"
  eligibleForOutreach := false
  duplicateStatus := "NONE"
  matchType := "NONE"
  matchedEntityReferences := []
  matchConfidence := 0
  companyResolution := ⟨false, none, none, 0, ["ODOO_LOOKUP_UNAVAILABLE"]⟩
  contactResolution := ⟨false, none, none, 0, ["ODOO_LOOKUP_UNAVAILABLE"]⟩
  gates := (ComplianceDecision.unavailable "COMPLIANCE_DEPENDENCY_UNAVAILABLE").gates
  rejectionReasons := ["ODOO_UNAVAILABLE"]
  manualReviewReasons := ["ODOO_UNAVAILABLE"]
  suppressionResults := []
  consentResults := []
  providerValidation := "UNAVAILABLE"
  reviewRequired := true
  correlationId := rt.lib.strip call.correlationId

/-- The bounds of an idempotency key. -/
def keyAllowed (key : String) : Bool := 16 ≤ key.length && key.length ≤ 255

def Service.store (s : Service) (call : ResolveCall) (resolution : LeadResolution)
    (reviews : List DuplicateReview) : Service :=
  { s with
    candidates := update s.candidates resolution.candidateId (some call.candidate),
    resolutions := update s.resolutions resolution.candidateId (some resolution),
    resolveEntries := update s.resolveEntries (call.scope rt)
      (some ⟨rt.candidateHash call.candidate, resolution⟩),
    reviews := s.reviews ++ reviews }

/-- `resolve` after the lookup. -/
def finishResolve (call : ResolveCall) (candidateId reviewId : UUID) (answer : Fallible OdooLookup)
    (s : Service) : Fallible (LeadResolution × Basis × Service) :=
  match answer with
  | .error exc =>
    if exc.unavailable then
      let resolution := unavailableResolution rt call candidateId
      .ok (resolution, .unavailable, s.store rt call resolution [])
    else .error exc
  | .ok found => do
    let f ← findings rt call.candidate found
    let resolution := f.resolution rt policy call candidateId
    .ok (resolution, .lookup found, s.store rt call resolution
      (f.review policy call.candidate candidateId reviewId))

/-- Where `resolve` waits. -/
inductive Phase where
  | locking
  | looking (candidateId : UUID)

/-- What `wait_for` gives back: the answer of the port, or a `TimeoutError`. -/
inductive Awaited (ω : Type) where
  | world (w : ω)
  | timedOut

def Awaited.ask {ω α : Type} (method : ω → Fallible α) : Awaited ω → Fallible α
  | .world w => method w
  | .timedOut => .error .timeout

inductive TaskEvent (ω : Type) where
  | resolve (call : ResolveCall)
  | createJob (call : CreateCall)
  -- The lock is there; the identifier is for the new candidate or job.
  | acquire (id : UUID)
  | answer (awaited : Awaited ω) (reviewId : UUID)
  -- The task is cancelled where it waits.
  | interrupt

variable {ω : Type} (port : OdooReadOnlyPort ω)

def lookupOf (call : ResolveCall) (awaited : Awaited ω) : Fallible OdooLookup :=
  awaited.ask (port.lookup call.candidate 100)

/-- What a task that resolves does next. -/
inductive Progress where
  | waits (phase : Phase)
  | returns (resolution : LeadResolution) (basis : Basis) (s : Service)
  | raises (exc : Exc)

/-- The lock is taken before the entry of the key is read. -/
def resumeResolve (call : ResolveCall) (s : Service) : TaskEvent ω → Phase → Progress
  | .acquire candidateId, .locking =>
    match s.resolveEntries (call.scope rt) with
    | none => .waits (.looking candidateId)
    | some prior =>
      if prior.payloadHash = rt.candidateHash call.candidate then .returns prior.result .replay s
      else .raises (.salesConflict "idempotency key was already used for another payload")
  | .answer awaited reviewId, .looking candidateId =>
    match finishResolve rt policy call candidateId reviewId (lookupOf port call awaited) s with
    | .ok (resolution, basis, s') => .returns resolution basis s'
    | .error exc => .raises exc
  | .interrupt, _ => .raises .cancelled
  | _, phase => .waits phase

/-- The ways in which `resolve` returns. -/
inductive Returns (call : ResolveCall) (s : Service) : LeadResolution → Basis → Service → Prop
  | replayed {prior : IdempotencyEntry LeadResolution}
      (stored : s.resolveEntries (call.scope rt) = some prior)
      (same : prior.payloadHash = rt.candidateHash call.candidate) :
      Returns call s prior.result .replay s
  | unavailable (candidateId : UUID) : Returns call s (unavailableResolution rt call candidateId)
        .unavailable (s.store rt call (unavailableResolution rt call candidateId) [])
  | resolved (candidateId reviewId : UUID) {found : OdooLookup} {f : Findings}
      (made : findings rt call.candidate found = .ok f) :
      Returns call s (f.resolution rt policy call candidateId) (.lookup found)
        (s.store rt call (f.resolution rt policy call candidateId)
          (f.review policy call.candidate candidateId reviewId))

theorem finishResolve_returns
    (ok : finishResolve rt policy call candidateId reviewId answer s =
      .ok (resolution, basis, s')) :
    Returns rt policy call s resolution basis s' := by
  unfold finishResolve at ok
  split at ok
  next exc =>
    split at ok
    · cases ok
      exact .unavailable candidateId
    · cases ok
  next found =>
    obtain ⟨f, made, ok⟩ := bind_eq_ok.mp ok
    cases ok
    exact .resolved candidateId reviewId made

theorem resumeResolve_returns
    (returned : resumeResolve rt policy port call s e phase = .returns resolution basis s') :
    Returns rt policy call s resolution basis s' := by
  unfold resumeResolve at returned
  split at returned
  next =>
    split at returned
    · cases returned
    next prior stored =>
      split at returned
      · cases returned
        exact .replayed stored ‹_›
      · cases returned
  next =>
    split at returned
    · cases returned
      exact finishResolve_returns rt policy ‹_›
    · cases returned
  next => cases returned
  next => cases returned

variable {rt policy} in
theorem Returns.jobs (returns : Returns rt policy call s resolution basis s') :
    s'.jobs = s.jobs ∧ s'.jobEntries = s.jobEntries := by
  cases returns with
  | _ => exact ⟨rfl, rfl⟩

/-- What a task is waiting for. -/
inductive Task where
  | idle
  | resolving (call : ResolveCall) (phase : Phase)
  | creating (call : CreateCall)
  | paging (call : CreateCall) (jobId : UUID)
  | verifying (call : CreateCall) (jobId : UUID) (resolve : ResolveCall) (phase : Phase)
      (rest : List LeadCandidate)

inductive Note where
  -- `resolve` has returned.
  | resolved (call : ResolveCall) (resolution : LeadResolution) (basis : Basis)
  -- `run_job` has added a resolution to the results of a job.
  | counted (jobId : UUID) (call : ResolveCall) (resolution : LeadResolution)
  -- `run_job` has ended, with an exception or without.
  | ended (jobId : UUID) (raised : Option Exc)
  -- `create_job` has returned a job.
  | returned (jobId : UUID) (replayed : Bool)
  | raised (exc : Exc)

/-- What a task does between two waits. -/
structure Reaction where
  service : Service
  task : Task
  notes : List Note

def Service.updateJob (s : Service) (id : UUID) (change : VerificationJob → VerificationJob) :
    Service :=
  { s with jobs := update s.jobs id ((s.jobs id).map change) }

def jobText (id : UUID) : String :=
  "LVJ-" ++ ofList ((List.range 32).map fun i => Nat.digitChar (id.toNat / 16 ^ (31 - i) % 16))

def jobKey (jobId : UUID) (requestId : String) : String :=
  "verification:" ++ jobText jobId ++ ":" ++ requestId

/-- No handler: the job keeps the state that it has. -/
def leave (jobId : UUID) (exc : Exc) (s : Service) (notes : List Note) : Reaction :=
  ⟨s, .idle, notes ++ [.ended jobId (some exc), .raised exc]⟩

section

variable (call : CreateCall)

section

variable (jobId : UUID)

/-- The loop of `run_job` up to the next `resolve`. -/
def advance (candidates : List LeadCandidate) (s : Service) (notes : List Note) : Reaction :=
  match candidates with
  | [] => ⟨s.updateJob jobId fun job => { job with state := .completed }, .idle,
      notes ++ [.ended jobId none, .returned jobId false]⟩
  | candidate :: rest =>
    let resolve : ResolveCall := ⟨candidate, jobKey jobId candidate.source.requestId,
      call.correlationId⟩
    if keyAllowed resolve.key then ⟨s, .verifying call jobId resolve .locking rest, notes⟩
    else leave jobId (.salesError "idempotency key is outside bounded limits") s notes

theorem length_jobText (id : UUID) : (jobText id).length = 36 := by
  have digits : (ofList ((List.range 32).map fun i =>
      Nat.digitChar (id.toNat / 16 ^ (31 - i) % 16))).length = 32 := by
    rw [length_ofList, List.length_map, List.length_range]
  rw [jobText, length_append, digits]
  rfl

theorem length_jobKey (requestId : String) :
    (jobKey jobId requestId).length = 13 + 36 + 1 + requestId.length := by
  change ("verification:" ++ jobText jobId ++ ":" ++ requestId).length = _
  simp only [length_append, length_jobText]
  rfl

/-- The keys of a job's candidates are within the bounds. -/
theorem keyAllowed_jobKey (source : Source) :
    keyAllowed (jobKey jobId source.requestId) = true := by
  obtain ⟨_, _⟩ := source.request_bounded
  rw [keyAllowed, length_jobKey, Bool.and_eq_true, decide_eq_true_eq, decide_eq_true_eq]
  omega

@[simp] theorem advance_nil (s : Service) (notes : List Note) :
    advance call jobId [] s notes =
    ⟨s.updateJob jobId fun job => { job with state := .completed }, .idle,
        notes ++ [.ended jobId none, .returned jobId false]⟩ := rfl

@[simp] theorem advance_cons (candidate : LeadCandidate)
    (rest : List LeadCandidate) (s : Service) (notes : List Note) :
      advance call jobId (candidate :: rest) s notes = ⟨s, .verifying call jobId
        ⟨candidate, jobKey jobId candidate.source.requestId, call.correlationId⟩ .locking rest,
        notes⟩ := by
  simp [advance, keyAllowed_jobKey]

def Decision.classification : Decision → String
  | .exactDuplicate => "EXACT_DUPLICATE"
  | .possibleDuplicate => "POSSIBLE_DUPLICATE"
  | .suppressed => "DNC_BLOCKED"
  | .accepted => "VERIFIED_VALID"
  | .manualReview => "NEEDS_REVIEW"

def VerificationJob.count (resolution : LeadResolution) (job : VerificationJob) : VerificationJob :=
  { job with
    results := job.results ++ [⟨some resolution.candidateId, resolution.decision.classification,
      resolution.rejectionReasons⟩]
    processed := job.processed + 1 }

def counts (resolve : ResolveCall) (rest : List LeadCandidate)
    (resolution : LeadResolution) (basis : Basis) (s : Service) : Reaction :=
  advance call jobId rest (s.updateJob jobId (.count resolution))
    [.resolved resolve resolution basis, .counted jobId resolve resolution]

/-- The entry of the key is stored before the job is run. -/
def enterCreate (s : Service) : Reaction :=
  match s.jobEntries (call.scope rt) with
  | some prior =>
    if prior.payloadHash = rt.requestHash call.request then
      ⟨s, .idle, [.returned prior.result true]⟩
    else
      ⟨s, .idle, [.raised (.salesConflict
        "idempotency key was already used for another job payload")]⟩
  | none =>
    ⟨{ s with
        jobs := update s.jobs jobId (some ⟨call.request, .running, 0, 0, 0, []⟩),
        jobEntries := update s.jobEntries (call.scope rt)
          (some ⟨rt.requestHash call.request, jobId⟩) },
      .paging call jobId, []⟩

def VerificationJob.warn (job : VerificationJob) : VerificationJob :=
  { job with
    state := .completedWithWarnings, warnings := 1,
    results := job.results ++ [⟨none, "DEPENDENCY_UNAVAILABLE", ["ODOO_LOOKUP_UNAVAILABLE"]⟩] }

/-- An unavailable page ends the job with a warning. -/
def enterPage (page : Fallible (List LeadCandidate)) (s : Service) : Reaction :=
  match page with
  | .error exc =>
    if exc.unavailable then
      ⟨s.updateJob jobId .warn, .idle, [.ended jobId none, .returned jobId false]⟩
    else leave jobId exc s []
  | .ok candidates =>
    advance call jobId candidates (s.updateJob jobId fun job =>
      { job with total := candidates.length }) []

end

def pageOf (awaited : Awaited ω) : Fallible (List LeadCandidate) :=
  awaited.ask (port.verificationPage call.request.tenantId call.request.campaignId 0
    call.request.batchSize)

end

def Task.react (s : Service) : TaskEvent ω → Task → Reaction
  | .resolve call, .idle =>
    if keyAllowed call.key then ⟨s, .resolving call .locking, []⟩
    else ⟨s, .idle, [.raised (.salesError "idempotency key is outside bounded limits")]⟩
  | e, .resolving call phase =>
    match resumeResolve rt policy port call s e phase with
    | .waits phase => ⟨s, .resolving call phase, []⟩
    | .returns resolution basis s' => ⟨s', .idle, [.resolved call resolution basis]⟩
    | .raises exc => ⟨s, .idle, [.raised exc]⟩
  | .createJob call, .idle => ⟨s, .creating call, []⟩
  | .acquire jobId, .creating call => enterCreate rt call jobId s
  | .interrupt, .creating _ => ⟨s, .idle, [.raised .cancelled]⟩
  | .answer awaited _, .paging call jobId => enterPage call jobId (pageOf port call awaited) s
  | .interrupt, .paging _ jobId => leave jobId .cancelled s []
  | e, .verifying call jobId resolve phase rest =>
    match resumeResolve rt policy port resolve s e phase with
    | .waits phase => ⟨s, .verifying call jobId resolve phase rest, []⟩
    | .returns resolution basis s' => counts call jobId resolve rest resolution basis s'
    | .raises exc => leave jobId exc s []
  | _, task => ⟨s, task, []⟩

def VerificationJob.cancel (job : VerificationJob) : VerificationJob :=
  if job.state = .queued ∨ job.state = .running then { job with state := .canceled } else job

/-- Jobs of other tenants are not found. -/
def cancelJob (jobId : UUID) (tenantId : String) (s : Service) :
    Fallible (VerificationJob × Service) :=
  match (s.jobs jobId).filter fun job => decide (job.request.tenantId = tenantId) with
  | none => .error (.salesError "verification job was not found")
  | some job => .ok (job.cancel, { s with jobs := update s.jobs jobId (some job.cancel) })

structure State (ι : Type) where
  service : Service
  tasks : ι → Task
  -- Newest first.
  log : List Note

inductive Event (ι ω : Type) where
  | task (i : ι) (e : TaskEvent ω)
  | cancelJob (jobId : UUID) (tenantId : String)

def State.initial (ι : Type) : State ι := ⟨.empty, fun _ => .idle, []⟩

variable {ι : Type} [DecidableEq ι]

def notes (s : State ι) : Event ι ω → List Note
  | .task i e => (Task.react rt policy port s.service e (s.tasks i)).notes
  | .cancelJob _ _ => []

def step (s : State ι) (e : Event ι ω) : State ι :=
  match e with
  | .task i e =>
    let r := Task.react rt policy port s.service e (s.tasks i)
    ⟨r.service, update s.tasks i r.task, r.notes ++ s.log⟩
  | .cancelJob jobId tenantId =>
    match cancelJob jobId tenantId s.service with
    | .ok (_, service) => { s with service }
    | .error _ => s

theorem step_cancelJob (s : State ι) (jobId : UUID) (tenantId : String) :
    step rt policy port s (.cancelJob jobId tenantId) = s ∨
    step rt policy port s (.cancelJob jobId tenantId) =
        { s with service := s.service.updateJob jobId .cancel } := by
  unfold step cancelJob
  dsimp only
  cases found : (s.service.jobs jobId).filter fun job =>
      decide (job.request.tenantId = tenantId) with
  | none => exact .inl rfl
  | some job =>
    refine .inr ?_
    rw [Service.updateJob, (Option.filter_eq_some_iff.mp found).1, Option.map_some]

def Task.createLock : Task → Option Scope
  | .paging call _ | .verifying call _ _ _ _ => some (call.scope rt)
  | _ => none

def Task.resolveLock : Task → Option Scope
  | .resolving call (.looking _) | .verifying _ _ call (.looking _) _ => some (call.scope rt)
  | _ => none

/-- What a waiting task needs to go on: its lock is free, and `uuid4` gives an identifier that is
not in use. -/
def mayAcquire (s : State ι) (id : UUID) : Task → Prop
  | .creating call => (∀ i, (s.tasks i).createLock rt ≠ some (call.scope rt)) ∧
      s.service.jobs id = none
  | .resolving call .locking | .verifying _ _ call .locking _ =>
    (∀ i, (s.tasks i).resolveLock rt ≠ some (call.scope rt)) ∧ s.service.candidates id = none
  | _ => True

/-- Locks are exclusive and identifiers fresh; all else may happen at any time. -/
def system : System (State ι) (Event ι ω) where
  step := step rt policy port
  admits s e :=
    match e with
    | .task i (.acquire id) => mayAcquire rt s id (s.tasks i)
    | _ => True

end Service

namespace Sample

def runtime : Runtime where
  lib := library
  keyHash := id
  candidateHash candidate := candidate.company.name
  requestHash request := request.tenantId

def snapshot (tenantId : String) : ComplianceSnapshot :=
  { tenantId, campaignId := "autumn", consent := .granted, channelEligible := true }

end Sample

end CodestraMiddleware.Sales
