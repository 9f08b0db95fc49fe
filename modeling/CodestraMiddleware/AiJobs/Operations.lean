import CodestraMiddleware.AiJobs.Contracts

/-!
# Job operations

The transactions of `ai_jobs.py`, `ai_orchestration.py`, `ai_console.py` and `complete_job` on the
job tables, each as a function of the transaction time `now()`. A transaction that raises is rolled
back: it returns a fault and no database.
-/
namespace CodestraMiddleware.AiJobs

open Relational JobRecord

structure Config where
  sha256 : String → String
  (defaultMaxQueuedPerTenant dailyTokenQuota globalEmergencyLimit : Int)

inductive Reply where
  | created (jobId : UUID) (messageId : Option UUID) (state : JobState) (replay : Bool)
  | submitted (jobId : UUID) (status : String) (replay : Bool)
  | claimed (job : GenerationJob)
  | nothing
  | renewed (expires : Int)
  | chunk (inserted : Bool)
  | state (state : JobState)
  | duplicate (state : JobState)
  | cancellation (requested : Bool) (state : JobState)
  | status (status : String)
  | recovered (retried deadLettered : Nat)
  | expired (count : Nat)
  | stored

abbrev Outcome := Except Fault (Database × Reply)

/-! ## Scopes and leases -/

structure Scope where
  (organizationId workspaceId : Option UUID)
  deriving DecidableEq

def Scope.Covers (scope : Scope) (j : GenerationJob) : Prop :=
  (scope.organizationId = none ∨ scope.organizationId = some j.organizationId) ∧
    (scope.workspaceId = none ∨ scope.workspaceId = some j.workspaceId)

instance (scope : Scope) (j : GenerationJob) : Decidable (scope.Covers j) :=
  inferInstanceAs (Decidable (_ ∧ _))

/-- What a worker presents on every call it makes under a lease. -/
structure LeaseCall where
  jobId : UUID
  workerId : String
  fencingToken : Nat
  scope : Scope

variable (now : Int)

def GenerationJob.HoldsLease (call : LeaseCall) (allowCancelRequested : Bool)
    (j : GenerationJob) : Prop :=
  (j.state = .leased ∨ allowCancelRequested = true ∧ j.state = .cancelRequested) ∧
    j.leaseOwner = some call.workerId ∧ j.fencingToken = call.fencingToken ∧
    (∃ t ∈ j.leaseExpiresAt, now < t) ∧ call.scope.Covers j

instance (call : LeaseCall) (allow : Bool) (j : GenerationJob) :
    Decidable (j.HoldsLease now call allow) :=
  inferInstanceAs (Decidable (_ ∧ _ ∧ _ ∧ _ ∧ _))

def assertLease (call : LeaseCall) (allowCancelRequested : Bool) (db : Database) :
    Except Fault JobRecord :=
  match db.job? call.jobId with
  | some r =>
    if r.HoldsLease now call allowCancelRequested then .ok r
    else .error (.permissionError "stale_or_invalid_lease")
  | none => .error (.permissionError "stale_or_invalid_lease")

/-! ## Claiming -/

structure ClaimRequest where
  workerId : String
  leaseSeconds : Int
  scope : Scope
  serviceId : Option String
  allowedModelProfiles : Option (List ModelProfile)
  -- Which of several candidates of equal rank the database returns first.
  tie : Nat

section

variable (workerId : String) (scope : Scope)

def GenerationJob.ActiveFor (j : GenerationJob) : Prop :=
  (j.state = .leased ∨ j.state = .cancelRequested) ∧ j.leaseOwner = some workerId ∧
    (∃ t ∈ j.leaseExpiresAt, now < t) ∧ scope.Covers j

instance (j : GenerationJob) : Decidable (j.ActiveFor now workerId scope) :=
  inferInstanceAs (Decidable (_ ∧ _ ∧ _ ∧ _))

def activeProfiles (db : Database) : List (Option ModelProfile) :=
  (db.jobs.rows.filter fun r => decide (r.ActiveFor now workerId scope)).map (·.modelProfile)

end

/-- The profiles active beside the claim, or the fault that refuses it. A caller without a
service identity is not limited. -/
def admission (c : ClaimRequest) (db : Database) : Except Fault (List (Option ModelProfile)) :=
  match c.serviceId with
  | none => .ok []
  | some service =>
    match db.registrations.find? c.workerId with
    | none => .error (.permissionError "worker_not_enabled")
    | some registration =>
      if registration.serviceId = service ∧ registration.enabled = true then
        let active := activeProfiles now c.workerId c.scope db
        if min registration.maxConcurrency workerHardSafetyCap ≤ active.length then
          .error (.overflowError "worker_concurrency_limit")
        else .ok active
      else .error (.permissionError "worker_not_enabled")

variable (scope : Scope)

variable (profiles : Option (List ModelProfile))

/-- The `WHERE` clause of the candidate query. -/
def GenerationJob.Claimable (j : GenerationJob) : Prop :=
  (j.state = .queued ∨ j.state = .retryWait) ∧ j.nextAttemptAt ≤ now ∧
    (∀ p ∈ j.modelProfile, p ∈ governedProfiles) ∧
    (∀ ps ∈ profiles, ∃ p ∈ j.modelProfile, p ∈ ps) ∧ scope.Covers j ∧ j.cancelRequestedAt = none ∧
    ∀ t ∈ j.deadlineAt, now < t

instance (j : GenerationJob) : Decidable (j.Claimable now scope profiles) :=
  inferInstanceAs (Decidable (_ ∧ _ ∧ _ ∧ _ ∧ _ ∧ _ ∧ _))

def firstCandidate (tie : Nat) (candidates : List JobRecord) : Option JobRecord :=
  -- Rows that a concurrent claim has locked are skipped; transactions here follow one another.
  let best := candidates.filter fun r => candidates.all fun other =>
    decide (r.priority < other.priority ∨ r.priority = other.priority ∧
      r.createdAt ≤ other.createdAt)
  best[tie % best.length]?

variable (c : ClaimRequest)

/-- The update of a claimed row and the insertion of its attempt, which fails on
`UNIQUE(job_id, attempt_number)`. -/
def JobRecord.leaseTo (r : JobRecord) : Option JobRecord :=
  (r.attempts.insert? {
    attemptNumber := r.attemptCount + 1
    fencingToken := r.fencingToken + 1
    workerId := c.workerId
    state := .leased
    safeErrorCode := none
    startedAt := now
    finishedAt := none }).map fun attempts =>
  { r with
    state := .leased, leaseOwner := some c.workerId,
    leaseExpiresAt := some (now + makeInterval c.leaseSeconds),
    fencingToken := r.fencingToken + 1, attemptCount := r.attemptCount + 1, attempts := attempts }

/-- `allowed_model_profiles` is empty or not a subset of the governed profiles. -/
def ClaimRequest.InvalidFilter : Prop :=
  ∃ ps ∈ c.allowedModelProfiles, ps = [] ∨ ¬ ∀ p ∈ ps, p ∈ governedProfiles

instance : Decidable c.InvalidFilter :=
  inferInstanceAs (Decidable (∃ ps ∈ c.allowedModelProfiles, _))

/-- Authenticated workers always give a service identity; legacy callers that give neither an
identity nor a filter may also claim jobs without a profile. -/
def ClaimRequest.profileFilter (allowed : List ModelProfile) : Option (List ModelProfile) :=
  if c.serviceId.isSome ∨ c.allowedModelProfiles.isSome then some allowed else none

def claim (db : Database) : Outcome :=
  if c.InvalidFilter then .error (.valueError "invalid_model_profile_filter")
  else
    match admission now c db with
    | .error fault => .error fault
    | .ok active =>
      let allowed := effectiveCompatibleProfiles active c.allowedModelProfiles
      -- Rejected, audited and committed: the caller gets no job and no error.
      if allowed = [] then .ok (db, .nothing)
      else
        let candidates := db.jobs.rows.filter fun r =>
          decide (r.Claimable now c.scope (c.profileFilter allowed))
        match firstCandidate c.tie candidates with
        | none => .ok (db, .nothing)
        | some r =>
          match r.leaseTo now c with
          | none => .error (.integrityError "ai_job_attempts_job_id_attempt_number_key")
          | some leased => .ok (db.put leased, .claimed leased.toGenerationJob)

/-! ## Calls under a lease -/

def heartbeat (call : LeaseCall) (leaseSeconds : Int) (db : Database) : Outcome :=
  match assertLease now call true db with
  | .error fault => .error fault
  | .ok r =>
    let expires := now + makeInterval leaseSeconds
    .ok (db.put { r with leaseExpiresAt := some expires }, .renewed expires)

def appendChunk (call : LeaseCall) (sequence : Nat) (content : String) (maxOutputBytes : Nat)
    (db : Database) : Outcome :=
  match assertLease now call false db with
  | .error fault => .error fault
  | .ok r =>
    let size := content.utf8ByteSize
    if r.outputBytes + size > maxOutputBytes then .error (.overflowError "output_limit_exceeded")
    else
      -- `ON CONFLICT(job_id,sequence) DO NOTHING`: the byte count moves with an inserted row only.
      match r.chunks.insert? ⟨sequence, call.fencingToken, content⟩ with
      | none => .ok (db, .chunk false)
      | some chunks =>
        .ok (db.put { r with chunks := chunks, outputBytes := r.outputBytes + size }, .chunk true)

structure FinishReport where
  failed : Bool
  errorCode : Option String
  retryable : Bool
  correlationId : String

variable (j : GenerationJob)

def GenerationJob.finishState (report : FinishReport) (completionState : JobState) : JobState :=
  if j.cancelRequestedAt.isSome then .cancelled
  else if !report.failed then completionState
  else if report.retryable ∧ j.attemptCount < j.maxAttempts then .retryWait
  else if report.failed then .deadLetter
  -- Never reached: a call without `failed` took the second branch.
  else .failed

def GenerationJob.retryDelay : Nat := min 300 (2 ^ min j.attemptCount 8)

def GenerationJob.newDeadLetter (errorCode correlationId : String) (j : GenerationJob) :
    JobDeadLetter where
  workspaceId := j.workspaceId
  tenantId := j.organizationId
  finalErrorCode := errorCode
  attemptCount := j.attemptCount
  maxAttempts := j.maxAttempts
  payloadSha256 := j.requestSha256
  failedAt := now
  correlationId := correlationId
  manualRetryRequiresNewApproval := true
  recoveryStatus := .pending

def textOr (text : Option String) (default : String) : String :=
  (text.filter fun t => t ≠ "").getD default

def JobRecord.upsertDeadLetter (report : FinishReport) (r : JobRecord) : JobDeadLetter :=
  let errorCode := textOr report.errorCode "attempts_exhausted"
  match r.deadLetter with
  | none => r.newDeadLetter now errorCode report.correlationId
  | some d =>
    -- Payload hash, tenant and recovery status stay as the earlier row has them.
    { d with
      finalErrorCode := errorCode, attemptCount := r.attemptCount, maxAttempts := r.maxAttempts,
      failedAt := now,
      correlationId := report.correlationId, manualRetryRequiresNewApproval := true }

def closeAttempts (state : JobState) (errorCode : JobAttempt → Option String)
    (p : JobAttempt → Bool) (attempts : Table JobAttempt.attemptNumber) :
    Table JobAttempt.attemptNumber :=
  attempts.update (fun a =>
      if p a then { a with state := state, safeErrorCode := errorCode a, finishedAt := some now }
      else a)
    (by intro a; split <;> rfl)

def JobRecord.settle (fencingToken : Nat) (report : FinishReport) (state : JobState)
    (r : JobRecord) : JobRecord :=
  { r with
    state := state
    leaseOwner := none
    leaseExpiresAt := none
    nextAttemptAt :=
      if state = .retryWait then now + makeInterval r.retryDelay else r.nextAttemptAt
    failureCode := report.errorCode
    completedAt :=
      if state ∈ [.completed, .approvalRequired, .cancelled, .deadLetter, .failed] then some now
      else none
    attempts := closeAttempts now state (fun _ => report.errorCode)
      (fun a => decide (a.fencingToken = fencingToken)) r.attempts
    deadLetter :=
      if state = .deadLetter then some (r.upsertDeadLetter now report) else r.deadLetter }

def finish (call : LeaseCall) (report : FinishReport) (completionState : JobState)
    (db : Database) : Outcome :=
  match assertLease now call true db with
  | .error fault => .error fault
  | .ok r =>
    let state := r.finishState report completionState
    .ok (db.put (r.settle now call.fencingToken report state), .state state)

/-- `store_result` on the leased row: every insertion is `ON CONFLICT DO NOTHING`, so what an
earlier call stored stays. -/
def storeResult (cfg : Config) (now : Int) (approvalId : UUID) (result : AIResult)
    (r : JobRecord) : Except Fault (JobRecord × JobState) :=
  match r.modelProfile with
  -- The ledger column is `NOT NULL`, so a job without a profile cannot store a result.
  | none => .error (.integrityError "ai_usage_ledger.model_profile")
  | some profile =>
    let stored : JobRecord := { r with
      result := r.result <|> some ⟨result.output, cfg.sha256 result.output.json⟩
      usage := r.usage <|> some {
        usageDate := now / 86400000000
        tokens := (result.tokenUsage.map Prod.snd).sum
        computeUnits := max 1 (result.latencyMs / 1000)
        modelProfile := profile } }
    if r.approvalPolicy.required then
      if r.commandType.isNone then .error (.integrityError "ai_job_approvals.action_type")
      else
        .ok ({ stored with
          approval := r.approval <|> some ⟨approvalId, r.organizationId, r.workspaceId, .pending,
            none⟩ },
          .approvalRequired)
    else .ok (stored, .completed)

structure CompleteRequest where
  jobId : UUID
  workerId : String
  fencingToken : Nat
  (organizationId workspaceId : UUID)
  correlationId : String
  result : Option AIResult
  approvalId : UUID

def CompleteRequest.call (c : CompleteRequest) : LeaseCall :=
  ⟨c.jobId, c.workerId, c.fencingToken, some c.organizationId, some c.workspaceId⟩

def CompleteRequest.report (c : CompleteRequest) : FinishReport :=
  ⟨false, none, false, c.correlationId⟩

/-- A resubmission of the stored output is answered, any other result for a finished job is
refused. -/
def completedResultStatus (cfg : Config) (c : CompleteRequest) (db : Database) :
    Except Fault (Option JobState) :=
  match db.job? c.jobId with
  | none => .ok none
  | some r =>
    if (r.organizationId = c.organizationId ∧ r.workspaceId = c.workspaceId) ∧
        (r.state = .completed ∨ r.state = .approvalRequired) then
      match c.result, r.result with
      | some submitted, some stored =>
        if stored.outputSha256 = cfg.sha256 submitted.output.json then .ok (some r.state)
        else .error (.httpConflict "duplicate_result_rejected")
      -- No result was submitted, or the job was finished without one.
      | _, _ => .error (.httpConflict "duplicate_result_rejected")
    else .ok none

/-- `store_result` and `finish` share the transaction of `complete_job`. -/
def completeJob (cfg : Config) (now : Int) (c : CompleteRequest) (db : Database) : Outcome :=
  match completedResultStatus cfg c db with
  | .error fault => .error fault
  | .ok (some state) => .ok (db, .duplicate state)
  | .ok none =>
    match c.result with
    | none => finish now c.call c.report .completed db
    | some result =>
      if result.jobId ≠ c.jobId ∨ result.commandId ≠ c.jobId then
        .error (.httpConflict "result reference mismatch")
      else
        -- Here a job in `cancel_requested` is refused; `finish` alone would accept it.
        match assertLease now c.call false db with
        | .error fault => .error fault
        | .ok r =>
          match storeResult cfg now c.approvalId result r with
          | .error fault => .error fault
          | .ok (stored, completionState) =>
            finish now c.call c.report completionState (db.put stored)

/-! ## Cancellation and approval -/

/-- The row update shared by the two paths that end a cancelled lease. -/
def JobRecord.cancelLease (p : JobAttempt → Bool) (r : JobRecord) : JobRecord :=
  { r with
    state := .cancelled, leaseOwner := none, leaseExpiresAt := none, completedAt := some now,
    attempts := closeAttempts now .cancelled JobAttempt.safeErrorCode p r.attempts }

def workerCancel (jobId : UUID) (workerId : String) (fencingToken : Nat)
    (organizationId workspaceId : UUID) (db : Database) : Outcome :=
  match assertLease now ⟨jobId, workerId, fencingToken, some organizationId, some workspaceId⟩
      true db with
  | .ok r =>
    if r.cancelRequestedAt.isSome then
      .ok (db.put (r.cancelLease now fun a =>
        decide (a.fencingToken = fencingToken ∧ a.workerId = workerId)),
        .cancellation true .cancelled)
    else .ok (db, .cancellation false r.state)
  | .error fault =>
    -- A repeated call after the cancellation is answered as the first one was.
    match db.job? jobId with
    | none => .error fault
    | some r =>
      if (r.organizationId = organizationId ∧ r.workspaceId = workspaceId) ∧
          r.state = .cancelled ∧ r.fencingToken = fencingToken ∧
          ∃ a ∈ r.attempts.rows, a.fencingToken = fencingToken ∧ a.workerId = workerId then
        .ok (db, .cancellation true .cancelled)
      else .error fault

/-- The guard and the row update of `POST /jobs/{job_id}/cancel` of the browser console. -/
def GenerationJob.ConsoleCancellable (organizationId workspaceId : UUID)
    (j : GenerationJob) : Prop :=
  (j.organizationId = organizationId ∧ j.workspaceId = workspaceId) ∧
    j.state ∉ [.completed, .failed, .cancelled, .deadLetter]

instance (organizationId workspaceId : UUID) (j : GenerationJob) :
    Decidable (j.ConsoleCancellable organizationId workspaceId) :=
  inferInstanceAs (Decidable (_ ∧ _))

def JobRecord.consoleCancelled (r : JobRecord) : JobRecord :=
  { r with
    cancelRequestedAt := some (r.cancelRequestedAt.getD now)
    -- Any other job keeps its state; whoever acts on it next finds the flag.
    state := if r.state ∈ [.queued, .retryWait] then .cancelled else r.state
    completedAt := if r.state ∈ [.queued, .retryWait] then some now else r.completedAt }

def consoleCancel (jobId organizationId workspaceId : UUID) (db : Database) : Outcome :=
  match db.job? jobId with
  | none => .error (.lookupError "active job not found")
  | some r =>
    if r.ConsoleCancellable organizationId workspaceId then
      .ok (db.put (r.consoleCancelled now), .cancellation true (r.consoleCancelled now).state)
    else .error (.lookupError "active job not found")

variable (tenantId workspaceId : UUID)

/-- The guard and the row update of `ai_orchestration.cancel`. -/
def GenerationJob.OrchestrationCancellable (j : GenerationJob) : Prop :=
  (j.organizationId = tenantId ∧ j.workspaceId = workspaceId) ∧
    j.state ∉ [.completed, .failed, .cancelled, .expired, .deadLetter, .rejected]

instance (j : GenerationJob) : Decidable (j.OrchestrationCancellable tenantId workspaceId) :=
  inferInstanceAs (Decidable (_ ∧ _))

def JobRecord.orchestrationCancelled (r : JobRecord) : JobRecord :=
  { r with
    cancelRequestedAt := some (r.cancelRequestedAt.getD now)
    state :=
      if r.state ∈ [.queued, .available, .retryWait, .approvalRequired] then .cancelled
      else .cancelRequested
    completedAt :=
      if r.state ∈ [.queued, .available, .retryWait, .approvalRequired] then some now
      else r.completedAt }

def orchestrationCancel (jobId tenantId workspaceId : UUID) (db : Database) : Outcome :=
  match db.job? jobId with
  | none => .error (.lookupError "active_command_not_found")
  | some r =>
    if r.OrchestrationCancellable tenantId workspaceId then
      .ok (db.put (r.orchestrationCancelled now), .status
        (r.orchestrationCancelled now).state.publicState)
    else .error (.lookupError "active_command_not_found")

def JobApproval.Awaits (a : JobApproval) : Prop :=
  a.organizationId = tenantId ∧ a.workspaceId = workspaceId ∧ a.state = .pending

instance (a : JobApproval) : Decidable (a.Awaits tenantId workspaceId) :=
  inferInstanceAs (Decidable (_ ∧ _ ∧ _))

variable (approved : Bool)

def decidedApprovalState : ApprovalState :=
  if approved then .approved else .rejected

def decidedJobState : JobState := if approved then .approved else .rejected

def JobApproval.decided (a : JobApproval) : JobApproval :=
  { a with state := decidedApprovalState approved, decidedAt := some now }

/-- `ai_orchestration.decide`: the approval is looked up by tenant and state, the job by its
identifier alone. -/
def decideApproval (jobId tenantId workspaceId : UUID) (approved : Bool)
    (db : Database) : Outcome :=
  match db.job? jobId with
  | none => .error (.lookupError "pending_approval_not_found")
  | some r =>
    match r.approval with
    | none => .error (.lookupError "pending_approval_not_found")
    | some a =>
      if a.Awaits tenantId workspaceId then
        .ok (db.put { r with
          approval := some (a.decided now approved), state := decidedJobState approved },
          .status (decidedJobState approved).publicState)
      else .error (.lookupError "pending_approval_not_found")

/-! ## Dead letters -/

variable (approvalId organizationId workspaceId : UUID)

/-- The join of dead letter and approval that `retry_dead_letter` selects. -/
def JobRecord.RetryApproved (r : JobRecord) : Prop :=
  ∃ d ∈ r.deadLetter, ∃ a ∈ r.approval, d.tenantId = organizationId ∧ d.workspaceId = workspaceId ∧
    d.manualRetryRequiresNewApproval = true ∧ a.id = approvalId ∧ a.state = .approved ∧
    ∃ t ∈ a.decidedAt, d.failedAt < t

instance (r : JobRecord) : Decidable (r.RetryApproved approvalId organizationId workspaceId) :=
  inferInstanceAs (Decidable (∃ d ∈ r.deadLetter, ∃ a ∈ r.approval, _))

def JobRecord.retried (r : JobRecord) : JobRecord :=
  { r with
    state := .retryWait
    -- One more attempt than the job had used up.
    maxAttempts := r.maxAttempts + 1
    nextAttemptAt := now
    failureCode := none
    completedAt := none
    deadLetter := r.deadLetter.map fun d =>
      { d with recoveryStatus := .approvedRetry, manualRetryRequiresNewApproval := false } }

def retryDeadLetter (jobId approvalId organizationId workspaceId : UUID)
    (db : Database) : Outcome :=
  match db.job? jobId with
  | none => .error (.permissionError "new_approval_required")
  | some r =>
    if r.RetryApproved approvalId organizationId workspaceId then
      if r.state = .deadLetter ∧ r.maxAttempts < 10 then
        .ok (db.put (r.retried now), .state .retryWait)
      else .error (.lookupError "dead_letter_not_retryable")
    else .error (.permissionError "new_approval_required")

/-! ## Maintenance -/

/-- First statement of `recover_expired`: `cancel_requested` leases that ran out. -/
def GenerationJob.CancelLapsed : Prop :=
  j.state = .cancelRequested ∧ (∃ t ∈ j.leaseExpiresAt, t ≤ now) ∧ scope.Covers j

instance : Decidable (j.CancelLapsed now scope) :=
  inferInstanceAs (Decidable (_ ∧ _ ∧ _))

/-- What the two other statements of `recover_expired` have in common: a lease that ran out
before the deadline did. -/
def GenerationJob.LeaseLapsed : Prop :=
  j.state = .leased ∧ (∃ t ∈ j.leaseExpiresAt, t ≤ now) ∧ (∀ t ∈ j.deadlineAt, now < t) ∧
    scope.Covers j

instance : Decidable (j.LeaseLapsed now scope) :=
  inferInstanceAs (Decidable (_ ∧ _ ∧ _ ∧ _))

section

variable (r : JobRecord)

def JobRecord.recoverCancelled : JobRecord :=
  if r.CancelLapsed now scope then
    r.cancelLease now fun a => decide (a.fencingToken = r.fencingToken)
  else r

def JobRecord.requeued : JobRecord :=
  { r with state := .retryWait, leaseOwner := none, leaseExpiresAt := none, nextAttemptAt := now }

def JobRecord.recoverRetried : JobRecord :=
  if r.LeaseLapsed now scope ∧ r.attemptCount < r.maxAttempts then r.requeued now else r

def JobRecord.leaseExpired : JobRecord :=
  { r with
    state := .deadLetter, leaseOwner := none, leaseExpiresAt := none,
    failureCode := some "lease_expired",
    completedAt := some now,
    deadLetter := r.deadLetter <|> some (r.newDeadLetter now "lease_expired"
      (textOr r.correlationId "lease-recovery")) }

def JobRecord.recoverDead : JobRecord :=
  if r.LeaseLapsed now scope ∧ r.maxAttempts ≤ r.attemptCount then r.leaseExpired now else r

def JobRecord.recover : JobRecord :=
  ((r.recoverCancelled now scope).recoverRetried now scope).recoverDead now scope

theorem JobRecord.recover_id : (r.recover now scope).id = r.id := by
  simp only [recover, recoverDead, recoverRetried, recoverCancelled, leaseExpired, requeued,
    cancelLease]
  split_ifs <;> rfl

end

def recoverExpired (db : Database) : Outcome :=
  -- The counts are those of the second and third statement, which see the rows of the first.
  let swept := db.jobs.rows.map (recoverCancelled now scope)
  .ok (db.updateJobs (recover now scope) (recover_id now scope), .recovered
      (swept.countP fun r => decide (r.LeaseLapsed now scope ∧ r.attemptCount < r.maxAttempts))
      (swept.countP fun r => decide (r.LeaseLapsed now scope ∧ r.maxAttempts ≤ r.attemptCount)))

def GenerationJob.DeadlinePassed : Prop :=
  (j.state = .queued ∨ j.state = .retryWait ∨ j.state = .leased) ∧ (∃ t ∈ j.deadlineAt, t ≤ now) ∧
    scope.Covers j

instance : Decidable (j.DeadlinePassed now scope) :=
  inferInstanceAs (Decidable (_ ∧ _ ∧ _))

def JobRecord.expire (r : JobRecord) : JobRecord :=
  if r.DeadlinePassed now scope then
    { r with
      -- The attempt of a leased job is not closed here.
      state := .expired
      leaseOwner := none
      leaseExpiresAt := none
      failureCode := some "deadline_expired"
      completedAt := some now }
  else r

theorem JobRecord.expire_id (r : JobRecord) : (r.expire now scope).id = r.id := by
  unfold expire
  split <;> rfl

def expireDeadlines (db : Database) : Outcome :=
  .ok (db.updateJobs (expire now scope) (expire_id now scope),
    .expired (db.jobs.rows.countP fun r => decide (r.DeadlinePassed now scope)))

end CodestraMiddleware.AiJobs
