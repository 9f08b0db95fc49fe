import CodestraMiddleware.AiJobs.Operations

/-!
# Submission, registration and approvals from outside

`create_conversation`, `create_message_job`, `submit` and `register_worker`, each as one
transaction, and the writes that operators make directly: an approval row for a job, its
decision, and a worker's registration.
-/
namespace CodestraMiddleware.AiJobs

open Relational

def existingJob? (organizationId workspaceId : UUID) (key : String) (db : Database) :
    Option JobRecord :=
  db.jobs.rows.find? fun r =>
    decide (r.organizationId = organizationId ∧ r.workspaceId = workspaceId ∧
      r.idempotencyKey = key)

def insertJob (r : JobRecord) (reply : Reply) (db : Database) : Outcome :=
  match db.jobs.insert? r with
  | none => .error (.integrityError "ai_generation_jobs_pkey")
  | some jobs => .ok ({ db with jobs := jobs }, reply)

def createConversation (id organizationId workspaceId : UUID) (db : Database) : Outcome :=
  match db.conversations.insert? ⟨id, organizationId, workspaceId, true⟩ with
  | none => .error (.integrityError "ai_conversations_pkey")
  | some conversations => .ok ({ db with conversations := conversations }, .stored)

def MessageRequest.requestText (m : MessageRequest) : String :=
  "\x00".intercalate [UUID.text m.conversationId, m.taskType.text, m.projectKey.getD "", m.content]

def MessageRequest.spec (m : MessageRequest) (command : AICommand) (requestSha256 : String) :
    JobSpec where
  id := m.jobId
  conversationId := some m.conversationId
  requestMessageId := some m.messageId
  organizationId := m.organizationId
  workspaceId := m.workspaceId
  modelProfile := some command.profile
  projectKey := m.projectKey
  idempotencyKey := m.idempotencyKey
  requestSha256 := requestSha256
  commandType := some command.commandType
  actorId := some command.actorId
  correlationId := some command.correlationId
  priority := command.priority
  deadlineAt := some command.deadlineAt
  approvalPolicy := command.approvalPolicy

def createMessageJob (cfg : Config) (now : Int) (m : MessageRequest) (db : Database) : Outcome :=
  match browserCapability m.taskType with
  | none => .error (.valueError "unsupported_browser_capability")
  | some capability =>
    let requestHash := cfg.sha256 m.requestText
    match existingJob? m.organizationId m.workspaceId m.idempotencyKey db with
    | some existing =>
      if existing.requestSha256 ≠ requestHash then .error (.valueError "idempotency_conflict")
      else .ok (db, .created existing.id existing.requestMessageId existing.state true)
    | none =>
      -- The conversation is looked at only for a new key: a replay needs none.
      match db.conversations.find? m.conversationId with
      | none => .error (.lookupError "conversation_not_found")
      | some conversation =>
        if conversation.organizationId = m.organizationId ∧
            conversation.workspaceId = m.workspaceId ∧ conversation.active = true then
          match buildBrowserWorkerContract now m capability with
          | .error fault => .error fault
          | .ok command =>
            insertJob (JobRecord.queued now (m.spec command requestHash) m.maxAttempts)
              (.created m.jobId (some m.messageId) .queued false) db
        else .error (.lookupError "conversation_not_found")

def AICommand.spec (command : AICommand) (workspaceId : UUID) (requestSha256 : String) :
    JobSpec where
  id := command.commandId
  conversationId := none
  requestMessageId := none
  organizationId := command.tenantId
  workspaceId := workspaceId
  modelProfile := some command.profile
  projectKey := none
  idempotencyKey := command.idempotencyKey
  requestSha256 := requestSha256
  commandType := some command.commandType
  actorId := some command.actorId
  correlationId := some command.correlationId
  priority := command.priority
  deadlineAt := some command.deadlineAt
  approvalPolicy := command.approvalPolicy

variable (organizationId workspaceId : UUID)

def queuedJobs (db : Database) : Nat :=
  db.jobs.rows.countP fun r =>
    decide ((r.organizationId = organizationId ∧ r.workspaceId = workspaceId) ∧
      r.state ∈ [.queued, .available, .retryWait, .approvalRequired])

def usedTokens (day : Int) (db : Database) : Int :=
  (db.jobs.rows.filterMap fun r =>
    if r.organizationId = organizationId ∧ r.workspaceId = workspaceId then
      (r.usage.filter fun u => decide (u.usageDate = day)).map Usage.tokens
    else none).sum

def activeJobs (db : Database) : Nat :=
  db.jobs.rows.countP fun r =>
    decide (r.state ∈ [.queued, .available, .leased, .running, .retryWait])

variable (cfg : Config) (now : Int) (command : AICommand) (payload : String) (workspaceId : UUID)
  (db : Database)

def checkQuota : Except Fault Unit :=
  let quota := db.quotas.find? (command.tenantId, workspaceId)
  let maxQueued := (quota.map TenantQuota.maxQueued).getD cfg.defaultMaxQueuedPerTenant
  let daily := (quota.map TenantQuota.dailyTokens).getD cfg.dailyTokenQuota
  let used := usedTokens command.tenantId workspaceId (now / 86400000000) db
  if maxQueued ≤ queuedJobs command.tenantId workspaceId db then
    .error (.overflowError "tenant_queue_quota_exceeded")
  else if ∃ q ∈ quota, payload.utf8ByteSize > q.maxPayloadBytes then
    .error (.overflowError "tenant_payload_quota_exceeded")
  else if used + command.resourceLimits.tokenBudget > daily then
    .error (.overflowError "daily_token_quota_exceeded")
  -- A limit of zero switches the last check off.
  else if cfg.globalEmergencyLimit > 0 ∧ cfg.globalEmergencyLimit ≤ activeJobs db then
    .error (.overflowError "global_emergency_limit")
  else .ok ()

def submit : Outcome :=
  let requestHash := cfg.sha256 payload
  match existingJob? command.tenantId workspaceId command.idempotencyKey db with
  | some existing =>
    if existing.requestSha256 ≠ requestHash then .error (.valueError "idempotency_conflict")
    else .ok (db, .submitted existing.id existing.state.publicState true)
  | none =>
    -- The identifier of a command is the job's primary key, across tenants.
    if (db.job? command.commandId).isSome then .error (.valueError "command_id_conflict")
    else
      match checkQuota cfg now command payload workspaceId db with
      | .error fault => .error fault
      | .ok () =>
        insertJob (JobRecord.queued now (command.spec workspaceId requestHash)
          (command.resourceLimits.retryCount + 1)) (.submitted command.commandId "PENDING" false) db

/-- A registration is inserted disabled; a repeated one keeps its `enabled` flag. -/
def registerWorker (workerId serviceId : String) (maxConcurrency : Int) (db : Database) : Outcome :=
  .ok ({ db with
    registrations := db.registrations.upsert ⟨workerId, serviceId, maxConcurrency, false⟩
      (fun old => { old with
        serviceId := serviceId, maxConcurrency := maxConcurrency }) (fun _ => rfl) }, .stored)

/-! ## Writes by operators -/

def setRegistration (registration : WorkerRegistration) (db : Database) : Outcome :=
  .ok ({ db with
    registrations := (db.registrations.insertOrIgnore registration).replace registration },
    .stored)

def insertApproval (jobId : UUID) (approval : JobApproval) (db : Database) : Outcome :=
  match db.job? jobId with
  | none => .error (.integrityError "ai_job_approvals_job_id_fkey")
  | some r =>
    match r.approval with
    | some _ => .error (.integrityError "ai_job_approvals_job_id_key")
    | none => .ok (db.put { r with approval := some approval }, .stored)

def settleApproval (now : Int) (jobId : UUID) (approved : Bool) (db : Database) : Outcome :=
  match db.job? jobId with
  | none => .error (.lookupError "pending_approval_not_found")
  | some r =>
    match r.approval with
    | none => .error (.lookupError "pending_approval_not_found")
    | some a =>
      if a.state = .pending then
        .ok (db.put { r with approval := some (a.decided now approved) }, .stored)
      else .error (.lookupError "pending_approval_not_found")

end CodestraMiddleware.AiJobs
