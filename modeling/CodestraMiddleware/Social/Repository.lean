import CodestraMiddleware.Social.Providers

/-!
# The social repository

The transactions of `SqlSocialRepository`. Each returns what the source returns together with the
database it commits, or raises and leaves the database as it is.
-/
namespace CodestraMiddleware.Social

open Relational PythonValue Raising Constrained SocialPublishJob

variable (rt : Runtime)

def seconds (n : Nat) : Int := n * 1000000

def zeroUuid : UUID := 0

structure Timestamp where
  instant : Int
  isoformat : String

structure PostRequest where
  tenantId : UUID
  provider : ProviderName
  accountIds : List UUID
  content : Dict
  campaignId : Option UUID
  publishAt : Option Timestamp
  metadata : Dict
  (idempotencyKey correlationId requestId : String)
  postId : Option UUID

/-- The idempotency record stands for the first request with its key. -/
inductive Reservation where
  | reserved (records : Table IdempotencyRecord.key)
  | replayed (existing : IdempotencyRecord)

/-- `INSERT INTO social_idempotency_records ... ON CONFLICT DO NOTHING`, and what both callers do on
a conflict. -/
def reserve (record : IdempotencyRecord) (db : Database) : Fallible Reservation :=
  match db.idempotencyRecords.find? record.key with
  | some existing =>
    if existing.requestHash = record.requestHash then .ok (.replayed existing)
    else .error (.raised {
      code := "SOCIAL_IDEMPOTENCY_CONFLICT"
      message := "Idempotency key was used with a different request"
      statusCode := 409 })
  | none => .ok (.reserved (db.idempotencyRecords.insertOrIgnore record))

namespace PostRequest

variable (r : PostRequest)

def action : JobType := if r.publishAt.isSome then .schedule else .create

def requestHash : String :=
  let text (id : UUID) : Value := .str (UUID.text id)
  rt.sha256 ((Value.dict [("accounts", .list (r.accountIds.map text)), ("content", r.content.value),
    ("campaign_id", (r.campaignId.map text).getD .null),
    ("publish_at", (r.publishAt.map fun at_ => .str at_.isoformat).getD .null),
    ("metadata", r.metadata.value)]).dumps rt.texts)

def post (postId : UUID) : SocialPost where
  id := postId
  tenantId := r.tenantId
  campaignId := r.campaignId
  provider := r.provider
  publishAt := r.publishAt.map (·.instant)
  accountIds := r.accountIds
  providerPostId := none
  status := .queued
  content := r.content
  metadata := r.metadata

def job (now : Int) (postId jobId : UUID) : SocialPublishJob where
  id := jobId
  tenantId := r.tenantId
  socialPostId := postId
  provider := r.provider
  jobType := r.action
  correlationId := r.correlationId
  requestId := r.requestId
  idempotencyKey := rt.sha256 r.idempotencyKey
  productionCanary := false
  productionAccountId := none
  contentApprovedAt := none
  createdAt := now
  toJobProgress := .initial

end PostRequest

/-- The foreign keys of a new post, and the primary key of `social_post_accounts`. -/
def PostRequest.referencesHold (r : PostRequest) (db : Database) : Bool :=
  r.provider ≠ .disabled && r.accountIds.Nodup && r.accountIds.all fun id =>
    (db.accounts.find? id).isSome

def createPostIntent (r : PostRequest) (now : Int) (newPostId jobId : UUID) (db : Database) :
    Fallible ((UUID × UUID × Bool) × Database) := do
  let postId := r.postId.getD newPostId
  match ← reserve ⟨r.tenantId, r.action, zeroUuid, rt.sha256 r.idempotencyKey, r.requestHash rt,
      postId, jobId⟩ db with
  | .replayed existing => .ok ((existing.socialPostId, existing.jobId, false), db)
  | .reserved records =>
    check (r.referencesHold db) .escaped
    match db.posts.insert? (r.post postId), db.jobs.insert? (r.job rt now postId jobId) with
    | some posts, some jobs =>
      .ok ((postId, jobId, true), { db with idempotencyRecords := records, posts, jobs })
    | _, _ => .error .escaped

def SocialPostStatus.editable : SocialPostStatus → Bool
  | .draft | .queued | .scheduled => true
  | _ => false

def getPost (postId : UUID) (db : Database) : Fallible SocialPost :=
  match db.post? postId with
  | some post => .ok post
  | none => .error (.raised {
      code := "SOCIAL_POST_NOT_FOUND"
      message := "Social post was not found"
      statusCode := 404 })

def SocialPost.edit (postId : UUID) (content metadata : Option Dict) (p : SocialPost) :
    SocialPost :=
  if p.id = postId then
    { p with content := content.getD p.content, metadata := metadata.getD p.metadata }
  else p

def updatePost (postId : UUID) (content metadata : Option Dict) (db : Database) :
    Fallible Database :=
  match db.post? postId with
  | none => .error (.raised {
      code := "SOCIAL_POST_NOT_FOUND"
      message := "Social post cannot be edited"
      statusCode := 404 })
  | some post =>
    if post.status.editable then
      .ok { db with posts := db.posts.update (·.edit postId content metadata) (by
        intro p p' clash
        unfold SocialPost.edit at clash
        split at clash <;> split at clash <;> exact clash) }
    else .error (.raised {
      code := "SOCIAL_POST_NOT_EDITABLE"
      message := "Social post cannot be edited"
      statusCode := 409 })

structure CommandRequest where
  action : JobType
  (idempotencyKey correlationId requestId : String)
  productionContext : Option ProductionPublishContext

section

variable (c : CommandRequest) (now : Int) (post : SocialPost) (jobId : UUID)

def CommandRequest.job : SocialPublishJob where
  id := jobId
  tenantId := post.tenantId
  socialPostId := post.id
  provider := post.provider
  jobType := c.action
  correlationId := c.correlationId
  requestId := c.requestId
  idempotencyKey := rt.sha256 c.idempotencyKey
  productionCanary := c.productionContext.isSome
  productionAccountId := c.productionContext.map (·.accountId)
  contentApprovedAt := if c.productionContext.any (·.contentApproved) then some now else none
  createdAt := now
  toJobProgress := .initial

def enqueueCommand (db : Database) : Fallible ((UUID × Bool) × Database) := do
  match ← reserve ⟨post.tenantId, c.action, post.id, rt.sha256 c.idempotencyKey,
      rt.sha256 (UUID.text post.id ++ ":" ++ c.action.value), post.id, jobId⟩ db with
  | .replayed existing => .ok ((existing.jobId, false), db)
  | .reserved records =>
    check ((db.post? post.id).isSome ∧
      c.productionContext.all fun context => (db.accounts.find? context.accountId).isSome) .escaped
    -- The job of `create_post_intent` may hold the key already, since its record has another
    -- subject.
    match db.jobs.insert? (c.job rt now post jobId) with
    | some jobs => .ok ((jobId, true), { db with idempotencyRecords := records, jobs })
    | none => .error .escaped

end

/-! ## Accounts of a post -/

def accountsOf (post : SocialPost) (db : Database) : List SocialAccount :=
  (db.accounts.rows.filter fun a => post.accountIds.contains a.id).insertionSort
    fun a b => a.id ≤ b.id

def SocialAccount.stagingSafe (a : SocialAccount) : Bool :=
  a.connectionState = "connected" && (a.metadata.getD "classification" .null).text? =
    some "STAGING_SAFE"

def stagingProviderAccountRefs (post : SocialPost) (db : Database) : Fallible (List String) := do
  let rows := accountsOf post db
  check (rows ≠ []) (.raised {
    code := "SOCIAL_ACCOUNT_NOT_FOUND"
    message := "No social account is assigned"
    statusCode := 422 })
  check (rows.all (·.stagingSafe)) (.raised {
    code := "SOCIAL_ACCOUNT_NOT_STAGING_SAFE"
    message := "All target accounts must be connected staging accounts"
    statusCode := 403 })
  return rows.map (·.providerAccountId)

def productionPublishContext (post : SocialPost) (contentApproved : Bool) (db : Database) :
    Fallible ProductionPublishContext :=
  match accountsOf post db with
  | [row] =>
    if row.provider = post.provider then
      .ok {
        tenantId := post.tenantId
        campaignId := post.campaignId
        accountId := row.id
        provider := post.provider
        classification := (row.metadata.getD "classification" (.str "UNKNOWN")).toText rt.texts
        connectionState := row.connectionState
        contentApproved }
    else .error (.raised {
      code := "SOCIAL_PROVIDER_OWNERSHIP_MISMATCH"
      message := "Post and account providers do not match"
      statusCode := 409 })
  | _ => .error (.raised {
      code := "SOCIAL_PRODUCTION_SINGLE_ACCOUNT_REQUIRED"
      message := "Production canary requires exactly one account"
      statusCode := 403 })

/-! ## Claims and recovery -/

section

variable (now : Int)

def SocialPublishJob.claimable (j : SocialPublishJob) : Bool :=
  (j.state = .queued || j.state = .retry) && j.nextAttemptAt.all (· ≤ now) &&
    j.leaseExpiresAt.all (· ≤ now)

def SocialPublishJob.notAfter (j j' : SocialPublishJob) : Prop :=
  j.createdAt < j'.createdAt ∨ j.createdAt = j'.createdAt ∧ j.id ≤ j'.id

instance : DecidableRel notAfter := fun _ _ => inferInstanceAs (Decidable (_ ∨ _ ∧ _))

def JobProgress.claim (workerId : String) (leaseSeconds : Nat) (p : JobProgress) : JobProgress :=
  { p with
    state := .processing, leaseOwner := some workerId,
    leaseExpiresAt := some (now + seconds leaseSeconds),
    fencingToken := p.fencingToken + 1 }

def claimedRows (locked : UUID → Bool) (limit : Nat) (db : Database) : List SocialPublishJob :=
  ((db.jobs.rows.filter fun j => j.claimable now && !locked j.id).insertionSort notAfter).take limit

def claimJobs (locked : UUID → Bool) (workerId : String) (limit leaseSeconds : Nat)
    (db : Database) : List SocialPublishJob × Database :=
  let claimed := claimedRows now locked limit db
  let p := fun j : SocialPublishJob => claimed.any fun row => j.id = row.id
  let change := JobProgress.claim now workerId leaseSeconds
  (claimed.map (·.advance p change), db.updateJobs p change)

def SocialPublishJob.stale (j : SocialPublishJob) : Bool :=
  j.state = .processing && j.leaseExpiresAt.any (· ≤ now)

/-- The attempt is not counted, and the certainty stays what it was before it. -/
def JobProgress.recover (p : JobProgress) : JobProgress :=
  { p with
    state := .retry, leaseOwner := none, leaseExpiresAt := none, nextAttemptAt := some now,
    lastErrorCode := some (p.lastErrorCode.getD "SOCIAL_WORKER_LEASE_EXPIRED") }

def recoverStaleJobs (db : Database) : List (UUID × String) × Database :=
  ((db.jobs.rows.filter (·.stale now)).map fun j => (j.id, j.correlationId), db.updateJobs
    (·.stale now) (.recover now))

end

section

variable (job : SocialPublishJob)

def SocialPublishJob.owns (j : SocialPublishJob) : Bool :=
  j.id = job.id && j.state = .processing && j.fencingToken = job.fencingToken

def JobProgress.complete (p : JobProgress) : JobProgress :=
  { p with state := .completed, resultCertainty := .confirmed, leaseOwner := none,
           leaseExpiresAt := none }

def SocialPost.record (result : ProviderResult) (p : SocialPost) : SocialPost :=
  if p.id = job.socialPostId then
    { p with providerPostId := result.providerPostId.or p.providerPostId, status := result.status }
  else p

def IntegrationEvent.completed (status : SocialPostStatus) (eventId : UUID) : IntegrationEvent where
  idempotencyKey := "social:" ++ UUID.text eventId
  eventType := "social.post." ++ status.lower
  originalEventId := UUID.text eventId
  entityKey := "social_post:" ++ UUID.text job.socialPostId
  correlationId := job.correlationId

end

def leaseLost : SocialError where
  code := "SOCIAL_WORKER_LEASE_LOST"
  message := "Social job lease was lost before result persistence"
  statusCode := 409
  unknownResult := true

def completeJob (job : SocialPublishJob) (result : ProviderResult) (eventId : UUID)
    (db : Database) : Fallible (UUID × Database) :=
  if db.jobs.rows.any job.owns then
    match db.posts.update? (·.record job result), db.attempts.insert?
      ⟨job.id, job.attemptCount + 1, .success, none, none⟩,
      db.integrationEvents.insert? (.completed job result.status eventId) with
    | some posts, some attempts, some integrationEvents =>
      .ok (eventId, { db.updateJobs job.owns .complete with posts, attempts, integrationEvents })
    -- An `IntegrityError`: the transaction is rolled back.
    | _, _, _ => .error .escaped
  else .error (.raised leaseLost)

section

variable (error : SocialError)

def SocialError.unknown : Bool :=
  error.unknownResult || error.code = "SOCIAL_PROVIDER_UNKNOWN_RESULT"

def SocialError.dead (maxAttempts attempts : Nat) : Bool :=
  error.unknown || !error.retryable || maxAttempts ≤ attempts

def SocialError.summary : String := String.ofList (error.message.toList.take 512)

def JobProgress.fail (maxAttempts attempts : Nat) (now delay : Int) (p : JobProgress) :
    JobProgress :=
  let dead := error.dead maxAttempts attempts
  { p with
    state := if dead then .deadLetter else .retry, attemptCount := attempts,
    resultCertainty := if error.unknown then .unknownAfterSend else .failedBeforeSend,
    lastErrorCode := some error.code,
    lastErrorSummary := some error.summary,
    nextAttemptAt := if dead then none else some (now + delay), leaseOwner := none,
    leaseExpiresAt := none, failedAt := if dead then some now else none }

end

inductive FailOutcome where
  | deadLetter | retry | leaseLost

def failJob (job : SocialPublishJob) (error : SocialError) (maxAttempts : Nat) (now delay : Int)
    (db : Database) : Fallible (FailOutcome × Database) :=
  let attempts := job.attemptCount + 1
  let dead := error.dead maxAttempts attempts
  if db.jobs.rows.any job.owns then
    match db.attempts.insert? ⟨job.id, attempts, if dead then .deadLetter else .retry,
        some error.code, some error.summary⟩ with
    | some inserted =>
      .ok (if dead then .deadLetter else .retry,
        { db.updateJobs job.owns (.fail error maxAttempts attempts now delay) with
          attempts := inserted })
    | none => .error .escaped
  else .ok (.leaseLost, db)

def retryDelay (attempt jitter : Nat) : Int := (min 300 (5 * 2 ^ (attempt - 1)) * jitter : Nat)

/-- What the requests of the API can do: new jobs and posts start in their first state, a new job
has its post, edits leave the state of a post alone, and nothing else is touched. -/
structure Extends (db db' : Database) : Prop where
  jobs : db'.jobs = db.jobs ∨ ∃ job, db.jobs.insert? job = some db'.jobs ∧
      job.toJobProgress = .initial ∧ (db'.post? job.socialPostId).isSome = true
  posts : (∃ f : SocialPost → SocialPost, db'.posts.rows = db.posts.rows.map f ∧
      ∀ p, (f p).toPostSpec = p.toPostSpec ∧ (f p).status = p.status ∧
      (f p).providerPostId = p.providerPostId) ∨
    ∃ post, db.posts.insert? post = some db'.posts ∧ post.status = .queued
  attempts : db'.attempts = db.attempts
  integrationEvents : db'.integrationEvents = db.integrationEvents

variable {now : Int} {jobId : UUID}

section Extends

variable {rt} {db db' : Database}

theorem samePosts (same : db'.posts = db.posts) : ∃ f : SocialPost →
    SocialPost, db'.posts.rows = db.posts.rows.map f ∧
      ∀ p, (f p).toPostSpec = p.toPostSpec ∧ (f p).status = p.status ∧
      (f p).providerPostId = p.providerPostId :=
  ⟨id, by simp [same], fun _ => ⟨rfl, rfl, rfl⟩⟩

theorem Extends.refl (db : Database) : Extends db db := ⟨.inl rfl, .inl (samePosts rfl), rfl, rfl⟩

section

variable (done : createPostIntent rt r now newPostId jobId db = .ok (reply, db'))

include done

theorem createPostIntent_eq_ok :
    db' = db ∨ ∃ records posts jobs, db.posts.insert? (r.post (r.postId.getD newPostId)) =
      some posts ∧ db.jobs.insert? (r.job rt now (r.postId.getD newPostId) jobId) = some jobs ∧
      db' = { db with idempotencyRecords := records, posts, jobs } := by
  simp only [createPostIntent, bind_eq_ok] at done
  obtain ⟨reservation, -, done⟩ := done
  cases reservation with
  | replayed existing =>
    cases done
    exact .inl rfl
  | reserved records =>
    obtain ⟨-, -, done⟩ := bind_eq_ok.mp done
    split at done
    next posts jobs posted queued =>
      cases done
      exact .inr ⟨records, posts, jobs, posted, queued, rfl⟩
    next => cases done

theorem createPostIntent_extends : Extends db db' := by
  rcases createPostIntent_eq_ok done with rfl | ⟨_, _, _, posted, queued, rfl⟩
  · exact .refl _
  · refine ⟨.inr ⟨_, queued, rfl, ?_⟩, .inr ⟨_, posted, rfl⟩, rfl, rfl⟩
    have looked := find?_insert? (@Database.post_unique (r.postId.getD newPostId)) posted
    rw [if_pos (by simp [PostRequest.post])] at looked
    exact Option.isSome_iff_exists.mpr ⟨_, looked⟩

end

section

variable (done : enqueueCommand rt c now post jobId db = .ok (reply, db'))

include done

theorem enqueueCommand_eq_ok :
    reply.2 = false ∧ db' = db ∨ reply = (jobId, true) ∧ (db.post? post.id).isSome = true ∧
      ∃ records jobs, db.jobs.insert? (c.job rt now post jobId) = some jobs ∧
        db' = { db with idempotencyRecords := records, jobs } := by
  simp only [enqueueCommand, bind_eq_ok] at done
  obtain ⟨reservation, -, done⟩ := done
  cases reservation with
  | replayed existing =>
    cases done
    exact .inl ⟨rfl, rfl⟩
  | reserved records =>
    simp only [bind_eq_ok, check_eq_ok] at done
    obtain ⟨-, references, done⟩ := done
    split at done
    next jobs queued =>
      cases done
      exact .inr ⟨rfl, references.1, records, jobs, queued, rfl⟩
    next => cases done

theorem enqueueCommand_extends : Extends db db' := by
  rcases enqueueCommand_eq_ok done with ⟨-, rfl⟩ | ⟨-, there, _, _, queued, rfl⟩
  · exact .refl _
  · exact ⟨.inr ⟨_, queued, rfl, there⟩, .inl (samePosts rfl), rfl, rfl⟩

end

section Update

variable {postId : UUID} {content metadata : Option PythonValue.Dict}

section

variable (done : updatePost postId content metadata db = .ok db')

include done

theorem updatePost_eq_ok :
    ∃ post, db.post? postId = some post ∧ post.status.editable = true ∧
      db'.posts.rows = db.posts.rows.map (·.edit postId content metadata) ∧
      db' = { db with posts := db'.posts } := by
  unfold updatePost at done
  split at done
  next => cases done
  next post found =>
    split at done
    next editable =>
      cases done
      exact ⟨post, found, editable, rfl, rfl⟩
    next => cases done

theorem updatePost_extends : Extends db db' := by
  obtain ⟨-, -, -, edited, kept⟩ := updatePost_eq_ok done
  rw [kept]
  refine ⟨.inl rfl, .inl ⟨_, edited, ?_⟩, rfl, rfl⟩
  intro p
  unfold SocialPost.edit
  split <;> exact ⟨rfl, rfl, rfl⟩

end

end Update

theorem Extends.job? (extends_ : Extends db db') (id : UUID) : db'.job? id = db.job? id ∨
      db.job? id = none ∧ ∃ job, db'.job? id = some job ∧ job.toJobProgress = .initial ∧
        (db'.post? job.socialPostId).isSome = true := by
  rcases extends_.jobs with same | ⟨job, inserted, initial, posted⟩
  · exact .inl (by simp [Database.job?, same])
  · have looked : db'.job? id = if decide (job.id = id) = true then some job else db.job? id :=
      find?_insert? Database.job_unique inserted
    split at looked
    next named =>
      exact .inr ⟨insert?_fresh Database.job_unique inserted named, job, looked, initial, posted⟩
    next => exact .inl looked

theorem Extends.post? (extends_ : Extends db db') (id : UUID) :
    (∃ f : SocialPost → SocialPost, db'.post? id = (db.post? id).map f ∧
        ∀ p, (f p).status = p.status ∧ (f p).providerPostId = p.providerPostId) ∨
      db.post? id = none ∧ ∃ post, db'.post? id = some post ∧ post.status = .queued := by
  rcases extends_.posts with ⟨f, mapped, kept⟩ | ⟨post, inserted, queued⟩
  · refine .inl ⟨f, find?_of_map mapped ?_, fun p => (kept p).2⟩
    intro p
    rw [show (f p).id = p.id from congrArg PostSpec.id (kept p).1]
  · have looked : db'.post? id = if decide (post.id = id) = true then some post else db.post? id :=
      find?_insert? Database.post_unique inserted
    split at looked
    next named =>
      exact .inr ⟨insert?_fresh Database.post_unique inserted named, post, looked, queued⟩
    next => exact .inl ⟨fun p => p, by simp [looked], fun _ => ⟨rfl, rfl⟩⟩

end Extends

section Results

variable {db db' : Database} {job : SocialPublishJob}

@[simp] theorem SocialPublishJob.owns_iff : job.owns j = true ↔
      j.id = job.id ∧ j.state = .processing ∧ j.fencingToken = job.fencingToken := by
  simp [owns, and_assoc]

/-- The job is still processed under the claim that returned `job`. -/
def SocialPublishJob.Current (job : SocialPublishJob) (db : Database) : Prop :=
  ∃ row, db.job? job.id = some row ∧ row.state = .processing ∧ row.fencingToken = job.fencingToken

theorem SocialPublishJob.any_owns : db.jobs.rows.any job.owns = true ↔ job.Current db := by
  simp only [List.any_eq_true, owns_iff, Current, db.job?_eq_some]
  constructor
  · rintro ⟨row, member, named, processing, token⟩
    exact ⟨row, ⟨member, named⟩, processing, token⟩
  · rintro ⟨row, ⟨member, named⟩, processing, token⟩
    exact ⟨row, member, named, processing, token⟩

theorem completeJob_eq_ok {id : UUID}
    (done : completeJob job result eventId db = .ok (id, db')) : id = eventId ∧ job.Current db ∧
      ∃ posts attempts integrationEvents, db.posts.update? (·.record job result) = some posts ∧
        db.attempts.insert? ⟨job.id, job.attemptCount + 1, .success, none, none⟩ = some attempts ∧
        db.integrationEvents.insert? (.completed job result.status eventId) =
        some integrationEvents ∧
        db' = { db.updateJobs job.owns .complete with posts, attempts, integrationEvents } := by
  unfold completeJob at done
  split at done
  next owned =>
    split at done
    next posts attempts integrationEvents posted attempted published =>
      cases done
      exact ⟨rfl, any_owns.mp owned, posts, attempts, integrationEvents, posted, attempted,
        published, rfl⟩
    next => cases done
  next => cases done

theorem completeJob_post? {id : UUID} (done : completeJob job result eventId db = .ok (id, db'))
    (postId : UUID) : db'.post? postId = (db.post? postId).map (·.record job result) := by
  obtain ⟨-, -, _, _, _, posted, -, -, rfl⟩ := completeJob_eq_ok done
  refine find?_of_map (rows_update? posted) ?_
  intro p
  unfold SocialPost.record
  split <;> rfl

theorem failJob_eq_ok (done : failJob job error maxAttempts now delay db = .ok (outcome, db')) :
    (outcome = .leaseLost ∧ ¬ job.Current db ∧ db' = db) ∨ outcome ≠ .leaseLost ∧ job.Current db ∧
        ∃ attempts, db.attempts.insert? ⟨job.id, job.attemptCount + 1,
            if error.dead maxAttempts (job.attemptCount + 1) then .deadLetter else .retry,
            some error.code, some error.summary⟩ = some attempts ∧
          db' = {
            db.updateJobs job.owns (.fail error maxAttempts (job.attemptCount + 1) now delay) with
            attempts } := by
  unfold failJob at done
  simp only at done
  split at done
  next owned =>
    right
    split at done
    next attempts attempted =>
      cases done
      refine ⟨?_, any_owns.mp owned, attempts, attempted, rfl⟩
      split <;> simp
    next => cases done
  next lost =>
    cases done
    exact .inl ⟨rfl, fun current => lost (any_owns.mpr current), rfl⟩

end Results

end CodestraMiddleware.Social
