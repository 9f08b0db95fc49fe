import CodestraMiddleware.Foundations.Ledger
import CodestraMiddleware.Social.Repository

/-!
# The social worker

`run_forever` and `process_claimed_job`, cut at the transactions and at the provider call. A worker
that is between two of them keeps the row its claim returned and what it has computed from it since.
-/
namespace CodestraMiddleware.Social

open Relational Raising Leases

variable {ω : Type}

inductive Call where
  | create (post : SocialPost) (accountRefs : List String)
  | schedule (post : SocialPost)
  | publish (post : SocialPost)
  | cancel (post : SocialPost)
  | delete (post : SocialPost)

def Call.post : Call → SocialPost
  | .create post _ | .schedule post | .publish post | .cancel post | .delete post => post

def Call.perform (adapter : SocialProviderAdapter ω) (correlationId : String) (world : ω) : Call →
    Fallible ProviderResult
  | .create post accountRefs => adapter.createPost post accountRefs correlationId world
  | .schedule post => adapter.schedulePost post correlationId world
  | .publish post => adapter.publishPost post correlationId world
  | .cancel post => adapter.cancelPost post correlationId world
  | .delete post => adapter.deletePost post correlationId world

inductive Stage where
  | claimed
  | loaded (post : SocialPost)
  | ready (call : Call)
  | calling (call : Call)
  | answered (result : ProviderResult)
  | failing (exc : SocialError)

inductive Worker where
  | idle
  | running (job : SocialPublishJob) (stage : Stage)

inductive WorkerEvent (ω : Type) where
  | claim (now : Int) (locked : UUID → Bool)
  | load
  | prepare (world : ω)
  | call
  | answer (world : ω)
  | complete (eventId : UUID)
  | fail (now : Int) (jitter : Nat)
  | crash

/-! ## What a step leaves behind -/

inductive Report where
  | completed | retry
  | deadLetter (unknown : Bool)
  deriving DecidableEq

inductive Note where
  | claimed (jobId : UUID) (token : Nat)
  | called (jobId : UUID) (token : Nat) (call : Call)
  | completed (jobId postId : UUID) (status : SocialPostStatus) (originalEventId : String)
  | failed (jobId : UUID) (report : Report)
  | recovered (jobId : UUID)

structure Reaction where
  database : Database
  worker : Worker
  note : Option Note

/-- A `SocialError` is caught by the handler that calls `fail_job`; any other exception ends the
process. -/
def Worker.proceed (job : SocialPublishJob) : Fallible Stage → Worker
  | .ok stage => .running job stage
  | .error (.raised exc) => .running job (.failing exc)
  | .error .escaped => .idle

def SocialError.report (error : SocialError) (maxAttempts attempts : Nat) : Report :=
  if error.dead maxAttempts attempts then .deadLetter error.unknown else .retry

/-! ## `process_claimed_job` -/

variable (rt : Runtime) (settings : Settings) (registry : SocialProviderRegistry ω)

variable (job : SocialPublishJob)

/-- Both lookups stand before the `try`, so what they raise is not handled. -/
def loadPost (db : Database) : Fallible SocialPost := do
  let post ← getPost job.socialPostId db
  let _ ← registry.get post.provider
  return post

def providerDisabled (message : String) : Failure SocialError :=
  .raised { code := "SOCIAL_PROVIDER_DISABLED", message, statusCode := 403 }

def checkProduction (post : SocialPost) (world : ω) (db : Database) : Fallible Unit := do
  check job.productionCanary (.raised {
    code := "SOCIAL_PRODUCTION_CANARY_REQUIRED"
    message := "Production publish job is not a canary"
    statusCode := 403 })
  let context ← productionPublishContext rt post job.contentApprovedAt.isSome db
  check (job.productionAccountId = some context.accountId) (.raised {
    code := "SOCIAL_PRODUCTION_ACCOUNT_CHANGED"
    message := "Production account ownership changed after validation"
    statusCode := 409 })
  settings.validate context
  let adapter ← registry.get post.provider
  let health ← adapter.healthCheck world
  requireProviderHealth health

def prepareCall (post : SocialPost) (world : ω) (db : Database) : Fallible Call := do
  check (post.provider = .postly → settings.postizDeliveryEnabled)
    (providerDisabled "Postly delivery is disabled")
  match job.jobType with
  | .publish =>
    check (settings.socialPublishEnabled ∧
      (post.provider = .postly → settings.postizPublishEnabled))
      (providerDisabled "Social publishing is disabled")
    if settings.socialProductionMode then checkProduction rt settings registry job post world db
    return .publish post
  | .schedule => return .schedule post
  | .cancel => return .cancel post
  | .delete => return .delete post
  | .create | .mediaUpload | .accountSync | .analyticsSync | .webhookProcess =>
    let accountRefs ← stagingProviderAccountRefs post db
    return .create post accountRefs

def performCall (call : Call) (world : ω) : Fallible ProviderResult := do
  let adapter ← registry.get call.post.provider
  call.perform adapter job.correlationId world

/-- A worker in its loop: `claim_jobs` with `limit=1`, then `process_claimed_job`. -/
def Worker.react (db : Database) : WorkerEvent ω → Worker → Reaction
  | .claim now locked, .idle =>
    match claimJobs now locked settings.socialWorkerId 1 settings.socialWorkerLeaseSeconds db with
    | (job :: _, db') => ⟨db', .running job .claimed, some (.claimed job.id job.fencingToken)⟩
    | ([], db') => ⟨db', .idle, none⟩
  | .load, .running job .claimed =>
    match loadPost registry job db with
    | .ok post => ⟨db, .running job (.loaded post), none⟩
    | .error _ => ⟨db, .idle, none⟩
  | .prepare world, .running job (.loaded post) =>
    ⟨db, .proceed job ((prepareCall rt settings registry job post world db).map .ready), none⟩
  | .call, .running job (.ready call) =>
    ⟨db, .running job (.calling call), some (.called job.id job.fencingToken call)⟩
  | .answer world, .running job (.calling call) =>
    ⟨db, .proceed job ((performCall registry job call world).map .answered), none⟩
  | .complete eventId, .running job (.answered result) =>
    match completeJob job result eventId db with
    | .ok (eventId, db') =>
      ⟨db', .idle, some (.completed job.id job.socialPostId result.status (UUID.text eventId))⟩
    | .error failure => ⟨db, .proceed job (.error failure), none⟩
  | .fail now jitter, .running job (.failing exc) =>
    let attempts := job.attemptCount + 1
    match failJob job exc settings.socialJobMaxAttempts now (retryDelay attempts jitter) db with
    | .ok (.leaseLost, db') => ⟨db', .idle, none⟩
    | .ok (_, db') =>
      ⟨db', .idle, some (.failed job.id (exc.report settings.socialJobMaxAttempts attempts))⟩
    | .error _ => ⟨db, .idle, none⟩
  | .crash, _ => ⟨db, .idle, none⟩
  | _, w => ⟨db, w, none⟩

end CodestraMiddleware.Social
