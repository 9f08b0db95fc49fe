import CodestraMiddleware.AiJobs.Schema
import CodestraMiddleware.Foundations.Constrained
import CodestraMiddleware.Foundations.Values

/-!
# Tables of social publishing

The columns of migrations 0036 to 0038 that the repository and the worker read, write or return,
with the unique constraints of the tables. The rows of `social_post_accounts` are kept with the post
they belong to.
-/
namespace CodestraMiddleware.Social

open Relational PythonValue

abbrev UUID := BitVec 128

def UUID.text (id : UUID) : String := AiJobs.UUID.text id

inductive ProviderName where
  | disabled | postly | hootsuite
  deriving DecidableEq

inductive SocialPostStatus where
  | draft | queued | scheduled | publishing | published | failed | cancelled | deleted
  | requiresAction | unknown

def SocialPostStatus.lower : SocialPostStatus → String
  | .draft => "draft"
  | .queued => "queued"
  | .scheduled => "scheduled"
  | .publishing => "publishing"
  | .published => "published"
  | .failed => "failed"
  | .cancelled => "cancelled"
  | .deleted => "deleted"
  | .requiresAction => "requires_action"
  | .unknown => "unknown"

inductive JobType where
  | create | schedule | publish | cancel | delete
  | mediaUpload | accountSync | analyticsSync | webhookProcess
  deriving DecidableEq

def JobType.value : JobType → String
  | .create => "SOCIAL_POST_CREATE"
  | .schedule => "SOCIAL_POST_SCHEDULE"
  | .publish => "SOCIAL_POST_PUBLISH"
  | .cancel => "SOCIAL_POST_CANCEL"
  | .delete => "SOCIAL_POST_DELETE"
  | .mediaUpload => "SOCIAL_MEDIA_UPLOAD"
  | .accountSync => "SOCIAL_ACCOUNT_SYNC"
  | .analyticsSync => "SOCIAL_ANALYTICS_SYNC"
  | .webhookProcess => "SOCIAL_WEBHOOK_PROCESS"

inductive JobState where
  | queued | processing | retry | completed | deadLetter
  deriving DecidableEq

inductive Certainty where
  | notSent | failedBeforeSend | confirmed | unknownAfterSend
  deriving DecidableEq

inductive AttemptResult where
  | success | retry | deadLetter
  deriving DecidableEq

structure SocialAccount where
  id : UUID
  provider : ProviderName
  (providerAccountId connectionState : String)
  metadata : Dict

structure PostSpec where
  (id tenantId : UUID)
  campaignId : Option UUID
  provider : ProviderName
  publishAt : Option Int
  accountIds : List UUID

structure SocialPost extends PostSpec where
  providerPostId : Option String
  status : SocialPostStatus
  (content metadata : Dict)

/-- The primary key and `uq_social_post_provider_ref`; a post without a reference clashes with no
other. -/
def SocialPost.Clash (p p' : SocialPost) : Prop :=
  p.id = p'.id ∨ p.provider = p'.provider ∧ p.providerPostId.isSome ∧
    p.providerPostId = p'.providerPostId

instance : DecidableRel SocialPost.Clash := fun _ _ => inferInstanceAs (Decidable (_ ∨ _ ∧ _ ∧ _))

theorem SocialPost.Clash.symm (p p' : SocialPost) (clash : p.Clash p') : p'.Clash p := by
  rcases clash with same | ⟨provider, given, reference⟩
  · exact .inl same.symm
  · exact .inr ⟨provider.symm, reference ▸ given, reference.symm⟩

structure JobSpec where
  (id tenantId socialPostId : UUID)
  provider : ProviderName
  jobType : JobType
  (correlationId requestId idempotencyKey : String)
  productionCanary : Bool
  productionAccountId : Option UUID
  contentApprovedAt : Option Int
  createdAt : Int

structure JobProgress where
  state : JobState
  attemptCount : Nat
  resultCertainty : Certainty
  nextAttemptAt : Option Int
  leaseOwner : Option String
  leaseExpiresAt : Option Int
  fencingToken : Nat
  (lastErrorCode lastErrorSummary : Option String)
  failedAt : Option Int

structure SocialPublishJob extends JobSpec, JobProgress

def JobProgress.initial : JobProgress where
  state := .queued
  attemptCount := 0
  resultCertainty := .notSent
  nextAttemptAt := none
  leaseOwner := none
  leaseExpiresAt := none
  fencingToken := 0
  lastErrorCode := none
  lastErrorSummary := none
  failedAt := none

/-- The primary key and `uq_social_job_idempotency`. -/
def JobSpec.Clash (j j' : JobSpec) : Prop :=
  j.id = j'.id ∨ j.tenantId = j'.tenantId ∧ j.jobType = j'.jobType ∧
    j.socialPostId = j'.socialPostId ∧ j.idempotencyKey = j'.idempotencyKey

def SocialPublishJob.Clash (j j' : SocialPublishJob) : Prop := j.toJobSpec.Clash j'.toJobSpec

instance : DecidableRel SocialPublishJob.Clash :=
  fun _ _ => inferInstanceAs (Decidable (_ ∨ _ ∧ _ ∧ _ ∧ _))

theorem SocialPublishJob.Clash.symm (j j' : SocialPublishJob) (clash : j.Clash j') :
    j'.Clash j := by
  rcases clash with same | ⟨tenant, type, post, key⟩
  · exact .inl same.symm
  · exact .inr ⟨tenant.symm, type.symm, post.symm, key.symm⟩

structure SocialPublishAttempt where
  jobId : UUID
  attemptNumber : Nat
  result : AttemptResult
  (errorCode errorSummary : Option String)

def SocialPublishAttempt.key (a : SocialPublishAttempt) : UUID × Nat := (a.jobId, a.attemptNumber)

structure IdempotencyRecord where
  tenantId : UUID
  action : JobType
  subjectId : UUID
  (keyHash requestHash : String)
  (socialPostId jobId : UUID)

/-- The primary key. -/
def IdempotencyRecord.key (r : IdempotencyRecord) : UUID × JobType × UUID × String :=
  (r.tenantId, r.action, r.subjectId, r.keyHash)

structure IntegrationEvent where
  (idempotencyKey eventType originalEventId entityKey correlationId : String)

structure Database where
  accounts : Table SocialAccount.id
  posts : Constrained SocialPost.Clash
  jobs : Constrained SocialPublishJob.Clash
  attempts : Table SocialPublishAttempt.key
  idempotencyRecords : Table IdempotencyRecord.key
  integrationEvents : Table IntegrationEvent.originalEventId

namespace Database

def empty : Database :=
  ⟨.empty _, .empty _, .empty _, .empty _, .empty _, .empty _⟩

variable (db : Database)

def post? (id : UUID) : Option SocialPost := db.posts.find? fun p => p.id = id

def job? (id : UUID) : Option SocialPublishJob := db.jobs.find? fun j => j.id = id

def attemptsOf (id : UUID) : List SocialPublishAttempt :=
  db.attempts.rows.filter fun a => a.jobId = id

end Database

section

variable (p : SocialPublishJob → Bool) (change : JobProgress → JobProgress) (j : SocialPublishJob)

def SocialPublishJob.advance : SocialPublishJob :=
  if p j then { j with toJobProgress := change j.toJobProgress } else j

@[simp] theorem SocialPublishJob.advance_spec : (j.advance p change).toJobSpec = j.toJobSpec := by
  unfold advance
  split <;> rfl

end

namespace Database

variable (db : Database)

def updateJobs (p : SocialPublishJob → Bool) (change : JobProgress → JobProgress) : Database :=
  { db with jobs := db.jobs.update (·.advance p change) (by
      intro j j' clash
      simpa only [SocialPublishJob.Clash, SocialPublishJob.advance_spec] using clash) }

theorem job_unique {id : UUID} (j j' : SocialPublishJob) (named : decide (j.id = id) = true)
    (named' : decide (j'.id = id) = true) : j.Clash j' :=
  .inl (by simp_all)

theorem post_unique {id : UUID} (p p' : SocialPost) (named : decide (p.id = id) = true)
    (named' : decide (p'.id = id) = true) : p.Clash p' :=
  .inl (by simp_all)

theorem job?_eq_some {id : UUID} : db.job? id = some j ↔ j ∈ db.jobs.rows ∧ j.id = id := by
  rw [job?, db.jobs.find?_eq_some_iff SocialPublishJob.Clash.symm job_unique, decide_eq_true_eq]

theorem post?_eq_some {id : UUID} : db.post? id = some p ↔ p ∈ db.posts.rows ∧ p.id = id := by
  rw [post?, db.posts.find?_eq_some_iff SocialPost.Clash.symm post_unique, decide_eq_true_eq]

theorem filter_id_jobs (id : UUID) :
    db.jobs.rows.filter (fun j => j.id = id) = (db.job? id).toList :=
  db.jobs.filter_eq_find? job_unique

theorem job?_of_mem (member : j ∈ db.jobs.rows) : db.job? j.id = some j :=
  db.job?_eq_some.mpr ⟨member, rfl⟩

@[simp] theorem job?_updateJobs (p : SocialPublishJob → Bool) (change : JobProgress → JobProgress)
    (id : UUID) : (db.updateJobs p change).job? id = (db.job? id).map (·.advance p change) := by
  unfold job?
  rw [Constrained.find?_of_map (t := db.jobs) (f := (·.advance p change)) rfl]
  simp

end Database

end CodestraMiddleware.Social
