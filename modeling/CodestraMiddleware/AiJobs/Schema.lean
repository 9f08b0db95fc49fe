import CodestraMiddleware.Foundations.Table
import Mathlib.Algebra.Group.Nat.Defs
import Mathlib.Algebra.Ring.Int.Defs

/-!
# Tables of the AI job platform

The columns of migrations 0030 to 0032 that the job operations read or return. Every child table
references `ai_generation_jobs` by `job_id`, and nothing is ever deleted, so a job is kept together
with its own child rows in one `JobRecord`. A table that is unique in `job_id` alone is an `Option`;
the others are keyed by the rest of their unique constraint. A `timestamptz` is an integer number of
microseconds.
-/
namespace CodestraMiddleware.AiJobs

open Relational

abbrev UUID := BitVec 128

instance : LawfulBEq UUID := inferInstance

/-- The canonical text of an identifier, as `str` gives it. -/
def UUID.text (id : UUID) : String :=
  let hex := (List.range 32).map fun i => Nat.digitChar (id.toNat / 16 ^ (31 - i) % 16)
  let part (start length : Nat) : String := String.ofList ((hex.drop start).take length)
  "-".intercalate [part 0 8, part 8 4, part 12 4, part 16 4, part 20 12]

example : UUID.text 2 = "00000000-0000-0000-0000-000000000002" := by decide +kernel

def makeInterval (secs : Int) : Int := secs * 1000000

inductive JobState where
  | queued | available | leased | running | retryWait | completed | failed
  | cancelRequested | cancelled | expired | deadLetter | approvalRequired | approved | rejected
  deriving DecidableEq

inductive ApprovalState where
  | pending | approved | rejected
  deriving DecidableEq

inductive CommandType where
  | chat | coding | crm | voice | embeddings
  deriving DecidableEq

/-- The text column `model_profile`: the seven governed profiles, or a text none of them has. -/
inductive ModelProfile where
  | fastChat | qualityChat | codingDefault | codingLarge | crmAnalysis | voiceSummary
  | embeddingDefault
  | unknown (name : String)
  deriving DecidableEq

inductive RuntimeClass where
  | chatLight | codingFallback | singleAdmission | unavailable
  deriving DecidableEq

structure ApprovalPolicy where
  required : Bool

/-- The columns of `ai_generation_jobs` that are written once, on insertion. -/
structure JobSpec where
  id : UUID
  (conversationId requestMessageId : Option UUID)
  (organizationId workspaceId : UUID)
  modelProfile : Option ModelProfile
  projectKey : Option String
  (idempotencyKey requestSha256 : String)
  commandType : Option CommandType
  (actorId correlationId : Option String)
  priority : Nat
  deadlineAt : Option Int
  approvalPolicy : ApprovalPolicy

structure GenerationJob extends JobSpec where
  state : JobState
  (attemptCount maxAttempts fencingToken : Nat)
  leaseOwner : Option String
  leaseExpiresAt : Option Int
  nextAttemptAt : Int
  (cancelRequestedAt completedAt : Option Int)
  failureCode : Option String
  outputBytes : Nat
  createdAt : Int

structure JobApproval where
  (id organizationId workspaceId : UUID)
  state : ApprovalState
  decidedAt : Option Int

structure JobAttempt where
  (attemptNumber fencingToken : Nat)
  workerId : String
  state : JobState
  safeErrorCode : Option String
  startedAt : Int
  finishedAt : Option Int
  deriving DecidableEq

structure JobChunk where
  (sequence fencingToken : Nat)
  content : String
  deriving DecidableEq

inductive RecoveryStatus where
  | pending | approvedRetry
  deriving DecidableEq

structure JobDeadLetter where
  (workspaceId tenantId : UUID)
  finalErrorCode : String
  (attemptCount maxAttempts : Nat)
  payloadSha256 : String
  failedAt : Int
  correlationId : String
  manualRetryRequiresNewApproval : Bool
  recoveryStatus : RecoveryStatus
  deriving DecidableEq

structure ResultOutput where
  json : String
  proposal : Option String

structure JobResult where
  output : ResultOutput
  outputSha256 : String

structure Usage where
  (usageDate tokens : Int)
  computeUnits : Nat
  modelProfile : ModelProfile

/-- A job with its child rows: approvals, dead letters, results and usage are unique in `job_id`,
attempts in `(job_id, attempt_number)`, chunks in `(job_id, sequence)`. -/
structure JobRecord extends GenerationJob where
  approval : Option JobApproval
  attempts : Table JobAttempt.attemptNumber
  chunks : Table JobChunk.sequence
  deadLetter : Option JobDeadLetter
  result : Option JobResult
  usage : Option Usage

structure WorkerRegistration where
  (workerId serviceId : String)
  maxConcurrency : Int
  enabled : Bool

structure Conversation where
  (id organizationId workspaceId : UUID)
  active : Bool

structure TenantQuota where
  tenant : UUID × UUID
  (maxQueued dailyTokens : Int)
  maxPayloadBytes : Nat

structure Database where
  jobs : Table fun r : JobRecord => r.id
  registrations : Table WorkerRegistration.workerId
  conversations : Table Conversation.id
  quotas : Table TenantQuota.tenant

def Database.empty : Database := ⟨.empty _, .empty _, .empty _, .empty _⟩

/-- A row as both creators insert it: the lifecycle columns take their defaults. -/
def JobRecord.queued (now : Int) (spec : JobSpec) (maxAttempts : Nat) : JobRecord where
  toJobSpec := spec
  state := .queued
  attemptCount := 0
  maxAttempts := maxAttempts
  fencingToken := 0
  leaseOwner := none
  leaseExpiresAt := none
  nextAttemptAt := now
  cancelRequestedAt := none
  completedAt := none
  failureCode := none
  outputBytes := 0
  createdAt := now
  approval := none
  attempts := .empty _
  chunks := .empty _
  deadLetter := none
  result := none
  usage := none

variable {db : Database} {r : JobRecord}

namespace Database

def job? (db : Database) (id : UUID) : Option JobRecord := db.jobs.find? id

def put (db : Database) (r : JobRecord) : Database := { db with jobs := db.jobs.replace r }

def updateJobs (db : Database) (f : JobRecord → JobRecord)
    (keeps : ∀ r, (f r).id = r.id) : Database :=
  { db with jobs := db.jobs.update f keeps }

theorem job?_put (db : Database) (r : JobRecord) (id : UUID) :
    (db.put r).job? id = if r.id = id then (db.job? id).map (fun _ => r) else db.job? id :=
  Table.find?_replace db.jobs r id

theorem job?_put_self (found : db.job? r.id = some old) : (db.put r).job? r.id = some r := by
  simp [job?_put, found]

theorem job?_put_ne {id : UUID} (other : r.id ≠ id) : (db.put r).job? id = db.job? id := by
  simp [job?_put, other]

@[simp] theorem job?_updateJobs (db : Database) (f : JobRecord → JobRecord)
    (keeps : ∀ r, (f r).id = r.id) (id : UUID) :
    (db.updateJobs f keeps).job? id = (db.job? id).map f :=
  Table.find?_update db.jobs f keeps id

theorem job?_id {id : UUID} (found : db.job? id = some r) : r.id = id :=
  db.jobs.find?_key found

end Database

end CodestraMiddleware.AiJobs
