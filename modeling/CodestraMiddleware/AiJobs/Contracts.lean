import CodestraMiddleware.AiJobs.Schema
import Mathlib.Data.List.Dedup

/-!
# Command contracts and runtime classes

`ai_contracts.py` and the constants at the head of `ai_jobs.py`. A command carries the proofs of
what its validators check.
-/
namespace CodestraMiddleware.AiJobs

inductive Fault where
  | permissionError (reason : String)
  | lookupError (reason : String)
  | valueError (reason : String)
  | overflowError (reason : String)
  | integrityError (constraint : String)
  | httpConflict (detail : String)

def JobState.publicState : JobState → String
  | .queued => "PENDING"
  | .available => "AVAILABLE"
  | .leased => "LEASED"
  | .running => "RUNNING"
  | .retryWait => "FAILED_RETRYABLE"
  | .completed => "SUCCEEDED"
  | .failed => "FAILED_FINAL"
  | .cancelRequested => "CANCEL_REQUESTED"
  | .cancelled => "CANCELLED"
  | .expired => "EXPIRED"
  | .deadLetter => "DEAD_LETTERED"
  | .approvalRequired => "APPROVAL_REQUIRED"
  | .approved => "APPROVED"
  | .rejected => "REJECTED"

def workerHardSafetyCap : Int := 2

def modelRuntimeClasses : List (ModelProfile × RuntimeClass) :=
  [(.fastChat, .chatLight), (.crmAnalysis, .chatLight), (.codingDefault, .codingFallback),
   (.qualityChat, .singleAdmission), (.codingLarge, .singleAdmission),
   (.voiceSummary, .singleAdmission), (.embeddingDefault, .unavailable)]

def governedProfiles : List ModelProfile := modelRuntimeClasses.map Prod.fst

def runtimeClass? (profile : Option ModelProfile) : Option RuntimeClass :=
  profile.bind fun p => modelRuntimeClasses.lookup p

def runtimeClassCompatibility : RuntimeClass → List RuntimeClass
  | .chatLight => [.chatLight]
  | .codingFallback => [.codingFallback]
  | .singleAdmission => []
  | .unavailable => []

variable (activeProfiles : List (Option ModelProfile))

def compatibleProfiles : List ModelProfile :=
  match (activeProfiles.map runtimeClass?).dedup with
  | [] => governedProfiles
  | [some activeClass] =>
    -- Exactly one class is active, and it is a known one.
    (modelRuntimeClasses.filter fun entry =>
      decide (entry.2 ∈ runtimeClassCompatibility activeClass)).map Prod.fst
  | _ => []

def effectiveCompatibleProfiles (requestedProfiles : Option (List ModelProfile)) :
    List ModelProfile :=
  match requestedProfiles with
  | none => compatibleProfiles activeProfiles
  | some requested => (compatibleProfiles activeProfiles).filter fun p => decide (p ∈ requested)

theorem effectiveCompatibleProfiles_subset (active : List (Option ModelProfile))
    (requested : Option (List ModelProfile)) :
    effectiveCompatibleProfiles active requested ⊆ compatibleProfiles active := by
  intro p member
  cases requested with
  | none => exact member
  | some => exact (List.mem_filter.mp member).1

theorem mem_compatible_class (member : p ∈ (modelRuntimeClasses.filter fun entry =>
      decide (entry.2 ∈ runtimeClassCompatibility c)).map Prod.fst) :
    runtimeClass? (some p) = some c ∧ c ∈ runtimeClassCompatibility c := by
  cases c <;> simp [modelRuntimeClasses, runtimeClassCompatibility] at member
  -- `single-admission` and `unavailable` admit nothing; the other two classes have few profiles.
  all_goals rcases member with rfl | rfl <;> decide

/-- A profile admitted beside active leases has the one class all of them have, and that class
admits company. -/
theorem compatibleProfiles_class (admitted : p ∈ compatibleProfiles active) (leased : q ∈ active) :
    ∃ c, runtimeClass? q = some c ∧ runtimeClass? (some p) = some c ∧
    c ∈ runtimeClassCompatibility c := by
  have present : runtimeClass? q ∈ (active.map runtimeClass?).dedup :=
    List.mem_dedup.mpr (List.mem_map_of_mem leased)
  unfold compatibleProfiles at admitted
  -- Of the three branches only the one with a single known class can contain `p` beside `q`.
  split at admitted
  next none_active => simp [none_active] at present
  next activeClass one =>
    rw [one, List.mem_singleton] at present
    obtain ⟨same, company⟩ := mem_compatible_class admitted
    exact ⟨activeClass, present, same, company⟩
  next => cases admitted

structure ResourceLimits where
  (retryCount tokenBudget : Nat)
  retryCount_le : retryCount ≤ 5
  tokenBudget_range : 1 ≤ tokenBudget ∧ tokenBudget ≤ 32768

/-- The profiles `policy_consistency` allows for a command type. -/
def allowedProfiles : CommandType → List ModelProfile
  | .chat => [.fastChat, .qualityChat]
  | .coding => [.codingDefault, .codingLarge]
  | .crm => [.crmAnalysis]
  | .voice => [.voiceSummary]
  | .embeddings => [.embeddingDefault]

theorem fastChat_allowed : .fastChat ∈ allowedProfiles .chat := by decide

structure AICommand where
  commandId : UUID
  commandType : CommandType
  tenantId : UUID
  (actorId correlationId idempotencyKey : String)
  priority : Nat
  (requestedAt deadlineAt : Int)
  profile : ModelProfile
  resourceLimits : ResourceLimits
  approvalPolicy : ApprovalPolicy
  priority_le : priority ≤ 9
  deadline_follows : requestedAt < deadlineAt
  deadline_bounded : deadlineAt - requestedAt ≤ makeInterval 3600
  profile_allowed : profile ∈ allowedProfiles commandType
  business_approval : commandType = .crm ∨ commandType = .voice → approvalPolicy.required = true

structure AIResult where
  (commandId jobId : UUID)
  output : ResultOutput
  tokenUsage : List (String × Int)
  latencyMs : Nat

inductive TaskType where
  | chat | coding
  | unsupported (name : String)

def TaskType.text : TaskType → String
  | .chat => "chat"
  | .coding => "coding"
  | .unsupported name => name

/-- `BROWSER_CAPABILITY_PROFILES`, `BROWSER_CAPABILITY_COMMAND_TYPES` and
`BROWSER_CAPABILITY_MAX_TOKENS`: one entry each for chat and coding. -/
structure BrowserCapability where
  profile : ModelProfile
  commandType : CommandType
  maxTokens : Nat
  governed : profile ∈ governedProfiles
  allowed : profile ∈ allowedProfiles commandType
  unprivileged : ¬ (commandType = .crm ∨ commandType = .voice)
  budget : 1 ≤ maxTokens * 2 ∧ maxTokens * 2 ≤ 32768

def browserCapability : TaskType → Option BrowserCapability
  | .chat => some ⟨.fastChat, .chat, 2048, by decide, fastChat_allowed, by decide, by decide⟩
  | .coding => some ⟨.codingDefault, .coding, 4096, by decide, by decide, by decide, by decide⟩
  | .unsupported _ => none

structure MessageRequest where
  (jobId messageId conversationId organizationId workspaceId : UUID)
  (userId content : String)
  taskType : TaskType
  projectKey : Option String
  (idempotencyKey correlationId : String)
  maxAttempts : Nat

def buildBrowserWorkerContract (now : Int) (m : MessageRequest) (capability : BrowserCapability) :
    Except Fault AICommand :=
  -- `ResourceLimits(retry_count=max_attempts - 1)` is validated to lie in 0..5.
  if limit : 1 ≤ m.maxAttempts ∧ m.maxAttempts ≤ 6 then
    .ok {
      commandId := m.jobId
      commandType := capability.commandType
      tenantId := m.organizationId
      actorId := m.userId
      correlationId := m.correlationId
      idempotencyKey := m.idempotencyKey
      priority := 5
      requestedAt := now
      deadlineAt := now + makeInterval 600
      profile := capability.profile
      resourceLimits := ⟨m.maxAttempts - 1, capability.maxTokens * 2, by omega, capability.budget⟩
      approvalPolicy := ⟨false⟩
      priority_le := by decide
      deadline_follows := by simp only [makeInterval]; omega
      deadline_bounded := by simp only [makeInterval]; omega
      profile_allowed := capability.allowed
      business_approval := fun business => absurd business capability.unprivileged }
  else .error (.valueError "retry_count")

end CodestraMiddleware.AiJobs
