import CodestraMiddleware.Foundations.Raising
import CodestraMiddleware.Social.Schema

/-!
# Social providers

The adapters that the worker calls, with the HTTP client behind the Postly adapter, and the policy
of production publishing. What the outside world does during a call is a parameter of the adapter's
methods.
-/
namespace CodestraMiddleware.Social

open PythonValue Raising

structure SocialError where
  (code message : String)
  retryable : Bool := false
  statusCode : Nat := 400
  unknownResult : Bool := false

inductive Failure (ε : Type) where
  | raised (exc : ε)
  | escaped

abbrev Fallible (α : Type) := Except (Failure SocialError) α

structure ProviderResult where
  providerPostId : Option String
  status : SocialPostStatus

inductive Capability where
  | postCreate | postDelete | postSchedule | postCancel | postPublish

def Capability.text : Capability → String
  | .postCreate => "Capability.POST_CREATE"
  | .postDelete => "Capability.POST_DELETE"
  | .postSchedule => "Capability.POST_SCHEDULE"
  | .postCancel => "Capability.POST_CANCEL"
  | .postPublish => "Capability.POST_PUBLISH"

def unsupported {α : Type} (capability : Capability) : Fallible α :=
  .error (.raised {
    code := "SOCIAL_PROVIDER_CAPABILITY_UNSUPPORTED"
    message := "Provider capability " ++ capability.text ++ " is unsupported"
    statusCode := 422 })

inductive HealthStatus where
  | available | healthy | unavailable | disabled | notConfigured
  deriving DecidableEq

structure Health where
  status : HealthStatus
  reachable : Option Bool

def requireProviderHealth (health : Health) : Fallible Unit :=
  check ((health.status = .available ∨ health.status = .healthy) ∧ health.reachable ≠ some false)
    (.raised {
      code := "SOCIAL_PROVIDER_UNAVAILABLE"
      message := "Production social provider is not healthy"
      statusCode := 503
      retryable := true })

/-- The methods that the worker calls, with the defaults of the abstract class; `ω` says what the
world does during a call. -/
structure SocialProviderAdapter (ω : Type) where
  healthCheck : ω → Fallible Health
  createPost : SocialPost → List String → String → ω → Fallible ProviderResult :=
    fun _ _ _ _ => unsupported .postCreate
  schedulePost : SocialPost → String → ω → Fallible ProviderResult :=
    fun _ _ _ => unsupported .postSchedule
  publishPost : SocialPost → String → ω → Fallible ProviderResult :=
    fun _ _ _ => unsupported .postPublish
  cancelPost : SocialPost → String → ω → Fallible ProviderResult :=
    fun _ _ _ => unsupported .postCancel
  deletePost : SocialPost → String → ω → Fallible ProviderResult :=
    fun _ _ _ => unsupported .postDelete

abbrev SocialProviderRegistry (ω : Type) := ProviderName → Option (SocialProviderAdapter ω)

def SocialProviderRegistry.get {ω : Type} (registry : SocialProviderRegistry ω)
    (name : ProviderName) : Fallible (SocialProviderAdapter ω) :=
  if name = .disabled then
    .error (.raised {
      code := "SOCIAL_PROVIDER_DISABLED"
      message := "Social provider is disabled"
      statusCode := 503 })
  else
    match registry name with
    | some adapter => .ok adapter
    | none => .error (.raised {
        code := "SOCIAL_PROVIDER_NOT_CONFIGURED"
        message := "Social provider is not configured"
        statusCode := 503 })

/-! ## Settings and the production policy -/

/-- An allowlist is the list of the UUIDs in the text of the setting, or `none` if an item of the
text is not a UUID. -/
structure Settings where
  (postizInternalBaseUrl postizApiKeyFile : String)
  (postizDeliveryEnabled postizPublishEnabled : Bool)
  (hootsuiteClientIdFile hootsuiteClientSecretFile : String)
  (socialIntegrationEnabled socialPublishEnabled socialSqlRepositoryEnabled socialWorkerEnabled :
    Bool)
  socialWorkerId : String
  (socialWorkerLeaseSeconds socialJobMaxAttempts : Nat)
  (socialProductionMode socialProductionCanaryEnabled : Bool)
  (socialProductionCanaryAccountIds socialProductionCanaryTenantIds : Option (List UUID))
  socialProductionCanaryCampaignIds : Option (List UUID)
  (socialProductionBackupGateVerified socialProductionRollbackGateVerified : Bool)
  (socialProductionWebhookGateVerified socialProductionMonitoringGateVerified : Bool)
  (socialAutomaticProviderFailoverEnabled socialAutomaticDualPublishEnabled : Bool)

structure ProductionPublishContext where
  tenantId : UUID
  campaignId : Option UUID
  accountId : UUID
  provider : ProviderName
  (classification connectionState : String)
  contentApproved : Bool

def uuidAllowlist (value : Option (List UUID)) (settingName : String) : Fallible (List UUID) :=
  match value with
  | some ids => .ok ids
  | none => .error (.raised {
      code := "SOCIAL_PRODUCTION_CONFIGURATION_INVALID"
      message := settingName ++ " contains an invalid UUID"
      statusCode := 503 })

def deny (code : String) : Failure SocialError :=
  .raised { code, message := "Production social publish was denied", statusCode := 403 }

def Settings.validate (settings : Settings) (context : ProductionPublishContext) :
    Fallible Unit := do
  check (settings.socialProductionMode && settings.socialIntegrationEnabled &&
    settings.socialPublishEnabled && settings.socialProductionCanaryEnabled &&
    settings.socialSqlRepositoryEnabled && settings.socialWorkerEnabled &&
    settings.socialProductionBackupGateVerified && settings.socialProductionRollbackGateVerified &&
    settings.socialProductionWebhookGateVerified && settings.socialProductionMonitoringGateVerified)
    (deny "SOCIAL_PRODUCTION_CANARY_DISABLED")
  check (settings.socialAutomaticProviderFailoverEnabled = false)
    (deny "SOCIAL_PROVIDER_FAILOVER_FORBIDDEN")
  check (settings.socialAutomaticDualPublishEnabled = false) (deny "SOCIAL_DUAL_PUBLISH_FORBIDDEN")
  let accounts ← uuidAllowlist settings.socialProductionCanaryAccountIds
    "SOCIAL_PRODUCTION_CANARY_ACCOUNT_IDS"
  check (context.accountId ∈ accounts) (deny "SOCIAL_PRODUCTION_ACCOUNT_DENIED")
  let tenants ← uuidAllowlist settings.socialProductionCanaryTenantIds
    "SOCIAL_PRODUCTION_CANARY_TENANT_IDS"
  check (tenants = [] ∨ context.tenantId ∈ tenants) (deny "SOCIAL_PRODUCTION_TENANT_DENIED")
  let campaigns ← uuidAllowlist settings.socialProductionCanaryCampaignIds
    "SOCIAL_PRODUCTION_CANARY_CAMPAIGN_IDS"
  check (campaigns = [] ∨ context.campaignId.any (· ∈ campaigns))
    (deny "SOCIAL_PRODUCTION_CAMPAIGN_DENIED")
  check (context.classification = "PRODUCTION_APPROVED_CANARY")
    (deny "SOCIAL_PRODUCTION_ACCOUNT_NOT_APPROVED")
  check (context.connectionState = "connected") (deny "SOCIAL_ACCOUNT_DISCONNECTED")
  check context.contentApproved (deny "SOCIAL_PRODUCTION_CONTENT_NOT_APPROVED")

/-! ## The Postiz client -/

inductive PostizCode where
  | notConfigured | authentication | rateLimit | temporary | unknownResult | providerError

structure PostizError where
  code : PostizCode
  retryable : Bool := false
  unknownResult : Bool := false

inductive PostizBody where
  | empty | invalid
  | json (value : Value)

/-- How a request of the client went. `networkFailed` is one of `ConnectTimeout`, `ConnectError` and
`NetworkError`; the other exceptions of `httpx` are not caught. -/
inductive PostizExchange where
  | notConfigured | readTimeout | networkFailed | uncaught
  | response (statusCode : Nat) (body : PostizBody)

def PostizExchange.request : PostizExchange → Except (Failure PostizError) Value
  | .notConfigured => .error (.raised { code := .notConfigured })
  | .readTimeout => .error (.raised { code := .unknownResult, unknownResult := true })
  | .networkFailed => .error (.raised { code := .temporary, retryable := true })
  | .uncaught => .error .escaped
  | .response statusCode body =>
    if statusCode = 429 then .error (.raised { code := .rateLimit, retryable := true })
    else if statusCode = 401 ∨ statusCode = 403 then .error (.raised { code := .authentication })
    else if 500 ≤ statusCode then .error (.raised { code := .temporary, retryable := true })
    else if 400 ≤ statusCode then .error (.raised { code := .providerError })
    else
      match body with
      | .empty => .ok (.dict [])
      | .invalid => .error (.raised { code := .providerError })
      | .json value => .ok value

def mapPostizError (exc : PostizError) : SocialError :=
  let (code, status) : String × Nat :=
    match exc.code with
    | .notConfigured => ("SOCIAL_PROVIDER_NOT_CONFIGURED", 503)
    | .authentication => ("SOCIAL_PROVIDER_AUTH_FAILED", 502)
    | .rateLimit => ("SOCIAL_PROVIDER_RATE_LIMITED", 503)
    | .temporary => ("SOCIAL_PROVIDER_UNAVAILABLE", 503)
    | .unknownResult => ("SOCIAL_PROVIDER_UNKNOWN_RESULT", 503)
    | .providerError => ("SOCIAL_PUBLISH_FAILED", 502)
  { code, message := "Social provider request failed", retryable := exc.retryable,
    statusCode := status,
    unknownResult := exc.unknownResult }

/-- A request whose `PostizError` is raised again as a `SocialError`. -/
def PostizExchange.requestOrRaise (exchange : PostizExchange) : Fallible Value :=
  match exchange.request with
  | .ok value => .ok value
  | .error (.raised exc) => .error (.raised (mapPostizError exc))
  | .error .escaped => .error .escaped

/-! ## The registered adapters -/

/-- The library functions that are left open; `stripLower s` is `s.strip().lower()`. -/
structure Runtime where
  sha256 : String → String
  texts : Value.Texts
  stripLower : String → String

variable (rt : Runtime) (settings : Settings)

/-- `normalize_status`, on a value that is not falsy. -/
def normalizeStatus : Value → Fallible SocialPostStatus
  | .str s =>
    .ok (match rt.stripLower s with
      | "draft" => .draft
      | "queued" => .queued
      | "scheduled" => .scheduled
      | "publishing" => .publishing
      | "published" => .published
      | "failed" => .failed
      | "cancelled" => .cancelled
      | "canceled" => .cancelled
      | "deleted" => .deleted
      | "requires_action" => .requiresAction
      | _ => .unknown)
  -- Only texts have the method `strip`.
  | _ => .error .escaped

structure Payload where
  content : Value
  integration : List String
  date : Option Int
  type : String
  settings : Value

section

variable (post : SocialPost)

def PostlyProviderAdapter.payload (accountRefs : List String) (publish : Bool) : Payload where
  content := post.content.getD "text" (.str "")
  integration := accountRefs
  date := post.publishAt
  type := if post.publishAt.isSome then "schedule" else if publish then "now" else "draft"
  settings := post.metadata.getD "provider" (.dict [])

def readCreated (publish : Bool) : Value → Fallible ProviderResult
  | .dict entries => do
    let get (name : String) : Value := (entries.lookup name).getD .null
    let providerId := (((get "id").orElse (get "postId")).orElse (.str "")).toText rt.texts
    let default : SocialPostStatus :=
      if post.publishAt.isSome then .scheduled else if publish then .published else .draft
    let status ← if (get "status").truthy then normalizeStatus rt (get "status") else .ok default
    return ⟨if providerId = "" then none else some providerId, status⟩
  -- Only dicts have the method `get`.
  | _ => .error .escaped

def PostlyProviderAdapter.create (publish : Bool) (exchange : PostizExchange) :
    Fallible ProviderResult := do
  let raw ← exchange.requestOrRaise
  readCreated rt post publish raw

def PostlyProviderAdapter.cancel (exchange : PostizExchange) : Fallible ProviderResult := do
  check (post.providerPostId.any (· ≠ "")) (.raised {
    code := "SOCIAL_POST_NOT_SYNCHRONIZED"
    message := "Social post has no provider reference"
    statusCode := 409 })
  let _ ← exchange.requestOrRaise
  return ⟨post.providerPostId, .cancelled⟩

end

def postlyProviderAdapter : SocialProviderAdapter PostizExchange where
  healthCheck exchange :=
    if settings.postizInternalBaseUrl = "" ∨ settings.postizApiKeyFile = "" then
      .ok ⟨.notConfigured, some false⟩
    else if !settings.postizDeliveryEnabled then .ok ⟨.disabled, none⟩
    else
      match exchange.request with
      | .ok _ => .ok ⟨.available, some true⟩
      | .error (.raised _) => .ok ⟨.unavailable, some false⟩
      | .error .escaped => .error .escaped
  createPost post _ _ exchange := PostlyProviderAdapter.create rt post false exchange
  schedulePost post _ exchange := PostlyProviderAdapter.create rt post false exchange
  publishPost post _ exchange := PostlyProviderAdapter.create rt post true exchange
  cancelPost post _ exchange := PostlyProviderAdapter.cancel post exchange
  -- A deletion is a cancellation, and reports the same status.
  deletePost post _ exchange := PostlyProviderAdapter.cancel post exchange

def hootsuiteProviderAdapter : SocialProviderAdapter PostizExchange where
  healthCheck _ :=
    if settings.hootsuiteClientIdFile ≠ "" ∧ settings.hootsuiteClientSecretFile ≠ "" then
      .ok ⟨.disabled, none⟩
    else .ok ⟨.notConfigured, none⟩

def buildRegistry : SocialProviderRegistry PostizExchange
  | .postly => some (postlyProviderAdapter rt settings)
  | .hootsuite => some (hootsuiteProviderAdapter settings)
  | .disabled => none

end CodestraMiddleware.Social
