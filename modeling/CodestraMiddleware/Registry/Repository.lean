import CodestraMiddleware.AiJobs.Schema
import CodestraMiddleware.Foundations.Json

/-!
# The endpoint registry's tables and their query

`SqlEndpointRepository.candidates` joins six tables, keeps the versions that are enabled and valid
at its clock, and ranks the route bindings by how much of the request's scope they name. A timestamp
is an integer number of microseconds.
-/
namespace CodestraMiddleware.Registry

open AiJobs (UUID UUID.text)
open CompactJson

structure ResolutionRequest where
  (environment serviceKey endpointKey : String)
  apiVersion : String := "v1"
  organizationPublicId : String := ""
  businessUnitPublicId : String := ""
  campaignPublicId : String := ""
  workflowKey : String := ""
  eventType : String := ""
  mutation : Bool := false
  deriving DecidableEq

def ResolutionRequest.json (r : ResolutionRequest) : Json :=
  .object [("api_version", .text r.apiVersion),
    ("business_unit_public_id", .text r.businessUnitPublicId),
    ("campaign_public_id", .text r.campaignPublicId), ("endpoint_key", .text r.endpointKey),
    ("environment", .text r.environment), ("event_type", .text r.eventType),
    ("mutation", .bool r.mutation),
    ("organization_public_id", .text r.organizationPublicId), ("service_key", .text r.serviceKey),
    ("workflow_key", .text r.workflowKey)]

structure ResolvedEndpoint where
  (endpointId endpointVersionId serviceKey endpointKey apiVersion method baseUrl path : String)
  (authenticationProfile requiredAudience : String)
  requiredScopes : List String
  (credentialReferenceId tlsProfileId : String)
  (timeoutMs connectionTimeoutMs : Int)
  (redirectsAllowed targetAttestationRequired staleReadSafe : Bool)
  configurationVersion : Int
  configurationChecksum : String
  effectiveAt : Int
  expiresAt : Option Int
  registryGeneration : Int
  deriving DecidableEq

inductive DenialReason where
  | ambiguousActiveRoute | invalidSnapshotSignature | endpointRegistryUnavailable | noActiveRoute
  deriving DecidableEq

def DenialReason.text : DenialReason → String
  | .ambiguousActiveRoute => "AMBIGUOUS_ACTIVE_ROUTE"
  | .invalidSnapshotSignature => "INVALID_SNAPSHOT_SIGNATURE"
  | .endpointRegistryUnavailable => "ENDPOINT_REGISTRY_UNAVAILABLE"
  | .noActiveRoute => "NO_ACTIVE_ROUTE"

structure ResolutionDenied where
  reason : DenialReason
  retryable : Bool := false
  deriving DecidableEq

def ResolutionDenied.message (denied : ResolutionDenied) : String :=
  "ENDPOINT_RESOLUTION=DENIED REASON=" ++ denied.reason.text

structure IntegrationService where
  serviceId : UUID
  serviceKey : String
  enabled : Bool := false

structure IntegrationCredentialReference where
  referenceKey : String
  enabled : Bool := false

structure IntegrationEndpoint where
  (endpointId serviceId : UUID)
  endpointKey : String
  apiVersion : String := "v1"

structure IntegrationEndpointVersion where
  (endpointVersionId endpointId : UUID)
  configurationVersion : Int
  (baseUrl pathTemplate httpMethod authenticationMode requiredAudience : String)
  requiredScopes : List String := []
  (credentialReferenceId tlsProfileId : String)
  timeoutMs : Int := 10000
  connectionTimeoutMs : Int := 3000
  redirectsAllowed : Bool := false
  targetAttestationRequired : Bool := true
  staleReadSafe : Bool := false
  enabled : Bool := false
  killSwitch : Bool := true
  configurationChecksum : String
  effectiveAt : Int
  expiresAt : Option Int := none

structure IntegrationRouteBinding where
  endpointVersionId : UUID
  environment : String
  organizationScope : String := ""
  businessUnitScope : String := ""
  campaignScope : String := ""
  workflowScope : String := ""
  eventTypeScope : String := ""

structure IntegrationSchemaVersion where
  (serviceKey endpointKey apiVersion : String)
  enabled : Bool := false

structure Tables where
  services : List IntegrationService := []
  endpoints : List IntegrationEndpoint := []
  versions : List IntegrationEndpointVersion := []
  bindings : List IntegrationRouteBinding := []
  credentials : List IntegrationCredentialReference := []
  schemas : List IntegrationSchemaVersion := []

def precedenceScore (binding : IntegrationRouteBinding) (request : ResolutionRequest) : Int :=
  let scopes := [(binding.organizationScope, request.organizationPublicId),
    (binding.businessUnitScope, request.businessUnitPublicId),
    (binding.campaignScope, request.campaignPublicId),
    (binding.workflowScope, request.workflowKey),
    (binding.eventTypeScope, request.eventType)]
  if scopes.any fun (expected, actual) => expected ≠ "" && expected ≠ actual then -1
  else
    let present (scope : String) : Bool := scope ≠ ""
    match present binding.organizationScope, present binding.businessUnitScope,
        present binding.campaignScope, present binding.workflowScope,
        present binding.eventTypeScope with
    | true, true, true, true, true => 5
    | true, true, true, false, false => 4
    | true, true, false, false, false => 3
    | true, false, false, false, false => 2
    | false, false, false, false, false => 1
    | _, _, _, _, _ => -1

structure Row where
  service : IntegrationService
  endpoint : IntegrationEndpoint
  version : IntegrationEndpointVersion
  binding : IntegrationRouteBinding

section

variable (row : Row) (credential : IntegrationCredentialReference)
  (schema : IntegrationSchemaVersion)

def Row.joins : Bool :=
  row.endpoint.serviceId = row.service.serviceId &&
  row.version.endpointId = row.endpoint.endpointId &&
  row.binding.endpointVersionId = row.version.endpointVersionId &&
  credential.referenceKey = row.version.credentialReferenceId &&
  schema.serviceKey = row.service.serviceKey &&
  schema.endpointKey = row.endpoint.endpointKey &&
  schema.apiVersion = row.endpoint.apiVersion

def IntegrationEndpointVersion.active (version : IntegrationEndpointVersion) (now : Int) : Bool :=
  version.enabled && !version.killSwitch && version.effectiveAt ≤ now &&
  match version.expiresAt with
  | none => true
  | some expiry => now < expiry

def Row.satisfies (request : ResolutionRequest) (now : Int) : Bool :=
  row.service.serviceKey = request.serviceKey &&
  row.service.enabled &&
  credential.enabled &&
  schema.enabled &&
  row.endpoint.endpointKey = request.endpointKey &&
  row.endpoint.apiVersion = request.apiVersion &&
  row.binding.environment = request.environment &&
  row.version.active now

end

def Tables.rows (t : Tables) (request : ResolutionRequest) (now : Int) : List Row :=
  t.services.flatMap fun service =>
  t.endpoints.flatMap fun endpoint =>
  t.versions.flatMap fun version =>
  t.bindings.flatMap fun binding =>
  t.credentials.flatMap fun credential =>
  t.schemas.filterMap fun schema =>
    let row : Row := ⟨service, endpoint, version, binding⟩
    if row.joins credential schema && row.satisfies credential schema request now then some row
    else none

def Row.resolved (row : Row) (generation : Int) : ResolvedEndpoint where
  endpointId := row.endpoint.endpointId.text
  endpointVersionId := row.version.endpointVersionId.text
  serviceKey := row.service.serviceKey
  endpointKey := row.endpoint.endpointKey
  apiVersion := row.endpoint.apiVersion
  method := row.version.httpMethod
  baseUrl := row.version.baseUrl
  path := row.version.pathTemplate
  authenticationProfile := row.version.authenticationMode
  requiredAudience := row.version.requiredAudience
  requiredScopes := row.version.requiredScopes
  credentialReferenceId := row.version.credentialReferenceId
  tlsProfileId := row.version.tlsProfileId
  timeoutMs := row.version.timeoutMs
  connectionTimeoutMs := row.version.connectionTimeoutMs
  redirectsAllowed := row.version.redirectsAllowed
  targetAttestationRequired := row.version.targetAttestationRequired
  staleReadSafe := row.version.staleReadSafe
  configurationVersion := row.version.configurationVersion
  configurationChecksum := row.version.configurationChecksum
  effectiveAt := row.version.effectiveAt
  expiresAt := row.version.expiresAt
  registryGeneration := generation

/-- `SqlEndpointRepository.candidates`, given that the database answers. The query's clock is read
before the query is sent. -/
def candidates (t : Tables) (generation : Int) (request : ResolutionRequest) (now : Int) :
    Except ResolutionDenied (List ResolvedEndpoint) :=
  let scored := (t.rows request now).map fun row => (precedenceScore row.binding request, row)
  -- `sorted` is stable, also in reverse.
  let ranked := scored.insertionSort fun a b => b.1 ≤ a.1
  match ranked.filter fun row => 0 < row.1 with
  | [] => .ok []
  | first :: valid =>
    match (first :: valid).filter fun row => row.1 = first.1 with
    | [best] => .ok [best.2.resolved generation]
    | _ => .error ⟨.ambiguousActiveRoute, false⟩

theorem candidates_mem (answer : candidates t generation request now = .ok endpoints)
    (candidate : e ∈ endpoints) : ∃ row ∈ t.rows request now, e = row.resolved generation := by
  unfold candidates at answer
  dsimp only at answer
  split at answer
  · cases answer
    cases candidate
  next first valid ranked =>
    split at answer
    next best only =>
      cases answer
      rw [List.mem_singleton] at candidate
      -- The best row went through two filters and the sort.
      have chosen : best ∈ (first :: valid).filter fun row => row.1 = first.1 := by
        rw [only]
        exact List.mem_singleton.mpr rfl
      have sorted := List.mem_of_mem_filter (ranked ▸ List.mem_of_mem_filter chosen)
      rw [List.mem_insertionSort] at sorted
      obtain ⟨row, selected, rfl⟩ := List.mem_map.mp sorted
      exact ⟨row, selected, candidate⟩
    · cases answer

theorem Tables.mem_rows {t : Tables} (selected : row ∈ t.rows request now) :
    row.version ∈ t.versions ∧ row.version.active now = true := by
  simp only [Tables.rows, List.mem_flatMap, List.mem_filterMap] at selected
  obtain ⟨_, -, _, -, _, stored, _, -, _, -, _, -, kept⟩ :=
    selected
  split at kept
  next conditions =>
    cases kept
    refine ⟨stored, ?_⟩
    simp only [Row.satisfies, Bool.and_eq_true] at conditions
    exact conditions.2.2
  · cases kept

end CodestraMiddleware.Registry
