import CodestraMiddleware.Foundations.Run
import CodestraMiddleware.N8n.Deliveries

/-!
# Runs of the n8n runtime

Callers of the routes, any number of dispatchers and delivery workers, and the publishers of events
share one database. A delivery worker stages a row that it has claimed, however long ago.
-/
namespace CodestraMiddleware.N8n

open Relational Constrained PythonValue Transition N8n

structure State where
  database : Database
  claimed : List Row

def State.initial : State := ⟨.empty, []⟩

inductive Event where
  | dispatch (body : DispatchRequest) (registries : List Registry) (executionId : UUID) (now : Int)
  | claim (locked : List UUID) (limit now : Int)
  | recoverStaleDispatches (leaseSeconds now : Int)
  | expireRunning (now : Int)
  | dispatchOne (executionId : UUID) (registries : List Registry) (answer : Option Answer)
      (draw : Nat) (now : Int)
  | resultCallback (q : Callback) (now : Int)
  | publish (event : IntegrationEvent) (deliveries : List (UUID × String))
  | claimDeliveries (locked : List UUID) (target owner : String) (limit : Nat)
      (leaseSeconds now : Int)
  | recoverDeliveries (now : Int)
  | stageClaimedDelivery (row : Row) (registries : List Registry) (executionId : UUID) (now : Int)
  | reconcileTerminal (locked : List UUID)

variable (rt : Runtime)

def committed {α : Type} (db : Database) : Except Exc (Database × α) → Database
  | .ok (db', _) => db'
  | .error _ => db

variable (s : State)

def step : Event → State
  | .dispatch body registries executionId now =>
    { s with
      database := committed s.database (dispatch rt s.database body registries executionId now) }
  | .claim locked limit now =>
    { s with database := committed s.database (claim s.database locked limit now) }
  | .recoverStaleDispatches leaseSeconds now =>
    { s with database := committed s.database (recoverStaleDispatches s.database leaseSeconds now) }
  | .expireRunning now => { s with database := (expireRunning s.database now).1 }
  | .dispatchOne executionId registries answer draw now =>
    { s with
      database := committed s.database (dispatchOne rt s.database executionId registries answer
        draw now) }
  | .resultCallback q now =>
    { s with database := committed s.database (resultCallback rt s.database q now) }
  | .publish event deliveries =>
    { s with database := committed s.database (publish s.database event deliveries) }
  | .claimDeliveries locked target owner limit leaseSeconds now =>
    let (database, rows) := claimDeliveries s.database locked target owner limit leaseSeconds now
    { database, claimed := rows ++ s.claimed }
  | .recoverDeliveries now => { s with database := (recoverDeliveries s.database now).1 }
  | .stageClaimedDelivery row registries executionId now =>
    { s with
      database := committed s.database (stageClaimedDelivery rt s.database row registries
        executionId now) }
  | .reconcileTerminal locked => { s with database := (reconcileTerminal s.database locked).1 }

/-- Events get their ids in order, and a worker stages what it has claimed. -/
def admits : Event → Prop
  | .publish event _ => ∀ e ∈ s.database.events.rows, e.id < event.id
  | .stageClaimedDelivery row .. => row ∈ s.claimed
  | _ => True

instance decidableAdmits : (e : Event) → Decidable (admits s e)
  | .publish event _ => inferInstanceAs (Decidable (∀ e ∈ s.database.events.rows, e.id < event.id))
  | .stageClaimedDelivery row _ _ _ => inferInstanceAs (Decidable (row ∈ s.claimed))
  | .dispatch .. | .claim .. | .recoverStaleDispatches .. | .expireRunning .. | .dispatchOne ..
  | .resultCallback .. | .claimDeliveries .. | .recoverDeliveries .. | .reconcileTerminal .. =>
    isTrue trivial

def system : System State Event where
  step := step rt
  admits := admits

instance decidableRun (es : List Event) : Decidable ((system rt).Run s es) :=
  @System.decidableAlong _ _ (system rt) admits decidableAdmits s es

namespace Sample

def runtime : Runtime where
  n8nRuntimeEnabled := true
  n8nRuntimeMaxAttempts := 5
  n8nRuntimeEnvironment := "staging"
  n8nRuntimeBaseUrl := "https://n8n"
  target := ⟨"https", some "n8n", none, none, "", ""⟩
  testSyn := ⟨false, "staging", "", "", "", "", "", "", "", "", "", ""⟩
  sha256 text := text
  payloadHash _ := "payload"
  resultHash body := toString body.occurredAt
  texts := ⟨fun _ => "", fun _ => ""⟩

def router : Registry where
  workflowCode := socialRouterCode
  workflowVersion := socialRouterVersion
  eventTypes := ["social.post.published"]
  tenantScope := ["codestra"]
  enabled := true
  timeoutSeconds := 600
  webhookPath := "/webhook/social"

def payload : Dict where
  entries := [("tenant_id", .str "codestra")]
  wellFormed := by decide

def dispatch : Event :=
  .dispatch {
    tenantId := "codestra"
    eventId := "event-1"
    eventType := "social.post.published"
    sourceEventId := "event-1"
    correlationId := "correlation"
    causationId := "event-1"
    traceId := "trace-0123456789"
    idempotencyKey := "idempotency-key-1"
    payload } [router] 1 0

def claim (now : Int) : Event := .claim [] 10 now

def dispatchOne (statusCode : Nat) (now : Int) : Event :=
  .dispatchOne 1 [router] (some (.response statusCode false)) 0 now

def result (nonce : String) (status : ResultStatus) (occurredAt : Int) : Event :=
  .resultCallback {
    identity := "n8n"
    tenant := "codestra"
    workflow := socialRouterCode
    execution := AiJobs.UUID.text 1
    correlationId := "correlation"
    nonce
    verified := some (1, {
      workflowCode := socialRouterCode
      workflowVersion := socialRouterVersion
      executionId := AiJobs.UUID.text 1
      correlationId := "correlation"
      tenantId := "codestra"
      status
      occurredAt
      result := payload
      errorCode := none }) } occurredAt

end Sample

end CodestraMiddleware.N8n
