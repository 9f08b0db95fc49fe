import CodestraMiddleware.Callbacks.Scheduler

/-!
# Popup delivery

`workers/callback_realtime.py`. A run claims popup deliveries of one campaign whose time has come,
cancels those of an older version, and posts a document for each of the others to the WebSocket
gateway.
-/
namespace CodestraMiddleware.Callbacks

open Relational Raising
open AiJobs (UUID UUID.text)

def Stage.event? : Stage → Option String
  | .warning => some "callback.warning"
  | .warning15m => some "callback.warning"
  | .due => some "callback.due"
  | .missed => some "callback.missed"
  | .escalated => some "callback.escalated"
  | .cancelled => some "callback.cancelled"
  | .completed => some "callback.completed"
  | .rescheduled => some "callback.rescheduled"
  | .reminder24h | .reminder1h | .agentReminder10m => none

def maskedPhone (digit : Char → Bool) (value : String) : String :=
  let digits := value.toList.filter digit
  if digits = [] then "" else "***" ++ String.ofList (digits.drop (digits.length - 4))

structure Document where
  (eventId type correlationId tenantId campaignId userId agentId : String)
  callId : Option String
  sequence : Nat
  callbackId : UUID
  state : CallbackState
  scheduledAt : Int
  customerTimezone : String
  priority : Priority
  (reason phoneMasked : String)
  customerContext : PythonValue.Dict

def document (digit : Char → Bool) (delivery : CallbackDelivery) (callback : CallbackRecord) :
    Except String Document :=
  match delivery.stage.event? with
  | none => .error "unsupported callback delivery stage"
  | some type =>
    match callback.assignedUserId, callback.assignedAgentId with
    | some userId, some agentId =>
      if userId = "" ∨ agentId = "" then .error "callback realtime target is incomplete"
      else .ok {
        eventId := delivery.idempotencyKey
        type
        correlationId := callback.correlationId
        tenantId := callback.tenantId
        campaignId := callback.campaignId
        userId
        agentId
        callId := callback.originalCallId
        sequence := callback.version
        callbackId := callback.id
        state := callback.state
        scheduledAt := callback.scheduledAt
        customerTimezone := callback.customerTimezone
        priority := callback.priority
        reason := callback.reason
        phoneMasked := maskedPhone digit callback.phoneNumber
        customerContext := callback.context }
    | _, _ => .error "callback realtime target is incomplete"

def CallbackDelivery.hasDocument (delivery : CallbackDelivery) (callback : CallbackRecord) : Bool :=
  delivery.stage.event?.isSome && given callback.assignedUserId && given callback.assignedAgentId

theorem document_of_hasDocument (digit : Char → Bool) (has : delivery.hasDocument callback = true) :
    ∃ doc, document digit delivery callback = .ok doc := by
  simp only [CallbackDelivery.hasDocument, Bool.and_eq_true, Option.isSome_iff_exists, given,
    Option.any_eq_true] at has
  obtain ⟨⟨⟨_, stage⟩, _, user, userGiven⟩, _, agent, agentGiven⟩ := has
  simp only [decide_eq_true_eq] at userGiven agentGiven
  simp [document, stage, user, agent, userGiven, agentGiven]

theorem document_eq_ok (ok : document digit delivery callback = .ok doc) :
    delivery.hasDocument callback = true ∧ doc.callbackId = callback.id ∧
      some doc.userId = callback.assignedUserId ∧ doc.state = callback.state := by
  unfold document at ok
  split at ok
  · cases ok
  next type stage =>
  split at ok
  next userId agentId user agent =>
    split at ok
    · cases ok
    next complete =>
      cases ok
      rw [not_or] at complete
      refine ⟨?_, rfl, user.symm, rfl⟩
      simp [CallbackDelivery.hasDocument, stage, user, agent, given, complete]
  next => cases ok

/-- How a post ends: the gateway accepts the event, there is an `HTTPError` or the event is not
accepted, or an exception that the run does not catch. -/
inductive Answer where
  | accepted | refused | raised

structure DeliverCall where
  (tenantId campaignId token : String)
  limit : Nat
  now : Int
  /-- The deliveries, by their keys, that other sessions have locked. -/
  locked : List String
  gateway : Document → Answer

namespace DeliverCall

variable (c : DeliverCall)

def context : Fallible RlsContext := do
  check (c.tenantId ≠ "" ∧ c.campaignId ≠ "")
    (.valueError "callback delivery requires tenant and campaign allowlists")
  check (c.token ≠ "") (.valueError "WebSocket gateway token is empty")
  setCallbackRlsContext ⟨c.tenantId, [c.campaignId], "callback-realtime-worker", .user .service, []⟩

def isDue (context : RlsContext) (delivery : CallbackDelivery) (callback : CallbackRecord) : Bool :=
  context.inScope callback && decide (callback.tenantId = c.tenantId ∧
    callback.campaignId = c.campaignId ∧ delivery.channel = .popup) && delivery.isPending &&
    delivery.nextAttemptAt.any (· ≤ c.now) && !c.locked.contains delivery.idempotencyKey

def dueRows (context : RlsContext) (db : Database) : List (CallbackDelivery × CallbackRecord) :=
  ((db.deliveries.rows.filterMap fun d =>
      ((db.record? d.callbackId).filter (c.isDue context d)).map fun r => (d, r)).insertionSort
    fun x y => x.1.nextAttemptAt.getD 0 ≤ y.1.nextAttemptAt.getD 0).take c.limit

def posts (digit : Char → Bool) : List (CallbackDelivery × CallbackRecord) → List Document × Bool
  | [] => ([], true)
  | (delivery, callback) :: rows =>
    if delivery.callbackVersion ≠ callback.version then posts digit rows
    else
      match document digit delivery callback with
      | .error _ => posts digit rows
      | .ok doc =>
        match c.gateway doc with
        | .raised => ([doc], false)
        | .accepted | .refused => (doc :: (posts digit rows).1, (posts digit rows).2)

/-- What is posted is the document of a row of the current version. -/
theorem mem_posts (posted : doc ∈ (c.posts digit rows).1) :
    ∃ d r, (d, r) ∈ rows ∧ d.callbackVersion = r.version ∧ document digit d r = .ok doc := by
  induction rows with
  | nil => cases posted
  | cons row rows ih =>
    obtain ⟨d, r⟩ := row
    have later (posted : doc ∈ (c.posts digit rows).1) : ∃ d' r', (d', r') ∈ (d, r) :: rows ∧
        d'.callbackVersion = r'.version ∧ document digit d' r' = .ok doc := by
      obtain ⟨d', r', member, current⟩ := ih posted
      exact ⟨d', r', List.mem_cons_of_mem _ member, current⟩
    rw [posts] at posted
    split at posted
    · exact later posted
    next current =>
      split at posted
      · exact later posted
      next own made =>
        have first : ∃ d' r', (d', r') ∈ (d, r) :: rows ∧ d'.callbackVersion = r'.version ∧
            document digit d' r' = .ok own := ⟨d, r, List.mem_cons_self, not_not.mp current, made⟩
        split at posted
        · rwa [List.mem_singleton.mp posted]
        · rcases List.mem_cons.mp posted with rfl | posted
          · exact first
          · exact later posted
        · rcases List.mem_cons.mp posted with rfl | posted
          · exact first
          · exact later posted

def backoff (attemptCount : Nat) : Int := ((min 300 (2 ^ min attemptCount 8) : Nat) : Int) * 1000000

def retry (delivery : CallbackDelivery) : CallbackDelivery :=
  { delivery with
    attemptCount := delivery.attemptCount + 1, status := .retryPending,
    lastErrorCode := some "WEBSOCKET_DELIVERY_FAILED",
    nextAttemptAt := some (c.now + backoff (delivery.attemptCount + 1)) }

variable (digit : Char → Bool)

variable (delivery : CallbackDelivery) (callback : CallbackRecord)

def settle : CallbackDelivery :=
  if delivery.callbackVersion ≠ callback.version then delivery.cancelStale
  else
    match document digit delivery callback with
    | .error _ => c.retry delivery
    | .ok doc =>
      match c.gateway doc with
      | .accepted =>
        { delivery with
          status := .delivered, providerMessageId := some delivery.idempotencyKey,
          nextAttemptAt := none }
      | .refused | .raised => c.retry delivery

theorem settle_spec :
    (c.settle digit delivery callback).toDeliverySpec = delivery.toDeliverySpec := by
  unfold settle
  split
  · rfl
  · split
    · rfl
    · split <;> rfl

/-- The deliveries among the selected rows are settled against the callback they
were joined with. -/
def work (rows : List (CallbackDelivery × CallbackRecord)) : Work where
  created := none
  rewrite := id
  events := []
  settle := fun d =>
    match rows.find? fun row => decide (row.1.idempotencyKey = d.idempotencyKey) with
    | some row => c.settle digit d row.2
    | none => d
  deliveries := []
  rewrite_spec := Work.id_rewrites
  settle_spec := by
    intro d
    split
    · exact c.settle_spec digit d _
    · rfl

end DeliverCall

structure Delivered where
  posted : List Document
  outcome : Fallible Database

def deliverCallbackPopups (rt : Runtime) (c : DeliverCall) (db : Database) : Delivered :=
  match c.context with
  | .error failure => ⟨[], .error failure⟩
  | .ok context =>
    let rows := c.dueRows context db
    let posted := c.posts rt.digit rows
    ⟨posted.1, if posted.2 then db.commit (c.work rt.digit rows) .integrity else .error .escaped⟩

end CodestraMiddleware.Callbacks
