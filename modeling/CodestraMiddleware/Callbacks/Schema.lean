import CodestraMiddleware.AiJobs.Schema
import CodestraMiddleware.Callbacks.Policy
import CodestraMiddleware.Foundations.Constrained
import CodestraMiddleware.Foundations.Values

/-!
# Tables of callbacks

The columns of migrations 0051 and 0052 that the API, the scheduler and the popup worker read, write
or return, the unique constraints of the three tables, and the row-level security policy of
`callback_record`. A transaction of the source collects its changes in the session and writes them
at the commit: a `Work` is what the session holds, and `commit?` writes all of it or nothing.
-/
namespace CodestraMiddleware.Callbacks

open Relational
open AiJobs (UUID UUID.text)

def given (text : Option String) : Bool := text.any (· ≠ "")

inductive Priority where
  | low | normal | high | urgent

structure CallbackSpec where
  id : UUID
  (tenantId campaignId : String)
  (originalCallId assignedUserId : Option String)
  (phoneNumber normalizedPhone : String)
  priority : Priority
  (reminderEmailEnabled reminderPopupEnabled : Bool)
  (correlationId idempotencyKey requestHash : String)
  compliance : Checks
  context : PythonValue.Dict
  createdBy : String

structure CallbackRecord extends CallbackSpec where
  (assignedAgentId assignedTeamId : Option String)
  scheduledAt : Int
  (customerTimezone reason notes : String)
  (state desiredState actualState : CallbackState)
  reminders : Reminders
  (completedAt cancelledAt : Option Int)
  (completionDisposition completionNotes : Option String)
  version : Nat

namespace CallbackRecord

def advance (r : CallbackRecord) (state : CallbackState) : CallbackRecord :=
  { r with state, desiredState := state, actualState := state, version := r.version + 1 }

/-- The primary key and `uq_callback_tenant_idempotency`. -/
def Clash (r r' : CallbackRecord) : Prop :=
  r.id = r'.id ∨ r.tenantId = r'.tenantId ∧ r.idempotencyKey = r'.idempotencyKey

instance : DecidableRel Clash := fun _ _ => inferInstanceAs (Decidable (_ ∨ _ ∧ _))

theorem Clash.symm (r r' : CallbackRecord) (clash : r.Clash r') : r'.Clash r := by
  rcases clash with same | ⟨tenant, key⟩
  · exact .inl same.symm
  · exact .inr ⟨tenant.symm, key.symm⟩

end CallbackRecord

inductive EventPayload where
  | created (state : CallbackState) (scheduledAt : Int)
  | changed (fromVersion : Nat) (state : CallbackState)
  | reassigned (fromVersion : Nat) (state : CallbackState)
      (previousAgentId previousTeamId newAgentId newTeamId : Option String)
  | due (previousState : CallbackState)
  | missed (graceMinutes : Int)
  | escalated (escalationMinutes : Int)

structure CallbackEvent where
  callbackId : UUID
  (tenantId campaignId eventType : String)
  version : Nat
  (idempotencyKey correlationId actorId : String)
  payload : EventPayload

namespace CallbackEvent

/-- `uq_callback_event_version_type` and `uq_callback_event_idempotency`. -/
def Clash (e e' : CallbackEvent) : Prop :=
  e.callbackId = e'.callbackId ∧ e.version = e'.version ∧ e.eventType = e'.eventType ∨
    e.tenantId = e'.tenantId ∧ e.idempotencyKey = e'.idempotencyKey

instance : DecidableRel Clash := fun _ _ => inferInstanceAs (Decidable (_ ∧ _ ∧ _ ∨ _ ∧ _))

end CallbackEvent

inductive Channel where
  | email | popup
  deriving DecidableEq

/-- The stages that are enqueued, and those that the popup worker knows besides. -/
inductive Stage where
  | reminder24h | reminder1h
  | warning15m | due | agentReminder10m | missed | escalated
  | warning | cancelled | completed | rescheduled
  deriving DecidableEq

inductive DeliveryStatus where
  | queued | retryPending | accepted | delivered | bounced | failed | staleCancelled
  deriving DecidableEq

def DeliveryStatus.pending : List DeliveryStatus := [.queued, .retryPending]

structure DeliverySpec where
  callbackId : UUID
  callbackVersion : Nat
  channel : Channel
  stage : Stage
  idempotencyKey : String

structure CallbackDelivery extends DeliverySpec where
  status : DeliveryStatus
  messageId : Option UUID
  providerMessageId : Option String
  attemptCount : Nat
  lastErrorCode : Option String
  nextAttemptAt : Option Int

def DeliverySpec.enqueue (spec : DeliverySpec) (messageId : Option UUID) (nextAttemptAt : Int) :
    CallbackDelivery where
  toDeliverySpec := spec
  status := .queued
  messageId := messageId
  providerMessageId := none
  attemptCount := 0
  lastErrorCode := none
  nextAttemptAt := some nextAttemptAt

namespace CallbackDelivery

def isPending (d : CallbackDelivery) : Bool := d.status ∈ DeliveryStatus.pending

def cancelStale (d : CallbackDelivery) : CallbackDelivery :=
  { d with status := .staleCancelled, nextAttemptAt := none }

/-- `uq_callback_delivery_stage` and the unique `idempotency_key`. -/
def Clash (d d' : CallbackDelivery) : Prop :=
  d.callbackId = d'.callbackId ∧ d.callbackVersion = d'.callbackVersion ∧ d.channel = d'.channel ∧
    d.stage = d'.stage ∨ d.idempotencyKey = d'.idempotencyKey

instance : DecidableRel Clash := fun _ _ => inferInstanceAs (Decidable (_ ∧ _ ∧ _ ∧ _ ∨ _))

end CallbackDelivery

/-! ## Keys that the middleware makes -/

def callbackKey (id : UUID) (version : Nat) (purpose : String) : String :=
  "callback:" ++ UUID.text id ++ ":v" ++ toString version ++ ":" ++ purpose

def CallbackRecord.deliverySpec (r : CallbackRecord) (channel : Channel) (stage : Stage)
    (purpose : String) : DeliverySpec where
  callbackId := r.id
  callbackVersion := r.version
  channel := channel
  stage := stage
  idempotencyKey := callbackKey r.id r.version purpose

def CallbackRecord.popup (r : CallbackRecord) (stage : Stage) (purpose : String)
    (nextAttemptAt : Int) : CallbackDelivery :=
  (r.deliverySpec .popup stage ("popup:" ++ purpose)).enqueue none nextAttemptAt

structure Database where
  records : Constrained CallbackRecord.Clash
  events : Constrained CallbackEvent.Clash
  deliveries : Constrained CallbackDelivery.Clash

variable {r : CallbackRecord}

namespace Database

def empty : Database := ⟨.empty _, .empty _, .empty _⟩

def record? (db : Database) (id : UUID) : Option CallbackRecord :=
  db.records.find? fun r => decide (r.id = id)

theorem record?_eq_some_iff {db : Database} {id : UUID} : db.record? id = some r ↔
    r ∈ db.records.rows ∧ r.id = id := by
  rw [record?, db.records.find?_eq_some_iff CallbackRecord.Clash.symm]
  · simp
  · intro r r' same same'
    simp only [decide_eq_true_eq] at same same'
    exact .inl (same.trans same'.symm)

theorem record?_of_mem {db : Database} (row : r ∈ db.records.rows) : db.record? r.id = some r :=
  record?_eq_some_iff.mpr ⟨row, rfl⟩

theorem eq_of_id {db : Database} (row : r ∈ db.records.rows) (row' : r' ∈ db.records.rows)
    (same : r.id = r'.id) : r = r' :=
  db.records.eq_of_clash CallbackRecord.Clash.symm row row' (.inl same)

end Database

/-! ## Units of work -/

/-- What a session holds when it commits: at most one new callback, the changed rows of the two
tables that are updated, and the new events and deliveries. -/
structure Work where
  created : Option CallbackRecord
  rewrite : CallbackRecord → CallbackRecord
  events : List CallbackEvent
  settle : CallbackDelivery → CallbackDelivery
  deliveries : List CallbackDelivery
  rewrite_spec : ∀ r, (rewrite r).toCallbackSpec = r.toCallbackSpec
  settle_spec : ∀ d, (settle d).toDeliverySpec = d.toDeliverySpec

theorem Work.id_rewrites (r : CallbackRecord) : (id r).toCallbackSpec = r.toCallbackSpec := rfl

theorem Work.id_settles (d : CallbackDelivery) : (id d).toDeliverySpec = d.toDeliverySpec := rfl

def Work.none : Work := ⟨.none, id, [], id, [], id_rewrites, id_settles⟩

inductive Violation where
  | record | event | delivery

namespace Database

variable {db db' : Database} {w : Work}

def rewritten (db : Database) (w : Work) : Constrained CallbackRecord.Clash :=
  db.records.update w.rewrite fun r r' clash => by
    have spec := w.rewrite_spec r
    have spec' := w.rewrite_spec r'
    simpa only [CallbackRecord.Clash, spec, spec'] using clash

def settled (db : Database) (w : Work) : Constrained CallbackDelivery.Clash :=
  db.deliveries.update w.settle fun d d' clash => by
    have spec := w.settle_spec d
    have spec' := w.settle_spec d'
    simpa only [CallbackDelivery.Clash, spec, spec'] using clash

def commit? (db : Database) (w : Work) : Except Violation Database :=
  match (db.rewritten w).insertAll? w.created.toList with
  | .none => .error .record
  | some records =>
    match db.events.insertAll? w.events with
    | .none => .error .event
    | some events =>
      match (db.settled w).insertAll? w.deliveries with
      | .none => .error .delivery
      | some deliveries => .ok ⟨records, events, deliveries⟩

structure Committed (db : Database) (w : Work) (db' : Database) : Prop where
  records : (db.rewritten w).insertAll? w.created.toList = some db'.records
  events : db.events.insertAll? w.events = some db'.events
  deliveries : (db.settled w).insertAll? w.deliveries = some db'.deliveries

theorem commit?_eq_ok_iff : db.commit? w = .ok db' ↔ Committed db w db' := by
  constructor
  · intro done
    unfold commit? at done
    split at done
    · cases done
    next records inserted =>
    split at done
    · cases done
    next events inserted' =>
    split at done
    · cases done
    next deliveries inserted'' =>
    cases done
    exact ⟨inserted, inserted', inserted''⟩
  · rintro ⟨records, events, deliveries⟩
    simp only [commit?, records, events, deliveries]

namespace Committed

variable (done : Committed db w db')

include done

theorem records_rows : db'.records.rows = db.records.rows.map w.rewrite ++ w.created.toList :=
  Constrained.rows_insertAll? done.records

theorem events_rows : db'.events.rows = db.events.rows ++ w.events :=
  Constrained.rows_insertAll? done.events

theorem deliveries_rows : db'.deliveries.rows = db.deliveries.rows.map w.settle ++ w.deliveries :=
  Constrained.rows_insertAll? done.deliveries

end Committed

end Database

/-! ## Row-level security -/

inductive Role where
  | owner | callCenterAdmin | campaignManager | supervisor | qa | agent | service
  deriving DecidableEq

inductive RlsRole where
  | user (role : Role)
  | scheduler

structure RlsContext where
  tenantId : String
  campaignIds : List String
  actorId : String
  role : RlsRole
  teamIds : List String

def splitCommas (text : String) : List String :=
  (text.toList.splitOn ',').map String.ofList

/-- `value = ANY(string_to_array(','.join(ids), ','))`, where the empty ids are dropped. -/
def amongJoined (value : String) (ids : List String) : Bool :=
  (ids.filter (· ≠ "")).any fun id => (splitCommas id).contains value

def RlsRole.seesAll : RlsRole → Bool
  | .scheduler => true
  | .user role => role ≠ .agent

/-- `callback_record_scope`, both for reading a row and as the check of a written one. -/
def RlsContext.inScope (c : RlsContext) (r : CallbackRecord) : Bool :=
  r.tenantId = c.tenantId && amongJoined r.campaignId c.campaignIds &&
    (c.role.seesAll || r.assignedAgentId = some c.actorId || r.assignedUserId = some c.actorId ||
      r.assignedTeamId.any fun team => amongJoined team c.teamIds)

end CodestraMiddleware.Callbacks
