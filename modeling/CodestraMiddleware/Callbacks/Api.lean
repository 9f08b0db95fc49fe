import CodestraMiddleware.Callbacks.Schema

/-!
# The callback API

The writing routes of `api/v1/callbacks.py`. Each runs in one transaction: it returns the row whose
`_view` the caller is answered together with the database it commits, or raises and leaves the
database as it is. The row locks of `mutate` and `callback_result` make the transactions atomic.
-/
namespace CodestraMiddleware.Callbacks

open Relational Raising
open AiJobs (UUID UUID.text)

structure Settings where
  callbackEmailCommandEnabled : Bool
  (callbackEmailSenderProfileId callbackEmailPolicyHash : String)

structure Runtime where
  settings : Settings
  zones : Zones
  /-- The characters that `\d` matches. -/
  decimal : Char → Bool
  /-- The characters of which `isdigit` is true. -/
  digit : Char → Bool

inductive Failure where
  | http (status : Nat) (detail : String)
  | valueError (text : String)
  /-- The check of a row-level security policy on a row that is written. -/
  | policy
  /-- An `IntegrityError` that nobody catches. -/
  | integrity (violated : Violation)
  /-- Any other exception that nobody catches. -/
  | escaped

abbrev Fallible := Except Failure

def raiseAs {α : Type} (failure : String → Failure) : Except String α → Fallible α
  | .ok a => .ok a
  | .error text => .error (failure text)

@[simp] theorem raiseAs_eq_ok {failure : String → Failure} : raiseAs failure x = .ok a ↔
    x = .ok a := by
  cases x <;> simp [raiseAs]

def Database.commit (db : Database) (w : Work) (failure : Violation → Failure) :
    Fallible Database :=
  match db.commit? w with
  | .ok db' => .ok db'
  | .error violated => .error (failure violated)

@[simp] theorem Database.commit_eq_ok {failure : Violation → Failure} :
    db.commit w failure = .ok db' ↔ Committed db w db' := by
  rw [← commit?_eq_ok_iff, commit]
  cases db.commit? w <;> simp

structure Principal where
  (actor tenant : String)
  campaigns : List String
  role : Role
  teams : List String

def setCallbackRlsContext (c : RlsContext) : Fallible RlsContext := do
  check (c.tenantId ≠ "" ∧ (c.campaignIds.any (· ≠ "")) = true ∧ c.actorId ≠ "")
    (.valueError "complete callback RLS context is required")
  .ok c

@[simp] theorem setCallbackRlsContext_eq_ok : setCallbackRlsContext c = .ok c' ↔
      (c.tenantId ≠ "" ∧ (c.campaignIds.any (· ≠ "")) = true ∧ c.actorId ≠ "") ∧ c = c' := by
  simp [setCallbackRlsContext]

namespace Principal

variable (p : Principal)

def rlsContext : RlsContext := ⟨p.tenant, p.campaigns, p.actor, .user p.role, p.teams⟩

def tenantContext : Fallible RlsContext := setCallbackRlsContext p.rlsContext

def scope (tenant campaign : String) : Fallible Unit :=
  check (tenant = p.tenant ∧ p.campaigns.contains campaign) (.http 403 "callback scope denied")

end Principal

def load (db : Database) (context : RlsContext) (id : UUID) (p : Principal) :
    Fallible CallbackRecord :=
  match db.records.find? fun r => decide (r.id = id) && context.inScope r with
  | none => .error (.http 404 "callback not found")
  | some row => do
    p.scope row.tenantId row.campaignId
    check (p.role ≠ .agent ∨ row.assignedAgentId = some p.actor ∨
        (row.assignedTeamId.any fun team => p.teams.contains team) = true)
        (.http 403 "callback assignment denied")
    .ok row

def event (row : CallbackRecord) (kind key : String) (p : Principal) (payload : EventPayload)
    (correlation : String) : CallbackEvent where
  callbackId := row.id
  tenantId := row.tenantId
  campaignId := row.campaignId
  eventType := kind
  version := row.version
  idempotencyKey := key
  correlationId := correlation
  actorId := p.actor
  payload := payload

structure CreateCallback where
  (tenantId campaignId : String)
  (originalCallId assignedAgentId assignedUserId reminderRecipientToken assignedTeamId :
    Option String)
  phoneNumber : String
  scheduledAt : DateTime
  customerTimezone : String
  priority : Priority
  (reason notes : String)
  (reminderEmailEnabled reminderPopupEnabled : Bool)
  compliance : Compliance
  customerContext : PythonValue.Dict
  /-- The least lengths of the two fields. -/
  scope_given : tenantId ≠ "" ∧ campaignId ≠ ""
  owner : (given assignedAgentId || given assignedTeamId) = true

structure CreateCall where
  body : CreateCallback
  principal : Principal
  (key correlation digest : String)
  id : UUID
  notificationIds : UUID × UUID
  now : Int

namespace CreateCall

variable (c : CreateCall)

def row (scheduled : Int) (phone : String) : CallbackRecord where
  id := c.id
  tenantId := c.body.tenantId
  campaignId := c.body.campaignId
  originalCallId := c.body.originalCallId
  assignedUserId := c.body.assignedUserId
  phoneNumber := c.body.phoneNumber
  normalizedPhone := phone
  priority := c.body.priority
  reminderEmailEnabled := c.body.reminderEmailEnabled
  reminderPopupEnabled := c.body.reminderPopupEnabled
  correlationId := c.correlation
  idempotencyKey := c.key
  requestHash := c.digest
  compliance := (complianceState c.body.compliance).2
  context := c.body.customerContext
  createdBy := c.principal.actor
  assignedAgentId := c.body.assignedAgentId
  assignedTeamId := c.body.assignedTeamId
  scheduledAt := scheduled
  customerTimezone := c.body.customerTimezone
  reason := c.body.reason
  notes := c.body.notes
  state := (complianceState c.body.compliance).1
  desiredState := (complianceState c.body.compliance).1
  actualState := (complianceState c.body.compliance).1
  reminders := reminders scheduled
  completedAt := none
  cancelledAt := none
  completionDisposition := none
  completionNotes := none
  version := 1

def createdEvent (row : CallbackRecord) : CallbackEvent :=
  event row "callback.created" (c.key ++ ":created") c.principal
    (.created row.state row.scheduledAt) c.correlation

/-- `_queue_email_command`, less the rows of `notification_command`. -/
def queueEmailCommand (settings : Settings) (row : CallbackRecord) :
    Fallible (List CallbackDelivery) :=
  if !row.reminderEmailEnabled || !settings.callbackEmailCommandEnabled then .ok []
  else do
    check (given c.body.reminderRecipientToken = true)
      (.http 422 "internal reminder recipient identity required")
    check (settings.callbackEmailSenderProfileId ≠ "" ∧
      settings.callbackEmailPolicyHash.length = 64)
      (.http 503 "COD callback email identity is not configured")
    .ok [(row.deliverySpec .email .reminder24h "email:reminder_24h").enqueue
      (some c.notificationIds.1) row.reminders.email1At,
      (row.deliverySpec .email .reminder1h "email:reminder_1h").enqueue (some c.notificationIds.2)
      row.reminders.email2At]

def warning (row : CallbackRecord) : List CallbackDelivery :=
  if row.reminderPopupEnabled then [row.popup .warning15m "warning-15m" row.reminders.popupAt]
    else []

def work (row : CallbackRecord) (emails : List CallbackDelivery) : Work :=
  { Work.none with
    created := some row, events := [c.createdEvent row], deliveries := emails ++ warning row }

end CreateCall

def create (rt : Runtime) (c : CreateCall) (db : Database) :
    Fallible (CallbackRecord × Database) := do
  c.principal.scope c.body.tenantId c.body.campaignId
  let context ← c.principal.tenantContext
  match db.records.find? fun r =>
      decide (r.tenantId = c.principal.tenant ∧ r.idempotencyKey = c.key) && context.inScope r with
  | some prior =>
    check (prior.requestHash = c.digest) (.http 409 "idempotency payload conflict")
    .ok (prior, db)
  | none =>
    let scheduled ← raiseAs (.http 422) (canonicalTime rt.zones c.body.scheduledAt
      c.body.customerTimezone)
    let phone ← raiseAs (.http 422) (normalizedPhone rt.decimal c.body.phoneNumber)
    let row := c.row scheduled phone
    -- The explicit flush comes before the reminders are looked at.
    check (context.inScope row = true) .policy
    check ((db.records.insert? row).isSome = true) (.http 409 "callback identity conflict")
    let emails ← c.queueEmailCommand rt.settings row
    let db' ← db.commit (c.work row emails) fun _ => .http 409 "callback event identity conflict"
    .ok (row, db')

structure Change where
  expectedVersion : Nat
  scheduledAt : Option DateTime
  (customerTimezone assignedAgentId assignedTeamId reason notes completionDisposition :
    Option String)
  completionNotes : Option String
  snoozeMinutes : Option Nat
  expectedVersion_pos : 1 ≤ expectedVersion
  snoozeMinutes_bounds : ∀ n ∈ snoozeMinutes, 5 ≤ n ∧ n ≤ 1440

/-- The `target` of a change: a state, or one of the two texts that leave the state as it is. Any
other text fails in `transition`. -/
inductive Target where
  | state (state : CallbackState)
  | reassigned | updated
  deriving DecidableEq

def Target.text : Target → String
  | .state next => next.text
  | .reassigned => "REASSIGNED"
  | .updated => "UPDATED"

def Target.eventType (target : Target) : String :=
  "callback." ++ String.ofList (target.text.toList.map Char.toLower)

def Target.cancelsDeliveries (target : Target) : Bool :=
  target ∈ [.state .snoozed, .state .rescheduled, .reassigned, .state .completed, .state .cancelled]

structure MutateCall where
  callbackId : UUID
  target : Target
  body : Change
  (key correlation : String)
  principal : Principal
  now : Int

namespace MutateCall

variable (c : MutateCall) (row : CallbackRecord)

def reassigningRoles : List Role := [.supervisor, .campaignManager, .callCenterAdmin, .owner]

def checkReassignment : Fallible Unit :=
  if c.target = .reassigned then do
    check (c.principal.role ∈ reassigningRoles) (.http 403 "reassignment role denied")
    check (c.body.assignedAgentId ≠ none ∨ c.body.assignedTeamId ≠ none)
      (.http 422 "new agent or team is required")
    check (c.principal.role ≠ .supervisor ∨
      (c.body.assignedTeamId.all c.principal.teams.contains) = true)
      (.http 403 "reassignment team scope denied")
  else .ok ()

def schedule (zones : Zones) : Fallible (Int × String) :=
  match c.target with
  | .state .snoozed => .ok (c.now + minutes (c.body.snoozeMinutes.getD 5), row.customerTimezone)
  | .state .rescheduled =>
    match c.body.scheduledAt, c.body.customerTimezone with
    | some scheduledAt, some timezone => do
      check (timezone ≠ "") (.http 422 "schedule and timezone required")
      let instant ← raiseAs (.http 422) (canonicalTime zones scheduledAt timezone)
      .ok (instant, timezone)
    | _, _ => .error (.http 422 "schedule and timezone required")
  | _ => .ok (row.scheduledAt, row.customerTimezone)

def effective : Fallible CallbackState :=
  match c.target with
  | .state next => do
    raiseAs (.http 409) (transition row.state next)
    .ok next
  | .reassigned | .updated => .ok row.state

def assignment : Option String × Option String :=
  let named : Option String × Option String := match c.body.assignedAgentId with
    | some agent =>
      (some agent, if c.target = .reassigned then c.body.assignedTeamId else row.assignedTeamId)
    | none => (row.assignedAgentId, row.assignedTeamId)
  match c.body.assignedTeamId with
  | some team =>
    (if c.target = .reassigned ∧ c.body.assignedAgentId = none then none else named.1, some team)
  | none => named

def changedRow (scheduledAt : Int) (timezone : String) (state : CallbackState) : CallbackRecord :=
  let written : CallbackRecord := { row with
    assignedAgentId := (c.assignment row).1
    assignedTeamId := (c.assignment row).2
    scheduledAt
    customerTimezone := timezone
    reason := c.body.reason.getD row.reason
    notes := c.body.notes.getD row.notes
    reminders :=
      if c.target = .state .snoozed ∨ c.target = .state .rescheduled then
        Callbacks.reminders scheduledAt
      else row.reminders
    completedAt := if c.target = .state .completed then some c.now else row.completedAt
    completionDisposition :=
      if c.target = .state .completed then c.body.completionDisposition
      else row.completionDisposition
    completionNotes :=
      if c.target = .state .completed then c.body.completionNotes else row.completionNotes
    cancelledAt := if c.target = .state .cancelled then some c.now else row.cancelledAt }
  written.advance state

def changed (zones : Zones) : Fallible CallbackRecord := do
  check (row.version = c.body.expectedVersion) (.http 409 "stale callback version")
  c.checkReassignment
  let (scheduledAt, timezone) ← c.schedule row zones
  let state ← c.effective row
  check ((given (c.assignment row).1 || given (c.assignment row).2) = true)
    (.http 422 "callback cannot be orphaned")
  .ok (c.changedRow row scheduledAt timezone state)

structure Writes (zones : Zones) (row' : CallbackRecord) : Prop where
  version : row.version = c.body.expectedVersion
  authority : c.checkReassignment = .ok ()
  schedule : c.schedule row zones = .ok (row'.scheduledAt, row'.customerTimezone)
  state : c.effective row = .ok row'.state
  owned : (given row'.assignedAgentId || given row'.assignedTeamId) = true
  written : row' = c.changedRow row row'.scheduledAt row'.customerTimezone row'.state

theorem changed_eq_ok_iff : c.changed row zones = .ok row' ↔ c.Writes row zones row' := by
  simp only [changed, bind_eq_ok, check_eq_ok, Except.ok.injEq]
  constructor
  · rintro ⟨-, version, ⟨⟩, authority, ⟨_, _⟩, schedule, state, effective, -, owned, rfl⟩
    exact ⟨version, authority, schedule, effective, owned, rfl⟩
  · rintro ⟨version, authority, schedule, state, owned, written⟩
    refine ⟨(), version, (), authority, _, schedule, _, state, (), ?_, written.symm⟩
    rw [written] at owned
    exact owned

section Writes

variable {c row} {zones : Zones} {row' : CallbackRecord} (writes : c.Writes row zones row')

include writes

theorem Writes.spec : row'.toCallbackSpec = row.toCallbackSpec := by
  rw [writes.written]
  rfl

theorem Writes.next_version : row'.version = row.version + 1 := by
  rw [writes.written]
  rfl

theorem Writes.agree : row'.desiredState = row'.state ∧ row'.actualState = row'.state := by
  rw [writes.written]
  exact ⟨rfl, rfl⟩

end Writes

def payload (row' : CallbackRecord) : EventPayload :=
  if c.target = .reassigned then
    .reassigned c.body.expectedVersion row'.state row.assignedAgentId row.assignedTeamId
      row'.assignedAgentId row'.assignedTeamId
  else .changed c.body.expectedVersion row'.state

def changeEvent (row' : CallbackRecord) : CallbackEvent :=
  event row' c.target.eventType c.key c.principal (c.payload row row') c.correlation

def staleDelivery (d : CallbackDelivery) : Bool :=
  c.target.cancelsDeliveries && d.callbackId = row.id &&
    d.callbackVersion ≤ c.body.expectedVersion && d.isPending

end MutateCall

/-- `UPDATE callback_record ... WHERE id = ...`: the columns that are written once stay. -/
def CallbackRecord.overwrite (row r : CallbackRecord) : CallbackRecord :=
  if r.id = row.id then { row with toCallbackSpec := r.toCallbackSpec } else r

def MutateCall.work (c : MutateCall) (row row' : CallbackRecord) : Work where
  created := none
  rewrite := row'.overwrite
  events := [c.changeEvent row row']
  settle := fun d => if c.staleDelivery row d then d.cancelStale else d
  deliveries := []
  rewrite_spec := by
    intro r
    unfold CallbackRecord.overwrite
    split <;> rfl
  settle_spec := by
    intro d
    split <;> rfl

def mutate (rt : Runtime) (c : MutateCall) (db : Database) :
    Fallible (CallbackRecord × Database) := do
  let context ← c.principal.tenantContext
  let row ← load db context c.callbackId c.principal
  match db.events.find? fun e =>
      decide (e.tenantId = c.principal.tenant ∧ e.idempotencyKey = c.key) with
  | some _ => .ok (row, db)
  | none =>
    let row' ← c.changed row rt.zones
    check (context.inScope row' = true) .policy
    let db' ← db.commit (c.work row row') .integrity
    .ok (row', db')

inductive Endpoint where
  | patch | snooze | reschedule | cancel | complete | start | callNow | reassign

def Endpoint.target : Endpoint → Target
  | .patch => .updated
  | .snooze => .state .snoozed
  | .reschedule => .state .rescheduled
  | .cancel => .state .cancelled
  | .complete => .state .completed
  | .start => .state .inProgress
  | .callNow => .state .inProgress
  | .reassign => .reassigned

/-! ## Delivery results -/

structure DeliveryResult where
  callbackVersion : Nat
  channel : Channel
  stage : Stage
  status : DeliveryStatus
  messageId : Option UUID
  (providerMessageId errorCode : Option String)
  status_reported : status ∈ [.queued, .accepted, .delivered, .bounced, .failed]

structure ResultCall where
  callbackId : UUID
  body : DeliveryResult
  principal : Principal
  now : Int

namespace ResultCall

variable (c : ResultCall)

def concerns (d : CallbackDelivery) : Bool :=
  decide (d.callbackId = c.callbackId ∧ d.callbackVersion = c.body.callbackVersion ∧
    d.channel = c.body.channel ∧ d.stage = c.body.stage)

def record (d : CallbackDelivery) : CallbackDelivery :=
  let attemptCount := if c.body.status = .failed then d.attemptCount + 1 else d.attemptCount
  { d with
    status := c.body.status
    messageId := c.body.messageId
    providerMessageId := c.body.providerMessageId
    lastErrorCode := c.body.errorCode
    attemptCount
    nextAttemptAt :=
      if c.body.status = .failed then some (c.now + minutes (min 60 (2 ^ attemptCount : Nat)))
      else none }

def work : Work where
  created := none
  rewrite := id
  events := []
  settle := fun d => if c.concerns d then c.record d else d
  deliveries := []
  rewrite_spec := Work.id_rewrites
  settle_spec := by
    intro d
    split <;> rfl

end ResultCall

def callbackResult (c : ResultCall) (db : Database) : Fallible (CallbackRecord × Database) := do
  check (c.principal.role = .service) (.http 403 "service identity required")
  let context ← c.principal.tenantContext
  let row ← load db context c.callbackId c.principal
  check (c.body.callbackVersion = row.version) (.http 409 "stale callback delivery result")
  match db.deliveries.find? c.concerns with
  | none => .error (.http 404 "callback delivery not found")
  | some _ =>
    let db' ← db.commit c.work .integrity
    .ok (row, db')

end CodestraMiddleware.Callbacks
