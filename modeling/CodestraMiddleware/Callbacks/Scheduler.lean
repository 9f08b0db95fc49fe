import CodestraMiddleware.Callbacks.Api

/-!
# The callback scheduler

`callback_scheduler.py`. `claim_due`, `mark_missed` and `escalate_missed` lock the rows they select,
write the next state of each without asking the table, and commit the whole batch at once;
`reconcile` cancels deliveries that nothing will make any more.
-/
namespace CodestraMiddleware.Callbacks

open Relational Raising
open AiJobs (UUID UUID.text)

inductive Move where
  | due
  | missed (graceMinutes : Int)
  | escalated (escalationMinutes : Int)

namespace Move

variable (m : Move)

def state : CallbackState :=
  match m with
  | .due => .due
  | .missed _ => .missed
  | .escalated _ => .escalated

def purpose : String :=
  match m with
  | .due => "due"
  | .missed _ => "missed"
  | .escalated _ => "escalated"

def payload (row : CallbackRecord) : EventPayload :=
  match m with
  | .due => .due row.state
  | .missed grace => .missed grace
  | .escalated after => .escalated after

def popups (row' : CallbackRecord) (now : Int) : List CallbackDelivery :=
  match m with
  | .due => [row'.popup .due "due" now, row'.popup .agentReminder10m "agent-reminder"
      (now + minutes 10)]
  | .missed _ => [row'.popup .missed "missed" now]
  | .escalated _ => [row'.popup .escalated "escalated" now]

def next (row : CallbackRecord) : CallbackRecord := row.advance m.state

def event (workerId : String) (row : CallbackRecord) : CallbackEvent where
  callbackId := row.id
  tenantId := row.tenantId
  campaignId := row.campaignId
  eventType := "callback." ++ m.purpose
  version := (m.next row).version
  idempotencyKey := callbackKey row.id (m.next row).version m.purpose
  correlationId := row.correlationId
  actorId := workerId
  payload := m.payload row

def deliveries (now : Int) (row : CallbackRecord) : List CallbackDelivery :=
  if row.reminderPopupEnabled then m.popups (m.next row) now else []

def work (workerId : String) (now : Int) (rows : List CallbackRecord) : Work where
  created := none
  rewrite := fun r => if (rows.map (·.id)).contains r.id then m.next r else r
  events := rows.map (m.event workerId)
  settle := id
  deliveries := rows.flatMap (m.deliveries now)
  rewrite_spec := by
    intro r
    split <;> rfl
  settle_spec := Work.id_settles

end Move

structure SchedulerCall where
  workerId : String
  (tenantId campaignId : Option String)
  now : Int
  locked : List UUID

namespace SchedulerCall

variable (c : SchedulerCall)

def context (missing : String) : Fallible RlsContext :=
  match c.tenantId, c.campaignId with
  | some tenant, some campaign => do
    check (tenant ≠ "" ∧ campaign ≠ "") (.valueError missing)
    setCallbackRlsContext ⟨tenant, [campaign], c.workerId, .scheduler, []⟩
  | _, _ => .error (.valueError missing)

def select (context : RlsContext) (query : CallbackRecord → Bool) (db : Database) :
    List CallbackRecord :=
  db.records.rows.filter fun r => context.inScope r && !c.locked.contains r.id && query r

def moveAll (m : Move) (rows : List CallbackRecord) (db : Database) :
    Fallible (List CallbackRecord × Database) := do
  let db' ← db.commit (m.work c.workerId c.now rows) .integrity
  .ok (rows.map m.next, db')

end SchedulerCall

def claimable : List CallbackState := [.scheduled, .reminderPending, .ready, .snoozed, .rescheduled]

variable (c : SchedulerCall)

def dueRows (limit : Nat) (context : RlsContext) (db : Database) : List CallbackRecord :=
  ((c.select context (fun r => decide (r.state ∈ claimable ∧ r.scheduledAt ≤ c.now ∧
      some r.tenantId = c.tenantId ∧ some r.campaignId = c.campaignId)) db).insertionSort
    fun r r' => r.scheduledAt ≤ r'.scheduledAt).take limit

def claimDue (limit : Nat) (db : Database) : Fallible (List CallbackRecord × Database) := do
  let context ← c.context "tenant_id and campaign_id are required for callback scheduler RLS"
  c.moveAll .due (dueRows c limit context db) db

def missedRows (graceMinutes : Int) (context : RlsContext) (db : Database) : List CallbackRecord :=
  c.select context (fun r => decide (r.state = .due ∧ r.scheduledAt ≤ c.now - minutes graceMinutes ∧
    some r.tenantId = c.tenantId ∧ some r.campaignId = c.campaignId)) db

def markMissed (graceMinutes : Int) (db : Database) :
    Fallible (List CallbackRecord × Database) := do
  let context ← c.context "tenant_id and campaign_id are required for missed detection RLS"
  c.moveAll (.missed graceMinutes) (missedRows c graceMinutes context db) db

/-- Here the tenant is left to the policy. -/
def escalatedRows (escalationMinutes : Int) (context : RlsContext) (db : Database) :
    List CallbackRecord :=
  c.select context (fun r => decide (r.state = .missed ∧
    r.scheduledAt ≤ c.now - minutes escalationMinutes ∧ some r.campaignId = c.campaignId)) db

def escalateMissed (escalationMinutes : Int) (db : Database) :
    Fallible (List CallbackRecord × Database) := do
  let context ← c.context "tenant_id and campaign_id are required for escalation RLS"
  c.moveAll (.escalated escalationMinutes) (escalatedRows c escalationMinutes context db) db

def outdated (context : RlsContext) (db : Database) (d : CallbackDelivery) : Bool :=
  (db.record? d.callbackId).any fun r => context.inScope r && d.isPending &&
    decide (d.callbackVersion < r.version ∨ r.state ∈ CallbackState.terminal ∧
      some r.tenantId = c.tenantId ∧ some r.campaignId = c.campaignId)

def reconcileWork (context : RlsContext) (db : Database) : Work where
  created := none
  rewrite := id
  events := []
  settle := fun d => if outdated c context db d then d.cancelStale else d
  deliveries := []
  rewrite_spec := Work.id_rewrites
  settle_spec := by
    intro d
    split <;> rfl

/-- `reconcile`, less the counts that it reports. It acts under a name of its own. -/
def reconcile (db : Database) : Fallible Database := do
  let context ← { c with workerId := "callback-reconciler" }.context
    "tenant_id and campaign_id are required for callback reconciliation RLS"
  db.commit (reconcileWork c context db) .integrity

end CodestraMiddleware.Callbacks
