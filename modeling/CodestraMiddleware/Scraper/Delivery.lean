import CodestraMiddleware.Foundations.Run
import CodestraMiddleware.Outbox.Store
import Mathlib.Data.Fintype.Basic

/-!
# Delivery of scraper leads

A lead that is to be delivered has a row in `sales_scraper_inbox` and an item in the outbox,
inserted together under one correlation id. `deliver_once` of `workers/scraper_odoo_delivery.py`
claims items and takes the leads one after the other: it marks the inbox row, calls Odoo, ends the
claim and writes the result to the inbox, and commits after each of these. Between two commits other
workers run, and the worker may stop.
-/
namespace CodestraMiddleware.Scraper

open Relational PythonValue Transition
open Outbox (UUID Item Items Status RetryPolicy)

inductive InboxStatus where
  | received | eligible | rejected | queued | processing | retryWait | delivered | deadLetter
  deriving DecidableEq

structure InboxRow where
  id : UUID
  correlationId : String
  status : InboxStatus
  attempts : Nat
  nextAttemptAt : Option Int
  (rejectionCode odooResultReference : Option String)

abbrev Inbox := Table InboxRow.id

def leadTopic : String := "sales.lead.odoo.apply"

def InboxRow.correlated (correlationId : Option String) (r : InboxRow) : Bool :=
  decide (some r.correlationId = correlationId)

def InboxRow.process (r : InboxRow) : InboxRow := { r with status := .processing }

theorem InboxRow.id_process (r : InboxRow) : r.process.id = r.id := rfl

def inboxProcessing (inbox : Inbox) (correlationId : Option String) : Inbox :=
  inbox.updateWhere (fun r => r.correlated correlationId &&
    decide (r.status ∈ [.queued, .retryWait])) InboxRow.process InboxRow.id_process

structure Result where
  status : InboxStatus
  attempts : Nat
  (errorCode odooReference : Option String)

def InboxRow.settle (result : Result) (nextAttemptAt : Option Int) (r : InboxRow) : InboxRow :=
  { r with
    status := result.status, attempts := result.attempts, nextAttemptAt,
    rejectionCode := result.errorCode,
    odooResultReference := result.odooReference }

theorem InboxRow.id_settle (result : Result) (nextAttemptAt : Option Int) (r : InboxRow) :
    (r.settle result nextAttemptAt).id = r.id := rfl

def inboxResult (inbox : Inbox) (items : Items) (result : Result) (outboxId : UUID)
    (correlationId : Option String) : Inbox :=
  let nextAttemptAt := (items.find? outboxId).bind (·.nextAttemptAt)
  inbox.updateWhere (fun r => r.correlated correlationId &&
    decide (r.status ∉ [.delivered, .deadLetter]))
    (InboxRow.settle result nextAttemptAt) (InboxRow.id_settle result nextAttemptAt)

def inboxRow (id : UUID) (correlationId decisionCode : String)
    (accepted queued : Bool) : InboxRow :=
  let status := if queued then .queued else if accepted then .eligible else .rejected
  { id, correlationId, status, attempts := 0, nextAttemptAt := none,
    rejectionCode := if status ∈ [.eligible, .queued] then none else some decisionCode,
    odooResultReference := none }

def leadItem (id : UUID) (payload : Dict) (correlationId : String) (now : Int) : Item where
  id
  topic := leadTopic
  payload
  correlationId := some correlationId
  status := .pending
  attempts := 0
  nextAttemptAt := none
  lockedAt := none
  lastError := none
  deadLetteredAt := none
  replayCount := 0
  createdAt := now

structure Row where
  id : UUID
  attempts : Nat
  correlationId : Option String

def row (i : Item) : Row := ⟨i.id, i.attempts, i.correlationId⟩

inductive Stage where
  | waiting
  /-- The inbox row is marked, and Odoo is called. -/
  | applying
  /-- Odoo has the lead and the claim has been acknowledged. -/
  | acknowledged (odooReference : String)
  | failed (status : Status) (errorCode : String)
  deriving DecidableEq

structure Task where
  row : Row
  stage : Stage

def Task.result (t : Task) : Option Result :=
  match t.stage with
  | .acknowledged reference => some ⟨.delivered, t.row.attempts, none, some reference⟩
  | .failed status errorCode =>
    some ⟨if status = .deadLetter then .deadLetter else .retryWait, t.row.attempts + 1,
      some errorCode, none⟩
  | _ => none

variable (ι : Type) [DecidableEq ι]

structure State where
  items : Items
  inbox : Inbox
  /-- The rows that a running `deliver_once` has claimed and not done with, the
  current one first. -/
  workers : ι → List Task

def State.initial : State ι := ⟨.empty _, .empty _, fun _ => []⟩

inductive Event where
  /-- A candidate is persisted: whether it was accepted, whether it is to be delivered, and whether
  it comes from a scraper. -/
  | ingest (itemId inboxId : UUID) (payload : Dict) (correlationId decisionCode : String)
      (accepted queued persistScraperInbox : Bool) (now : Int)
  | recoverExpiredLeases (now : Int)
  | claim (worker : ι) (locked : List UUID) (limit leaseSeconds now : Int)
  | process (worker : ι)
  /-- The call of Odoo returns a reference, or raises an exception that is permanent or not. -/
  | apply (worker : ι) (outcome : Except (String × Bool) String) (now : Int)
  | settle (worker : ι)
  | stop (worker : ι)
  | replayDeadLetter (itemId : UUID)

variable {ι}

namespace State

variable (s : State ι)

def setTasks (worker : ι) (tasks : List Task) : State ι :=
  { s with workers := Function.update s.workers worker tasks }

/-- The insertions of `repository.py` into the two tables, in one transaction. -/
def ingest (itemId inboxId : UUID) (payload : Dict) (correlationId decisionCode : String)
    (accepted queued persistScraperInbox : Bool) (now : Int) : State ι :=
  let inserted :=
    if persistScraperInbox then s.inbox.insert?
      (inboxRow inboxId correlationId decisionCode accepted queued)
    else some s.inbox
  let enqueued :=
    if queued then s.items.insert? (leadItem itemId payload correlationId now) else some s.items
  match inserted, enqueued with
  | some inbox, some items => { s with inbox, items }
  | _, _ => s

def claim (worker : ι) (locked : List UUID) (limit leaseSeconds now : Int) : State ι :=
  let (items, rows) := Outbox.claimItems s.items (some leadTopic) locked limit leaseSeconds now
  { s with items }.setTasks worker (rows.map fun i => ⟨row i, .waiting⟩)

def process (worker : ι) : State ι :=
  match s.workers worker with
  | ⟨row, .waiting⟩ :: rest =>
    { s with inbox := inboxProcessing s.inbox row.correlationId }.setTasks worker
      (⟨row, .applying⟩ :: rest)
  | _ => s

def policy : RetryPolicy := ⟨8, 1, 60⟩

variable (redact : String → String)

/-- What the acknowledgement returns is not looked at. A failure that cannot be
recorded ends the worker. -/
def apply (worker : ι) (outcome : Except (String × Bool) String) (now : Int) : State ι :=
  match s.workers worker with
  | ⟨row, .applying⟩ :: rest =>
    match outcome with
    | .ok reference =>
      { s with items := (Outbox.acknowledge s.items row.id).1 }.setTasks worker
        (⟨row, .acknowledged reference⟩ :: rest)
    | .error (errorCode, permanent) =>
      let (items, recorded) :=
        Outbox.recordFailure redact s.items row.id row.attempts errorCode policy permanent now
      match recorded with
      | .ok status => { s with items }.setTasks worker (⟨row, .failed status errorCode⟩ :: rest)
      | .error _ => { s with items }.setTasks worker []
  | _ => s

def settle (worker : ι) : State ι :=
  match s.workers worker with
  | t :: rest =>
    match t.result with
    | some result =>
      { s with inbox := inboxResult s.inbox s.items result t.row.id t.row.correlationId }.setTasks
        worker rest
    | none => s
  | [] => s

end State

variable (redact : String → String)

def step (s : State ι) : Event ι → State ι
  | .ingest itemId inboxId payload correlationId decisionCode accepted queued
      persistScraperInbox now =>
    s.ingest itemId inboxId payload correlationId decisionCode accepted queued
      persistScraperInbox now
  | .recoverExpiredLeases now => { s with items := (Outbox.recoverExpiredLeases s.items now).1 }
  | .claim worker locked limit leaseSeconds now => s.claim worker locked limit leaseSeconds now
  | .process worker => s.process worker
  | .apply worker outcome now => s.apply redact worker outcome now
  | .settle worker => s.settle worker
  | .stop worker => s.setTasks worker []
  | .replayDeadLetter itemId => { s with items := (Outbox.replayDeadLetter s.items itemId).1 }

/-- A worker claims rows when it is done with those it has. -/
def admits (s : State ι) : Event ι → Prop
  | .claim worker .. => s.workers worker = []
  | _ => True

def system : System (State ι) (Event ι) where
  step := step redact
  admits := admits

end CodestraMiddleware.Scraper
