import CodestraMiddleware.Callbacks.Popups
import CodestraMiddleware.Foundations.Run

/-!
# Callbacks under the API, the scheduler and the popup worker

The state is the database, the latest time that was read, and a log of what the gateway received and
of which callbacks were reassigned. `Effect` says once what a step can do to the database.
-/
namespace CodestraMiddleware.Callbacks

open Relational Raising Transition List Database Constrained CallbackState MutateCall Principal
open Option (some_inj map_some some_or)
open CreateCall (warning)
open AiJobs (UUID UUID.text)

/-- The calls of the API, the four scheduler runs and the popup worker. -/
inductive Event where
  | create (call : CreateCall)
  | mutate (call : MutateCall)
  | callbackResult (call : ResultCall)
  | claimDue (call : SchedulerCall) (limit : Nat)
  | markMissed (call : SchedulerCall) (graceMinutes : Int)
  | escalateMissed (call : SchedulerCall) (escalationMinutes : Int)
  | reconcile (call : SchedulerCall)
  | deliver (call : DeliverCall)

/-- What the log keeps. -/
inductive Note where
  | posted (document : Document)
  | reassigned (before after : CallbackRecord)

structure State where
  database : Database
  clock : Int
  log : List Note

def State.initial (clock : Int) : State := ⟨.empty, clock, []⟩

namespace Event

def now : Event → Int
  | create c => c.now
  | mutate c => c.now
  | callbackResult c => c.now
  | claimDue c _ => c.now
  | markMissed c _ => c.now
  | escalateMissed c _ => c.now
  | reconcile c => c.now
  | deliver c => c.now

/-- The database that the transaction of the event commits. -/
def commits (rt : Runtime) (db : Database) : Event → Fallible Database
  | create c => Prod.snd <$> Callbacks.create rt c db
  | mutate c => Prod.snd <$> Callbacks.mutate rt c db
  | callbackResult c => Prod.snd <$> Callbacks.callbackResult c db
  | claimDue c limit => Prod.snd <$> Callbacks.claimDue c limit db
  | markMissed c grace => Prod.snd <$> Callbacks.markMissed c grace db
  | escalateMissed c after => Prod.snd <$> Callbacks.escalateMissed c after db
  | reconcile c => Callbacks.reconcile c db
  | deliver c => (deliverCallbackPopups rt c db).outcome

/-- The scheduler runs that move callbacks, and how. -/
def move? : Event → Option (Move × SchedulerCall)
  | claimDue c _ => some (.due, c)
  | markMissed c grace => some (.missed grace, c)
  | escalateMissed c after => some (.escalated after, c)
  | _ => none

end Event

/-- A transaction that fails is rolled back. -/
def orUnchanged (db : Database) : Fallible Database → Database
  | .ok db' => db'
  | .error _ => db

section

variable (rt : Runtime)

/-- A replay keeps the version, so it is not a reassignment. -/
def reassignment (c : MutateCall) (db : Database) : List Note :=
  match db.record? c.callbackId, mutate rt c db with
  | some before, .ok (after, _) =>
    if c.target = .reassigned ∧ before.version < after.version then [.reassigned before after]
      else []
  | _, _ => []

def notes (db : Database) : Event → List Note
  | .mutate c => reassignment rt c db
  | .deliver c => (deliverCallbackPopups rt c db).posted.map .posted
  | _ => []

def step (s : State) (e : Event) : State where
  database := orUnchanged s.database (e.commits rt s.database)
  clock := max s.clock e.now
  log := s.log ++ notes rt s.database e

/-- Anyone may call anything at any time. -/
def system : System State Event := ⟨step rt, fun _ _ => True⟩

theorem run_all (s : State) (events : List Event) : (system rt).Run s events :=
  System.along_of_forall (fun _ _ => trivial) s events

end

/-- What `_load` has checked of the row it returns. -/
structure Loaded (db : Database) (id : UUID) (p : Principal) (row : CallbackRecord) : Prop where
  found : row ∈ db.records.rows
  id : row.id = id
  inScope : p.rlsContext.inScope row = true
  tenant : row.tenantId = p.tenant

/-- Row security and the checks of the scope come together. -/
theorem loaded_of_load {id : UUID} (loaded : load db p.rlsContext id p = .ok row) :
    Loaded db id p row := by
  unfold load at loaded
  split at loaded
  · cases loaded
  next row' found =>
  simp only [bind_eq_ok, scope, check_eq_ok, Except.ok.injEq] at loaded
  obtain ⟨-, ⟨tenant, -⟩, -, -, rfl⟩ := loaded
  obtain ⟨member, holds⟩ := find?_mem found
  simp only [Bool.and_eq_true, decide_eq_true_eq] at holds
  exact ⟨member, holds.1, holds.2, tenant⟩

/-- A `mutate` that changes `row` to `row'`. -/
structure Mutated (rt : Runtime) (c : MutateCall) (db : Database) (row row' : CallbackRecord)
    (db' : Database) : Prop where
  context : c.principal.tenantContext = .ok c.principal.rlsContext
  loads : load db c.principal.rlsContext c.callbackId c.principal = .ok row
  fresh : db.events.find? (fun e =>
    decide (e.tenantId = c.principal.tenant ∧ e.idempotencyKey = c.key)) = none
  change : c.changed row rt.zones = .ok row'
  inScope : c.principal.rlsContext.inScope row' = true
  done : db.Committed (c.work row row') db'

/-- A `mutate` whose key is used: the answer is the row as it is. -/
structure Replayed (c : MutateCall) (db : Database) (row : CallbackRecord) : Prop where
  context : c.principal.tenantContext = .ok c.principal.rlsContext
  loads : load db c.principal.rlsContext c.callbackId c.principal = .ok row
  duplicate : ∃ e ∈ db.events.rows, e.tenantId = c.principal.tenant ∧ e.idempotencyKey = c.key

/-- `mutate` either replays or changes, and these are all ways to succeed. -/
theorem mutate_eq_ok_iff :
    mutate rt c db = .ok (row', db') ↔ Replayed c db row' ∧ db' = db ∨
    ∃ row, Mutated rt c db row row' db' := by
  have context {context : RlsContext} (ok : c.principal.tenantContext = .ok context) :
      context = c.principal.rlsContext := by
    rw [tenantContext, setCallbackRlsContext_eq_ok] at ok
    exact ok.2.symm
  simp only [mutate, bind_eq_ok]
  constructor
  · rintro ⟨_, started, row, loads, ok⟩
    obtain rfl := context started
    split at ok
    next e found =>
      obtain ⟨rfl, rfl⟩ := ok
      obtain ⟨stored, same⟩ := find?_mem found
      exact .inl ⟨⟨started, loads, e, stored, by simpa using same⟩, rfl⟩
    next fresh =>
      simp only [bind_eq_ok, check_eq_ok, commit_eq_ok, Except.ok.injEq, Prod.mk.injEq] at ok
      obtain ⟨_, change, -, inScope, _, done, rfl, rfl⟩ := ok
      exact .inr ⟨row, started, loads, fresh, change, inScope, done⟩
  · rintro (⟨⟨started, loads, e, stored, same⟩, rfl⟩ | ⟨row, started, loads, fresh, change,
      inScope, done⟩)
    · refine ⟨_, started, row', loads, ?_⟩
      split
      next => rfl
      next absent =>
        have differs := (db'.events.find?_eq_none_iff _).mp absent e stored
        simp [same] at differs
    · refine ⟨_, started, row, loads, ?_⟩
      rw [fresh]
      simp only [bind_eq_ok, check_eq_ok, commit_eq_ok]
      exact ⟨row', change, (), inScope, db', done, rfl⟩

namespace Mutated

variable {rt : Runtime} {c : MutateCall} {db db' : Database} {row row' : CallbackRecord}
  (mutated : Mutated rt c db row row' db')

include mutated

theorem loaded : Loaded db c.callbackId c.principal row := loaded_of_load mutated.loads

theorem writes : c.Writes row rt.zones row' := (c.changed_eq_ok_iff row).mp mutated.change

/-- The key of a change is new in the tenant. -/
theorem key_fresh : ∀ e ∈ db.events.rows, e.tenantId = row.tenantId → e.idempotencyKey ≠ c.key := by
  intro e stored tenant key
  have differs := (db.events.find?_eq_none_iff _).mp mutated.fresh e stored
  rw [mutated.loaded.tenant] at tenant
  simp [tenant, key] at differs

end Mutated

theorem callbackResult_eq_ok (ok : callbackResult c db = .ok (row, db')) :
    Loaded db c.callbackId c.principal row ∧ c.body.callbackVersion = row.version ∧
    db.Committed c.work db' := by
  simp only [callbackResult, tenantContext, bind_eq_ok, check_eq_ok,
    setCallbackRlsContext_eq_ok] at ok
  obtain ⟨-, -, _, ⟨-, rfl⟩, _, found, -, current, ok⟩ := ok
  split at ok
  · cases ok
  · simp only [bind_eq_ok, commit_eq_ok, Except.ok.injEq, Prod.mk.injEq] at ok
    obtain ⟨_, done, rfl, rfl⟩ := ok
    exact ⟨loaded_of_load found, current, done⟩

/-- Rows of the table, each once, in a state that allows the move. -/
structure Selected (db : Database) (m : Move) (rows : List CallbackRecord) : Prop where
  found : ∀ r ∈ rows, r ∈ db.records.rows
  distinct : (rows.map (·.id)).Nodup
  allowed : ∀ r ∈ rows, m.state ∈ r.state.transitions

/-- What an event can do to the database. -/
inductive Effect (rt : Runtime) (db : Database) : Event → Database → Prop where
  | unchanged {e} : Effect rt db e db
  | created {c row emails db'} (scheduled : Int) (phone : String)
      (built : row = c.row scheduled phone)
      (tenant : row.tenantId = c.principal.tenant)
      (inScope : c.principal.rlsContext.inScope row = true)
      (queued : c.queueEmailCommand rt.settings row = .ok emails)
      (done : db.Committed (c.work row emails) db') : Effect rt db (.create c) db'
  | changed {c row row' db'} (mutated : Mutated rt c db row row' db') : Effect rt db (.mutate c) db'
  | reported {c row db'} (loaded : Loaded db c.callbackId c.principal row)
      (current : c.body.callbackVersion = row.version) (done : db.Committed c.work db') :
      Effect rt db (.callbackResult c) db'
  | moved {e m c rows db'} (kind : e.move? = some (m, c)) (selected : Selected db m rows)
      (done : db.Committed (m.work c.workerId c.now rows) db') : Effect rt db e db'
  | reconciled {c context db'} (done : db.Committed (reconcileWork c context db) db') :
      Effect rt db (.reconcile c) db'
  | delivered {c context db'} (started : c.context = .ok context)
      (through : (c.posts rt.digit (c.dueRows context db)).2 = true)
      (done : db.Committed (c.work rt.digit (c.dueRows context db)) db') :
      Effect rt db (.deliver c) db'

variable {e : Event} {m : Move} {rows : List CallbackRecord}

section Effects

variable {rt : Runtime} {db db' : Database}

theorem create_effect (ok : create rt c db = .ok (row, db')) : Effect rt db (.create c) db' := by
  simp only [create, tenantContext, bind_eq_ok, scope, check_eq_ok,
    setCallbackRlsContext_eq_ok] at ok
  obtain ⟨-, ⟨tenant, -⟩, _, ⟨-, rfl⟩, ok⟩ := ok
  split at ok
  next prior found =>
    simp only [bind_eq_ok, check_eq_ok, Except.ok.injEq, Prod.mk.injEq] at ok
    obtain ⟨-, -, rfl, rfl⟩ := ok
    exact .unchanged
  next =>
    simp only [bind_eq_ok, raiseAs_eq_ok, check_eq_ok, commit_eq_ok, Except.ok.injEq,
      Prod.mk.injEq] at ok
    obtain ⟨scheduled, -, phone, -, -, inScope, -, -, _, queued, _, done, rfl, rfl⟩ := ok
    exact .created scheduled phone rfl tenant inScope queued done

theorem mutate_effect (ok : mutate rt c db = .ok (row, db')) : Effect rt db (.mutate c) db' := by
  rcases mutate_eq_ok_iff.mp ok with ⟨-, rfl⟩ | ⟨_, mutated⟩
  · exact .unchanged
  · exact .changed mutated

theorem callbackResult_effect (ok : callbackResult c db = .ok (row, db')) :
    Effect rt db (.callbackResult c) db' := by
  obtain ⟨loaded, current, done⟩ := callbackResult_eq_ok ok
  exact .reported loaded current done

theorem snd_eq_ok {x : Fallible (α × Database)} (ok : Prod.snd <$> x = .ok db') :
    ∃ a, x = .ok (a, db') := by
  cases x with
  | error => cases ok
  | ok pair => exact ⟨pair.1, by cases ok; rfl⟩

/-- The three moves differ in their query only. -/
theorem moveAll_effect {rows : RlsContext → List CallbackRecord} (kind : e.move? = some (m, c))
    (selected : ∀ context, Selected db m (rows context))
    (ok : Prod.snd <$> (c.context detail >>= fun context => c.moveAll m (rows context) db) =
      .ok db') : Effect rt db e db' := by
  obtain ⟨moved, ok⟩ := snd_eq_ok ok
  simp only [SchedulerCall.moveAll, bind_eq_ok, commit_eq_ok, Except.ok.injEq, Prod.mk.injEq] at ok
  obtain ⟨context, -, _, done, -, rfl⟩ := ok
  exact .moved kind (selected context) done

theorem ids_nodup (db : Database) : (db.records.rows.map (·.id)).Nodup := by
  rw [Nodup, pairwise_map]
  exact db.records.apart.imp fun apart same => apart (.inl same)

section

variable (c : SchedulerCall)

theorem select_selected (context : RlsContext)
    (allowed : ∀ r, query r = true → m.state ∈ r.state.transitions) :
    Selected db m (c.select context query db) where
  found r member := (mem_filter.mp member).1
  distinct := (ids_nodup db).sublist (filter_sublist.map _)
  allowed r member := by
    have holds := (mem_filter.mp member).2
    simp only [Bool.and_eq_true] at holds
    exact allowed r holds.2

theorem dueRows_selected (limit : Nat) (context : RlsContext) :
    Selected db .due (dueRows c limit context db) := by
  have all : Selected db .due (c.select context (fun r => decide (r.state ∈ claimable ∧
      r.scheduledAt ≤ c.now ∧ some r.tenantId = c.tenantId ∧ some r.campaignId = c.campaignId))
      db) := by
    refine select_selected c context fun r holds => ?_
    simp only [decide_eq_true_eq] at holds
    have state := holds.1
    simp only [claimable, mem_cons, not_mem_nil, or_false] at state
    rcases state with same | same | same | same | same <;> simp [same, transitions, Move.state]
  refine ⟨fun r member => ?_, ?_, fun r member => ?_⟩
  · exact all.found r ((mem_insertionSort _).mp (mem_of_mem_take member))
  · apply Nodup.sublist ((take_sublist _ _).map _)
    exact ((perm_insertionSort _ _).map _).nodup_iff.mpr all.distinct
  · exact all.allowed r ((mem_insertionSort _).mp (mem_of_mem_take member))

theorem missedRows_selected (grace : Int) (context : RlsContext) :
    Selected db (.missed grace) (missedRows c grace context db) := by
  refine select_selected c context fun r holds => ?_
  simp only [decide_eq_true_eq] at holds
  simp [holds.1, transitions, Move.state]

theorem escalatedRows_selected (after : Int) (context : RlsContext) :
    Selected db (.escalated after) (escalatedRows c after context db) := by
  refine select_selected c context fun r holds => ?_
  simp only [decide_eq_true_eq] at holds
  simp [holds.1, transitions, Move.state]

end

/-- Every way of an event to commit is an `Effect`. -/
theorem commits_effect (ok : e.commits rt db = .ok db') : Effect rt db e db' := by
  cases e with
  | create c =>
    obtain ⟨row, ok⟩ := snd_eq_ok ok
    exact create_effect ok
  | mutate c =>
    obtain ⟨row, ok⟩ := snd_eq_ok ok
    exact mutate_effect ok
  | callbackResult c =>
    obtain ⟨row, ok⟩ := snd_eq_ok ok
    exact callbackResult_effect ok
  | claimDue c limit => exact moveAll_effect rfl (dueRows_selected c limit) ok
  | markMissed c grace => exact moveAll_effect rfl (missedRows_selected c grace) ok
  | escalateMissed c after => exact moveAll_effect rfl (escalatedRows_selected c after) ok
  | reconcile c =>
    obtain ⟨context, -, ok⟩ := bind_eq_ok.mp ok
    exact .reconciled (commit_eq_ok.mp ok)
  | deliver c =>
    simp only [Event.commits, deliverCallbackPopups] at ok
    split at ok
    · cases ok
    next context started =>
    simp only at ok
    split at ok
    next through => exact .delivered started through (commit_eq_ok.mp ok)
    next => cases ok

/-- So is every step: failures leave the database alone. -/
theorem step_effect (rt : Runtime) (s : State) (e : Event) :
    Effect rt s.database e (step rt s e).database := by
  simp only [step]
  cases committed : e.commits rt s.database with
  | ok db' => exact commits_effect committed
  | error => exact .unchanged

end Effects

/-! ## One callback

The rows of the three tables that belong to one callback form an aggregate; seen from it, a step is
one of seven. -/

/-- The rows of one callback. -/
structure Aggregate where
  record : Option CallbackRecord
  events : List CallbackEvent
  deliveries : List CallbackDelivery

def Database.aggregate (db : Database) (id : UUID) : Aggregate where
  record := db.record? id
  events := db.events.rows.filter fun e => decide (e.callbackId = id)
  deliveries := db.deliveries.rows.filter fun d => decide (d.callbackId = id)

/-- What an event can do to the rows of one callback. -/
inductive Aggregate.Step (rt : Runtime) (e : Event) (a a' : Aggregate) : Prop where
  | kept (same : a' = a)
  | created (c : CreateCall) (scheduled : Int) (phone : String) (emails : List CallbackDelivery)
      (call : e = .create c) (absent : a.record = none)
      (queued : c.queueEmailCommand rt.settings (c.row scheduled phone) = .ok emails)
      (inScope : c.principal.rlsContext.inScope (c.row scheduled phone) = true)
      (after : a' = ⟨some (c.row scheduled phone),
        a.events ++ [c.createdEvent (c.row scheduled phone)],
        a.deliveries ++ (emails ++ warning (c.row scheduled phone))⟩)
  | changed (c : MutateCall) (row row' : CallbackRecord) (call : e = .mutate c)
      (before : a.record = some row) (id : row.id = c.callbackId)
      (change : c.changed row rt.zones = .ok row')
      (after : a' = ⟨some row', a.events ++ [c.changeEvent row row'],
        a.deliveries.map fun d => if c.staleDelivery row d then d.cancelStale else d⟩)
  | moved (m : Move) (c : SchedulerCall) (row : CallbackRecord) (call : e.move? = some (m, c))
      (before : a.record = some row) (allowed : m.state ∈ row.state.transitions)
      (after : a' = ⟨some (m.next row), a.events ++ [m.event c.workerId row],
        a.deliveries ++ m.deliveries c.now row⟩)
  | reported (c : ResultCall) (row : CallbackRecord) (call : e = .callbackResult c)
      (before : a.record = some row) (id : row.id = c.callbackId)
      (current : c.body.callbackVersion = row.version)
      (after : a' = { a with
        deliveries := a.deliveries.map fun d => if c.concerns d then c.record d else d })
  | reconciled (c : SchedulerCall) (row : CallbackRecord)
      (outdated : CallbackDelivery → Bool) (call : e = .reconcile c) (before : a.record = some row)
      (old : ∀ d, outdated d = true → d.isPending = true ∧
        (d.callbackVersion < row.version ∨ row.state ∈ terminal))
      (after : a' = { a with
        deliveries := a.deliveries.map fun d => if outdated d then d.cancelStale else d })
  | delivered (c : DeliverCall) (row : CallbackRecord) (context : RlsContext)
      (chosen : CallbackDelivery → Bool) (call : e = .deliver c) (before : a.record = some row)
      (due : ∀ d ∈ a.deliveries, chosen d = true → c.isDue context d row = true)
      (after : a' = { a with
        deliveries := a.deliveries.map fun d => if chosen d then c.settle rt.digit d row else d })

variable {d : CallbackDelivery} {r : CallbackRecord} {context : RlsContext}

section Aggregates

variable {rt : Runtime} {db db' : Database} {w : Work}

@[simp] theorem Work.rewrite_id (w : Work) (r : CallbackRecord) : (w.rewrite r).id = r.id := by
  rw [w.rewrite_spec]

@[simp] theorem Work.settle_callbackId (w : Work) (d : CallbackDelivery) :
    (w.settle d).callbackId = d.callbackId := by
  rw [w.settle_spec]

/-- A commit seen from one callback. -/
theorem Database.Committed.aggregate (done : db.Committed w db') (id : UUID) : db'.aggregate id = {
      record := ((db.record? id).map w.rewrite).or (w.created.filter fun r => decide (r.id = id))
      events := (db.aggregate id).events ++ w.events.filter fun e => decide (e.callbackId = id)
      deliveries := (db.aggregate id).deliveries.map w.settle ++
        w.deliveries.filter fun d => decide (d.callbackId = id) } := by
  have record : db'.record? id = ((db.record? id).map w.rewrite).or
      (w.created.filter fun r => decide (r.id = id)) := by
    have same : ((fun r : CallbackRecord => decide (r.id = id)) ∘ w.rewrite) = fun r =>
        decide (r.id = id) := by
      funext r
      simp
    rw [Database.record?, Constrained.find?, done.records_rows, find?_append, find?_map, same]
    cases w.created with
    | none => rfl
    | some r => simp [Database.record?, Constrained.find?, find?_singleton, Option.filter]
  have deliveries : (db.deliveries.rows.map w.settle).filter (fun d => decide (d.callbackId = id)) =
      (db.deliveries.rows.filter fun d => decide (d.callbackId = id)).map w.settle := by
    rw [filter_map]
    congr 2
    funext d
    simp
  rw [Database.aggregate, record, done.events_rows, done.deliveries_rows, filter_append,
    filter_append, deliveries]
  rfl

theorem Database.Committed.aggregate_settled (done : db.Committed w db')
    (created : w.created = none)
    (rewrite : w.rewrite = id) (events : w.events = []) (deliveries : w.deliveries = [])
    (key : UUID) :
    db'.aggregate key = { db.aggregate key with
      deliveries := (db.aggregate key).deliveries.map w.settle } := by
  rw [done.aggregate, created, rewrite, events, deliveries]
  simp [Database.aggregate]

theorem aggregate_deliveries_mem {id : UUID} :
    d ∈ (db.aggregate id).deliveries ↔ d ∈ db.deliveries.rows ∧ d.callbackId = id := by
  simp [aggregate]

theorem aggregate_events_mem {id : UUID} {e : CallbackEvent} :
    e ∈ (db.aggregate id).events ↔ e ∈ db.events.rows ∧ e.callbackId = id := by
  simp [aggregate]

theorem filter_id (distinct : (rows.map (·.id)).Nodup) (member : r ∈ rows) :
    rows.filter (fun x => decide (x.id = r.id)) = [r] := by
  -- The rows are a table of their own, with the id as its key.
  let chosen : Constrained fun x y : CallbackRecord => x.id = y.id :=
    ⟨rows, pairwise_map.mp distinct⟩
  have unique : ∀ x y : CallbackRecord, decide (x.id = r.id) = true → decide (y.id = r.id) = true →
      x.id = y.id := by
    simp_all
  have found := (chosen.find?_eq_some_iff (fun _ _ => Eq.symm) unique r).mpr
    ⟨member, decide_eq_true rfl⟩
  exact (chosen.filter_eq_find? unique).trans (congrArg Option.toList found)

/-- The key names callback, version and purpose. -/
def CallbackDelivery.Keyed (d : CallbackDelivery) : Prop :=
  ∃ purpose, d.idempotencyKey = callbackKey d.callbackId d.callbackVersion purpose

theorem Move.deliveries_owner {now : Int} (member : d ∈ m.deliveries now row) :
    d.callbackId = row.id ∧ d.callbackVersion = row.version + 1 ∧ d.channel = .popup ∧ d.Keyed := by
  have popup (stage : Stage) (purpose : String) (at_ : Int) :
      ((m.next row).popup stage purpose at_).Keyed :=
    ⟨"popup:" ++ purpose, rfl⟩
  unfold Move.deliveries at member
  split at member
  · cases m <;> simp only [Move.popups, mem_cons, not_mem_nil, or_false] at member
    · rcases member with rfl | rfl <;> exact ⟨rfl, rfl, rfl, popup _ _ _⟩
    · obtain rfl := member
      exact ⟨rfl, rfl, rfl, popup _ _ _⟩
    · obtain rfl := member
      exact ⟨rfl, rfl, rfl, popup _ _ _⟩
  · cases member

theorem CreateCall.deliveries_owner {c : CreateCall} {row : CallbackRecord}
    (queued : c.queueEmailCommand settings row = .ok emails) (member : d ∈ emails ++ warning row) :
    d.callbackId = row.id ∧ d.callbackVersion = row.version ∧ d.Keyed := by
  rcases mem_append.mp member with email | popup
  · unfold CreateCall.queueEmailCommand at queued
    split at queued
    · cases queued
      cases email
    · simp only [bind_eq_ok, check_eq_ok, Except.ok.injEq] at queued
      obtain ⟨-, -, -, -, rfl⟩ := queued
      simp only [mem_cons, not_mem_nil, or_false] at email
      rcases email with rfl | rfl
      · exact ⟨rfl, rfl, "email:reminder_24h", rfl⟩
      · exact ⟨rfl, rfl, "email:reminder_1h", rfl⟩
  · unfold warning at popup
    split at popup
    · obtain rfl := mem_singleton.mp popup
      exact ⟨rfl, rfl, "popup:" ++ "warning-15m", rfl⟩
    · cases popup

theorem overwrite_of_spec {row' : CallbackRecord}
    (spec : row'.toCallbackSpec = row.toCallbackSpec) : row'.overwrite row = row' := by
  have id : row.id = row'.id := by rw [spec]
  rw [CallbackRecord.overwrite, if_pos id, ← spec]

/-- A commit leaves the callbacks that it does not name. -/
theorem Database.Committed.aggregate_kept (done : db.Committed w db') {id : UUID}
    (created : ∀ r ∈ w.created, r.id ≠ id) (events : ∀ e ∈ w.events, e.callbackId ≠ id)
    (deliveries : ∀ d ∈ w.deliveries, d.callbackId ≠ id)
    (rewrite : ∀ r, r.id = id → w.rewrite r = r)
    (settle : ∀ d, d.callbackId = id → w.settle d = d) : db'.aggregate id = db.aggregate id := by
  have noRecord : w.created.filter (fun r => decide (r.id = id)) = none :=
    Option.filter_eq_none_iff.mpr fun r member => by simpa using created r member
  have noEvents : w.events.filter (fun e => decide (e.callbackId = id)) = [] :=
    filter_eq_nil_iff.mpr fun e member => by simpa using events e member
  have noDeliveries : w.deliveries.filter (fun d => decide (d.callbackId = id)) = [] :=
    filter_eq_nil_iff.mpr fun d member => by simpa using deliveries d member
  have sameRecord : (db.record? id).map w.rewrite = db.record? id := by
    cases found : db.record? id with
    | none => rfl
    | some r => rw [map_some, rewrite r (Database.record?_eq_some_iff.mp found).2]
  have sameDeliveries : (db.aggregate id).deliveries.map w.settle =
      (db.aggregate id).deliveries := by
    refine (map_congr_left fun d member => ?_).trans (map_id' _)
    exact settle d (aggregate_deliveries_mem.mp member).2
  rw [done.aggregate, noRecord, noEvents, noDeliveries, sameRecord, sameDeliveries]
  simp [Database.aggregate]

theorem created_step {scheduled : Int} {phone : String}
    (queued : c.queueEmailCommand rt.settings (c.row scheduled phone) = .ok emails)
    (inScope : c.principal.rlsContext.inScope (c.row scheduled phone) = true)
    (done : db.Committed (c.work (c.row scheduled phone) emails) db') (id : UUID) :
    Aggregate.Step rt (.create c) (db.aggregate id) (db'.aggregate id) := by
  have owner := fun d => CreateCall.deliveries_owner queued (d := d)
  by_cases own : c.id = id
  · subst own
    have absent : db.record? c.id = none := by
      have fresh := (insertAll?_isSome_iff.mp (by rw [done.records]; rfl)).1 (c.row scheduled phone)
        (by simp [CreateCall.work])
      rw [record?, find?_eq_none_iff]
      intro r row
      have apart := fresh r (by simpa [rewritten, CreateCall.work, Work.none] using row)
      exact decide_eq_false fun same => apart (.inl same)
    have events : [c.createdEvent (c.row scheduled phone)].filter
        (fun e => decide (e.callbackId = c.id)) = [c.createdEvent (c.row scheduled phone)] := by
      simp [CreateCall.createdEvent, event, CreateCall.row]
    have deliveries : (emails ++ warning (c.row scheduled phone)).filter
        (fun d => decide (d.callbackId = c.id)) = emails ++ warning (c.row scheduled phone) :=
      filter_eq_self.mpr fun d member => decide_eq_true (owner d member).1
    refine .created c scheduled phone emails rfl absent queued inScope ?_
    rw [done.aggregate, absent]
    simp only [CreateCall.work, Work.none, events, deliveries, map_id, Option.map_none,
      Option.none_or]
    congr 1
    simp [Option.filter, CreateCall.row]
  · refine .kept (done.aggregate_kept ?_ ?_ ?_ (fun _ _ => rfl) (fun _ _ => rfl))
    · intro r created
      obtain rfl : c.row scheduled phone = r := by simpa [CreateCall.work] using created
      exact own
    · intro e member
      obtain rfl : e = c.createdEvent (c.row scheduled phone) := by
        simpa [CreateCall.work] using member
      exact own
    · intro d member same
      exact own ((owner d member).1.symm.trans same)

theorem Mutated.aggregate_own {row' : CallbackRecord} (mutated : Mutated rt c db row row' db') :
    db'.aggregate row.id = ⟨some row', (db.aggregate row.id).events ++ [c.changeEvent row row'],
      (db.aggregate row.id).deliveries.map fun d => if c.staleDelivery row d then d.cancelStale
      else d⟩ := by
  have spec := mutated.writes.spec
  have events : [c.changeEvent row row'].filter (fun e => decide (e.callbackId = row.id)) =
      [c.changeEvent row row'] := by
    simp [changeEvent, event, spec]
  rw [mutated.done.aggregate, record?_of_mem mutated.loaded.found]
  simp [work, events, overwrite_of_spec spec]

theorem Mutated.aggregate_other (mutated : Mutated rt c db row row' db') {id : UUID}
    (other : row.id ≠ id) : db'.aggregate id = db.aggregate id := by
  have sameId : row'.id = row.id := by rw [mutated.writes.spec]
  refine mutated.done.aggregate_kept ?_ ?_ ?_ ?_ ?_
  · simp [work]
  · intro e member
    obtain rfl : e = c.changeEvent row row' := by simpa [work] using member
    simpa [changeEvent, event, sameId] using other
  · simp [work]
  · intro r same
    exact if_neg (by rw [same, sameId]; exact other.symm)
  · intro d same
    have kept : c.staleDelivery row d = false := by
      have differs : d.callbackId ≠ row.id := by rw [same]; exact other.symm
      simp [staleDelivery, differs]
    simp [work, kept]

theorem changed_step (mutated : Mutated rt c db row row' db') (id : UUID) :
    Aggregate.Step rt (.mutate c) (db.aggregate id) (db'.aggregate id) := by
  by_cases own : row.id = id
  · subst own
    exact .changed c row row' rfl (record?_of_mem mutated.loaded.found) mutated.loaded.id
      mutated.change mutated.aggregate_own
  · exact .kept (mutated.aggregate_other own)

theorem moved_step (kind : e.move? = some (m, c)) (selected : Selected db m rows)
    (done : db.Committed (m.work c.workerId c.now rows) db') (id : UUID) :
    Aggregate.Step rt e (db.aggregate id) (db'.aggregate id) := by
  by_cases chosen : ∃ row ∈ rows, row.id = id
  · obtain ⟨row, member, rfl⟩ := chosen
    have found := record?_of_mem (selected.found row member)
    have single := filter_id selected.distinct member
    have events : (rows.map (m.event c.workerId)).filter (fun e => decide (e.callbackId = row.id)) =
        [m.event c.workerId row] := by
      rw [filter_map]
      exact congrArg (map (m.event c.workerId)) single
    have deliveries : (rows.flatMap (m.deliveries c.now)).filter
        (fun d => decide (d.callbackId = row.id)) = m.deliveries c.now row := by
      rw [← flatMap_singleton (m.deliveries c.now) row, ← single]
      clear * -
      induction rows with
      | nil => rfl
      | cons r rows ih =>
        -- A selected row contributes all of its popups or none of them.
        have owner {d : CallbackDelivery} (enqueued : d ∈ m.deliveries c.now r) :=
          (Move.deliveries_owner enqueued).1
        rw [flatMap_cons, filter_append, ih, filter_cons]
        split
        next same => rw [filter_eq_self.mpr fun d enqueued => owner enqueued ▸ same, flatMap_cons]
        next other =>
          rw [filter_eq_nil_iff.mpr fun d enqueued => owner enqueued ▸ other, nil_append]
    have listed : (rows.map (·.id)).contains row.id = true := by
      rw [contains_iff_mem]
      exact mem_map_of_mem member
    refine .moved m c row kind found (selected.allowed row member) ?_
    rw [done.aggregate, found]
    simp only [Move.work, listed, events, deliveries, map_some, some_or, if_true, map_id]
  · have others : ∀ r ∈ rows, r.id ≠ id := fun r member same => chosen ⟨r, member, same⟩
    refine .kept (done.aggregate_kept ?_ ?_ ?_ ?_ (fun _ _ => rfl))
    · simp [Move.work]
    · exact forall_mem_map.mpr others
    · intro d member
      obtain ⟨r, row, enqueued⟩ := mem_flatMap.mp member
      rw [(Move.deliveries_owner enqueued).1]
      exact others r row
    · intro r same
      have unlisted : (rows.map (·.id)).contains r.id = false := by
        rw [Bool.eq_false_iff, Ne, contains_iff_mem, mem_map]
        rintro ⟨other, row, equal⟩
        exact others other row (equal.trans same)
      simp only [Move.work, unlisted, Bool.false_eq_true, if_false]

theorem reported_step (loaded : Loaded db c.callbackId c.principal row)
    (current : c.body.callbackVersion = row.version) (done : db.Committed c.work db') (id : UUID) :
    Aggregate.Step rt (.callbackResult c) (db.aggregate id) (db'.aggregate id) := by
  by_cases own : row.id = id
  · subst own
    exact .reported c row rfl (record?_of_mem loaded.found) loaded.id current
      (done.aggregate_settled rfl rfl rfl rfl row.id)
  · refine .kept (done.aggregate_kept ?_ ?_ ?_ (fun _ _ => rfl) ?_)
    · simp [ResultCall.work]
    · simp [ResultCall.work]
    · simp [ResultCall.work]
    · intro d same
      have other : c.concerns d = false := by
        refine decide_eq_false fun concerns => own ?_
        rw [loaded.id, ← same, concerns.1]
      simp [ResultCall.work, other]

theorem reconciled_step (done : db.Committed (reconcileWork c context db) db') (id : UUID) :
    Aggregate.Step rt (.reconcile c) (db.aggregate id) (db'.aggregate id) := by
  have after := done.aggregate_settled rfl rfl rfl rfl id
  cases found : db.record? id with
  | none =>
    refine .kept (after.trans ?_)
    rw [map_congr_left (g := fun d => d), map_id']
    intro d member
    have owner := (aggregate_deliveries_mem.mp member).2
    simp [reconcileWork, outdated, owner, found]
  | some row =>
    refine .reconciled c row (fun d => decide (d.callbackId = id) && outdated c context db d)
      rfl found ?_ ?_
    · intro d old
      simp only [Bool.and_eq_true, decide_eq_true_eq, outdated] at old
      rw [old.1, found] at old
      simp only [Option.any_some, Bool.and_eq_true, decide_eq_true_eq] at old
      exact ⟨old.2.1.2, old.2.2.imp_right And.left⟩
    · rw [after]
      dsimp only
      congr 1
      refine map_congr_left fun d member => ?_
      have owner := (aggregate_deliveries_mem.mp member).2
      simp [reconcileWork, owner]

theorem mem_dueRows {c : DeliverCall} (member : (d, r) ∈ c.dueRows context db) :
    d ∈ db.deliveries.rows ∧ db.record? d.callbackId = some r ∧ c.isDue context d r = true := by
  have listed := (mem_insertionSort _).mp (mem_of_mem_take member)
  obtain ⟨d', stored, pair⟩ := mem_filterMap.mp listed
  obtain ⟨r', found, equal⟩ := Option.map_eq_some_iff.mp pair
  obtain ⟨found, due⟩ := Option.filter_eq_some_iff.mp found
  cases equal
  exact ⟨stored, found, due⟩

theorem eq_of_key (stored : d ∈ db.deliveries.rows)
    (stored' : d' ∈ db.deliveries.rows) (same : d.idempotencyKey = d'.idempotencyKey) : d = d' := by
  refine db.deliveries.eq_of_clash (fun x y clash => ?_) stored stored' (.inr same)
  rcases clash with ⟨id, version, channel, stage⟩ | key
  · exact .inl ⟨id.symm, version.symm, channel.symm, stage.symm⟩
  · exact .inr key.symm

theorem find_dueRows {c : DeliverCall} (stored : d ∈ db.deliveries.rows)
    (found : (c.dueRows context db).find?
      (fun row => decide (row.1.idempotencyKey = d.idempotencyKey)) = some pair) :
    db.record? d.callbackId = some pair.2 ∧ c.isDue context d pair.2 = true := by
  obtain ⟨d', r⟩ := pair
  obtain ⟨stored', record, due⟩ := mem_dueRows (mem_of_find?_eq_some found)
  have same : d'.idempotencyKey = d.idempotencyKey := by simpa using find?_some found
  obtain rfl := eq_of_key stored' stored same
  exact ⟨record, due⟩

theorem delivered_step {c : DeliverCall}
    (done : db.Committed (c.work rt.digit (c.dueRows context db)) db') (id : UUID) :
    Aggregate.Step rt (.deliver c) (db.aggregate id) (db'.aggregate id) := by
  have after := done.aggregate_settled rfl rfl rfl rfl id
  let chosen : CallbackDelivery → Bool := fun d => ((c.dueRows context db).find?
    fun row => decide (row.1.idempotencyKey = d.idempotencyKey)).isSome
  have settle : ∀ d ∈ (db.aggregate id).deliveries, ∀ row,
      ((c.dueRows context db).find? fun row => decide (row.1.idempotencyKey = d.idempotencyKey)) =
        some row → db.record? id = some row.2 ∧ c.isDue context d row.2 = true := by
    intro d member row found
    obtain ⟨stored, owner⟩ := aggregate_deliveries_mem.mp member
    rw [← owner]
    exact find_dueRows stored found
  cases found : db.record? id with
  | none =>
    refine .kept (after.trans ?_)
    rw [map_congr_left (g := fun d => d), map_id']
    intro d member
    simp only [DeliverCall.work]
    split
    next row selected =>
      rw [(settle d member row selected).1] at found
      cases found
    next => rfl
  | some row =>
    refine .delivered c row context chosen rfl found ?_ ?_
    · intro d member selected
      obtain ⟨pair, equal⟩ := Option.isSome_iff_exists.mp selected
      obtain ⟨record, due⟩ := settle d member pair equal
      rw [found, some_inj] at record
      rwa [record]
    · rw [after]
      dsimp only
      congr 1
      refine map_congr_left fun d member => ?_
      simp only [DeliverCall.work, chosen]
      split
      next pair selected =>
        have record := (settle d member pair selected).1
        rw [found, some_inj] at record
        simp [selected, record]
      next selected => simp [selected]

/-- Seen from one callback every effect is a step of its rows. -/
theorem aggregate_step (effect : Effect rt db e db') (id : UUID) :
    Aggregate.Step rt e (db.aggregate id) (db'.aggregate id) := by
  cases effect with
  | unchanged => exact .kept rfl
  | created _ _ built _ inScope queued done =>
    subst built
    exact created_step queued inScope done id
  | changed mutated => exact changed_step mutated id
  | reported loaded current done => exact reported_step loaded current done id
  | moved kind selected done => exact moved_step kind selected done id
  | reconciled done => exact reconciled_step done id
  | delivered _ _ done => exact delivered_step done id

end Aggregates

/-! ## The path of a callback -/

theorem MutateCall.effective_eq_ok {c : MutateCall} :
    c.effective row = .ok state ↔
    (∃ next, c.target = .state next ∧ next ∈ row.state.transitions ∧ state = next) ∨
        (c.target = .reassigned ∨ c.target = .updated) ∧ state = row.state := by
  unfold effective
  cases c.target with
  | state next =>
    simp only [bind_eq_ok, raiseAs_eq_ok, transition, check_eq_ok, Except.ok.injEq,
      Target.state.injEq, reduceCtorEq, or_self, false_and, or_false]
    constructor
    · rintro ⟨-, allowed, rfl⟩
      exact ⟨next, rfl, allowed, rfl⟩
    · rintro ⟨_, rfl, allowed, rfl⟩
      exact ⟨(), allowed, rfl⟩
  | reassigned | updated => simp [eq_comm]

variable {a : Aggregate}

/-- A callback stays, keeps the columns that are written once, and its state follows the table. -/
theorem Aggregate.Step.follows {rt : Runtime} (step : Aggregate.Step rt e a a')
    (there : a.record = some r) : ∃ r', a'.record = some r' ∧ r'.toCallbackSpec = r.toCallbackSpec ∧
      (r'.state = r.state ∨ r'.state ∈ r.state.transitions) := by
  cases step with
  | kept same => exact ⟨r, by rwa [same], rfl, .inl rfl⟩
  | created _ _ _ _ _ absent => rw [there] at absent; cases absent
  | changed c row row' call before id change after =>
    obtain rfl := some_inj.mp (before.symm.trans there)
    have writes := (c.changed_eq_ok_iff row).mp change
    refine ⟨row', by rw [after], writes.spec, ?_⟩
    rcases effective_eq_ok.mp writes.state with ⟨next, -, allowed, same⟩ | ⟨-, same⟩
    · exact .inr (same ▸ allowed)
    · exact .inl same
  | moved m c row call before allowed after =>
    obtain rfl := some_inj.mp (before.symm.trans there)
    exact ⟨m.next row, by rw [after], rfl, .inr allowed⟩
  | reported _ _ _ _ _ _ after | reconciled _ _ _ _ _ _ after | delivered _ _ _ _ _ _ _ after =>
    exact ⟨r, by rw [after]; exact there, rfl, .inl rfl⟩

section Runs

variable {rt : Runtime}

/-- What each step of the rows keeps is kept for all callbacks along every run. -/
theorem aggregates_stable {P : Aggregate → Prop}
    (kept : ∀ e a a', Aggregate.Step rt e a a' → P a → P a') :
    (system rt).Stable fun s => ∀ id, P (s.database.aggregate id) :=
  fun s e _ holds id => kept e _ _ (aggregate_step (step_effect rt s e) id) (holds id)

/-- Rows belong to a callback that is there, its states agree, and its versions
number its events. -/
structure Aggregate.Sound (a : Aggregate) : Prop where
  absent : a.record = none → a.events = [] ∧ a.deliveries = []
  agree : ∀ r ∈ a.record, r.desiredState = r.state ∧ r.actualState = r.state
  numbered : ∀ r ∈ a.record, a.events.map (·.version) = range' 1 r.version
  versions : ∀ r ∈ a.record, ∀ d ∈ a.deliveries, d.callbackVersion ≤ r.version
  tenant : ∀ r ∈ a.record, ∀ e ∈ a.events, e.tenantId = r.tenantId

theorem Aggregate.Sound.settle (sound : a.Sound)
    (spec : ∀ d, (f d).toDeliverySpec = d.toDeliverySpec) : Aggregate.Sound
    { a with deliveries := a.deliveries.map f } where
  absent none := by
    obtain ⟨events, deliveries⟩ := sound.absent none
    exact ⟨events, by simp [deliveries]⟩
  agree := sound.agree
  numbered := sound.numbered
  versions r there d member := by
    obtain ⟨d, old, rfl⟩ := mem_map.mp member
    rw [spec d]
    exact sound.versions r there d old
  tenant := sound.tenant

/-- One new event and the deliveries of the new version. -/
theorem Aggregate.Sound.advance (sound : a.Sound) {row : CallbackRecord} {e : CallbackEvent}
    (before : a.record = some row)
    (agree : row'.desiredState = row'.state ∧ row'.actualState = row'.state)
    (version : row'.version = row.version + 1) (number : e.version = row.version + 1)
    (tenant : row'.tenantId = row.tenantId) (owner : e.tenantId = row.tenantId)
    (versions : ∀ d ∈ ds, d.callbackVersion ≤ row.version + 1) :
    Aggregate.Sound ⟨some row', a.events ++ [e], ds⟩ where
  absent none := by cases none
  agree r there := by
    cases there
    exact agree
  numbered r there := by
    cases there
    rw [map_append, sound.numbered row before, version, range'_concat]
    simp [number, Nat.add_comm]
  versions r there d member := by
    cases there
    rw [version]
    exact versions d member
  tenant r there := by
    cases there
    rw [tenant]
    exact forall_mem_append.mpr ⟨sound.tenant row before, forall_mem_singleton.mpr owner⟩

theorem Aggregate.Sound.step {a' : Aggregate} (step : Aggregate.Step rt e a a') (sound : a.Sound) :
    a'.Sound := by
  cases step with
  | kept same => rwa [same]
  | created _ _ _ _ _ absent queued _ after =>
    obtain ⟨events, deliveries⟩ := sound.absent absent
    rw [after, events, deliveries]
    refine ⟨by rintro ⟨⟩, ?_, ?_, ?_, ?_⟩ <;> (intro r there; obtain rfl := some_inj.mp there)
    · exact ⟨rfl, rfl⟩
    · rfl
    · intro d member
      exact (CreateCall.deliveries_owner queued member).2.1.le
    · intro e member
      rw [nil_append, mem_singleton] at member
      rw [member]
      rfl
  | changed c row row' call before id change after =>
    have writes := (c.changed_eq_ok_iff row).mp change
    have tenant : row'.tenantId = row.tenantId := by rw [writes.spec]
    rw [after]
    apply sound.advance before writes.agree writes.next_version writes.next_version tenant tenant
    intro d member
    obtain ⟨d, old, rfl⟩ := mem_map.mp member
    have bound := sound.versions row before d old
    split <;> exact Nat.le_succ_of_le bound
  | moved m c row call before allowed after =>
    rw [after]
    refine sound.advance before ⟨rfl, rfl⟩ rfl rfl rfl rfl ?_
    intro d member
    rcases mem_append.mp member with old | new
    · exact Nat.le_succ_of_le (sound.versions row before d old)
    · exact (Move.deliveries_owner new).2.1.le
  | reported _ _ _ _ _ _ after | reconciled _ _ _ _ _ _ after | delivered _ _ _ _ _ _ _ after =>
    rw [after]
    exact sound.settle fun d => by split <;> first | rfl | exact DeliverCall.settle_spec ..

/-- The rows of every callback agree. -/
def Consistent (db : Database) : Prop := ∀ id, (db.aggregate id).Sound

theorem consistent_stable (rt : Runtime) : (system rt).Stable fun s => Consistent s.database :=
  aggregates_stable fun _ _ _ step sound => sound.step step

theorem consistent_initial (clock : Int) : Consistent (State.initial clock).database := by
  intro id
  exact ⟨fun _ => ⟨rfl, rfl⟩, by rintro r ⟨⟩, by rintro r ⟨⟩, by rintro r ⟨⟩, by rintro r ⟨⟩⟩

/-- Every run leaves callbacks, events and deliveries consistent. -/
theorem reachable_consistent (rt : Runtime) (clock : Int) (events : List Event) :
    Consistent ((system rt).after (.initial clock) events).database :=
  (consistent_stable rt).after (consistent_initial clock) (run_all rt _ events)

end Runs

/-! ## A sample tenant -/

namespace Sample

def isAsciiDigit (c : Char) : Bool := '0' ≤ c && c ≤ '9'

def runtime : Runtime where
  settings := ⟨false, "", ""⟩
  zones := fun name => if name = "UTC" then some fun _ => 0 else none
  decimal := isAsciiDigit
  digit := isAsciiDigit

def administrator : Principal := ⟨"admin", "COD", ["TEST_SYN"], .callCenterAdmin, []⟩

def passing : Compliance := ⟨true, false, false, true, true⟩

def request : CreateCallback where
  tenantId := "COD"
  campaignId := "TEST_SYN"
  originalCallId := none
  assignedAgentId := some "A"
  assignedUserId := some "user-A"
  reminderRecipientToken := none
  assignedTeamId := none
  phoneNumber := "+15551234567"
  scheduledAt := ⟨minutes 120, some 0⟩
  customerTimezone := "UTC"
  priority := .normal
  reason := "quote"
  notes := ""
  reminderEmailEnabled := false
  reminderPopupEnabled := true
  compliance := passing
  customerContext := ⟨[], PythonValue.no_entries⟩
  scope_given := by decide
  owner := by decide

def creation : CreateCall := ⟨request, administrator, "K1", "corr", "digest", 1, (8, 9), 0⟩

def noChange (changes : Nat) : Change :=
  ⟨changes + 1, none, none, none, none, none, none, none, none, none, Nat.succ_pos changes, by
    rintro _ ⟨⟩⟩

def changing (target : Target) (body : Change) (key : String) (now : Int) : MutateCall :=
  ⟨1, target, body, key, "corr", administrator, now⟩

def scheduling (now : Int) : SchedulerCall := ⟨"scheduler", some "COD", some "TEST_SYN", now, []⟩

def delivering (now : Int) : DeliverCall :=
  ⟨"COD", "TEST_SYN", "token", 50, now, [], fun _ => .accepted⟩

end Sample

end CodestraMiddleware.Callbacks
