import CodestraMiddleware.Callbacks.History
import CodestraMiddleware.Foundations.Fields

/-!
# Keys of clients and keys of the scheduler

The events of a tenant share one unique column. `create` puts `:created` behind the key of its
caller, and the scheduler names the callback, the version and the move; but `mutate` stores the key
that its caller chose as it is.
-/
namespace CodestraMiddleware.Callbacks

open Relational Raising Transition List Option Database Move Fields
open AiJobs (UUID UUID.text)

variable {rt : Runtime}

def hexDigit (id : UUID) (i : Nat) : Char := Nat.digitChar (id.toNat / 16 ^ (31 - i) % 16)

theorem text_toList (id : UUID) :
    let group (start length : Nat) := (range' start length).map (hexDigit id)
    (UUID.text id).toList =
      group 0 8 ++ '-' :: (group 8 4 ++
        '-' :: (group 12 4 ++ '-' :: (group 16 4 ++ '-' :: group 20 12))) := by
  have digits : (fun i => Nat.digitChar (id.toNat / 16 ^ (31 - i) % 16)) = hexDigit id := rfl
  unfold UUID.text
  rw [digits]
  simp only [String.toList_intercalate, map_cons, map_nil, String.toList_ofList]
  rfl

theorem text_length (id : UUID) : (UUID.text id).toList.length = 36 := by
  rw [text_toList]
  simp

theorem hexDigit_ne_hyphen (id : UUID) (i : Nat) : hexDigit id i ≠ '-' := by
  have all : ∀ a < 16, Nat.digitChar a ≠ '-' := by decide
  exact all _ (Nat.mod_lt _ (by decide))

theorem text_digits (id : UUID) :
    (UUID.text id).toList.filter (fun c => decide (c ≠ '-')) = (range' 0 32).map (hexDigit id) := by
  have group (start length : Nat) : ((range' start length).map (hexDigit id)).filter
      (fun c => decide (c ≠ '-')) = (range' start length).map (hexDigit id) := by
    exact filter_eq_self.mpr (forall_mem_map.mpr fun i _ => decide_eq_true
      (hexDigit_ne_hyphen id i))
  have hyphen : decide ('-' ≠ '-') = false := by decide
  simp only [text_toList, filter_append, filter_cons, hyphen, group, Bool.false_eq_true, if_false,
    ← map_append]
  rfl

theorem text_injective {id : UUID} (same : (UUID.text id).toList = (UUID.text id').toList) :
    id = id' := by
  have digits : (range' 0 32).map (hexDigit id) = (range' 0 32).map (hexDigit id') := by
    rw [← text_digits, same, text_digits]
  refine BitVec.eq_of_toNat_eq (eq_of_digits (b := 16) (k := 32) ?_ ?_ fun i place => ?_)
  · exact id.isLt.trans_eq (by decide)
  · exact id'.isLt.trans_eq (by decide)
  · have listed : 31 - i ∈ range' 0 32 := by
      rw [mem_range'_1]
      omega
    have equal := map_inj_left.mp digits (31 - i) listed
    rw [hexDigit, hexDigit, Nat.sub_sub_self (by omega)] at equal
    exact digitChar_injective (Nat.mod_lt _ (by decide)) (Nat.mod_lt _ (by decide)) equal

theorem callbackKey_injective {id : UUID} {purpose : String}
    (same : callbackKey id version purpose = callbackKey id' version' purpose') :
    id = id' ∧ version = version' ∧ purpose = purpose' := by
  have lists := congrArg String.toList same
  simp only [callbackKey, String.toList_append, append_assoc] at lists
  have fields := append_cancel_left lists
  obtain ⟨ids, fields⟩ := append_inj fields (by rw [text_length, text_length])
  have fields := append_cancel_left fields
  obtain ⟨versions, purposes⟩ := delimited_inj (d := ':') (not_mem_decimal (by decide) _)
    (not_mem_decimal (by decide) _) fields
  exact ⟨text_injective ids, decimal_injective versions, String.toList_injective purposes⟩

theorem created_ne_callbackKey (key : String) (id : UUID) (version : Nat) (m : Move) :
    key ++ ":created" ≠ callbackKey id version m.purpose := by
  intro same
  have others : ∀ purpose ∈ ["due", "missed", "escalated"], ':' ∉ purpose.toList.reverse ∧
    "created" ≠ purpose := by decide
  obtain ⟨free, differs⟩ := others m.purpose (by cases m <;> simp [purpose])
  -- Read from the end, a key starts with its last field.
  have lists := congrArg (fun text => text.toList.reverse) same
  simp only [callbackKey, String.toList_append, reverse_append] at lists
  have last : "created".toList.reverse = m.purpose.toList.reverse :=
    (delimited_inj (d := ':') (by decide) free lists).1
  exact differs (String.toList_injective (reverse_injective last))

/-! ## Whose keys are stored -/

def CallbackEvent.isChange (e : CallbackEvent) : Bool :=
  match e.payload with
  | .changed .. | .reassigned .. => true
  | _ => false

theorem MutateCall.isChange_changeEvent (c : MutateCall) (row row' : CallbackRecord) :
    (c.changeEvent row row').isChange = true := by
  by_cases reassigns : c.target = .reassigned <;>
    simp [CallbackEvent.isChange, changeEvent, event, MutateCall.payload, reassigns]

/-- An event that is not of a change has the key that `create` or the scheduler makes. -/
def CallbackEvent.Keyed (e : CallbackEvent) : Prop :=
  e.isChange = true ∨ (∃ key, e.idempotencyKey = key ++ ":created") ∨
    ∃ m : Move, e.idempotencyKey = callbackKey e.callbackId e.version m.purpose

structure Aggregate.Keyed (a : Aggregate) : Prop where
  events : ∀ e ∈ a.events, e.Keyed
  deliveries : ∀ d ∈ a.deliveries, d.Keyed

theorem Aggregate.Keyed.settle {a : Aggregate} (keyed : a.Keyed)
    {f : CallbackDelivery → CallbackDelivery}
    (spec : ∀ d, (f d).toDeliverySpec = d.toDeliverySpec) : ∀ d ∈ a.deliveries.map f, d.Keyed := by
  refine forall_mem_map.mpr fun d old => ?_
  rw [CallbackDelivery.Keyed, spec d]
  exact keyed.deliveries d old

variable {e : Event}

theorem Aggregate.Keyed.step {a a' : Aggregate} (step : Aggregate.Step rt e a a')
    (keyed : a.Keyed) : a'.Keyed := by
  have later {new : CallbackEvent} (keyedNew : new.Keyed) : ∀ e ∈ a.events ++ [new], e.Keyed :=
    forall_mem_append.mpr ⟨keyed.events, forall_mem_singleton.mpr keyedNew⟩
  have enqueued {new : List CallbackDelivery} (keyedNew : ∀ d ∈ new, d.Keyed) :
      ∀ d ∈ a.deliveries ++ new, d.Keyed :=
    forall_mem_append.mpr ⟨keyed.deliveries, keyedNew⟩
  cases step with
  | kept same => rwa [same]
  | created c _ _ _ _ _ queued _ after =>
    rw [after]
    exact ⟨later (.inr (.inl ⟨c.key, rfl⟩)),
      enqueued (fun _ member => (CreateCall.deliveries_owner queued member).2.2)⟩
  | changed c _ _ _ _ _ _ after =>
    rw [after]
    exact ⟨later (.inl (c.isChange_changeEvent _ _)), keyed.settle fun d => by split <;> rfl⟩
  | moved m _ _ _ _ _ after =>
    rw [after]
    exact ⟨later (.inr (.inr ⟨m, rfl⟩)), enqueued fun _ member => (deliveries_owner member).2.2.2⟩
  | reported _ _ _ _ _ _ after | reconciled _ _ _ _ _ _ after | delivered _ _ _ _ _ _ _ after =>
    rw [after]
    exact ⟨keyed.events, keyed.settle fun d => by
      split <;> first | rfl | exact DeliverCall.settle_spec ..⟩

variable {r : CallbackRecord}

section Batches

variable {db : Database} {m : Move} {rows : List CallbackRecord} {workerId : String} {now : Int}

theorem Consistent.event_version (consistent : Consistent db) {e : CallbackEvent}
    (stored : e ∈ db.events.rows) (row : r ∈ db.records.rows) (owner : e.callbackId = r.id) :
    e.version ≤ r.version := by
  have numbered := (consistent r.id).numbered r (record?_of_mem row)
  have member : e.version ∈ range' 1 r.version := by
    rw [← numbered]
    exact mem_map_of_mem (aggregate_events_mem.mpr ⟨stored, owner⟩)
  rw [mem_range'_1] at member
  omega

theorem event_clash_iff (consistent : Consistent db) (keyed : ∀ id, (db.aggregate id).Keyed)
    {e : CallbackEvent} (stored : e ∈ db.events.rows) (row : r ∈ db.records.rows) :
    e.Clash (m.event workerId r) ↔ e.isChange = true ∧ e.tenantId = r.tenantId ∧
      e.idempotencyKey = callbackKey r.id (r.version + 1) m.purpose := by
  have ahead (owner : e.callbackId = r.id) : e.version ≠ r.version + 1 := by
    have bound := consistent.event_version stored row owner
    omega
  constructor
  · rintro (⟨owner, version, -⟩ | ⟨tenant, key⟩)
    · exact absurd version (ahead owner)
    · refine ⟨?_, tenant, key⟩
      rcases (keyed e.callbackId).events e (aggregate_events_mem.mpr ⟨stored, rfl⟩) with change |
        ⟨own, created⟩ | ⟨m', move⟩
      · exact change
      · exact absurd (created.symm.trans key) (created_ne_callbackKey own _ _ _)
      · obtain ⟨owner, version, -⟩ := callbackKey_injective (move.symm.trans key)
        exact absurd version (ahead owner)
  · rintro ⟨-, tenant, key⟩
    exact .inr ⟨tenant, key⟩

theorem events_apart (distinct : (rows.map (·.id)).Nodup) :
    (rows.map (m.event workerId)).Pairwise fun e e' => ¬ e.Clash e' := by
  rw [pairwise_map]
  rw [Nodup, pairwise_map] at distinct
  refine distinct.imp fun differ clash => differ ?_
  rcases clash with ⟨owner, -⟩ | ⟨-, key⟩
  · exact owner
  · exact (callbackKey_injective key).1

theorem Move.deliveries_apart (m : Move) (now : Int) (r : CallbackRecord) :
    (m.deliveries now r).Pairwise fun d d' => ¬ d.Clash d' := by
  unfold deliveries
  split
  · cases m with
    | due =>
      apply pairwise_pair.mpr
      rintro (⟨-, -, -, stage⟩ | key)
      · cases stage
      · have purposes := (callbackKey_injective key).2.2
        exact absurd purposes (by decide)
    | missed | escalated => exact pairwise_singleton _ _
  · exact Pairwise.nil

theorem deliveries_apart (distinct : (rows.map (·.id)).Nodup) :
    (rows.flatMap (m.deliveries now)).Pairwise fun d d' => ¬ d.Clash d' := by
  rw [pairwise_flatMap]
  rw [Nodup, pairwise_map] at distinct
  refine ⟨fun r _ => m.deliveries_apart now r,
    distinct.imp fun differ d enqueued d' enqueued' clash => ?_⟩
  have owner := (deliveries_owner enqueued).1
  have owner' := (deliveries_owner enqueued').1
  rcases clash with ⟨same, -⟩ | key
  · exact differ (owner.symm.trans (same.trans owner'))
  · obtain ⟨_, keyed⟩ := (deliveries_owner enqueued).2.2.2
    obtain ⟨_, keyed'⟩ := (deliveries_owner enqueued').2.2.2
    have same := (callbackKey_injective (keyed.symm.trans (key.trans keyed'))).1
    exact differ (owner.symm.trans (same.trans owner'))

theorem delivery_apart (consistent : Consistent db) (keyed : ∀ id, (db.aggregate id).Keyed)
    {d new : CallbackDelivery} (stored : d ∈ db.deliveries.rows) (row : r ∈ db.records.rows)
    (enqueued : new ∈ m.deliveries now r) : ¬ d.Clash new := by
  obtain ⟨owner, version, -⟩ := deliveries_owner enqueued
  -- Either constraint makes it a delivery of the version to come.
  have ahead : d.Clash new → d.callbackId = r.id ∧ d.callbackVersion = r.version + 1 := by
    rintro (⟨same, equal, -⟩ | key)
    · exact ⟨same.trans owner, equal.trans version⟩
    · obtain ⟨_, old⟩ := (keyed d.callbackId).deliveries d
        (aggregate_deliveries_mem.mpr ⟨stored, rfl⟩)
      obtain ⟨_, added⟩ := (deliveries_owner enqueued).2.2.2
      obtain ⟨same, equal, -⟩ := callbackKey_injective (old.symm.trans (key.trans added))
      exact ⟨same.trans owner, equal.trans version⟩
  intro clash
  obtain ⟨same, _⟩ := ahead clash
  have bound := (consistent r.id).versions r (record?_of_mem row) d
    (aggregate_deliveries_mem.mpr ⟨stored, same⟩)
  omega

/-- No client has taken a key that the move makes for the rows. -/
def KeysFree (m : Move) (rows : List CallbackRecord) (db : Database) : Prop :=
  ∀ r ∈ rows, ∀ e ∈ db.events.rows, e.isChange = true → e.tenantId = r.tenantId →
    e.idempotencyKey ≠ callbackKey r.id (r.version + 1) m.purpose

theorem committed_iff (workerId : String) (now : Int) (consistent : Consistent db)
    (keyed : ∀ id, (db.aggregate id).Keyed) (selected : Selected db m rows) :
    (∃ db', db.Committed (m.work workerId now rows) db') ↔ KeysFree m rows db := by
  have events : (db.events.insertAll? (rows.map (m.event workerId))).isSome ↔
      KeysFree m rows db := by
    rw [Constrained.insertAll?_isSome_iff, and_iff_left (events_apart selected.distinct)]
    constructor
    · intro apart r row e stored change tenant key
      exact apart _ (mem_map_of_mem row) e stored
        ((event_clash_iff consistent keyed stored (selected.found r row)).mpr ⟨change, tenant, key⟩)
    · intro free new member e stored clash
      obtain ⟨r, row, rfl⟩ := mem_map.mp member
      obtain ⟨change, tenant, key⟩ :=
        (event_clash_iff consistent keyed stored (selected.found r row)).mp clash
      exact free r row e stored change tenant key
  have deliveries : ((db.settled (m.work workerId now rows)).insertAll?
      (rows.flatMap (m.deliveries now))).isSome := by
    rw [Constrained.insertAll?_isSome_iff]
    refine ⟨fun new member d stored => ?_, deliveries_apart selected.distinct⟩
    obtain ⟨r, row, enqueued⟩ := mem_flatMap.mp member
    have stored : d ∈ db.deliveries.rows := by simpa [settled, work] using stored
    exact delivery_apart consistent keyed stored (selected.found r row) enqueued
  rw [← events]
  constructor
  · rintro ⟨db', done⟩
    exact isSome_iff_exists.mpr ⟨_, done.events⟩
  · intro free
    obtain ⟨es, inserted⟩ := isSome_iff_exists.mp free
    obtain ⟨ds, enqueued⟩ := isSome_iff_exists.mp deliveries
    exact ⟨⟨db.rewritten (m.work workerId now rows), es, ds⟩, rfl, inserted, enqueued⟩

end Batches

/-! ## Runs of the scheduler -/

def Event.batch? (db : Database) : Event → Option (Move × SchedulerCall × List CallbackRecord)
  | .claimDue c limit =>
    (c.context "tenant_id and campaign_id are required for callback scheduler RLS").toOption.map
      fun context => (.due, c, dueRows c limit context db)
  | .markMissed c grace =>
    (c.context "tenant_id and campaign_id are required for missed detection RLS").toOption.map
      fun context => (.missed grace, c, missedRows c grace context db)
  | .escalateMissed c after =>
    (c.context "tenant_id and campaign_id are required for escalation RLS").toOption.map
      fun context => (.escalated after, c, escalatedRows c after context db)
  | _ => none

theorem batch_spec (rt : Runtime) {db : Database} (batch : e.batch? db = some (m, c, rows)) :
    Selected db m rows ∧ e.commits rt db = Prod.snd <$> c.moveAll m rows db := by
  cases e with
  | claimDue c' | markMissed c' | escalateMissed c' =>
    obtain ⟨context, given, ⟨⟩⟩ := Option.map_eq_some_iff.mp batch
    constructor
    · first
      | exact dueRows_selected _ _ context
      | exact missedRows_selected _ _ context
      | exact escalatedRows_selected _ _ context
    · unfold Except.toOption at given
      split at given <;> cases given
      next started =>
        simp only [Event.commits, claimDue, markMissed, escalateMissed, started]
        rfl
  | _ => cases batch

/-- A run of the scheduler fails on no constraint, and moves every callback that it selects. -/
def MovesSelected (rt : Runtime) (s : State) (e : Event) : Prop :=
  ∀ m c rows, e.batch? s.database = some (m, c, rows) →
    (∀ violated, e.commits rt s.database ≠ .error (.integrity violated)) ∧
    ∀ r ∈ rows, ∃ r' ∈ (step rt s e).database.records.rows, r'.id = r.id ∧ r'.state = m.state ∧
    r'.version = r.version + 1

/-- The run makes no key that a client has used. -/
def ClientsApart (s : State) (e : Event) : Prop :=
  ∀ m c rows, e.batch? s.database = some (m, c, rows) → KeysFree m rows s.database

theorem Move.moved_row {db : Database} {m : Move}
    (done : db.Committed (m.work workerId now rows) db')
    (chosen : r ∈ rows) (row : r ∈ db.records.rows) : m.next r ∈ db'.records.rows := by
  have listed : (rows.map (·.id)).contains r.id = true := by
    rw [contains_iff_mem]
    exact mem_map_of_mem chosen
  rw [done.records_rows]
  refine mem_append_left _ (mem_map.mpr ⟨r, row, ?_⟩)
  simp only [work, listed, if_true]

theorem movesSelected_iff (consistent : Consistent s.database)
    (keyed : ∀ id, (s.database.aggregate id).Keyed) : MovesSelected rt s e ↔ ClientsApart s e := by
  refine forall₃_congr fun m c rows => imp_congr_right fun batch => ?_
  obtain ⟨selected, commits⟩ := batch_spec rt batch
  rw [← committed_iff c.workerId c.now consistent keyed selected]
  have moveAll : c.moveAll m rows s.database = (do
      let db' ← s.database.commit (m.work c.workerId c.now rows) .integrity
      .ok (rows.map m.next, db')) := rfl
  constructor
  · rintro ⟨unhindered, -⟩
    cases result : s.database.commit? (m.work c.workerId c.now rows) with
    | ok db' => exact ⟨db', commit?_eq_ok_iff.mp result⟩
    | error violated =>
      refine absurd ?_ (unhindered violated)
      rw [commits, moveAll, commit, result]
      rfl
  · rintro ⟨db', done⟩
    have ok : e.commits rt s.database = .ok db' := by
      rw [commits, moveAll, commit_eq_ok.mpr done]
      rfl
    refine ⟨fun violated failed => ?_, fun r chosen => ?_⟩
    · rw [ok] at failed
      cases failed
    · have database : (step rt s e).database = db' := by simp [step, ok, orUnchanged]
      rw [database]
      exact ⟨m.next r, moved_row done chosen (selected.found r chosen), rfl, rfl, rfl⟩

theorem keyed_stable (rt : Runtime) : (system rt).Stable fun s =>
    Consistent s.database ∧ ∀ id, (s.database.aggregate id).Keyed := by
  rintro s e - ⟨consistent, keyed⟩
  exact ⟨consistent_stable rt s e trivial consistent,
    fun id => (keyed id).step (aggregate_step (step_effect rt s e) id)⟩

/-- Throughout a run of calls, the scheduler fails on no constraint and moves what it selects
exactly if no change was stored under a key that the scheduler makes for a callback it selects. -/
theorem scheduler_unblocked_iff (rt : Runtime) (clock : Int) (events : List Event) :
    (system rt).Along (MovesSelected rt) (.initial clock) events ↔
    (system rt).Along ClientsApart (.initial clock) events :=
  (keyed_stable rt).along_iff (fun s e _ inv => movesSelected_iff inv.1 inv.2)
    ⟨consistent_initial clock, fun id => ⟨by rintro e ⟨⟩, by rintro d ⟨⟩⟩⟩ (run_all rt _ events)

namespace Sample

def squatting : Event :=
  .mutate (changing .updated (noChange 0) "callback:00000000-0000-0000-0000-000000000001:v3:due" 1)

def claiming : Event := .claimDue (scheduling (minutes 120)) 100

def failsOnConstraint (s : State) (e : Event) : Bool :=
  match e.commits runtime s.database with
  | .error (.integrity _) => true
  | _ => false

end Sample

open Sample in
/-- The callback never becomes due: the run fails as a whole. -/
theorem client_blocks_scheduler : ¬ (system runtime).Along (MovesSelected runtime) (.initial 0)
      [.create creation, squatting, claiming] := by
  have fails : failsOnConstraint ((system runtime).after (.initial 0) [.create creation, squatting])
      claiming = true := by decide +kernel
  have starts : (claiming.batch? ((system runtime).after (.initial 0)
      [.create creation, squatting]).database).isSome = true := by decide +kernel
  intro along
  obtain ⟨⟨m, c, rows⟩, batch⟩ := isSome_iff_exists.mp starts
  obtain ⟨unhindered, -⟩ := along.2.2.1 m c rows batch
  unfold failsOnConstraint at fails
  split at fails
  next violated failed => exact unhindered violated failed
  next => cases fails

/-! ## Answers without a change

`mutate` answers with the row as it is once any event of the tenant has its key. -/

/-- A change is made if it stores an event. -/
def made (rt : Runtime) (s : State) (e : Event) : List MutateCall :=
  match e with
  | .mutate c => if s.database.events.rows.length < (step rt s e).database.events.rows.length then
      [c] else []
  | _ => []

/-- The system with the changes that were made. -/
def changeSystem (rt : Runtime) : System (State × List MutateCall) Event :=
  (system rt).recording (made rt)

structure MutateCall.Repeats (c c' : MutateCall) : Prop where
  callbackId : c.callbackId = c'.callbackId
  target : c.target = c'.target
  body : c.body = c'.body

def MutateCall.SharesKey (c c' : MutateCall) : Prop :=
  c.principal.tenant = c'.principal.tenant ∧ c.key = c'.key

/-- A change that is answered with success and writes nothing was made before. -/
def RepeatsOwn (rt : Runtime) (s : State × List MutateCall) (e : Event) : Prop :=
  ∀ c row, e = .mutate c → mutate rt c s.1.database = .ok (row, s.1.database) →
    ∃ c' ∈ s.2, c.SharesKey c' ∧ c.Repeats c'

def CallbackEvent.KeyedBy (stored : CallbackEvent) (c : MutateCall) : Prop :=
  stored.tenantId = c.principal.tenant ∧ stored.idempotencyKey = c.key

/-- If the caller may see the callback, no creation, no move of the scheduler and no other change
has taken the key in their tenant. -/
def OwnsKey (s : State × List MutateCall) (e : Event) : Prop :=
  ∀ c row, e = .mutate c → c.principal.tenantContext = .ok c.principal.rlsContext →
    load s.1.database c.principal.rlsContext c.callbackId c.principal = .ok row →
      ∀ stored ∈ s.1.database.events.rows, stored.KeyedBy c →
        stored.isChange = true ∧ ∀ c' ∈ s.2, c.SharesKey c' → c.Repeats c'

/-- The events of changes and the changes that were made belong to each other. -/
structure Logged (events : List CallbackEvent) (log : List MutateCall) : Prop where
  made : ∀ stored ∈ events, stored.isChange = true → ∃ c ∈ log, stored.KeyedBy c
  stored : ∀ c ∈ log, ∃ stored ∈ events, stored.isChange = true ∧ stored.KeyedBy c
  once : ∀ c ∈ log, ∀ c' ∈ log, c.SharesKey c' → c = c'

theorem CallbackEvent.Clash.symm (e e' : CallbackEvent) : e.Clash e' → e'.Clash e
  | .inl ⟨owner, version, type⟩ => .inl ⟨owner.symm, version.symm, type.symm⟩
  | .inr ⟨tenant, key⟩ => .inr ⟨tenant.symm, key.symm⟩

section

variable {events new : List CallbackEvent} {log : List MutateCall} {c : MutateCall}
  {db db' : Database}

theorem Logged.append (logged : Logged events log) (plain : ∀ e ∈ new, e.isChange = false) :
    Logged (events ++ new) log where
  made stored member change := by
    rcases mem_append.mp member with old | added
    · exact logged.made stored old change
    · simp [plain stored added] at change
  stored c member := by
    obtain ⟨stored, old, own⟩ := logged.stored c member
    exact ⟨stored, mem_append_left _ old, own⟩
  once := logged.once

theorem Logged.cons (logged : Logged events log) {e : CallbackEvent} (change : e.isChange = true)
    (own : e.KeyedBy c)
    (fresh : ∀ stored ∈ events, ¬ stored.KeyedBy c) : Logged (events ++ [e]) (c :: log) where
  made stored member changes := by
    rcases mem_append.mp member with old | added
    · obtain ⟨c', logged, own⟩ := logged.made stored old changes
      exact ⟨c', .tail _ logged, own⟩
    · exact ⟨c, .head _, mem_singleton.mp added ▸ own⟩
  stored := by
    refine forall_mem_cons.mpr ⟨⟨e, by simp, change, own⟩, fun c' member => ?_⟩
    obtain ⟨stored, old, own⟩ := logged.stored c' member
    exact ⟨stored, mem_append_left _ old, own⟩
  once := by
    have other : ∀ c' ∈ log, ¬ c.SharesKey c' := by
      intro c' member shared
      obtain ⟨stored, old, -, tenant, key⟩ := logged.stored c' member
      exact fresh stored old ⟨tenant.trans shared.1.symm, key.trans shared.2.symm⟩
    simp only [forall_mem_cons]
    refine ⟨⟨fun _ => trivial, fun c' member shared => absurd shared (other c' member)⟩, ?_⟩
    intro c' member
    exact ⟨fun shared => absurd ⟨shared.1.symm, shared.2.symm⟩ (other c' member),
      logged.once c' member⟩

theorem Mutated.events_length (mutated : Mutated rt c db row row' db') :
    db'.events.rows.length = db.events.rows.length + 1 := by
  rw [mutated.done.events_rows, length_append]
  rfl

theorem mutate_unchanged_iff : mutate rt c db = .ok (row, db) ↔ Replayed c db row := by
  rw [mutate_eq_ok_iff, and_iff_left rfl, or_iff_left]
  rintro ⟨_, mutated⟩
  have grown := mutated.events_length
  omega

theorem logged_stable (rt : Runtime) : (changeSystem rt).Stable fun s =>
    Logged s.1.database.events.rows s.2 := by
  rintro ⟨s, log⟩ e - logged
  have effect := step_effect rt s e
  simp only [changeSystem, System.recording, system, made] at logged ⊢
  generalize (step rt s e).database = db' at effect
  cases effect with
  | unchanged => cases e <;> simpa using logged
  | created _ _ _ _ _ _ done =>
    simp only [done.events_rows]
    exact logged.append (forall_mem_singleton.mpr rfl)
  | @changed c row row' _ mutated =>
    have fresh := (s.database.events.find?_eq_none_iff _).mp mutated.fresh
    have tenant := congrArg CallbackSpec.tenantId mutated.writes.spec
    have grown := mutated.events_length
    dsimp only
    rw [if_pos (by omega), mutated.done.events_rows]
    exact logged.cons (c.isChange_changeEvent row row')
      ⟨tenant.trans mutated.loaded.tenant, rfl⟩
      fun stored old own => of_decide_eq_false (fresh stored old) own
  | @moved _ m _ _ _ kind _ done =>
    simp only [done.events_rows]
    cases e with
    | mutate => cases kind
    | _ => exact logged.append (forall_mem_map.mpr fun r _ => by cases m <;> rfl)
  | reported _ _ done | reconciled done | delivered _ _ done =>
    simp only [done.events_rows]
    exact logged.append (forall_mem_nil _)

end

/-- Along every run of calls, a change that is answered without being made was made before exactly
if the keys of changes to callbacks that their callers may see were used for nothing else. -/
theorem replays_own_changes_iff (rt : Runtime) (clock : Int) (events : List Event) :
    (changeSystem rt).Along (RepeatsOwn rt) (.initial clock, []) events ↔
      (changeSystem rt).Along OwnsKey (.initial clock, []) events := by
  refine (logged_stable rt).along_iff (fun s e _ logged => ?_)
    ⟨by rintro _ ⟨⟩, by rintro _ ⟨⟩, by rintro _ ⟨⟩⟩
    (System.along_of_forall (fun _ _ => trivial) _ _)
  refine forall₃_congr fun c row _ => ?_
  rw [mutate_unchanged_iff]
  constructor
  · intro repeats context loads stored member keyed
    obtain ⟨c', made, shared, same⟩ := repeats ⟨context, loads, stored, member, keyed⟩
    obtain ⟨stored', member', change, own⟩ := logged.stored c' made
    -- The tenant has one event with the key.
    have one : stored' = stored :=
      s.1.database.events.eq_of_clash CallbackEvent.Clash.symm member' member
        (.inr ⟨own.1.trans (shared.1.symm.trans keyed.1.symm),
          own.2.trans (shared.2.symm.trans keyed.2.symm)⟩)
    refine ⟨one ▸ change, fun c'' made' shared' => ?_⟩
    rwa [logged.once c'' made' c' made ⟨shared'.1.symm.trans shared.1,
      shared'.2.symm.trans shared.2⟩]
  · intro owns replayed
    obtain ⟨stored, member, keyed⟩ := replayed.duplicate
    obtain ⟨change, others⟩ := owns replayed.context replayed.loads stored member keyed
    obtain ⟨c', made, own⟩ := logged.made stored member change
    have shared : c.SharesKey c' := ⟨keyed.1.symm.trans own.1, keyed.2.symm.trans own.2⟩
    exact ⟨c', made, shared, others c' made shared⟩

namespace Sample

def cancellation : MutateCall := changing (.state .cancelled) (noChange 1) "K2" 2

def logged : State × List MutateCall := (changeSystem runtime).after (.initial 0, [])
    [.create creation, .mutate update]

theorem eq_update (member : c ∈ logged.2) : c = update := by
  simp [logged, System.after, changeSystem, System.recording, made] at member
  exact member.2

end Sample

open Sample

theorem update_replays : (changeSystem runtime).Along (RepeatsOwn runtime) (.initial 0, [])
    [.create creation, .mutate update, .mutate update] := by
  refine (replays_own_changes_iff runtime 0 _).mpr ⟨by rintro c _ ⟨⟩, ?_, ?_, trivial⟩
  · have free : ∀ stored ∈ ((changeSystem runtime).after (.initial 0, [])
        [.create creation]).1.database.events.rows,
        stored.idempotencyKey ≠ update.key := by decide +kernel
    rintro c _ ⟨⟩ - - stored member keyed
    exact absurd keyed.2 (free stored member)
  · have changes : ∀ stored ∈ logged.1.database.events.rows, stored.idempotencyKey = update.key →
        stored.isChange = true := by
      decide +kernel
    rintro c _ ⟨⟩ - - stored member keyed
    refine ⟨changes stored member keyed.2, fun c' made _ => ?_⟩
    rw [eq_update made]
    exact ⟨rfl, rfl, rfl⟩

/-- The cancellation is answered with success, and the callback stays as it is. -/
theorem reused_key_answered : ¬ (changeSystem runtime).Along (RepeatsOwn runtime) (.initial 0, [])
    [.create creation, .mutate update, .mutate cancellation] := by
  have kept : (mutate runtime cancellation logged.1.database).toOption.map
      (fun answer => answer.2.events.rows.length) =
      some logged.1.database.events.rows.length := by decide +kernel
  rintro ⟨-, -, repeats, -⟩
  cases answer : mutate runtime cancellation logged.1.database with
  | error =>
    rw [answer] at kept
    cases kept
  | ok pair =>
    rcases mutate_eq_ok_iff.mp answer with ⟨-, same⟩ | ⟨row, mutated⟩
    · obtain ⟨c', member, -, again⟩ := repeats cancellation pair.1 rfl (same ▸ answer)
      rw [eq_update member] at again
      exact absurd again.target (by decide)
    · have grown := mutated.events_length
      rw [answer] at kept
      cases (some_inj.mp kept).symm.trans grown

end CodestraMiddleware.Callbacks
