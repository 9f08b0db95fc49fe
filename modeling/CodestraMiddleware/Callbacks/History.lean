import CodestraMiddleware.Callbacks.System

/-!
# The history of a callback

Five writers share the aggregate. `mutate` asks the table before it writes a state, the scheduler
does not, but selects only rows from whose state its own is one step away.
-/
namespace CodestraMiddleware.Callbacks

open Relational Raising Transition List Database CallbackState
open AiJobs (UUID)

variable {rt : Runtime}

/-! ## States and versions -/

/-- The three states agree, and the events have the versions from 1 to the current one. -/
def Recorded (db : Database) : Prop :=
  ∀ r ∈ db.records.rows, r.desiredState = r.state ∧ r.actualState = r.state ∧
    ((db.events.rows.filter fun e => decide (e.callbackId = r.id)).map (·.version)) =
    range' 1 r.version

theorem Consistent.recorded {db : Database} (consistent : Consistent db) : Recorded db := by
  intro r row
  have sound := consistent r.id
  have there : (db.aggregate r.id).record = some r := record?_of_mem row
  exact ⟨(sound.agree r there).1, (sound.agree r there).2, sound.numbered r there⟩

/-- Every callback stays, in the same state or one step of the table further, and a final state
stays. -/
def FollowsTable (db db' : Database) : Prop :=
  ∀ r ∈ db.records.rows, ∃ r' ∈ db'.records.rows, r'.id = r.id ∧
    (r'.state = r.state ∨ r'.state ∈ r.state.transitions) ∧
      (r.state ∈ terminal → r'.state = r.state)

theorem Effect.followsTable {db' : Database} (effect : Effect rt db e db') :
    FollowsTable db db' := by
  intro r row
  have there : (db.aggregate r.id).record = some r := record?_of_mem row
  obtain ⟨r', there', _, state⟩ := (aggregate_step effect r.id).follows there
  obtain ⟨row', id⟩ := record?_eq_some_iff.mp there'
  refine ⟨r', row', id, state, fun final => ?_⟩
  rcases state with same | step
  · exact same
  · rw [transitions_of_terminal final] at step
    cases step

/-- An event of the tenant has the key. -/
def MutateCall.KeyKnown (c : MutateCall) (db : Database) : Prop :=
  ∃ e ∈ db.events.rows, e.tenantId = c.principal.tenant ∧ e.idempotencyKey = c.key

/-- A change writes the next version of the row it was made for. -/
def Replaces (c : MutateCall) (row : CallbackRecord) (db db' : Database) : Prop :=
  ∃ before ∈ db.records.rows, before.id = c.callbackId ∧ before.version = c.body.expectedVersion ∧
    row ∈ db'.records.rows ∧ row.id = c.callbackId ∧ row.version = before.version + 1

/-- Only a change whose key is known succeeds without writing the next version, and then it writes
nothing. -/
theorem replaces_of_mutate {db' : Database} (ok : mutate rt c db = .ok (row, db'))
    (effective : ¬ c.KeyKnown db ∨ db' ≠ db) : Replaces c row db db' := by
  rcases mutate_eq_ok_iff.mp ok with ⟨replayed, same⟩ | ⟨before, mutated⟩
  · rcases effective with unknown | other
    · exact absurd replayed.duplicate unknown
    · exact absurd same other
  · have loaded := mutated.loaded
    have writes := mutated.writes
    refine ⟨before, loaded.found, loaded.id, writes.version, ?_, ?_, writes.next_version⟩
    · rw [mutated.done.records_rows]
      refine mem_append_left _ (mem_map.mpr ⟨before, loaded.found, ?_⟩)
      exact overwrite_of_spec writes.spec
    · rw [writes.spec, loaded.id]

/-! ## Blocked callbacks -/

/-- The step is no change to `SCHEDULED`, a target that no route passes. -/
def NotScheduling (e : Event) : Prop := ∀ c, e = .mutate c → c.target ≠ .state .scheduled

/-- A callback that failed its compliance check is blocked or cancelled. -/
def Aggregate.Inactive (a : Aggregate) : Prop :=
  ∀ r ∈ a.record, r.compliance.all = false → r.state = .blockedCompliance ∨ r.state = .cancelled

theorem Aggregate.Inactive.step {a' : Aggregate} (step : Aggregate.Step rt e a a')
    (elsewhere : NotScheduling e) (inactive : a.Inactive) : a'.Inactive := by
  have kept (record : a'.record = a.record) : a'.Inactive := by rwa [Aggregate.Inactive, record]
  cases step with
  | kept same => exact kept (by rw [same])
  | created c scheduled phone _ _ _ _ _ after =>
    intro r there failing
    rw [after] at there
    cases there
    exact .inl (if_neg (Bool.eq_false_iff.mp failing))
  | changed c row row' call before id change after =>
    intro r there failing
    rw [after] at there
    cases there
    have writes := (c.changed_eq_ok_iff row).mp change
    have old := inactive row before (by rwa [writes.spec] at failing)
    rcases MutateCall.effective_eq_ok.mp writes.state with ⟨_, target, allowed, same⟩ | ⟨-, same⟩
    · -- The table leads from these two states only back to `SCHEDULED` or to `CANCELLED`.
      rcases old with blocked | cancelled
      · rw [blocked] at allowed
        simp only [transitions, mem_cons, not_mem_nil, or_false] at allowed
        rcases allowed with rfl | rfl
        · exact absurd target (elsewhere c call)
        · exact .inr same
      · rw [cancelled] at allowed
        cases allowed
    · rw [same]
      exact old
  | moved m c row call before allowed after =>
    intro r there failing
    rw [after] at there
    cases there
    -- The scheduler takes no callback out of them.
    rcases inactive row before failing with blocked | cancelled
    · rw [blocked] at allowed
      cases m <;> simp [Move.state, transitions] at allowed
    · rw [cancelled] at allowed
      cases allowed
  | reported _ _ _ _ _ _ after | reconciled _ _ _ _ _ _ after | delivered _ _ _ _ _ _ _ after =>
    exact kept (by rw [after])

/-- No callback that failed its compliance check is due or in progress. -/
def BlockedStaysBlocked (db : Database) : Prop :=
  ∀ r ∈ db.records.rows, r.compliance.all = false → r.state ≠ .due ∧ r.state ≠ .inProgress

theorem blocked_along {events : List Event} (elsewhere : ∀ e ∈ events, NotScheduling e)
    (inactive : ∀ id, (s.database.aggregate id).Inactive) :
    (system rt).Always (fun s => BlockedStaysBlocked s.database) s events := by
  have now (s : State) (inactive : ∀ id, (s.database.aggregate id).Inactive) :
      BlockedStaysBlocked s.database := by
    intro r row failing
    have state := inactive r.id r (record?_of_mem row) failing
    rcases state with same | same <;> simp [same]
  induction events generalizing s with
  | nil => exact now s inactive
  | cons e events ih =>
    refine ⟨now s inactive, ih (fun e' later => elsewhere e' (mem_cons_of_mem e later))
      fun id => ?_⟩
    exact (inactive id).step (aggregate_step (step_effect rt s e) id) (elsewhere e mem_cons_self)

/-- The history of callbacks, over every interleaving of the transactions. -/
theorem callback_history (rt : Runtime) (clock : Int) (events : List Event) :
    (system rt).Always (fun s => Recorded s.database) (.initial clock) events ∧
    (system rt).Along (fun s e => FollowsTable s.database (step rt s e).database)
    (.initial clock) events ∧
    (system rt).Along (fun s e => ∀ c row db', e = .mutate c →
      mutate rt c s.database = .ok (row, db') →
      ¬ c.KeyKnown s.database ∨ db' ≠ s.database → Replaces c row s.database db')
    (.initial clock) events ∧ ((∀ e ∈ events, NotScheduling e) →
      (system rt).Always (fun s => BlockedStaysBlocked s.database) (.initial clock) events) := by
  refine ⟨?_, ?_, ?_, fun elsewhere => blocked_along elsewhere fun id r there => by cases there⟩
  · exact (consistent_stable rt).always (fun s consistent => consistent.recorded)
      (consistent_initial clock) (run_all rt _ events)
  · exact System.along_of_forall (fun s e => (step_effect rt s e).followsTable) _ events
  · exact System.along_of_forall (fun s e c row db' _ ok => replaces_of_mutate ok) _ events

namespace Sample

def blockedCreation : CreateCall :=
  { creation with body := { request with compliance := { passing with consent := false } } }

def update : MutateCall := changing .updated (noChange 0) "K2" 1

def updated : State := (system runtime).after (.initial 0) [.create creation, .mutate update]

def unblocked : List Event :=
  [.create blockedCreation, .mutate (changing (.state .scheduled) (noChange 0) "K2" 1),
    .claimDue (scheduling (minutes 120)) 100]

end Sample

open Sample in
/-- A replayed change succeeds although the version has gone on, and a target that no route has
would let a blocked callback become due. -/
theorem replay_and_foreign_target :
    (∃ row db', mutate runtime update updated.database = .ok (row, db') ∧
      ∃ before ∈ updated.database.records.rows, before.id = update.callbackId ∧
      before.version ≠ update.body.expectedVersion) ∧
    ∃ r ∈ ((system runtime).after (.initial 0) unblocked).database.records.rows,
    r.compliance.all = false ∧ r.state = .due := by
  have succeeds : (mutate runtime update updated.database).isOk = true := by decide +kernel
  have behind : (updated.database.records.rows.any fun r =>
      decide (r.id = update.callbackId ∧ r.version ≠ update.body.expectedVersion)) = true := by
    decide +kernel
  have due : (((system runtime).after (.initial 0) unblocked).database.records.rows.any fun r =>
      decide (r.compliance.all = false ∧ r.state = .due)) = true := by decide +kernel
  constructor
  · cases result : mutate runtime update updated.database with
    | error failure =>
      rw [result] at succeeds
      cases succeeds
    | ok answer =>
      obtain ⟨before, row, holds⟩ := any_eq_true.mp behind
      exact ⟨answer.1, answer.2, rfl, before, row, by simpa using holds⟩
  · obtain ⟨r, row, holds⟩ := any_eq_true.mp due
    exact ⟨r, row, by simpa using holds⟩

end CodestraMiddleware.Callbacks
