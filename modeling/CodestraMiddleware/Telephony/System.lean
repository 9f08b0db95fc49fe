import CodestraMiddleware.Foundations.Run
import CodestraMiddleware.Telephony.Worker
import Mathlib.Data.Fintype.Basic

/-!
# The journal under the API and the workers

The state is the database and what each worker is doing; an event is an API call or a step of a
worker. `Reacts` lists once what a step of a worker can do and under which conditions.
-/
namespace CodestraMiddleware.Telephony

open Relational Transition Database Constrained

variable (sha256 : String → String)

/-- What a worker can do in one event. -/
inductive Reacts (db : Database) (w : Worker) : WorkerEvent → Reaction → Prop where
  | rests {e} : Reacts db w e ⟨db, w, none⟩
  | claims {now environment locked owner row} (idle : w = .idle)
      (found : claimedRow? now environment locked db = some row) :
      Reacts db w (.claim now environment locked owner)
        ⟨db.updateCommand row.commandId (.claim now owner),
          .running ⟨row.commandId, owner⟩ false .claimed, some (.claimed row.commandId)⟩
  | escapes {now decision lease heartbeat} (running : w = .running lease heartbeat .claimed)
      (refused : ∀ row, db.command? lease.commandId = some row →
        row.request.forbidApplicationSelectedResources now ≠ .ok ()) :
      Reacts db w (.load now decision) ⟨db, .idle, none⟩
  | loads {now decision lease heartbeat command decision' operation}
      (running : w = .running lease heartbeat .claimed)
      (looked : operation = (db.operation? lease.commandId).map (·.operation)) :
      Reacts db w (.load now decision)
        ⟨db, .running lease false (.loaded command operation decision'),
          some (lookup lease.commandId db)⟩
  | resumes {now lease heartbeat command operation decision}
      (running : w = .running lease heartbeat (.loaded command (some operation) decision)) :
      Reacts db w (.call now) ⟨db, .running lease true (.readingBack operation), none⟩
  | denied {now lease heartbeat command decision message}
      (running : w = .running lease heartbeat (.loaded command none decision)) :
      Reacts db w (.call now) ⟨db, .running lease true (.failing (.clientError message)), none⟩
  | dispatches {now lease heartbeat command decision}
      (running : w = .running lease heartbeat (.loaded command none decision)) :
      Reacts db w (.call now)
        ⟨db, .running lease true (.dispatching command), some (.dispatched lease.commandId)⟩
  | answered {answer lease heartbeat command}
      (running : w = .running lease heartbeat (.dispatching command)) :
      Reacts db w (.answer answer) ⟨db, .running lease heartbeat (.dispatched command answer), none⟩
  | persists {now operationId lease heartbeat command answer row db'}
      (running : w = .running lease heartbeat (.dispatched command answer))
      (owned : ownedRow? lease db = some row) (absent : db.operation? row.commandId = none)
      (inserted : db.insertOperation? (answer.row sha256 operationId row.commandId command) =
        some db') :
      Reacts db w (.persist now operationId) ⟨db'.updateCommand row.commandId (.renew now),
          .running lease heartbeat (.readingBack answer.toOperationView),
          some (lookup row.commandId db)⟩
  | rejoins {now operationId lease heartbeat command answer row existing}
      (running : w = .running lease heartbeat (.dispatched command answer))
      (owned : ownedRow? lease db = some row)
      (present : db.operation? row.commandId = some existing) :
      Reacts db w (.persist now operationId) ⟨db.updateCommand row.commandId (.renew now),
          .running lease heartbeat (.readingBack answer.toOperationView),
          some (lookup row.commandId db)⟩
  -- An exception in the `try` block, before the operation was looked up or after.
  | stumbles {e exc lease heartbeat stage} (looked : Option UUID)
      (running : w = .running lease heartbeat stage) :
      Reacts db w e ⟨db, .running lease heartbeat (.failing exc), looked.map fun id => lookup id db⟩
  | readsBack {readback lease heartbeat operation}
      (running : w = .running lease heartbeat (.readingBack operation)) :
      Reacts db w (.readback readback) ⟨db,
        .running lease false (.readBack operation readback), none⟩
  | recordsFailure {now lease heartbeat exc row}
      (running : w = .running lease heartbeat (.failing exc))
      (owned : ownedRow? lease db = some row) : Reacts db w (.recordFailure now)
        ⟨db.updateCommand row.commandId (.fail now exc), .idle, none⟩
  | finalizes {now lease heartbeat view readback row operation}
      (running : w = .running lease heartbeat (.readBack view readback))
      (owned : ownedRow? lease db = some row)
      (found : db.operation? lease.commandId = some operation) : Reacts db w (.finalize now)
        ⟨(db.updateOperation operation.operationId (.finalize now readback)).updateCommand
          row.commandId (.finalize now readback), .idle, some (lookup lease.commandId db)⟩
  -- Without the lease, the failure is not recorded and the command is not finalized.
  | gaveUp {e lease heartbeat stage} (looked : Option UUID)
      (running : w = .running lease heartbeat stage) (conflict : ownedRow? lease db = none ∨
        (∃ view readback, stage = .readBack view readback) ∧ db.operation? lease.commandId = none) :
      Reacts db w e ⟨db, .idle, looked.map fun id => lookup id db⟩
  | renews {now lease stage row} (running : w = .running lease true stage)
      (owned : ownedRow? lease db = some row) :
      Reacts db w (.renew now) ⟨db.updateCommand row.commandId (.renew now),
        .running lease true stage, none⟩
  | stopsRenewing {now lease stage} (running : w = .running lease true stage) :
      Reacts db w (.renew now) ⟨db, .running lease false stage, none⟩
  | crashes : Reacts db w .crash ⟨db, .idle, none⟩

theorem loadCommand_reacts (now : Int) (decision : Option PolicyDecision) (db : Database)
    (lease : Lease) (heartbeat : Bool) : Reacts sha256 db (.running lease heartbeat .claimed)
    (.load now decision)
      ⟨db, (loadCommand now decision lease db).1, (loadCommand now decision lease db).2⟩ := by
  unfold loadCommand
  split
  next missing => exact .escapes rfl (by simp [missing])
  next row found =>
    split
    next message invalid => exact .escapes rfl (by simp [found, invalid])
    next valid => exact .loads rfl rfl

theorem persistSubmission_reacts (now : Int) (operationId : UUID) (db : Database) (lease : Lease)
    (heartbeat : Bool) (command : TelephonyCommandRequest) (answer : DispatchAnswer) :
    Reacts sha256 db (.running lease heartbeat (.dispatched command answer))
    (.persist now operationId)
      (match persistSubmission sha256 now operationId lease command answer db with
        | .error exc => ⟨db, .running lease heartbeat (.failing exc),
            (ownedRow? lease db).map fun row => lookup row.commandId db⟩
        | .ok db' => ⟨db', .running lease heartbeat (.readingBack answer.toOperationView),
            (ownedRow? lease db).map fun row => lookup row.commandId db⟩) := by
  unfold persistSubmission
  cases owned : ownedRow? lease db with
  | none => exact .stumbles none rfl
  | some row =>
    -- From here on the operation has been looked up, whatever comes of it.
    dsimp only [Option.map_some]
    cases present : db.operation? row.commandId with
    | some existing =>
      by_cases differs : existing.operationPublicId ≠ answer.operationPublicId
      · simp only [if_pos differs]
        exact .stumbles (some row.commandId) rfl
      · simp only [if_neg differs]
        exact .rejoins rfl owned present
    | none =>
      cases inserted : db.insertOperation?
          (answer.row sha256 operationId row.commandId command) with
      | none => exact .stumbles (some row.commandId) rfl
      | some db' => exact .persists rfl owned present inserted

theorem react_reacts (e : WorkerEvent) (w : Worker) (db : Database) :
    Reacts sha256 db w e (w.react sha256 e db) := by
  unfold Worker.react
  split
  next now environment locked owner =>
    unfold claimAuthorized
    cases found : claimedRow? now environment locked db with
    | none => exact .rests
    | some row => exact .claims rfl found
  next now decision lease heartbeat =>
    exact loadCommand_reacts sha256 now decision db lease heartbeat
  next now lease heartbeat command operation decision =>
    cases operation with
    | some => exact .resumes rfl
    | none =>
      cases policy : validatePolicyForDispatch sha256 now command decision with
      | some message => simpa [callAdapter, policy] using .denied rfl
      | none => simpa [callAdapter, policy] using .dispatches rfl
  next => exact .answered rfl
  next now operationId lease heartbeat command answer =>
    exact persistSubmission_reacts sha256 now operationId db lease heartbeat command answer
  next => exact .readsBack rfl
  next exc lease heartbeat stage =>
    split
    · exact .stumbles none rfl
    · exact .rests
  next now lease heartbeat exc =>
    unfold recordFailure
    cases owned : ownedRow? lease db with
    | none => exact .gaveUp none rfl (.inl owned)
    | some row => exact .recordsFailure rfl owned
  next now lease heartbeat view readback =>
    unfold finalizeCommand
    cases owned : ownedRow? lease db with
    | none => exact .gaveUp (some lease.commandId) rfl (.inl owned)
    | some row =>
      cases found : db.operation? lease.commandId with
      | none => exact .gaveUp (some lease.commandId) rfl (.inr ⟨⟨view, readback, rfl⟩, found⟩)
      | some => exact .finalizes rfl owned found
  next now lease stage =>
    unfold renewLease
    cases owned : ownedRow? lease db with
    | none => exact .stopsRenewing rfl
    | some row => exact .renews rfl owned
  next => exact .crashes
  next => exact .rests

structure State (ι : Type) where
  database : Database
  workers : ι → Worker
  -- What the workers did, newest first.
  log : List (ι × Trace)

inductive Event (ι : Type) where
  | api (call : ApiCall)
  | worker (i : ι) (e : WorkerEvent)

def State.initial (ι : Type) (db : Database) : State ι := ⟨db, fun _ => .idle, []⟩

variable {ι : Type} [DecidableEq ι]

def step (s : State ι) : Event ι → State ι
  | .api call => { s with database := (call.handle sha256 s.database).database s.database }
  | .worker i e =>
    let r := (s.workers i).react sha256 e s.database
    { database := r.database, workers := Function.update s.workers i r.worker,
      log := r.trace.toList.map (i, ·) ++ s.log }

section Step

variable (s : State ι) (i : ι) (e : WorkerEvent)

@[simp] theorem step_database : (step sha256 s (.worker i e)).database =
    ((s.workers i).react sha256 e s.database).database := rfl

@[simp] theorem step_workers_self : (step sha256 s (.worker i e)).workers i =
    ((s.workers i).react sha256 e s.database).worker :=
  Function.update_self i _ s.workers

theorem step_workers_ne (other : j ≠ i) : (step sha256 s (.worker i e)).workers j = s.workers j :=
  Function.update_of_ne other _ s.workers

theorem mem_step_log : (j, trace) ∈ (step sha256 s (.worker i e)).log ↔
    (j = i ∧ ((s.workers i).react sha256 e s.database).trace = some trace) ∨
    (j, trace) ∈ s.log := by
  simp only [step, List.mem_append, List.mem_map, Option.mem_toList, Prod.mk.injEq]
  constructor
  · rintro (⟨_, logged, rfl, rfl⟩ | old)
    · exact .inl ⟨rfl, logged⟩
    · exact .inr old
  · rintro (⟨rfl, logged⟩ | old)
    · exact .inl ⟨trace, logged, rfl, rfl⟩
    · exact .inr old

end Step

def journalSystem : System (State ι) (Event ι) where
  step := step sha256
  admits _ _ := True

theorem run_journalSystem (s : State ι) (es : List (Event ι)) : (journalSystem sha256).Run s es :=
  System.along_of_forall (fun _ _ => trivial) s es

/-- The events that are left when nobody interferes with the commands there are. -/
def Event.unattended : Event ι → Bool
  | .api (.createCommand _) => true
  | .api _ => false
  | .worker _ _ => true

def Worker.owner? : Worker → Option String
  | .idle => none
  | .running lease _ _ => some lease.owner

/-- `uuid4` gives a claim an owner token that no worker has. -/
def FreshOwner (s : State ι) : Event ι → Prop
  | .worker _ (.claim _ _ _ owner) => ∀ j, (s.workers j).owner? ≠ some owner
  | _ => True

/-- Commands are created and workers run. -/
def workerSystem : System (State ι) (Event ι) where
  step := step sha256
  admits s e := e.unattended = true ∧ FreshOwner s e

instance [Fintype ι] (s : State ι) (e : Event ι) : Decidable (FreshOwner s e) := by
  unfold FreshOwner
  split <;> infer_instance

instance [Fintype ι] (s : State ι) (es : List (Event ι)) :
    Decidable ((workerSystem sha256).Run s es) :=
  (workerSystem sha256).decidableAlong (fun (s : State ι) (e : Event ι) => e.unattended = true ∧
    FreshOwner s e) s es

/-- No command, operation or transition is lost, and the columns that are written once stay. -/
structure RecordsKept (db db' : Database) : Prop where
  commands : Keeps (·.toCommandSpec) db.commands db'.commands
  operations : Keeps (·.toOperationSpec) db.operations db'.operations
  transitions : Keeps id db.transitions db'.transitions

section RecordsKept

variable {db db' db'' : Database}

theorem RecordsKept.refl (db : Database) : RecordsKept db db := ⟨.refl _, .refl _, .refl _⟩

theorem RecordsKept.trans (first : RecordsKept db db') (second : RecordsKept db' db'') :
    RecordsKept db db'' :=
  ⟨first.commands.trans second.commands, first.operations.trans second.operations,
    first.transitions.trans second.transitions⟩

theorem RecordsKept.updateCommand (kept : RecordsKept db db') (id : UUID)
    (change : CommandProgress → CommandProgress) : RecordsKept db (db'.updateCommand id change) :=
  kept.trans ⟨.of_map (db'.rows_updateCommand id change)
    (TelephonyCommandJournal.advance_spec id change), .refl _, .refl _⟩

theorem RecordsKept.updateOperation (kept : RecordsKept db db') (id : UUID)
    (change : OperationProgress → OperationProgress) :
    RecordsKept db (db'.updateOperation id change) :=
  kept.trans ⟨.refl _, .of_map (db'.rows_updateOperation id change)
    (TelephonyOperationJournal.advance_spec id change), .refl _⟩

theorem RecordsKept.insertCommand (inserted : db.insertCommand? r = some db') :
    RecordsKept db db' := by
  obtain ⟨_, added, rfl⟩ := insertCommand?_eq_some.mp inserted
  exact ⟨.of_append (rows_insert? added), .refl _, .refl _⟩

theorem RecordsKept.insertOperation (inserted : db.insertOperation? o = some db') :
    RecordsKept db db' := by
  obtain ⟨_, added, rfl⟩ := insertOperation?_eq_some.mp inserted
  exact ⟨.refl _, .of_append (rows_insert? added), .refl _⟩

theorem RecordsKept.operation? (kept : RecordsKept db db')
    (found : db.operation? commandId = some o) :
    ∃ o', db'.operation? commandId = some o' ∧ o'.toOperationSpec = o.toOperationSpec := by
  obtain ⟨member, rfl⟩ := db.operation?_eq_some.mp found
  obtain ⟨o', member', same⟩ := kept.operations o member
  exact ⟨o', db'.operation?_eq_some.mpr ⟨member', congrArg OperationSpec.commandId same⟩, same⟩

theorem Calls.recordsKept (calls : Calls sha256 db call db') : RecordsKept db db' := by
  cases calls with
  | keeps => exact .refl db
  | creates _ _ inserted => exact .insertCommand inserted
  | cancels => exact (RecordsKept.refl db).updateCommand _ _
  | registers _ _ _ inserted =>
    exact (RecordsKept.insertOperation inserted).updateCommand _ _
  | transits _ _ inserted =>
    obtain ⟨transitions, added, rfl⟩ := insertTransition?_eq_some.mp inserted
    have kept : RecordsKept db { db with transitions := transitions } :=
      ⟨.refl _, .refl _, .of_append (rows_insert? added)⟩
    exact kept.updateOperation _ _
  | concludes _ _ _ inserted =>
    obtain ⟨results, -, rfl⟩ := insertResult?_eq_some.mp inserted
    have kept : RecordsKept db { db with results := results } := ⟨.refl _, .refl _, .refl _⟩
    exact kept.updateOperation _ _

theorem Reacts.recordsKept (reacts : Reacts sha256 db w e reaction) :
    RecordsKept db reaction.database := by
  cases reacts with
  | persists _ _ _ inserted =>
    exact (RecordsKept.insertOperation inserted).updateCommand _ _
  | finalizes => exact ((RecordsKept.refl db).updateOperation _ _).updateCommand _ _
  | claims | rejoins | recordsFailure | renews => exact (RecordsKept.refl db).updateCommand _ _
  | _ => exact .refl db

theorem step_recordsKept (s : State ι) (e : Event ι) :
    RecordsKept s.database (step sha256 s e).database := by
  cases e with
  | api call => exact (handle_calls sha256 s.database call).recordsKept
  | worker i e => exact (react_reacts sha256 e (s.workers i) s.database).recordsKept

theorem step_operation?_isSome (s : State ι) (e : Event ι)
    (present : (s.database.operation? commandId).isSome) :
    ((step sha256 s e).database.operation? commandId).isSome := by
  obtain ⟨o, found⟩ := Option.isSome_iff_exists.mp present
  obtain ⟨o', found', -⟩ := (step_recordsKept sha256 s e).operation? found
  exact Option.isSome_iff_exists.mpr ⟨o', found'⟩

end RecordsKept

/-- Where a row of `telephony_command_journal` after an event comes from. -/
inductive RowChange (s : State ι) : Event ι → TelephonyCommandJournal → Prop where
  | untouched {e r} (member : r ∈ s.database.commands.rows) : RowChange s e r
  | created {call body decision} (started : call.start = .ok (body, decision))
      (new : ∀ old ∈ s.database.commands.rows, old.commandId ≠ call.commandId) :
      RowChange s (.api (.createCommand call)) (call.row sha256 body decision)
  | cancelled {now commandPublicId r} (found :
      s.database.commandByPublicId? commandPublicId = some r)
      (cancellable : r.state.uncancellable = false) :
      RowChange s (.api (.cancelCommand now commandPublicId))
        { r with toCommandProgress := r.toCommandProgress.cancel now }
  | registered {now operationId body r} (found :
      s.database.commandByPublicId? body.commandPublicId = some r)
      (accepted : body.accepted sha256 operationId r s.database = true) :
      RowChange s (.api (.registerOperation now operationId body))
        { r with toCommandProgress := r.toCommandProgress.register now }
  | claimed {i now environment locked owner r} (idle : s.workers i = .idle)
      (found : claimedRow? now environment locked s.database = some r) :
      RowChange s (.worker i (.claim now environment locked owner))
        { r with toCommandProgress := r.toCommandProgress.claim now owner }
  | renewed {i e now lease heartbeat stage r}
      (running : s.workers i = .running lease heartbeat stage)
      (owned : ownedRow? lease s.database = some r)
      -- A renewal does not end the attempt, so the lease is still somebody's.
      (still : ∃ heartbeat stage, (step sha256 s (.worker i e)).workers i = .running lease
        heartbeat stage) :
      RowChange s (.worker i e) { r with toCommandProgress := r.toCommandProgress.renew now }
  | failed {i e now lease heartbeat exc r}
      (running : s.workers i = .running lease heartbeat (.failing exc))
      (owned : ownedRow? lease s.database = some r) :
      RowChange s (.worker i e) { r with toCommandProgress := r.toCommandProgress.fail now exc }
  | finalized {i e now lease heartbeat view readback r}
      (running : s.workers i = .running lease heartbeat (.readBack view readback))
      (owned : ownedRow? lease s.database = some r) : RowChange s (.worker i e)
        { r with toCommandProgress := r.toCommandProgress.finalize now readback }

section RowChange

variable {s : State ι} {r : TelephonyCommandJournal}

theorem RowChange.of_update {db : Database} (commands : db.commands = s.database.commands)
    (found : row ∈ s.database.commands.rows)
    (rewritten : RowChange sha256 s e
      { row with toCommandProgress := change row.toCommandProgress })
    (member : r ∈ (db.updateCommand row.commandId change).commands.rows) :
    RowChange sha256 s e r := by
  rcases db.mem_updateCommand row.commandId member with ⟨old, -⟩ | ⟨r', old, same, rfl⟩
  · rw [commands] at old
    exact .untouched old
  · rw [commands] at old
    -- Its identifier is that of the row found, so it is that row.
    rw [s.database.command_eq old found same]
    exact rewritten

theorem Calls.rowChange {db : Database} (calls : Calls sha256 s.database call db)
    (member : r ∈ db.commands.rows) : RowChange sha256 s (.api call) r := by
  cases calls with
  | keeps => exact .untouched member
  | creates started fresh inserted =>
    obtain ⟨_, added, rfl⟩ := insertCommand?_eq_some.mp inserted
    rcases (mem_insert? added).mp member with old | rfl
    · exact .untouched old
    · refine .created started ?_
      intro old listed same
      exact insert?_apart added old listed (.inl same)
  | cancels found cancellable =>
    exact .of_update sha256 rfl (s.database.commandByPublicId?_mem found)
      (.cancelled found cancellable) member
  | registers found bound unknown inserted =>
    have accepted := OperationRegistration.accepted_of_insert sha256 _ bound unknown inserted
    obtain ⟨_, -, rfl⟩ := insertOperation?_eq_some.mp inserted
    exact .of_update sha256 rfl (s.database.commandByPublicId?_mem found)
      (.registered found accepted) member
  | transits _ _ inserted =>
    obtain ⟨_, -, rfl⟩ := insertTransition?_eq_some.mp inserted
    exact .untouched member
  | concludes _ _ _ inserted =>
    obtain ⟨_, -, rfl⟩ := insertResult?_eq_some.mp inserted
    exact .untouched member

theorem Reacts.rowChange {e : WorkerEvent}
    (reacts : Reacts sha256 s.database (s.workers i) e reaction)
    (worker : (step sha256 s (.worker i e)).workers i = reaction.worker)
    (member : r ∈ reaction.database.commands.rows) : RowChange sha256 s (.worker i e) r := by
  cases reacts with
  | claims idle found =>
    exact .of_update sha256 rfl (claimedRow?_mem found).1 (.claimed idle found) member
  | persists running owned absent inserted =>
    obtain ⟨_, -, rfl⟩ := insertOperation?_eq_some.mp inserted
    exact .of_update sha256 rfl (ownedRow?_eq_some.mp owned).1
      (.renewed running owned ⟨_, _, worker⟩) member
  | rejoins running owned | renews running owned =>
    exact .of_update sha256 rfl (ownedRow?_eq_some.mp owned).1
      (.renewed running owned ⟨_, _, worker⟩) member
  | recordsFailure running owned =>
    exact .of_update sha256 rfl (ownedRow?_eq_some.mp owned).1 (.failed running owned) member
  | finalizes running owned =>
    exact .of_update sha256 rfl (ownedRow?_eq_some.mp owned).1 (.finalized running owned) member
  | _ => exact .untouched member

theorem step_rowChange (member : r ∈ (step sha256 s e).database.commands.rows) :
    RowChange sha256 s e r := by
  cases e with
  | api call => exact (handle_calls sha256 s.database call).rowChange sha256 member
  | worker i e =>
    exact (react_reacts sha256 e (s.workers i) s.database).rowChange sha256
      (step_workers_self sha256 s i e) member

end RowChange

end CodestraMiddleware.Telephony
