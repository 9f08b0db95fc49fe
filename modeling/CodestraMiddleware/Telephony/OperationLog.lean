import Mathlib.Data.List.Chain
import CodestraMiddleware.Telephony.FinalStates

/-!
# The log of an operation

`transition_operation` appends to an operation's log: the next number, from the current state, along
an edge of `_TRANSITIONS`. `create_terminal_result` writes the current state as well, with no edge
and no entry in the log.
-/
namespace CodestraMiddleware.Telephony

open Relational Transition List Database Constrained TelephonyOperationJournal

variable (sha256 : String → String)

def apiSystem : System Database ApiCall where
  step db call := (call.handle sha256 db).database db
  admits _ _ := True

section

variable (db : Database)

theorem run_apiSystem (calls : List ApiCall) : (apiSystem sha256).Run db calls :=
  System.along_of_forall (fun _ _ => trivial) db calls

def logOf (operationId : UUID) (db : Database) : List TelephonyOperationTransition :=
  db.transitions.rows.filter fun t => decide (t.operationId = operationId)

def loggedState (operationId : UUID) (db : Database) : OperationState :=
  ((logOf operationId db).getLast?.map (·.toState)).getD .registered

/-- The log is numbered from 1 to `transition_sequence`, its entries are edges, and the current
state is where it ends, unless a result wrote it. -/
structure LogSound (db : Database) (o : TelephonyOperationJournal) : Prop where
  sequences : (logOf o.operationId db).map (·.sequence) = range' 1 o.transitionSequence
  allowed : ∀ t ∈ logOf o.operationId db, ∃ state ∈ transitions t.fromState,
    t.toState = state.operation
  current : o.state = loggedState o.operationId db ∨
    ∃ r ∈ db.results.rows, r.operationId = o.operationId ∧ o.state = r.immutable.operationState

/-- Every transition starts where the one before it ended. -/
def Linked : Prop :=
  ∀ o ∈ db.operations.rows, (logOf o.operationId db).IsChain fun earlier later =>
    earlier.toState = later.fromState

/-- The call moves no operation out of `SUCCEEDED`, `FAILED` or `COMPENSATED`. -/
def KeepsCompleted (call : ApiCall) : Prop :=
  ∀ o ∈ db.operations.rows, o.state.completed = true →
    ∀ o' ∈ ((call.handle sha256 db).database db).operations.rows,
      o'.operationId = o.operationId → o'.state = o.state

instance : Decidable (Linked db) :=
  inferInstanceAs (Decidable (∀ o ∈ _, List.IsChain _ _))

instance (call : ApiCall) : Decidable (KeepsCompleted sha256 db call) :=
  inferInstanceAs (Decidable (∀ o ∈ _, _ → ∀ o' ∈ _, _ → _))

/-- A transition that is accepted leaves the state in which the log ends. -/
def LeavesLoggedState : ApiCall → Prop
  | .transitionOperation _ operationPublicId body =>
    ∀ row, db.operationByPublicId? operationPublicId = some row →
      body.accepted sha256 row db = true →
      ∀ last ∈ (logOf row.operationId db).getLast?, last.toState = row.state
  | _ => True

/-- A result that is accepted is about an operation that is not completed. -/
def SparesCompleted : ApiCall → Prop
  | .createTerminalResult body =>
    ∀ operation command, db.operationByPublicId? body.operationPublicId = some operation →
      db.commandByPublicId? body.commandPublicId = some command →
      body.accepted operation command db = true → operation.state.completed = false
  | _ => True

end

/-! ## What the calls do to a log -/

variable {db' : Database} {publicId p : String} {state : OperationState}
  {o : TelephonyOperationJournal} {call : ApiCall} {now : Int}

section Log

variable {db : Database}

theorem operationByPublicId?_mem (found : db.operationByPublicId? publicId = some o) :
    o ∈ db.operations.rows ∧ o.operationPublicId = publicId := by
  obtain ⟨member, same⟩ := find?_mem found
  exact ⟨member, of_decide_eq_true same⟩

theorem operation_eq_of_id (member : o ∈ db.operations.rows)
    (member' : o' ∈ db.operations.rows) (same : o.operationId = o'.operationId) : o = o' :=
  db.operations.eq_of_clash (fun _ _ clash => OperationSpec.Clash.symm clash) member
    member' (.inl same)

theorem logOf_insert (added : db.transitions.insert? t = some ts) (operationId : UUID) :
    logOf operationId { db with transitions := ts } =
      logOf operationId db ++ if t.operationId = operationId then [t] else [] := by
  simp only [logOf, rows_insert? added, filter_append]
  congr 1
  by_cases same : t.operationId = operationId <;> simp [same]

theorem LogSound.congr (sound : LogSound db o)
    (transitions : logOf o.operationId db' = logOf o.operationId db)
    (results : ∀ r ∈ db.results.rows, r ∈ db'.results.rows) : LogSound db' o where
  sequences := by rw [transitions, sound.sequences]
  allowed := transitions ▸ sound.allowed
  current := by
    rw [loggedState, transitions]
    rcases sound.current with logged | ⟨r, member, written⟩
    · exact .inl logged
    · exact .inr ⟨r, results r member, written⟩

/-- Every operation has a sound log, and every entry belongs to an operation. -/
structure LogRecord (db : Database) : Prop where
  sound : ∀ o ∈ db.operations.rows, LogSound db o
  owned : ∀ t ∈ db.transitions.rows, ∃ o ∈ db.operations.rows, o.operationId = t.operationId

theorem LogRecord.logOf_eq_nil (record : LogRecord db)
    (unused : ∀ o ∈ db.operations.rows, o.operationId ≠ operationId) :
    logOf operationId db = [] := by
  rw [logOf, filter_eq_nil_iff]
  intro t member same
  obtain ⟨o, listed, id⟩ := record.owned t member
  exact unused o listed (id.trans (of_decide_eq_true same))

theorem mem_updateOperation (member : row ∈ db.operations.rows)
    (updated : o' ∈ db.operations.rows.map (·.advance row.operationId change)) :
    (o' ∈ db.operations.rows ∧ o'.operationId ≠ row.operationId) ∨
      o' = { row with toOperationProgress := change row.toOperationProgress } := by
  obtain ⟨o, old, rfl⟩ := mem_map.mp updated
  by_cases same : o.operationId = row.operationId
  · rw [operation_eq_of_id old member same, advance, if_pos rfl]
    exact .inr rfl
  · rw [advance, if_neg same]
    exact .inl ⟨old, same⟩

theorem owned_of_kept (kept : RecordsKept db db')
    (owned : ∀ t ∈ db'.transitions.rows, ∃ o ∈ db.operations.rows, o.operationId = t.operationId) :
    ∀ t ∈ db'.transitions.rows, ∃ o ∈ db'.operations.rows, o.operationId = t.operationId := by
  intro t member
  obtain ⟨o, listed, id⟩ := owned t member
  obtain ⟨o', listed', same⟩ := kept.operations o listed
  exact ⟨o', listed', (congrArg OperationSpec.operationId same).trans id⟩

variable {sha256} {row : TelephonyOperationJournal} {body : OperationTransition}
  {ts : Constrained TelephonyOperationTransition.Clash}

section

variable (added : db.transitions.insert? (body.row row) = some ts)

include added

theorem logOf_transit :
    logOf row.operationId { db with transitions := ts } = logOf row.operationId db ++
    [body.row row] := by
  rw [logOf_insert added, OperationTransition.row, if_pos rfl]

theorem logOf_transit_ne (other : operationId ≠ row.operationId) :
    logOf operationId { db with transitions := ts } = logOf operationId db := by
  rw [logOf_insert added, OperationTransition.row, if_neg (Ne.symm other), append_nil]

end

theorem LogSound.transit (sound : LogSound db row) (accepted : body.accepted sha256 row db = true)
    (added : db.transitions.insert? (body.row row) = some ts) (now : Int) :
    LogSound { db with transitions := ts }
      { row with toOperationProgress := row.toOperationProgress.transit now body.binding } := by
  obtain ⟨-, -, next, allowed⟩ := (body.accepted_iff sha256).mp accepted
  have log := logOf_transit added
  constructor
  · -- The entry's number is the next one, and becomes the operation's sequence.
    rw [log, map_append, sound.sequences]
    change _ = range' 1 body.binding.transitionSequence
    rw [next, range'_1_concat, Nat.add_comm 1, ← next]
    rfl
  · intro t member
    rw [log, mem_append, mem_singleton] at member
    rcases member with old | rfl
    · exact sound.allowed t old
    · exact ⟨_, allowed, rfl⟩
  · left
    simp [loggedState, log, OperationProgress.transit, OperationTransition.row]

theorem transitionOperation_of_accepted (now : Int)
    (found : db.operationByPublicId? publicId = some row)
    (accepted : body.accepted sha256 row db = true) :
    ∃ ts, db.transitions.insert? (body.row row) = some ts ∧
      transitionOperation sha256 now publicId body db =
        .ok ({ db with transitions := ts }.updateOperation row.operationId
          (.transit now body.binding),
          .transitioned row.operationPublicId body.binding.state.operation .new) := by
  obtain ⟨bound, unknown, next, allowed⟩ := (body.accepted_iff sha256).mp accepted
  obtain ⟨db', inserted⟩ := body.insertTransition?_of_unknown unknown
  obtain ⟨ts, added, rfl⟩ := insertTransition?_eq_some.mp inserted
  refine ⟨ts, added, ?_⟩
  simp [transitionOperation, found, bound, unknown, next, allowed, inserted]

theorem Calls.logRecord (calls : Calls sha256 db call db') (record : LogRecord db) :
    LogRecord db' := by
  have kept := calls.recordsKept
  cases calls with
  | keeps => exact record
  | creates _ _ inserted =>
    obtain ⟨_, -, rfl⟩ := insertCommand?_eq_some.mp inserted
    exact ⟨fun o listed => (record.sound o listed).congr rfl fun _ => id, record.owned⟩
  | cancels =>
    exact ⟨fun o listed => (record.sound o listed).congr rfl fun _ => id, record.owned⟩
  | @registers now operationId _ command _ _ _ _ inserted =>
    obtain ⟨operations, added, rfl⟩ := insertOperation?_eq_some.mp inserted
    refine ⟨fun o listed => ?_, owned_of_kept kept record.owned⟩
    rcases (mem_insert? added).mp listed with old | rfl
    · exact (record.sound o old).congr rfl fun _ => id
    · -- The new operation's identifier is unused, so no entry can have it.
      have empty := record.logOf_eq_nil fun o listed same =>
        insert?_apart added o listed (.inl same)
      have log : logOf operationId (updateCommand { db with operations := operations }
        command.commandId (.register now)) = [] := empty
      constructor <;> simp [log, loggedState, OperationRegistration.row]
  | @transits now _ _ row _ found accepted inserted =>
    obtain ⟨_, added, rfl⟩ := insertTransition?_eq_some.mp inserted
    have member := (operationByPublicId?_mem found).1
    constructor
    · intro o listed
      rcases mem_updateOperation member listed with ⟨old, other⟩ | rfl
      · exact (record.sound o old).congr (logOf_transit_ne added other) fun _ => id
      · exact ((record.sound row member).transit accepted added now).congr rfl fun _ => id
    · apply owned_of_kept kept
      intro t listed
      rcases (mem_insert? added).mp listed with old | rfl
      · exact record.owned t old
      · exact ⟨row, member, rfl⟩
  | @concludes body operation _ _ found _ _ inserted =>
    obtain ⟨results, added, rfl⟩ := insertResult?_eq_some.mp inserted
    have member := (operationByPublicId?_mem found).1
    have more : ∀ r ∈ db.results.rows, r ∈ results.rows := fun r old =>
      (mem_insert? added).mpr (.inl old)
    refine ⟨fun o listed => ?_, owned_of_kept kept record.owned⟩
    rcases mem_updateOperation member listed with ⟨old, -⟩ | rfl
    · exact (record.sound o old).congr rfl more
    · -- The log is as before; the state is now the one that the result wrote.
      have sound : LogSound { db with results := results } operation :=
        (record.sound operation member).congr rfl more
      refine ⟨sound.sequences, sound.allowed, .inr ⟨body.row operation, ?_, rfl, rfl⟩⟩
      exact (mem_insert? added).mpr (.inr rfl)

theorem updateOperation_mem (member : row ∈ db.operations.rows)
    (change : OperationProgress → OperationProgress) :
    { row with toOperationProgress := change row.toOperationProgress } ∈
      (db.updateOperation row.operationId change).operations.rows := by
  apply mem_map.mpr ⟨row, member, ?_⟩
  rw [advance, if_pos rfl]

theorem linked_transit_iff (linked : Linked db) (member : row ∈ db.operations.rows)
    (added : db.transitions.insert? (body.row row) = some ts)
    (change : OperationProgress → OperationProgress) :
    Linked ({ db with transitions := ts }.updateOperation row.operationId change) ↔
      ∀ last ∈ (logOf row.operationId db).getLast?, last.toState = row.state := by
  have log := logOf_transit added
  constructor
  · intro after last ends
    have listed : _ ∈ (({ db with transitions := ts } : Database).updateOperation row.operationId
      change).operations.rows := updateOperation_mem member change
    have chain := after _ listed
    change (logOf row.operationId { db with transitions := ts }).IsChain _ at chain
    rw [log, isChain_append] at chain
    -- `from_state` is the operation's state, which the entry before need not have written.
    exact chain.2.2 last ends (body.row row) rfl
  · intro continues o listed
    rcases mem_updateOperation member listed with ⟨old, other⟩ | rfl
    · change (logOf o.operationId { db with transitions := ts }).IsChain _
      rw [logOf_transit_ne added other]
      exact linked o old
    · change (logOf row.operationId { db with transitions := ts }).IsChain _
      rw [log, isChain_append]
      refine ⟨linked row member, isChain_singleton _, ?_⟩
      intro last ends t first
      rw [head?_cons, Option.mem_some_iff] at first
      rw [← first]
      exact continues last ends

theorem linked_of_transitions_eq (record : LogRecord db) (linked : Linked db)
    (same : db'.transitions = db.transitions) : Linked db' := by
  intro o listed
  have log : logOf o.operationId db' = logOf o.operationId db := by rw [logOf, same, logOf]
  rw [log]
  by_cases known : ∃ old ∈ db.operations.rows, old.operationId = o.operationId
  · obtain ⟨old, member, id⟩ := known
    rw [← id]
    exact linked old member
  · rw [record.logOf_eq_nil fun old member id => known ⟨old, member, id⟩]
    exact isChain_nil

theorem linked_of_leaves (calls : Calls sha256 db call db') (record : LogRecord db)
    (linked : Linked db) (leaves : LeavesLoggedState sha256 db call) : Linked db' := by
  cases calls with
  | keeps => exact linked
  | creates _ _ inserted =>
    obtain ⟨_, -, rfl⟩ := insertCommand?_eq_some.mp inserted
    exact linked_of_transitions_eq record linked rfl
  | cancels => exact linked_of_transitions_eq record linked rfl
  | registers _ _ _ inserted =>
    obtain ⟨_, -, rfl⟩ := insertOperation?_eq_some.mp inserted
    exact linked_of_transitions_eq record linked rfl
  | transits found accepted inserted =>
    obtain ⟨_, added, rfl⟩ := insertTransition?_eq_some.mp inserted
    exact (linked_transit_iff linked (operationByPublicId?_mem found).1 added _).mpr
      (leaves _ found accepted)
  | concludes _ _ _ inserted =>
    obtain ⟨_, -, rfl⟩ := insertResult?_eq_some.mp inserted
    exact linked_of_transitions_eq record linked rfl

theorem linked_iff_leaves (record : LogRecord db) (linked : Linked db) (call : ApiCall) :
    Linked ((call.handle sha256 db).database db) ↔ LeavesLoggedState sha256 db call := by
  constructor
  · unfold LeavesLoggedState
    split
    next now publicId body =>
      intro after row found accepted
      obtain ⟨ts, added, answer⟩ := transitionOperation_of_accepted now found accepted
      simp only [ApiCall.handle, answer, Outcome.database] at after
      exact (linked_transit_iff linked (operationByPublicId?_mem found).1 added _).mp after
    next => exact fun _ => trivial
  · exact linked_of_leaves (handle_calls sha256 db call) record linked

/-! ## Completed operations -/

theorem transitions_of_completed (completed : state.completed = true) : transitions state = [] := by
  cases state <;> first | rfl | cases completed

theorem keepsCompleted_of_spares (spares : SparesCompleted db call) :
    KeepsCompleted sha256 db call := by
  have calls := handle_calls sha256 db call
  unfold KeepsCompleted
  generalize (call.handle sha256 db).database db = db' at calls ⊢
  intro o member completed o' listed same
  have unchanged : o' ∈ db.operations.rows → o'.state = o.state := fun old => by
    rw [operation_eq_of_id old member same]
  cases calls with
  | keeps | cancels => exact unchanged listed
  | creates _ _ inserted =>
    obtain ⟨_, -, rfl⟩ := insertCommand?_eq_some.mp inserted
    exact unchanged listed
  | registers _ _ _ inserted =>
    obtain ⟨_, added, rfl⟩ := insertOperation?_eq_some.mp inserted
    rcases (mem_insert? added).mp listed with old | rfl
    · exact unchanged old
    · exact absurd same.symm fun id => insert?_apart added o member (.inl id)
  | transits found accepted inserted =>
    obtain ⟨_, _, rfl⟩ := insertTransition?_eq_some.mp inserted
    rcases mem_updateOperation (operationByPublicId?_mem found).1 listed with ⟨old, -⟩ | rfl
    · exact unchanged old
    · -- `_TRANSITIONS` has no edge out of the state it is in.
      obtain ⟨-, -, -, allowed⟩ := (OperationTransition.accepted_iff sha256 _).mp accepted
      rw [operation_eq_of_id (operationByPublicId?_mem found).1 member same,
        transitions_of_completed completed] at allowed
      cases allowed
  | concludes found commanded accepted inserted =>
    obtain ⟨_, -, rfl⟩ := insertResult?_eq_some.mp inserted
    rcases mem_updateOperation (operationByPublicId?_mem found).1 listed with ⟨old, -⟩ | rfl
    · exact unchanged old
    · have pending := spares _ _ found commanded accepted
      rw [operation_eq_of_id (operationByPublicId?_mem found).1 member same, completed] at pending
      cases pending

theorem keepsCompleted_iff_spares (call : ApiCall) : KeepsCompleted sha256 db call ↔
    SparesCompleted db call := by
  constructor
  · intro keeps
    unfold SparesCompleted
    split
    next body =>
      intro operation command found commanded accepted
      by_contra completed
      rw [Bool.not_eq_false] at completed
      obtain ⟨unknown, bound, db', inserted⟩ := body.accepted_iff.mp accepted
      -- The result is accepted, and what it writes is no completed state.
      have answer : createTerminalResult body db =
          .ok (db'.updateOperation operation.operationId (.conclude body.operationState),
            (body.row operation).view .new) := by
        simp [createTerminalResult, unknown, found, commanded, bound, inserted]
      have member := (operationByPublicId?_mem found).1
      obtain ⟨_, -, rfl⟩ := insertResult?_eq_some.mp inserted
      have state := keeps operation member completed
        { operation with
          toOperationProgress := operation.toOperationProgress.conclude body.operationState }
        (by
          simp only [ApiCall.handle, answer, Outcome.database]
          exact updateOperation_mem member _) rfl
      change body.operationState = operation.state at state
      rw [← state, TerminalResultRequest.operationState] at completed
      split at completed <;> cases completed
    next => trivial
  · exact keepsCompleted_of_spares

/-! ## Repeated transitions -/

theorem transitionOperation_new
    (answer : transitionOperation sha256 now publicId body db =
      .ok (db', .transitioned p state .new)) :
    ∃ row, db.operationByPublicId? publicId = some row ∧ body.bound sha256 row db = true ∧
      body.row row ∈ db'.transitions.rows ∧ p = row.operationPublicId ∧
      state = body.binding.state.operation := by
  unfold transitionOperation at answer
  split at answer
  · cases answer
  next row found =>
    split at answer
    · cases answer
    next bound =>
      split at answer
      next prior known =>
        split at answer <;> cases answer
      next unknown =>
        split at answer
        · cases answer
        next =>
          split at answer
          · cases answer
          next =>
            split at answer
            · cases answer
            next db₁ inserted =>
              obtain ⟨ts, added, rfl⟩ := insertTransition?_eq_some.mp inserted
              cases answer
              refine ⟨row, found, by simpa using bound, ?_, rfl, rfl⟩
              exact (mem_insert? added).mpr (.inr rfl)

theorem bound_of_kept (kept : RecordsKept db db')
    (same : row'.toOperationSpec = row.toOperationSpec)
    (bound : body.bound sha256 row db = true) : body.bound sha256 row' db' = true := by
  simp only [OperationTransition.bound, Option.any_eq_true] at bound ⊢
  obtain ⟨command, found, agrees⟩ := bound
  obtain ⟨member, id⟩ := db.command?_eq_some.mp found
  obtain ⟨command', member', sameCommand⟩ := kept.commands command member
  refine ⟨command', db'.command?_eq_some.mpr ⟨member', ?_⟩, ?_⟩
  · rw [same, ← id]
    exact congrArg CommandSpec.commandId sameCommand
  · have spec : command'.toCommandSpec = command.toCommandSpec := sameCommand
    rw [same, spec]
    exact agrees

theorem prior?_of_mem (member : body.row row ∈ db.transitions.rows)
    (same : row'.operationId = row.operationId) : body.prior? row' db = some (body.row row) := by
  cases found : body.prior? row' db with
  | none =>
    rw [OperationTransition.prior?, find?_eq_none_iff] at found
    exact absurd ⟨same.symm, .inl rfl⟩ (of_decide_eq_false (found _ member))
  | some prior =>
    -- Whichever of the two columns agrees, it is the same entry.
    obtain ⟨listed, agrees⟩ := find?_mem found
    obtain ⟨owner, matching⟩ := of_decide_eq_true agrees
    rw [db.transitions.eq_of_clash (fun _ _ clash => clash.symm) listed member
      ⟨owner.trans same, matching⟩]

theorem operationByPublicId?_of_kept (kept : RecordsKept db db')
    (found : db.operationByPublicId? publicId = some row) :
    ∃ row', db'.operationByPublicId? publicId = some row' ∧
    row'.toOperationSpec = row.toOperationSpec := by
  obtain ⟨member, rfl⟩ := operationByPublicId?_mem found
  obtain ⟨row', member', same⟩ := kept.operations row member
  refine ⟨row', ?_, same⟩
  apply (find?_eq_some_iff _ (fun _ _ clash => OperationSpec.Clash.symm clash)
    (fun o o' one two => ?_) row').mpr ⟨member',
    decide_eq_true (congrArg OperationSpec.operationPublicId same)⟩
  exact .inr (.inl ((of_decide_eq_true one).trans (of_decide_eq_true two).symm))

/-- A transition that was recorded changes nothing later on, and is answered with its own state. -/
theorem transitionOperation_again
    (answer : transitionOperation sha256 now publicId body db =
      .ok (db', .transitioned p state .new))
    (later : RecordsKept db' db'') (now' : Int) :
    transitionOperation sha256 now' publicId body db'' =
      .ok (db'', .transitioned p state .duplicate) := by
  have call := transitionOperation_calls sha256 db now publicId body
  rw [answer] at call
  -- The operation, its command and the entry are all still there, with what the checks compare.
  have start : RecordsKept db db'' := call.recordsKept.trans later
  obtain ⟨row, found, bound, entry, rfl, rfl⟩ := transitionOperation_new answer
  obtain ⟨row', found', same⟩ := operationByPublicId?_of_kept start found
  obtain ⟨_, listed, rfl⟩ := later.transitions _ entry
  have known := prior?_of_mem listed (congrArg OperationSpec.operationId same)
  have publicId : row'.operationPublicId = row.operationPublicId :=
    congrArg OperationSpec.operationPublicId same
  simp only [transitionOperation, found', bound_of_kept start same bound, known, publicId]
  simp [OperationTransition.row]

end Log

/-- Along the run the log of every operation is a path to its state. -/
structure OperationLogValid (start : Database) (calls : List ApiCall) : Prop where
  sound : (apiSystem sha256).Always (fun db => ∀ o ∈ db.operations.rows, LogSound db o) start calls
  linked : (apiSystem sha256).Always Linked start calls
  completed : (apiSystem sha256).Along (KeepsCompleted sha256) start calls
  /-- A transition that comes again changes nothing and returns the state it produced. -/
  redelivered : ∀ before now publicId body later db' p state,
    calls = before ++ .transitionOperation now publicId body :: later →
    transitionOperation sha256 now publicId body ((apiSystem sha256).after start before) =
      .ok (db', .transitioned p state .new) →
    ∀ now', transitionOperation sha256 now' publicId body ((apiSystem sha256).after start calls) =
      .ok ((apiSystem sha256).after start calls, .transitioned p state .duplicate)

theorem logRecord_stable : (apiSystem sha256).Stable LogRecord := fun db call _ record =>
  (handle_calls sha256 db call).logRecord record

theorem transition_redelivered
    (answer : transitionOperation sha256 now publicId body ((apiSystem sha256).after start before) =
      .ok (db', .transitioned p state .new)) (later : List ApiCall) (now' : Int) :
    let last := (apiSystem sha256).after start
      (before ++ .transitionOperation now publicId body :: later)
    transitionOperation sha256 now' publicId body last =
      .ok (last, .transitioned p state .duplicate) := by
  intro last
  have reached : last = (apiSystem sha256).after db' later := by
    calc last = (apiSystem sha256).after ((apiSystem sha256).after start before)
          (.transitionOperation now publicId body :: later) := System.after_append _ _ _ _
      _ = (apiSystem sha256).after ((transitionOperation sha256 now publicId body
          ((apiSystem sha256).after start before)).database _) later := rfl
      _ = (apiSystem sha256).after db' later := by
        rw [answer]
        rfl
  apply transitionOperation_again answer _ now'
  rw [reached]
  exact System.after_related .refl (fun _ _ _ => .trans)
    (fun db call => (handle_calls sha256 db call).recordsKept) db' later

/-- The logs are as expected in exactly those runs in which every transition leaves the state in
which its log ends, and no result is accepted for a completed operation. -/
theorem operation_log_valid_iff (commands : Constrained TelephonyCommandJournal.Clash)
    (calls : List ApiCall) :
    OperationLogValid sha256 { Database.empty with commands := commands } calls ↔
    (apiSystem sha256).Along
        (fun db call => LeavesLoggedState sha256 db call ∧ SparesCompleted db call)
        { Database.empty with commands := commands } calls := by
  have start : LogRecord { Database.empty with commands := commands } := by
    constructor <;> (intro _ member; cases member)
  have linked : Linked { Database.empty with commands := commands } := by
    intro _ member
    cases member
  have run := run_apiSystem sha256 { Database.empty with commands := commands } calls
  have stable := logRecord_stable sha256
  rw [System.along_and, ← stable.always_iff
    (fun _ call _ record good => linked_iff_leaves record good call) start linked run,
    ← stable.along_iff (fun _ call _ _ => keepsCompleted_iff_spares call) start run]
  constructor
  · intro valid
    exact ⟨valid.linked, valid.completed⟩
  · rintro ⟨linked, completed⟩
    refine ⟨stable.always (fun _ record => record.sound) start run, linked, completed, ?_⟩
    rintro before now publicId body later db' p state rfl answer now'
    exact transition_redelivered sha256 answer later now'

/-! ## Results that come at the wrong time -/

namespace Sample

def transition (n : Nat) (state : TransitionState) (hash : String) : OperationTransition where
  binding := {
    commandPublicId := "CMD-66a49d9e28b1a46f32641f2a97e2a41f"
    state := state
    targetSystem := .asterisk
    targetResourceType := "ENDPOINT"
    targetPublicId := "EPT-100"
    desiredStateVersion := 1
    adapterServiceKey := "codestra-telephony-adapter-staging"
    environment := .staging
    correlationId := "COR-00000001"
    transitionSequence := n
    occurredAt := ⟨"2026-01-01T00:00:03Z", newYear + seconds 3, true⟩ }
  transitionHash := hash

def failing : OperationTransition :=
  transition 1 .failed "332572c265f449ddce82f4bf14703643705feb4da21e259543738d9600d4efff"

def applying : OperationTransition :=
  transition 1 .applying "0c5dce6e2b88f86d8f4bea586f777428dc68a06d97435506f8e43cfa408911d3"

def failingNext : OperationTransition :=
  transition 2 .failed "999f23599dba38e5c9b282faf754999c386b561c02fb9d37feb97357156bbca1"

def logSha256 (text : String) : String :=
  match [failing, applying, failingNext].find? (·.binding.json.dumps = text) with
  | some body => body.transitionHash
  | none => Sample.sha256 text

def terminalResult (readback : ReadbackStatus) : TerminalResultRequest where
  resultPublicId := "RES-100"
  operationPublicId := "OPR-100"
  commandPublicId := "CMD-66a49d9e28b1a46f32641f2a97e2a41f"
  targetSystem := .asterisk
  targetResourceType := "ENDPOINT"
  targetPublicId := "EPT-100"
  applicationStatus := .applied
  readbackStatus := readback
  requestedStateVersion := 1
  appliedStateVersion := 1
  observedStateVersion := 1
  resultHash := "1111111111111111111111111111111111111111111111111111111111111111"
  applicationHash := "2222222222222222222222222222222222222222222222222222222222222222"
  readbackHash := "3333333333333333333333333333333333333333333333333333333333333333"
  adapterServiceKey := "codestra-telephony-adapter-staging"
  adapterConfigurationChecksum :=
    "sha256:aaaaaaaaaaaaaaaaaaaaaaaaaaaaaaaaaaaaaaaaaaaaaaaaaaaaaaaaaaaaaaaa"
  appliedAt := ⟨"2026-01-01T00:00:03Z", newYear + seconds 3, true⟩
  readbackAt := ⟨"2026-01-01T00:00:04Z", newYear + seconds 4, true⟩
  safeSummary := "Synthetic endpoint applied and verified."
  policyHash := "178182048daadd579d3460a30b506d4747b9a5c10c3ef00f903a6a9c80617ba1"
  correlationId := "COR-00000001"

def registered : List ApiCall :=
  [.createCommand ⟨newYear, 1, "IDM-00000001", command 1, some (decision true)⟩,
  .registerOperation (newYear + seconds 2) 2 registration]

def transit (body : OperationTransition) : ApiCall :=
  .transitionOperation (newYear + seconds 5) "OPR-100" body

end Sample

open Sample

/-- A verified result reopens an operation that had failed. After a result with a mismatch the next
entry starts in `READBACK_MISMATCH`, where the log had ended in `APPLYING`. -/
theorem operation_log_broken : ¬ (apiSystem logSha256).Along (KeepsCompleted logSha256) empty
      (registered ++ [transit failing, .createTerminalResult (terminalResult .readbackVerified)]) ∧
    ¬ Linked ((apiSystem logSha256).after empty (registered ++ [transit applying,
        .createTerminalResult (terminalResult .readbackMismatch), transit failingNext])) := by
  constructor <;> decide +kernel

end CodestraMiddleware.Telephony
