import CodestraMiddleware.N8n.System

/-!
# What a step does to an execution

Every step moves the row of an execution in one of the ways that `Moved` lists.
-/
namespace CodestraMiddleware.N8n

open Relational Constrained PythonValue Transition Option Execution

variable (rt : Runtime)

def fresh (db : Database) (x : Execution) : Option Execution :=
  if (db.executions.insert? x).isSome then some x else none

def creates (db : Database) : Event → Option Execution
  | .dispatch body registries executionId now =>
    if rt.n8nRuntimeEnabled = false then none
    else
      match body.approved registries with
      | none => none
      | some registry =>
        match body.existing rt registry db with
        | some _ => none
        | none => fresh db (body.execution rt registry executionId now)
  | .stageClaimedDelivery row registries executionId now =>
    match db.mappings.find? row.id with
    | some _ => none
    | none =>
      match row.route rt db registries with
      | .error _ => none
      | .ok (event, tenantId, registry) =>
        fresh db (event.execution rt tenantId registry executionId now)
  | _ => none

def reports (db : Database) : Event → Option (Execution × ResultStatus)
  | .resultCallback q _ =>
    match q.admitted db with
    | .error _ => none
    | .ok (x, body) =>
      if (x.executionId, rt.resultHash body) ∈ db.results then none
      else if rt.isTestSynOdooExecution x = true ∧ rt.approvedRuntimeBinding x body = none then none
      else some (x, body.status)
  | _ => none

def recovers (e : Event) (x : Execution) : Bool :=
  match e with
  | .recoverStaleDispatches leaseSeconds now =>
    !(decide (leaseSeconds < 10) || decide (leaseSeconds > 600)) && x.stale leaseSeconds now
  | _ => false

def claimedBy (db : Database) : Event → List UUID
  | .claim locked limit now =>
    match claim db locked limit now with
    | .ok (_, rows) => rows.map (·.executionId)
    | .error _ => []
  | _ => []

/-- What a step can do to the row of an execution. -/
inductive Moved (db : Database) (e : Event) : Option Execution → Option Execution → Prop
  | kept (row : Option Execution) : Moved db e row row
  | created {x : Execution} (new : creates rt db e = some x) : Moved db e none (some x)
  | claimed {x x' : Execution} (waiting : x.status.waiting = true)
      (status : x'.status = .dispatching)
      (claimed : x.executionId ∈ claimedBy db e) (counted : x'.attemptCount = x.attemptCount + 1) :
      Moved db e (some x) (some x')
  | ended {x x' : Execution} (before : x.status.terminal = false)
      (status : x'.status = .timedOut ∨ x'.status = .deadLetter)
      (counted : x'.attemptCount = x.attemptCount) : Moved db e (some x) (some x')
  | submitted {x x' : Execution} (before : x.status = .dispatching) (status : x'.status = .running)
      (counted : x'.attemptCount = x.attemptCount) : Moved db e (some x) (some x')
  | failed {x x' : Execution} (before : x.status = .dispatching) (status : x'.status = .retry)
      (counted : x'.attemptCount = x.attemptCount)
      (left : (x.attemptCount : Int) < rt.maxAttempts) : Moved db e (some x) (some x')
  | recovered {x x' : Execution} (stale : recovers e x = true) (status : x'.status = .retry)
      (counted : x'.attemptCount = x.attemptCount) : Moved db e (some x) (some x')
  | reported {x x' : Execution} {status : ResultStatus}
      (result : reports rt db e = some (x, status))
      (reported : x'.status = status.mapped) (counted : x'.attemptCount = x.attemptCount) :
      Moved db e (some x) (some x')

/-- What a result does: nothing, or its nonce is used up, or it is written. -/
inductive Answered (db : Database) (q : Callback) (now : Int) : Database → Prop
  | refused (none : reports rt db (.resultCallback q now) = none) : Answered db q now db
  | repeated (none : reports rt db (.resultCallback q now) = none) :
      Answered db q now { db with nonces := (q.identity, q.nonce) :: db.nonces }
  | written {x : Execution} {body : ResultContract} (admitted : q.admitted db = .ok (x, body))
      (result : reports rt db (.resultCallback q now) = some (x, body.status)) :
      Answered db q now { db with
        nonces := (q.identity, q.nonce) :: db.nonces,
        executions := db.executions.save (x.report q body now),
        results := (x.executionId, rt.resultHash body) :: db.results,
        deliveries := db.settled x.executionId body.status.mapped }

/-- What a worker does with a claimed row: its delivery is mapped already, ends,
or is mapped now. -/
inductive Staged (db : Database) (row : Row) (e : Event) : Database → Prop
  | again {m : Mapping} (mapped : db.mappings.find? row.id = some m)
      (none : creates rt db e = none) : Staged db row e (db.stage row.id .none)
  | refused (errorCode : String) (unmapped : db.mappings.find? row.id = none)
      (none : creates rt db e = none) : Staged db row e (terminalFailure db row.id errorCode)
  | conflict (unmapped : db.mappings.find? row.id = none) (none : creates rt db e = none) :
      Staged db row e db
  | mapped {x : Execution} {executions : Constrained (Shares keys)}
      {mappings : Table Mapping.deliveryId} (new : creates rt db e = some x)
      (inserted : db.executions.insert? x = some executions)
      (mapped : db.mappings.insert? ⟨row.id, x.executionId⟩ = some mappings) :
      Staged db row e { db.stage row.id (some (row.attempts + 1)) with executions, mappings }

variable {rt} {db : Database}

/-! ## The functions of the runtime -/

variable {x : Execution}

theorem executionId_of_execution {id : UUID} (stored : db.executions.lookup id = some x) :
    x.executionId = id :=
  (lookup_eq_some_iff.mp stored).2

theorem dispatch_spec (body : DispatchRequest) (registries : List Registry) (executionId : UUID)
    (now : Int) : committed db (dispatch rt db body registries executionId now) =
      match creates rt db (.dispatch body registries executionId now) with
      | none => db
      | some x => { db with executions := (db.executions.insert? x).getD db.executions } := by
  simp only [dispatch, creates, fresh]
  split
  next => rfl
  next =>
    cases body.approved registries with
    | none => rfl
    | some registry =>
      cases found : body.existing rt registry db with
      | some existing =>
        simp only [found]
        split <;> rfl
      | none =>
        simp only [found]
        cases inserted : db.executions.insert? (body.execution rt registry executionId now) with
        | none => rfl
        | some => simp [inserted, committed]

variable {e : Event}

section

variable (new : creates rt db e = some x)

include new

theorem creates_fresh : ∃ executions, db.executions.insert? x = some executions := by
  have of_fresh {y : Execution} (new : fresh db y = some x) :
      ∃ executions, db.executions.insert? x = some executions := by
    unfold fresh at new
    split at new
    next inserted =>
      cases new
      exact isSome_iff_exists.mp inserted
    next => cases new
  unfold creates at new
  repeat' split at new
  all_goals first | cases new | exact of_fresh new

theorem creates_pending : x.status = .pending ∧ x.attemptCount = 0 := by
  unfold creates fresh at new
  repeat' split at new
  all_goals cases new
  all_goals exact ⟨rfl, rfl⟩

theorem moved_insert (id : UUID) :
    Moved rt db e (db.executions.lookup id)
    (((db.executions.insert? x).getD db.executions).lookup id) := by
  obtain ⟨executions, inserted⟩ := creates_fresh new
  rw [inserted, getD_some, lookup_insert? inserted]
  split
  next here =>
    have absent : db.executions.lookup id = none := by
      rw [lookup_eq_none_iff]
      intro old member same
      exact insert?_apart inserted old member (.inl (same.trans here.symm))
    rw [absent]
    exact .created new
  next => exact .kept _

end

variable {now : Int}

theorem mem_claimable (member : x ∈ claimable db locked limit now) :
    db.executions.lookup x.executionId = some x ∧ x.status.waiting = true := by
  obtain ⟨row, qualifies⟩ := mem_of_mem_taken member
  simp only [due, Bool.and_eq_true] at qualifies
  exact ⟨lookup_eq_some_iff.mpr ⟨row, rfl⟩, qualifies.1.1⟩

theorem claimedBy_claim (bounds : ¬(limit < 1 ∨ limit > 25)) :
    claimedBy db (.claim locked limit now) =
      ((claimable db locked limit now).filter fun x => decide (¬x.timeoutAt ≤ now)).map
      (·.executionId) := by
  have id (x : Execution) : (x.claimed now).executionId = x.executionId :=
    congrArg Prod.fst (x.keys_claimed now)
  have kept (x : Execution) : decide ((x.claimed now).status = .dispatching) = decide
      (¬x.timeoutAt ≤ now) := by
    unfold claimed
    split
    next late => simp [late]
    next timely => simp [timely]
  simp only [claimedBy, claim, if_neg bounds, List.filter_map, List.map_map,
    Function.comp_def, id, kept]

theorem moved_claim (locked : List UUID) (limit now : Int) (id : UUID) :
    Moved rt db (.claim locked limit now) (db.executions.lookup id)
      ((committed db (claim db locked limit now)).executions.lookup id) := by
  by_cases bounds : limit < 1 ∨ limit > 25
  · rw [claim, if_pos bounds]
    exact .kept _
  rw [claim, if_neg bounds, committed, lookup_updateWhere]
  refine related_update .kept fun x stored chosen => ?_
  obtain ⟨y, row, same⟩ := List.mem_map.mp (of_decide_eq_true chosen)
  obtain ⟨found, waiting⟩ := mem_claimable row
  have equal : y = x := by
    rw [same, executionId_of_execution stored] at found
    exact some.inj (found.symm.trans stored)
  subst equal
  rw [claimed]
  split
  next =>
    have open_ : y.status.terminal = false := by
      cases status : y.status <;> simp_all [ExecutionStatus.waiting, ExecutionStatus.terminal]
    exact .ended open_ (.inl rfl) rfl
  next late =>
    refine .claimed waiting rfl ?_ rfl
    rw [claimedBy_claim bounds]
    exact List.mem_map_of_mem (List.mem_filter.mpr ⟨row, decide_eq_true late⟩)

theorem moved_recoverStaleDispatches (leaseSeconds now : Int) (id : UUID) :
    Moved rt db (.recoverStaleDispatches leaseSeconds now) (db.executions.lookup id)
      ((committed db (recoverStaleDispatches db leaseSeconds now)).executions.lookup id) := by
  by_cases bounds : leaseSeconds < 10 ∨ leaseSeconds > 600
  · rw [recoverStaleDispatches, if_pos bounds]
    exact .kept _
  rw [recoverStaleDispatches, if_neg bounds, committed, lookup_updateWhere]
  refine related_update .kept fun x _ stale => .recovered ?_ rfl rfl
  simpa [recovers, stale] using bounds

theorem moved_expireRunning (e : Event) (now : Int) (id : UUID) :
    Moved rt db e (db.executions.lookup id) ((expireRunning db now).1.executions.lookup id) := by
  rw [expireRunning, lookup_updateWhere]
  refine related_update .kept fun x _ overdue => ?_
  simp only [Execution.overdue, Bool.and_eq_true, decide_eq_true_eq] at overdue
  exact .ended (by rw [overdue.1]; rfl) (.inl rfl) rfl

variable {x' : Execution}

theorem Execution.failed_spec
    (failed : x.failed rt errorCode canRetry draw now = .ok (x', submitted)) :
    x'.keys = x.keys ∧ x'.attemptCount = x.attemptCount ∧
      (x'.status = .deadLetter ∨ x'.status = .retry ∧ (x.attemptCount : Int) < rt.maxAttempts) := by
  obtain ⟨delay, rfl⟩ : ∃ delay, x.fail rt errorCode canRetry delay now = x' := by
    unfold Execution.failed at failed
    split at failed
    next =>
      cases delayed : retryDelay x.attemptCount draw with
      | error exc =>
        rw [delayed] at failed
        cases failed
      | ok delay =>
        rw [delayed] at failed
        cases failed
        exact ⟨delay, rfl⟩
    next =>
      cases failed
      exact ⟨0, rfl⟩
  refine ⟨x.keys_fail rt errorCode canRetry delay now, ?_⟩
  unfold fail
  simp only
  split
  next again => exact ⟨rfl, .inr ⟨rfl, again.2⟩⟩
  next => exact ⟨rfl, .inl rfl⟩

theorem Execution.dispatched_spec
    (dispatched : x.dispatched rt registries answer draw now = .ok (x', submitted)) :
    x'.keys = x.keys ∧ x'.attemptCount = x.attemptCount ∧
    (x'.status = .running ∨ x'.status = .deadLetter ∨
        x'.status = .retry ∧ (x.attemptCount : Int) < rt.maxAttempts) := by
  unfold Execution.dispatched at dispatched
  split at dispatched
  next => exact (failed_spec dispatched).imp id (.imp id .inr)
  next =>
    split at dispatched
    next => cases dispatched
    next => exact (failed_spec dispatched).imp id (.imp id .inr)
    next =>
      split at dispatched
      next => exact (failed_spec dispatched).imp id (.imp id .inr)
      next =>
        cases dispatched
        exact ⟨rfl, rfl, .inl rfl⟩

theorem lookup_save_row (stored : db.executions.lookup x.executionId = some x)
    (keys : x'.keys = x.keys) (id : UUID) :
    (db.executions.save x').lookup id = if x.executionId = id then some x'
    else db.executions.lookup id := by
  have first : x'.keys.1 = x.executionId := congrArg Prod.fst keys
  rw [lookup_save (by rw [first]; exact stored) keys, first]

theorem moved_dispatchOne (e : Event) (executionId : UUID) (registries : List Registry)
    (answer : Option Answer) (draw : Nat) (now : Int) (id : UUID) :
    Moved rt db e (db.executions.lookup id)
      ((committed db (dispatchOne rt db executionId registries answer draw now)).executions.lookup
        id) := by
  unfold dispatchOne
  cases stored : db.executions.lookup executionId with
  | none => exact .kept _
  | some x =>
    obtain rfl := executionId_of_execution stored
    simp only
    split
    next => exact .kept _
    next dispatching =>
      rw [not_not] at dispatching
      cases result : x.dispatched rt registries answer draw now with
      | error exc => exact .kept _
      | ok new =>
        obtain ⟨keys, counted, status⟩ := dispatched_spec result
        change Moved rt db e _ ((db.executions.save new.1).lookup id)
        rw [lookup_save_row stored keys]
        split
        next here =>
          subst here
          rw [stored]
          rcases status with running | dead | ⟨again, left⟩
          · exact .submitted dispatching running counted
          · exact .ended (by rw [dispatching]; rfl) (.inr dead) counted
          · exact .failed dispatching again counted left
        next => exact .kept _

theorem Callback.stored_of_admitted {q : Callback} (admitted : q.admitted db = .ok (x, body)) :
    db.executions.lookup x.executionId = some x := by
  unfold Callback.admitted at admitted
  split at admitted
  next => cases admitted
  next executionId _ _ =>
    split at admitted
    next => cases admitted
    next y stored =>
      split at admitted
      next => cases admitted
      next =>
        split at admitted
        next => cases admitted
        next =>
          cases admitted
          rw [executionId_of_execution stored]
          exact stored

theorem answered (rt : Runtime) (db : Database) (q : Callback) (now : Int) :
    Answered rt db q now (committed db (resultCallback rt db q now)) := by
  unfold resultCallback
  cases admitted : q.admitted db with
  | error exc => exact .refused (by simp only [reports, admitted])
  | ok result =>
    change Answered rt db q now (committed db (if _ then _ else _))
    split
    next repeated => exact .repeated (by simp only [reports, admitted, if_pos repeated])
    next new =>
      split
      next unapproved =>
        exact .refused (by simp only [reports, admitted, if_neg new, if_pos unapproved])
      next approved =>
        exact .written admitted (by simp only [reports, admitted, if_neg new, if_neg approved])

theorem moved_resultCallback (q : Callback) (now : Int) (id : UUID) :
    Moved rt db (.resultCallback q now) (db.executions.lookup id)
      ((committed db (resultCallback rt db q now)).executions.lookup id) := by
  have spec := answered rt db q now
  generalize committed db (resultCallback rt db q now) = db' at spec ⊢
  cases spec with
  | refused | repeated => exact .kept _
  | @written x body admitted result =>
    have stored := Callback.stored_of_admitted admitted
    have keys : (x.report q body now).keys = x.keys := rfl
    rw [lookup_save_row stored keys]
    split
    next here =>
      subst here
      rw [stored]
      exact .reported result rfl rfl
    next => exact .kept _

theorem staged (rt : Runtime) (db : Database) (row : Row) (registries : List Registry)
    (executionId : UUID)
    (now : Int) : Staged rt db row (.stageClaimedDelivery row registries executionId now)
      (committed db (stageClaimedDelivery rt db row registries executionId now)) := by
  unfold stageClaimedDelivery
  cases unmapped : db.mappings.find? row.id with
  | some m => exact .again unmapped (by simp only [creates, unmapped])
  | none =>
    cases routed : row.route rt db registries with
    | error errorCode =>
      exact .refused errorCode unmapped (by simp only [creates, unmapped, routed])
    | ok route =>
      obtain ⟨event, tenantId, registry⟩ := route
      have new : creates rt db (.stageClaimedDelivery row registries executionId now) =
          fresh db (event.execution rt tenantId registry executionId now) := by
        simp only [creates, unmapped, routed]
      have free : (db.mappings.insert? ⟨row.id, executionId⟩).isSome = true := by
        rw [← ne_none_iff_isSome, Ne, Table.insert?_eq_none_iff]
        simp [unmapped]
      obtain ⟨_, mapped⟩ := isSome_iff_exists.mp free
      cases inserted : db.executions.insert?
          (event.execution rt tenantId registry executionId now) with
      | none =>
        simp only [inserted]
        exact .conflict unmapped (by simp [new, fresh, inserted])
      | some =>
        simp only [inserted, mapped]
        exact .mapped (by simp [new, fresh, inserted]) inserted mapped

theorem moved_step (rt : Runtime) (s : State) (e : Event) (id : UUID) :
    Moved rt s.database e (s.database.executions.lookup id)
    ((step rt s e).database.executions.lookup id) := by
  cases e with
  | dispatch body registries executionId now =>
    simp only [step, dispatch_spec]
    cases new : creates rt s.database (.dispatch body registries executionId now) with
    | none => exact .kept _
    | some x => exact moved_insert new id
  | claim locked limit now => exact moved_claim locked limit now id
  | recoverStaleDispatches leaseSeconds now =>
    exact moved_recoverStaleDispatches leaseSeconds now id
  | expireRunning now => exact moved_expireRunning _ now id
  | dispatchOne executionId registries answer draw now =>
    exact moved_dispatchOne _ executionId registries answer draw now id
  | resultCallback q now => exact moved_resultCallback q now id
  | stageClaimedDelivery row registries executionId now =>
    have spec := staged rt s.database row registries executionId now
    simp only [step]
    generalize committed s.database _ = db' at spec ⊢
    cases spec with
    | mapped new inserted mapped =>
      have moved := moved_insert new id
      rwa [inserted] at moved
    | _ => exact .kept _
  | publish event deliveries =>
    have same : (step rt s (.publish event deliveries)).database.executions =
        s.database.executions := by
      simp only [step, publish]
      cases s.database.events.insert? event <;> rfl
    rw [same]
    exact .kept _
  | _ => exact .kept _

def Event.dispatching : Event → Bool
  | .dispatch .. | .claim .. | .recoverStaleDispatches .. | .expireRunning ..
  | .dispatchOne .. => true
  | _ => false

theorem only_executions (rt : Runtime) (s : State) (dispatching : e.dispatching = true) :
    ∃ executions, step rt s e = { s with database := { s.database with executions } } := by
  cases e with
  | dispatch | claim | recoverStaleDispatches =>
    simp only [step, dispatch_spec, claim, recoverStaleDispatches]
    split <;> exact ⟨_, rfl⟩
  | expireRunning now => exact ⟨_, rfl⟩
  | dispatchOne executionId registries answer draw now =>
    simp only [step, dispatchOne]
    cases s.database.executions.lookup executionId with
    | none => exact ⟨_, rfl⟩
    | some x =>
      simp only
      split
      next => exact ⟨_, rfl⟩
      next => cases x.dispatched rt registries answer draw now <;> exact ⟨_, rfl⟩
  | _ => cases dispatching

variable {s : State}

theorem lookup_created (new : creates rt s.database e = some x) :
    (step rt s e).database.executions.lookup x.executionId = some x := by
  obtain ⟨executions, inserted⟩ := creates_fresh new
  have found : executions.lookup x.executionId = some x := by
    rw [lookup_insert? inserted]
    exact if_pos rfl
  cases e with
  | dispatch =>
    simp only [step, dispatch_spec, new, inserted]
    exact found
  | stageClaimedDelivery row registries executionId now =>
    have spec := staged rt s.database row registries executionId now
    simp only [step]
    generalize committed s.database _ = db' at spec ⊢
    cases spec with
    | again _ none | refused _ _ none | conflict _ none =>
      rw [new] at none
      cases none
    | mapped new' inserted' =>
      cases Option.some.inj (new.symm.trans new')
      cases Option.some.inj (inserted.symm.trans inserted')
      exact found
  | _ => cases new

theorem lookup_recovered (rt : Runtime) (row : x ∈ s.database.executions.rows)
    (stale : recovers e x = true) :
    ∃ x', (step rt s e).database.executions.lookup x.executionId = some x' ∧ x'.status = .retry ∧
      x'.attemptCount = x.attemptCount := by
  cases e with
  | recoverStaleDispatches leaseSeconds now =>
    simp only [recovers, Bool.and_eq_true, Bool.not_eq_true', Bool.or_eq_false_iff,
      decide_eq_false_iff_not] at stale
    have bounds : ¬(leaseSeconds < 10 ∨ leaseSeconds > 600) := not_or.mpr stale.1
    have stored : s.database.executions.lookup x.executionId = some x := lookup_of_mem row
    refine ⟨x.recover now, ?_, rfl, rfl⟩
    simp [step, recoverStaleDispatches, if_neg bounds, committed, lookup_updateWhere,
      stored, stale.2]
  | _ => cases stale

theorem lookup_reported {status : ResultStatus}
    (result : reports rt s.database e = some (x, status)) :
    s.database.executions.lookup x.executionId = some x ∧
      ∃ x', (step rt s e).database.executions.lookup x.executionId = some x' ∧
        x'.status = status.mapped ∧ x'.attemptCount = x.attemptCount := by
  cases e with
  | resultCallback q now =>
    have spec := answered rt s.database q now
    simp only [step]
    generalize committed s.database _ = db' at spec ⊢
    cases spec with
    | refused none | repeated none =>
      rw [result] at none
      cases none
    | @written y body admitted result' =>
      cases Option.some.inj (result.symm.trans result')
      have stored := Callback.stored_of_admitted admitted
      have keys : (x.report q body now).keys = x.keys := rfl
      refine ⟨stored, x.report q body now, ?_, rfl, rfl⟩
      rw [lookup_save_row stored keys]
      exact if_pos rfl
  | _ => cases result

end CodestraMiddleware.N8n
