import CodestraMiddleware.AiJobs.Submission
import CodestraMiddleware.Foundations.Run

/-!
# The job store as a transition system

Every operation is one atomic event at a transaction time, and the clock never goes back.

`JobStep` says once what an operation can do to one job and its child rows.
-/
namespace CodestraMiddleware.AiJobs

open Relational Transition List Database JobRecord

inductive Op where
  | createConversation (id organizationId workspaceId : UUID)
  | createMessageJob (m : MessageRequest)
  | submit (command : AICommand) (payload : String) (workspaceId : UUID)
  | claim (c : ClaimRequest)
  | heartbeat (call : LeaseCall) (leaseSeconds : Int)
  | appendChunk (call : LeaseCall) (sequence : Nat) (content : String) (maxOutputBytes : Nat)
  | finish (call : LeaseCall) (report : FinishReport)
  | completeJob (c : CompleteRequest)
  | workerCancel (jobId : UUID) (workerId : String) (fencingToken : Nat)
      (organizationId workspaceId : UUID)
  | consoleCancel (jobId organizationId workspaceId : UUID)
  | orchestrationCancel (jobId tenantId workspaceId : UUID)
  | decide (jobId tenantId workspaceId : UUID) (approved : Bool)
  | retryDeadLetter (jobId approvalId organizationId workspaceId : UUID)
  | recoverExpired (scope : Scope)
  | expireDeadlines (scope : Scope)
  | registerWorker (workerId serviceId : String) (maxConcurrency : Int)
  -- Writes by operators.
  | setRegistration (registration : WorkerRegistration)
  | setQuota (quota : TenantQuota)
  | requestApproval (jobId approvalId organizationId workspaceId : UUID)
  | grantApproval (jobId approvalId organizationId workspaceId : UUID) (approved : Bool)
  | settleApproval (jobId : UUID) (approved : Bool)

/-- Runs of the job operations themselves leave it to `store_result` to open approvals: operators
add approvals only with the decision already in the row, as for a dead letter. -/
def Op.OpensNoApproval : Op → Prop
  | .requestApproval .. => False
  | .settleApproval .. => False
  | _ => True

instance : DecidablePred Op.OpensNoApproval := fun op => by
  cases op <;> first | exact isTrue trivial | exact isFalse id

def Op.claim? : Op → Option ClaimRequest
  | .claim c => some c
  | _ => none

section

variable (cfg : Config)

def exec (now : Int) (op : Op) (db : Database) : Outcome :=
  match op with
  | .createConversation id org ws => createConversation id org ws db
  | .createMessageJob m => createMessageJob cfg now m db
  | .submit command payload ws => submit cfg now command payload ws db
  | .claim c => claim now c db
  | .heartbeat call secs => heartbeat now call secs db
  | .appendChunk call sequence content limit => appendChunk now call sequence content limit db
  | .finish call report => finish now call report .completed db
  | .completeJob c => completeJob cfg now c db
  | .workerCancel job worker token org ws => workerCancel now job worker token org ws db
  | .consoleCancel job org ws => consoleCancel now job org ws db
  | .orchestrationCancel job tenant ws => orchestrationCancel now job tenant ws db
  | .decide job tenant ws approved => decideApproval now job tenant ws approved db
  | .retryDeadLetter job approval org ws => retryDeadLetter now job approval org ws db
  | .recoverExpired scope => recoverExpired now scope db
  | .expireDeadlines scope => expireDeadlines now scope db
  | .registerWorker worker service limit => registerWorker worker service limit db
  | .setRegistration registration => setRegistration registration db
  | .setQuota quota =>
    .ok ({ db with quotas := (db.quotas.insertOrIgnore quota).replace quota }, .stored)
  | .requestApproval job id org ws => insertApproval job ⟨id, org, ws, .pending, none⟩ db
  | .grantApproval job id org ws approved =>
    insertApproval job ⟨id, org, ws, decidedApprovalState approved, some now⟩ db
  | .settleApproval job approved => settleApproval now job approved db

structure Event where
  now : Int
  op : Op

structure Entry where
  now : Int
  op : Op
  before : Database
  outcome : Outcome

def Outcome.database (old : Database) : Outcome → Database
  | .ok (db, _) => db
  | .error _ => old

def Entry.after (e : Entry) : Database := Outcome.database e.before e.outcome

structure State where
  db : Database
  clock : Int
  -- Newest call first.
  history : List Entry

def State.initial (start : Int) : State := ⟨.empty, start, []⟩

def step (s : State) (e : Event) : State :=
  let outcome := exec cfg e.now e.op s.db
  ⟨Outcome.database s.db outcome, e.now, ⟨e.now, e.op, s.db, outcome⟩ :: s.history⟩

/-- Operations happen in the order of a clock that never goes back; `admits` restricts which. -/
def system (admits : Op → Prop) : System State Event where
  step := step cfg
  admits s e := s.clock ≤ e.now ∧ admits e.op

abbrev fullSystem : System State Event := system cfg fun _ => True

abbrev jobSystem : System State Event := system cfg Op.OpensNoApproval

def Event.entry (db : Database) (e : Event) : Entry :=
  ⟨e.now, e.op, db, exec cfg e.now e.op db⟩

theorem step_history (s : State) (e : Event) :
    (step cfg s e).history = e.entry cfg s.db :: s.history :=
  rfl

end

theorem step_db_ok (ok : exec cfg e.now e.op s.db = .ok (db, reply)) : (step cfg s e).db = db := by
  simp [step, Outcome.database, ok]

theorem step_db_error (raised : exec cfg e.now e.op s.db = .error fault) :
    (step cfg s e).db = s.db := by
  simp [step, Outcome.database, raised]

theorem run_iff : (system cfg admits).Run s es ↔ (s.clock :: es.map Event.now).IsChain (· ≤ ·) ∧
    ∀ e ∈ es, admits e.op := by
  -- The next state counts only through its clock, which is the time of the event just taken.
  induction es generalizing s with
  | nil => simp [System.Run, System.Along]
  | cons e es ih =>
    have rest := ih (s := step cfg s e)
    change (s.clock ≤ e.now ∧ admits e.op) ∧ (system cfg admits).Run (step cfg s e) es ↔ _
    rw [rest, map_cons, isChain_cons_cons, forall_mem_cons]
    tauto

theorem stable_restrict (fewer : ∀ op, admits' op → admits op)
    (stable : (system cfg admits).Stable I) : (system cfg admits').Stable I := by
  intro s e admitted holds
  exact stable s e ⟨admitted.1, fewer e.op admitted.2⟩ holds

/-! ## What an operation can do to one job -/

/-- The record `complete_job` hands to `finish`, and the state it asks for. -/
def CompleteRequest.Prepares (cfg : Config) (now : Int) (c : CompleteRequest) (r stored : JobRecord)
    (completionState : JobState) : Prop :=
  (c.result = none ∧ stored = r ∧ completionState = .completed) ∨ ∃ result, c.result = some result ∧
      storeResult cfg now c.approvalId result r = .ok (stored, completionState)

/-- What a call can do to the record of one job. -/
inductive JobStep (cfg : Config) (now : Int) : Op → Reply → JobRecord → JobRecord → Prop where
  -- Every call leaves all jobs but those it names or matches, so `idle` goes with every call.
  | idle (op reply r) : JobStep cfg now op reply r r
  | claim {c r leased profiles} (ready : r.Claimable now c.scope profiles)
      (taken : r.leaseTo now c = some leased) :
      JobStep cfg now (.claim c) (.claimed leased.toGenerationJob) r leased
  | heartbeat {call secs r} (target : r.id = call.jobId) (lease : r.HoldsLease now call true) :
      JobStep cfg now (.heartbeat call secs) (.renewed (now + makeInterval secs)) r
        { r with leaseExpiresAt := some (now + makeInterval secs) }
  | appendChunk {call sequence content limit r chunks} (target : r.id = call.jobId)
      (lease : r.HoldsLease now call false) (fits : r.outputBytes + content.utf8ByteSize ≤ limit)
      (inserted : r.chunks.insert? ⟨sequence, call.fencingToken, content⟩ = some chunks) :
      JobStep cfg now (.appendChunk call sequence content limit) (.chunk true) r
        { r with chunks := chunks, outputBytes := r.outputBytes + content.utf8ByteSize }
  | finish {call report r} (target : r.id = call.jobId) (lease : r.HoldsLease now call true) :
      JobStep cfg now (.finish call report) (.state (r.finishState report .completed)) r
        (r.settle now call.fencingToken report (r.finishState report .completed))
  -- The new state is computed from the row before `store_result`, which does not touch that row.
  | complete {c r stored completionState} (target : r.id = c.call.jobId)
      (lease : r.HoldsLease now c.call true)
      (prepared : c.Prepares cfg now r stored completionState) :
      JobStep cfg now (.completeJob c) (.state (r.finishState c.report completionState)) r
        (stored.settle now c.call.fencingToken c.report (r.finishState c.report completionState))
  | workerCancel {job worker token org ws r} (target : r.id = job)
      (lease : r.HoldsLease now ⟨job, worker, token, some org, some ws⟩ true)
      (requested : r.cancelRequestedAt.isSome) :
      JobStep cfg now (.workerCancel job worker token org ws) (.cancellation true .cancelled) r
        (r.cancelLease now fun a => decide (a.fencingToken = token ∧ a.workerId = worker))
  | consoleCancel {job org ws r} (target : r.id = job) (active : r.ConsoleCancellable org ws) :
      JobStep cfg now (.consoleCancel job org ws)
      (.cancellation true (r.consoleCancelled now).state) r (r.consoleCancelled now)
  | orchestrationCancel {job org ws r} (target : r.id = job)
      (active : r.OrchestrationCancellable org ws) :
      JobStep cfg now (.orchestrationCancel job org ws)
        (.status (r.orchestrationCancelled now).state.publicState) r (r.orchestrationCancelled now)
  -- The state of the job is written without being read.
  | decide {job org ws approved r a} (target : r.id = job) (asked : r.approval = some a)
      (awaits : a.Awaits org ws) :
      JobStep cfg now (.decide job org ws approved)
      (.status (decidedJobState approved).publicState) r
        { r with approval := some (a.decided now approved), state := decidedJobState approved }
  | retry {job approval org ws r} (target : r.id = job)
      (approved : r.RetryApproved approval org ws) (dead : r.state = .deadLetter)
      (bounded : r.maxAttempts < 10) :
      JobStep cfg now (.retryDeadLetter job approval org ws) (.state .retryWait) r (r.retried now)
  -- The three statements of `recover_expired`, then `expire_deadlines`: no job is named.
  | recoverCancelled {scope reply r} (lapsed : r.CancelLapsed now scope) :
      JobStep cfg now (.recoverExpired scope) reply r
        (r.cancelLease now fun a => Decidable.decide (a.fencingToken = r.fencingToken))
  | recoverRetried {scope reply r} (lapsed : r.LeaseLapsed now scope)
      (left : r.attemptCount < r.maxAttempts) :
      JobStep cfg now (.recoverExpired scope) reply r (r.requeued now)
  | recoverDead {scope reply r} (lapsed : r.LeaseLapsed now scope)
      (exhausted : r.maxAttempts ≤ r.attemptCount) :
      JobStep cfg now (.recoverExpired scope) reply r (r.leaseExpired now)
  | expire {scope reply r} (passed : r.DeadlinePassed now scope) :
      JobStep cfg now (.expireDeadlines scope) reply r (r.expire now scope)
  | requestApproval {job id org ws r} (target : r.id = job) (absent : r.approval = none) :
      JobStep cfg now (.requestApproval job id org ws) .stored r
        { r with approval := some ⟨id, org, ws, .pending, none⟩ }
  | grantApproval {job id org ws approved r} (target : r.id = job) (absent : r.approval = none) :
      JobStep cfg now (.grantApproval job id org ws approved) .stored r
        { r with approval := some ⟨id, org, ws, decidedApprovalState approved, some now⟩ }
  | settleApproval {job approved r a} (target : r.id = job) (asked : r.approval = some a)
      (pending : a.state = .pending) : JobStep cfg now (.settleApproval job approved) .stored r
        { r with approval := some (a.decided now approved) }

def Fresh (now : Int) (r : JobRecord) : Prop :=
  ∃ spec maxAttempts, 1 ≤ maxAttempts ∧ maxAttempts ≤ 6 ∧ r = .queued now spec maxAttempts

/-- Every job of `db` takes a `JobStep`, and a job that `db` does not have is fresh. -/
def Moves (cfg : Config) (now : Int) (op : Op) (reply : Reply) (db db' : Database) : Prop :=
  ∀ id, (∀ r, db.job? id = some r → ∃ r', db'.job? id = some r' ∧ JobStep cfg now op reply r r') ∧
    (db.job? id = none → ∀ r', db'.job? id = some r' → Fresh now r')

variable {r r' : JobRecord} {job ws org : UUID} {call : LeaseCall} {scope : Scope}
  {c : ClaimRequest} {completionState : JobState}

section Moves

variable {cfg : Config} {now : Int} {op : Op} {reply : Reply} {db db' : Database}

theorem moves_of_same (same : db'.jobs = db.jobs) : Moves cfg now op reply db db' := by
  intro id
  have unchanged : db'.job? id = db.job? id := by simp [job?, same]
  refine ⟨fun r found => ⟨r, unchanged.trans found, .idle op reply r⟩, ?_⟩
  intro absent r' found
  simp [unchanged, absent] at found

theorem moves_put {id : UUID} (found : db.job? id = some r) (same : r'.id = r.id)
    (moved : JobStep cfg now op reply r r') : Moves cfg now op reply db (db.put r') := by
  have key := job?_id found
  intro other
  by_cases this : r'.id = other
  -- The job itself; every other job is idle.
  · have here : id = other := by rw [← key, ← same, this]
    subst here
    refine ⟨?_, fun absent => by simp [found] at absent⟩
    intro old foundOld
    rw [found] at foundOld
    cases foundOld
    exact ⟨r', by simp [job?_put, this, found], moved⟩
  · rw [job?_put_ne this]
    refine ⟨fun old foundOld => ⟨old, foundOld, .idle op reply old⟩, ?_⟩
    intro absent r'' present
    simp [absent] at present

theorem moves_updateJobs {keeps : ∀ r, (f r).id = r.id}
    (moved : ∀ r, JobStep cfg now op reply r (f r)) :
    Moves cfg now op reply db (db.updateJobs f keeps) := by
  intro id
  refine ⟨fun r found => ⟨f r, by simp [found], moved r⟩, ?_⟩
  intro absent r' present
  simp [absent] at present

theorem assertLease_ok : assertLease now call allow db = .ok r ↔ db.job? call.jobId = some r ∧
    r.HoldsLease now call allow := by
  unfold assertLease
  cases found : db.job? call.jobId with
  | none => simp
  | some r' =>
    simp only [Option.some.injEq]
    split
    next lease =>
      simp only [Except.ok.injEq]
      constructor
      · rintro rfl
        exact ⟨rfl, lease⟩
      · exact fun h => h.1
    next refused =>
      simp only [reduceCtorEq, false_iff]
      rintro ⟨rfl, lease⟩
      exact refused lease

/-! ## Every operation moves every job by a `JobStep` -/

theorem insertJob_moves (fresh : Fresh now r)
    (ok : insertJob r answer db = .ok (db', reply)) : Moves cfg now op reply db db' := by
  unfold insertJob at ok
  split at ok
  · cases ok
  next jobs inserted =>
    cases ok
    intro id
    have lookup : job? { db with jobs := jobs } id = _ := Table.find?_insert? inserted id
    rw [lookup]
    have absent := Table.insert?_fresh inserted
    split
    next here =>
      subst here
      refine ⟨fun old found => ?_, ?_⟩
      · change db.jobs.find? r.id = some old at found
        simp [absent] at found
      · intro _ r' present
        cases present
        exact fresh
    next =>
      refine ⟨fun old found => ⟨old, found, .idle op reply old⟩, ?_⟩
      intro missing r' present
      change db.job? id = some r' at present
      simp [missing] at present

theorem leaseTo_id (taken : r.leaseTo now c = some leased) : leased.id = r.id := by
  obtain ⟨_, _, rfl⟩ := Option.map_eq_some_iff.mp taken
  rfl

/-- What a successful claim found: a candidate, and the profiles active at that moment. -/
theorem claim_ok (ok : claim now c db = .ok (db', reply)) : (db' = db ∧ reply = .nothing) ∨
      ∃ active r leased, admission now c db = .ok active ∧ r ∈ db.jobs.rows ∧
      r.Claimable now c.scope
          (c.profileFilter (effectiveCompatibleProfiles active c.allowedModelProfiles)) ∧
        r.leaseTo now c = some leased ∧ db' = db.put leased ∧
        reply = .claimed leased.toGenerationJob := by
  unfold claim at ok
  split at ok
  · cases ok
  split at ok
  · cases ok
  next active admitted =>
    dsimp only at ok
    split at ok
    · cases ok
      exact .inl ⟨rfl, rfl⟩
    split at ok
    · cases ok
      exact .inl ⟨rfl, rfl⟩
    next r first =>
      split at ok
      · cases ok
      next leased taken =>
        cases ok
        obtain ⟨member, ready⟩ := mem_filter.mp ((mem_filter.mp (mem_of_getElem? first)).1)
        exact .inr ⟨active, r, leased, admitted, member, of_decide_eq_true ready, taken, rfl, rfl⟩

theorem claim_moves (ok : claim now c db = .ok (db', reply)) :
    Moves cfg now (.claim c) reply db db' := by
  rcases claim_ok ok with ⟨rfl, rfl⟩ | ⟨_, r, _, _, member, ready, taken, rfl, rfl⟩
  · exact moves_of_same rfl
  · exact moves_put (db.jobs.find?_of_mem member) (leaseTo_id taken) (.claim ready taken)

theorem heartbeat_moves {secs : Int} (ok : heartbeat now call secs db = .ok (db', reply)) :
    Moves cfg now (.heartbeat call secs) reply db db' := by
  unfold heartbeat at ok
  split at ok
  · cases ok
  next r held =>
    cases ok
    obtain ⟨found, lease⟩ := assertLease_ok.mp held
    exact moves_put found rfl (.heartbeat (job?_id found) lease)

theorem appendChunk_moves {sequence : Nat} {content : String}
    (ok : appendChunk now call sequence content limit db = .ok (db', reply)) :
    Moves cfg now (.appendChunk call sequence content limit) reply db db' := by
  unfold appendChunk at ok
  split at ok
  · cases ok
  next r held =>
    obtain ⟨found, lease⟩ := assertLease_ok.mp held
    dsimp only at ok
    split at ok
    · cases ok
    next fits =>
      split at ok
      · cases ok
        exact moves_of_same rfl
      next chunks inserted =>
        cases ok
        exact moves_put found rfl (.appendChunk (job?_id found) lease
          (Nat.le_of_not_lt fits) inserted)

theorem finish_ok (ok : finish now call report completionState db = .ok (db', reply)) :
    ∃ r, db.job? call.jobId = some r ∧ r.HoldsLease now call true ∧
      db' = db.put (r.settle now call.fencingToken report (r.finishState report completionState)) ∧
      reply = .state (r.finishState report completionState) := by
  unfold finish at ok
  split at ok
  · cases ok
  next r held =>
    cases ok
    obtain ⟨found, lease⟩ := assertLease_ok.mp held
    exact ⟨r, found, lease, rfl, rfl⟩

theorem finish_moves {report : FinishReport}
    (ok : finish now call report .completed db = .ok (db', reply)) :
    Moves cfg now (.finish call report) reply db db' := by
  obtain ⟨r, found, lease, rfl, rfl⟩ := finish_ok ok
  exact moves_put found rfl (.finish (job?_id found) lease)

theorem storeResult_ok {result : AIResult}
    (ok : storeResult cfg now approvalId result r = .ok (stored, completionState)) :
    stored.toGenerationJob = r.toGenerationJob ∧ stored.attempts = r.attempts ∧
      stored.chunks = r.chunks ∧ stored.deadLetter = r.deadLetter ∧
      stored.result = (r.result <|> some ⟨result.output, cfg.sha256 result.output.json⟩) ∧
      ((completionState = .completed ∧ stored.approval = r.approval) ∨
        (completionState = .approvalRequired ∧ stored.approval = (r.approval <|>
          some ⟨approvalId, r.organizationId, r.workspaceId, .pending, none⟩))) := by
  unfold storeResult at ok
  split at ok
  · cases ok
  · dsimp only at ok
    split at ok
    · split at ok
      · cases ok
      · cases ok
        exact ⟨rfl, rfl, rfl, rfl, rfl, .inr ⟨rfl, rfl⟩⟩
    · cases ok
      exact ⟨rfl, rfl, rfl, rfl, rfl, .inl ⟨rfl, rfl⟩⟩

theorem CompleteRequest.Prepares.spec {c : CompleteRequest}
    (prepared : c.Prepares cfg now r stored completionState) :
    stored.toGenerationJob = r.toGenerationJob ∧ stored.attempts = r.attempts ∧
      stored.chunks = r.chunks ∧ stored.deadLetter = r.deadLetter ∧
      ((completionState = .completed ∧ stored.approval = r.approval) ∨
        (completionState = .approvalRequired ∧ stored.approval = (r.approval <|>
          some ⟨c.approvalId, r.organizationId, r.workspaceId, .pending, none⟩))) := by
  rcases prepared with ⟨-, rfl, rfl⟩ | ⟨_, -, ok⟩
  · exact ⟨rfl, rfl, rfl, rfl, .inl ⟨rfl, rfl⟩⟩
  · obtain ⟨job, attempts, chunks, deadLetter, -, approval⟩ := storeResult_ok ok
    exact ⟨job, attempts, chunks, deadLetter, approval⟩

theorem put_put (same : r'.id = r.id) : (db.put r).put r' = db.put r' := by
  simp only [put, Table.replace, Table.update, map_map]
  congr 2
  apply map_congr_left
  intro old _
  split <;> simp_all

theorem completeJob_moves {c : CompleteRequest} (ok : completeJob cfg now c db = .ok (db', reply)) :
    Moves cfg now (.completeJob c) reply db db' := by
  unfold completeJob at ok
  split at ok
  · cases ok
  · cases ok
    exact moves_of_same rfl
  split at ok
  next nothing =>
    obtain ⟨r, found, lease, rfl, rfl⟩ := finish_ok ok
    exact moves_put found rfl (.complete (job?_id found) lease (.inl ⟨nothing, rfl, rfl⟩))
  next result submitted =>
    split at ok
    · cases ok
    split at ok
    · cases ok
    next r held =>
      obtain ⟨found, lease⟩ := assertLease_ok.mp held
      have key := job?_id found
      split at ok
      · cases ok
      next stored completionState prepared =>
        have same := (storeResult_ok prepared).1
        have sameId : stored.id = r.id := congrArg (·.id) same
        obtain ⟨r₁, found₁, -, rfl, rfl⟩ := finish_ok ok
        -- `finish` reads back the row `store_result` just wrote.
        have here : (db.put stored).job? c.call.jobId = some stored := by
          have present : db.job? stored.id = some r := by rw [sameId, key, found]
          rw [← key, ← sameId]
          exact job?_put_self present
        rw [here] at found₁
        cases found₁
        rw [put_put (by exact rfl)]
        have asked : stored.finishState c.report completionState = r.finishState c.report
          completionState := by rw [same]
        rw [asked]
        exact moves_put found sameId (.complete key ⟨.inl (by simpa using lease.1), lease.2⟩
          (.inr ⟨result, submitted, prepared⟩))

theorem workerCancel_moves {token : Nat}
    (ok : workerCancel now job worker token org ws db = .ok (db', reply)) :
    Moves cfg now (.workerCancel job worker token org ws) reply db db' := by
  unfold workerCancel at ok
  split at ok
  next r held =>
    obtain ⟨found, lease⟩ := assertLease_ok.mp held
    split at ok
    next requested =>
      cases ok
      exact moves_put found rfl (.workerCancel (job?_id found) lease requested)
    · cases ok
      exact moves_of_same rfl
  · split at ok
    · cases ok
    split at ok
    · cases ok
      exact moves_of_same rfl
    · cases ok

theorem consoleCancel_moves (ok : consoleCancel now job org ws db = .ok (db', reply)) :
    Moves cfg now (.consoleCancel job org ws) reply db db' := by
  unfold consoleCancel at ok
  split at ok
  · cases ok
  next r found =>
    split at ok
    next active =>
      cases ok
      exact moves_put found rfl (.consoleCancel (job?_id found) active)
    · cases ok

theorem orchestrationCancel_moves (ok : orchestrationCancel now job org ws db = .ok (db', reply)) :
    Moves cfg now (.orchestrationCancel job org ws) reply db db' := by
  unfold orchestrationCancel at ok
  split at ok
  · cases ok
  next r found =>
    split at ok
    next active =>
      cases ok
      exact moves_put found rfl (.orchestrationCancel (job?_id found) active)
    · cases ok

theorem decideApproval_moves {approved : Bool}
    (ok : decideApproval now job org ws approved db = .ok (db', reply)) :
    Moves cfg now (.decide job org ws approved) reply db db' := by
  unfold decideApproval at ok
  split at ok
  · cases ok
  next r found =>
    split at ok
    · cases ok
    next a asked =>
      split at ok
      next awaits =>
        cases ok
        exact moves_put found rfl (.decide (job?_id found) asked awaits)
      · cases ok

theorem retryDeadLetter_moves {approval : UUID}
    (ok : retryDeadLetter now job approval org ws db = .ok (db', reply)) :
    Moves cfg now (.retryDeadLetter job approval org ws) reply db db' := by
  unfold retryDeadLetter at ok
  split at ok
  · cases ok
  next r found =>
    split at ok
    next approved =>
      split at ok
      next retryable =>
        cases ok
        exact moves_put found rfl (.retry (job?_id found) approved retryable.1 retryable.2)
      · cases ok
    · cases ok

/-! The three updates of `recover_expired` exclude each other. -/

theorem recover_of_cancelLapsed (lapsed : r.CancelLapsed now scope) :
    r.recover now scope = r.cancelLease now fun a => decide (a.fencingToken = r.fencingToken) := by
  -- The first statement leaves the row cancelled, out of reach of the two that look for leases.
  have done : ¬ (r.cancelLease now fun a =>
      decide (a.fencingToken = r.fencingToken)).LeaseLapsed now scope := by
    rintro ⟨state, -⟩
    cases state
  simp [recover, recoverCancelled, lapsed, recoverRetried, recoverDead, done]

theorem GenerationJob.LeaseLapsed.not_cancelLapsed {j : GenerationJob}
    (lapsed : j.LeaseLapsed now scope) : ¬ j.CancelLapsed now scope := by
  rintro ⟨state, -⟩
  rw [lapsed.1] at state
  cases state

theorem recover_of_left (lapsed : r.LeaseLapsed now scope) (left : r.attemptCount < r.maxAttempts) :
    r.recover now scope = r.requeued now := by
  have done : ¬ (r.requeued now).LeaseLapsed now scope := by
    rintro ⟨state, -⟩
    cases state
  simp [recover, recoverCancelled, lapsed.not_cancelLapsed, recoverRetried, lapsed, left,
    recoverDead, done]

theorem recover_of_exhausted (lapsed : r.LeaseLapsed now scope)
    (exhausted : r.maxAttempts ≤ r.attemptCount) : r.recover now scope = r.leaseExpired now := by
  simp [recover, recoverCancelled, lapsed.not_cancelLapsed,
    recoverRetried, lapsed, exhausted, recoverDead, Nat.not_lt.mpr exhausted]

theorem recover_of_neither (live : ¬ r.CancelLapsed now scope) (held : ¬ r.LeaseLapsed now scope) :
    r.recover now scope = r := by
  simp [recover, recoverCancelled, live, recoverRetried, held, recoverDead]

theorem recover_step (scope : Scope) (r : JobRecord) :
    JobStep cfg now (.recoverExpired scope) reply r (r.recover now scope) := by
  by_cases cancelled : r.CancelLapsed now scope
  · rw [recover_of_cancelLapsed cancelled]
    exact .recoverCancelled cancelled
  by_cases lapsed : r.LeaseLapsed now scope
  · rcases Nat.lt_or_ge r.attemptCount r.maxAttempts with left | exhausted
    · rw [recover_of_left lapsed left]
      exact .recoverRetried lapsed left
    · rw [recover_of_exhausted lapsed exhausted]
      exact .recoverDead lapsed exhausted
  · rw [recover_of_neither cancelled lapsed]
    exact .idle _ _ r

theorem expire_step (scope : Scope) (r : JobRecord) :
    JobStep cfg now (.expireDeadlines scope) reply r (r.expire now scope) := by
  by_cases passed : r.DeadlinePassed now scope
  · exact .expire passed
  · have unchanged : r.expire now scope = r := by simp [expire, passed]
    rw [unchanged]
    exact .idle _ _ r

theorem insertApproval_moves {a : JobApproval} (ok : insertApproval job a db = .ok (db', reply))
    (moved : ∀ r : JobRecord, r.id = job → r.approval = none →
      JobStep cfg now op .stored r { r with approval := some a }) :
      Moves cfg now op reply db db' := by
  unfold insertApproval at ok
  split at ok
  · cases ok
  next r found =>
    split at ok
    · cases ok
    next absent =>
      cases ok
      exact moves_put found rfl (moved r (job?_id found) absent)

theorem settleApproval_moves {approved : Bool}
    (ok : settleApproval now job approved db = .ok (db', reply)) :
    Moves cfg now (.settleApproval job approved) reply db db' := by
  unfold settleApproval at ok
  split at ok
  · cases ok
  next r found =>
    split at ok
    · cases ok
    next a asked =>
      split at ok
      next pending =>
        cases ok
        exact moves_put found rfl (.settleApproval (job?_id found) asked pending)
      · cases ok

theorem createMessageJob_moves {m : MessageRequest}
    (ok : createMessageJob cfg now m db = .ok (db', reply)) :
    Moves cfg now (.createMessageJob m) reply db db' := by
  unfold createMessageJob at ok
  split at ok
  · cases ok
  dsimp only at ok
  split at ok
  · split at ok
    · cases ok
    · cases ok
      exact moves_of_same rfl
  split at ok
  · cases ok
  split at ok
  · split at ok
    · cases ok
    next command built =>
      -- The contract was built, so its validator bounded the attempts.
      have limit : 1 ≤ m.maxAttempts ∧ m.maxAttempts ≤ 6 := by
        unfold buildBrowserWorkerContract at built
        split at built
        next limit => exact limit
        · cases built
      exact insertJob_moves ⟨_, _, limit.1, limit.2, rfl⟩ ok
  · cases ok

theorem submit_moves {payload : String}
    (ok : submit cfg now command payload ws db = .ok (db', reply)) :
    Moves cfg now (.submit command payload ws) reply db db' := by
  unfold submit at ok
  dsimp only at ok
  split at ok
  · split at ok
    · cases ok
    · cases ok
      exact moves_of_same rfl
  split at ok
  · cases ok
  split at ok
  · cases ok
  · have limit := command.resourceLimits.retryCount_le
    exact insertJob_moves ⟨_, _, by omega, by omega, rfl⟩ ok

theorem exec_moves (ok : exec cfg now op db = .ok (db', reply)) :
    Moves cfg now op reply db db' := by
  cases op with
  | createConversation =>
    simp only [exec, createConversation] at ok
    split at ok
    · cases ok
    · cases ok
      exact moves_of_same rfl
  | createMessageJob m => exact createMessageJob_moves ok
  | submit => exact submit_moves ok
  | claim c => exact claim_moves ok
  | heartbeat => exact heartbeat_moves ok
  | appendChunk => exact appendChunk_moves ok
  | finish => exact finish_moves ok
  | completeJob c => exact completeJob_moves ok
  | workerCancel => exact workerCancel_moves ok
  | consoleCancel => exact consoleCancel_moves ok
  | orchestrationCancel => exact orchestrationCancel_moves ok
  | decide => exact decideApproval_moves ok
  | retryDeadLetter => exact retryDeadLetter_moves ok
  | recoverExpired scope =>
    cases ok
    exact moves_updateJobs (recover_step scope)
  | expireDeadlines scope =>
    cases ok
    exact moves_updateJobs (expire_step scope)
  | requestApproval =>
    exact insertApproval_moves ok fun _ target absent => .requestApproval target absent
  | grantApproval =>
    exact insertApproval_moves ok fun _ target absent => .grantApproval target absent
  | settleApproval => exact settleApproval_moves ok
  | _ =>
    cases ok
    exact moves_of_same rfl

end Moves

/-! ## From one job to whole runs -/

section Runs

variable {cfg : Config} {admits : Op → Prop} {s : State} {e : Event} {id : UUID}

theorem step_job (cfg : Config) (e : Event) (found : s.db.job? id = some r) :
    ∃ reply r', (step cfg s e).db.job? id = some r' ∧ JobStep cfg e.now e.op reply r r' ∧
      (r' = r ∨ ∃ db', exec cfg e.now e.op s.db = .ok (db', reply)) := by
  cases outcome : exec cfg e.now e.op s.db with
  | error fault =>
    rw [step_db_error outcome]
    exact ⟨.stored, r, found, .idle e.op .stored r, .inl rfl⟩
  | ok result =>
    obtain ⟨db', reply⟩ := result
    obtain ⟨r', found', moved⟩ := (exec_moves outcome id).1 r found
    rw [step_db_ok outcome]
    exact ⟨reply, r', found', moved, .inr ⟨db', rfl⟩⟩

theorem step_origin (found' : (step cfg s e).db.job? id = some r') :
    (∃ r reply, s.db.job? id = some r ∧ JobStep cfg e.now e.op reply r r' ∧
      (r' = r ∨ ∃ db', exec cfg e.now e.op s.db = .ok (db', reply))) ∨
      (s.db.job? id = none ∧ Fresh e.now r') := by
  cases found : s.db.job? id with
  | some r =>
    obtain ⟨reply, r'', found'', moved, reported⟩ := step_job cfg e found
    rw [found'] at found''
    cases found''
    exact .inl ⟨r, reply, rfl, moved, reported⟩
  | none =>
    refine .inr ⟨rfl, ?_⟩
    cases outcome : exec cfg e.now e.op s.db with
    -- A call that raised adds no job.
    | error fault =>
      rw [step_db_error outcome, found] at found'
      cases found'
    | ok result =>
      rw [step_db_ok outcome] at found'
      exact (exec_moves outcome id).2 found r' found'

theorem step_put (ok : exec cfg now op s.db = .ok (s.db.put r', reply))
    (found : s.db.job? r'.id = some r) : (step cfg s ⟨now, op⟩).db.job? r'.id = some r' := by
  rw [step_db_ok ok]
  exact job?_put_self found

section

variable (cfg : Config) (s : State) (now : Int) (scope : Scope) (id : UUID)

theorem step_recover :
    (step cfg s ⟨now, .recoverExpired scope⟩).db.job? id = (s.db.job? id).map (recover now scope) :=
  job?_updateJobs s.db _ (recover_id now scope) id

theorem step_expire :
    (step cfg s ⟨now, .expireDeadlines scope⟩).db.job? id = (s.db.job? id).map (expire now scope) :=
  job?_updateJobs s.db _ (expire_id now scope) id

end

theorem JobStep.spec (moved : JobStep cfg now op reply r r') : r'.toJobSpec = r.toJobSpec := by
  cases moved with
  | claim _ taken =>
    obtain ⟨_, -, rfl⟩ := Option.map_eq_some_iff.mp taken
    rfl
  | complete _ _ prepared => exact congrArg (·.toJobSpec) prepared.spec.1
  | expire passed => simp [JobRecord.expire, passed]
  | _ => rfl

/-- `P` holds of every stored job at the present time. -/
def State.Each (P : Int → JobRecord → Prop) (s : State) : Prop :=
  ∀ id r, s.db.job? id = some r → P s.clock r

theorem each_initial (P : Int → JobRecord → Prop) (start : Int) : (State.initial start).Each P := by
  intro id r found
  cases found

/-- A property of single jobs is an invariant when submissions establish it, every `JobStep` keeps
it and time does not undo it. -/
theorem stable_each (later : ∀ {t now r}, t ≤ now → P t r → P now r)
    (fresh : ∀ {now r}, Fresh now r → P now r)
    (moves : ∀ {now op reply r r'}, admits op → JobStep cfg now op reply r r' →
      P now r → P now r') :
    (system cfg admits).Stable (State.Each P) := by
  intro s e admitted holds id r' found'
  rcases step_origin found' with ⟨r, _, found, moved, -⟩ | ⟨-, new⟩
  · exact moves admitted.2 moved (later admitted.1 (holds id r found))
  · exact fresh new

/-- A property of single jobs survives a step exactly when the step finds no job in a bad situation,
if a bad situation always breaks it and nothing else does. -/
theorem step_each_iff {Bad : JobRecord → Prop} (each : s.Each fun _ => P)
    (fresh : ∀ {id r'}, (step cfg s e).db.job? id = some r' → Fresh e.now r' → P r')
    (good : ∀ {id reply r r'}, s.db.job? id = some r → (step cfg s e).db.job? id = some r' →
      JobStep cfg e.now e.op reply r r' → P r → ¬ Bad r → P r')
      (bad : ∀ {id r}, s.db.job? id = some r → Bad r →
      ∃ r', (step cfg s e).db.job? id = some r' ∧ ¬ P r') :
    (step cfg s e).Each (fun _ => P) ↔ ¬ ∃ id r, s.db.job? id = some r ∧ Bad r := by
  constructor
  · rintro each' ⟨id, r, found, wrong⟩
    obtain ⟨r', found', broken⟩ := bad found wrong
    exact broken (each' id r' found')
  · intro spared id r' found'
    rcases step_origin found' with ⟨r, _, found, moved, -⟩ | ⟨-, new⟩
    · exact good found found' moved (each id r found) fun wrong => spared ⟨id, r, found, wrong⟩
    · exact fresh found' new

end Runs

end CodestraMiddleware.AiJobs
