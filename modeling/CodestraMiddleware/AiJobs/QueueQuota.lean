import CodestraMiddleware.AiJobs.Lifecycle
import CodestraMiddleware.Foundations.Transactions

/-!
# The queue quota under concurrent submissions

`submit` once more, statement by statement, so that submissions interleave. Its advisory lock is
taken on the idempotency key: two submissions of one tenant exclude each other only when they carry
the same key.
-/
namespace CodestraMiddleware.AiJobs

open Relational Transition ReadCommitted Option

inductive SubmitStage where
  | started | locked | absent | unused
  | quota (q : Option TenantQuota)
  | counted (q : Option TenantQuota)
  | metered | cleared | inserted
  | answered (reply : Reply)
  | raised (fault : Fault)
  | finished (outcome : Except Fault Reply)

/-- One call of `submit`; `payload` is the canonical JSON of the command. -/
structure Submission where
  now : Int
  command : AICommand
  payload : String
  stage : SubmitStage

namespace Submission

def enter (x : Submission) (stage : SubmitStage) : Submission := { x with stage := stage }

variable (cfg : Config) (workspaceId : UUID) (x : Submission)

def lockText : String :=
  "ai-command:" ++ UUID.text x.command.tenantId ++ ":" ++ UUID.text workspaceId ++ ":" ++
    x.command.idempotencyKey

def job : JobRecord :=
  JobRecord.queued x.now (x.command.spec workspaceId (cfg.sha256 x.payload))
    (x.command.resourceLimits.retryCount + 1)

def lookup (db : Database) : SubmitStage :=
  match existingJob? x.command.tenantId workspaceId x.command.idempotencyKey db with
  | some existing =>
    if existing.requestSha256 ≠ cfg.sha256 x.payload then
      .raised (.valueError "idempotency_conflict")
    else .answered (.submitted existing.id existing.state.publicState true)
  | none => .absent

def checkIdentifier (db : Database) : SubmitStage :=
  if (db.job? x.command.commandId).isSome then .raised (.valueError "command_id_conflict")
  else .unused

end Submission

open Submission

def maxQueued (cfg : Config) (quota : Option TenantQuota) : Int :=
  (quota.map TenantQuota.maxQueued).getD cfg.defaultMaxQueuedPerTenant

namespace Submission

variable (cfg : Config) (workspaceId : UUID) (x : Submission)

def checkQueue (quota : Option TenantQuota) (db : Database) : SubmitStage :=
  if maxQueued cfg quota ≤ queuedJobs x.command.tenantId workspaceId db then
    .raised (.overflowError "tenant_queue_quota_exceeded")
  else if ∃ q ∈ quota, x.payload.utf8ByteSize > q.maxPayloadBytes then
    .raised (.overflowError "tenant_payload_quota_exceeded")
  else .counted quota

def checkTokens (quota : Option TenantQuota) (db : Database) : SubmitStage :=
  if usedTokens x.command.tenantId workspaceId (x.now / 86400000000)
    db + x.command.resourceLimits.tokenBudget >
      (quota.map TenantQuota.dailyTokens).getD cfg.dailyTokenQuota then
    .raised (.overflowError "daily_token_quota_exceeded")
  -- A limit of zero switches the last check off, and its query with it.
  else if cfg.globalEmergencyLimit > 0 then .metered
  else .cleared

end Submission

def checkEmergency (cfg : Config) (db : Database) : SubmitStage :=
  if cfg.globalEmergencyLimit ≤ activeJobs db then
    .raised (.overflowError "global_emergency_limit")
  else .cleared

/-- `INSERT INTO ai_generation_jobs` under its primary key and
`UNIQUE(organization_id, workspace_id, idempotency_key)`. -/
def insertRow? (db : Database) (r : JobRecord) : Option Database :=
  if (existingJob? r.organizationId r.workspaceId r.idempotencyKey db).isSome then none
  else (db.jobs.insert? r).map fun jobs => { db with jobs := jobs }

def sameKey (r r' : JobRecord) : Bool :=
  decide (r.id = r'.id ∨ (r.organizationId = r'.organizationId ∧ r.workspaceId = r'.workspaceId ∧
    r.idempotencyKey = r'.idempotencyKey))

section

variable (cfg : Config) (hashtextextended : String → Int) (workspaceId : UUID)

/-- The statements of `submit`. `hashtextextended` is PostgreSQL's hash of the lock's text. -/
def submitStatement (x : Submission) : Statement Database JobRecord Int Submission :=
  match x.stage with
  -- The lock is on the idempotency key, not on the queue.
  | .started => .lock (hashtextextended (x.lockText workspaceId)) (x.enter .locked)
  | .locked => .select fun db => x.enter (x.lookup cfg workspaceId db)
  | .absent => .select fun db => x.enter (x.checkIdentifier db)
  | .unused => .select fun db =>
    x.enter (.quota (db.quotas.find? (x.command.tenantId, workspaceId)))
  -- The count and the insert below are different statements.
  | .quota q => .select fun db => x.enter (x.checkQueue cfg workspaceId q db)
  | .counted q => .select fun db => x.enter (x.checkTokens cfg workspaceId q db)
  | .metered => .select fun db => x.enter (checkEmergency cfg db)
  | .cleared => .insert (x.job cfg workspaceId) (x.enter .inserted)
      (x.enter (.raised (.integrityError "ai_generation_jobs_pkey")))
  | .inserted => .commit (x.enter (.finished
      (.ok (.submitted x.command.commandId "PENDING" false))))
  | .answered reply => .rollback (x.enter (.finished (.ok reply)))
  | .raised fault => .rollback (x.enter (.finished (.error fault)))
  | .finished _ => .halt

def submitProgram :
    Program Database JobRecord Int Submission where
  statement := submitStatement cfg hashtextextended workspaceId
  insert? := insertRow?
  clash := sameKey

end

/-! ## A submission on its own -/

/-- What `submit` returns or raises, as a session ends with it. -/
def Outcome.reply (outcome : Outcome) : Except Fault Reply := outcome.map Prod.snd

variable {outcome : Outcome}

section Alone

variable (cfg : Config) (hashtextextended : String → Int) (workspaceId : UUID)

section

variable (db : Database) (x : Submission)

theorem raised_ends (fault : Fault) :
    Ends (submitProgram cfg hashtextextended workspaceId) db [] (x.enter (.raised fault)) db
      (x.enter (.finished (.error fault))) :=
  .rollback rfl (.halt rfl)

theorem cleared_ends (unknown :
      existingJob? x.command.tenantId workspaceId x.command.idempotencyKey db = none)
    (inserts : insertJob (x.job cfg workspaceId) (.submitted x.command.commandId "PENDING" false)
      db = outcome) :
    Ends (submitProgram cfg hashtextextended workspaceId) db [] (x.enter .cleared)
      (Outcome.database db outcome) (x.enter (.finished outcome.reply)) := by
  have row : insertRow? db (x.job cfg workspaceId) =
      (db.jobs.insert? (x.job cfg workspaceId)).map fun jobs => { db with jobs := jobs } :=
    if_neg (Option.not_isSome_iff_eq_none.mpr unknown)
  subst inserts
  rw [insertJob]
  cases inserted : db.jobs.insert? (x.job cfg workspaceId) with
  | none =>
    refine .violate rfl ?_ (raised_ends cfg hashtextextended workspaceId db x _)
    exact row.trans (by rw [inserted, map_none])
  | some jobs =>
    rw [inserted, map_some] at row
    exact .store rfl row rfl rfl

/-- The statements compute the one transaction that `submit` is everywhere else. -/
theorem submit_ends (fresh : x.stage = .started)
    (submits : submit cfg x.now x.command x.payload workspaceId db = outcome) :
    Ends (submitProgram cfg hashtextextended workspaceId) db [] x (Outcome.database db outcome)
      (x.enter (.finished outcome.reply)) := by
  subst submits
  have raises := raised_ends cfg hashtextextended workspaceId db x
  rw [submit]
  have locks : submitStatement cfg hashtextextended workspaceId x =
      .lock (hashtextextended (x.lockText workspaceId)) (x.enter .locked) := by
    rw [submitStatement, fresh]
  apply Ends.lock locks
  apply Ends.select rfl
  show Ends _ db [] (x.enter (x.lookup cfg workspaceId db)) _ _
  rw [lookup]
  cases found : existingJob? x.command.tenantId workspaceId x.command.idempotencyKey db with
  | some existing =>
    dsimp only
    split
    · exact raises _
    · exact .rollback rfl (.halt rfl)
  | none =>
    apply Ends.select rfl
    show Ends _ db [] (x.enter (x.checkIdentifier db)) _ _
    rw [checkIdentifier]
    split
    · exact raises _
    apply Ends.select rfl
    -- From here on the program asks what `checkQuota` asks, in its order.
    apply Ends.select rfl
    show Ends _ db [] (x.enter (x.checkQueue cfg workspaceId
      (db.quotas.find? (x.command.tenantId, workspaceId)) db)) _ _
    rw [checkQuota, checkQueue]
    generalize db.quotas.find? (x.command.tenantId, workspaceId) = q
    rw [← maxQueued.eq_def]
    split
    · exact raises _
    split
    · exact raises _
    apply Ends.select rfl
    show Ends _ db [] (x.enter (x.checkTokens cfg workspaceId q db)) _ _
    rw [checkTokens]
    split
    · exact raises _
    have cleared := cleared_ends cfg hashtextextended workspaceId db x found rfl
    by_cases limited : cfg.globalEmergencyLimit > 0
    · rw [if_pos limited]
      apply Ends.select rfl
      show Ends _ db [] (x.enter (checkEmergency cfg db)) _ _
      rw [checkEmergency]
      simp only [limited, true_and]
      split
      · exact raises _
      · exact cleared
    · rw [if_neg limited, if_neg fun both => limited both.1]
      exact cleared

end

end Alone

namespace Submission

variable (cfg : Config) (hashtextextended : String → Int) (workspaceId : UUID) (x : Submission)

def rows : List JobRecord :=
  match x.stage with
  | .inserted => [x.job cfg workspaceId]
  | _ => []

def held : List Int :=
  match x.stage with
  | .started | .finished _ => []
  | _ => [hashtextextended (x.lockText workspaceId)]

def admitted : Bool :=
  match x.stage with
  | .counted _ | .metered | .cleared | .inserted => true
  | _ => false

end Submission

theorem submit_tracks (cfg : Config) (hashtextextended : String → Int) (workspaceId : UUID) :
    Tracks (submitProgram cfg hashtextextended workspaceId) (rows cfg workspaceId)
    (held hashtextextended workspaceId) := by
  constructor
  case lock =>
    rintro ⟨now, command, payload, stage⟩ key y stmt
    cases stage <;> cases stmt
    exact ⟨rfl, rfl⟩
  case select =>
    rintro ⟨now, command, payload, stage⟩ f db stmt
    cases stage <;> cases stmt <;>  simp only [enter, lookup, checkIdentifier, checkQueue,
      checkTokens, checkEmergency] <;> (repeat' split) <;> exact ⟨rfl, rfl⟩
  case effect =>
    rintro ⟨now, command, payload, stage⟩ act db stmt
    cases stage <;> cases stmt
  case insert =>
    rintro ⟨now, command, payload, stage⟩ row y z stmt
    cases stage <;> cases stmt
    exact ⟨⟨rfl, rfl⟩, rfl, rfl⟩
  case commit | rollback =>
    rintro ⟨now, _, _, stage⟩ y stmt
    cases stage <;> cases stmt <;> exact ⟨rfl, rfl⟩

/-! ## The steps of a submission -/

section Leads

variable {cfg : Config} {hashtextextended : String → Int} {workspaceId : UUID}
  {view database : Database} {x y : Submission}
  (leads : (submitStatement cfg hashtextextended workspaceId x).Leads view database y)

include leads

theorem Submission.leads_command : y.command = x.command := by
  obtain ⟨now, _, _, stage⟩ := x
  cases stage
  case cleared => rcases leads with rfl | rfl <;> rfl
  case finished => cases leads
  all_goals
    cases leads
    rfl

/-- Only the count admits a submission, and only while the queue is below the limit. -/
theorem Submission.leads_admitted (admitted : y.admitted = true) : x.admitted = true ∨
    ∃ q, x.stage = .quota q ∧ queuedJobs x.command.tenantId workspaceId view < maxQueued cfg q := by
  obtain ⟨now, _, _, stage⟩ := x
  cases stage
  case quota q =>
    -- Counted in a full queue, it would have been refused.
    refine .inr ⟨q, rfl, ?_⟩
    by_contra full
    cases leads
    simp [enter, checkQueue, Submission.admitted, not_lt.mp full] at admitted
  case counted => exact .inl rfl
  case metered => exact .inl rfl
  case cleared => exact .inl rfl
  case inserted => exact .inl rfl
  case finished => cases leads
  case locked | absent =>
    cases leads
    revert admitted
    simp only [enter, lookup, checkIdentifier]
    (repeat' split) <;> intro admitted <;> cases admitted
  all_goals
    cases leads
    cases admitted

theorem Submission.leads_quota (stage : y.stage = .quota q) :
    q = view.quotas.find? (x.command.tenantId, workspaceId) := by
  obtain ⟨now, _, _, before⟩ := x
  cases before
  case unused =>
    cases leads
    cases stage
    rfl
  case cleared => rcases leads with rfl | rfl <;> cases stage
  case finished => cases leads
  case started | inserted | answered | raised =>
    cases leads
    cases stage
  all_goals
    cases leads
    revert stage
    simp only [enter, lookup, checkIdentifier, checkQueue, checkTokens, checkEmergency]
    (repeat' split) <;> intro stage <;> cases stage

end Leads

theorem insertRow?_quotas (db : Database) (r : JobRecord) :
    ((insertRow? db r).getD db).quotas = db.quotas := by
  unfold insertRow?
  split
  · rfl
  · cases db.jobs.insert? r <;> rfl

theorem queuedJobs_insertRow? (organizationId workspaceId : UUID) (db : Database) (r : JobRecord) :
    queuedJobs organizationId workspaceId ((insertRow? db r).getD db) ≤ queuedJobs organizationId
    workspaceId db + 1 := by
  unfold insertRow?
  split
  · exact Nat.le_succ _
  · cases inserted : db.jobs.insert? r with
    | none => exact Nat.le_succ _
    | some jobs =>
      simp only [queuedJobs, map_some, getD_some, Table.rows_insert? inserted, List.countP_append]
      exact Nat.add_le_add_left List.countP_le_length _

abbrev Sessions (ι : Type) := ReadCommitted.State ι Database JobRecord Int Submission

/-- With nothing else in progress the transaction does what `submit` computes. -/
theorem submit_in_turn [DecidableEq ι] (cfg : Config) (hashtextextended : String → Int)
    (workspaceId : UUID) {s : Sessions ι} (alone : s.Alone i) (nothing : owned i s.pending = [])
    (fresh : (s.sessions i).stage = .started)
    (submits : submit cfg (s.sessions i).now (s.sessions i).command (s.sessions i).payload
      workspaceId s.database = outcome) :
    Reaches (submitProgram cfg hashtextextended workspaceId) i s
      (Outcome.database s.database outcome) ((s.sessions i).enter (.finished outcome.reply)) :=
  (submit_ends cfg hashtextextended workspaceId s.database (s.sessions i) fresh submits).reaches
    alone rfl nothing rfl

section Views

variable {ι : Type} [DecidableEq ι] {cfg : Config} {hashtextextended : String → Int}
  {workspaceId : UUID} {s : Sessions ι} {i : ι}
  (tracked : Tracked (rows cfg workspaceId) (held hashtextextended workspaceId) s)

include tracked

theorem view_quotas : (s.view (submitProgram cfg hashtextextended workspaceId) i).quotas =
    s.database.quotas := by
  rw [tracked.view_eq i, rows]
  split
  · exact insertRow?_quotas s.database _
  · rfl

theorem view_counting (stage : (s.sessions i).stage = .quota q) :
    s.view (submitProgram cfg hashtextextended workspaceId) i = s.database := by
  simp [tracked.view_eq i, rows, stage]

theorem view_committing (commits : submitStatement cfg hashtextextended workspaceId
      (s.sessions i) = .commit next) :
    (s.sessions i).admitted = true ∧ next.admitted = false ∧
    s.view (submitProgram cfg hashtextextended workspaceId) i =
        (insertRow? s.database ((s.sessions i).job cfg workspaceId)).getD s.database := by
  rw [tracked.view_eq i]
  generalize s.sessions i = x at commits
  obtain ⟨now, _, _, stage⟩ := x
  cases stage <;> cases commits
  exact ⟨rfl, rfl, rfl⟩

end Views

theorem submitStatement_no_effect
    (acts : submitStatement cfg hashtextextended workspaceId x = .effect act) : False := by
  obtain ⟨now, _, _, stage⟩ := x
  cases stage <;> cases acts

section Schedule

variable {ι : Type} [DecidableEq ι] [Fintype ι] (cfg : Config) (hashtextextended : String → Int)
  (tenantId workspaceId : UUID)

section

variable (s : Sessions ι)

/-- The workspace has no more waiting jobs than its quota. -/
def QueueWithinQuota : Prop :=
  queuedJobs tenantId workspaceId s.database ≤ maxQueued cfg
    (s.database.quotas.find? (tenantId, workspaceId))

instance : Decidable (QueueWithinQuota cfg tenantId workspaceId s) :=
  inferInstanceAs (Decidable ((_ : Int) ≤ _))

/-- If the scheduled submission is about to count, there is a place left beside those taken by the
submissions that counted before it and have not ended; or the queue is full, and it is refused. -/
def CountsWithRoom (i : ι) : Prop :=
  match (s.sessions i).stage with
  | .quota q =>
    queuedJobs tenantId workspaceId s.database + s.count admitted < maxQueued cfg q ∨
      maxQueued cfg q ≤ queuedJobs tenantId workspaceId s.database
  | _ => True

instance (i : ι) : Decidable (CountsWithRoom cfg tenantId workspaceId s i) := by
  unfold CountsWithRoom
  split <;> infer_instance

end

/-- All sessions are of one tenant and have not begun. -/
structure Unstarted (s : Sessions ι) : Prop where
  locks : s.locks = []
  pending : s.pending = []
  stage : ∀ i, (s.sessions i).stage = .started
  tenant : ∀ i, (s.sessions i).command.tenantId = tenantId

/-- The queue and the places that running submissions will take are within the limit. -/
structure RoomForAdmitted (s : Sessions ι) : Prop where
  tracked : Tracked (rows cfg workspaceId) (held hashtextextended workspaceId) s
  tenant : ∀ i, (s.sessions i).command.tenantId = tenantId
  quota : ∀ i q, (s.sessions i).stage = .quota q →
    q = s.database.quotas.find? (tenantId, workspaceId)
  room : queuedJobs tenantId workspaceId s.database + s.count admitted ≤
    maxQueued cfg (s.database.quotas.find? (tenantId, workspaceId))

theorem RoomForAdmitted.initial {s : Sessions ι} (unstarted : Unstarted tenantId s)
    (within : QueueWithinQuota cfg tenantId workspaceId s) :
    RoomForAdmitted cfg hashtextextended tenantId workspaceId s where
  tracked i := by
    simp [unstarted.locks, unstarted.pending, owned, rows, held, unstarted.stage i]
  tenant := unstarted.tenant
  quota i q stage := by
    rw [unstarted.stage i] at stage
    cases stage
  room := by
    have none : s.count admitted = 0 := by simp [State.count, admitted, unstarted.stage]
    simpa [none, QueueWithinQuota] using within

variable {cfg hashtextextended tenantId workspaceId}

theorem RoomForAdmitted.kept {i : ι}
    (moved : ReadCommitted.Moves (submitProgram cfg hashtextextended workspaceId) s i s')
    (counts : CountsWithRoom cfg tenantId workspaceId s i)
    (inv : RoomForAdmitted cfg hashtextextended tenantId workspaceId s) :
    RoomForAdmitted cfg hashtextextended tenantId workspaceId s' := by
  rcases moved.leads with rfl | leads
  · exact inv
  have quotas : s'.database.quotas = s.database.quotas := by
    rcases moved.database with same | ⟨next, -, committed⟩ | ⟨act, acts, -⟩
    · rw [same]
    · rw [committed, view_quotas inv.tracked]
    · exact (submitStatement_no_effect acts).elim
  constructor
  case tracked => exact moved.tracked (submit_tracks cfg hashtextextended workspaceId) inv.tracked
  case tenant =>
    intro j
    by_cases same : j = i
    · rw [same, leads_command leads, inv.tenant i]
    · rw [moved.sessions_ne same, inv.tenant j]
  case quota =>
    intro j q stage
    rw [quotas]
    by_cases same : j = i
    · subst same
      rw [leads_quota leads stage, inv.tenant j, view_quotas inv.tracked]
    · rw [moved.sessions_ne same] at stage
      exact inv.quota j q stage
  case room =>
    rw [quotas]
    have room := inv.room
    have one := moved.count Submission.admitted
    rcases moved.database with same | ⟨next, commits, committed⟩ | ⟨act, acts, -⟩
    · rw [same]
      cases admits : (s'.sessions i).admitted with
      | false =>
        rw [admits] at one
        simp only [Bool.toNat_false] at one
        omega
      | true =>
        rw [admits] at one
        rcases leads_admitted leads admits with before | ⟨q, stage, below⟩
        · rw [before] at one
          omega
        · -- The count itself: its condition leaves a place, since the queue is not full.
          rw [view_counting inv.tracked stage, inv.tenant i] at below
          have listed := inv.quota i q stage
          simp only [CountsWithRoom, stage] at counts
          rw [← listed]
          simp only [Bool.toNat_true] at one
          omega
    · obtain ⟨admitted, ended, view⟩ := view_committing inv.tracked commits
      have session : s'.sessions i = next := by
        rw [commits] at leads
        exact leads
      have grown := queuedJobs_insertRow? tenantId workspaceId s.database
        ((s.sessions i).job cfg workspaceId)
      rw [session, admitted, ended] at one
      rw [committed, view]
      simp only [Bool.toNat_true, Bool.toNat_false] at one
      omega
    · exact (submitStatement_no_effect acts).elim

variable (cfg hashtextextended tenantId workspaceId)

abbrev submitSystem : System (Sessions ι) ι :=
  ReadCommitted.system (submitProgram cfg hashtextextended workspaceId)

/-- Whatever the schedule of submissions of one tenant and workspace, their queue stays within its
limit as long as every count is taken with a place left for it. -/
theorem queue_quota_kept {s : Sessions ι} (unstarted : Unstarted tenantId s)
    (within : QueueWithinQuota cfg tenantId workspaceId s) {schedule : List ι}
    (room : (submitSystem cfg hashtextextended workspaceId).Along
      (CountsWithRoom cfg tenantId workspaceId) s schedule) :
      (submitSystem cfg hashtextextended workspaceId).Always
      (QueueWithinQuota cfg tenantId workspaceId) s schedule := by
  refine System.always_of_along (I := RoomForAdmitted cfg hashtextextended tenantId workspaceId)
    ?_ ?_ (.initial cfg hashtextextended tenantId workspaceId unstarted within)
    (run_system _ s schedule) room
  · intro s i _ counts inv
    exact inv.kept (step_moves _ s i) counts
  · intro s inv
    have fits := inv.room
    show (_ : Int) ≤ _
    omega

end Schedule

/-! ## Two submissions for the last place -/

namespace Sample

def hashtextextended (text : String) : Int :=
  if text = "ai-command:00000000-0000-0000-0000-000000000002:" ++
      "00000000-0000-0000-0000-000000000003:idempotency-key-1" then 7400438597147140426
  else -3878377676039692476

def twoSubmissions : Sessions (Fin 2) where
  database := { Database.empty with
    quotas := ⟨[⟨(2, 3), 1, 1000000, 65536⟩], List.nodup_singleton _⟩ }
  locks := []
  pending := []
  sessions i :=
    if i = 0 then ⟨0, command 1 "idempotency-key-1" false 0, "payload", .started⟩
    else ⟨0, command 2 "idempotency-key-2" false 0, "payload", .started⟩

def submissions : System (Sessions (Fin 2)) (Fin 2) := submitSystem config hashtextextended 3

theorem twoSubmissions_unstarted : Unstarted 2 twoSubmissions where
  locks := rfl
  pending := rfl
  stage i := by
    unfold twoSubmissions
    dsimp only
    split <;> rfl
  tenant i := by
    unfold twoSubmissions
    dsimp only
    split <;> rfl

end Sample

open Sample

def bothCountFirst : List (Fin 2) :=
  [0, 0, 0, 0, 0, 1, 1, 1, 1, 1, 0, 0, 0, 1, 1, 1]

theorem concurrent_submissions_exceed_quota : Unstarted 2 twoSubmissions ∧
    QueueWithinQuota config 2 3 twoSubmissions ∧
    (∀ i j, (twoSubmissions.sessions i).command.idempotencyKey =
      (twoSubmissions.sessions j).command.idempotencyKey → i = j) ∧
    ¬ submissions.Always (QueueWithinQuota config 2 3) twoSubmissions bothCountFirst := by
  refine ⟨twoSubmissions_unstarted, by decide +kernel, by decide, ?_⟩
  intro always
  have last := always.last
  revert last
  decide +kernel

/-- One after the other they keep the quota: the second one is refused. -/
theorem queue_quota_kept_in_turn : submissions.Always (QueueWithinQuota config 2 3) twoSubmissions
      [0, 0, 0, 0, 0, 0, 0, 0, 1, 1, 1, 1, 1, 1] := by
  exact queue_quota_kept config Sample.hashtextextended 2 3 twoSubmissions_unstarted
    (by decide +kernel) (by decide +kernel)

theorem first_submission_in_turn : ∃ db, Reaches (submitProgram config (fun _ => 0) 3) 0
    twoSubmissions db
    ((twoSubmissions.sessions 0).enter (.finished (.ok (.submitted 1 "PENDING" false)))) :=
  ⟨_, submit_in_turn config _ 3 ⟨List.forall_mem_nil _, List.forall_mem_nil _⟩ rfl rfl rfl⟩

end CodestraMiddleware.AiJobs
