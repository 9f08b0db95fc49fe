import CodestraMiddleware.Foundations.Run
import CodestraMiddleware.Social.Worker

/-!
# Social publishing under the API and the workers

The state is the database, what each worker is doing, and a log of what the workers did.
-/
namespace CodestraMiddleware.Social

open Relational Transition Leases List Ledger SocialPublishJob Worker JobProgress Database Option
  SocialError Bool

variable {l : Ledger Report} {p : SocialPublishJob → Bool}

section Publishing

variable {ω : Type} (rt : Runtime) (settings : Settings) (registry : SocialProviderRegistry ω)

/-! ## Steps of a worker -/

def SocialPublishJob.claimed (row : SocialPublishJob) (now : Int) : SocialPublishJob :=
  { row with
    toJobProgress := row.toJobProgress.claim now settings.socialWorkerId
      settings.socialWorkerLeaseSeconds }

/-- What a worker can do in one event. -/
inductive Reacts (db : Database) (w : Worker) : WorkerEvent ω → Reaction → Prop where
  | rests {e} : Reacts db w e ⟨db, w, none⟩
  | claims {now locked row} (idle : w = .idle) (found : db.job? row.id = some row)
      (claimable : row.claimable now = true) :
      Reacts db w (.claim now locked) ⟨db.updateJobs (fun j => j.id = row.id)
            (.claim now settings.socialWorkerId settings.socialWorkerLeaseSeconds),
          .running (row.claimed settings now) .claimed,
          some (.claimed row.id (row.fencingToken + 1))⟩
  | proceeds {e job stage stage'} (running : w = .running job stage) :
      Reacts db w e ⟨db, .running job stage', none⟩
  | calls {job call} (running : w = .running job (.ready call)) : Reacts db w .call
        ⟨db, .running job (.calling call), some (.called job.id job.fencingToken call)⟩
  | completes {eventId job result db'} (running : w = .running job (.answered result))
      (done : completeJob job result eventId db = .ok (eventId, db')) :
      Reacts db w (.complete eventId)
        ⟨db', .idle, some (.completed job.id job.socialPostId result.status (UUID.text eventId))⟩
  | fails {now jitter delay job exc outcome db'} (running : w = .running job (.failing exc))
      (done : failJob job exc settings.socialJobMaxAttempts now delay db = .ok (outcome, db'))
      (recorded : outcome ≠ .leaseLost) : Reacts db w (.fail now jitter) ⟨db', .idle,
          some (.failed job.id (exc.report settings.socialJobMaxAttempts (job.attemptCount + 1)))⟩
  -- A crash, an exception that nobody handles, or a failure reported without the lease.
  | stops {e} : Reacts db w e ⟨db, .idle, none⟩

theorem claimJobs_one (now : Int) (locked : UUID → Bool) (db : Database) :
    claimJobs now locked settings.socialWorkerId 1 settings.socialWorkerLeaseSeconds db = ([], db) ∨
      ∃ row, db.job? row.id = some row ∧ row.claimable now = true ∧
        claimJobs now locked settings.socialWorkerId 1 settings.socialWorkerLeaseSeconds db =
          ([row.claimed settings now], db.updateJobs (fun j => j.id = row.id)
            (.claim now settings.socialWorkerId settings.socialWorkerLeaseSeconds)) := by
  cases rows : claimedRows now locked 1 db with
  | nil =>
    left
    have untouched (change : JobProgress → JobProgress) :
      advance (fun _ => false) change = fun j => j := rfl
    simp [claimJobs, rows, updateJobs, untouched]
  | cons row rest =>
    right
    -- `LIMIT 1` leaves one row.
    have single : rest = [] := by
      have length : (row :: rest).length ≤ 1 := rows ▸ length_take_le 1 _
      exact eq_nil_of_length_eq_zero (by simpa using length)
    subst single
    have member : row ∈ claimedRows now locked 1 db := by simp [rows]
    have chosen := mem_of_mem_take member
    simp only [mem_insertionSort, mem_filter, and_eq_true] at chosen
    refine ⟨row, db.job?_of_mem chosen.1, chosen.2.1, ?_⟩
    simp [claimJobs, rows, advance, claimed]

variable {e : WorkerEvent ω}

theorem proceed_reacts (next : Fallible Stage) : Reacts settings db (.running job stage) e
    ⟨db, .proceed job next, none⟩ := by
  unfold proceed
  split
  next => exact .proceeds rfl
  next => exact .proceeds rfl
  next => exact .stops

theorem running_reacts (db : Database) (e : WorkerEvent ω) (job : SocialPublishJob)
    (stage : Stage) :
    Reacts settings db (.running job stage) e
    (react rt settings registry db e (.running job stage)) := by
  cases e with
  | load =>
    cases stage with
    | claimed =>
      unfold react
      dsimp only
      split
      next => exact .proceeds rfl
      next => exact .stops
    | _ => exact .rests
  | prepare world =>
    cases stage with
    | loaded => exact proceed_reacts settings _
    | _ => exact .rests
  | call =>
    cases stage with
    | ready => exact .calls rfl
    | _ => exact .rests
  | answer world =>
    cases stage with
    | calling => exact proceed_reacts settings _
    | _ => exact .rests
  | complete eventId =>
    cases stage with
    | answered =>
      unfold react
      dsimp only
      split
      next id db' done =>
        obtain ⟨rfl, -⟩ := completeJob_eq_ok done
        exact .completes rfl done
      next => exact proceed_reacts settings _
    | _ => exact .rests
  | fail =>
    cases stage with
    | failing exc =>
      unfold react
      dsimp only
      split
      next db' done =>
        rcases failJob_eq_ok done with ⟨-, -, rfl⟩ | ⟨recorded, -⟩
        · exact .stops
        · exact absurd rfl recorded
      next outcome db' recorded done => exact .fails rfl done recorded
      next => exact .stops
    | _ => exact .rests
  | crash => exact .stops
  | claim => exact .rests

theorem react_reacts (db : Database) (e : WorkerEvent ω) (w : Worker) :
    Reacts settings db w e (react rt settings registry db e w) := by
  cases w with
  | running job stage => exact running_reacts rt settings registry db e job stage
  | idle =>
    cases e with
    | claim now locked =>
      unfold react
      dsimp only
      rcases claimJobs_one settings now locked db with none_left | ⟨row, found, claimable, claimed⟩
      · rw [none_left]
        exact .rests
      · rw [claimed]
        exact .claims rfl found claimable
    | _ => exact .rests

inductive Request where
  | create (r : PostRequest) (now : Int) (newPostId jobId : UUID)
  | update (postId : UUID) (content metadata : Option PythonValue.Dict)
  | enqueue (c : CommandRequest) (now : Int) (postId jobId : UUID)
  -- An account is connected, or its row is changed.
  | putAccount (account : SocialAccount)

/-- The database after a request; a request that raises is rolled back. -/
def Request.handle (db : Database) : Request → Database
  | .create r now newPostId jobId =>
    match createPostIntent rt r now newPostId jobId db with
    | .ok (_, db') => db'
    | .error _ => db
  | .update postId content metadata =>
    match updatePost postId content metadata db with
    | .ok db' => db'
    | .error _ => db
  | .enqueue c now postId jobId =>
    -- The caller reads the post first.
    match (do enqueueCommand rt c now (← getPost postId db) jobId db) with
    | .ok (_, db') => db'
    | .error _ => db
  | .putAccount account => { db with
    accounts := (db.accounts.insertOrIgnore account).replace account }

theorem Request.handle_extends (db : Database) (r : Request) : Extends db (r.handle rt db) := by
  unfold handle
  split
  next =>
    split
    next done => exact createPostIntent_extends done
    next => exact .refl db
  next =>
    split
    next done => exact updatePost_extends done
    next => exact .refl db
  next =>
    split
    next done =>
      obtain ⟨_, -, done⟩ := Raising.bind_eq_ok.mp done
      exact enqueueCommand_extends done
    next => exact .refl db
  next => exact ⟨.inl rfl, .inl (samePosts rfl), rfl, rfl⟩

structure State (ι : Type) where
  database : Database
  workers : ι → Worker
  -- Newest first.
  log : List Note

inductive Event (ι ω : Type) where
  | request (r : Request)
  | recoverStaleJobs (now : Int)
  | worker (i : ι) (e : WorkerEvent ω)

def State.initial (ι : Type) : State ι := ⟨.empty, fun _ => .idle, []⟩

variable {ι : Type} [DecidableEq ι]

def step (s : State ι) : Event ι ω → State ι
  | .request r => { s with database := r.handle rt s.database }
  | .recoverStaleJobs now =>
    let (recovered, database) := recoverStaleJobs now s.database
    { s with database, log := recovered.map (fun job => .recovered job.1) ++ s.log }
  | .worker i e =>
    let r := react rt settings registry s.database e (s.workers i)
    { database := r.database, workers := Function.update s.workers i r.worker,
      log := r.note.toList ++ s.log }

def system : System (State ι) (Event ι ω) where
  step := step rt settings registry
  admits _ _ := True

theorem run_system (s : State ι) (es : List (Event ι ω)) : (system rt settings registry).Run s es :=
  System.along_of_forall (fun _ _ => trivial) s es

def Note.action? (jobId : UUID) : Note → Option (Action Report)
  | .claimed id _ => if id = jobId then some .claim else none
  | .called _ _ _ => none
  | .completed id _ _ _ => if id = jobId then some (.report .completed) else none
  | .failed id report => if id = jobId then some (.report report) else none
  | .recovered id => if id = jobId then some .release else none

def actionsOf (log : List Note) (jobId : UUID) : List (Action Report) :=
  log.filterMap (Note.action? jobId)

def ledgerOf (log : List Note) (jobId : UUID) : Ledger Report := .of (actionsOf log jobId)

theorem ledgerOf_cons (note : Note) (log : List Note) (jobId : UUID) :
    ledgerOf (note :: log) jobId =
      (note.action? jobId).elim (ledgerOf log jobId) (ledgerOf log jobId).act := by
  cases action : note.action? jobId <;> simp [ledgerOf, actionsOf, action, of]

namespace Report

def final : Report → Bool
  | .retry => false
  | .completed | .deadLetter _ => true

def state : Report → JobState
  | .completed => .completed
  | .retry => .retry
  | .deadLetter _ => .deadLetter

def certainty : Report → Certainty
  | .completed => .confirmed
  | .retry | .deadLetter false => .failedBeforeSend
  | .deadLetter true => .unknownAfterSend

def result : Report → AttemptResult
  | .completed => .success
  | .retry => .retry
  | .deadLetter _ => .deadLetter

def isCompletion : Report → Bool
  | .completed => true
  | .retry | .deadLetter _ => false

end Report

open Report

/-- The state that the last ending, or an open claim, leaves the job in. -/
def jobState (l : Ledger Report) : JobState :=
  if l.held then .processing
  else
    match l.endings.getLast? with
    | none => .queued
    | some .released => .retry
    | some (.reported r) => r.state

def jobCertainty (l : Ledger Report) : Certainty := l.reports.getLast?.elim .notSent certainty

theorem jobState_eq_processing_iff : jobState l = .processing ↔ l.held = true := by
  unfold jobState
  split
  next held => simp [held]
  next free =>
    split
    · simp [free]
    · simp [free]
    next r _ => cases r <;> simp [Report.state, free]

theorem endsWith_iff_jobState {p : Report → Bool} {states : List JobState}
    (reported : ∀ r, p r = true ↔ r.state ∈ states)
    (others : ∀ state ∈ states, state ≠ .processing ∧ state ≠ .queued ∧ state ≠ .retry) :
    l.endsWith p = true ↔ jobState l ∈ states := by
  have processing : .processing ∉ states := fun member => (others _ member).1 rfl
  have queued : .queued ∉ states := fun member => (others _ member).2.1 rfl
  have retry : .retry ∉ states := fun member => (others _ member).2.2 rfl
  unfold endsWith jobState
  cases held : l.held with
  | true => simp [processing]
  | false =>
    cases last : l.endings.getLast? with
    | none => simp [queued]
    | some e =>
      cases e with
      | released => simp [Ending.is, retry]
      | reported r => simp [Ending.is, reported]

theorem endsWith_final_iff : l.endsWith final = true ↔ jobState l ∈ [.completed, .deadLetter] := by
  have reported : ∀ r : Report, r.final = true ↔ r.state ∈ [JobState.completed, .deadLetter] := by
    intro r
    cases r <;> simp [final, Report.state]
  exact endsWith_iff_jobState reported (by decide)

theorem endsWith_completion_iff : l.endsWith isCompletion = true ↔ jobState l = .completed := by
  have reported : ∀ r : Report, r.isCompletion = true ↔ r.state ∈ [JobState.completed] := by
    intro r
    cases r <;> simp [isCompletion, Report.state]
  rw [endsWith_iff_jobState reported (by decide), mem_singleton]

/-- The row and the attempts of a job, read off its ledger. -/
structure Tally (row : SocialPublishJob) (attempts : List SocialPublishAttempt)
    (l : Ledger Report) : Prop where
  state : row.state = jobState l
  token : row.fencingToken = l.token
  count : row.attemptCount = l.reports.countP fun r => !r.isCompletion
  certainty : row.resultCertainty = jobCertainty l
  numbers : attempts.map (·.attemptNumber) = range' 1 l.reports.length
  results : attempts.map (·.result) = l.reports.map result

/-! ## What a step does to one job -/

/-- The steps that change the row or the attempts of a job. The attempt that a report adds is
numbered after the count in the row. -/
inductive Progress (row : SocialPublishJob) (attempts : List SocialPublishAttempt) :
    Option (Action Report) → SocialPublishJob → List SocialPublishAttempt → Prop where
  | kept : Progress row attempts none row attempts
  | claimed {now} (waiting : row.state = .queued ∨ row.state = .retry) :
      Progress row attempts (some .claim) (row.claimed settings now) attempts
  | recovered {now} (processing : row.state = .processing) : Progress row attempts (some .release)
        { row with toJobProgress := row.toJobProgress.recover now } attempts
  | completed (processing : row.state = .processing) :
      Progress row attempts (some (.report .completed))
        { row with toJobProgress := row.toJobProgress.complete }
        (attempts ++ [⟨row.id, row.attemptCount + 1, .success, none, none⟩])
  | failed {error now delay} (processing : row.state = .processing) : Progress row attempts
        (some (.report (error.report settings.socialJobMaxAttempts (row.attemptCount + 1))))
        { row with
          toJobProgress := row.toJobProgress.fail error settings.socialJobMaxAttempts
            (row.attemptCount + 1) now delay }
        (attempts ++ [⟨row.id, row.attemptCount + 1,
          if error.dead settings.socialJobMaxAttempts (row.attemptCount + 1) then .deadLetter
          else .retry, some error.code, some error.summary⟩])

section Tally

variable {settings} {row row' : SocialPublishJob} {attempts attempts' : List SocialPublishAttempt}
  {actions : List (Action Report)}

/-- While a job is processed, all its reports were failures, so the count numbers the next one. -/
theorem Tally.count_eq_length (tally : Tally row attempts (.of actions))
    (lawful : Lawful final actions) (held : (of actions).held = true) :
    row.attemptCount = (of actions).reports.length := by
  rw [tally.count, countP_eq_length]
  intro r member
  obtain ⟨e, ended, reported⟩ := mem_filterMap.mp member
  have open_ := lawful.not_final.2 held e ended
  simp only [Ending.is, reported, any_some] at open_
  cases r <;> simp_all [final, isCompletion]

theorem report_certainty (error : SocialError) (maxAttempts attempts : Nat) :
    (error.report maxAttempts attempts).certainty = if error.unknown then .unknownAfterSend
    else .failedBeforeSend := by
  unfold report dead
  cases unknown : error.unknown with
  | true => simp [certainty]
  | false =>
    split <;> rfl

theorem report_isCompletion (error : SocialError) (maxAttempts attempts : Nat) :
    (error.report maxAttempts attempts).isCompletion = false := by
  unfold report
  split <;> rfl

/-- A report takes the row and the attempts from one entry of the ledger to the next. -/
theorem Tally.report (tally : Tally row attempts (.of actions))
    (lawful : Lawful final actions) (held : (of actions).held = true) (state : row'.state = r.state)
    (token : row'.fencingToken = row.fencingToken)
    (count : row'.attemptCount = row.attemptCount + (!r.isCompletion).toNat)
    (certainty : row'.resultCertainty = r.certainty)
    (number : attempt.attemptNumber = row.attemptCount + 1) (result : attempt.result = r.result) :
    Tally row' (attempts ++ [attempt]) (.of (.report r :: actions)) := by
  constructor
  · rw [state]
    simp [of, act, jobState]
  · rw [token, tally.token]
    simp [of, act, Ledger.token, held]
  · rw [count, tally.count]
    simp only [of, reports_report, countP_append]
    cases completion : r.isCompletion <;> simp [completion]
  · rw [certainty]
    simp [of, jobCertainty]
  · -- The count in the row is the number of reports so far.
    simp only [of, reports_report, map_append, tally.numbers, length_append]
    simp only [number, tally.count_eq_length lawful held, length_singleton, map_cons, map_nil,
      range'_concat]
    simp [Nat.add_comm]
  · simp [of, tally.results, result]

theorem Progress.tally (progress : Progress settings row attempts a row' attempts')
    (tally : Tally row attempts (.of actions)) (lawful : Lawful final actions) :
    Lawful final (a.toList ++ actions) ∧ Tally row' attempts' (.of (a.toList ++ actions)) := by
  have state := tally.state
  have held (processing : row.state = .processing) : (of actions).held = true :=
    jobState_eq_processing_iff.mp (state ▸ processing)
  cases progress with
  | kept => exact ⟨lawful, tally⟩
  | claimed waiting =>
    have free : (of actions).held = false := by
      rw [← not_eq_true, ← jobState_eq_processing_iff, ← state]
      rcases waiting with waiting | waiting <;> simp [waiting]
    have open_ : (of actions).endsWith final = false := by
      rw [← not_eq_true, endsWith_final_iff, ← state]
      rcases waiting with waiting | waiting <;> simp [waiting]
    refine ⟨⟨⟨free, open_⟩, lawful⟩, ?_⟩
    -- A claim adds no ending, so only the state and the token have something new to agree with.
    constructor
    · simp [of, act, jobState, SocialPublishJob.claimed, claim]
    · have token := tally.token
      simp only [Ledger.token, free, toNat_false] at token
      simp [of, act, Ledger.token, SocialPublishJob.claimed, claim, token]
    · exact tally.count
    · exact tally.certainty
    · exact tally.numbers
    · exact tally.results
  | recovered processing =>
    have held := held processing
    refine ⟨⟨held, lawful⟩, ?_⟩
    constructor
    · simp [of, act, jobState, recover]
    · have token := tally.token
      simp only [Ledger.token, held, toNat_true] at token
      simp [of, act, Ledger.token, recover, token]
    · simpa [of, recover] using tally.count
    · simpa [of, jobCertainty, recover] using tally.certainty
    · simpa [of] using tally.numbers
    · simpa [of] using tally.results
  | completed processing =>
    exact ⟨⟨held processing, lawful⟩, tally.report lawful (held processing) rfl rfl rfl rfl rfl rfl⟩
  | @failed _ _ _ processing =>
    refine ⟨⟨held processing, lawful⟩, tally.report lawful (held processing) ?_ rfl ?_ ?_ rfl ?_⟩
    · change (if _ then _ else _) = _
      unfold report
      split <;> rfl
    · simp [report_isCompletion, fail]
    · exact (report_certainty ..).symm
    · unfold report
      split <;> rfl

end Tally

/-- What a step can do to the job of an identifier; `a` is the action that the log gains. -/
inductive JobChange (db db' : Database) (id : UUID) : Option (Action Report) → Prop where
  | absent (before : db.job? id = none) (after : db'.job? id = none)
      (attempts : db'.attemptsOf id = db.attemptsOf id) : JobChange db db' id none
  | created {row} (before : db.job? id = none) (after : db'.job? id = some row)
      (initial : row.toJobProgress = .initial) (attempts : db'.attemptsOf id = db.attemptsOf id)
      (posted : (db'.post? row.socialPostId).isSome = true) : JobChange db db' id none
  | progressed {row row' a} (before : db.job? id = some row) (after : db'.job? id = some row')
      (progress : Progress settings row (db.attemptsOf id) a row' (db'.attemptsOf id)) :
      JobChange db db' id a

structure Known (db : Database) (job row : SocialPublishJob) : Prop where
  found : db.job? job.id = some row
  spec : row.toJobSpec = job.toJobSpec
  positive : 0 < job.fencingToken
  token : job.fencingToken ≤ row.fencingToken
  count : row.fencingToken = job.fencingToken → row.state = .processing →
    row.attemptCount = job.attemptCount

def AllKnown (s : State ι) : Prop :=
  ∀ i job stage, s.workers i = .running job stage → ∃ row, Known s.database job row

variable {s : State ι}

section JobChange

variable {settings} {db db' : Database} {job row : SocialPublishJob} {id : UUID}

theorem JobChange.of_same (jobs : db'.job? id = db.job? id)
    (attempts : db'.attemptsOf id = db.attemptsOf id) : JobChange settings db db' id none := by
  cases before : db.job? id with
  | none => exact .absent before (jobs.trans before) attempts
  | some row =>
    refine .progressed before (jobs.trans before) ?_
    rw [attempts]
    exact .kept

theorem JobChange.of_extends (extends_ : Extends db db') (id : UUID) :
    JobChange settings db db' id none := by
  have attempts : db'.attemptsOf id = db.attemptsOf id := by simp [attemptsOf, extends_.attempts]
  rcases extends_.job? id with same | ⟨before, row, after, initial, posted⟩
  · exact .of_same same attempts
  · exact .created before after initial attempts posted

theorem SocialPublishJob.advance_of_neg (other : p row = false) : row.advance p change = row := by
  simp [advance, other]

theorem SocialPublishJob.advance_of_pos (holds : p row = true) :
    row.advance p change = { row with toJobProgress := change row.toJobProgress } := by
  simp [advance, holds]

theorem Database.job?_updateJobs_of_ne (only : ∀ j, p j = true → j.id = target)
    (change : JobProgress → JobProgress) (other : target ≠ id) :
    (db.updateJobs p change).job? id = db.job? id := by
  rw [job?_updateJobs]
  cases looked : db.job? id with
  | none => rfl
  | some j =>
    rw [map_some, advance_of_neg]
    by_contra reached
    exact other ((only j (by simpa using reached)).symm.trans (db.job?_eq_some.mp looked).2)

theorem SocialPublishJob.owns_only (job j : SocialPublishJob) (owned : job.owns j = true) :
    j.id = job.id :=
  (owns_iff.mp owned).1

theorem Database.attemptsOf_insert (db db' : Database) {attempts : Table SocialPublishAttempt.key}
    (inserted : db.attempts.insert? attempt = some attempts) (same : db'.attempts = attempts)
    (id : UUID) :
    db'.attemptsOf id = db.attemptsOf id ++ if attempt.jobId = id then [attempt] else [] := by
  simp only [attemptsOf, same, Table.rows_insert? inserted, filter_append]
  split <;> simp_all

theorem actionsOf_recovered (now : Int) (db : Database) (id : UUID) :
    actionsOf ((recoverStaleJobs now db).1.map fun job => .recovered job.1) id =
      ((db.job? id).toList.filter (·.stale now)).map fun _ => .release := by
  rw [← db.filter_id_jobs]
  simp only [recoverStaleJobs, actionsOf]
  induction db.jobs.rows with
  | nil => rfl
  | cons j rows ih =>
    by_cases stale : j.stale now = true <;> by_cases named : j.id = id <;>
      simp [stale, named, Note.action?] <;> simpa using ih

variable (settings) in
theorem recoverStaleJobs_change (now : Int) (db : Database) (id : UUID) :
    ∃ a, JobChange settings db (recoverStaleJobs now db).2 id a ∧
      actionsOf ((recoverStaleJobs now db).1.map fun job => .recovered job.1) id = a.toList := by
  rw [actionsOf_recovered]
  cases found : db.job? id with
  | none =>
    refine ⟨none, .absent found ?_ rfl, rfl⟩
    simp [recoverStaleJobs, found]
  | some row =>
    cases stale : row.stale now with
    | false =>
      refine ⟨none, .of_same ?_ rfl, by simp [stale]⟩
      simp [recoverStaleJobs, found, advance_of_neg stale]
    | true =>
      have processing : row.state = .processing := by
        simp only [SocialPublishJob.stale, and_eq_true, decide_eq_true_eq] at stale
        exact stale.1
      have after : (recoverStaleJobs now db).2.job? id =
          some { row with toJobProgress := row.toJobProgress.recover now } := by
        simp only [recoverStaleJobs, job?_updateJobs, found, map_some]
        rw [advance_of_pos stale]
      exact ⟨some .release, .progressed found after (.recovered processing), by simp [stale]⟩

theorem Known.job?_updateJobs (known : Known db job row) (current : job.Current db)
    (change : JobProgress → JobProgress) (id : UUID) : (db.updateJobs job.owns change).job? id =
      if job.id = id then some { row with toJobProgress := change row.toJobProgress }
      else db.job? id := by
  obtain ⟨row', found, processing, token⟩ := current
  obtain rfl : row' = row := Option.some.inj (found.symm.trans known.found)
  split
  next same =>
    subst same
    have named := (db.job?_eq_some.mp found).2
    rw [job?_updateJobs, found, map_some, advance_of_pos]
    exact owns_iff.mpr ⟨named, processing, token⟩
  next other => exact job?_updateJobs_of_ne job.owns_only change other

theorem Known.processing (known : Known db job row) (current : job.Current db) :
    row.state = .processing ∧ row.fencingToken = job.fencingToken := by
  obtain ⟨row', found, processing, token⟩ := current
  obtain rfl : row' = row := some.inj (found.symm.trans known.found)
  exact ⟨processing, token⟩

theorem Known.row_id (known : Known db job row) : row.id = job.id := congrArg JobSpec.id known.spec

variable (settings) in
theorem completeJob_change (known : Known db job row) {result : ProviderResult}
    (done : completeJob job result eventId db = .ok (eventId, db')) (id : UUID) :
    JobChange settings db db' id (if job.id = id then some (.report .completed) else none) := by
  obtain ⟨-, current, posts, attempts, integrationEvents, -, attempted, -, rfl⟩ :=
    completeJob_eq_ok done
  obtain ⟨processing, token⟩ := known.processing current
  have jobs := known.job?_updateJobs current .complete id
  have rows := db.attemptsOf_insert
    { db.updateJobs job.owns .complete with posts, attempts, integrationEvents } attempted rfl id
  split
  next same =>
    subst same
    simp only [if_true] at jobs rows
    refine .progressed known.found jobs ?_
    rw [rows, ← known.count token processing, ← known.row_id]
    exact .completed processing
  next other =>
    simp only [other, if_false, append_nil] at jobs rows
    exact .of_same jobs rows

theorem failJob_change (known : Known db job row) {error : SocialError}
    (done : failJob job error settings.socialJobMaxAttempts now delay db = .ok (outcome, db'))
    (recorded : outcome ≠ .leaseLost) (id : UUID) : JobChange settings db db' id
      (if job.id = id then
        some (.report (error.report settings.socialJobMaxAttempts (job.attemptCount + 1)))
        else none) := by
  rcases failJob_eq_ok done with ⟨lost, -⟩ | ⟨-, current, attempts, attempted, rfl⟩
  · exact absurd lost recorded
  obtain ⟨processing, token⟩ := known.processing current
  have jobs := known.job?_updateJobs current
    (.fail error settings.socialJobMaxAttempts (job.attemptCount + 1) now delay) id
  have rows := db.attemptsOf_insert
    { db.updateJobs job.owns
      (.fail error settings.socialJobMaxAttempts (job.attemptCount + 1) now delay) with attempts }
    attempted rfl id
  split
  next same =>
    subst same
    simp only [if_true] at jobs rows
    rw [← known.count token processing] at jobs rows ⊢
    rw [← known.row_id] at rows
    refine .progressed known.found jobs ?_
    rw [← known.row_id, rows]
    exact .failed processing
  next other =>
    simp only [other, if_false, append_nil] at jobs rows
    exact .of_same jobs rows

theorem Reacts.change {w : Worker} (reacts : Reacts settings db w e r)
    (known : ∀ job stage, w = .running job stage → ∃ row, Known db job row) (id : UUID) :
    ∃ a, JobChange settings db r.database id a ∧ actionsOf r.note.toList id = a.toList := by
  have noted (note : Note) : actionsOf [note] id = (note.action? id).toList := by
    cases action : note.action? id <;> simp [actionsOf, action]
  cases reacts with
  | @claims now locked row idle found claimable =>
    by_cases same : row.id = id
    · subst same
      have waiting : row.state = .queued ∨ row.state = .retry := by
        simp only [SocialPublishJob.claimable, and_eq_true, or_eq_true, decide_eq_true_eq]
          at claimable
        exact claimable.1.1
      have after : (db.updateJobs (fun j => j.id = row.id) (.claim now settings.socialWorkerId
          settings.socialWorkerLeaseSeconds)).job? row.id = some (row.claimed settings now) := by
        simp [found, advance, claimed]
      exact ⟨some .claim, .progressed found after (.claimed waiting), by
        simp [actionsOf, Note.action?]⟩
    · refine ⟨none, .of_same ?_ rfl, by simp [actionsOf, Note.action?, same]⟩
      exact job?_updateJobs_of_ne (fun j named => by simpa using named) _ same
  | completes running done =>
    obtain ⟨row, known⟩ := known _ _ running
    exact ⟨_, completeJob_change settings known done id, noted _⟩
  | fails running done recorded =>
    obtain ⟨row, known⟩ := known _ _ running
    exact ⟨_, failJob_change known done recorded id, noted _⟩
  | _ => exact ⟨none, .of_same rfl rfl, rfl⟩

variable (settings) in
/-- Every step changes a job in one of the ways of `Progress`, and the log says so. -/
theorem step_change (known : AllKnown s) (e : Event ι ω) (id : UUID) :
    ∃ a, JobChange settings s.database (step rt settings registry s e).database id a ∧
      actionsOf (step rt settings registry s e).log id = a.toList ++ actionsOf s.log id := by
  cases e with
  | request r => exact ⟨none, .of_extends (r.handle_extends rt s.database) id, rfl⟩
  | recoverStaleJobs now =>
    obtain ⟨a, change, noted⟩ := recoverStaleJobs_change settings now s.database id
    refine ⟨a, change, ?_⟩
    simp only [step, actionsOf, filterMap_append] at noted ⊢
    rw [noted]
  | worker i e =>
    have reacts := react_reacts rt settings registry s.database e (s.workers i)
    obtain ⟨a, change, noted⟩ := reacts.change (known i) id
    refine ⟨a, change, ?_⟩
    simp only [step, actionsOf, filterMap_append] at noted ⊢
    rw [noted]

end JobChange

/-! ## The books agree -/

section Books

variable {settings} {db db' : Database} {job row row' : SocialPublishJob}
  {attempts attempts' : List SocialPublishAttempt} {a : Option (Action Report)}

section

variable (progress : Progress settings row attempts a row' attempts')

include progress

theorem Progress.spec : row'.toJobSpec = row.toJobSpec := by
  cases progress <;> rfl

theorem Progress.token_le : row.fencingToken ≤ row'.fencingToken := by
  cases progress with
  | claimed => exact Nat.le_succ _
  | _ => exact Nat.le_refl _

theorem Progress.eq_of_processing (token : row'.fencingToken = row.fencingToken)
    (processing : row'.state = .processing) : row' = row := by
  cases progress with
  | kept => rfl
  | claimed => exact absurd token (Nat.succ_ne_self _)
  | recovered | completed => simp [recover, complete] at processing
  | failed =>
    simp only [fail] at processing
    split at processing <;> cases processing

end

theorem Known.kept (known : Known db job row) (change : JobChange settings db db' job.id a) :
    ∃ row', Known db' job row' := by
  cases change with
  | absent before | created before => exact absurd known.found (by simp [before])
  | @progressed row₀ row' _ before after progress =>
    obtain rfl : row₀ = row := some.inj (before.symm.trans known.found)
    refine ⟨row', after, progress.spec.trans known.spec, known.positive,
      known.token.trans progress.token_le, ?_⟩
    intro token processing
    -- Tokens only grow, so a claim that is current after the step was current before it.
    have below := progress.token_le
    have above := known.token
    obtain rfl := progress.eq_of_processing (by omega) processing
    exact known.count token processing

theorem Reacts.running (reacts : Reacts settings db w e r)
    (running : r.worker = .running job stage) : (∃ stage', w = .running job stage') ∨
      ∃ row now, db.job? row.id = some row ∧ job = row.claimed settings now ∧
      r.database.job? job.id = some job := by
  cases reacts with
  | rests => exact .inl ⟨stage, running⟩
  | claims _ found =>
    cases running
    refine .inr ⟨_, _, found, rfl, ?_⟩
    simp [claimed, found, advance]
  | proceeds before | calls before =>
    cases running
    exact .inl ⟨_, before⟩
  | _ => cases running

theorem AllKnown.step (known : AllKnown s) (e : Event ι ω) :
    AllKnown (step rt settings registry s e) := by
  intro i job stage running
  have kept (stage' : Stage) (before : s.workers i = .running job stage') :
      ∃ row, Known (Social.step rt settings registry s e).database job row := by
    obtain ⟨row, known'⟩ := known i job stage' before
    obtain ⟨a, change, -⟩ := step_change rt settings registry known e job.id
    exact known'.kept change
  cases e with
  | request | recoverStaleJobs => exact kept stage running
  | worker j e =>
    by_cases same : i = j
    · subst same
      have reacts := react_reacts rt settings registry s.database e (s.workers i)
      have now_ : (react rt settings registry s.database e (s.workers i)).worker =
          .running job stage := by simpa [Social.step] using running
      rcases reacts.running now_ with ⟨stage', before⟩ | ⟨row, now, _, rfl, after⟩
      · exact kept stage' before
      · exact ⟨_, after, rfl, Nat.succ_pos _, Nat.le_refl _, fun _ _ => rfl⟩
    · exact kept stage (by simpa [Social.step, same] using running)

/-- The ledger of every job was written lawfully, and its row and attempts are read off it. -/
structure Books (s : State ι) : Prop where
  known : AllKnown s
  lawful : ∀ id, Lawful final (actionsOf s.log id)
  tally : ∀ id row, s.database.job? id = some row → Tally row (s.database.attemptsOf id)
    (ledgerOf s.log id)
  absent : ∀ id, s.database.job? id = none → actionsOf s.log id = [] ∧ s.database.attemptsOf id = []

theorem Tally.initial (initial : row.toJobProgress = .initial) : Tally row [] (.of []) := by
  constructor <;> simp [initial, JobProgress.initial, of, jobState, Ledger.token, reports,
    jobCertainty]

omit [DecidableEq ι] in
theorem books_initial : Books (State.initial ι) := by
  constructor
  · intro i job stage running
    cases running
  · exact fun _ => trivial
  · intro id row found
    cases found
  · exact fun _ _ => ⟨rfl, rfl⟩

theorem books_stable : (system (ι := ι) rt settings registry).Stable Books := by
  intro s e _ books
  have changes := step_change rt settings registry books.known e
  refine ⟨books.known.step rt registry e, ?_, ?_, ?_⟩
  · intro id
    obtain ⟨a, change, noted⟩ := changes id
    simp only [system, noted]
    cases change with
    | absent | created => exact books.lawful id
    | progressed before _ progress =>
      exact (progress.tally (books.tally id _ before) (books.lawful id)).1
  · intro id row after'
    obtain ⟨a, change, noted⟩ := changes id
    simp only [system, ledgerOf, noted] at after' ⊢
    cases change with
    | absent _ after => simp [after] at after'
    | created before after initial attempts =>
      cases after.symm.trans after'
      obtain ⟨noActions, noAttempts⟩ := books.absent id before
      simp only [attempts, noAttempts, noActions]
      exact Tally.initial initial
    | progressed before after progress =>
      cases after.symm.trans after'
      exact (progress.tally (books.tally id _ before) (books.lawful id)).2
  · intro id after'
    obtain ⟨a, change, noted⟩ := changes id
    simp only [system, noted] at after' ⊢
    cases change with
    | absent before _ attempts =>
      obtain ⟨noActions, noAttempts⟩ := books.absent id before
      exact ⟨noActions, attempts.trans noAttempts⟩
    | created _ after | progressed _ after => simp [after] at after'

omit [DecidableEq ι] in
theorem Books.countP_completions (books : Books s) {id : UUID}
    (found : s.database.job? id = some row) :
    (ledgerOf s.log id).reports.countP isCompletion = if row.state = .completed then 1 else 0 := by
  have closing : ∀ r, isCompletion r = true → r.final = true := by
    intro r completion
    cases r with
    | completed => rfl
    | retry | deadLetter => cases completion
  rw [(books.tally id row found).state, ledgerOf, (books.lawful id).countP_reports closing]
  split
  next completed => rw [endsWith_completion_iff.mpr completed, toNat_true]
  next other =>
    rw [← endsWith_completion_iff, not_eq_true] at other
    rw [other, toNat_false]

end Books

end Publishing

/-! ## A sample deployment -/

namespace Sample

def runtime : Runtime where
  sha256 := id
  texts := ⟨fun _ => "", fun _ => ""⟩
  stripLower := id

def settings : Settings where
  postizInternalBaseUrl := "postiz"
  postizApiKeyFile := "/run/secrets/postiz"
  postizDeliveryEnabled := true
  postizPublishEnabled := true
  hootsuiteClientIdFile := ""
  hootsuiteClientSecretFile := ""
  socialIntegrationEnabled := true
  socialPublishEnabled := true
  socialSqlRepositoryEnabled := true
  socialWorkerEnabled := true
  socialWorkerId := "postly-social-01"
  socialWorkerLeaseSeconds := 60
  socialJobMaxAttempts := 5
  socialProductionMode := true
  socialProductionCanaryEnabled := true
  socialProductionCanaryAccountIds := some [1]
  socialProductionCanaryTenantIds := some []
  socialProductionCanaryCampaignIds := some []
  socialProductionBackupGateVerified := true
  socialProductionRollbackGateVerified := true
  socialProductionWebhookGateVerified := true
  socialProductionMonitoringGateVerified := true
  socialAutomaticProviderFailoverEnabled := false
  socialAutomaticDualPublishEnabled := false

def account : SocialAccount where
  id := 1
  provider := .postly
  providerAccountId := "channel"
  connectionState := "connected"
  metadata := ⟨[("classification", .str "PRODUCTION_APPROVED_CANARY")], by decide⟩

def post : PostRequest where
  tenantId := 2
  provider := .postly
  accountIds := [1]
  content := ⟨[("text", .str "hello")], by decide⟩
  campaignId := none
  publishAt := none
  metadata := ⟨[], PythonValue.no_entries⟩
  idempotencyKey := "create"
  correlationId := "correlation"
  requestId := "request"
  postId := some 10

def command (action : JobType) (key : String) : CommandRequest where
  action
  idempotencyKey := key
  correlationId := "correlation"
  requestId := "request"
  productionContext := if action = .publish then some {
      tenantId := 2
      campaignId := none
      accountId := 1
      provider := .postly
      classification := "PRODUCTION_APPROVED_CANARY"
      connectionState := "connected"
      contentApproved := true }
    else none

def accepted : PostizExchange := .response 200 (.json (.dict [("id", .str "reference")]))

abbrev Run := List (Event Unit PostizExchange)

def created : Run := [.request (.putAccount account), .request (.create post 0 10 20),
  .worker () (.claim 0 fun _ => false), .worker () .load, .worker () (.prepare accepted), .worker ()
    (.fail 0 1000000)]

def enqueue (action : JobType) (key : String) (jobId : UUID) : Event Unit PostizExchange :=
  .request (.enqueue (command action key) 1 10 jobId)

def send (now : Int) : Run :=
  [.worker () (.claim now fun _ => false), .worker () .load, .worker () (.prepare accepted),
    .worker () .call]

end Sample

end CodestraMiddleware.Social
