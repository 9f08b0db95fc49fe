import CodestraMiddleware.AiJobs.Lifecycle

/-!
# Fencing tokens and attempt counters

`claim` is the only statement that advances `fencing_token` and `attempt_count`, and it inserts the
attempt of that number in the same transaction, so the three counters stay equal.
-/
namespace CodestraMiddleware.AiJobs

open Relational Transition Sample List Database JobRecord JobAttempt Entry

/-- Token, attempts and attempt rows are counted alike. -/
structure JobRecord.Counters (r : JobRecord) : Prop where
  token : r.fencingToken = r.attemptCount
  rows : r.attempts.rows.length = r.attemptCount
  numbers : r.attempts.rows.map attemptNumber = range' 1 r.attemptCount
  bounded : r.attemptCount ≤ r.maxAttempts
  capped : r.maxAttempts ≤ 10

structure JobRecord.Counted (r : JobRecord) : Prop extends r.Counters where
  ready : r.state = .queued ∨ r.state = .retryWait → r.attemptCount < r.maxAttempts

@[simp] theorem closeAttempts_numbers (now : Int) (state : JobState)
    (errorCode : JobAttempt → Option String) (p : JobAttempt → Bool)
    (attempts : Table attemptNumber) :
    (closeAttempts now state errorCode p attempts).rows.map attemptNumber = attempts.rows.map
    attemptNumber := by
  simp only [closeAttempts, Table.rows_update, map_map]
  apply map_congr_left
  intro a _
  simp only [Function.comp_apply]
  split <;> rfl

section Counters

variable {cfg : Config} {now : Int} {op : Op} {reply : Reply} {r r' : JobRecord}

theorem JobRecord.Counters.of_numbers (token : r.fencingToken = r.attemptCount)
    (numbers : r.attempts.rows.map attemptNumber = range' 1 r.attemptCount)
    (bounded : r.attemptCount ≤ r.maxAttempts) (capped : r.maxAttempts ≤ 10) : r.Counters := by
  refine ⟨token, ?_, numbers, bounded, capped⟩
  have length := congrArg List.length numbers
  simpa using length

theorem JobRecord.Counted.keep (counted : r.Counted)
    (attempts : r'.attempts.rows.map attemptNumber =
      r.attempts.rows.map attemptNumber) (count : r'.attemptCount = r.attemptCount)
    (token : r'.fencingToken = r.fencingToken) (limit : r'.maxAttempts = r.maxAttempts)
    (ready : r'.state = .queued ∨ r'.state = .retryWait → r.attemptCount < r.maxAttempts) :
    r'.Counted := by
  refine ⟨.of_numbers ?_ ?_ ?_ ?_, ?_⟩
  · rw [token, count]
    exact counted.token
  · rw [attempts, count]
    exact counted.numbers
  · rw [count, limit]
    exact counted.bounded
  · rw [limit]
    exact counted.capped
  · rw [count, limit]
    exact ready

theorem GenerationJob.finishState_retries {j : GenerationJob}
    (asked : completionState = .completed ∨ completionState = .approvalRequired)
    (again : j.finishState report completionState = .queued ∨
      j.finishState report completionState = .retryWait) : j.attemptCount < j.maxAttempts := by
  unfold finishState at again
  split_ifs at again with _ _ left
  · simp at again
  · rcases asked with rfl | rfl <;> simp at again
  · exact left.2
  · simp at again
  · simp at again

theorem JobStep.counted (moved : JobStep cfg now op reply r r') (counted : r.Counted) :
    r'.Counted := by
  cases moved with
  | idle => exact counted
  | claim ready taken =>
    obtain ⟨attempts, inserted, rfl⟩ := Option.map_eq_some_iff.mp taken
    -- The job was waiting, so an attempt was left to spend.
    have left := counted.ready ready.1
    refine ⟨.of_numbers ?_ ?_ left counted.capped, by simp⟩
    · exact congrArg (· + 1) counted.token
    · change attempts.rows.map attemptNumber = range' 1 (r.attemptCount + 1)
      rw [Table.rows_insert? inserted, map_append, counted.numbers, range'_concat]
      simp [Nat.add_comm]
  | finish =>
    exact counted.keep (closeAttempts_numbers ..) rfl rfl rfl
      (GenerationJob.finishState_retries (.inl rfl))
  | complete _ _ prepared =>
    obtain ⟨job, attempts, -, -, asked⟩ := prepared.spec
    refine counted.keep ?_ (congrArg (·.attemptCount) job) (congrArg (·.fencingToken) job)
      (congrArg (·.maxAttempts) job) (GenerationJob.finishState_retries
        (asked.imp And.left And.left))
    rw [← attempts]
    exact closeAttempts_numbers ..
  | workerCancel | recoverCancelled =>
    exact counted.keep (closeAttempts_numbers ..) rfl rfl rfl (by simp [cancelLease])
  | consoleCancel =>
    refine counted.keep rfl rfl rfl rfl fun again => counted.ready ?_
    by_cases waiting : r.state ∈ [.queued, .retryWait]
    · simpa using waiting
    · simpa [consoleCancelled, waiting] using again
  | orchestrationCancel =>
    refine counted.keep rfl rfl rfl rfl fun again => ?_
    simp only [orchestrationCancelled] at again
    split at again <;> simp at again
  | @decide _ _ _ approved =>
    refine counted.keep rfl rfl rfl rfl fun again => ?_
    cases approved <;> simp [decidedJobState] at again
  | retry _ _ _ bounded =>
    -- The retry adds the attempt it needs.
    have before := counted.bounded
    exact ⟨.of_numbers counted.token counted.numbers (Nat.le_succ_of_le before) bounded,
      fun _ => Nat.lt_succ_of_le before⟩
  -- The statement itself tests that an attempt is left.
  | recoverRetried _ left => exact counted.keep rfl rfl rfl rfl fun _ => left
  | recoverDead => exact counted.keep rfl rfl rfl rfl (by simp [leaseExpired])
  | expire passed =>
    simp only [JobRecord.expire, if_pos passed]
    exact counted.keep rfl rfl rfl rfl (by simp)
  | _ =>
    exact counted.keep rfl rfl rfl rfl counted.ready

theorem Fresh.counted (fresh : Fresh now r) : r.Counted := by
  obtain ⟨_, _, atLeast, atMost, rfl⟩ := fresh
  refine ⟨.of_numbers rfl rfl (Nat.zero_le _) ?_, fun _ => atLeast⟩
  exact Nat.le_trans atMost (by decide)

end Counters

theorem stable_counted (cfg : Config) (admits : Op → Prop) :
    (system cfg admits).Stable (State.Each fun _ => Counted) :=
  stable_each (fun _ counted => counted) Fresh.counted fun _ moved => moved.counted

/-! ## Leases in the history of calls -/

def Entry.claimOf (id : UUID) (e : Entry) : Option (String × Nat) :=
  match e.op, e.outcome with
  | .claim c, .ok (_, .claimed job) =>
    if job.id = id then some (c.workerId, job.fencingToken) else none
  | _, _ => none

def Entry.expiryOf (id : UUID) (e : Entry) : Option Int :=
  match e.op, e.outcome with
  | .claim _, .ok (_, .claimed job) => if job.id = id then job.leaseExpiresAt else none
  | .heartbeat call _, .ok (_, .renewed expires) => if call.jobId = id then some expires else none
  | _, _ => none

def lastClaim (id : UUID) (history : List Entry) : Option (String × Nat) :=
  history.findSome? (claimOf id)

def lastExpiry (id : UUID) (history : List Entry) : Option Int :=
  history.findSome? (expiryOf id)

/-- A job's lease columns and token are those of the last claim and renewal. -/
def State.LeaseRecorded (s : State) : Prop :=
  ∀ id r, s.db.job? id = some r → ∀ w, r.leaseOwner = some w →
    lastClaim id s.history = some (w, r.fencingToken) ∧
      r.leaseExpiresAt = lastExpiry id s.history ∧ r.leaseExpiresAt.isSome

section History

variable {cfg : Config} {now : Int} {op : Op} {reply : Reply} {db db' : Database}

theorem claim_answer {c : ClaimRequest} (ok : claim now c db = .ok (db', .claimed job)) :
    ∃ leased : JobRecord, db'.job? job.id = some leased ∧ leased.toGenerationJob = job ∧
      leased.leaseOwner = some c.workerId ∧ leased.leaseExpiresAt.isSome := by
  rcases claim_ok ok with ⟨-, answer⟩ | ⟨_, r, leased, -, member, -, taken, rfl, answer⟩
  · cases answer
  · cases answer
    have same := leaseTo_id taken
    have found : db.job? leased.id = some r := by
      rw [same]
      exact db.jobs.find?_of_mem member
    refine ⟨leased, job?_put_self found, rfl, ?_⟩
    obtain ⟨_, -, rfl⟩ := Option.map_eq_some_iff.mp taken
    exact ⟨rfl, rfl⟩

theorem heartbeat_answer {secs : Int}
    (ok : heartbeat now call secs db = .ok (db', .renewed expires)) :
    ∃ r, db.job? call.jobId = some r ∧
      db'.job? call.jobId = some { r with leaseExpiresAt := some expires } := by
  unfold heartbeat at ok
  split at ok
  · cases ok
  next r held =>
    cases ok
    obtain ⟨found, -⟩ := assertLease_ok.mp held
    have key := job?_id found
    refine ⟨r, found, ?_⟩
    rw [← key] at found ⊢
    exact job?_put_self found

/-- Only a claim or a heartbeat writes lease columns that stay set, and a heartbeat only while the
lease still runs. -/
theorem JobStep.lease_kept {r : JobRecord} (moved : JobStep cfg now op reply r r')
    (leased : r'.leaseOwner.isSome) :
    (r'.leaseOwner = r.leaseOwner ∧ r'.fencingToken = r.fencingToken ∧
      r'.leaseExpiresAt = r.leaseExpiresAt) ∨
    (∃ c, op = .claim c ∧ reply = .claimed r'.toGenerationJob ∧ r'.leaseOwner = some c.workerId ∧
      c.scope.Covers r.toGenerationJob) ∨
      (∃ call secs, op = .heartbeat call secs ∧ call.jobId = r.id ∧
      reply = .renewed (now + makeInterval secs) ∧ r'.leaseOwner = r.leaseOwner ∧
      ∃ t ∈ r.leaseExpiresAt, now < t) := by
  cases moved with
  | claim ready taken =>
    obtain ⟨_, -, rfl⟩ := Option.map_eq_some_iff.mp taken
    exact .inr (.inl ⟨_, rfl, rfl, rfl, ready.2.2.2.2.1⟩)
  | heartbeat target lease => exact .inr (.inr ⟨_, _, rfl, target.symm, rfl, rfl, lease.2.2.2.1⟩)
  | finish | complete | workerCancel | recoverCancelled | recoverRetried | recoverDead =>
    cases leased
  | expire passed => simp [JobRecord.expire, passed] at leased
  | _ => exact .inl ⟨rfl, rfl, rfl⟩

theorem claimOf_some {id : UUID} {e : Entry} (claims : e.claimOf id = some pair) :
    ∃ c job db', e.op = .claim c ∧ e.outcome = .ok (db', .claimed job) ∧ job.id = id ∧
      pair = (c.workerId, job.fencingToken) := by
  unfold claimOf at claims
  split at claims
  next c db' job op outcome =>
    split at claims
    next key =>
      cases claims
      exact ⟨c, job, db', op, outcome, key, rfl⟩
    next => cases claims
  next => cases claims

theorem expiryOf_some {id : UUID} {e : Entry} (ends : e.expiryOf id = some expires) :
    (e.claimOf id).isSome ∨ ∃ call secs db', e.op = .heartbeat call secs ∧
      e.outcome = .ok (db', .renewed expires) ∧ call.jobId = id := by
  unfold expiryOf at ends
  split at ends
  next c db' job op outcome =>
    split at ends
    next key => exact .inl (by simp [claimOf, op, outcome, key])
    next => cases ends
  next call secs db' t op outcome =>
    split at ends
    next key =>
      cases ends
      exact .inr ⟨call, secs, db', op, outcome, key⟩
    next => cases ends
  next => cases ends

theorem stable_leaseRecorded (cfg : Config) (admits : Op → Prop) :
    (system cfg admits).Stable State.LeaseRecorded := by
  intro s e _ recorded id r' found' w owner
  change (step cfg s e).db.job? id = some r' at found'
  change lastClaim id (step cfg s e).history = _ ∧ _ = lastExpiry id (step cfg s e).history ∧ _
  simp only [step_history, lastClaim, lastExpiry, findSome?_cons]
  -- Did this call claim the job, renew it, or neither?
  cases claims : (e.entry cfg s.db).claimOf id with
  | some pair =>
    obtain ⟨c, job, db', op, ok, key, rfl⟩ := claimOf_some claims
    change e.op = _ at op
    change exec cfg e.now e.op s.db = _ at ok
    subst key
    rw [step_db_ok ok] at found'
    rw [op] at ok
    obtain ⟨_, there, row, owned, expires⟩ := claim_answer ok
    cases there.symm.trans found'
    rw [owned] at owner
    cases owner
    refine ⟨by simp [← row], ?_, expires⟩
    obtain ⟨t, set⟩ := Option.isSome_iff_exists.mp expires
    simp [expiryOf, Event.entry, op, ok, ← row, set]
  | none =>
    cases ends : (e.entry cfg s.db).expiryOf id with
    | some t =>
      rcases expiryOf_some ends with claimed | ⟨call, secs, db', op, ok, key⟩
      · simp [claims] at claimed
      change e.op = _ at op
      change exec cfg e.now e.op s.db = _ at ok
      subst key
      rw [step_db_ok ok] at found'
      rw [op] at ok
      obtain ⟨r, found, there⟩ := heartbeat_answer ok
      cases there.symm.trans found'
      obtain ⟨claim, -, -⟩ := recorded call.jobId r found w owner
      exact ⟨claim, rfl, rfl⟩
    | none =>
      -- Neither: then the lease columns and both lookups are as before the call.
      rcases step_origin found' with ⟨r, _, found, moved, reported⟩ | ⟨-, fresh⟩
      · have key := job?_id found'
        have old := recorded id r found
        rcases reported with rfl | ⟨db', ok⟩
        · exact old w owner
        rcases moved.lease_kept (by simp [owner]) with same | ⟨c, op, answer, -⟩ | renewal
        · obtain ⟨owners, tokens, expiries⟩ := same
          rw [tokens, expiries]
          exact old w (owners ▸ owner)
        · simp [claimOf, Event.entry, op, answer, op ▸ ok, key] at claims
        · obtain ⟨_, _, op, target, answer, -⟩ := renewal
          have key := job?_id found
          simp [expiryOf, Event.entry, op, answer, op ▸ ok, target, key] at ends
      · obtain ⟨_, _, -, -, rfl⟩ := fresh
        cases owner

end History

/-! ## Calls under a lease -/

/-- The job, worker and token of a call that is checked against a lease. -/
def Op.credentials : Op → Option (UUID × String × Nat)
  | .heartbeat call _ => some (call.jobId, call.workerId, call.fencingToken)
  | .appendChunk call _ _ _ => some (call.jobId, call.workerId, call.fencingToken)
  | .finish call _ => some (call.jobId, call.workerId, call.fencingToken)
  | .completeJob c => some (c.jobId, c.workerId, c.fencingToken)
  | .workerCancel job worker token _ _ => some (job, worker, token)
  | _ => none

theorem JobStep.fenced {now : Int} {op : Op} (moved : JobStep cfg now op reply r r')
    (presented : op.credentials = some (job, w, t)) (changed : r' ≠ r) :
    r.id = job ∧ r.leaseOwner = some w ∧ r.fencingToken = t ∧ ∃ x ∈ r.leaseExpiresAt, now < x := by
  cases moved with
  | idle => exact absurd rfl changed
  | heartbeat target lease | appendChunk target lease | finish target lease | complete target lease
  | workerCancel target lease =>
    cases presented
    exact ⟨target, lease.fenced⟩
  | _ => cases presented

/-- A worker's call changes a job only if that worker made the job's last claim, presents the token
it got, and the lease it last renewed still runs. -/
def Fences (cfg : Config) (s : State) (e : Event) : Prop :=
  ∀ job w t, e.op.credentials = some (job, w, t) → ∀ id r, s.db.job? id = some r →
    ∃ r', (step cfg s e).db.job? id = some r' ∧
      (r' ≠ r → id = job ∧ lastClaim id s.history = some (w, t) ∧
        ∃ expires, lastExpiry id s.history = some expires ∧ e.now < expires) ∧
        (t ≠ r.fencingToken → r' = r)

theorem step_fences (e : Event) (recorded : s.LeaseRecorded) : Fences cfg s e := by
  intro job w t presented id r found
  obtain ⟨_, r', found', moved, -⟩ := step_job cfg e found
  refine ⟨r', found', ?_, ?_⟩
  · intro changed
    -- The row that passed `assert_lease` names the caller, and the history agrees with the row.
    obtain ⟨target, owner, token, x, expires, live⟩ := moved.fenced presented changed
    obtain ⟨claim, expiry, -⟩ := recorded id r found w owner
    rw [token] at claim
    exact ⟨(job?_id found).symm.trans target, claim, x, expiry ▸ expires, live⟩
  · intro stale
    by_contra changed
    exact stale (moved.fenced presented changed).2.2.1.symm

/-- Fencing, over every run of all operations: the counters agree and stay bounded in every state,
and no worker's call changes a job except under its last claim and before the lease ran out. -/
theorem fencing (cfg : Config) (start : Int) (es : List Event)
    (run : (fullSystem cfg).Run (.initial start) es) :
    (fullSystem cfg).Always (State.Each fun _ => Counters) (.initial start) es ∧
      (fullSystem cfg).Along (Fences cfg) (.initial start) es := by
  constructor
  · exact (stable_counted cfg _).always (fun s counted id r found =>
      (counted id r found).toCounters) (each_initial _ start) run
  · refine (stable_leaseRecorded cfg _).along (fun s e _ recorded => step_fences e recorded) ?_ run
    intro id r found
    cases found

/-- A second worker claims the job after the first one's lease ran out, and the first one calls
again. -/
theorem fencing_reclaimed : (fullSystem config).Always (State.Each fun _ => Counters) (.initial 0)
      [submitAt 0 false 1, claimAt 1 "a", ⟨70000000, .recoverExpired ⟨none, none⟩⟩,
        claimAt 70000001 "b", completeAt 70000002 "a" 1] ∧ (fullSystem config).Along (Fences config)
      (.initial 0) [submitAt 0 false 1, claimAt 1 "a", ⟨70000000, .recoverExpired ⟨none, none⟩⟩,
        claimAt 70000001 "b", completeAt 70000002 "a" 1] :=
  fencing config 0 _ (run_iff.mpr ⟨by decide, fun _ _ => trivial⟩)

end CodestraMiddleware.AiJobs
