import CodestraMiddleware.AiJobs.Output

/-!
# The ledger of attempts

`claim` opens a row of `ai_job_attempts`; whatever ends the lease has to close it. `finish`,
`worker_cancel` and the recovery of a cancelled lease do.
-/
namespace CodestraMiddleware.AiJobs

open Relational Transition Sample Option JobRecord

def JobAttempt.Closed (a : JobAttempt) : Prop := a.finishedAt.isSome ∧ a.state ≠ .leased

instance (a : JobAttempt) : Decidable a.Closed := inferInstanceAs (Decidable (_ ∧ _))

/-- Only the attempt under the lease is open. -/
structure JobRecord.LedgerClosed (r : JobRecord) : Prop where
  -- Attempts of an earlier token, or of a job that is not leased, are closed.
  ended : ∀ a ∈ r.attempts.rows, a.fencingToken < r.fencingToken ∨
    (r.state ≠ .leased ∧ r.state ≠ .cancelRequested) → a.Closed
  single : ∀ a ∈ r.attempts.rows, ∀ b ∈ r.attempts.rows, ¬ a.Closed → ¬ b.Closed → a = b
  leased : ∀ a ∈ r.attempts.rows, ¬ a.Closed → r.leaseOwner.isSome

/-- The call ends the job's lease without closing its attempt. -/
def JobRecord.Abandons (now : Int) (r : JobRecord) : Op → Prop
  | .recoverExpired scope => r.LeaseLapsed now scope
  | .expireDeadlines scope => r.state = .leased ∧ r.DeadlinePassed now scope
  | _ => False

/-! ## The open attempt -/

/-- Attempts are numbered by their tokens, and a lease has an open attempt of its holder. -/
structure JobRecord.LedgerSound (r : JobRecord) : Prop where
  numbered : ∀ a ∈ r.attempts.rows, a.attemptNumber = a.fencingToken
  opened : ∀ w, r.leaseOwner = some w → ∃ a ∈ r.attempts.rows,
    a.fencingToken = r.fencingToken ∧ a.workerId = w ∧ a.finishedAt = none

/-- Only the attempt of the current token is open, and only under a lease. -/
def JobRecord.OpenUnderLease (r : JobRecord) : Prop :=
  ∀ a ∈ r.attempts.rows, ¬ a.Closed → a.fencingToken = r.fencingToken ∧ r.leaseOwner.isSome

variable {state : JobState}

section Steps

variable {cfg : Config} {now : Int} {op : Op} {reply : Reply} {r r' : JobRecord}

section

variable (sound : r.LedgerSound)

include sound

theorem JobRecord.LedgerSound.same_token (first : a ∈ r.attempts.rows)
    (second : b ∈ r.attempts.rows) (same : a.fencingToken = b.fencingToken) : a = b := by
  apply r.attempts.eq_of_key first second
  rw [sound.numbered a first, sound.numbered b second, same]

theorem JobRecord.ledgerClosed_iff (shape : r.LeaseShape)
    (bounded : ∀ a ∈ r.attempts.rows, a.fencingToken ≤ r.fencingToken) : r.LedgerClosed ↔
    r.OpenUnderLease := by
  constructor
  · intro closed a member openRow
    have current : ¬ a.fencingToken < r.fencingToken := fun earlier =>
      openRow (closed.ended a member (.inl earlier))
    exact ⟨Nat.le_antisymm (bounded a member) (Nat.le_of_not_lt current),
      closed.leased a member openRow⟩
  · intro only
    refine ⟨?_, ?_, fun a member openRow => (only a member openRow).2⟩
    · intro a member past
      by_contra openRow
      obtain ⟨_, owner⟩ := only a member openRow
      rcases past with earlier | ⟨unleased, unasked⟩
      · omega
      · simp [shape.freed unleased unasked] at owner
    · intro a first b second openA openB
      exact sound.same_token first second
        ((only a first openA).1.trans (only b second openB).1.symm)

theorem JobRecord.LedgerSound.keep (attempts : r'.attempts = r.attempts)
    (token : r'.fencingToken = r.fencingToken)
    (owner : r'.leaseOwner = r.leaseOwner ∨ r'.leaseOwner = none) : r'.LedgerSound := by
  constructor
  · rw [attempts]
    exact sound.numbered
  · intro w held
    rw [attempts, token]
    rcases owner with same | free
    · exact sound.opened w (same ▸ held)
    · simp [free] at held

theorem JobRecord.LedgerSound.close
    (attempts : r'.attempts = closeAttempts now state errorCode p r.attempts)
    (free : r'.leaseOwner = none) : r'.LedgerSound := by
  constructor
  · intro a' member
    rw [attempts] at member
    obtain ⟨a, old, ⟨-, rfl⟩ | ⟨-, rfl⟩⟩ := mem_closeAttempts.mp member
    · exact sound.numbered a old
    · exact sound.numbered a' old
  · intro w held
    simp [free] at held

end

theorem JobStep.ledgerSound (moved : JobStep cfg now op reply r r') (counted : r.Counted)
    (sound : r.LedgerSound) : r'.LedgerSound := by
  cases moved with
  | claim _ taken =>
    obtain ⟨attempts, inserted, rfl⟩ := map_eq_some_iff.mp taken
    constructor
    · intro a member
      rcases (Table.mem_insert? inserted).mp member with old | rfl
      · exact sound.numbered a old
      · exact congrArg (· + 1) counted.token.symm
    · intro w held
      cases held
      exact ⟨_, (Table.mem_insert? inserted).mpr (.inr rfl), rfl, rfl, rfl⟩
  | finish | workerCancel | recoverCancelled => exact sound.close rfl rfl
  | complete _ _ prepared =>
    obtain ⟨job, attempts, -, -, -⟩ := prepared.spec
    have stored := sound.keep attempts (congrArg (·.fencingToken) job)
      (.inl (congrArg (·.leaseOwner) job))
    exact stored.close rfl rfl
  | recoverRetried | recoverDead => exact sound.keep rfl rfl (.inr rfl)
  | expire passed =>
    simp only [JobRecord.expire, if_pos passed]
    exact sound.keep rfl rfl (.inr rfl)
  | idle => exact sound
  | _ => exact sound.keep rfl rfl (.inl rfl)

theorem JobRecord.OpenUnderLease.keep (only : r.OpenUnderLease)
    (attempts : r'.attempts = r.attempts)
    (token : r'.fencingToken = r.fencingToken) (owner : r'.leaseOwner = r.leaseOwner) :
    r'.OpenUnderLease := by
  rw [OpenUnderLease, attempts, token, owner]
  exact only

theorem JobRecord.OpenUnderLease.free (only : r.OpenUnderLease) (unleased : r.leaseOwner = none)
    (attempts : r'.attempts = r.attempts) : r'.OpenUnderLease := by
  intro a member openRow
  rw [attempts] at member
  have held := (only a member openRow).2
  simp [unleased] at held

theorem JobRecord.OpenUnderLease.close (only : r.OpenUnderLease) (ended : state ≠ .leased)
    (matched : ∀ a ∈ r.attempts.rows, a.fencingToken = r.fencingToken → p a = true)
    (attempts : r'.attempts = closeAttempts now state errorCode p r.attempts) :
    r'.OpenUnderLease := by
  intro a' member openRow
  rw [attempts] at member
  obtain ⟨a, old, ⟨-, rfl⟩ | ⟨skipped, rfl⟩⟩ := mem_closeAttempts.mp member
  · exact absurd ⟨rfl, ended⟩ openRow
  · have current := (only a' old openRow).1
    rw [matched a' old current] at skipped
    cases skipped

theorem JobStep.openUnderLease (moved : JobStep cfg now op reply r r') (shape : r.LeaseShape)
    (sound : r.LedgerSound) (only : r.OpenUnderLease) (spared : ¬ r.Abandons now op) :
    r'.OpenUnderLease := by
  cases moved with
  | idle => exact only
  | claim ready taken =>
    -- Before the claim no attempt was open, for the job had no lease.
    obtain ⟨attempts, inserted, rfl⟩ := map_eq_some_iff.mp taken
    have unleased : r.leaseOwner = none := by
      rcases ready.1 with state | state <;>
        exact shape.freed (by simp [state]) (by simp [state])
    intro a member openRow
    rcases (Table.mem_insert? inserted).mp member with old | rfl
    · have leased := (only a old openRow).2
      simp [unleased] at leased
    · exact ⟨rfl, rfl⟩
  | finish _ lease =>
    refine only.close (GenerationJob.finishState_withoutLease _ (.inl rfl)).1 ?_ rfl
    intro a _ current
    exact decide_eq_true (current.trans lease.2.2.1)
  | complete _ lease prepared =>
    obtain ⟨job, attempts, -, -, asked⟩ := prepared.spec
    have stored := only.keep attempts (congrArg (·.fencingToken) job) (congrArg (·.leaseOwner) job)
    refine stored.close (GenerationJob.finishState_withoutLease _ (asked.imp And.left And.left)).1
      ?_ rfl
    intro a _ current
    have token : _ = r.fencingToken := congrArg (·.fencingToken) job
    exact decide_eq_true ((current.trans token).trans lease.2.2.1)
  | workerCancel _ lease =>
    -- The open attempt is the caller's own.
    obtain ⟨_, there, token, worker, -⟩ := sound.opened _ lease.2.1
    refine only.close (by decide) ?_ rfl
    intro a member current
    cases sound.same_token member there (current.trans token.symm)
    exact decide_eq_true ⟨current.trans lease.2.2.1, worker⟩
  | recoverCancelled => exact only.close (by decide) (fun a _ current => decide_eq_true current) rfl
  | recoverRetried lapsed | recoverDead lapsed => exact absurd lapsed spared
  | expire passed =>
    simp only [JobRecord.expire, if_pos passed]
    -- A waiting job has nothing to close; a leased one is the case excluded.
    refine only.free ?_ rfl
    rcases passed.1 with state | state | state
    · exact shape.freed (by simp [state]) (by simp [state])
    · exact shape.freed (by simp [state]) (by simp [state])
    · exact absurd ⟨state, passed⟩ spared
  | _ => exact only.keep rfl rfl rfl

theorem JobRecord.abandoned (shape : r.LeaseShape) (sound : r.LedgerSound)
    (leased : r.state = .leased) (attempts : r'.attempts = r.attempts)
    (free : r'.leaseOwner = none) : ¬ r'.OpenUnderLease := by
  intro only
  obtain ⟨w, owner⟩ := isSome_iff_exists.mp (shape.held leased)
  obtain ⟨a, member, -, -, unfinished⟩ := sound.opened w owner
  rw [← attempts] at member
  have held := (only a member (by simp [JobAttempt.Closed, unfinished])).2
  simp [free] at held

end Steps

/-- The event takes a job from an attempt that stays open. -/
def AbandonsAttempt (s : State) (e : Event) : Prop :=
  ∃ id r, s.db.job? id = some r ∧ r.Abandons e.now e.op

structure JobRecord.AttemptsSound (r : JobRecord) : Prop extends r.Consistent where
  counted : r.Counted
  ledger : r.LedgerSound

theorem stable_attemptsSound (cfg : Config) :
    (jobSystem cfg).Stable (State.Each fun _ => AttemptsSound) := by
  refine stable_each (fun _ sound => sound) ?_ ?_
  · intro now r fresh
    refine ⟨⟨fresh.pendingParked, fresh.leaseShape⟩, fresh.counted, ?_⟩
    obtain ⟨_, _, -, -, rfl⟩ := fresh
    exact ⟨by rintro attempt ⟨⟩, by rintro worker ⟨⟩⟩
  · intro now op reply r r' opens moved sound
    exact ⟨⟨moved.pendingParked opens sound.parked, moved.leaseShape sound.parked sound.shape⟩,
      moved.counted sound.counted, moved.ledgerSound sound.counted sound.ledger⟩

/-- The attempts of every job are numbered, fenced and closed in order, whatever happens. -/
theorem attempts_sound (run : (jobSystem cfg).Run (.initial start) es) :
    (jobSystem cfg).Always (State.Each fun _ => AttemptsSound) (.initial start) es :=
  (stable_attemptsSound cfg).always (fun _ sound => sound) (each_initial _ start) run

theorem JobRecord.AttemptsSound.closed_iff {r : JobRecord} (sound : r.AttemptsSound) :
    r.LedgerClosed ↔ r.OpenUnderLease := by
  apply r.ledgerClosed_iff sound.ledger sound.shape
  intro a member
  -- Tokens are attempt numbers, and these run from one to the current token.
  have number : a.attemptNumber ∈ r.attempts.rows.map JobAttempt.attemptNumber :=
    List.mem_map_of_mem member
  rw [sound.counted.numbers, List.mem_range'_1] at number
  have token := sound.counted.token
  rw [← sound.ledger.numbered a member]
  omega

theorem step_abandons (cfg : Config) {id : UUID} (found : s.db.job? id = some r)
    (sound : r.AttemptsSound)
    (abandons : r.Abandons e.now e.op) : ∃ r', (step cfg s e).db.job? id = some r' ∧
    ¬ r'.OpenUnderLease := by
  obtain ⟨now, op⟩ := e
  cases op with
  | recoverExpired scope =>
    have lapsed : r.LeaseLapsed now scope := abandons
    rcases Nat.lt_or_ge r.attemptCount r.maxAttempts with left | exhausted
    · refine ⟨r.requeued now, ?_, abandoned sound.shape sound.ledger lapsed.1 rfl rfl⟩
      rw [step_recover, found, map_some, recover_of_left lapsed left]
    · refine ⟨r.leaseExpired now, ?_, abandoned sound.shape sound.ledger lapsed.1 rfl rfl⟩
      rw [step_recover, found, map_some, recover_of_exhausted lapsed exhausted]
  | expireDeadlines scope =>
    obtain ⟨leased, passed⟩ := abandons
    refine ⟨r.expire now scope, ?_, abandoned sound.shape sound.ledger leased ?_ ?_⟩
    · rw [step_expire, found, map_some]
    · simp [expire, passed]
    · simp [expire, passed]
  | _ => exact abandons.elim

theorem step_ledger_iff {s : State} (e : Event)
    (admitted : (jobSystem cfg).admits s e) (sound : s.Each fun _ => AttemptsSound)
    (closed : s.Each fun _ => LedgerClosed) :
    (step cfg s e).Each (fun _ => LedgerClosed) ↔ ¬ AbandonsAttempt s e := by
  have sound' := stable_attemptsSound cfg s e admitted sound
  refine step_each_iff closed ?_ ?_ ?_
  · intro id r' found' fresh
    apply (sound' id r' found').closed_iff.mpr
    obtain ⟨_, _, -, -, rfl⟩ := fresh
    rintro attempt ⟨⟩
  · intro id reply r r' found found' moved before spared
    have old := sound id r found
    apply (sound' id r' found').closed_iff.mpr
    exact moved.openUnderLease old.shape old.ledger (old.closed_iff.mp before) spared
  · intro id r found abandons
    obtain ⟨r', found', left⟩ := step_abandons cfg found (sound id r found) abandons
    exact ⟨r', found', fun closed' => left ((sound' id r' found').closed_iff.mp closed')⟩

/-- The ledger is closed in every state of a run of the job operations exactly when no call ends a
lease by lease expiry or by deadline. -/
theorem attempts_ledger_closed_iff (cfg : Config) (start : Int) (es : List Event)
    (run : (jobSystem cfg).Run (.initial start) es) :
    (jobSystem cfg).Always (State.Each fun _ => LedgerClosed) (.initial start) es ↔
      (jobSystem cfg).Along (fun s e => ¬ AbandonsAttempt s e) (.initial start) es :=
  (stable_attemptsSound cfg).always_iff (fun _ e admitted sound closed => step_ledger_iff e admitted
    sound closed) (each_initial _ start) (each_initial _ start) run

def leaseLapsesWith (retries : Nat) : List Event :=
  [submitAt 0 false retries, claimAt 1 "w", ⟨70000000, .recoverExpired ⟨none, none⟩⟩]

def deadlinePasses : List Event :=
  [submitAt 0 false 0, claimAt 1 "w", ⟨600000000, .expireDeadlines ⟨none, none⟩⟩]

/-- The run ends with an attempt that nobody will close. -/
def LeavesOpen (es : List Event) (state : JobState) : Prop :=
  (jobSystem config).Run (.initial 0) es ∧ read (jobSystem config)
    (fun r => (r.state, r.attempts.rows)) es =
      some (state, [⟨1, 1, "w", .leased, none, 1, none⟩]) ∧
    ¬ (jobSystem config).Always (State.Each fun _ => LedgerClosed) (.initial 0) es

theorem leavesOpen_of_read (run : (jobSystem config).Run (.initial 0) es)
    (row : read (jobSystem config) (fun r => (r.state, r.attempts.rows)) es =
      some (state, [⟨1, 1, "w", .leased, none, 1, none⟩]))
    (unleased : state ≠ .leased ∧ state ≠ .cancelRequested) : LeavesOpen es state := by
  refine ⟨run, row, fun always => ?_⟩
  obtain ⟨r, found, columns⟩ := map_eq_some_iff.mp row
  simp only [Prod.mk.injEq] at columns
  obtain ⟨last, attempts⟩ := columns
  have member : ⟨1, 1, "w", .leased, none, 1, none⟩ ∈ r.attempts.rows := by
    rw [attempts]
    exact List.mem_singleton_self _
  have closed := (always.last 1 r found).ended _ member (.inr (last ▸ unleased))
  exact absurd closed (by decide)

theorem attempt_left_open : LeavesOpen (leaseLapsesWith 1) .retryWait ∧
      LeavesOpen (leaseLapsesWith 0) .deadLetter ∧ LeavesOpen deadlinePasses .expired := by
  refine ⟨leavesOpen_of_read ?_ ?_ ?_, leavesOpen_of_read ?_ ?_ ?_, leavesOpen_of_read ?_ ?_ ?_⟩
  · exact run_iff.mpr (by decide)
  · decide +kernel
  · decide
  · exact run_iff.mpr (by decide)
  · decide +kernel
  · decide
  · exact run_iff.mpr (by decide)
  · decide +kernel
  · decide

theorem attempts_ledger_closed_reported :
    (jobSystem config).Always (State.Each fun _ => LedgerClosed) (.initial 0)
      [submitAt 0 false 0, claimAt 1 "w", completeAt 2 "w" 1, ⟨3, .consoleCancel 1 2 3⟩] := by
  apply (attempts_ledger_closed_iff config 0 _ (run_iff.mpr (by decide))).mpr
  simp [System.Along, AbandonsAttempt, Abandons, submitAt, claimAt, completeAt]

theorem attempts_sound_expired : (jobSystem config).Always (State.Each fun _ => AttemptsSound)
    (.initial 0) deadlinePasses :=
  attempts_sound (run_iff.mpr (by decide))

end CodestraMiddleware.AiJobs
