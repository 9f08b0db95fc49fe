import CodestraMiddleware.AiJobs.Output

/-!
# Dead letters and the approvals that revive them

A job dies in `finish`, which overwrites the dead letter of an earlier death, or in
`recover_expired`, which leaves it alone. A retry clears `manual_retry_requires_new_approval`.
-/
namespace CodestraMiddleware.AiJobs

open Relational Transition List Option JobRecord State GenerationJob

/-! ## What a step does to the dead letter and the approval -/

/-- The row is about a failure of the job at this time, and a new approval may revive it. -/
structure JobDeadLetter.Describes (now : Int) (r : JobRecord) (d : JobDeadLetter) : Prop where
  attempts : d.attemptCount = r.attemptCount
  limit : d.maxAttempts = r.maxAttempts
  failed : d.failedAt = now
  approvable : d.manualRetryRequiresNewApproval = true

def JobRecord.DeadLetterOwned (r : JobRecord) : Prop :=
  ∀ d, r.deadLetter = some d → d.tenantId = r.organizationId ∧ d.workspaceId = r.workspaceId

def JobRecord.DiesAgain (now : Int) (scope : Scope) (r : JobRecord) : Prop :=
  r.LeaseLapsed now scope ∧ r.maxAttempts ≤ r.attemptCount ∧ r.deadLetter.isSome

section Steps

variable {cfg : Config} {now : Int} {op : Op} {reply : Reply} {r r' : JobRecord}

/-- `finish` writes the row of the death it reports, whether or not there was one. -/
theorem JobRecord.settle_describes (now : Int) (token : Nat) (report : FinishReport)
    (r : JobRecord) :
    (r.upsertDeadLetter now report).Describes now (r.settle now token report .deadLetter) := by
  unfold upsertDeadLetter
  cases r.deadLetter <;> exact ⟨rfl, rfl, rfl, rfl⟩

theorem JobRecord.DeadLetterOwned.upsert (owned : r.DeadLetterOwned) (report : FinishReport) :
    (r.upsertDeadLetter now report).tenantId = r.organizationId ∧
      (r.upsertDeadLetter now report).workspaceId = r.workspaceId := by
  unfold upsertDeadLetter
  cases existing : r.deadLetter with
  | none => exact ⟨rfl, rfl⟩
  | some d => exact owned d existing

theorem JobRecord.leaseExpired_describes (now : Int) (first : r.deadLetter = none) :
    ∃ d, (r.leaseExpired now).deadLetter = some d ∧ d.Describes now (r.leaseExpired now) ∧
      d.tenantId = r.organizationId ∧ d.workspaceId = r.workspaceId := by
  refine ⟨r.newDeadLetter now "lease_expired" (textOr r.correlationId "lease-recovery"), ?_,
    ⟨rfl, rfl, rfl, rfl⟩, rfl, rfl⟩
  simp [leaseExpired, first]

theorem CompleteRequest.Prepares.alive {c : CompleteRequest}
    (prepared : c.Prepares cfg now r stored completionState) :
    r.finishState c.report completionState ≠ .deadLetter := by
  have states : r.finishState c.report completionState = .cancelled ∨
      r.finishState c.report completionState = completionState :=
    finishState_of_success rfl completionState
  obtain ⟨-, -, -, -, ⟨rfl, -⟩ | ⟨rfl, -⟩⟩ := prepared.spec <;>
    rcases states with state | state <;> simp [state]

section

variable (moved : JobStep cfg now op reply r r')

include moved

/-- A step leaves the dead letter alone, uses it up in a retry, or writes it for a new death. -/
theorem JobStep.deadLetter_cases : r'.deadLetter = r.deadLetter ∨
    (r.state = .deadLetter ∧ r'.state = .retryWait ∧ r'.deadLetter = (r.retried now).deadLetter) ∨
    (r'.state = .deadLetter ∧ ∃ d, r'.deadLetter = some d ∧ d.Describes now r' ∧
      (r.DeadLetterOwned → d.tenantId = r'.organizationId ∧ d.workspaceId = r'.workspaceId)) := by
  cases moved with
  | claim _ taken =>
    obtain ⟨_, -, rfl⟩ := map_eq_some_iff.mp taken
    exact .inl rfl
  | @finish call report =>
    by_cases died : r.finishState report .completed = .deadLetter
    · rw [died]
      exact .inr (.inr ⟨rfl, _, rfl, r.settle_describes now call.fencingToken report,
        fun owned => owned.upsert report⟩)
    · exact .inl (if_neg died)
  | complete _ _ prepared => exact .inl ((if_neg prepared.alive).trans prepared.spec.2.2.2.1)
  | retry _ _ dead => exact .inr (.inl ⟨dead, rfl, rfl⟩)
  | recoverDead =>
    cases existing : r.deadLetter with
    | none =>
      obtain ⟨d, letter, describes, tenant⟩ := r.leaseExpired_describes now existing
      exact .inr (.inr ⟨rfl, d, letter, describes, fun _ => tenant⟩)
    | some d =>
      -- `ON CONFLICT DO NOTHING`.
      left
      simp [leaseExpired, existing]
  | expire passed => exact .inl (by simp [JobRecord.expire, passed])
  | _ => exact .inl rfl

theorem JobStep.approval_cases : r'.approval = r.approval ∨
    (r.approval = none ∧ ∃ a, r'.approval = some a ∧ ∀ t ∈ a.decidedAt, t = now) ∨
    (∃ a approved, r.approval = some a ∧ a.state = .pending ∧
      r'.approval = some (a.decided now approved)) := by
  cases moved with
  | claim _ taken =>
    obtain ⟨_, -, rfl⟩ := map_eq_some_iff.mp taken
    exact .inl rfl
  | complete _ _ prepared =>
    obtain ⟨-, -, -, -, ⟨-, same⟩ | ⟨-, opened⟩⟩ := prepared.spec
    · exact .inl same
    · cases existing : r.approval with
      | none =>
        rw [existing] at opened
        exact .inr (.inl ⟨rfl, _, opened, by rintro t ⟨⟩⟩)
      | some a =>
        rw [existing] at opened
        exact .inl opened
  | @decide _ _ _ approved _ a _ asked awaits =>
    exact .inr (.inr ⟨a, approved, asked, awaits.2.2, rfl⟩)
  | requestApproval _ absent => exact .inr (.inl ⟨absent, _, rfl, by rintro t ⟨⟩⟩)
  | grantApproval _ absent =>
    refine .inr (.inl ⟨absent, _, rfl, ?_⟩)
    intro t decided
    cases decided
    rfl
  | @settleApproval _ approved _ a _ asked pending =>
    exact .inr (.inr ⟨a, approved, asked, pending, rfl⟩)
  | expire passed => exact .inl (by simp [JobRecord.expire, passed])
  | _ => exact .inl rfl

theorem JobStep.deadLetterOwned (owned : r.DeadLetterOwned) : r'.DeadLetterOwned := by
  have spec := moved.spec
  intro d' found'
  rcases moved.deadLetter_cases with same | ⟨-, -, used⟩ | ⟨-, d, written, -, tenant⟩
  · rw [spec]
    exact owned d' (same ▸ found')
  · rw [used] at found'
    obtain ⟨d, found, rfl⟩ := map_eq_some_iff.mp found'
    rw [spec]
    exact owned d found
  · cases written.symm.trans found'
    exact tenant owned

theorem JobStep.leaves_dead (dead : r.state = .deadLetter) :
    r'.state = .deadLetter ∨ r'.state.Settled ∨ r'.deadLetter = (r.retried now).deadLetter := by
  have terminal : r.state.Terminal := by simp [JobState.Terminal, dead]
  cases moved with
  | claim ready => exact absurd terminal ready.not_terminal
  | finish _ lease | complete _ lease | workerCancel _ lease =>
    exact absurd terminal lease.not_terminal
  | consoleCancel _ active | orchestrationCancel _ active =>
    simp [ConsoleCancellable, OrchestrationCancellable, dead] at active
  | @decide _ _ _ approved =>
    -- A pending approval of a dead job may be decided; either answer settles the job.
    right
    left
    cases approved <;> simp [decidedJobState, JobState.Settled]
  | retry => exact .inr (.inr rfl)
  | recoverCancelled lapsed => simp [dead, CancelLapsed] at lapsed
  | recoverRetried lapsed | recoverDead lapsed => simp [dead, LeaseLapsed] at lapsed
  | expire passed => simp [dead, DeadlinePassed] at passed
  | _ => exact .inl dead

end

/-- A dead letter that a new approval could revive belongs to a job that is dead or settled: the
retry of a job that goes on has cleared it. -/
def JobRecord.LetterUsed (r : JobRecord) : Prop :=
  ∀ d, r.deadLetter = some d → d.manualRetryRequiresNewApproval = true → r.state = .deadLetter ∨
    r.state.Settled

theorem JobStep.letterUsed (moved : JobStep cfg now op reply r r') (ended : r.Ended)
    (used : r.LetterUsed) : r'.LetterUsed := by
  intro d' found' approvable
  have spent : r'.deadLetter ≠ (r.retried now).deadLetter := by
    intro cleared
    rw [cleared] at found'
    obtain ⟨d, -, rfl⟩ := map_eq_some_iff.mp found'
    cases approvable
  rcases moved.deadLetter_cases with same | ⟨-, -, cleared⟩ | ⟨died, -⟩
  -- The row is the old one: its job was dead or settled, and can only have stayed so.
  · rcases used d' (same ▸ found') approvable with dead | settled
    · rcases moved.leaves_dead dead with still | settled | cleared
      · exact .inl still
      · exact .inr settled
      · exact absurd cleared spent
    · exact .inr (moved.settled ended.flagged settled)
  · exact absurd cleared spent
  · exact .inl died

/-- How a job comes to be in `dead_letter`: it was there, or it died in this step, and then its row
describes this death unless an expired lease killed a job that had a row. -/
theorem JobStep.dies (moved : JobStep cfg now op reply r r') (dead : r'.state = .deadLetter) :
    (r.state = .deadLetter ∧ r'.deadLetter = r.deadLetter ∧ r'.attemptCount = r.attemptCount ∧
      r'.maxAttempts = r.maxAttempts) ∨
      (r.state ≠ .deadLetter ∧ ((∃ d, r'.deadLetter = some d ∧ d.Describes now r') ∨
      ∃ scope, op = .recoverExpired scope ∧ r.DiesAgain now scope)) := by
  cases moved with
  | claim _ taken =>
    obtain ⟨_, -, rfl⟩ := map_eq_some_iff.mp taken
    cases dead
  | @finish call report _ _ lease =>
    right
    change r.finishState report .completed = .deadLetter at dead
    rw [dead]
    refine ⟨?_, .inl ⟨_, rfl, r.settle_describes now call.fencingToken report⟩⟩
    rcases lease.busy with state | state <;> simp [state]
  | complete _ _ prepared => exact absurd dead prepared.alive
  | workerCancel | retry | recoverCancelled | recoverRetried => cases dead
  | consoleCancel _ active =>
    simp only [consoleCancelled] at dead
    split at dead
    · cases dead
    · simp [ConsoleCancellable, dead] at active
  | orchestrationCancel =>
    simp only [orchestrationCancelled] at dead
    split at dead <;> cases dead
  | @decide _ _ _ approved => cases approved <;> cases dead
  | @recoverDead scope _ _ lapsed exhausted =>
    right
    refine ⟨by simp [lapsed.1], ?_⟩
    cases existing : r.deadLetter with
    | none =>
      obtain ⟨d, letter, describes, -⟩ := r.leaseExpired_describes now existing
      exact .inl ⟨d, letter, describes⟩
    | some d => exact .inr ⟨scope, rfl, lapsed, exhausted, by simp [existing]⟩
  | expire passed => simp [JobRecord.expire, passed] at dead
  | _ => exact .inl ⟨dead, rfl, rfl, rfl⟩

end Steps

/-! ## Deaths in the history of calls -/

def Entry.diesAt (id : UUID) (e : Entry) : Option Int :=
  if (e.before.job? id).map (·.state) ≠ some .deadLetter ∧ (e.after.job? id).map (·.state) =
    some .deadLetter then some e.now
  else none

def diedAt (id : UUID) (history : List Entry) : Option Int := history.findSome? (Entry.diesAt id)

/-- A retry of the job with this approval would succeed at any time. -/
def Revives (s : State) (r : JobRecord) (approval : UUID) : Prop :=
  ∀ now, ∃ db', retryDeadLetter now r.id approval r.organizationId r.workspaceId s.db =
    .ok (db', .state .retryWait)

/-- Every dead job has a dead letter that describes its last death, and an approval decided after
that death revives it while the limit allows. After a retry the last clause is empty: the job has
its one approval (`UNIQUE(job_id)`), which was decided before. -/
def State.DeadLettersMirror (s : State) : Prop :=
  ∀ id r, s.db.job? id = some r → r.state = .deadLetter →
    ∃ d died, r.deadLetter = some d ∧ diedAt id s.history = some died ∧ d.Describes died r ∧
      ∀ a t, r.approval = some a → a.state = .approved → a.decidedAt = some t → died < t →
      r.maxAttempts < 10 → Revives s r a.id

/-- The call is a `recover_expired` that kills a job which has a dead letter from before. -/
def KillsAgain (s : State) (e : Event) : Prop :=
  ∃ scope id r, e.op = .recoverExpired scope ∧ s.db.job? id = some r ∧ r.DiesAgain e.now scope

structure JobRecord.LettersSound (r : JobRecord) : Prop where
  ended : r.Ended
  used : r.LetterUsed
  owned : r.DeadLetterOwned

section Runs

variable {cfg : Config} {s : State} {e : Event} {id : UUID} {r : JobRecord}

theorem stable_lettersSound (cfg : Config) (admits : Op → Prop) :
    (system cfg admits).Stable (Each fun _ => LettersSound) := by
  refine stable_each (fun _ sound => sound) ?_ ?_
  · intro now r fresh
    have ended := fresh.ended
    obtain ⟨_, _, -, -, rfl⟩ := fresh
    exact ⟨ended, by rintro letter ⟨⟩, by rintro letter ⟨⟩⟩
  · intro now op reply r r' _ moved sound
    exact ⟨moved.ended sound.ended, moved.letterUsed sound.ended sound.used,
      moved.deadLetterOwned sound.owned⟩

theorem revives_of_describes (found : s.db.job? r.id = some r) (owned : r.DeadLetterOwned)
    (dead : r.state = .deadLetter)
    (letter : r.deadLetter = some d) (describes : d.Describes died r) : ∀ a t, r.approval = some a →
    a.state = .approved →
      a.decidedAt = some t → died < t → r.maxAttempts < 10 → Revives s r a.id := by
  intro a t asked approved decided later bounded now
  obtain ⟨tenant, workspace⟩ := owned d letter
  have selected : r.RetryApproved a.id r.organizationId r.workspaceId :=
    ⟨d, letter, a, asked, tenant, workspace, describes.approvable, rfl, approved, t, decided,
      describes.failed ▸ later⟩
  exact ⟨s.db.put (r.retried now), by simp [retryDeadLetter, found, selected, dead, bounded]⟩

theorem diedAt_step (cfg : Config) (s : State) (e : Event) (id : UUID) :
      diedAt id (step cfg s e).history = if (s.db.job? id).map (·.state) ≠ some .deadLetter ∧
        ((step cfg s e).db.job? id).map (·.state) = some .deadLetter then some e.now
      else diedAt id s.history := by
  split
  next dies =>
    rw [step_history, diedAt, findSome?_cons,
      show (e.entry cfg s.db).diesAt id = some e.now from if_pos dies]
  next lives =>
    rw [step_history, diedAt, findSome?_cons,
      show (e.entry cfg s.db).diesAt id = none from if_neg lives]
    rfl

theorem step_mirror_iff (sound : s.Each fun _ => LettersSound)
    (mirror : s.DeadLettersMirror) : (step cfg s e).DeadLettersMirror ↔ ¬ KillsAgain s e := by
  constructor
  · rintro mirror' ⟨scope, id, r, op, found, lapsed, exhausted, existing⟩
    obtain ⟨now, op'⟩ := e
    subst op
    obtain ⟨d, letter⟩ := isSome_iff_exists.mp existing
    have found' : (step cfg s ⟨now, .recoverExpired scope⟩).db.job? id =
        some (r.leaseExpired now) := by
      rw [step_recover, found, map_some, recover_of_exhausted lapsed exhausted]
    obtain ⟨d', died, letter', -, describes, -⟩ := mirror' id _ found' rfl
    -- The row is the one the retry cleared.
    have same : r.deadLetter = some d' := by simpa [leaseExpired, letter] using letter'
    rcases (sound id r found).used d' same describes.approvable with dead | settled
    · simp [lapsed.1] at dead
    · simp [JobState.Settled, lapsed.1] at settled
  · intro spared id r' found' dead
    rcases step_origin found' with ⟨r, _, found, moved, -⟩ | ⟨-, fresh⟩
    · have key' := Database.job?_id found'
      have owned' := moved.deadLetterOwned (sound id r found).owned
      rcases moved.dies dead with ⟨before, same, attempts, limit⟩ | ⟨before, died⟩
      -- Dead already: row, counters and the time of death are those before the step.
      · obtain ⟨d, died, letter, time, describes, -⟩ := mirror id r found before
        have describes' : d.Describes died r' :=
          ⟨describes.attempts.trans attempts.symm, describes.limit.trans limit.symm,
            describes.failed, describes.approvable⟩
        have time' : diedAt id (step cfg s e).history = some died := by
          rw [diedAt_step, found]
          simpa [before] using time
        subst key'
        exact ⟨d, died, same.trans letter, time', describes',
          revives_of_describes found' owned' dead (same.trans letter) describes'⟩
      · rcases died with ⟨d, letter, describes⟩ | ⟨scope, op, again⟩
        · have time' : diedAt id (step cfg s e).history = some e.now := by
            rw [diedAt_step, found, found']
            simp [before, dead]
          subst key'
          exact ⟨d, e.now, letter, time', describes,
            revives_of_describes found' owned' dead letter describes⟩
        · exact absurd ⟨scope, id, r, op, found, again⟩ spared
    · obtain ⟨_, _, -, -, rfl⟩ := fresh
      cases dead

end Runs

/-- Dead letters mirror the dead jobs in every state of a run exactly when no `recover_expired` of
the run kills a job that has a dead letter from before. -/
theorem dead_letters_mirror_iff (cfg : Config) (start : Int) (es : List Event)
    (run : (fullSystem cfg).Run (.initial start) es) : (fullSystem cfg).Always DeadLettersMirror
    (.initial start) es ↔
      (fullSystem cfg).Along (fun s e => ¬ KillsAgain s e) (.initial start) es := by
  refine (stable_lettersSound cfg _).always_iff
    (fun _ e _ sound mirror => step_mirror_iff sound mirror) (each_initial _ start) ?_ run
  intro id r found
  cases found

namespace Sample

def failAt (now : Int) (worker : String) (token : Nat) : Event :=
  ⟨now, .finish ⟨1, worker, token, ⟨none, none⟩⟩
    ⟨true, some "provider_error", false, "correlation"⟩⟩

def recoverAt (now : Int) : Event := ⟨now, .recoverExpired ⟨none, none⟩⟩

end Sample

open Sample

def diesOfExpiryAfterRetry : List Event :=
  [submitAt 0 false 0, claimAt 1 "a", failAt 2 "a" 1,
    ⟨3, .grantApproval 1 9 2 3 true⟩, ⟨4, .retryDeadLetter 1 9 2 3⟩, claimAt 5 "b",
    recoverAt 70000000]

def staleLetter : JobDeadLetter where
  workspaceId := 3
  tenantId := 2
  finalErrorCode := "provider_error"
  attemptCount := 1
  maxAttempts := 1
  payloadSha256 := payloadDigest
  failedAt := 2
  correlationId := "correlation"
  manualRetryRequiresNewApproval := false
  recoveryStatus := .approvedRetry

theorem dead_letter_stale : (fullSystem config).Run (.initial 0) diesOfExpiryAfterRetry ∧
    read (fullSystem config) (fun r => (r.state, r.attemptCount, r.deadLetter))
      diesOfExpiryAfterRetry = some (.deadLetter, 2, some staleLetter) ∧
    ¬ (fullSystem config).Always DeadLettersMirror (.initial 0) diesOfExpiryAfterRetry := by
  have row : read (fullSystem config) (fun r => (r.state, r.attemptCount, r.deadLetter))
      diesOfExpiryAfterRetry = some (.deadLetter, 2, some staleLetter) := by decide +kernel
  refine ⟨run_iff.mpr ⟨by decide, fun _ _ => trivial⟩, row, ?_⟩
  intro always
  obtain ⟨r, found, columns⟩ := map_eq_some_iff.mp row
  simp only [Prod.mk.injEq] at columns
  obtain ⟨dead, attempts, letter⟩ := columns
  obtain ⟨d, _, present, -, describes, -⟩ := always.last 1 r found dead
  cases letter.symm.trans present
  have stale := describes.attempts
  rw [attempts] at stale
  cases stale

theorem not_killsAgain_of_none (first : (s.db.jobs.rows.all fun r => r.deadLetter.isNone) = true) :
    ¬ KillsAgain s e := by
  rintro ⟨_, id, r, -, found, -, -, existing⟩
  have none_yet := all_eq_true.mp first r (s.db.jobs.find?_mem found)
  rw [isNone_iff_eq_none] at none_yet
  simp [none_yet] at existing

/-- The same deaths in the other order: an expired lease first, a reported failure second. -/
theorem dead_letters_mirror_reported : (fullSystem config).Always DeadLettersMirror (.initial 0)
      [submitAt 0 false 0, claimAt 1 "a", recoverAt 70000000,
        ⟨70000001, .grantApproval 1 9 2 3 true⟩, ⟨70000002, .retryDeadLetter 1 9 2 3⟩,
        claimAt 70000003 "b", failAt 70000004 "b" 2] := by
  apply (dead_letters_mirror_iff config 0 _ (run_iff.mpr ⟨by decide, fun _ _ => trivial⟩)).mpr
  refine ⟨?_, ?_, not_killsAgain_of_none (by decide +kernel), ?_, ?_, ?_, ?_, trivial⟩
  all_goals rintro ⟨_, _, _, ⟨⟩, _⟩

/-! ## An approval is spent by one retry -/

def Entry.retried (e : Entry) : Option (UUID × UUID) :=
  match e.op, e.outcome with
  | .retryDeadLetter job approval _ _, .ok _ => some (job, approval)
  | _, _ => none

def retries (history : List Entry) : List (UUID × UUID) := history.filterMap Entry.retried

def JobRecord.DecidedBefore (clock : Int) (r : JobRecord) : Prop :=
  ∀ a t, r.approval = some a → a.decidedAt = some t → t ≤ clock

/-- The job's approval is decided and no longer newer than a dead letter that would need it. -/
def JobRecord.Spent (approval : UUID) (clock : Int) (r : JobRecord) : Prop :=
  ∃ a t, r.approval = some a ∧ a.id = approval ∧ a.state = .approved ∧ a.decidedAt = some t ∧
    t ≤ clock ∧ ∀ d, r.deadLetter = some d → d.manualRetryRequiresNewApproval = false ∨
    t ≤ d.failedAt

variable {org ws : UUID}

section Spent

variable {cfg : Config} {now clock : Int} {op : Op} {reply : Reply} {r r' : JobRecord}
  {approval : UUID}

theorem JobStep.decidedBefore (moved : JobStep cfg now op reply r r')
    (before : r.DecidedBefore now) : r'.DecidedBefore now := by
  intro a t asked decided
  rcases moved.approval_cases with same | ⟨-, a', opened, dated⟩ | ⟨old, _, -, -, closed⟩
  · exact before a t (same ▸ asked) decided
  · cases opened.symm.trans asked
    exact Int.le_of_eq (dated t decided)
  · cases closed.symm.trans asked
    cases decided
    exact Int.le_refl now

theorem JobStep.spent (moved : JobStep cfg now op reply r r') (forward : clock ≤ now)
    (spent : r.Spent approval clock) : r'.Spent approval now := by
  obtain ⟨a, t, asked, key, approved, decided, past, older⟩ := spent
  -- A decided approval is never touched again.
  have asked' : r'.approval = some a := by
    rcases moved.approval_cases with same | ⟨absent, -⟩ | ⟨old, _, present, pending, -⟩
    · exact same.trans asked
    · simp [absent] at asked
    · cases present.symm.trans asked
      simp [approved] at pending
  refine ⟨a, t, asked', key, approved, decided, Int.le_trans past forward, ?_⟩
  intro d' letter'
  rcases moved.deadLetter_cases with same | ⟨-, -, used⟩ | ⟨-, d, written, describes, -⟩
  · exact older d' (same ▸ letter')
  · rw [used] at letter'
    obtain ⟨d, -, rfl⟩ := map_eq_some_iff.mp letter'
    exact .inl rfl
  · cases written.symm.trans letter'
    -- The new death is at `now`, no earlier than the decision.
    right
    rw [describes.failed]
    omega

theorem JobRecord.Spent.not_retryApproved (spent : r.Spent approval clock) :
    ¬ r.RetryApproved approval org ws := by
  obtain ⟨a, t, asked, -, -, decided, -, older⟩ := spent
  rintro ⟨d, letter, a', asked', -, -, approvable, -, -, t', decided', _⟩
  cases some.inj (asked.symm.trans asked')
  cases some.inj (decided.symm.trans decided')
  rcases older d letter with cleared | past
  · rw [approvable] at cleared
    cases cleared
  · omega

theorem JobRecord.spent_of_retried (approved : r.RetryApproved approval org ws)
    (before : r.DecidedBefore now) : (r.retried now).Spent approval now := by
  obtain ⟨d, _, a, asked, -, -, -, key, state, t, decided, -⟩ := approved
  refine ⟨a, t, asked, key, state, decided, before a t asked decided, ?_⟩
  intro d' letter'
  obtain ⟨d, -, rfl⟩ := map_eq_some_iff.mp letter'
  exact .inl rfl

theorem retryDeadLetter_ok {job : UUID} {db : Database}
    (ok : retryDeadLetter now job approval org ws db = .ok (db', reply)) :
    ∃ r, db.job? job = some r ∧ r.RetryApproved approval org ws ∧ db' = db.put (r.retried now) := by
  unfold retryDeadLetter at ok
  split at ok
  · cases ok
  next r found =>
    split at ok
    next approved =>
      split at ok
      · cases ok
        exact ⟨r, found, approved, rfl⟩
      · cases ok
    · cases ok

theorem retried_some {e : Event} {db : Database}
    (retried : (e.entry cfg db).retried = some (job, approval)) :
    ∃ org ws db' reply, e.op = .retryDeadLetter job approval org ws ∧ exec cfg e.now e.op db =
    .ok (db', reply) := by
  unfold Entry.retried at retried
  split at retried
  next job' approval' org ws result op outcome =>
    cases retried
    obtain ⟨db', reply⟩ := result
    exact ⟨org, ws, db', reply, op, outcome⟩
  next => cases retried

end Spent

/-- Retries are made with distinct approvals, and each of these is spent. -/
structure State.RetriesSpent (s : State) : Prop where
  distinct : (retries s.history).Nodup
  dated : s.Each fun clock r => r.DecidedBefore clock
  spent : ∀ job approval, (job, approval) ∈ retries s.history → ∃ r, s.db.job? job = some r ∧
    r.Spent approval s.clock

theorem stable_decidedBefore (cfg : Config) (admits : Op → Prop) :
    (system cfg admits).Stable (Each fun clock r => r.DecidedBefore clock) := by
  refine stable_each ?_ ?_ fun _ moved => moved.decidedBefore
  · intro t now r forward before a t' asked decided
    exact Int.le_trans (before a t' asked decided) forward
  · rintro now r ⟨_, _, -, -, rfl⟩ a t asked
    cases asked

theorem stable_retriesSpent (cfg : Config) (admits : Op → Prop) :
    (system cfg admits).Stable RetriesSpent := by
  intro s e admitted invariant
  obtain ⟨distinct, dated, spent⟩ := invariant
  have dated' := stable_decidedBefore cfg admits s e admitted dated
  -- What was spent before the step is spent after it.
  have old : ∀ job approval, (job, approval) ∈ retries s.history →
      ∃ r', (step cfg s e).db.job? job = some r' ∧ r'.Spent approval e.now := by
    intro job approval member
    obtain ⟨r, found, used⟩ := spent job approval member
    obtain ⟨reply, r', found', moved, -⟩ := step_job cfg e found
    exact ⟨r', found', moved.spent admitted.1 used⟩
  have history : retries (step cfg s e).history = (e.entry cfg s.db).retried.toList ++
      retries s.history := by
    rw [step_history, retries, filterMap_cons]
    cases (e.entry cfg s.db).retried <;> rfl
  change RetriesSpent (step cfg s e)
  cases retried : (e.entry cfg s.db).retried with
  | none =>
    rw [retried, toList_none, nil_append] at history
    refine ⟨history ▸ distinct, dated', ?_⟩
    intro job approval member
    exact old job approval (history ▸ member)
  | some pair =>
    obtain ⟨job, approval⟩ := pair
    rw [retried, toList_some, singleton_append] at history
    obtain ⟨org, ws, db', _, op, ok⟩ := retried_some retried
    have after := step_db_ok ok
    rw [op] at ok
    obtain ⟨r, found, approved, rfl⟩ := retryDeadLetter_ok ok
    obtain rfl := Database.job?_id found
    refine ⟨?_, dated', ?_⟩
    · rw [history]
      refine nodup_cons.mpr ⟨?_, distinct⟩
      -- An approval used before is spent, and a spent one selects no dead letter.
      intro again
      obtain ⟨r₀, found₀, used⟩ := spent r.id approval again
      cases found.symm.trans found₀
      exact used.not_retryApproved approved
    · intro job' approval' member
      rw [history] at member
      rcases mem_cons.mp member with same | before
      · cases same
        have now := fun a t asked decided =>
          Int.le_trans (dated r.id r found a t asked decided) admitted.1
        refine ⟨r.retried e.now, ?_, spent_of_retried approved now⟩
        rw [after]
        exact Database.job?_put_self found
      · exact old job' approval' before

/-- In every run no two successful retries of a job use the same approval. -/
theorem dead_letter_approval_single_use (cfg : Config) (start : Int) (es : List Event)
    (run : (fullSystem cfg).Run (.initial start) es) :
    (retries ((fullSystem cfg).after (.initial start) es).history).Nodup := by
  refine ((stable_retriesSpent cfg _).after ?_ run).distinct
  exact ⟨nodup_nil, each_initial _ start, by rintro job approval ⟨⟩⟩

/-- A second retry with the same approval, after a second death, is refused. -/
theorem dead_letter_approval_spent : (retries ((fullSystem config).after (.initial 0)
      [submitAt 0 false 0, claimAt 1 "a", failAt 2 "a" 1,
        ⟨3, .grantApproval 1 9 2 3 true⟩, ⟨4, .retryDeadLetter 1 9 2 3⟩, claimAt 5 "b",
        failAt 6 "b" 2, ⟨7, .retryDeadLetter 1 9 2 3⟩]).history).Nodup ∧
        retries ((fullSystem config).after (.initial 0)
      [submitAt 0 false 0, claimAt 1 "a", failAt 2 "a" 1,
        ⟨3, .grantApproval 1 9 2 3 true⟩, ⟨4, .retryDeadLetter 1 9 2 3⟩, claimAt 5 "b",
        failAt 6 "b" 2, ⟨7, .retryDeadLetter 1 9 2 3⟩]).history = [(1, 9)] :=
  ⟨dead_letter_approval_single_use config 0 _ (run_iff.mpr ⟨by decide, fun _ _ => trivial⟩), by
    decide +kernel⟩

end CodestraMiddleware.AiJobs
