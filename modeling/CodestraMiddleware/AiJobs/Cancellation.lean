import CodestraMiddleware.AiJobs.Lifecycle

/-!
# Cancellation requests

A cancellation is recorded in `cancel_requested_at`. A leased job keeps its lease and its worker, or
the recovery of its lease, ends it; a waiting job ends at once.
-/
namespace CodestraMiddleware.AiJobs

open Relational Transition Sample JobRecord
open Sample (config claimAt submitAt)

/-- A cancelled job has ended, or it holds a lease through which it can still be ended. -/
def GenerationJob.CancelKept (j : GenerationJob) : Prop :=
  j.cancelRequestedAt.isSome → j.state.Terminal ∨
    ((j.state = .leased ∨ j.state = .cancelRequested) ∧ j.leaseOwner.isSome ∧
      j.leaseExpiresAt.isSome)

def JobRecord.LosesCancel (now : Int) (r : JobRecord) : Op → Prop
  -- The console only sets the flag, `ai_orchestration.cancel` moves an approved job to
  -- `cancel_requested`; neither job has a lease.
  | .consoleCancel id org ws =>
    r.id = id ∧ r.ConsoleCancellable org ws ∧ (r.state = .approvalRequired ∨ r.state = .approved)
  | .orchestrationCancel id tenant ws =>
    r.id = id ∧ r.OrchestrationCancellable tenant ws ∧ r.state = .approved
  -- The remaining calls revive a job that carries the flag.
  | .decide id tenant ws approved =>
    r.id = id ∧ approved = true ∧ r.cancelRequestedAt.isSome ∧ ∃ a, r.approval = some a ∧
      a.Awaits tenant ws
  | .retryDeadLetter id approval org ws =>
    r.id = id ∧ r.cancelRequestedAt.isSome ∧ r.RetryApproved approval org ws ∧
      r.state = .deadLetter ∧ r.maxAttempts < 10
  | .recoverExpired scope =>
    r.cancelRequestedAt.isSome ∧ r.LeaseLapsed now scope ∧ r.attemptCount < r.maxAttempts
  | _ => False

variable {j : GenerationJob}

section Steps

variable {cfg : Config} {now : Int} {op : Op} {reply : Reply} {r r' : JobRecord}

theorem GenerationJob.finishState_flagged (flag : j.cancelRequestedAt.isSome)
    (report : FinishReport)
    (completionState : JobState) : j.finishState report completionState = .cancelled := by
  simp [finishState, flag]

theorem GenerationJob.LeaseShape.lease_isSome (shape : j.LeaseShape) (kept : j.CancelKept)
    (busy : j.state = .leased ∨ j.state = .cancelRequested) : j.leaseOwner.isSome ∧
    j.leaseExpiresAt.isSome := by
  rcases busy with leased | asked
  · have owner := shape.held leased
    exact ⟨owner, shape.paired ▸ owner⟩
  · rcases kept (shape.flagged asked) with terminal | ⟨-, lease⟩
    · simp [JobState.Terminal, asked] at terminal
    · exact lease

theorem JobStep.cancelKept (moved : JobStep cfg now op reply r r') (sound : r.Consistent)
    (kept : r.CancelKept) (spared : ¬ r.LosesCancel now op) : r'.CancelKept := by
  intro flag
  cases moved with
  | claim ready taken =>
    -- A job that carries the flag is not handed out.
    obtain ⟨_, -, rfl⟩ := Option.map_eq_some_iff.mp taken
    have clear : r.cancelRequestedAt = none := ready.2.2.2.2.2.1
    simp [clear] at flag
  | heartbeat _ lease => exact .inr ⟨lease.busy, by simp [lease.2.1], rfl⟩
  | finish =>
    left
    have state := GenerationJob.finishState_flagged (j := r.toGenerationJob) flag
    simp [settle, state, JobState.Terminal]
  | complete _ _ prepared =>
    left
    have flagged : r.cancelRequestedAt.isSome := prepared.spec.1 ▸ flag
    have state := GenerationJob.finishState_flagged flagged
    simp [settle, state, JobState.Terminal]
  | workerCancel | recoverCancelled | recoverDead =>
    exact .inl (by simp [cancelLease, leaseExpired, JobState.Terminal])
  | consoleCancel target active =>
    -- Waiting jobs end, busy ones keep their lease, ended ones stay; parked ones are the exception.
    rcases sound.shape.state_cases with waiting | busy | terminal | parked
    · exact .inl (by simp [consoleCancelled, waiting, JobState.Terminal])
    · have lease := sound.shape.lease_isSome kept busy
      have same : (r.consoleCancelled now).state = r.state := by
        rcases busy with state | state <;> simp [consoleCancelled, state]
      exact .inr ⟨same ▸ busy, lease⟩
    · left
      have same : (r.consoleCancelled now).state = r.state := by
        cases state : r.state <;> simp_all [consoleCancelled, JobState.Terminal]
      exact same ▸ terminal
    · exact absurd ⟨target, active, parked⟩ spared
  | orchestrationCancel target active =>
    rcases sound.shape.state_cases with waiting | busy | terminal | parked
    · left
      rcases waiting with state | state <;>
        simp [orchestrationCancelled, state, JobState.Terminal]
    · have lease := sound.shape.lease_isSome kept busy
      have asked : (r.orchestrationCancelled now).state = .cancelRequested := by
        rcases busy with state | state <;> simp [orchestrationCancelled, state]
      exact .inr ⟨.inr asked, lease⟩
    · have opened := active.2
      simp only [JobState.Terminal, List.mem_cons, List.not_mem_nil, or_false] at terminal opened
      tauto
    · rcases parked with state | state
      · exact .inl (by simp [orchestrationCancelled, state, JobState.Terminal])
      · exact absurd ⟨target, active, state⟩ spared
  | @decide _ _ _ approved _ a target asked awaits =>
    cases approved with
    -- A rejection ends the job, flag or not.
    | false => exact .inl (by simp [decidedJobState, JobState.Terminal])
    | true => exact absurd ⟨target, rfl, flag, a, asked, awaits⟩ spared
  | retry target approved dead bounded =>
    exact absurd ⟨target, flag, approved, dead, bounded⟩ spared
  | recoverRetried lapsed left => exact absurd ⟨flag, lapsed, left⟩ spared
  | expire passed => exact .inl (by simp [JobRecord.expire, passed, JobState.Terminal])
  | _ => exact kept flag

theorem not_cancelKept (flag : j.cancelRequestedAt.isSome) (alive : ¬ j.state.Terminal)
    (free : j.leaseOwner = none) : ¬ j.CancelKept := by
  intro kept
  rcases kept flag with terminal | ⟨-, owner, -⟩
  · exact alive terminal
  · simp [free] at owner

theorem step_losesCancel {id : UUID} (cfg : Config) (found : s.db.job? id = some r)
    (sound : r.Consistent) (loses : r.LosesCancel now op) :
    ∃ r', (step cfg s ⟨now, op⟩).db.job? id = some r' ∧ ¬ r'.CancelKept := by
  obtain rfl := Database.job?_id found
  -- In each case the row written is computed, and its lease columns are empty by the lease shape.
  have freed := sound.shape.freed
  cases op with
  | consoleCancel id org ws =>
    obtain ⟨rfl, active, parked⟩ := loses
    have ok : exec cfg now (.consoleCancel r.id org ws) s.db =
      .ok (s.db.put (r.consoleCancelled now),
          .cancellation true (r.consoleCancelled now).state) := by
      simp [exec, consoleCancel, found, active]
    refine ⟨r.consoleCancelled now, step_put ok found, not_cancelKept rfl ?_ ?_⟩
    · rcases parked with state | state <;>
        simp [consoleCancelled, state, JobState.Terminal]
    · rcases parked with state | state <;> exact freed (by simp [state]) (by simp [state])
  | orchestrationCancel id tenant ws =>
    obtain ⟨rfl, active, state⟩ := loses
    have ok : exec cfg now (.orchestrationCancel r.id tenant ws) s.db =
      .ok (s.db.put (r.orchestrationCancelled now),
          .status (r.orchestrationCancelled now).state.publicState) := by
      simp [exec, orchestrationCancel, found, active]
    refine ⟨r.orchestrationCancelled now, step_put ok found, not_cancelKept rfl ?_ ?_⟩
    · simp [orchestrationCancelled, state, JobState.Terminal]
    · exact freed (by simp [state]) (by simp [state])
  | decide =>
    obtain ⟨rfl, rfl, flag, a, asked, awaits⟩ := loses
    have parked := sound.parked a asked awaits.2.2
    refine ⟨_, step_decide cfg now s found asked awaits, not_cancelKept flag ?_ ?_⟩
    · simp [decidedJobState, JobState.Terminal]
    · rcases parked with state | state <;> exact freed (by simp [state]) (by simp [state])
  | retryDeadLetter id approval org ws =>
    obtain ⟨rfl, flag, approved, dead, bounded⟩ := loses
    have ok : exec cfg now (.retryDeadLetter r.id approval org ws) s.db =
        .ok (s.db.put (r.retried now), .state .retryWait) := by
      simp [exec, retryDeadLetter, found, approved, dead, bounded]
    refine ⟨r.retried now, step_put ok found, not_cancelKept flag ?_ ?_⟩
    · simp [retried, JobState.Terminal]
    · exact freed (by simp [dead]) (by simp [dead])
  | recoverExpired scope =>
    obtain ⟨flag, lapsed, left⟩ := loses
    refine ⟨r.requeued now, ?_, not_cancelKept flag ?_ rfl⟩
    · rw [step_recover, found, Option.map_some, recover_of_left lapsed left]
    · simp [requeued, JobState.Terminal]
  | _ => exact loses.elim

end Steps

/-- The event drops a cancellation that was requested. -/
def LosesCancellation (s : State) (e : Event) : Prop :=
  ∃ id r, s.db.job? id = some r ∧ r.LosesCancel e.now e.op

theorem step_cancelKept_iff (e : Event) (sound : s.Each fun _ => Consistent)
    (kept : s.Each fun _ r => r.CancelKept) : (step cfg s e).Each (fun _ r => r.CancelKept) ↔
    ¬ LosesCancellation s e := by
  refine step_each_iff kept ?_ ?_ ?_
  · rintro id r' - ⟨_, _, -, -, rfl⟩ ⟨⟩
  · intro id reply r r' found _ moved before spared
    exact moved.cancelKept (sound id r found) before spared
  · intro id r found loses
    exact step_losesCancel cfg found (sound id r found) loses

/-- In a run of the job operations no cancellation is ever lost exactly when no call is one of the
five kinds that lose one. -/
theorem cancellation_kept_iff (cfg : Config) (start : Int) (es : List Event)
    (run : (jobSystem cfg).Run (.initial start) es) :
    (jobSystem cfg).Always (State.Each fun _ r => r.CancelKept) (.initial start) es ↔
      (jobSystem cfg).Along (fun s e => ¬ LosesCancellation s e) (.initial start) es :=
  (stable_consistent cfg).always_iff (fun _ e _ sound kept => step_cancelKept_iff e sound kept)
    (each_initial _ start) (each_initial _ start) run

def cancelledLeaseLapses : List Event :=
  [submitAt 0 false 1, claimAt 1 "w", ⟨2, .consoleCancel 1 2 3⟩,
    ⟨70000000, .recoverExpired ⟨none, none⟩⟩]

def approvedThenCancelled : List Event :=
  [submitAt 0 true 0, claimAt 1 "w", completeAt 2 "w" 1, ⟨3, .decide 1 2 3 true⟩,
    ⟨4, .orchestrationCancel 1 2 3⟩]

/-- Both runs end with the flag set on a job that `claim` refuses and no recovery matches. -/
theorem cancellation_lost : ((jobSystem config).Run (.initial 0) cancelledLeaseLapses ∧
      read (jobSystem config) (fun r => (r.state, r.cancelRequestedAt, r.leaseOwner))
        cancelledLeaseLapses = some (.retryWait, some 2, none)) ∧
        ((jobSystem config).Run (.initial 0) approvedThenCancelled ∧
      read (jobSystem config) (fun r => (r.state, r.cancelRequestedAt, r.leaseOwner))
        approvedThenCancelled = some (.cancelRequested, some 4, none)) ∧
        ∀ es ∈ [cancelledLeaseLapses, approvedThenCancelled],
      ¬ (jobSystem config).Always (State.Each fun _ r => r.CancelKept) (.initial 0) es := by
  have retried : read (jobSystem config) (fun r => (r.state, r.cancelRequestedAt, r.leaseOwner))
      cancelledLeaseLapses = some (.retryWait, some 2, none) := by decide +kernel
  have requested : read (jobSystem config) (fun r => (r.state, r.cancelRequestedAt, r.leaseOwner))
      approvedThenCancelled = some (.cancelRequested, some 4, none) := by decide +kernel
  refine ⟨⟨run_iff.mpr (by decide), retried⟩, ⟨run_iff.mpr (by decide), requested⟩, ?_⟩
  -- Both last rows carry the flag, have no owner and are not terminal.
  intro es member always
  have lost : ∃ state flag, ¬ JobState.Terminal state ∧ read (jobSystem config)
      (fun r => (r.state, r.cancelRequestedAt, r.leaseOwner)) es =
      some (state, some flag, none) := by
    simp only [List.mem_cons, List.not_mem_nil, or_false] at member
    rcases member with rfl | rfl
    · exact ⟨_, _, by decide, retried⟩
    · exact ⟨_, _, by decide, requested⟩
  obtain ⟨_, _, alive, readback⟩ := lost
  obtain ⟨r, found, row⟩ := Option.map_eq_some_iff.mp readback
  simp only [Prod.mk.injEq] at row
  obtain ⟨rfl, flagged, free⟩ := row
  exact not_cancelKept (by simp [flagged]) alive free (always.last 1 r found)

/-- The console cancels a leased job and its worker acknowledges: the request is kept. -/
theorem cancellation_kept_acknowledged :
    (jobSystem config).Always (State.Each fun _ r => r.CancelKept) (.initial 0)
      ([submitAt 0 false 1, claimAt 1 "w"] ++
        [⟨2, .consoleCancel 1 2 3⟩, ⟨3, .workerCancel 1 "w" 1 2 3⟩]) := by
  apply (cancellation_kept_iff config 0 _ (run_iff.mpr (by decide))).mpr
  rw [System.along_append]
  refine ⟨by simp [System.Along, LosesCancellation, LosesCancel, submitAt,
    claimAt], ?_, by simp [LosesCancellation, LosesCancel], trivial⟩
  rintro ⟨id, r, found, target, -, parked⟩
  have key : id = 1 := (Database.job?_id found).symm.trans target
  subst key
  have leased : Sample.read (jobSystem config) (·.state)
      [submitAt 0 false 1, claimAt 1 "w"] = some .leased := by decide +kernel
  simp only [Sample.read, found, Option.map_some, Option.some.injEq] at leased
  rcases parked with state | state <;> simp [leased] at state

end CodestraMiddleware.AiJobs
