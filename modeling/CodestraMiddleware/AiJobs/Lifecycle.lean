import CodestraMiddleware.AiJobs.System

/-!
# States, leases and open approvals

`decide` looks for a pending approval and never at the state of its job. A pending approval is
opened by `store_result` in the same transaction that parks the job in `approval_required`, so it
can only be found there, or on the job once it was cancelled: `ai_orchestration.cancel` ends a
parked job and leaves the approval open.
-/
namespace CodestraMiddleware.AiJobs

open Relational Transition List Option JobRecord GenerationJob

def JobState.Terminal (state : JobState) : Prop :=
  state ∈ [.completed, .failed, .cancelled, .expired, .rejected, .deadLetter]

instance (state : JobState) : Decidable state.Terminal :=
  inferInstanceAs (Decidable (state ∈ [_, _, _, _, _, _]))

/-- An open approval belongs to a job that is parked for it, or was cancelled while parked. -/
def JobRecord.PendingParked (r : JobRecord) : Prop :=
  ∀ a ∈ r.approval, a.state = .pending → r.state = .approvalRequired ∨ r.state = .cancelled

variable {j : GenerationJob} {call : LeaseCall} {allow : Bool}

section Steps

variable {cfg : Config} {now : Int} {op : Op} {reply : Reply} {r r' : JobRecord}

/-- An update that leaves the approval alone may move any job that is not parked. -/
theorem JobRecord.PendingParked.of_same (parked : r.PendingParked)
    (elsewhere : r.state ≠ .approvalRequired ∧ r.state ≠ .cancelled)
    (same : r'.approval = r.approval) : r'.PendingParked := by
  intro a asked pending
  rw [same] at asked
  rcases parked a asked pending with state | state
  · exact absurd state elsewhere.1
  · exact absurd state elsewhere.2

section

variable (lease : j.HoldsLease now call allow)

include lease

theorem GenerationJob.HoldsLease.busy : j.state = .leased ∨ j.state = .cancelRequested :=
  lease.1.imp_right And.right

theorem GenerationJob.HoldsLease.fenced : j.leaseOwner = some call.workerId ∧
      j.fencingToken = call.fencingToken ∧ ∃ t ∈ j.leaseExpiresAt, now < t :=
  ⟨lease.2.1, lease.2.2.1, lease.2.2.2.1⟩

theorem GenerationJob.HoldsLease.unparked : j.state ≠ .approvalRequired ∧ j.state ≠ .cancelled := by
  rcases lease.busy with state | state <;> simp [state]

theorem GenerationJob.HoldsLease.not_terminal : ¬ j.state.Terminal := by
  rcases lease.busy with state | state <;> simp [JobState.Terminal, state]

end

theorem GenerationJob.Claimable.not_terminal (ready : j.Claimable now scope profiles) :
    ¬ j.state.Terminal := by
  rcases ready.1 with state | state <;> simp [JobState.Terminal, state]

theorem GenerationJob.finishState_of_success (success : report.failed = false)
    (completionState : JobState) : j.finishState report completionState = .cancelled ∨
      j.finishState report completionState = completionState := by
  unfold finishState
  split
  · exact .inl rfl
  · simp [success]

theorem JobStep.pendingParked (moved : JobStep cfg now op reply r r') (opens : op.OpensNoApproval)
    (parked : r.PendingParked) : r'.PendingParked := by
  cases moved with
  | claim ready taken =>
    obtain ⟨_, -, rfl⟩ := map_eq_some_iff.mp taken
    exact parked.of_same (by rcases ready.1 with state | state <;> simp [state]) rfl
  | finish _ lease | workerCancel _ lease => exact parked.of_same lease.unparked rfl
  | complete _ lease prepared =>
    -- `store_result` opens an approval only together with the state that parks the job.
    obtain ⟨-, -, -, -, ⟨-, same⟩ | ⟨rfl, -⟩⟩ := prepared.spec
    · exact parked.of_same lease.unparked same
    · intro a _ _
      exact (finishState_of_success rfl .approvalRequired).symm
  | consoleCancel =>
    -- The console leaves a parked job parked and a cancelled one cancelled.
    intro a asked pending
    rcases parked a asked pending with state | state
    · left
      simp [consoleCancelled, state]
    · right
      simp [consoleCancelled, state]
  | orchestrationCancel _ active =>
    -- The one call that ends a parked job without deciding its approval.
    intro a asked pending
    rcases parked a asked pending with state | state
    · right
      simp [orchestrationCancelled, state]
    · simp [OrchestrationCancellable, state] at active
  | @decide _ _ _ approved _ old =>
    intro a asked pending
    cases asked
    exact absurd pending (by cases approved <;> simp [JobApproval.decided, decidedApprovalState])
  | retry _ _ dead => exact parked.of_same (by simp [dead]) rfl
  | recoverCancelled lapsed | recoverRetried lapsed | recoverDead lapsed =>
    exact parked.of_same (by simp [lapsed.1]) rfl
  | expire passed =>
    refine parked.of_same ?_ (by simp [JobRecord.expire, passed])
    rcases passed.1 with state | state | state <;> simp [state]
  | requestApproval | settleApproval => exact opens.elim
  | @grantApproval _ _ _ _ approved =>
    intro a asked pending
    cases asked
    cases approved <;> cases pending
  | _ => exact parked

/-- How the states go with the lease columns and with the cancellation flag. -/
structure GenerationJob.LeaseShape (j : GenerationJob) : Prop where
  held : j.state = .leased → j.leaseOwner.isSome
  flagged : j.state = .cancelRequested → j.cancelRequestedAt.isSome
  freed : j.state ≠ .leased → j.state ≠ .cancelRequested → j.leaseOwner = none
  paired : j.leaseOwner.isSome = j.leaseExpiresAt.isSome
  -- No statement writes these two states.
  unused : j.state ≠ .available ∧ j.state ≠ .running

def JobState.WithoutLease (state : JobState) : Prop :=
  state ≠ .leased ∧ state ≠ .cancelRequested ∧ state ≠ .available ∧ state ≠ .running

theorem GenerationJob.LeaseShape.of_freed (state : j.state.WithoutLease)
    (owner : j.leaseOwner = none) (expires : j.leaseExpiresAt = none) : j.LeaseShape := by
  refine ⟨fun leased => absurd leased state.1, fun asked => absurd asked state.2.1,
    fun _ _ => owner, ?_, state.2.2⟩
  -- Both lease columns are empty together.
  rw [owner, expires]
  rfl

theorem GenerationJob.LeaseShape.move {j' : GenerationJob} (shape : j.LeaseShape)
    (unleased : j.state ≠ .leased ∧ j.state ≠ .cancelRequested) (state : j'.state.WithoutLease)
    (owner : j'.leaseOwner = j.leaseOwner) (expires : j'.leaseExpiresAt = j.leaseExpiresAt) :
    j'.LeaseShape := by
  have none_owner := shape.freed unleased.1 unleased.2
  have none_expires : j.leaseExpiresAt = none := by
    have pair := shape.paired
    rw [none_owner] at pair
    exact isNone_iff_eq_none.mp (by simpa using pair.symm)
  exact .of_freed state (owner.trans none_owner) (expires.trans none_expires)

theorem GenerationJob.LeaseShape.state_cases (shape : j.LeaseShape) :
    (j.state = .queued ∨ j.state = .retryWait) ∨ (j.state = .leased ∨ j.state = .cancelRequested) ∨
      j.state.Terminal ∨ (j.state = .approvalRequired ∨ j.state = .approved) := by
  have unused := shape.unused
  cases state : j.state <;> simp [state, JobState.Terminal] at unused ⊢

theorem GenerationJob.finishState_withoutLease (report : FinishReport) {completionState : JobState}
    (asked : completionState = .completed ∨ completionState = .approvalRequired) :
    (j.finishState report completionState).WithoutLease := by
  unfold finishState
  rcases asked with rfl | rfl <;> split_ifs <;> simp [JobState.WithoutLease]

theorem JobStep.leaseShape (moved : JobStep cfg now op reply r r') (parked : r.PendingParked)
    (shape : r.LeaseShape) : r'.LeaseShape := by
  cases moved with
  | idle => exact shape
  | claim ready taken =>
    obtain ⟨_, -, rfl⟩ := map_eq_some_iff.mp taken
    exact ⟨fun _ => rfl, by rintro ⟨⟩, fun unleased _ => absurd rfl unleased, rfl, by simp⟩
  | heartbeat _ lease =>
    refine ⟨shape.held, shape.flagged, shape.freed, ?_, shape.unused⟩
    simp [lease.2.1]
  | finish => exact .of_freed (finishState_withoutLease _ (.inl rfl)) rfl rfl
  | complete _ _ prepared =>
    obtain ⟨-, -, -, -, asked⟩ := prepared.spec
    exact .of_freed (finishState_withoutLease _ (asked.imp And.left And.left)) rfl rfl
  | workerCancel | recoverCancelled | recoverRetried | recoverDead =>
    exact .of_freed (by simp [cancelLease, requeued, leaseExpired, JobState.WithoutLease]) rfl rfl
  | consoleCancel =>
    by_cases waiting : r.state ∈ [.queued, .retryWait]
    · have state : (r.consoleCancelled now).state = .cancelled := by
        simp [consoleCancelled, waiting]
      refine shape.move ?_ (by simp [state, JobState.WithoutLease]) rfl rfl
      simp only [mem_cons, not_mem_nil, or_false] at waiting
      rcases waiting with state | state <;> simp [state]
    · have state : (r.consoleCancelled now).state = r.state := by simp [consoleCancelled, waiting]
      exact ⟨fun leased => shape.held (state ▸ leased), fun _ => rfl,
        fun unleased unasked => shape.freed (state ▸ unleased) (state ▸ unasked), shape.paired,
        state ▸ shape.unused⟩
  | orchestrationCancel _ active =>
    by_cases waiting : r.state ∈ [.queued, .available, .retryWait, .approvalRequired]
    · have state : (r.orchestrationCancelled now).state = .cancelled := by
        simp [orchestrationCancelled, waiting]
      refine shape.move ?_ (by simp [state, JobState.WithoutLease]) rfl rfl
      simp only [mem_cons, not_mem_nil, or_false] at waiting
      rcases waiting with state | state | state | state <;> simp [state]
    -- The lease columns stay, whether the job had a lease or was only approved.
    · have state : (r.orchestrationCancelled now).state = .cancelRequested := by
        simp [orchestrationCancelled, waiting]
      refine ⟨?_, fun _ => rfl, fun _ unasked => absurd state unasked, shape.paired, by
        simp [state]⟩
      intro leased
      rw [state] at leased
      cases leased
  | @decide _ _ _ approved _ a _ asked awaits =>
    -- The approval was open, so the job was parked and had no lease.
    refine shape.move ?_ (by cases approved <;> simp [JobState.WithoutLease, decidedJobState]) rfl
      rfl
    rcases parked a asked awaits.2.2 with state | state <;> simp [state]
  | retry _ _ dead =>
    exact shape.move (by simp [dead]) (by simp [retried, JobState.WithoutLease]) rfl rfl
  | expire passed =>
    exact .of_freed (by simp [JobRecord.expire, passed, JobState.WithoutLease])
      (by simp [JobRecord.expire, passed]) (by simp [JobRecord.expire, passed])
  | _ =>
    exact ⟨shape.held, shape.flagged, shape.freed, shape.paired, shape.unused⟩

/-- From a terminal state there are two ways out: a retry, and a decision on a cancelled job. -/
theorem JobStep.leaves_terminal (moved : JobStep cfg now op reply r r') (parked : r.PendingParked)
    (terminal : r.state.Terminal) : r'.state = r.state ∨
    (r.state = .deadLetter ∧ r'.state = .retryWait ∧
        ∃ approval org ws, op = .retryDeadLetter r.id approval org ws) ∨ (r.state = .cancelled ∧
        ∃ org ws approved a, op = .decide r.id org ws approved ∧ r.approval = some a ∧
        a.Awaits org ws) := by
  cases moved with
  | claim ready => exact absurd terminal ready.not_terminal
  | finish _ lease | complete _ lease | workerCancel _ lease =>
    exact absurd terminal lease.not_terminal
  | consoleCancel =>
    -- An expired or rejected job only gets the flag.
    left
    have kept : r.state ∉ [.queued, .retryWait] := by
      intro waiting
      simp only [mem_cons, not_mem_nil, or_false] at waiting
      rcases waiting with state | state <;> simp [JobState.Terminal, state] at terminal
    simp only [consoleCancelled, if_neg kept]
  | orchestrationCancel _ active =>
    have open_ := active.2
    simp only [JobState.Terminal, mem_cons, not_mem_nil, or_false] at terminal open_
    tauto
  | @decide _ org ws approved _ a target asked awaits =>
    subst target
    rcases parked a asked awaits.2.2 with state | state
    · simp [JobState.Terminal, state] at terminal
    · exact .inr (.inr ⟨state, org, ws, approved, a, rfl, asked, awaits⟩)
  | @retry _ approval org ws _ target _ dead =>
    subst target
    exact .inr (.inl ⟨dead, rfl, approval, org, ws, rfl⟩)
  | recoverCancelled lapsed | recoverRetried lapsed | recoverDead lapsed =>
    simp [JobState.Terminal, lapsed.1] at terminal
  | expire passed =>
    rcases passed.1 with state | state | state <;> simp [JobState.Terminal, state] at terminal
  | _ => exact .inl rfl

end Steps

/-- A job in a terminal state stays in it through the step, unless a retry revives a dead letter. -/
def TerminalAbsorbs (cfg : Config) (s : State) (e : Event) : Prop :=
  ∀ id r, s.db.job? id = some r → r.state.Terminal → ∃ r', (step cfg s e).db.job? id = some r' ∧
      (r'.state = r.state ∨ (r.state = .deadLetter ∧ r'.state = .retryWait ∧
        ∃ approval org ws, e.op = .retryDeadLetter id approval org ws))

/-- The call is a `decide` that finds the open approval of a job that was cancelled. -/
def DecidesCancelled (s : State) (e : Event) : Prop :=
  ∃ id org ws approved r a, e.op = .decide id org ws approved ∧ s.db.job? id = some r ∧
    r.state = .cancelled ∧ r.approval = some a ∧ a.Awaits org ws

theorem Fresh.leaseShape {r : JobRecord} (fresh : Fresh now r) : r.LeaseShape := by
  obtain ⟨_, _, -, -, rfl⟩ := fresh
  exact .of_freed (by simp [queued, JobState.WithoutLease]) rfl rfl

theorem Fresh.pendingParked (fresh : Fresh now r) : r.PendingParked := by
  obtain ⟨_, _, -, -, rfl⟩ := fresh
  intro a asked
  cases asked

structure JobRecord.Consistent (r : JobRecord) : Prop where
  parked : r.PendingParked
  shape : r.LeaseShape

theorem stable_consistent (cfg : Config) :
    (jobSystem cfg).Stable (State.Each fun _ => Consistent) := by
  refine stable_each (fun _ sound => sound)
    (fun fresh => ⟨fresh.pendingParked, fresh.leaseShape⟩) ?_
  intro now op reply r r' opens moved sound
  exact ⟨moved.pendingParked opens sound.parked, moved.leaseShape sound.parked sound.shape⟩

theorem step_decide (cfg : Config) (now : Int) (s : State) {id : UUID}
    (found : s.db.job? id = some r)
    (asked : r.approval = some a) (awaits : a.Awaits org ws) :
    (step cfg s ⟨now, .decide id org ws approved⟩).db.job? id =
      some { r with
        approval := some (a.decided now approved), state := decidedJobState approved } := by
  obtain rfl := Database.job?_id found
  have ok : exec cfg now (.decide r.id org ws approved) s.db = .ok (s.db.put
      { r with approval := some (a.decided now approved), state := decidedJobState approved },
      .status (decidedJobState approved).publicState) := by
    simp [exec, decideApproval, found, asked, awaits]
  exact step_put ok found

theorem step_terminal_iff (e : Event) (sound : s.Each fun _ => Consistent) :
    TerminalAbsorbs cfg s e ↔ ¬ DecidesCancelled s e := by
  constructor
  -- The decision itself breaks absorption: neither of its two states is `cancelled`.
  · rintro absorbs ⟨id, org, ws, approved, r, a, op, found, cancelled, asked, awaits⟩
    obtain ⟨now, op⟩ := e
    subst op
    obtain ⟨r', found', kept⟩ := absorbs id r found (by simp [JobState.Terminal, cancelled])
    rw [step_decide cfg now s found asked awaits] at found'
    cases found'
    simp only [cancelled] at kept
    rcases kept with same | ⟨dead, -⟩
    · cases approved <;> cases same
    · cases dead
  · intro spared id r found terminal
    obtain ⟨_, r', found', moved, -⟩ := step_job cfg e found
    obtain rfl := Database.job?_id found
    refine ⟨r', found', ?_⟩
    rcases moved.leaves_terminal (sound r.id r found).parked terminal with same | retried | decided
    · exact .inl same
    · exact .inr retried
    · obtain ⟨cancelled, org, ws, approved, a, op, asked, awaits⟩ := decided
      exact absurd ⟨r.id, org, ws, approved, r, a, op, found, cancelled, asked, awaits⟩ spared

/-- In a run of the job operations every step leaves terminal states alone exactly when no
`decide` answers the approval of a cancelled job. -/
theorem terminal_states_absorb_iff (cfg : Config) (start : Int) (es : List Event)
    (run : (jobSystem cfg).Run (.initial start) es) : (jobSystem cfg).Along (TerminalAbsorbs cfg)
    (.initial start) es ↔
      (jobSystem cfg).Along (fun s e => ¬ DecidesCancelled s e) (.initial start) es :=
  (stable_consistent cfg).along_iff (fun _ e _ sound => step_terminal_iff e sound)
    (each_initial _ start) run

/-! ## A run that revives a cancelled job -/

namespace Sample

def outputText : String := "\x7b\"proposal\":\"proposal\"\x7d"

def payloadDigest : String := "239f59ed55e737c77147cf55ad0c1b030b6d7ee748a7426952f9b852d5a935e5"

def outputDigest : String := "338654fb59f5908dded79ec01c63ecf338e4a86e2c392768725ffb8201a47480"

def config : Config where
  sha256 text := if text = outputText then outputDigest else payloadDigest
  defaultMaxQueuedPerTenant := 100
  dailyTokenQuota := 1000000
  globalEmergencyLimit := 0

def command (id : UUID) (key : String) (approval : Bool) (retries : Nat) : AICommand where
  commandId := id
  commandType := .chat
  tenantId := 2
  actorId := "user"
  correlationId := "correlation"
  idempotencyKey := key
  priority := 4
  requestedAt := 0
  deadlineAt := makeInterval 600
  profile := .fastChat
  resourceLimits := ⟨min retries 5, 100, by omega, by decide⟩
  approvalPolicy := ⟨approval⟩
  priority_le := by decide
  deadline_follows := by decide
  deadline_bounded := by decide
  profile_allowed := fastChat_allowed
  business_approval := by rintro (h | h) <;> cases h

def submitAt (now : Int) (approval : Bool) (retries : Nat) : Event :=
  ⟨now, .submit (command 1 "key" approval retries) "payload" 3⟩

def claimAt (now : Int) (worker : String) : Event :=
  ⟨now, .claim ⟨worker, 60, ⟨none, none⟩, none, none, 0⟩⟩

def completeAt (now : Int) (worker : String) (token : Nat) : Event :=
  ⟨now, .completeJob ⟨1, worker, token, 2, 3, "correlation",
    some ⟨1, 1, ⟨outputText, some "proposal"⟩, [], 0⟩, 7⟩⟩

def read {α : Type} (S : System State Event) (f : JobRecord → α) (es : List Event) : Option α :=
  ((S.after (.initial 0) es).db.job? 1).map f

end Sample

open Sample

def cancelledWhileParked : List Event :=
  [submitAt 0 true 0, claimAt 1 "w", completeAt 2 "w" 1, ⟨3, .orchestrationCancel 1 2 3⟩]

theorem decision_revives_cancelled_job : (jobSystem config).Run (.initial 0)
      (cancelledWhileParked ++ [⟨4, .decide 1 2 3 true⟩]) ∧
    read (jobSystem config) (·.state) cancelledWhileParked = some .cancelled ∧
    read (jobSystem config) (·.state) (cancelledWhileParked ++ [⟨4, .decide 1 2 3 true⟩]) =
    some .approved ∧
    ¬ (jobSystem config).Along (TerminalAbsorbs config) (.initial 0)
    (cancelledWhileParked ++ [⟨4, .decide 1 2 3 true⟩]) := by
  have before : read (jobSystem config) (·.state) cancelledWhileParked = some .cancelled := by
    decide +kernel
  have after : read (jobSystem config) (·.state)
      (cancelledWhileParked ++ [⟨4, .decide 1 2 3 true⟩]) = some .approved := by decide +kernel
  refine ⟨run_iff.mpr (by decide), before, after, ?_⟩
  rw [System.along_append]
  -- What absorption says of the last step contradicts the two states read around it.
  rintro ⟨-, absorbs, -⟩
  obtain ⟨r, found, cancelled⟩ := map_eq_some_iff.mp before
  obtain ⟨r', found', approved⟩ := map_eq_some_iff.mp after
  obtain ⟨r'', found'', kept⟩ := absorbs 1 r found (by simp [JobState.Terminal, cancelled])
  cases found'.symm.trans found''
  simp [approved, cancelled] at kept

/-- Without the decision the same run keeps every terminal state. -/
theorem terminal_states_absorb_parked : (jobSystem config).Along (TerminalAbsorbs config)
      (.initial 0) cancelledWhileParked := by
  apply (terminal_states_absorb_iff config 0 cancelledWhileParked (run_iff.mpr (by decide))).mpr
  simp [System.Along, cancelledWhileParked, DecidesCancelled, submitAt, claimAt, completeAt]

end CodestraMiddleware.AiJobs
