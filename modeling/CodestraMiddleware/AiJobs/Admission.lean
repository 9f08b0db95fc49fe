import CodestraMiddleware.AiJobs.Fencing

/-!
# Worker admission

`claim` counts a worker's unexpired leases once, before it hands out another one. No other call adds
to that count.
-/
namespace CodestraMiddleware.AiJobs

open Relational Transition List

/-- The worker's claims give a service identity and all the same scope. -/
def Op.ClaimsWithin (w : String) (scope : Scope) (op : Op) : Prop :=
  ∀ c ∈ op.claim?, c.workerId = w → c.serviceId.isSome ∧ c.scope = scope

instance (w : String) (scope : Scope) : DecidablePred (Op.ClaimsWithin w scope) := fun op =>
  inferInstanceAs (Decidable (∀ c ∈ op.claim?, _))

abbrev workerSystem (cfg : Config) (w : String) (scope : Scope) : System State Event :=
  system cfg fun op => op.OpensNoApproval ∧ op.ClaimsWithin w scope

def GenerationJob.LiveFor (now : Int) (w : String) (j : GenerationJob) : Prop :=
  j.leaseOwner = some w ∧ ∃ t ∈ j.leaseExpiresAt, now < t

instance (now : Int) (w : String) (j : GenerationJob) : Decidable (j.LiveFor now w) :=
  inferInstanceAs (Decidable (_ ∧ _))

def liveJobs (now : Int) (w : String) (db : Database) : List JobRecord :=
  db.jobs.rows.filter fun r => decide (r.LiveFor now w)

/-- A worker is within its limits: few enough leases run, and where several do, their profiles
share one runtime class that admits company. -/
structure Admitted (now : Int) (w : String) (db : Database) : Prop where
  capped : ((liveJobs now w db).length : Int) ≤ workerHardSafetyCap
  company : 2 ≤ (liveJobs now w db).length → ∃ c, c ∈ runtimeClassCompatibility c ∧
    ∀ r ∈ liveJobs now w db, runtimeClass? r.modelProfile = some c

def JobRecord.LeasedWithin (w : String) (scope : Scope) (r : JobRecord) : Prop :=
  r.leaseOwner = some w → scope.Covers r.toGenerationJob

variable {db : Database}

theorem mem_liveJobs : r ∈ liveJobs now w db ↔ db.job? r.id = some r ∧ r.LiveFor now w := by
  unfold liveJobs
  rw [mem_filter, decide_eq_true_iff]
  exact and_congr_left fun _ => ⟨db.jobs.find?_of_mem, db.jobs.find?_mem⟩

theorem length_liveJobs_le (ids : List UUID)
    (covered : ∀ r ∈ liveJobs now w db, r.id ∈ ids) : (liveJobs now w db).length ≤ ids.length :=
  db.jobs.length_filter_le _ ids covered

variable {t : Int}

section Steps

variable {cfg : Config} {w : String} {scope : Scope} {now : Int} {op : Op} {reply : Reply}
  {r r' : JobRecord}

theorem JobStep.leasedWithin (moved : JobStep cfg now op reply r r')
    (kept : op.ClaimsWithin w scope) (within : r.LeasedWithin w scope) :
    r'.LeasedWithin w scope := by
  intro owner
  rw [Scope.Covers, moved.spec]
  rcases moved.lease_kept (by simp [owner]) with same | claimed | renewed
  · exact within (same.1 ▸ owner)
  · obtain ⟨c, rfl, -, taken, covers⟩ := claimed
    rw [taken, Option.some.injEq] at owner
    rw [← (kept c rfl owner).2]
    exact covers
  · obtain ⟨_, _, -, -, -, same, -⟩ := renewed
    exact within (same ▸ owner)

theorem stable_leasedWithin (cfg : Config) (w : String) (scope : Scope) :
    (workerSystem cfg w scope).Stable (State.Each fun _ r => r.LeasedWithin w scope) := by
  refine stable_each (fun _ within => within) ?_ fun admitted moved => moved.leasedWithin admitted.2
  rintro now r ⟨_, _, -, -, rfl⟩ owner
  cases owner

theorem JobStep.live_kept (moved : JobStep cfg now op reply r r') (later : now ≤ t)
    (live : r'.LiveFor t w) :
    r.LiveFor now w ∨ ∃ c, op = .claim c ∧ c.workerId = w ∧
    reply = .claimed r'.toGenerationJob := by
  obtain ⟨owner, x, expires, after⟩ := live
  rcases moved.lease_kept (by simp [owner]) with same | claimed | renewed
  · exact .inl ⟨same.1 ▸ owner, x, same.2.2 ▸ expires, Int.lt_of_le_of_lt later after⟩
  · obtain ⟨c, op, answer, taken, -⟩ := claimed
    exact .inr ⟨c, op, Option.some.inj (taken.symm.trans owner), answer⟩
  · obtain ⟨_, _, -, -, -, same, running⟩ := renewed
    exact .inl ⟨same ▸ owner, running⟩

end Steps

variable {c : ClaimRequest}

section Runs

variable {cfg : Config} {w : String} {scope : Scope} {s : State} {e : Event}

def Grants (cfg : Config) (w : String) (s : State) (e : Event) (c : ClaimRequest)
    (job : GenerationJob) : Prop :=
  e.op = .claim c ∧ c.workerId = w ∧ ∃ db', exec cfg e.now e.op s.db = .ok (db', .claimed job)

theorem live_origin (later : e.now ≤ t) (live : r' ∈ liveJobs t w (step cfg s e).db) :
    (∃ r ∈ liveJobs e.now w s.db, r.id = r'.id ∧ r.modelProfile = r'.modelProfile) ∨
      ∃ c, Grants cfg w s e c r'.toGenerationJob := by
  obtain ⟨found', runs⟩ := mem_liveJobs.mp live
  rcases step_origin found' with ⟨r, _, found, moved, reported⟩ | ⟨-, fresh⟩
  · have key := Database.job?_id found
    have kept : r.LiveFor e.now w → ∃ old ∈ liveJobs e.now w s.db, old.id = r'.id ∧
        old.modelProfile = r'.modelProfile := fun running =>
      ⟨r, mem_liveJobs.mpr ⟨key ▸ found, running⟩, key, congrArg (·.modelProfile) moved.spec.symm⟩
    rcases moved.live_kept later runs with running | ⟨c, op, worker, answer⟩
    · exact .inl (kept running)
    -- A claim that raised left the job, and the lease was there before.
    · rcases reported with rfl | ⟨db', ok⟩
      · obtain ⟨owner, x, expires, after⟩ := runs
        exact .inl (kept ⟨owner, x, expires, Int.lt_of_le_of_lt later after⟩)
      · exact .inr ⟨c, op, worker, db', answer ▸ ok⟩
  · obtain ⟨_, _, -, -, rfl⟩ := fresh
    cases runs.1

theorem admitted_of_ungranted (later : e.now ≤ t) (before : Admitted e.now w s.db)
    (ungranted : ∀ c job, ¬ Grants cfg w s e c job) : Admitted t w (step cfg s e).db := by
  have origin : ∀ r' ∈ liveJobs t w (step cfg s e).db, ∃ r ∈ liveJobs e.now w s.db,
      r.id = r'.id ∧ r.modelProfile = r'.modelProfile := by
    intro r' live
    rcases live_origin later live with old | ⟨c, granted⟩
    · exact old
    · exact absurd granted (ungranted c _)
  have fewer : (liveJobs t w (step cfg s e).db).length ≤ (liveJobs e.now w s.db).length := by
    have covered : ∀ r' ∈ liveJobs t w (step cfg s e).db, r'.id ∈ (liveJobs e.now w s.db).map
        (·.id) := by
      intro r' live
      obtain ⟨r, old, key, -⟩ := origin r' live
      exact mem_map.mpr ⟨r, old, key⟩
    simpa using length_liveJobs_le _ covered
  constructor
  · exact Int.le_trans (Int.ofNat_le.mpr fewer) before.capped
  · intro several
    obtain ⟨c, company, shared⟩ := before.company (Nat.le_trans several fewer)
    refine ⟨c, company, fun r' live => ?_⟩
    obtain ⟨r, old, -, profile⟩ := origin r' live
    rw [← profile]
    exact shared r old

theorem activeFor_of_live {r : JobRecord} (sound : r.Consistent) (within : r.LeasedWithin w scope)
    (live : r.LiveFor now w) : r.ActiveFor now w scope := by
  refine ⟨?_, live.1, live.2, within live.1⟩
  -- A job outside the two lease states has no owner.
  by_contra other
  rw [not_or] at other
  have free := sound.shape.freed other.1 other.2
  rw [live.1] at free
  cases free

theorem admission_ok (named : c.serviceId.isSome) (ok : admission now c db = .ok active) :
    active = activeProfiles now c.workerId c.scope db ∧
    (active.length : Int) < workerHardSafetyCap := by
  unfold admission at ok
  split at ok
  next unnamed => simp [unnamed] at named
  split at ok
  · cases ok
  next registration _ =>
    split at ok
    · dsimp only at ok
      split at ok
      · cases ok
      next room =>
        cases ok
        exact ⟨rfl, Int.lt_of_lt_of_le (Int.not_le.mp room) (Int.min_le_right _ _)⟩
    · cases ok

/-- What a granted claim saw: room for one more lease beside those it counted, and a candidate whose
profile they admit. -/
theorem granted_spec (granted : Grants cfg w s e c job) (kept : e.op.ClaimsWithin w scope) :
    ∃ active p, active = activeProfiles e.now w scope s.db ∧
      (active.length : Int) < workerHardSafetyCap ∧ job.modelProfile = some p ∧
      p ∈ compatibleProfiles active := by
  obtain ⟨op, rfl, db', ok⟩ := granted
  rw [op] at ok kept
  obtain ⟨named, rfl⟩ := kept c rfl rfl
  rcases claim_ok ok with ⟨-, nothing⟩ | ⟨active, r, _, admitted, -, ready, taken, -, answer⟩
  · cases nothing
  cases answer
  obtain ⟨seen, room⟩ := admission_ok named admitted
  have filtered := ready.2.2.2.1
  simp only [ClaimRequest.profileFilter, named, true_or, if_true, Option.mem_some_iff,
    forall_eq'] at filtered
  obtain ⟨p, profile, allowed⟩ := filtered
  obtain ⟨_, -, rfl⟩ := Option.map_eq_some_iff.mp taken
  exact ⟨active, p, seen, room, profile, effectiveCompatibleProfiles_subset _ _ allowed⟩

theorem admitted_of_granted (later : e.now ≤ t) {job : GenerationJob}
    (granted : Grants cfg w s e c job)
    (kept : e.op.ClaimsWithin w scope) (sound : s.Each fun _ => JobRecord.Consistent)
    (within : s.Each fun _ r => r.LeasedWithin w scope) : Admitted t w (step cfg s e).db := by
  obtain ⟨active, p, seen, _, profile, allowed⟩ := granted_spec granted kept
  -- The claim counted every running lease: each is in one of the two states and in the scope.
  have counts : ∀ r ∈ s.db.jobs.rows, decide (r.LiveFor e.now w) = true →
      decide (r.ActiveFor e.now w scope) = true := by
    intro r row live
    have found : s.db.job? r.id = some r := s.db.jobs.find?_of_mem row
    rw [decide_eq_true_iff] at live ⊢
    exact activeFor_of_live (sound r.id r found) (within r.id r found) live
  have fits : (liveJobs e.now w s.db).length ≤ active.length := by
    rw [seen, activeProfiles, length_map, liveJobs, ← countP_eq_length_filter,
      ← countP_eq_length_filter]
    exact countP_mono_left counts
  have listed : ∀ r ∈ liveJobs e.now w s.db, r.modelProfile ∈ active := by
    intro r live
    obtain ⟨row, running⟩ := mem_filter.mp live
    rw [seen]
    exact mem_map.mpr ⟨r, mem_filter.mpr ⟨row, counts r row running⟩, rfl⟩
  -- Every lease after the step is one of those before it, or the one just granted.
  have origin : ∀ r' ∈ liveJobs t w (step cfg s e).db,
      (∃ r ∈ liveJobs e.now w s.db, r.id = r'.id ∧ r.modelProfile = r'.modelProfile) ∨
      r'.toGenerationJob = job := by
    intro r' live
    rcases live_origin later live with old | ⟨c', -, -, db', ok'⟩
    · exact .inl old
    · obtain ⟨-, -, db', ok⟩ := granted
      rw [ok] at ok'
      cases ok'
      exact .inr rfl
  have fewer : (liveJobs t w (step cfg s e).db).length ≤ (liveJobs e.now w s.db).length + 1 := by
    have covered : ∀ r' ∈ liveJobs t w (step cfg s e).db,
        r'.id ∈ job.id :: (liveJobs e.now w s.db).map (·.id) := by
      intro r' live
      rcases origin r' live with ⟨r, old, key, -⟩ | rfl
      · exact mem_cons_of_mem _ (mem_map.mpr ⟨r, old, key⟩)
      · exact mem_cons_self
    simpa using length_liveJobs_le _ covered
  constructor
  · omega
  · intro several
    -- Two leases run, so the claim saw at least one, whose class decides.
    obtain ⟨q, beside⟩ : ∃ q, q ∈ active := exists_mem_of_length_pos (by omega)
    obtain ⟨c, -, ours, company⟩ := compatibleProfiles_class allowed beside
    refine ⟨c, company, fun r' live => ?_⟩
    rcases origin r' live with ⟨r, old, -, same⟩ | rfl
    · obtain ⟨c', theirs, ours', -⟩ := compatibleProfiles_class allowed (listed r old)
      rw [← same, theirs, ← ours', ours]
    · rw [profile, ours]

structure State.WithinLimits (w : String) (scope : Scope) (s : State) : Prop where
  consistent : s.Each fun _ => JobRecord.Consistent
  leased : s.Each fun _ r => r.LeasedWithin w scope
  admitted : ∀ now, s.clock ≤ now → Admitted now w s.db

theorem stable_withinLimits (cfg : Config) (w : String) (scope : Scope) :
    (workerSystem cfg w scope).Stable (State.WithinLimits w scope) := by
  rintro s e admitted ⟨consistent, leased, within⟩
  refine ⟨stable_restrict (fun _ both => both.1) (stable_consistent cfg) s e admitted consistent,
    stable_leasedWithin cfg w scope s e admitted leased, fun t later => ?_⟩
  by_cases granted : ∃ c job, Grants cfg w s e c job
  · obtain ⟨c, job, granted⟩ := granted
    exact admitted_of_granted later granted admitted.2.2 consistent leased
  · exact admitted_of_ungranted later (within e.now admitted.1) fun c job grants =>
      granted ⟨c, job, grants⟩

theorem withinLimits_initial (w : String) (scope : Scope) (start : Int) :
    (State.initial start).WithinLimits w scope := by
  refine ⟨each_initial _ start, each_initial _ start, fun now _ => ?_⟩
  have none_live : liveJobs now w (State.initial start).db = [] := rfl
  constructor <;> simp [none_live, workerHardSafetyCap]

end Runs

/-- In every run in which the worker's claims give a service identity and one scope, the worker is
within its limits in every state, at the time of that state and for as long as it lasts. -/
theorem worker_admission (cfg : Config) (w : String) (scope : Scope) (start : Int)
    (es : List Event) (run : (workerSystem cfg w scope).Run (.initial start) es) :
    (workerSystem cfg w scope).Always (fun s => ∀ now, s.clock ≤ now → Admitted now w s.db)
    (.initial start) es :=
  (stable_withinLimits cfg w scope).always (fun _ limits => limits.admitted)
    (withinLimits_initial w scope start) run

def threeClaims : List Event :=
  let claim (now : Int) : Event := ⟨now,
    .claim ⟨"w", 60, ⟨some 2, some 3⟩, some "service", none, 0⟩⟩
  let submit (id : UUID) (key : String) : Event :=
    ⟨0, .submit (Sample.command id key false 0) "payload" 3⟩
  [⟨0, .setRegistration ⟨"w", "service", 5, true⟩⟩, submit 1 "a", submit 4 "b", submit 5 "c",
    claim 1, claim 2, claim 3]

theorem worker_admission_full :
    (liveJobs 3 "w" ((workerSystem Sample.config "w" ⟨some 2, some 3⟩).after (.initial 0)
      threeClaims).db).map (·.id) = [1, 4] ∧
      (workerSystem Sample.config "w" ⟨some 2, some 3⟩).Always
      (fun s => ∀ now, s.clock ≤ now → Admitted now "w" s.db) (.initial 0) threeClaims :=
  ⟨by decide +kernel, worker_admission Sample.config "w" ⟨some 2, some 3⟩ 0 threeClaims
    (run_iff.mpr (by decide))⟩

end CodestraMiddleware.AiJobs
