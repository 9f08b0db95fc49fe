import CodestraMiddleware.N8n.Executions

/-!
# Attempts of an execution

The attempts of an execution are its claims by dispatchers. Of the ways back to `RETRY` only the
failure of an attempt compares them with the limit.
-/
namespace CodestraMiddleware.N8n

open Relational Constrained PythonValue Transition List State
open Sample (runtime)

variable (rt : Runtime)

def observed : System (State × List UUID) Event :=
  (system rt).recording fun s e => claimedBy s.database e

def ExecutionStatus.accepted : ExecutionStatus → Bool
  | .running | .completed | .failed => true
  | _ => false

/-- No execution is claimed more often than the limit says; one that has been claimed that often is
being dispatched, or it was given up, or n8n has taken it. -/
def Bounded (s : State × List UUID) : Prop :=
  ∀ id x, s.1.database.executions.lookup id = some x → (s.2.count id : Int) ≤ rt.maxAttempts ∧
      ((s.2.count id : Int) = rt.maxAttempts → x.status ≠ .dispatching →
        x.status = .deadLetter ∨ x.status = .timedOut ∨ x.status.accepted = true)

/-- A step makes the execution wait for a dispatcher, other than by the failure of an attempt. -/
def MadeToWait (db : Database) (e : Event) (x : Execution) : Prop :=
  creates rt db e = some x ∨ x ∈ db.executions.rows ∧ recovers e x = true ∨
    reports rt db e = some (x, .retry)

/-- An execution that is made to wait has attempts left. -/
def WaitsWithin (s : State × List UUID) (e : Event) : Prop :=
  ∀ x, MadeToWait rt s.1.database e x → (x.attemptCount : Int) < rt.maxAttempts

variable {rt} {db : Database}

/-! ## Claims are counted -/

def attempts (db : Database) (id : UUID) : Nat :=
  ((db.executions.lookup id).map (·.attemptCount)).getD 0

theorem count_claimedBy (bounds : ¬(limit < 1 ∨ limit > 25)) (id : UUID) :
    (claimedBy db (.claim locked limit now)).count id =
      if ∃ x ∈ claimable db locked limit now, ¬x.timeoutAt ≤ now ∧ x.executionId = id then 1
      else 0 := by
  have distinct : (claimedBy db (.claim locked limit now)).Nodup := by
    rw [claimedBy_claim bounds]
    refine (nodup_taken ?_).sublist (filter_sublist.map _)
    exact pairwise_map.mpr (db.executions.apart.imp fun apart same => apart (.inl same))
  rw [distinct.count]
  congr 1
  rw [claimedBy_claim bounds]
  simp [and_assoc]

theorem attempts_claim (locked : List UUID) (limit now : Int) (id : UUID) :
    attempts (committed db (claim db locked limit now)) id =
      attempts db id + (claimedBy db (.claim locked limit now)).count id := by
  by_cases bounds : limit < 1 ∨ limit > 25
  · simp only [claimedBy, claim, if_pos bounds, committed, count_nil, Nat.add_zero]
  rw [count_claimedBy bounds, attempts, claim, if_neg bounds, committed,
    lookup_updateWhere, attempts]
  cases stored : db.executions.lookup id with
  | none =>
    have unclaimed : ¬∃ x ∈ claimable db locked limit now, ¬x.timeoutAt ≤ now ∧
        x.executionId = id := by
      rintro ⟨x, row, -, rfl⟩
      rw [(mem_claimable row).1] at stored
      cases stored
    rw [if_neg unclaimed]
    rfl
  | some x =>
    have only (y : Execution) (row : y ∈ claimable db locked limit now)
        (same : y.executionId = id) : y = x := by
      have found := (mem_claimable row).1
      rw [same, stored] at found
      exact (Option.some.inj found).symm
    have own := executionId_of_execution stored
    simp only [Option.map_some, Option.getD_some, decide_eq_true_eq]
    by_cases row : x ∈ claimable db locked limit now
    · rw [if_pos (mem_map_of_mem row), Execution.claimed]
      split
      next late =>
        rw [if_neg]
        · rfl
        · rintro ⟨y, selected, timely, same⟩
          rw [only y selected same] at timely
          exact timely late
      next timely => rw [if_pos ⟨x, row, timely, own⟩]
    · rw [if_neg, if_neg]
      · rfl
      · rintro ⟨y, selected, -, same⟩
        exact row (only y selected same ▸ selected)
      · intro member
        obtain ⟨y, selected, same⟩ := mem_map.mp member
        exact row (only y selected (same.trans own) ▸ selected)

theorem attempts_step (s : State) (e : Event) (id : UUID) :
    attempts (step rt s e).database id = attempts s.database
    id + (claimedBy s.database e).count id := by
  by_cases claiming : ∃ locked limit now, e = .claim locked limit now
  · obtain ⟨locked, limit, now, rfl⟩ := claiming
    exact attempts_claim locked limit now id
  have none : claimedBy s.database e = [] := by
    cases e with
    | claim locked limit now => exact absurd ⟨locked, limit, now, rfl⟩ claiming
    | _ => rfl
  have moved := moved_step rt s e id
  rw [none, count_nil, Nat.add_zero, attempts, attempts]
  generalize (step rt s e).database.executions.lookup id = new at moved ⊢
  generalize s.database.executions.lookup id = old at moved ⊢
  cases moved with
  | kept => rfl
  | created new => simp [(creates_pending new).2]
  | claimed _ _ claimed _ =>
    rw [none] at claimed
    cases claimed
  | ended _ _ counted | submitted _ _ counted | failed _ _ counted _ | recovered _ _ counted
  | reported _ _ counted => simp [counted]

/-- The number of attempts is that of the claims, and nothing is ever cancelled. -/
structure Tracked (s : State × List UUID) : Prop where
  counted : ∀ id, s.2.count id = attempts s.1.database id
  uncancelled : ∀ id x, s.1.database.executions.lookup id = some x → x.status ≠ .cancelled

theorem tracked_initial : Tracked (initial, []) := ⟨fun _ => rfl, fun _ _ => nofun⟩

theorem stable_tracked (rt : Runtime) : (observed rt).Stable Tracked := by
  rintro ⟨s, claims⟩ e - ⟨counted, uncancelled⟩
  constructor
  · intro id
    change (claimedBy s.database e ++ claims).count id = attempts (step rt s e).database id
    rw [attempts_step, count_append, counted id, Nat.add_comm]
  · intro id x' stored
    have moved := moved_step rt s e id
    change (step rt s e).database.executions.lookup id = some x' at stored
    rw [stored] at moved
    generalize old : s.database.executions.lookup id = row at moved
    cases moved with
    | kept => exact uncancelled id x' old
    | created new => simp [(creates_pending new).1]
    | claimed _ status | submitted _ status | failed _ status | recovered _ status => simp [status]
    | ended _ status => rcases status with status | status <;> simp [status]
    | @reported x _ result _ status =>
      rw [status]
      cases result <;> simp [ResultStatus.mapped]

/-- The attempts counted for an execution are the claims made of it. -/
theorem claims_tracked (run : (observed rt).Run (initial, []) es) :
    Tracked ((observed rt).after (initial, []) es) :=
  (stable_tracked rt).after tracked_initial run

variable (rt) in
def Execution.Within (x : Execution) : Prop :=
  (x.attemptCount : Int) ≤ rt.maxAttempts ∧
    (x.status.waiting = true → (x.attemptCount : Int) < rt.maxAttempts)

theorem Tracked.bounded_iff (tracked : Tracked s) :
    Bounded rt s ↔ ∀ id x, s.1.database.executions.lookup id = some x → x.Within rt := by
  refine forall₃_congr fun id x stored => ?_
  have counted : s.2.count id = x.attemptCount := by
    rw [tracked.counted id, attempts, stored]
    rfl
  rw [counted, Execution.Within]
  refine and_congr_right fun most => ?_
  have uncancelled := tracked.uncancelled id x stored
  cases status : x.status <;> simp_all [ExecutionStatus.waiting, ExecutionStatus.accepted]

variable {e : Event}

theorem within_of_moved (moved : Moved rt db e old (some x')) (before : ∀ x ∈ old, x.Within rt)
    (waits : ∀ x, (creates rt db e = some x ∨ (x ∈ old ∧ recovers e x = true) ∨
      reports rt db e = some (x, .retry)) → (x.attemptCount : Int) < rt.maxAttempts) :
    x'.Within rt := by
  cases moved with
  | kept => exact before x' rfl
  | created new =>
    have left := waits x' (.inl new)
    exact ⟨Int.le_of_lt left, fun _ => left⟩
  | @claimed x _ waiting status _ counted =>
    have left := (before x rfl).2 waiting
    refine ⟨by omega, ?_⟩
    rw [status]
    nofun
  | @ended x _ _ status counted =>
    refine ⟨by have most := (before x rfl).1; omega, ?_⟩
    rcases status with status | status <;> rw [status] <;> nofun
  | @submitted x _ _ status counted =>
    refine ⟨by have most := (before x rfl).1; omega, ?_⟩
    rw [status]
    nofun
  | failed => exact ⟨by omega, fun _ => by omega⟩
  | @recovered x _ stale _ counted =>
    have left := waits x (.inr (.inl ⟨rfl, stale⟩))
    exact ⟨by omega, fun _ => by omega⟩
  | @reported x _ result reported status counted =>
    refine ⟨by have most := (before x rfl).1; omega, fun waiting => ?_⟩
    rw [status] at waiting
    cases result with
    | retry =>
      have left := waits x (.inr (.inr reported))
      omega
    | _ => cases waiting

theorem within_made (made : MadeToWait rt s.database e x) :
    ∃ id x', (step rt s e).database.executions.lookup id = some x' ∧ x'.status.waiting = true ∧
      x'.attemptCount = x.attemptCount := by
  rcases made with new | ⟨row, stale⟩ | result
  · exact ⟨x.executionId, x, lookup_created new, by rw [(creates_pending new).1]; rfl, rfl⟩
  · obtain ⟨x', found, status, counted⟩ := lookup_recovered rt row stale
    exact ⟨x.executionId, x', found, by rw [status]; rfl, counted⟩
  · obtain ⟨-, x', found, status, counted⟩ := lookup_reported result
    exact ⟨x.executionId, x', found, by rw [status]; rfl, counted⟩

theorem bounded_step_iff (admitted : (observed rt).admits s e)
    (tracked : Tracked s) (bounded : Bounded rt s) : Bounded rt ((observed rt).step s e) ↔
    WaitsWithin rt s e := by
  rw [(stable_tracked rt s e admitted tracked).bounded_iff]
  rw [tracked.bounded_iff] at bounded
  constructor
  · intro after x made
    obtain ⟨id, x', found, waiting, counted⟩ := within_made made
    have left := (after id x' found).2 waiting
    rwa [counted] at left
  · intro waits id x' found
    have moved := moved_step rt s.1 e id
    change (step rt s.1 e).database.executions.lookup id = some x' at found
    rw [found] at moved
    refine within_of_moved moved (fun x stored => bounded id x stored) fun x made => waits x ?_
    rcases made with new | ⟨stored, stale⟩ | result
    · exact .inl new
    · exact .inr (.inl ⟨(lookup_eq_some_iff.mp stored).1, stale⟩)
    · exact .inr (.inr result)

/-- On every run the claims of an execution are bounded, exactly if executions are made to wait only
while they have attempts left. -/
theorem execution_claims_bounded_iff {es : List Event} (run : (observed rt).Run (initial, []) es) :
    (observed rt).Always (Bounded rt) (initial, []) es ↔ (observed rt).Along (WaitsWithin rt)
    (initial, []) es :=
  (stable_tracked rt).always_iff (fun _ _ => bounded_step_iff) tracked_initial
    (fun _ _ => nofun) run

instance decidableWaitsWithin (s : State × List UUID) (e : Event) :
    Decidable (WaitsWithin rt s e) :=
  decidable_of_iff ((∀ x ∈ creates rt s.1.database e, (x.attemptCount : Int) < rt.maxAttempts) ∧
      (∀ x ∈ s.1.database.executions.rows, recovers e x = true →
        (x.attemptCount : Int) < rt.maxAttempts) ∧
      ∀ result ∈ reports rt s.1.database e, result.2 = .retry →
      (result.1.attemptCount : Int) < rt.maxAttempts) (by
    constructor
    · rintro ⟨created, recovered, reported⟩ x (new | ⟨row, stale⟩ | result)
      · exact created x new
      · exact recovered x row stale
      · exact reported _ result rfl
    · intro waits
      refine ⟨fun x new => waits x (.inl new),
        fun x row stale => waits x (.inr (.inl ⟨row, stale⟩)), ?_⟩
      rintro ⟨x, _⟩ result rfl
      exact waits x (.inr (.inr result)))

instance decidableObservedRun (es : List Event) : Decidable ((observed rt).Run (initial, []) es) :=
  @System.decidableAlong _ _ (observed rt) _ (fun s e => decidableAdmits s.1 e) _ es

def thirdAttempt : List Event :=
  [Sample.dispatch, Sample.claim 1, Sample.dispatchOne 503 2, Sample.claim 3,
    .recoverStaleDispatches 60 60000003, Sample.claim 60000004, Sample.dispatchOne 202 60000005,
    Sample.result "nonce-1" .completed 60000006]

theorem thirdAttempt_bounded : (observed runtime).Always (Bounded runtime)
    (initial, []) thirdAttempt :=
  (execution_claims_bounded_iff (by decide +kernel)).mpr (by decide +kernel)

def abandoned : List Event :=
  Sample.dispatch :: (range 6).flatMap fun k =>
    [Sample.claim (60000000 * k), .recoverStaleDispatches 60 (60000000 * (k + 1))]

theorem abandoned_tracked : Tracked ((observed runtime).after (initial, []) abandoned) :=
  claims_tracked (by decide +kernel)

/-- The execution is claimed six times where the limit is five, and waits for a seventh. -/
theorem abandoned_six_times :
    let S := observed runtime
    let s := S.after (initial, []) abandoned
    S.Run (initial, []) abandoned ∧ runtime.maxAttempts = 5 ∧ s.2.count 1 = 6 ∧
      (s.1.database.executions.lookup 1).map (·.status) = some .retry ∧
        ¬S.Always (Bounded runtime) (initial, []) abandoned := by
  have claims : ((observed runtime).after (initial, []) abandoned).2.count 1 = 6 := by
    decide +kernel
  have status : ((((observed runtime).after (initial, []) abandoned).1.database.executions.lookup
      1).map (·.status)) = some .retry := by
    decide +kernel
  refine ⟨by decide +kernel, by decide, claims, status, fun bounded => ?_⟩
  obtain ⟨x, stored, -⟩ := Option.map_eq_some_iff.mp status
  have most := (bounded.last 1 x stored).1
  exact absurd most (by decide)

end CodestraMiddleware.N8n
