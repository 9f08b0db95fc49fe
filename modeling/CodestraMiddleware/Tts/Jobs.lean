import CodestraMiddleware.Foundations.Run
import CodestraMiddleware.Foundations.Table

/-!
# Text-to-speech jobs

The statements of `core/tts_jobs.py`, each one transaction on `tts_generation_jobs`. A statement
that finds no row under its conditions changes nothing. `claim` and `claim_exact` differ in how the
job is found: the job that the query of `claim` selects is an argument.
-/
namespace CodestraMiddleware.Tts

open Relational Transition Table

abbrev UUID := BitVec 128

inductive JobState where
  | queued | claimed | providerStarting | streaming | completed | failed | cancelled
  | ambiguousProviderOutcome
  deriving DecidableEq

def JobState.terminal (state : JobState) : Bool :=
  state ∈ [completed, failed, cancelled, ambiguousProviderOutcome]

def JobState.calling (state : JobState) : Bool := state ∈ [providerStarting, streaming]

/-- `UNIQUE(organization_id, workspace_id, project_key, requested_by, idempotency_key)`. -/
structure Key where
  (organizationId workspaceId : UUID)
  (projectKey requestedBy idempotencyKey : String)
  deriving DecidableEq

structure Job where
  id : UUID
  key : Key
  state : JobState := .queued
  (attemptCount fencingToken chunkCount : Nat := 0)
  audioBytes : Int := 0
  leaseOwner : Option String := none
  (leaseExpiresAt providerRequestStartedAt firstChunkAt cancellationAt : Option Int := none)

/-- What a worker presents. -/
structure Lease where
  jobId : UUID
  workerId : String
  fencingToken : Nat

inductive Op where
  | submit (id : UUID) (key : Key)
  | claim (jobId : UUID) (workerId : String) (leaseSeconds : Int)
  | markProviderStarted (lease : Lease)
  | recordChunk (lease : Lease) (size : Int)
  | complete (lease : Lease)
  | markAmbiguous (lease : Lease)
  | markCancelledStreaming (lease : Lease)
  | cancel (jobId organizationId workspaceId : UUID) (requestedBy : String)
  | recoverExpired

namespace Job

def holds (j : Job) (lease : Lease) : Bool :=
  j.id = lease.jobId ∧ j.leaseOwner = some lease.workerId ∧ j.fencingToken = lease.fencingToken

def running (j : Job) (now : Int) : Bool := j.leaseExpiresAt.any (· > now)

def expired (j : Job) (now : Int) : Bool := j.leaseExpiresAt.any (· ≤ now)

def released (j : Job) (state : JobState) : Job :=
  { j with state, leaseOwner := none, leaseExpiresAt := none }

/-- The row that a statement leaves, if its conditions hold of the row; times are
in microseconds. -/
def update (now : Int) (j : Job) : Op → Option Job
  | .submit .. => none
  | .claim jobId workerId leaseSeconds =>
    if j.id = jobId ∧ j.state = .queued ∧ j.cancellationAt = none then
      some { j with
        state := .claimed, leaseOwner := workerId,
             leaseExpiresAt := some (now + leaseSeconds * 1000000),
        attemptCount := j.attemptCount + 1, fencingToken := j.fencingToken + 1 }
    else none
  | .markProviderStarted lease =>
    if j.state = .claimed ∧ j.holds lease ∧ j.running now ∧ j.cancellationAt = none then
      some { j with state := .providerStarting, providerRequestStartedAt := now }
    else none
  | .recordChunk lease size =>
    -- `ck_tts_counts` refuses a negative sum.
    if j.state.calling ∧ j.holds lease ∧ j.running now ∧ j.cancellationAt = none ∧
        0 ≤ j.audioBytes + size then
      some { j with
        state := .streaming, firstChunkAt := some (j.firstChunkAt.getD now),
             chunkCount := j.chunkCount + 1,
        audioBytes := j.audioBytes + size, leaseExpiresAt := some (now + 60000000) }
    else none
  | .complete lease =>
    if j.state = .streaming ∧ j.holds lease ∧ j.firstChunkAt.isSome ∧ j.cancellationAt = none then
      some (j.released .completed)
    else none
  | .markAmbiguous lease =>
    if j.state.calling ∧ j.holds lease then some (j.released .ambiguousProviderOutcome) else none
  | .markCancelledStreaming lease =>
    if j.state.calling ∧ j.holds lease then
      some { j.released .cancelled with cancellationAt := some (j.cancellationAt.getD now) }
    else none
  | .cancel jobId organizationId workspaceId requestedBy =>
    if j.id = jobId ∧ j.key.organizationId = organizationId ∧ j.key.workspaceId = workspaceId ∧
        j.key.requestedBy = requestedBy ∧ !j.state.terminal then
      some { j.released .cancelled with cancellationAt := now }
    else none
  | .recoverExpired =>
    if j.state = .claimed ∧ j.expired now ∧ j.providerRequestStartedAt = none ∧
        j.cancellationAt = none then
      some (j.released .queued)
    else if j.state.calling ∧ j.expired now then some (j.released .ambiguousProviderOutcome)
    else none

theorem update_id {j j' : Job} (done : j.update now op = some j') : j'.id = j.id := by
  unfold update released at done
  grind

theorem update_terminal {j : Job} (terminal : j.state.terminal) : j.update now op = none := by
  cases op <;> simp only [update] <;> grind [JobState.terminal, JobState.calling]

end Job

/-- A submission whose key is there already returns the job that has it. -/
def step (jobs : Table Job.id) (now : Int) : Op → Table Job.id
  | .submit id key => if jobs.rows.any (·.key = key) then jobs else jobs.insertOrIgnore { id, key }
  | op => jobs.update (fun j => (j.update now op).getD j) fun j => by
      cases done : j.update now op with
      | none => rfl
      | some j' => exact j.update_id done

inductive Note where
  | claimed (workerId : String) (fencingToken : Nat)
  | started
  | chunk (workerId : String) (fencingToken : Nat) (size : Int)
  deriving DecidableEq

def claims : List Note → List (String × Nat)
  | [] => []
  | .claimed workerId token :: notes => (workerId, token) :: claims notes
  | _ :: notes => claims notes

def chunks : List Note → List (String × Nat × Int)
  | [] => []
  | .chunk workerId token size :: notes => (workerId, token, size) :: chunks notes
  | _ :: notes => chunks notes

def Op.notes (j : Job) : Op → List Note
  | .claim _ workerId _ => [.claimed workerId (j.fencingToken + 1)]
  | .markProviderStarted _ => [.started]
  | .recordChunk lease size => [.chunk lease.workerId lease.fencingToken size]
  | _ => []

/-- What is noted of a call for a job, if it succeeds. -/
def notes (id : UUID) (jobs : Table Job.id) (e : Int × Op) : List Note :=
  match jobs.find? id with
  | some j => if (j.update e.1 e.2).isSome then e.2.notes j else []
  | none => []

/-- Any calls at any time; those that succeeded for the job are remembered, the newest first. -/
def system (id : UUID) : System (Table Job.id × List Note) (Int × Op) :=
  System.recording ⟨fun jobs e => step jobs e.1 e.2, fun _ _ => True⟩ (notes id)

/-- What a row and the calls that succeeded say together. -/
structure Accounted (j : Job) (notes : List Note) : Prop where
  once : notes.count .started ≤ 1
  past : j.state = .queued ∨ j.state = .claimed → .started ∉ notes
  uncancelled : j.state = .completed → j.cancellationAt = none
  attempts : j.fencingToken = j.attemptCount
  increasing : (claims notes).Pairwise (·.2 > ·.2)
  counted : j.chunkCount = (chunks notes).length
  bytes : j.audioBytes = (chunks notes).foldr (·.2.2 + ·) 0
  latest : ∀ chunk ∈ chunks notes, (claims notes).head? = some (chunk.1, chunk.2.1)

/-- The invariant: a holder made the latest claim, and there are no chunks before the start. -/
structure Booked (j : Job) (notes : List Note) : Prop extends Accounted j notes where
  below : ∀ claim ∈ claims notes, claim.2 ≤ j.fencingToken
  holder : ∀ owner ∈ j.leaseOwner, (claims notes).head? = some (owner, j.fencingToken)
  silent : j.state = .queued ∨ j.state = .claimed → chunks notes = []

section Steps

variable {id : UUID} {jobs : Table Job.id} {j j' : Job} {history : List Note} {now : Int} {op : Op}

/-- Statements that count nothing do not take a job back that was started. -/
theorem Booked.moved (booked : Booked j history)
    (counters : (j'.attemptCount, j'.fencingToken, j'.chunkCount, j'.audioBytes) =
      (j.attemptCount, j.fencingToken, j.chunkCount, j.audioBytes)) (owner : j'.leaseOwner = none)
    (forward : j'.state = .queued ∨ j'.state = .claimed → j.state = .claimed)
    (uncancelled : j'.state = .completed → j'.cancellationAt = none) : Booked j' history := by
  obtain ⟨⟨once, past, -, attempts, increasing, counted, bytes, latest⟩, below, holder, silent⟩ :=
    booked
  simp only [Prod.mk.injEq] at counters
  obtain ⟨attempt, token, count, size⟩ := counters
  rw [← token] at attempts below holder
  rw [← attempt] at attempts
  rw [← count] at counted
  rw [← size] at bytes
  refine ⟨⟨once, fun back => past (.inr (forward back)), uncancelled, attempts, increasing, counted,
    bytes, latest⟩, below, by simp [owner], fun back => silent (.inr (forward back))⟩

theorem Booked.update (booked : Booked j history) (done : j.update now op = some j') :
    Booked j' (op.notes j ++ history) := by
  obtain ⟨⟨_, past, _, _, _, _, _, _⟩, _, holder, silent⟩ := id booked
  cases op <;> simp only [Job.update, Job.holds, Bool.decide_and, Bool.and_eq_true,
    decide_eq_true_eq] at done
  case submit => cases done
  case claim =>
    split at done
    next found =>
      cases done
      have quiet := silent (.inl found.2.1)
      have fresh := past (.inl found.2.1)
      refine ⟨⟨?_, ?_, ?_, ?_, ?_, ?_, ?_, ?_⟩, ?_, ?_, ?_⟩ <;>
        simp [Op.notes, claims, chunks, *] <;> grind
    · cases done
  case markProviderStarted =>
    split at done
    next found =>
      cases done
      have quiet := silent (.inr found.1)
      have fresh := List.count_eq_zero.mpr (past (.inr found.1))
      refine ⟨⟨?_, ?_, ?_, ?_, ?_, ?_, ?_, ?_⟩, ?_, ?_, ?_⟩ <;> simp [Op.notes, claims, chunks, *]
      grind
    · cases done
  case recordChunk lease _ =>
    split at done
    next found =>
      cases done
      -- The caller holds the lease, so the newest claim is its own, as for the chunks before.
      have caller := holder lease.workerId found.2.1.2.1
      refine ⟨⟨?_, ?_, ?_, ?_, ?_, ?_, ?_, ?_⟩, ?_, ?_, ?_⟩ <;>
        simp [Op.notes, claims, chunks, *] <;> grind
    · cases done
  case recoverExpired =>
    split at done
    next found =>
      cases done
      exact booked.moved rfl rfl (fun _ => found.1) (by simp [Job.released])
    · split at done
      · cases done
        exact booked.moved rfl rfl (by simp [Job.released]) (by simp [Job.released])
      · cases done
  all_goals
    split at done
    next found =>
      cases done
      refine booked.moved rfl rfl (by simp [Job.released]) ?_
      simp_all [Job.released]
    · cases done

theorem find?_step (found : jobs.find? id = some j) :
    (step jobs now op).find? id = some ((j.update now op).getD j) := by
  cases op
  case submit =>
    simp only [step, Job.update, Option.getD_none]
    split
    · exact found
    · unfold insertOrIgnore
      cases inserted : jobs.insert? _ with
      | none => exact found
      | some jobs' =>
        have fresh := insert?_fresh inserted
        grind [find?_insert? inserted id]
  all_goals simp [step, found]

theorem find?_step_new (absent : jobs.find? id = none)
    (found : (step jobs now op).find? id = some j) : ∃ key, j = { id, key } := by
  cases op
  case submit new key =>
    simp only [step] at found
    split at found
    · simp [absent] at found
    · unfold insertOrIgnore at found
      cases inserted : jobs.insert? { id := new, key } with
      | none => simp [inserted, absent] at found
      | some jobs' =>
        rw [inserted, Option.getD_some, find?_insert? inserted] at found
        grind
  all_goals simp [step, absent] at found

end Steps

/-- Of a job that is not there nothing was noted. -/
def Invariant (id : UUID) (s : Table Job.id × List Note) : Prop :=
  match s.1.find? id with
  | some j => Booked j s.2
  | none => s.2 = []

theorem stable (id : UUID) : (system id).Stable (Invariant id) := by
  intro ⟨jobs, history⟩ ⟨now, op⟩ _ inv
  simp only [Invariant, system, System.recording, notes] at inv ⊢
  cases found : jobs.find? id with
  | none =>
    simp only [found] at inv
    split
    next j found' =>
      obtain ⟨key, rfl⟩ := find?_step_new found found'
      constructor <;> simp [inv, claims, chunks]
      constructor <;> simp [claims, chunks]
    · simpa using inv
  | some j =>
    simp only [found] at inv
    rw [find?_step found]
    cases done : j.update now op with
    | none => simpa [done] using inv
    | some j' => simpa [done] using inv.update done

/-- Whatever is called by whomever and whenever, the provider is called at most once for a job, its
row counts what succeeded, and a terminal job does not change. -/
theorem provider_called_once (id : UUID) (es : List (Int × Op)) :
    (system id).Always (fun s => ∀ j ∈ s.1.find? id, Accounted j s.2) (empty _, []) es ∧
      (system id).Along (fun s e => ∀ j ∈ s.1.find? id, j.state.terminal →
        ((system id).step s e).1.find? id = some j)
        (empty _, []) es := by
  have run : (system id).Run (empty _, []) es := System.along_of_forall (fun _ _ => trivial) _ es
  have start : Invariant id (empty _, []) := rfl
  refine ⟨(stable id).always (fun s inv j found => ?_) start run,
    System.along_of_forall (fun s e j found terminal => ?_) _ es⟩
  · rw [Option.mem_def] at found
    rw [Invariant, found] at inv
    exact inv.toAccounted
  · exact (find?_step found).trans (by rw [j.update_terminal terminal, Option.getD_none])

end CodestraMiddleware.Tts
