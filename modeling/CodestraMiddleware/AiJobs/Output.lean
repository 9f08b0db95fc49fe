import CodestraMiddleware.AiJobs.Fencing
import Mathlib.Algebra.GroupWithZero.Nat

/-!
# Whose output a finished job stores

Chunks are unique in `(job_id, sequence)` and inserted with `ON CONFLICT DO NOTHING`; nothing
removes them when an attempt ends.
-/
namespace CodestraMiddleware.AiJobs

open Relational Transition List Database JobRecord JobState GenerationJob Table
open Option (map_eq_some_iff or_none)

/-! ## Finished attempts -/

def JobAttempt.Succeeded (a : JobAttempt) : Prop :=
  a.state = .completed ∨ a.state = .approvalRequired

/-- No statement leads from these states back to a claim. -/
def JobState.Settled (state : JobState) : Prop :=
  state ≠ .queued ∧ state ≠ .retryWait ∧ state ≠ .leased ∧ state ≠ .deadLetter

/-- A successful attempt is the last one of its job. -/
structure JobRecord.Ended (r : JobRecord) : Prop where
  flagged : r.state = .cancelRequested → r.cancelRequestedAt.isSome
  last : ∀ a ∈ r.attempts.rows, a.Succeeded → a.fencingToken = r.fencingToken ∧ r.state.Settled
  current : r.leaseOwner.isSome → ∃ a ∈ r.attempts.rows, a.fencingToken = r.fencingToken
  finished : r.state = .completed ∨ r.state = .approvalRequired →
    ∃ a ∈ r.attempts.rows, a.fencingToken = r.fencingToken ∧ a.Succeeded

theorem mem_closeAttempts {state : JobState} {attempts : Table JobAttempt.attemptNumber} :
    a' ∈ (closeAttempts now state errorCode p attempts).rows ↔
    ∃ a ∈ attempts.rows, (p a = true ∧ a' = { a with
        state := state, safeErrorCode := errorCode a, finishedAt := some now }) ∨
        (p a = false ∧ a' = a) := by
  simp only [closeAttempts, rows_update, mem_map]
  constructor
  · rintro ⟨a, member, rfl⟩
    refine ⟨a, member, ?_⟩
    cases p a <;> simp
  · rintro ⟨a, member, ⟨matched, rfl⟩ | ⟨skipped, rfl⟩⟩
    · exact ⟨a, member, by simp [matched]⟩
    · exact ⟨a', member, by simp [skipped]⟩

section Ended

variable {cfg : Config} {now : Int} {op : Op} {reply : Reply} {r r' : JobRecord}

theorem JobRecord.Ended.keep (ended : r.Ended) (attempts : r'.attempts = r.attempts)
    (token : r'.fencingToken = r.fencingToken)
    (owner : r'.leaseOwner = r.leaseOwner ∨ r'.leaseOwner = none)
    (flagged : r'.state = .cancelRequested → r'.cancelRequestedAt.isSome)
    (settled : r.state.Settled → r'.state.Settled)
    (finished : r'.state = .completed ∨ r'.state = .approvalRequired →
      r.state = .completed ∨ r.state = .approvalRequired) : r'.Ended := by
  refine ⟨flagged, ?_, ?_, ?_⟩
  · intro a member success
    rw [attempts] at member
    obtain ⟨same, before⟩ := ended.last a member success
    exact ⟨same.trans token.symm, settled before⟩
  · intro leased
    rw [attempts, token]
    rcases owner with same | none_left
    · exact ended.current (same ▸ leased)
    · simp [none_left] at leased
  · intro done
    rw [attempts, token]
    exact ended.finished (finished done)

theorem JobRecord.Ended.settle (ended : r.Ended) (report : FinishReport) {state : JobState}
    (leased : r.leaseOwner.isSome) (unleased : state.WithoutLease) :
    (r.settle now r.fencingToken report state).Ended := by
  refine ⟨fun asked => absurd asked unleased.2.1, ?_, by rintro ⟨⟩, ?_⟩
  · intro a' member success
    -- A row closed here has the current token; an older success would have settled the job before.
    obtain ⟨a, old, ⟨matched, rfl⟩ | ⟨skipped, rfl⟩⟩ := mem_closeAttempts.mp member
    · refine ⟨of_decide_eq_true matched, ?_⟩
      rcases success with state | state <;> simp_all [JobRecord.settle, Settled]
    · exact absurd (ended.last a' old success).1 (of_decide_eq_false skipped)
  · intro done
    obtain ⟨a, member, token⟩ := ended.current leased
    exact ⟨_, mem_closeAttempts.mpr ⟨a, member, .inl ⟨decide_eq_true token, rfl⟩⟩, token, done⟩

theorem JobRecord.Ended.cancelLease (ended : r.Ended) (p : JobAttempt → Bool) :
    (r.cancelLease now p).Ended := by
  refine ⟨by rintro ⟨⟩, ?_, by rintro ⟨⟩, by rintro (state | state) <;> cases state⟩
  intro a' member success
  obtain ⟨a, old, ⟨_, rfl⟩ | ⟨_, rfl⟩⟩ := mem_closeAttempts.mp member
  · rcases success with state | state <;> cases state
  · exact ⟨(ended.last a' old success).1, by simp [JobRecord.cancelLease, Settled]⟩

theorem JobStep.settled (moved : JobStep cfg now op reply r r')
    (flagged : r.state = .cancelRequested → r.cancelRequestedAt.isSome)
    (settled : r.state.Settled) : r'.state.Settled := by
  cases moved with
  | claim ready =>
    rcases ready.1 with state | state <;> simp [Settled, state] at settled
  | finish _ lease | complete _ lease =>
    -- Only a cancellation is left to be reported.
    rcases lease.busy with state | state
    · simp [Settled, state] at settled
    · simp [settle, finishState, flagged state, Settled]
  | workerCancel | recoverCancelled => simp [cancelLease, Settled]
  | consoleCancel =>
    simp only [consoleCancelled]
    split
    · simp [Settled]
    · exact settled
  | orchestrationCancel =>
    simp only [orchestrationCancelled]
    split <;> simp [Settled]
  | @decide _ _ _ approved => cases approved <;> simp [decidedJobState, Settled]
  | retry _ _ dead => simp [Settled, dead] at settled
  | recoverRetried lapsed | recoverDead lapsed => simp [Settled, lapsed.1] at settled
  | expire passed => simp [JobRecord.expire, passed, Settled]
  | _ => exact settled

theorem JobStep.ended (moved : JobStep cfg now op reply r r') (ended : r.Ended) : r'.Ended := by
  have settled := moved.settled ended.flagged
  cases moved with
  | idle => exact ended
  | claim ready taken =>
    obtain ⟨attempts, inserted, rfl⟩ := map_eq_some_iff.mp taken
    refine ⟨by rintro ⟨⟩, ?_, ?_, by rintro (state | state) <;> cases state⟩
    · intro a member success
      -- A successful attempt would have settled the job.
      rcases (mem_insert? inserted).mp member with old | rfl
      · have before := (ended.last a old success).2
        rcases ready.1 with state | state <;> simp [Settled, state] at before
      · rcases success with state | state <;> cases state
    · intro _
      exact ⟨_, (mem_insert? inserted).mpr (.inr rfl), rfl⟩
  | finish _ lease =>
    rw [← lease.2.2.1]
    exact ended.settle _ (by simp [lease.2.1]) (finishState_withoutLease _ (.inl rfl))
  | complete _ lease prepared =>
    obtain ⟨job, attempts, -, -, asked⟩ := prepared.spec
    have token : _ = r.fencingToken := congrArg (·.fencingToken) job
    have owner : _ = r.leaseOwner := congrArg (·.leaseOwner) job
    rw [← lease.2.2.1, ← token]
    refine Ended.settle ?_ _ (by rw [owner, lease.2.1]; rfl)
      (finishState_withoutLease _ (asked.imp And.left And.left))
    have same : _ = r.state := congrArg (·.state) job
    refine ended.keep attempts token (.inl owner) ?_ (by rw [same]; exact id)
      (by rw [same]; exact id)
    rw [same, show _ = r.cancelRequestedAt from congrArg (·.cancelRequestedAt) job]
    exact ended.flagged
  | workerCancel | recoverCancelled => exact ended.cancelLease _
  | consoleCancel =>
    refine ended.keep rfl rfl (.inl rfl) (fun _ => rfl) settled ?_
    intro done
    simp only [consoleCancelled] at done
    split at done
    · simp at done
    · exact done
  | orchestrationCancel =>
    refine ended.keep rfl rfl (.inl rfl) (fun _ => rfl) settled ?_
    intro done
    simp only [orchestrationCancelled] at done
    split at done <;> simp at done
  | @decide _ _ _ approved =>
    refine ended.keep rfl rfl (.inl rfl) ?_ settled ?_ <;> cases approved <;> simp [decidedJobState]
  | retry =>
    exact ended.keep rfl rfl (.inl rfl) (by rintro ⟨⟩) settled (by simp [retried])
  | recoverRetried | recoverDead =>
    exact ended.keep rfl rfl (.inr rfl) (by rintro ⟨⟩) settled (by simp [requeued, leaseExpired])
  | expire passed =>
    simp only [JobRecord.expire, if_pos passed] at settled ⊢
    exact ended.keep rfl rfl (.inr rfl) (by rintro ⟨⟩) settled (by simp)
  | _ =>
    exact ended.keep rfl rfl (.inl rfl) ended.flagged settled id

theorem Fresh.ended (fresh : Fresh now r) : r.Ended := by
  obtain ⟨_, _, -, -, rfl⟩ := fresh
  refine ⟨by rintro ⟨⟩, ?_, by rintro ⟨⟩, by rintro (state | state) <;> cases state⟩
  intro a member
  cases member

end Ended

theorem stable_ended (cfg : Config) (admits : Op → Prop) :
    (system cfg admits).Stable (State.Each fun _ => Ended) :=
  stable_each (fun _ ended => ended) Fresh.ended fun _ moved => moved.ended

/-! ## Submissions in the history of calls -/

section

variable (id : UUID) (token sequence : Nat)

/-- The content of an accepted `append_chunk` for this job, token and sequence number. -/
def Entry.submits (e : Entry) : Option String :=
  match e.op, e.outcome with
  | .appendChunk call n content _, .ok _ =>
    if call.jobId = id ∧ call.fencingToken = token ∧ n = sequence then some content else none
  | _, _ => none

/-- What the attempt with this token first submitted under the sequence number. -/
def firstSubmission (history : List Entry) : Option String :=
  history.reverse.findSome? (Entry.submits id token sequence)

theorem firstSubmission_cons (e : Entry) (history : List Entry) :
    firstSubmission id token sequence (e :: history) =
      (firstSubmission id token sequence history).or (e.submits id token sequence) := by
  simp only [firstSubmission, reverse_cons, findSome?_append, findSome?_cons, findSome?_nil]
  cases e.submits id token sequence <;> rfl

end

/-- The job's chunks are what its current attempt submitted, and later tokens submitted nothing. -/
structure OutputRecorded (history : List Entry) (r : JobRecord) : Prop where
  owned : ∀ c ∈ r.chunks.rows, c.fencingToken = r.fencingToken
  contents : ∀ n, (r.chunks.find? n).map JobChunk.content = firstSubmission r.id
    r.fencingToken n history
  later : ∀ t n, r.fencingToken < t → firstSubmission r.id t n history = none

def State.OutputRecorded (s : State) : Prop :=
  (∀ id r, s.db.job? id = some r → AiJobs.OutputRecorded s.history r) ∧
    ∀ id, s.db.job? id = none → ∀ t n, firstSubmission id t n s.history = none

variable {content : String}

section History

variable {cfg : Config} {now : Int} {op : Op} {reply : Reply} {db db' : Database}

theorem appendChunk_ok {sequence : Nat}
    (ok : appendChunk now call sequence content limit db = .ok (db', reply)) :
    ∃ r, db.job? call.jobId = some r ∧ r.HoldsLease now call false ∧
      ((∃ c, r.chunks.find? sequence = some c ∧ db' = db ∧ reply = .chunk false) ∨
        ∃ chunks, r.chunks.insert? ⟨sequence, call.fencingToken, content⟩ = some chunks ∧
        db' = db.put { r with
            chunks := chunks, outputBytes := r.outputBytes + content.utf8ByteSize } ∧
          reply = .chunk true) := by
  unfold appendChunk at ok
  split at ok
  · cases ok
  next r held =>
    obtain ⟨found, lease⟩ := assertLease_ok.mp held
    refine ⟨r, found, lease, ?_⟩
    dsimp only at ok
    split at ok
    · cases ok
    split at ok
    next refused =>
      cases ok
      exact .inl ⟨_, Option.some_get ((insert?_eq_none_iff _ _).mp refused) |>.symm, rfl, rfl⟩
    next chunks inserted =>
      cases ok
      exact .inr ⟨chunks, inserted, rfl, rfl⟩

theorem JobStep.chunks_kept (moved : JobStep cfg now op reply r r') :
    (r'.chunks = r.chunks ∧ r'.fencingToken = r.fencingToken) ∨
    (∃ c, op = .claim c ∧ reply = .claimed r'.toGenerationJob ∧ r'.chunks = r.chunks ∧
      r'.fencingToken = r.fencingToken + 1) ∨
    (∃ call n content limit, op = .appendChunk call n content limit ∧ call.jobId = r.id ∧
      reply = .chunk true) := by
  cases moved with
  | claim _ taken =>
    obtain ⟨_, -, rfl⟩ := map_eq_some_iff.mp taken
    exact .inr (.inl ⟨_, rfl, rfl, rfl, rfl⟩)
  | appendChunk target => exact .inr (.inr ⟨_, _, _, _, rfl, target.symm, rfl⟩)
  | complete _ _ prepared =>
    obtain ⟨job, -, chunks, -, -⟩ := prepared.spec
    exact .inl ⟨chunks, congrArg (·.fencingToken) job⟩
  | expire passed => exact .inl (by simp [JobRecord.expire, passed])
  | _ => exact .inl ⟨rfl, rfl⟩

theorem submits_some {s : State} {e : Event} {id : UUID}
    (submitted : (e.entry cfg s.db).submits id token n = some content) :
    ∃ call limit db' reply, e.op = .appendChunk call n content limit ∧ call.jobId = id ∧
      call.fencingToken = token ∧ exec cfg e.now e.op s.db = .ok (db', reply) := by
  unfold Entry.submits at submitted
  split at submitted
  next call m text limit result op outcome =>
    split at submitted
    next fits =>
      cases submitted
      obtain ⟨job, same, rfl⟩ := fits
      obtain ⟨db', reply⟩ := result
      exact ⟨call, limit, db', reply, op, job, same, outcome⟩
    next => cases submitted
  next => cases submitted

variable {r r' : JobRecord} {history : List Entry} {e : Entry}

section

variable (recorded : OutputRecorded history r)

include recorded

theorem OutputRecorded.of_same (key : r'.id = r.id)
    (chunks : r'.chunks = r.chunks) (token : r'.fencingToken = r.fencingToken) :
    OutputRecorded history r' := by
  obtain ⟨owned, contents, later⟩ := recorded
  constructor
  · rw [chunks, token]
    exact owned
  · rw [chunks, token, key]
    exact contents
  · rw [token, key]
    exact later

theorem OutputRecorded.silent (silent : ∀ t n, e.submits r.id t n = none) :
    OutputRecorded (e :: history) r := by
  refine ⟨recorded.owned, ?_, ?_⟩
  · intro n
    rw [firstSubmission_cons, silent, or_none]
    exact recorded.contents n
  · intro t n later
    rw [firstSubmission_cons, silent, or_none]
    exact recorded.later t n later

theorem OutputRecorded.claimed (key : r'.id = r.id) (empty : r.chunks.rows = [])
    (chunks : r'.chunks = r.chunks)
    (token : r'.fencingToken = r.fencingToken + 1) : OutputRecorded history r' := by
  constructor
  · rw [chunks, empty]
    rintro chunk ⟨⟩
  · intro n
    rw [chunks, key, recorded.later _ n (by omega)]
    simp [Table.find?, empty]
  · intro t n later
    rw [key]
    exact recorded.later t n (by omega)

theorem OutputRecorded.appended {sequence : Nat}
    (submits : ∀ t n, e.submits r.id t n = if r.fencingToken = t ∧
      sequence = n then some content else none)
    (stored : r' = r ∧ (r.chunks.find? sequence).isSome ∨
      ∃ chunks bytes, r.chunks.insert? ⟨sequence, r.fencingToken, content⟩ = some chunks ∧
        r' = { r with chunks := chunks, outputBytes := bytes }) :
        OutputRecorded (e :: history) r' := by
  have later : ∀ t n, r.fencingToken < t → firstSubmission r.id t n (e :: history) = none := by
    intro t n after
    rw [firstSubmission_cons, submits, if_neg (by omega), or_none]
    exact recorded.later t n after
  have contents : ∀ n, firstSubmission r.id r.fencingToken n (e :: history) =
      ((r.chunks.find? n).map JobChunk.content).or
      (if sequence = n then some content else none) := by
    intro n
    simp [firstSubmission_cons, submits, recorded.contents]
  rcases stored with ⟨rfl, taken⟩ | ⟨_, _, inserted, rfl⟩
  -- The number was taken: the first submission under it stays the first.
  · refine ⟨recorded.owned, fun n => ?_, later⟩
    rw [contents]
    split
    next same =>
      obtain ⟨c, found⟩ := Option.isSome_iff_exists.mp taken
      simp [← same, found]
    next => rw [or_none]
  · refine ⟨?_, fun n => ?_, later⟩
    · intro c member
      rcases (mem_insert? inserted).mp member with old | rfl
      · exact recorded.owned c old
      · rfl
    · change _ = firstSubmission r.id r.fencingToken n (e :: history)
      rw [find?_insert? inserted, contents]
      split
      -- Nothing was stored under the number, hence nothing submitted before.
      next same => simp [← same, insert?_fresh inserted]
      next => rw [or_none]

end

end History

section Runs

variable {cfg : Config} {s : State} {e : Event} {id : UUID} {r r' : JobRecord}

/-- The call does not hand out a job that has chunks stored. -/
def ClaimsUntouched (cfg : Config) (s : State) (e : Event) : Prop :=
  ∀ c db' job r, e.op = .claim c → exec cfg e.now e.op s.db = .ok (db', .claimed job) →
    s.db.job? job.id = some r → r.chunks.rows = []

theorem step_submitted (found : s.db.job? id = some r)
    (found' : (step cfg s e).db.job? id = some r')
    (recorded : OutputRecorded s.history r)
    (submitted : (e.entry cfg s.db).submits id token n = some content) : OutputRecorded
    (step cfg s e).history r' := by
  obtain ⟨call, _, db', _, op, rfl, rfl, ok⟩ := submits_some submitted
  rw [step_db_ok ok] at found'
  rw [op] at ok
  obtain ⟨r₀, found₀, lease, stored⟩ := appendChunk_ok ok
  cases found₀.symm.trans found
  have key := job?_id found
  have token : r.fencingToken = call.fencingToken := lease.2.2.1
  have submits : ∀ t m, (e.entry cfg s.db).submits r.id t m = if r.fencingToken = t ∧
      n = m then some content else none := by
    intro t m
    simp [Entry.submits, Event.entry, op, ok, key, token]
  apply recorded.appended submits
  rcases stored with ⟨c, taken, rfl, -⟩ | ⟨chunks, inserted, rfl, -⟩
  · cases found.symm.trans found'
    exact .inl ⟨rfl, by simp [taken]⟩
  · refine .inr ⟨chunks, r.outputBytes + content.utf8ByteSize, token ▸ inserted, ?_⟩
    rw [← key] at found found'
    exact Option.some.inj (found'.symm.trans (job?_put_self found))

theorem step_outputRecorded (recorded : s.OutputRecorded) (untouched : ClaimsUntouched cfg s e) :
    (step cfg s e).OutputRecorded := by
  -- A submission is accepted only for a job in the table.
  have silent : ∀ id, s.db.job? id = none → ∀ t n, (e.entry cfg s.db).submits id t n = none := by
    intro id absent t n
    cases submitted : (e.entry cfg s.db).submits id t n with
    | none => rfl
    | some content =>
      obtain ⟨call, limit, db', reply, op, rfl, -, ok⟩ := submits_some submitted
      rw [op] at ok
      obtain ⟨r, found, -⟩ := appendChunk_ok ok
      simp [absent] at found
  refine ⟨?_, ?_⟩
  · intro id r' found'
    rcases step_origin found' with ⟨r, reply, found, moved, reported⟩ | ⟨absent, fresh⟩
    · have old := recorded.1 id r found
      have key := job?_id found
      have key' := job?_id found'
      -- Either the call is an accepted submission for this job, or it says nothing about it.
      by_cases submitted : ∃ t n content, (e.entry cfg s.db).submits id t n = some content
      · obtain ⟨t, n, content, submitted⟩ := submitted
        exact step_submitted found found' old submitted
      have quiet : ∀ t n, (e.entry cfg s.db).submits r.id t n = none := by
        intro t n
        rw [key]
        exact Option.eq_none_iff_forall_not_mem.mpr fun content h => submitted ⟨t, n, content, h⟩
      have extended := old.silent quiet
      rcases reported with rfl | ⟨db', ok⟩
      · exact extended
      rcases moved.chunks_kept with ⟨chunks, token⟩ | ⟨c, op, rfl, chunks, token⟩ | appended
      · exact extended.of_same (key'.trans key.symm) chunks token
      -- The one place where the condition on claims is used.
      · have empty := untouched c db' _ r op ok (key' ▸ found)
        exact extended.claimed (key'.trans key.symm) empty chunks token
      · obtain ⟨call, n, _, _, op, target, -⟩ := appended
        have heard := quiet call.fencingToken n
        simp [Entry.submits, Event.entry, op, op ▸ ok, target] at heard
    · have key := job?_id found'
      obtain ⟨_, _, -, -, rfl⟩ := fresh
      have nothing : ∀ t n, firstSubmission id t n (step cfg s e).history = none := by
        intro t n
        rw [step_history, firstSubmission_cons, recorded.2 id absent, silent id absent]
        rfl
      rw [← key] at nothing
      exact ⟨by rintro chunk ⟨⟩, fun n => (nothing 0 n).symm, fun t n _ => nothing t n⟩
  · intro id absent' t n
    have absent : s.db.job? id = none := by
      cases found : s.db.job? id with
      | none => rfl
      | some r =>
        obtain ⟨_, r', found', -⟩ := step_job cfg e found
        simp [absent'] at found'
    rw [step_history, firstSubmission_cons, recorded.2 id absent, silent id absent]
    rfl

end Runs

/-- Every successful attempt of the job wrote all its stored chunks: they carry its token, and under
every sequence number stands what that attempt first submitted. A job that reads as finished has
such an attempt. -/
structure OutputOfOneAttempt (history : List Entry) (r : JobRecord) : Prop where
  finished : r.state = .completed ∨ r.state = .approvalRequired →
    ∃ a ∈ r.attempts.rows, a.fencingToken = r.fencingToken ∧ a.Succeeded
  owned : ∀ a ∈ r.attempts.rows, a.Succeeded → ∀ c ∈ r.chunks.rows, c.fencingToken = a.fencingToken
  contents : ∀ a ∈ r.attempts.rows, a.Succeeded →
    ∀ n, (r.chunks.find? n).map JobChunk.content = firstSubmission r.id a.fencingToken n history

/-- No job shows the output of two attempts. -/
def State.OutputOwned (s : State) : Prop :=
  ∀ id r, s.db.job? id = some r → OutputOfOneAttempt s.history r

theorem outputOwned_of_recorded {s : State} (ended : s.Each fun _ => Ended)
    (recorded : s.OutputRecorded) : s.OutputOwned := by
  intro id r found
  have job := ended id r found
  have output := recorded.1 id r found
  refine ⟨job.finished, ?_, ?_⟩
  · intro a member success c stored
    rw [(job.last a member success).1]
    exact output.owned c stored
  · intro a member success n
    rw [(job.last a member success).1]
    exact output.contents n

/-- The stored output of every finished job is that of the attempt that finished it, in every run
in which no claim hands out a job that already has chunks. -/
theorem output_of_one_attempt (cfg : Config) (start : Int) (es : List Event)
    (run : (fullSystem cfg).Run (.initial start) es)
    (untouched : (fullSystem cfg).Along (ClaimsUntouched cfg) (.initial start) es) :
    (fullSystem cfg).Always State.OutputOwned (.initial start) es := by
  refine System.always_of_along (I := fun s => (s.Each fun _ => Ended) ∧ s.OutputRecorded) ?_
    (fun s invariant => outputOwned_of_recorded invariant.1 invariant.2) ⟨each_initial _ start, ?_⟩
    run untouched
  · rintro s e admitted meets ⟨ended, recorded⟩
    exact ⟨stable_ended cfg _ s e admitted ended, step_outputRecorded recorded meets⟩
  · constructor
    · intro id r found
      cases found
    · intro id _ t n
      rfl

/-! The condition cannot be weakened for any single claim: whoever is handed a job with chunks can
finish it at once, and the output is mixed. -/

section Sharp

variable {cfg : Config} {now : Int} {op : Op} {reply : Reply} {r r' : JobRecord}

end Sharp

namespace Sample

def appendAt (now : Int) (worker : String) (token sequence : Nat) (content : String) : Event :=
  ⟨now, .appendChunk ⟨1, worker, token, ⟨none, none⟩⟩ sequence content 100⟩

end Sample

open Sample

def chunkOutlivesAttempt : List Event :=
  [submitAt 0 false 1, claimAt 1 "a", appendAt 2 "a" 1 0 "A",
    ⟨70000000, .recoverExpired ⟨none, none⟩⟩, claimAt 70000001 "b",
    appendAt 70000002 "b" 2 0 "B", completeAt 70000003 "b" 2]

theorem output_mixes_attempts : (fullSystem config).Run (.initial 0) chunkOutlivesAttempt ∧
    read (fullSystem config) (fun r => (r.state, r.fencingToken, r.chunks.rows))
      chunkOutlivesAttempt = some (.completed, 2, [⟨0, 1, "A"⟩]) ∧
    ¬ (fullSystem config).Always State.OutputOwned (.initial 0) chunkOutlivesAttempt := by
  have stored : read (fullSystem config) (fun r => (r.state, r.fencingToken, r.chunks.rows))
      chunkOutlivesAttempt = some (.completed, 2, [⟨0, 1, "A"⟩]) := by decide +kernel
  refine ⟨run_iff.mpr ⟨by decide, fun _ _ => trivial⟩, stored, ?_⟩
  intro always
  obtain ⟨r, found, row⟩ := map_eq_some_iff.mp stored
  simp only [Prod.mk.injEq] at row
  obtain ⟨state, token, chunks⟩ := row
  have output := always.last 1 r found
  obtain ⟨a, member, current, success⟩ := output.finished (.inl state)
  have same := output.owned a member success ⟨0, 1, "A"⟩ (by simp [chunks])
  rw [current, token] at same
  cases same

theorem claimsUntouched_of_other (other : e.op.claim? = none) : ClaimsUntouched cfg s e := by
  intro c db' job r op
  rw [op] at other
  cases other

theorem claimsUntouched_of_empty
    (empty : (s.db.jobs.rows.all fun r => r.chunks.rows.isEmpty) = true) :
    ClaimsUntouched cfg s e := by
  intro c db' job r _ _ found
  have row := all_eq_true.mp empty r (s.db.jobs.find?_mem found)
  exact isEmpty_iff.mp row

/-- A first attempt that reports a failure before it stores anything, and a second one that
completes. -/
theorem output_of_one_attempt_retried : (fullSystem config).Always State.OutputOwned (.initial 0)
      [submitAt 0 false 1, claimAt 1 "a",
        ⟨2, .finish ⟨1, "a", 1, ⟨none, none⟩⟩ ⟨true, some "timeout", true, "correlation"⟩⟩,
        claimAt 70000001 "b", appendAt 70000002 "b" 2 0 "B", completeAt 70000003 "b" 2] := by
  apply output_of_one_attempt config 0 _ (run_iff.mpr ⟨by decide, fun _ _ => trivial⟩)
  refine ⟨claimsUntouched_of_other rfl, claimsUntouched_of_empty ?_, claimsUntouched_of_other rfl,
    claimsUntouched_of_empty ?_,
    claimsUntouched_of_other rfl, claimsUntouched_of_other rfl, trivial⟩
  · decide +kernel
  · decide +kernel

/-! ## The size of the output -/

/-- Every `append_chunk` gets the configured `ai_job_max_output_bytes`. -/
def Op.LimitsOutput (limit : Nat) : Op → Prop
  | .appendChunk _ _ _ maxOutputBytes => maxOutputBytes = limit
  | _ => True

/-- The bytes counted are those of the chunks, within the limit. -/
structure JobRecord.Accounted (limit : Nat) (r : JobRecord) : Prop where
  counted : r.outputBytes = (r.chunks.rows.map (·.content.utf8ByteSize)).sum
  bounded : r.outputBytes ≤ limit

section Accounted

variable {cfg : Config} {now : Int} {op : Op} {reply : Reply} {r r' : JobRecord} {limit : Nat}

theorem JobRecord.Accounted.keep (accounted : r.Accounted limit) (chunks : r'.chunks = r.chunks)
    (bytes : r'.outputBytes = r.outputBytes) : r'.Accounted limit := by
  constructor
  · rw [bytes, chunks]
    exact accounted.counted
  · exact bytes ▸ accounted.bounded

theorem JobStep.accounted (limited : op.LimitsOutput limit) (moved : JobStep cfg now op reply r r')
    (accounted : r.Accounted limit) : r'.Accounted limit := by
  cases moved with
  | appendChunk _ _ fits inserted =>
    refine ⟨?_, limited ▸ fits⟩
    simp only [rows_insert? inserted, map_append, sum_append, ← accounted.counted]
    rfl
  | claim _ taken =>
    obtain ⟨_, -, rfl⟩ := map_eq_some_iff.mp taken
    exact accounted.keep rfl rfl
  | complete _ _ prepared =>
    obtain ⟨job, -, chunks, -⟩ := prepared.spec
    exact accounted.keep chunks (congrArg (·.outputBytes) job)
  | expire passed =>
    exact accounted.keep (by simp [JobRecord.expire, passed]) (by simp [JobRecord.expire, passed])
  | _ => exact accounted.keep rfl rfl

theorem stable_accounted (cfg : Config) (limit : Nat) :
    (system cfg (Op.LimitsOutput limit)).Stable (State.Each fun _ => Accounted limit) := by
  refine stable_each (fun _ accounted => accounted) ?_ JobStep.accounted
  rintro now r ⟨_, _, -, -, rfl⟩
  exact ⟨rfl, Nat.zero_le limit⟩

theorem appendChunk_taken {sequence : Nat} (found : db.job? call.jobId = some r)
    (taken : (r.chunks.find? sequence).isSome)
    (ok : appendChunk now call sequence content limit db = .ok (db', reply)) : db' = db := by
  obtain ⟨r₀, found₀, -, ⟨-, -, same, -⟩ | ⟨_, inserted, -⟩⟩ := appendChunk_ok ok
  · exact same
  · -- The table takes no second chunk under the number.
    cases found.symm.trans found₀
    rw [(insert?_eq_none_iff ..).mpr taken] at inserted
    cases inserted

end Accounted

/-- Whatever the jobs do, each one's `output_bytes` is the size of its chunks and within the limit;
an `append_chunk` that raises or finds its number taken changes no row. -/
theorem output_accounted (cfg : Config) (limit : Nat) (start : Int) (es : List Event)
    (run : (system cfg (Op.LimitsOutput limit)).Run (.initial start) es) :
    (system cfg (Op.LimitsOutput limit)).Always (State.Each fun _ => Accounted limit)
    (.initial start) es ∧
    ∀ (s : State) (now : Int) (call : LeaseCall) (sequence : Nat) (content : String),
      (∃ fault, appendChunk now call sequence content limit s.db = .error fault) ∨
        (∃ r, s.db.job? call.jobId = some r ∧ (r.chunks.find? sequence).isSome) →
      (step cfg s ⟨now, .appendChunk call sequence content limit⟩).db = s.db := by
  refine ⟨(stable_accounted cfg limit).always (fun _ each => each) (each_initial _ start) run, ?_⟩
  intro s now call sequence content stays
  cases outcome : appendChunk now call sequence content limit s.db with
  | error fault => exact step_db_error outcome
  | ok result =>
    obtain ⟨db', _⟩ := result
    rcases stays with ⟨_, raised⟩ | ⟨r, found, taken⟩
    · cases outcome.symm.trans raised
    · rw [appendChunk_taken found taken outcome] at outcome
      exact step_db_ok outcome

theorem output_accounted_retried : (system config (Op.LimitsOutput 100)).Always
    (State.Each fun _ => Accounted 100) (.initial 0) chunkOutlivesAttempt := by
  refine (output_accounted config 100 0 _ (run_iff.mpr ⟨by decide, ?_⟩)).1
  simp [chunkOutlivesAttempt, Op.LimitsOutput, submitAt, claimAt, appendAt, completeAt]

end CodestraMiddleware.AiJobs
