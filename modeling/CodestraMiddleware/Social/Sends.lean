import CodestraMiddleware.Social.System

/-!
# Uncertain sends

Only `fail_job` records what became of a call to the provider. A claim that `recover_stale_jobs`
takes back leaves no such record, whether its worker died before the call, during it or after the
provider had answered.
-/
namespace CodestraMiddleware.Social

open Transition Leases Sample

variable {token : Nat}

section Sends

variable {ω : Type} (rt : Runtime) (settings : Settings) (registry : SocialProviderRegistry ω)
  {ι : Type} [DecidableEq ι]

def Note.publishCall? (jobId : UUID) : Note → Option Nat
  | .called id token (.publish _) => if id = jobId then some token else none
  | _ => none

/-- The fencing tokens under which `publish_post` was invoked for a job, newest first. -/
def publishCalls (log : List Note) (jobId : UUID) : List Nat :=
  log.filterMap (Note.publishCall? jobId)

def publishing? (s : State ι) : Event ι ω → Option SocialPublishJob
  | .worker i .call =>
    match s.workers i with
    | .running job (.ready (.publish _)) => some job
    | _ => none
  | _ => none

variable {s : State ι}

omit [DecidableEq ι] in
theorem publishing?_running (publishes : job ∈ publishing? s e) :
    ∃ i stage, s.workers i = .running job stage := by
  unfold publishing? at publishes
  split at publishes
  next i =>
    split at publishes
    next job' post running =>
      cases publishes
      exact ⟨i, _, running⟩
    next => cases publishes
  next => cases publishes

/-- The claim ended with a `fail_job` that recorded `FAILED_BEFORE_SEND`. -/
def RecordedUnsent (log : List Note) (jobId : UUID) (token : Nat) : Prop :=
  ((ledgerOf log jobId).ending? token).any (·.is fun r => r.certainty = .failedBeforeSend) = true

/-- `publish_post` is only invoked for a job all of whose earlier invocations were recorded as
`FAILED_BEFORE_SEND`. -/
def SendsRecorded (s : State ι) (e : Event ι ω) : Prop :=
  ∀ job ∈ publishing? s e, ∀ token ∈ publishCalls s.log job.id, RecordedUnsent s.log job.id token

/-- No earlier invocation was made under a claim that was taken back, and if one was made under the
newest claim, then the job is not processed any more and its row says `FAILED_BEFORE_SEND`. -/
def SendsAccountedFor (s : State ι) (e : Event ι ω) : Prop :=
  ∀ job ∈ publishing? s e, ∀ token ∈ publishCalls s.log job.id, (ledgerOf s.log job.id).ending?
      token ≠ some .released ∧ ∀ row ∈ s.database.job? job.id, row.fencingToken = token →
        row.state ≠ .processing ∧ row.resultCertainty = .failedBeforeSend

def CallsClaimed (s : State ι) : Prop :=
  ∀ id, ∀ token ∈ publishCalls s.log id, 0 < token ∧ token ≤ (ledgerOf s.log id).token

theorem Reacts.publishCall {id : UUID} (reacts : Reacts settings db w e r)
    (called : token ∈ publishCalls r.note.toList id) :
    ∃ job stage, w = .running job stage ∧ job.id = id ∧ job.fencingToken = token := by
  cases reacts with
  | @calls job call running =>
    refine ⟨job, .ready call, running, ?_⟩
    cases call with
    | publish post => simpa [publishCalls, Note.publishCall?] using called
    | _ => simp [publishCalls, Note.publishCall?] at called
  | rests | proceeds | stops => cases called
  | _ => simp [publishCalls, Note.publishCall?] at called

theorem mem_publishCalls_step {id : UUID}
    (called : token ∈ publishCalls (step rt settings registry s e).log id) :
    token ∈ publishCalls s.log id ∨
      ∃ i job stage, s.workers i = .running job stage ∧ job.id = id ∧ job.fencingToken = token := by
  cases e with
  | request r => exact .inl called
  | recoverStaleJobs now =>
    simp only [step, publishCalls, List.filterMap_append, List.mem_append] at called
    rcases called with recovered | old
    · simp [Note.publishCall?, List.filterMap_map, Function.comp_def] at recovered
    · exact .inl old
  | worker i e =>
    simp only [step, publishCalls, List.filterMap_append, List.mem_append] at called
    rcases called with new | old
    · exact .inr ⟨i, (react_reacts rt settings registry s.database e (s.workers i)).publishCall
        settings new⟩
    · exact .inl old

theorem token_le_step (known : AllKnown s) (e : Event ι ω) (id : UUID) :
    (ledgerOf s.log id).token ≤ (ledgerOf (step rt settings registry s e).log id).token := by
  obtain ⟨a, -, noted⟩ := step_change rt settings registry known e id
  simp only [ledgerOf, noted]
  cases a with
  | none => exact Nat.le_refl _
  | some a => exact Ledger.token_le_act _ a

theorem callsClaimed_stable : (system rt settings registry).Stable fun s : State ι => Books s ∧
    CallsClaimed s := by
  rintro s e admitted ⟨books, claimed⟩
  refine ⟨books_stable rt registry s e admitted books, ?_⟩
  intro id token called
  have grows := token_le_step rt settings registry books.known e id
  rcases mem_publishCalls_step rt settings registry called with old |
    ⟨i, job, stage, running, rfl, rfl⟩
  · obtain ⟨positive, made⟩ := claimed id token old
    exact ⟨positive, made.trans grows⟩
  · obtain ⟨row, known⟩ := books.known i job stage running
    have counted := (books.tally job.id row known.found).token
    exact ⟨known.positive, (known.token.trans (Nat.le_of_eq counted)).trans grows⟩

omit [DecidableEq ι] in
/-- What the row of a job says about its newest claim, and the ledger about the earlier ones. -/
theorem recordedUnsent_iff (books : Books s) {id : UUID} (found : s.database.job? id = some row)
    (made : 0 < token ∧ token ≤ (ledgerOf s.log id).token) :
    RecordedUnsent s.log id token ↔ (ledgerOf s.log id).ending? token ≠ some .released ∧
      (row.fencingToken = token → row.state ≠ .processing ∧
        row.resultCertainty = .failedBeforeSend) := by
  have tally := books.tally id row found
  unfold RecordedUnsent
  rcases (ledgerOf s.log id).ending?_or_held made with ⟨ending, ended⟩ | ⟨held, rfl⟩
  · cases ending with
    | released => simp [ended, Ending.is]
    | reported r =>
      simp only [ended, Option.any_some, Ending.is, Ending.report?_reported,
        decide_eq_true_eq, ne_eq, Option.some.injEq, reduceCtorEq, not_false_eq_true, true_and]
      by_cases newest : row.fencingToken = token
      · -- The last report: the row still says what it said.
        rw [← newest, tally.token] at ended
        obtain ⟨free, last⟩ := Ledger.ending?_token _ ended
        have certainty : row.resultCertainty = r.certainty := by
          rw [tally.certainty, jobCertainty, Ledger.getLast?_reports _ _ last]
          rfl
        have open_ : row.state ≠ .processing := by
          rw [tally.state, ne_eq, jobState_eq_processing_iff, free]
          exact Bool.false_ne_true
        simp [newest, certainty, open_]
      · -- An earlier report was not the last, so the job was to be tried again.
        have again : r.final = false := by
          by_contra final
          have last := (books.lawful id).ending?_final ended (by simpa using final)
          exact newest (tally.token.trans last.1.symm)
        simp only [newest, false_implies, iff_true]
        cases r with
        | retry => rfl
        | completed | deadLetter => cases again
  · have open_ : (ledgerOf s.log id).ending? (ledgerOf s.log id).token = none := by
      cases ended : (ledgerOf s.log id).ending? (ledgerOf s.log id).token with
      | none => rfl
      | some ending =>
        have free := (Ledger.ending?_token _ ended).1
        rw [held] at free
        cases free
    have processing : row.state = .processing := by
      rw [tally.state, jobState_eq_processing_iff]
      exact held
    simp [open_, tally.token, processing]

/-- `publish_post` is invoked again only after recorded failures in exactly those runs in which it
is never invoked again after a claim that had invoked it was taken back, or while the newest claim
that has invoked it is open, confirmed or unknown. -/
theorem sends_recorded_iff (es : List (Event ι ω)) :
    (system rt settings registry).Along SendsRecorded (.initial ι) es ↔
      (system rt settings registry).Along SendsAccountedFor (.initial ι) es := by
  refine (callsClaimed_stable rt settings registry).along_iff ?_ ⟨books_initial, ?_⟩
    (run_system rt settings registry _ es)
  · rintro s e - ⟨books, claimed⟩
    refine forall₂_congr fun job publishes => forall₂_congr fun token called => ?_
    obtain ⟨i, stage, running⟩ := publishing?_running publishes
    obtain ⟨row, known⟩ := books.known i job stage running
    rw [recordedUnsent_iff books known.found (claimed job.id token called)]
    simp [known.found]
  · intro id token called
    cases called

end Sends

instance (log : List Note) (jobId : UUID) (token : Nat) :
    Decidable (RecordedUnsent log jobId token) :=
  inferInstanceAs (Decidable (_ = true))

instance {ω ι : Type} (s : State ι) (e : Event ι ω) : Decidable (SendsRecorded s e) :=
  inferInstanceAs (Decidable (∀ job ∈ publishing? s e, ∀ token ∈ publishCalls s.log job.id, _))

def crashedSend : Run := created ++ [enqueue .publish "publish" 21] ++ send (seconds 10) ++
  [.worker () (.answer accepted), .worker () .crash, .recoverStaleJobs (seconds 100)] ++
    send (seconds 100)

theorem crashed_send_repeated : ¬(system runtime settings (buildRegistry runtime settings)).Along
      SendsRecorded (.initial Unit) crashedSend := by
  decide +kernel

end CodestraMiddleware.Social
