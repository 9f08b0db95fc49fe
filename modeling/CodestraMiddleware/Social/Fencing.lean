import CodestraMiddleware.Social.System

/-!
# Fenced results

A worker acts on the row that its claim returned. `complete_job` and `fail_job` look for that row's
fencing token, and only the newest claim of a job has the token that the table has.
-/
namespace CodestraMiddleware.Social

open Relational Transition Leases List Database Ledger Note Report Option

section Fencing

variable {ω : Type} (rt : Runtime) (settings : Settings) (registry : SocialProviderRegistry ω)
  {ι : Type} [DecidableEq ι]

def Note.claimToken? (jobId : UUID) : Note → Option Nat
  | .claimed id token => if id = jobId then some token else none
  | _ => none

def claimTokens (log : List Note) (jobId : UUID) : List Nat :=
  log.filterMap (claimToken? jobId)

def Note.completion? : Note → Option (UUID × String)
  | .completed jobId _ _ originalEventId => some (jobId, originalEventId)
  | _ => none

/-- The calls of `complete_job` that succeeded, newest first, with the integration event of each. -/
def completions (log : List Note) : List (UUID × String) := log.filterMap completion?

def completionEvents (log : List Note) (jobId : UUID) : List String :=
  ((completions log).filter fun c => c.1 = jobId).map (·.2)

def eventsOf (s : State ι) (jobId : UUID) : List IntegrationEvent :=
  s.database.integrationEvents.rows.filter fun e => e.originalEventId ∈ completionEvents s.log jobId

/-- Tokens increase, and a job completes once with one attempt and one event. -/
structure Fenced (s : State ι) : Prop where
  tokens : ∀ id, (claimTokens s.log id).Pairwise (· > ·)
  once : ∀ id, (completionEvents s.log id).length ≤ 1
  completed : ∀ id, ∀ row ∈ s.database.job? id, row.state = .completed ↔
    (s.database.attemptsOf id).countP (fun a => a.result = .success) = 1 ∧
    (eventsOf s id).length = 1
  numbers : ∀ id, (s.database.attemptsOf id).map (·.attemptNumber) = range' 1
    (s.database.attemptsOf id).length

/-- The step is one of the worker that holds the newest claim of the job, with its row. -/
def Holder (s : State ι) (e : Event ι ω) (job : SocialPublishJob) : Prop :=
  ∃ i e' stage, e = .worker i e' ∧ s.workers i = .running job stage ∧ job.Current s.database

/-- Who changes what in a step. A worker whose claim is not the newest writes nothing at all; beside
the holder of the newest token, a job is changed by the next claim and by a recovery, and the
content of a post by requests. -/
structure OnlyHolder (s : State ι) (e : Event ι ω) : Prop where
  stale : ∀ i e' job stage, e = .worker i e' → s.workers i = .running job stage →
    ¬job.Current s.database → (step rt settings registry s e).database = s.database
  job : ∀ id, ∀ row ∈ s.database.job? id, (step rt settings registry s e).database.job?
    id ≠ some row →
      (∃ job, Holder s e job ∧ job.id = id) ∨
      (∃ i now locked, e = .worker i (.claim now locked) ∧ row.claimable now = true) ∨
      ∃ now, e = .recoverStaleJobs now ∧ row.stale now = true
  attempts : ∀ id, (step rt settings registry s e).database.attemptsOf
      id ≠ s.database.attemptsOf id → ∃ job, Holder s e job ∧ job.id = id
  post : ∀ id, ∀ p ∈ s.database.post? id, ∀ p' ∈ (step rt settings registry s e).database.post? id,
    p' ≠ p → (∃ job, Holder s e job ∧ job.socialPostId = id) ∨
      ∃ r, e = .request r ∧ p'.status = p.status ∧ p'.providerPostId = p.providerPostId

/-- A job that is over keeps its row and its attempts. -/
def FinalKept (s : State ι) (e : Event ι ω) : Prop :=
  ∀ id, ∀ row ∈ s.database.job? id, row.state = .completed ∨ row.state = .deadLetter →
    (step rt settings registry s e).database.job? id = some row ∧
      (step rt settings registry s e).database.attemptsOf id = s.database.attemptsOf id

/-! ## The log and the tables -/

structure Logged (db : Database) (log : List Note) : Prop where
  tokens : ∀ id, (claimTokens log id).Pairwise (· > ·)
  below : ∀ id, ∀ token ∈ claimTokens log id, token ≤ (ledgerOf log id).token
  events : db.integrationEvents.rows.map (·.originalEventId) = ((completions log).map (·.2)).reverse
  counted : ∀ id, (completionEvents log id).length = (ledgerOf log id).reports.countP isCompletion

section Logged

variable {settings} {db db' : Database} {log : List Note}

theorem claimTokens_cons (note : Note) (log : List Note) (jobId : UUID) :
    claimTokens (note :: log) jobId = (note.claimToken? jobId).toList ++ claimTokens log jobId := by
  cases given : note.claimToken? jobId <;> simp [claimTokens, given]

theorem completions_cons (note : Note) (log : List Note) :
    completions (note :: log) = note.completion?.toList ++ completions log := by
  cases completion : note.completion? <;> simp [completions, completion]

theorem Logged.cons (logged : Logged db log) {note : Note}
    (token : ∀ id, ∀ token ∈ note.claimToken? id,
      (ledgerOf log id).token < token ∧ token ≤ (ledgerOf (note :: log) id).token)
    (events : db'.integrationEvents.rows.map (·.originalEventId) =
      db.integrationEvents.rows.map (·.originalEventId) ++ note.completion?.toList.map (·.2))
    (report : ∀ id, (note.completion?.toList.filter fun c => c.1 = id).length =
      ((note.action? id).bind Action.report?).toList.countP isCompletion) :
      Logged db' (note :: log) := by
  constructor
  · intro id
    rw [claimTokens_cons, pairwise_append]
    refine ⟨by cases note.claimToken? id <;> simp, logged.tokens id, ?_⟩
    intro new given old earlier
    have newer := (token id new (by simpa using given)).1
    exact Nat.lt_of_le_of_lt (logged.below id old earlier) newer
  · intro id given member
    rw [claimTokens_cons, mem_append] at member
    rcases member with new | old
    · exact (token id given (by simpa using new)).2
    · apply (logged.below id given old).trans
      rw [ledgerOf_cons]
      cases note.action? id with
      | none => exact Nat.le_refl _
      | some a => exact token_le_act _ a
  · rw [events, logged.events, completions_cons]
    cases note.completion? <;> simp
  · intro id
    have counted := logged.counted id
    have added := report id
    rw [completionEvents, length_map] at counted
    rw [completionEvents, completions_cons, length_map, filter_append, length_append, counted,
      added, ledgerOf_cons]
    cases note.action? id with
    | none => simp
    | some a => simp [reports_act, Nat.add_comm]

theorem Logged.note (logged : Logged db log) (same : db'.integrationEvents = db.integrationEvents)
    {note : Note} (noClaim : ∀ id, note.claimToken? id = none)
    (noCompletion : note.completion? = none)
    (failure : ∀ id r, note.action? id = some (.report r) → r.isCompletion = false) :
    Logged db' (note :: log) := by
  apply logged.cons (by simp [noClaim]) (by simp [same, noCompletion])
  intro id
  rw [noCompletion]
  cases action : note.action? id with
  | none => rfl
  | some a =>
    cases a with
    | claim | release => rfl
    | report r => simp [Action.report?, failure id r action]

theorem Reacts.logged {r : Reaction} (reacts : Reacts settings db w e r) (logged : Logged db log)
    (tally : ∀ id row, db.job? id = some row → Tally row (db.attemptsOf id) (ledgerOf log id)) :
    Logged r.database (r.note.toList ++ log) := by
  cases reacts with
  | @claims _ _ row _ found claimable =>
    have counted := tally _ _ found
    have free : (ledgerOf log row.id).held = false := by
      rw [← Bool.not_eq_true, ← jobState_eq_processing_iff, ← counted.state]
      intro processing
      simp [SocialPublishJob.claimable, processing] at claimable
    -- The token that the claim returns is the one that the ledger counts next.
    refine logged.cons ?_ (by simp [completion?, updateJobs]) ?_
    · intro id token given
      simp only [claimToken?] at given
      split at given
      next same =>
        subst same
        cases given
        simp [ledgerOf_cons, action?, counted.token, act, Ledger.token, free]
      next => cases given
    · intro id
      by_cases same : row.id = id <;> simp [completion?, action?, same, Action.report?]
  | calls => exact logged.note rfl (fun _ => rfl) rfl (by rintro _ _ ⟨⟩)
  | @completes _ job _ _ _ done =>
    obtain ⟨-, -, _, attempts, _, -, -, added, rfl⟩ := completeJob_eq_ok done
    refine logged.cons (by rintro _ _ ⟨⟩) ?_ ?_
    · simp [Table.rows_insert? added, completion?, IntegrationEvent.completed]
    · intro id
      by_cases same : job.id = id <;>
        simp [completion?, action?, same, Action.report?, isCompletion]
  | fails running done recorded =>
    rcases failJob_eq_ok done with ⟨lost, -⟩ | ⟨-, -, _, -, rfl⟩
    · exact absurd lost recorded
    apply logged.note (by rfl) (fun _ => rfl) rfl
    intro id r reported
    simp only [action?] at reported
    split at reported
    next =>
      cases reported
      exact report_isCompletion ..
    next => cases reported
  | _ => exact logged

theorem Logged.recovered (logged : Logged db log)
    (same : db'.integrationEvents = db.integrationEvents)
    (jobs : List (UUID × String)) : Logged db' (jobs.map (fun job => .recovered job.1) ++ log) := by
  induction jobs with
  | nil => exact ⟨logged.tokens, logged.below, same ▸ logged.events, logged.counted⟩
  | cons job jobs ih =>
    apply ih.note rfl (fun _ => rfl) rfl
    intro id' r released
    simp only [action?] at released
    split at released <;> cases released

end Logged

theorem logged_stable : (system rt settings registry).Stable fun s : State ι => Books s ∧
    Logged s.database s.log := by
  rintro s e admitted ⟨books, logged⟩
  refine ⟨books_stable rt registry s e admitted books, ?_⟩
  cases e with
  | request r =>
    have same := (r.handle_extends rt s.database).integrationEvents
    exact logged.recovered same []
  | recoverStaleJobs now =>
    exact logged.recovered (by rfl) (recoverStaleJobs now s.database).1
  | worker i e =>
    exact (react_reacts rt settings registry s.database e (s.workers i)).logged logged books.tally

section Fenced

variable {s : State ι} (books : Books s) (id : UUID)

include books

omit [DecidableEq ι] in
theorem Books.successes : (s.database.attemptsOf id).countP (fun a => a.result = .success) =
    (ledgerOf s.log id).reports.countP isCompletion := by
  cases found : s.database.job? id with
  | none =>
    obtain ⟨noActions, noAttempts⟩ := books.absent id found
    simp [noAttempts, ledgerOf, noActions, of, reports]
  | some row =>
    have results := congrArg (countP (· = AttemptResult.success)) (books.tally id row found).results
    rw [countP_map, countP_map] at results
    refine Eq.trans results (countP_congr fun r _ => ?_)
    cases r <;> simp [Report.result, isCompletion]

omit [DecidableEq ι] in
theorem Books.numbers : (s.database.attemptsOf id).map (·.attemptNumber) = range' 1
    (s.database.attemptsOf id).length := by
  cases found : s.database.job? id with
  | none => simp [(books.absent id found).2]
  | some row =>
    have tally := books.tally id row found
    have length : (s.database.attemptsOf id).length = (ledgerOf s.log id).reports.length := by
      simpa using congrArg List.length tally.results
    rw [tally.numbers, length]

omit [DecidableEq ι] in
theorem Books.completions_le_one : (ledgerOf s.log id).reports.countP isCompletion ≤ 1 := by
  cases found : s.database.job? id with
  | none => simp [ledgerOf, (books.absent id found).1, of, reports]
  | some row =>
    rw [books.countP_completions found]
    split <;> simp

end Fenced

omit [DecidableEq ι] in
theorem Logged.eventsOf (logged : Logged s.database s.log) (id : UUID) :
    (eventsOf s id).length = (completionEvents s.log id).length := by
  -- The ids of the events are unique in the table, so they are in the log.
  have distinct : ((completions s.log).map (·.2)).Nodup := by
    rw [← nodup_reverse, ← logged.events]
    exact s.database.integrationEvents.unique
  refine s.database.integrationEvents.length_filter_mem ?_ ?_
  · exact distinct.sublist (filter_sublist.map _)
  · intro event member
    rw [logged.events, mem_reverse]
    exact (filter_sublist.map _).subset member

omit [DecidableEq ι] in
theorem fenced (books : Books s) (logged : Logged s.database s.log) : Fenced s := by
  refine ⟨logged.tokens, ?_, ?_, books.numbers⟩
  · intro id
    rw [logged.counted id]
    exact books.completions_le_one id
  · intro id row found
    rw [books.successes id, logged.eventsOf id, logged.counted id, books.countP_completions found]
    split <;> simp_all

section Steps

variable {settings} {db : Database} {row row' : SocialPublishJob}
  {attempts attempts' : List SocialPublishAttempt} {a : Option (Action Report)}

theorem Progress.final (progress : Progress settings row attempts a row' attempts')
    (final : row.state = .completed ∨ row.state = .deadLetter) :
    row' = row ∧ attempts' = attempts := by
  cases progress with
  | kept => exact ⟨rfl, rfl⟩
  | claimed waiting => rcases final with final | final <;> simp [final] at waiting
  | recovered processing | completed processing | failed processing =>
    rcases final with final | final <;> simp [final] at processing

theorem Reacts.writes (reacts : Reacts settings db w e r) :
    (∃ job stage, w = .running job stage ∧ job.Current db ∧
      (∀ id, job.id ≠ id → r.database.job? id = db.job? id ∧
        r.database.attemptsOf id = db.attemptsOf id) ∧ ∀ id, job.socialPostId ≠ id →
        r.database.post? id = db.post? id) ∨
    (∀ job stage, w = .running job stage → r.database = db) ∧ (∀ id row, db.job? id = some row →
      r.database.job? id ≠ some row → ∃ now locked, e = .claim now locked ∧
      row.claimable now = true) ∧
      r.database.attempts = db.attempts ∧ r.database.posts = db.posts := by
  cases reacts with
  | @claims now locked row idle found claimable =>
    refine .inr ⟨?_, ?_, rfl, rfl⟩
    · intro job stage running
      cases idle.symm.trans running
    · intro id row' found' changed
      by_cases named : row.id = id
      · subst named
        cases found.symm.trans found'
        exact ⟨now, locked, rfl, claimable⟩
      · refine absurd ?_ changed
        exact (job?_updateJobs_of_ne (fun j named => by simpa using named) _ named).trans found'
  | @completes _ job _ _ running done =>
    refine .inl ⟨job, _, running, (completeJob_eq_ok done).2.1, ?_, ?_⟩
    · obtain ⟨-, -, _, attempts, _, -, attempted, -, rfl⟩ := completeJob_eq_ok done
      intro id other
      refine ⟨job?_updateJobs_of_ne job.owns_only _ other, ?_⟩
      rw [db.attemptsOf_insert _ attempted rfl id, if_neg other, append_nil]
    · intro id other
      rw [completeJob_post? done]
      cases looked : db.post? id with
      | none => rfl
      | some p =>
        have named := (db.post?_eq_some.mp looked).2
        rw [map_some, SocialPost.record, if_neg]
        rw [named]
        exact Ne.symm other
  | @fails _ _ _ job _ _ _ running done recorded =>
    rcases failJob_eq_ok done with ⟨lost, -⟩ | ⟨-, current, _, attempted, rfl⟩
    · exact absurd lost recorded
    refine .inl ⟨job, _, running, current, ?_, fun _ _ => rfl⟩
    intro id other
    refine ⟨job?_updateJobs_of_ne job.owns_only _ other, ?_⟩
    rw [db.attemptsOf_insert _ attempted rfl id, if_neg other, append_nil]
  | _ => exact .inr ⟨fun _ _ _ => rfl, fun _ _ found changed => absurd found changed, rfl, rfl⟩

end Steps

theorem finalKept_step (books : Books s) (e : Event ι ω) : FinalKept rt settings registry s e := by
  intro id row found final
  obtain ⟨a, change, -⟩ := step_change rt settings registry books.known e id
  cases change with
  | absent before | created before => exact absurd found (by simp [before])
  | progressed before after progress =>
    cases before.symm.trans found
    obtain ⟨rfl, attempts⟩ := progress.final final
    exact ⟨after, attempts⟩

theorem onlyHolder_request (s : State ι) (r : Request) :
    OnlyHolder rt settings registry s (.request r) := by
  have extends_ := r.handle_extends rt s.database
  constructor
  · exact fun _ _ _ _ worker => by cases worker
  · intro id row found changed
    rcases extends_.job? id with same | ⟨absent, -⟩
    · exact absurd (same.trans found) changed
    · exact absurd found (by simp [absent])
  · intro id changed
    exact absurd (by simp [step, attemptsOf, extends_.attempts]) changed
  · intro id p found p' found' changed
    rcases extends_.post? id with ⟨f, mapped, kept⟩ | ⟨absent, -⟩
    · obtain rfl : f p = p' := by
        have found'' : (r.handle rt s.database).post? id = some p' := found'
        rw [mapped, show s.database.post? id = some p from found] at found''
        exact Option.some.inj found''
      obtain ⟨status, reference⟩ := kept p
      exact .inr ⟨r, rfl, status, reference⟩
    · exact absurd found (by simp [absent])

theorem onlyHolder_recoverStaleJobs (s : State ι) (now : Int) :
    OnlyHolder rt settings registry s (.recoverStaleJobs now) := by
  constructor
  · exact fun _ _ _ _ worker => by cases worker
  · intro id row found changed
    refine .inr (.inr ⟨now, rfl, ?_⟩)
    by_contra fresh
    apply changed
    change (recoverStaleJobs now s.database).2.job? id = some row
    simp only [recoverStaleJobs, job?_updateJobs,
      show s.database.job? id = some row from found, map_some]
    rw [SocialPublishJob.advance_of_neg (by simpa using fresh)]
  · intro id changed
    exact absurd rfl changed
  · intro id p found p' found' changed
    exact absurd (Option.some.inj (Eq.trans (Eq.symm found') found)) changed

theorem onlyHolder_worker (s : State ι) (i : ι) (e : WorkerEvent ω) :
    OnlyHolder rt settings registry s (.worker i e) := by
  have reacts := react_reacts rt settings registry s.database e (s.workers i)
  rcases reacts.writes with ⟨job, stage, running, current, jobs, posts⟩ |
    ⟨idle, claimed, attempts, posts⟩
  · -- The worker reports under the newest claim.
    have holder : Holder s (.worker i e) job := ⟨i, e, stage, rfl, running, current⟩
    constructor
    · intro i' e' job' stage' same running' lost
      cases same
      cases running.symm.trans running'
      exact absurd current lost
    · intro id row found changed
      refine .inl ⟨job, holder, ?_⟩
      by_contra other
      exact changed ((jobs id other).1.trans found)
    · intro id changed
      refine ⟨job, holder, ?_⟩
      by_contra other
      exact changed (jobs id other).2
    · intro id p found p' found' changed
      refine .inl ⟨job, holder, ?_⟩
      by_contra other
      exact changed (Option.some.inj ((Eq.symm found').trans ((posts id other).trans found)))
  · -- The worker claims a job or writes nothing.
    constructor
    · intro i' e' job' stage' same running _
      cases same
      exact idle job' stage' running
    · intro id row found changed
      obtain ⟨now, locked, rfl, claimable⟩ := claimed id row found changed
      exact .inr (.inl ⟨i, now, locked, rfl, claimable⟩)
    · intro id changed
      exact absurd (by simp [step, attemptsOf, attempts]) changed
    · intro id p found p' found' changed
      have found'' : s.database.post? id = some p' := by simpa [step, post?, posts] using found'
      exact absurd (Option.some.inj (found''.symm.trans found)) changed

theorem onlyHolder_step (s : State ι) (e : Event ι ω) : OnlyHolder rt settings registry s e := by
  cases e with
  | request r => exact onlyHolder_request rt settings registry s r
  | recoverStaleJobs now => exact onlyHolder_recoverStaleJobs rt settings registry s now
  | worker i e => exact onlyHolder_worker rt settings registry s i e

/-- However requests, recoveries and the steps of any number of workers interleave: the tokens of a
job's claims increase, only the holder of the newest one changes the job, its post or its attempts,
at most one `complete_job` succeeds, completed jobs are those with one `SUCCESS` attempt and one
integration event, attempts are numbered from 1 on, and completed and dead-lettered jobs stay. -/
theorem results_fenced (es : List (Event ι ω)) : (system rt settings registry).Always Fenced
    (.initial ι) es ∧
      (system rt settings registry).Along (OnlyHolder rt settings registry) (.initial ι) es ∧
      (system rt settings registry).Along (FinalKept rt settings registry) (.initial ι) es := by
  have start : Books (State.initial ι) ∧ Logged (State.initial ι).database
      (State.initial ι).log := by
    refine ⟨books_initial, ?_⟩
    constructor <;> intros <;> simp_all [State.initial, claimTokens, completions, completionEvents,
      empty, Table.empty, ledgerOf, actionsOf, of, reports]
  have run := run_system rt settings registry (State.initial ι) es
  have stable := logged_stable (ι := ι) rt settings registry
  refine ⟨?_, ?_, ?_⟩
  · exact stable.always (fun s inv => fenced inv.1 inv.2) start run
  · exact System.along_of_forall (onlyHolder_step rt settings registry) _ es
  · exact stable.along (fun s e _ inv => finalKept_step rt settings registry inv.1 e) start run

end Fencing

end CodestraMiddleware.Social
