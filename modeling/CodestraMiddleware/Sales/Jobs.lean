import CodestraMiddleware.Sales.Service

/-!
# The life of a verification job

A job is running from the moment it exists, and one task runs it. The run of a job ends in one of
three ways: the loop comes to its end, the page could not be read, or an exception leaves.
-/
namespace CodestraMiddleware.Sales

open Raising Transition List Option Service Note
open Sales.Task (react)
open AiJobs (UUID)
open Function (comp_update update update_self update_of_ne update_eq_self update_apply comp_def)

variable (rt : Runtime) (policy : MatchPolicy)

/-! ## How `resolve` ends -/

/-- Everything in a lookup can be normalised and compared with the candidate. -/
def Readable (candidate : LeadCandidate) (found : OdooLookup) : Prop :=
  (∀ c ∈ found.companies, ∃ m, companyMatch rt.lib candidate c = .ok m) ∧
    ∀ c ∈ found.contacts, ∀ company, ∃ m, contactMatch rt.lib candidate c company = .ok m

variable {rt} in
theorem exists_findings_iff : (∃ f, findings rt candidate found = .ok f) ↔
    Readable rt candidate found := by
  constructor
  · rintro ⟨f, made⟩
    obtain ⟨company, companies, made⟩ := bind_eq_ok.mp made
    obtain ⟨contact, contacts, -⟩ := bind_eq_ok.mp made
    constructor
    · intro c listed
      obtain ⟨m, matched, -⟩ := le_best_of_mapM companies c listed
      exact ⟨m, matched⟩
    · intro c listed other
      obtain ⟨m, matched, -⟩ := le_best_of_mapM contacts c listed
      exact contactMatch_ok matched other
  · rintro ⟨companies, contacts⟩
    obtain ⟨matched, ok⟩ := exists_mapM_eq_ok companies
    obtain ⟨matched', ok'⟩ := exists_mapM_eq_ok fun c listed => contacts c listed (best matched)
    have company : bestCompany rt.lib candidate found.companies = .ok (best matched) :=
      map_eq_ok.mpr ⟨matched, ok, rfl⟩
    have contact : bestContact rt.lib candidate found.contacts (best matched) =
        .ok (best matched') :=
      map_eq_ok.mpr ⟨matched', ok', rfl⟩
    exact ⟨_, bind_eq_ok.mpr ⟨_, company, bind_eq_ok.mpr ⟨_, contact, rfl⟩⟩⟩

variable {ω : Type} (port : OdooReadOnlyPort ω)

inductive Raises (s : Service) (call : ResolveCall) : TaskEvent ω → Phase → Prop
  | interrupted {phase : Phase} : Raises s call .interrupt phase
  | conflicting {candidateId : UUID} {prior : IdempotencyEntry LeadResolution}
      (stored : s.resolveEntries (call.scope rt) = some prior)
      (other : prior.payloadHash ≠ rt.candidateHash call.candidate) :
      Raises s call (.acquire candidateId) .locking
  | failed {awaited : Awaited ω} {candidateId reviewId : UUID} {exc : Exc}
      (answered : lookupOf port call awaited = .error exc) (uncaught : exc.unavailable = false) :
      Raises s call (.answer awaited reviewId) (.looking candidateId)
  | unreadable {awaited : Awaited ω} {candidateId reviewId : UUID} {found : OdooLookup}
      (answered : lookupOf port call awaited = .ok found)
      (bad : ¬Readable rt call.candidate found) :
      Raises s call (.answer awaited reviewId) (.looking candidateId)

inductive Completes (s : Service) (call : ResolveCall) : TaskEvent ω → Phase → Prop
  | replayed {candidateId : UUID} {prior : IdempotencyEntry LeadResolution}
      (stored : s.resolveEntries (call.scope rt) = some prior)
      (same : prior.payloadHash = rt.candidateHash call.candidate) :
      Completes s call (.acquire candidateId) .locking
  | unavailable {awaited : Awaited ω} {candidateId reviewId : UUID} {exc : Exc}
      (answered : lookupOf port call awaited = .error exc) (caught : exc.unavailable = true) :
      Completes s call (.answer awaited reviewId) (.looking candidateId)
  | resolved {awaited : Awaited ω} {candidateId reviewId : UUID} {found : OdooLookup}
      (answered : lookupOf port call awaited = .ok found)
      (readable : Readable rt call.candidate found) :
      Completes s call (.answer awaited reviewId) (.looking candidateId)

section Resolve

variable {rt port} {s : Service} {call : ResolveCall} {e : TaskEvent ω} {phase : Phase}

theorem Raises.resumeResolve (raises : Raises rt port s call e phase) :
    ∃ exc, resumeResolve rt policy port call s e phase = .raises exc := by
  cases raises with
  | interrupted => exact ⟨_, rfl⟩
  | conflicting stored other =>
    simp only [Sales.resumeResolve, stored, other, if_false]
    exact ⟨_, rfl⟩
  | @failed _ _ _ exc answered uncaught =>
    simp [Sales.resumeResolve, finishResolve, answered, uncaught]
  | @unreadable _ _ _ found answered bad =>
    cases made : findings rt call.candidate found with
    | ok f => exact absurd (exists_findings_iff.mp ⟨f, made⟩) bad
    | error exc =>
      refine ⟨exc, ?_⟩
      simp only [Sales.resumeResolve, finishResolve, answered, made]
      rfl

theorem Completes.resumeResolve (completes : Completes rt port s call e phase) :
    ∃ resolution basis s', resumeResolve rt policy port call s e phase = .returns resolution
    basis s' := by
  cases completes with
  | replayed stored same =>
    simp only [Sales.resumeResolve, stored, same, if_true]
    exact ⟨_, _, _, rfl⟩
  | @unavailable _ _ _ exc answered caught =>
    simp [Sales.resumeResolve, finishResolve, answered, caught]
  | @resolved _ _ _ found answered readable =>
    obtain ⟨f, made⟩ := exists_findings_iff.mpr readable
    simp only [Sales.resumeResolve, finishResolve, answered, made]
    exact ⟨_, _, _, rfl⟩

theorem resumeResolve_cases (rt : Runtime) (policy : MatchPolicy) (port : OdooReadOnlyPort ω)
    (call : ResolveCall) (s : Service) (e : TaskEvent ω) (phase : Phase) :
    (∃ phase', resumeResolve rt policy port call s e phase = .waits phase') ∨
      Raises rt port s call e phase ∨ Completes rt port s call e phase := by
  cases e with
  | resolve | createJob => exact .inl ⟨_, rfl⟩
  | interrupt => exact .inr (.inl .interrupted)
  | acquire candidateId =>
    cases phase with
    | looking => exact .inl ⟨_, rfl⟩
    | locking =>
      cases stored : s.resolveEntries (call.scope rt) with
      | none => exact .inl ⟨.looking candidateId, by simp only [resumeResolve, stored]⟩
      | some prior =>
        by_cases same : prior.payloadHash = rt.candidateHash call.candidate
        · exact .inr (.inr (.replayed stored same))
        · exact .inr (.inl (.conflicting stored same))
  | answer awaited reviewId =>
    cases phase with
    | locking => exact .inl ⟨_, rfl⟩
    | looking =>
      cases answered : lookupOf port call awaited with
      | error exc =>
        cases caught : exc.unavailable with
        | true => exact .inr (.inr (.unavailable answered caught))
        | false => exact .inr (.inl (.failed answered caught))
      | ok found =>
        by_cases readable : Readable rt call.candidate found
        · exact .inr (.inr (.resolved answered readable))
        · exact .inr (.inl (.unreadable answered readable))

end Resolve

/-! ## How the run of a job ends -/

inductive Ending where
  -- The loop is over.
  | returns
  -- There is no page.
  | warns
  -- An exception leaves.
  | raises

inductive Ends (s : Service) : TaskEvent ω → Task → UUID → Ending → Prop
  | unavailable {call : CreateCall} {jobId reviewId : UUID} {awaited : Awaited ω} {exc : Exc}
      (answered : pageOf port call awaited = .error exc) (caught : exc.unavailable = true) :
      Ends s (.answer awaited reviewId) (.paging call jobId) jobId .warns
  | failed {call : CreateCall} {jobId reviewId : UUID} {awaited : Awaited ω} {exc : Exc}
      (answered : pageOf port call awaited = .error exc) (uncaught : exc.unavailable = false) :
      Ends s (.answer awaited reviewId) (.paging call jobId) jobId .raises
  | empty {call : CreateCall} {jobId reviewId : UUID} {awaited : Awaited ω}
      (answered : pageOf port call awaited = .ok []) :
      Ends s (.answer awaited reviewId) (.paging call jobId) jobId .returns
  | interrupted {call : CreateCall} {jobId : UUID} :
      Ends s .interrupt (.paging call jobId) jobId .raises
  | raised {call : CreateCall} {jobId : UUID} {resolve : ResolveCall} {e : TaskEvent ω}
      {phase : Phase} {rest : List LeadCandidate} (raises : Raises rt port s resolve e phase) :
      Ends s e (.verifying call jobId resolve phase rest) jobId .raises
  | last {call : CreateCall} {jobId : UUID} {resolve : ResolveCall} {e : TaskEvent ω}
      {phase : Phase}
      (completes : Completes rt port s resolve e phase) :
      Ends s e (.verifying call jobId resolve phase []) jobId .returns

def Ending.settle : Ending → VerificationJobState → VerificationJobState
  | .returns, _ => .completed
  | .warns, _ => .completedWithWarnings
  | .raises, state => state

/-! ## What a task does to jobs -/

def Service.stateOf (s : Service) (id : UUID) : Option VerificationJobState :=
  (s.jobs id).map (·.state)

variable {id : UUID}

theorem stateOf_updateJob {s : Service} (settle : VerificationJobState → VerificationJobState)
    (settles : ∀ job, (change job).state = settle job.state) :
    (s.updateJob id change).stateOf = update s.stateOf id ((s.stateOf id).map settle) := by
  refine (comp_update (Option.map (·.state)) s.jobs id _).trans ?_
  simp only [Option.map_map, comp_def, settles, stateOf]
  rfl

theorem stateOf_updateJob_same {s : Service} {change : VerificationJob → VerificationJob}
    (same : ∀ job, (change job).state = job.state) :
    (s.updateJob id change).stateOf = s.stateOf := by
  rw [stateOf_updateJob (fun state => state) same, Option.map_id', update_eq_self]

def Task.job? : Task → Option (UUID × Scope)
  | .paging call jobId | .verifying call jobId _ _ _ => some (jobId, call.scope rt)
  | _ => none

inductive Milestone where
  | ended (jobId : UUID)
  | replayed (jobId : UUID)

def Milestone.jobId : Milestone → UUID
  | .ended jobId | .replayed jobId => jobId

def Note.milestone? : Note → Option Milestone
  | .ended jobId _ => some (.ended jobId)
  | .returned jobId true => some (.replayed jobId)
  | _ => none

structure Reaction.Concludes (s : Service) (jobId : UUID) (ending : Ending)
    (r : Reaction) : Prop where
  idle : r.task.job? rt = none
  states : r.service.stateOf = update s.stateOf jobId ((s.stateOf jobId).map ending.settle)
  entries : r.service.jobEntries = s.jobEntries
  noted : r.notes.filterMap milestone? = [.ended jobId]

structure Reaction.GoesOn (s : Service) (job : Option (UUID × Scope)) (r : Reaction) : Prop where
  job : r.task.job? rt = job
  states : r.service.stateOf = s.stateOf
  entries : r.service.jobEntries = s.jobEntries
  quiet : r.notes.filterMap milestone? = []

variable {jobId : UUID} {ending : Ending} {s' : Service} {task : Task}

section Reactions

variable {rt policy port} {s : Service}

theorem stateOf_congr (same : s'.jobs = s.jobs) : s'.stateOf = s.stateOf := by
  funext id
  rw [stateOf, same, stateOf]

theorem leave_concludes (jobId : UUID) (exc : Exc) (s : Service) :
    (leave jobId exc s []).Concludes rt s jobId .raises := by
  have unchanged : (s.stateOf jobId).map Ending.raises.settle = s.stateOf jobId := map_id_apply
  refine ⟨rfl, ?_, rfl, rfl⟩
  rw [unchanged, update_eq_self]
  rfl

theorem advance_goesOn {notes : List Note} (call : CreateCall) (jobId : UUID)
    (candidate : LeadCandidate) (rest : List LeadCandidate) (states : s'.stateOf = s.stateOf)
    (entries : s'.jobEntries = s.jobEntries) (quiet : notes.filterMap milestone? = []) :
    (advance call jobId (candidate :: rest) s' notes).GoesOn rt s
    (some (jobId, call.scope rt)) := by
  rw [advance_cons]
  exact ⟨rfl, states, entries, quiet⟩

theorem advance_concludes {notes : List Note} (call : CreateCall) (jobId : UUID)
    (states : s'.stateOf = s.stateOf) (entries : s'.jobEntries = s.jobEntries)
    (quiet : notes.filterMap milestone? = []) :
    (advance call jobId [] s' notes).Concludes rt s jobId .returns := by
  rw [advance_nil]
  refine ⟨rfl, ?_, entries, ?_⟩
  · rw [← states]
    exact stateOf_updateJob _ fun _ => rfl
  · rw [filterMap_append, quiet]
    rfl

theorem stateOf_count {resolution : LeadResolution} {basis : Basis}
    (returns : Returns rt policy call s resolution basis s') (jobId : UUID) :
    (s'.updateJob jobId (.count resolution)).stateOf = s.stateOf := by
  have kept : (s'.updateJob jobId (.count resolution)).stateOf = s'.stateOf :=
    stateOf_updateJob_same fun _ => rfl
  rw [kept, stateOf_congr returns.jobs.1]

theorem Ends.owner (ends : Ends rt port s e task jobId ending) :
    ∃ scope, task.job? rt = some (jobId, scope) := by
  cases ends with
  | _ => exact ⟨_, rfl⟩

variable (policy) in
theorem Ends.concludes {e : TaskEvent ω} (ends : Ends rt port s e task jobId ending) :
    (task.react rt policy port s e).Concludes rt s jobId ending := by
  cases ends with
  | unavailable answered caught =>
    simp only [react, enterPage, answered, caught, if_true]
    exact ⟨rfl, stateOf_updateJob _ fun _ => rfl, rfl, rfl⟩
  | failed answered uncaught =>
    simp only [react, enterPage, answered, uncaught, Bool.false_eq_true, if_false]
    exact leave_concludes jobId _ s
  | empty answered =>
    simp only [react, enterPage, answered]
    exact advance_concludes _ jobId (stateOf_updateJob_same fun _ => rfl) rfl rfl
  | interrupted => exact leave_concludes jobId _ s
  | raised raises =>
    obtain ⟨exc, raised⟩ := raises.resumeResolve policy
    simp only [react, raised]
    exact leave_concludes jobId exc s
  | last completes =>
    obtain ⟨_, _, s', returned⟩ := completes.resumeResolve policy
    have returns := resumeResolve_returns rt policy port returned
    simp only [react, returned, counts]
    exact advance_concludes _ jobId (stateOf_count returns jobId) returns.jobs.2 rfl

end Reactions

inductive Lives (s : Service) (e : TaskEvent ω) (task : Task) (r : Reaction) : Prop
  | goesOn (on : r.GoesOn rt s (task.job? rt))
  | begins {call : CreateCall} {jobId : UUID} (waiting : task = .creating call)
      (lock : e = .acquire jobId)
      (new : s.jobEntries (call.scope rt) = none)
      (job : r.task.job? rt = some (jobId, call.scope rt))
      (states : r.service.stateOf = update s.stateOf jobId (some .running))
      (entries : r.service.jobEntries = update s.jobEntries (call.scope rt)
        (some ⟨rt.requestHash call.request, jobId⟩)) (quiet : r.notes.filterMap milestone? = [])
  | replays {call : CreateCall} {id : UUID} {prior : IdempotencyEntry UUID}
      (waiting : task = .creating call) (lock : e = .acquire id)
      (stored : s.jobEntries (call.scope rt) = some prior) (idle : r.task.job? rt = none)
      (same : r.service = s) (noted : r.notes.filterMap milestone? = [.replayed prior.result])
  | ends {jobId : UUID} {ending : Ending} {scope : Scope}
      (owner : task.job? rt = some (jobId, scope))
      (ends : Ends rt port s e task jobId ending) (concludes : r.Concludes rt s jobId ending)

section Lives

variable {rt policy port} {s : Service}

variable (policy) in
theorem Ends.lives {e : TaskEvent ω} (ends : Ends rt port s e task jobId ending) :
    Lives rt port s e task (task.react rt policy port s e) := by
  obtain ⟨_, owner⟩ := ends.owner
  exact .ends owner ends (ends.concludes policy)

theorem enterCreate_lives (call : CreateCall) (jobId : UUID) :
    Lives rt port s (.acquire jobId) (.creating call) (enterCreate rt call jobId s) := by
  unfold enterCreate
  split
  next prior stored =>
    split
    · exact .replays rfl rfl stored rfl rfl rfl
    · exact .goesOn ⟨rfl, rfl, rfl, rfl⟩
  next new =>
    refine .begins rfl rfl new rfl ?_ rfl rfl
    exact comp_update ..

theorem paging_lives (call : CreateCall) (jobId reviewId : UUID) (awaited : Awaited ω) :
    Lives rt port s (.answer awaited reviewId) (.paging call jobId)
      (react rt policy port s (.answer awaited reviewId) (.paging call jobId)) := by
  cases answered : pageOf port call awaited with
  | error exc =>
    cases caught : exc.unavailable with
    | true => exact Ends.lives policy (.unavailable answered caught)
    | false => exact Ends.lives policy (.failed answered caught)
  | ok candidates =>
    cases candidates with
    | nil => exact Ends.lives policy (.empty answered)
    | cons candidate rest =>
      simp only [react, enterPage, answered]
      exact .goesOn (advance_goesOn call jobId candidate rest
        (stateOf_updateJob_same fun _ => rfl) rfl rfl)

theorem verifying_lives (e : TaskEvent ω) (call : CreateCall) (jobId : UUID) (resolve : ResolveCall)
    (phase : Phase) (rest : List LeadCandidate) :
    Lives rt port s e (.verifying call jobId resolve phase rest)
      (react rt policy port s e (.verifying call jobId resolve phase rest)) := by
  rcases resumeResolve_cases rt policy port resolve s e phase with ⟨_, waits⟩ | raises | completes
  · simp only [react, waits]
    exact .goesOn ⟨rfl, rfl, rfl, rfl⟩
  · exact Ends.lives policy (.raised raises)
  · cases rest with
    | nil => exact Ends.lives policy (.last completes)
    | cons candidate rest =>
      obtain ⟨_, _, s', returned⟩ := completes.resumeResolve policy
      have returns := resumeResolve_returns rt policy port returned
      simp only [react, returned, counts]
      exact .goesOn (advance_goesOn call jobId candidate rest (stateOf_count returns jobId)
        returns.jobs.2 rfl)

theorem resolving_goesOn (e : TaskEvent ω) (call : ResolveCall) (phase : Phase) :
    (react rt policy port s e (.resolving call phase)).GoesOn rt s none := by
  simp only [react]
  split
  next => exact ⟨rfl, rfl, rfl, rfl⟩
  next returned =>
    obtain ⟨jobs, entries⟩ := (resumeResolve_returns rt policy port returned).jobs
    exact ⟨rfl, stateOf_congr jobs, entries, rfl⟩
  next => exact ⟨rfl, rfl, rfl, rfl⟩

variable (rt policy port) in
theorem react_lives (s : Service) (e : TaskEvent ω) (task : Task) :
    Lives rt port s e task (task.react rt policy port s e) := by
  cases task with
  | verifying call jobId resolve phase rest => exact verifying_lives e call jobId resolve phase rest
  | resolving call phase => exact .goesOn (resolving_goesOn e call phase)
  | paging call jobId =>
    cases e with
    | answer awaited reviewId => exact paging_lives call jobId reviewId awaited
    | interrupt => exact Ends.lives policy .interrupted
    | _ => exact .goesOn ⟨rfl, rfl, rfl, rfl⟩
  | creating call =>
    cases e with
    | acquire jobId => exact enterCreate_lives call jobId
    | _ => exact .goesOn ⟨rfl, rfl, rfl, rfl⟩
  | idle =>
    cases e with
    | resolve call =>
      simp only [react]
      split <;> exact .goesOn ⟨rfl, rfl, rfl, rfl⟩
    | _ => exact .goesOn ⟨rfl, rfl, rfl, rfl⟩

end Lives

/-! ## Settled jobs -/

/-- The states in which nothing happens to a job any more; those with warnings may be counted. -/
def finals (warnings : Bool) : List VerificationJobState :=
  [.completed, .failed, .canceled] ++ if warnings then [.completedWithWarnings] else []

def Final (warnings : Bool) (state : Option VerificationJobState) : Prop :=
  ∃ final ∈ finals warnings, state = some final

variable {ι : Type} [DecidableEq ι] (warnings : Bool)

/-- A step leaves cancelled jobs cancelled; a job whose run ends, or that is returned once more, is
in a final state. -/
structure Settles (s : State ι) (e : Event ι ω) : Prop where
  cancelled : ∀ id, s.service.stateOf id = some .canceled →
    (step rt policy port s e).service.stateOf id = some .canceled
  ended : ∀ id raised, .ended id raised ∈ notes rt policy port s e →
    Final warnings ((step rt policy port s e).service.stateOf id)
  replayed : ∀ id, .returned id true ∈ notes rt policy port s e →
    Final warnings ((step rt policy port s e).service.stateOf id)

/-- How the run of a job may end that is in this state. -/
def Ending.Allowed (state : Option VerificationJobState) : Ending → Prop
  | .returns => state ≠ some .canceled
  | .warns => warnings = true ∧ state ≠ some .canceled
  | .raises => state = some .canceled

/-- Runs of jobs end without an exception unless the job has been cancelled, and cancelled jobs do
not end otherwise. -/
def Undisturbed (s : State ι) : Event ι ω → Prop
  | .task i e => ∀ jobId ending, Ends rt port s.service e (s.tasks i) jobId ending →
      ending.Allowed warnings (s.service.stateOf jobId)
  | .cancelJob _ _ => True

/-- A job that is not in a final state has one task that runs it, and the lock of its key is held.
The first argument says which job a task runs, under which key. -/
structure Orderly (owns : ι → Option (UUID × Scope)) (states : UUID → Option VerificationJobState)
    (entries : Scope → Option (IdempotencyEntry UUID)) : Prop where
  alive : ∀ i id scope, owns i = some (id, scope) → ∃ state, states id = some state ∧
    (state = .running ∨ state = .canceled)
  alone : ∀ i j id scope scope', owns i = some (id, scope) → owns j = some (id, scope') → i = j
  known : ∀ scope prior, entries scope = some prior →
    (∃ i, owns i = some (prior.result, scope)) ∨ Final warnings (states prior.result)

def Cancels (states states' : UUID → Option VerificationJobState) : Prop :=
  ∀ id, states' id = states id ∨ (states id = some .queued ∨ states id = some .running) ∧
    states' id = some .canceled

variable {i : ι} {scope : Scope}

section Settled

variable {rt policy port warnings}

theorem Ending.allowed_iff (alive : state = .running ∨ state = .canceled) :
    ending.Allowed warnings (some state) ↔
      (state = .canceled → ending.settle state = .canceled) ∧
      ending.settle state ∈ finals warnings := by
  cases warnings <;> cases ending <;> rcases alive with rfl | rfl <;>
    simp [Ending.Allowed, Ending.settle, finals]

section Orderly

variable {owns : ι → Option (UUID × Scope)} {states : UUID → Option VerificationJobState}
  {entries : Scope → Option (IdempotencyEntry UUID)}

theorem Orderly.start (orderly : Orderly warnings owns states entries) (idle : owns i = none)
    (fresh : states jobId = none) (hash : String) :
    Orderly warnings (update owns i (some (jobId, scope)))
      (update states jobId (some .running)) (update entries scope (some ⟨hash, jobId⟩)) := by
  -- A task that runs a job is the new one, or runs another job than the new one.
  have runs {j : ι} {id : UUID} {scope' : Scope}
    (owner : update owns i (some (jobId, scope)) j = some (id, scope')) :
      j = i ∧ id = jobId ∨ owns j = some (id, scope') ∧ id ≠ jobId := by
    rw [update_apply] at owner
    split at owner
    next here =>
      cases owner
      exact .inl ⟨here, rfl⟩
    next =>
      refine .inr ⟨owner, ?_⟩
      rintro rfl
      obtain ⟨state, found, -⟩ := orderly.alive j id scope' owner
      rw [fresh] at found
      cases found
  constructor
  · intro j id scope' owner
    rcases runs owner with ⟨-, rfl⟩ | ⟨before, other⟩
    · exact ⟨.running, update_self .., .inl rfl⟩
    · rw [update_of_ne other]
      exact orderly.alive j id scope' before
  · intro j k id scope' scope'' first second
    rcases runs first with ⟨rfl, same⟩ | ⟨before, other⟩ <;>
      rcases runs second with ⟨rfl, same'⟩ | ⟨before', other'⟩
    · rfl
    · exact absurd same other'
    · exact absurd same' other
    · exact orderly.alone j k id scope' scope'' before before'
  · intro scope' prior stored
    rw [update_apply] at stored
    split at stored
    next here =>
      cases here
      cases stored
      exact .inl ⟨i, update_self ..⟩
    next =>
      rcases orderly.known scope' prior stored with ⟨j, owner⟩ | ⟨final, listed, state⟩
      · have other : j ≠ i := by
          rintro rfl
          rw [idle] at owner
          cases owner
        exact .inl ⟨j, (update_of_ne other ..).trans owner⟩
      · have other : prior.result ≠ jobId := by
          rintro same
          rw [same, fresh] at state
          cases state
        exact .inr ⟨final, listed, (update_of_ne other ..).trans state⟩

theorem Orderly.finish (orderly : Orderly warnings owns states entries)
    (owner : owns i = some (jobId, scope))
    (final : Final warnings state) : Orderly warnings (update owns i none)
    (update states jobId state) entries := by
  have elsewhere {j : ι} {id : UUID} {scope' : Scope}
    (owner' : update owns i none j = some (id, scope')) :
      owns j = some (id, scope') ∧ id ≠ jobId := by
    by_cases here : j = i
    · rw [here, update_self] at owner'
      cases owner'
    · rw [update_of_ne here] at owner'
      refine ⟨owner', ?_⟩
      rintro rfl
      exact here (orderly.alone j i id scope' scope owner' owner)
  constructor
  · intro j id scope' owner'
    obtain ⟨before, other⟩ := elsewhere owner'
    rw [update_of_ne other]
    exact orderly.alive j id scope' before
  · intro j k id scope' scope'' first second
    exact orderly.alone j k id scope' scope'' (elsewhere first).1 (elsewhere second).1
  · intro scope' prior stored
    by_cases this : prior.result = jobId
    · rw [this, update_self]
      exact .inr final
    · rw [update_of_ne this]
      rcases orderly.known scope' prior stored with ⟨j, owner'⟩ | final
      · have other : j ≠ i := by
          rintro rfl
          rw [owner] at owner'
          cases owner'
          exact this rfl
        exact .inl ⟨j, (update_of_ne other ..).trans owner'⟩
      · exact .inr final

omit [DecidableEq ι] in
theorem Orderly.cancel (orderly : Orderly warnings owns states entries)
    (cancels : Cancels states states') : Orderly warnings owns states' entries := by
  constructor
  · intro i id scope owner
    rcases cancels id with same | ⟨-, cancelled⟩
    · rw [same]
      exact orderly.alive i id scope owner
    · exact ⟨.canceled, cancelled, .inr rfl⟩
  · exact orderly.alone
  · intro scope prior stored
    rcases orderly.known scope prior stored with owner | final
    · exact .inl owner
    · rcases cancels prior.result with same | ⟨-, cancelled⟩
      · rw [same]
        exact .inr final
      · exact .inr ⟨.canceled, by simp [finals], cancelled⟩

end Orderly

end Settled

def State.owns (s : State ι) (i : ι) : Option (UUID × Scope) := (s.tasks i).job? rt

def State.Orderly (s : State ι) : Prop :=
  Sales.Orderly warnings (s.owns rt) s.service.stateOf s.service.jobEntries

section Steps

variable {rt policy port warnings} {s : State ι}

theorem owns_step (i : ι) (e : TaskEvent ω) : (step rt policy port s (.task i e)).owns rt = update
      (s.owns rt) i (((s.tasks i).react rt policy port s.service e).task.job? rt) := by
  exact comp_update ..

omit [DecidableEq ι] in
theorem createLock_of_owns (owner : s.owns rt i = some (id, scope)) :
    (s.tasks i).createLock rt = some scope := by
  unfold State.owns at owner
  cases task : s.tasks i with
  | paging | verifying =>
    rw [task] at owner
    cases owner
    rfl
  | _ =>
    rw [task] at owner
    cases owner

/-- Cancelling changes the state of jobs that are not settled, and nothing else. -/
theorem cancelJob_cancels (rt : Runtime) (policy : MatchPolicy) (port : OdooReadOnlyPort ω)
    (s : State ι) (jobId : UUID) (tenantId : String) :
    let s' := step rt policy port s (.cancelJob jobId tenantId)
    Cancels s.service.stateOf s'.service.stateOf ∧ s'.service.jobEntries = s.service.jobEntries ∧
      s'.tasks = s.tasks := by
  rcases step_cancelJob rt policy port s jobId tenantId with same | changed
  · rw [same]
    exact ⟨fun _ => .inl rfl, rfl, rfl⟩
  · rw [changed]
    refine ⟨fun id => ?_, rfl, rfl⟩
    by_cases here : id = jobId
    · cases here
      simp only [stateOf, updateJob, update_self]
      cases s.service.jobs jobId with
      | none => exact .inl rfl
      | some job =>
        simp only [Option.map_some, VerificationJob.cancel]
        split
        next unsettled => exact .inr ⟨unsettled.imp (congrArg some) (congrArg some), rfl⟩
        next => exact .inl rfl
    · exact .inl (congrArg (Option.map _) (update_of_ne here ..))

theorem settles_iff : Settles rt policy port warnings s e ↔
      (∀ id, s.service.stateOf id = some .canceled →
        (step rt policy port s e).service.stateOf id = some .canceled) ∧
      ∀ m ∈ (notes rt policy port s e).filterMap milestone?,
        Final warnings ((step rt policy port s e).service.stateOf m.jobId) := by
  constructor
  · rintro ⟨cancelled, ended, replayed⟩
    refine ⟨cancelled, fun m passed => ?_⟩
    obtain ⟨note, member, read⟩ := mem_filterMap.mp passed
    cases note with
    | ended id raised =>
      cases read
      exact ended id raised member
    | returned id again =>
      cases again with
      | true =>
        cases read
        exact replayed id member
      | false => cases read
    | _ => cases read
  · rintro ⟨cancelled, passed⟩
    refine ⟨cancelled, fun id raised member => ?_, fun id member => ?_⟩
    · exact passed (.ended id) (mem_filterMap.mpr ⟨_, member, rfl⟩)
    · exact passed (.replayed id) (mem_filterMap.mpr ⟨_, member, rfl⟩)

theorem settles_of_quiet (cancelled : ∀ id, s.service.stateOf id = some .canceled →
      (step rt policy port s e).service.stateOf id = some .canceled)
    (quiet : (notes rt policy port s e).filterMap milestone? = []) :
    Settles rt policy port warnings s e := by
  rw [settles_iff, quiet]
  exact ⟨cancelled, forall_mem_nil _⟩

theorem settles_iff_of_concludes (found : s.service.stateOf jobId = some state)
    (concludes : ((s.tasks i).react rt policy port s.service e).Concludes rt s.service
      jobId ending) :
    Settles rt policy port warnings s (.task i e) ↔
      (state = .canceled → ending.settle state = .canceled) ∧
      ending.settle state ∈ finals warnings := by
  have after : (step rt policy port s (.task i e)).service.stateOf =
      update s.service.stateOf jobId (some (ending.settle state)) := by
    apply concludes.states.trans
    rw [found, map_some]
  have passed : (notes rt policy port s (.task i e)).filterMap milestone? = [.ended jobId] :=
    concludes.noted
  have final : Final warnings (some (ending.settle state)) ↔
    ending.settle state ∈ finals warnings := by simp [Final]
  rw [settles_iff, passed, forall_mem_singleton, after, Milestone.jobId, update_self, final]
  refine and_congr_left fun _ => ⟨fun sticky cancelled => ?_, fun kept id cancelled => ?_⟩
  · have unchanged := sticky jobId (cancelled ▸ found)
    rw [update_self] at unchanged
    exact some_inj.mp unchanged
  · by_cases here : id = jobId
    · cases here
      rw [update_self, kept (some_inj.mp (found.symm.trans cancelled))]
    · rw [update_of_ne here]
      exact cancelled

theorem mayAcquire_creating (admitted : (system rt policy port).admits s (.task i e))
    (waiting : s.tasks i = .creating call)
    (lock : e = .acquire jobId) : (∀ j, (s.tasks j).createLock rt ≠ some (call.scope rt)) ∧
    s.service.jobs jobId = none := by
  subst lock
  simp only [system, waiting] at admitted
  exact admitted

theorem task_settles_iff (admitted : (system rt policy port).admits s (.task i e))
    (orderly : s.Orderly rt warnings) :
    Settles rt policy port warnings s (.task i e) ↔ Undisturbed rt port warnings s (.task i e) := by
  constructor
  · intro settles jobId ending ends
    obtain ⟨scope, owner⟩ := ends.owner
    obtain ⟨state, found, alive⟩ := orderly.alive i jobId scope owner
    rw [found, Ending.allowed_iff alive]
    exact (settles_iff_of_concludes found (ends.concludes policy)).mp settles
  · intro undisturbed
    cases react_lives rt policy port s.service e (s.tasks i) with
    | goesOn on =>
      refine settles_of_quiet (fun id cancelled => ?_) on.quiet
      exact (congrFun on.states id).trans cancelled
    | @begins _ _ waiting lock _ _ states _ quiet =>
      obtain ⟨-, fresh⟩ := mayAcquire_creating admitted waiting lock
      refine settles_of_quiet (fun id cancelled => (congrFun states id).trans ?_) quiet
      rw [update_of_ne]
      · exact cancelled
      · rintro rfl
        rw [stateOf, fresh] at cancelled
        cases cancelled
    | @replays call id prior waiting lock stored idle same noted =>
      -- Nobody holds the lock of the key, so the job of its entry is settled.
      obtain ⟨free, -⟩ := mayAcquire_creating admitted waiting lock
      have final : Final warnings (s.service.stateOf prior.result) := by
        rcases orderly.known _ prior stored with ⟨j, owner⟩ | final
        · exact absurd (createLock_of_owns owner) (free j)
        · exact final
      have after : (step rt policy port s (.task i e)).service = s.service := same
      have passed : (notes rt policy port s (.task i e)).filterMap milestone? =
        [.replayed prior.result] := noted
      rw [settles_iff, passed, forall_mem_singleton, after]
      exact ⟨fun _ cancelled => cancelled, final⟩
    | @ends jobId ending scope owner ends concludes =>
      obtain ⟨_, found, alive⟩ := orderly.alive i jobId scope owner
      have allowed := undisturbed jobId ending ends
      rw [found, Ending.allowed_iff alive] at allowed
      exact (settles_iff_of_concludes found concludes).mpr allowed

theorem task_orderly (admitted : (system rt policy port).admits s (.task i e))
    (orderly : s.Orderly rt warnings) (settles : Settles rt policy port warnings s (.task i e)) :
    (step rt policy port s (.task i e)).Orderly rt warnings := by
  rw [State.Orderly, owns_step]
  cases react_lives rt policy port s.service e (s.tasks i) with
  | goesOn on =>
    have same : update (s.owns rt) i ((s.tasks i).job? rt) = s.owns rt :=
      update_eq_self i _
    simp only [step, on.job, on.states, on.entries, same]
    exact orderly
  | @begins _ _ waiting lock _ job states entries _ =>
    obtain ⟨-, fresh⟩ := mayAcquire_creating admitted waiting lock
    simp only [step, job, states, entries]
    refine Sales.Orderly.start orderly ?_ ?_ _
    · simp [State.owns, waiting, Task.job?]
    · simp [stateOf, fresh]
  | @replays _ _ _ waiting _ _ idle same _ =>
    have none : s.owns rt i = none := by simp [State.owns, waiting, Task.job?]
    simp only [step, idle, same, ← none, update_eq_self]
    exact orderly
  | @ends jobId ending scope owner ends concludes =>
    obtain ⟨_, found, -⟩ := orderly.alive i jobId scope owner
    have final := ((settles_iff_of_concludes found concludes).mp settles).2
    simp only [step, concludes.idle, concludes.states, concludes.entries, found, map_some]
    exact Sales.Orderly.finish orderly owner ⟨_, final, rfl⟩

end Steps

variable {rt policy port warnings} in
theorem settles_iff_undisturbed {s : State ι} (admitted : (system rt policy port).admits s e)
    (orderly : s.Orderly rt warnings) : Settles rt policy port warnings s e ↔
    Undisturbed rt port warnings s e := by
  cases e with
  | task i e => exact task_settles_iff admitted orderly
  | cancelJob jobId tenantId =>
    refine iff_of_true (settles_of_quiet (fun id cancelled => ?_) rfl) trivial
    rcases (cancelJob_cancels rt policy port s jobId tenantId).1 id with same | ⟨-, done⟩
    · exact same.trans cancelled
    · exact done

variable {rt policy port warnings} in
theorem step_orderly {s : State ι} (admitted : (system rt policy port).admits s e)
    (orderly : s.Orderly rt warnings) (settles : Settles rt policy port warnings s e) :
    (step rt policy port s e).Orderly rt warnings := by
  cases e with
  | task i e => exact task_orderly admitted orderly settles
  | cancelJob jobId tenantId =>
    obtain ⟨cancels, entries, tasks⟩ := cancelJob_cancels rt policy port s jobId tenantId
    have owns : (step rt policy port s (.cancelJob jobId tenantId)).owns rt = s.owns rt := by
      funext i
      rw [State.owns, tasks, State.owns]
    rw [State.Orderly, owns, entries]
    exact orderly.cancel cancels

omit [DecidableEq ι] in
theorem initial_orderly : (State.initial ι).Orderly rt warnings := by
  refine ⟨fun _ _ _ owner => ?_, fun _ _ _ _ _ owner => ?_, fun _ _ stored => ?_⟩
  · cases owner
  · cases owner
  · cases stored

/-- Cancelled jobs stay cancelled and jobs end in a final state exactly as long as no job that has
been cancelled comes to its end and no exception leaves the run of one that has not. -/
theorem jobs_settle_iff {es : List (Event ι ω)}
    (run : (system rt policy port).Run (.initial ι) es) :
    (system rt policy port).Along (Settles rt policy port warnings) (.initial ι) es ↔
      (system rt policy port).Along (Undisturbed rt port warnings) (.initial ι) es :=
  System.along_iff_of_kept (fun _ _ => settles_iff_undisturbed) (fun _ _ => step_orderly)
    (initial_orderly rt warnings) run

/-! ## Two jobs that do not settle -/

namespace Sample

/-- Pages are as the world has them, and every lookup takes too long. -/
def paging : OdooReadOnlyPort (Fallible (List LeadCandidate)) where
  lookup _ _ _ := .error .timeout
  verificationPage _ _ _ _ page := page

theorem batch_bounded : 1 ≤ 10 ∧ 10 ≤ 100 := by decide

def create : CreateCall :=
  ⟨⟨"tenant-a", none, 10, ⟨[], PythonValue.no_entries⟩, batch_bounded⟩, "key-1", "correlation-1"⟩

def repeated (page : Fallible (List LeadCandidate)) :
    List (Event Unit (Fallible (List LeadCandidate))) :=
  [.task () (.createJob create), .task () (.acquire 7), .task () (.answer (.world page) 0),
    .task () (.createJob create), .task () (.acquire 8)]

def listed : List (Event Unit (Fallible (List LeadCandidate))) :=
  [.task () (.createJob create), .task () (.acquire 7),
    .task () (.answer (.world (.ok [candidate "tenant-a" "Acme"])) 0),
    .task () (.acquire 9), .task () (.answer (.world (.ok [])) 0), .task () (.createJob create),
    .task () (.acquire 8)]

def cancelled : List (Event Unit (Fallible (List LeadCandidate))) :=
  [.task () (.createJob create), .task () (.acquire 7), .cancelJob 7 "tenant-a",
    .task () (.answer (.world (.ok [])) 0)]

abbrev jobs : System (State Unit) (Event Unit (Fallible (List LeadCandidate))) :=
  system runtime {} paging

end Sample

open Sample

/-- A page with one record, whose lookup takes too long: the job is completed, and returned when it
is asked for again. -/
theorem listed_job_settles : jobs.Run (.initial Unit) listed ∧
      jobs.Along (Settles runtime {} paging false) (.initial Unit) listed ∧
      (jobs.after (.initial Unit) listed).service.stateOf 7 = some .completed := by
  have run : jobs.Run (.initial Unit) listed :=
    ⟨trivial, ⟨fun _ => (some_ne_none _).symm, rfl⟩, trivial, ⟨fun _ => (some_ne_none _).symm, rfl⟩,
      trivial, trivial, ⟨fun _ => (some_ne_none _).symm, rfl⟩, trivial⟩
  have unowned {s : State Unit} {e : TaskEvent (Fallible (List LeadCandidate))}
      (none : s.owns runtime () = none) : Undisturbed runtime paging false s (.task () e) := by
    intro jobId ending ends
    obtain ⟨_, owner⟩ := ends.owner
    rw [State.owns, owner] at none
    cases none
  have paged {s : State Unit} (waiting : s.tasks () = .paging create 7) :
      Undisturbed runtime paging false s
      (.task () (.answer (.world (.ok [candidate "tenant-a" "Acme"])) 0)) := by
    intro jobId ending ends
    rw [waiting] at ends
    cases ends with
    | unavailable answered | failed answered | empty answered => cases answered
  have locked {s : State Unit} {call : ResolveCall}
    (waiting : s.tasks () = .verifying create 7 call .locking [])
      (new : s.service.resolveEntries (call.scope runtime) = none) :
      Undisturbed runtime paging false s (.task () (.acquire 9)) := by
    intro jobId ending ends
    rw [waiting] at ends
    cases ends with
    | raised raises =>
      cases raises with
      | conflicting stored => cases new.symm.trans stored
    | last completes =>
      cases completes with
      | replayed stored => cases new.symm.trans stored
  have looked {s : State Unit} {call : ResolveCall}
    (waiting : s.tasks () = .verifying create 7 call (.looking 9) [])
      (running : s.service.stateOf 7 = some .running) :
      Undisturbed runtime paging false s (.task () (.answer (.world (.ok [])) 0)) := by
    intro jobId ending ends
    rw [waiting] at ends
    cases ends with
    | raised raises =>
      cases raises with
      | failed answered uncaught =>
        cases answered
        cases uncaught
      | unreadable answered => cases answered
    | last =>
      rw [running, Ending.Allowed]
      decide
  refine ⟨run, (jobs_settle_iff runtime {} paging false run).mpr ?_, rfl⟩
  exact ⟨unowned rfl, unowned rfl, paged rfl, locked rfl rfl, looked rfl rfl, unowned rfl,
    unowned rfl, trivial⟩

/-- A cancelled job that is completed, and a job that stays in its state for good
and is returned so. -/
theorem cancelled_job_completed : (jobs.Run (.initial Unit) cancelled ∧
      (jobs.after (.initial Unit) (cancelled.take 3)).service.stateOf 7 = some .canceled ∧
      (jobs.after (.initial Unit) cancelled).service.stateOf 7 = some .completed ∧
      ¬jobs.Along (Settles runtime {} paging true) (.initial Unit) cancelled) ∧
    jobs.Run (.initial Unit) (repeated (.error .other)) ∧
      (jobs.after (.initial Unit) (repeated (.error .other))).log.head? = some (.returned 7 true) ∧
      (jobs.after (.initial Unit) (repeated (.error .other))).service.stateOf 7 =
      some .running := by
  refine ⟨⟨?_, rfl, rfl, ?_⟩, ?_, rfl, rfl⟩
  · exact ⟨trivial, ⟨fun _ => (some_ne_none _).symm, rfl⟩, trivial, trivial, trivial⟩
  · rintro ⟨_, _, _, last, _⟩
    cases last.cancelled 7 rfl
  · exact ⟨trivial, ⟨fun _ => (some_ne_none _).symm, rfl⟩, trivial, trivial,
      ⟨fun _ => (some_ne_none _).symm, rfl⟩, trivial⟩

/-! ## What `resolve` raises -/

section Texts

variable (lib : Library)

/-- There is no text, or one whose host `urlsplit` and IDNA can read. -/
def DomainText (value : Option String) : Prop := ∃ host, lib.normalizedDomain value = .ok host

/-- There is no text, or one with a user and a readable domain around its last `@`. -/
def EmailText (value : Option String) : Prop :=
  ∀ text ∈ truthy? value, ∃ user domain host, Library.rpartitionAt (lib.strip text) = some
    (user, domain) ∧ user ≠ "" ∧ domain ≠ "" ∧ lib.normalizedDomain (some domain) = .ok (some host)

/-- There is no text, or a valid telephone number that names its country or comes with one. -/
def PhoneText (value country : Option String) : Prop :=
  ∀ text ∈ truthy? value, ∃ parsed ∈ lib.parsePhone text country, parsed.isValid = true ∧
    ((text.toList.dropWhile lib.isSpace).head? = some '+' ∨ (truthy? country).isSome)

/-- The texts of the candidate, and of the records of its tenant, are usable. -/
structure Usable (candidate : LeadCandidate) (found : OdooLookup) : Prop where
  domain : DomainText lib ((truthy? candidate.company.domain).or candidate.company.websiteUrl)
  email : EmailText lib candidate.contact.businessEmail
  phone : PhoneText lib candidate.contact.businessPhone candidate.contact.countryCode
  domains : ∀ c ∈ found.companies, candidate.tenantId = c.tenantId → DomainText lib c.domain
  emails : ∀ c ∈ found.contacts, candidate.tenantId = c.tenantId → EmailText lib c.businessEmail
  phones : ∀ c ∈ found.contacts, candidate.tenantId = c.tenantId →
    PhoneText lib c.businessPhone c.countryCode

variable {lib} {value country : Option String}

theorem DomainText.registrable (text : DomainText lib value) :
    ∃ d, lib.registrableDomain value = .ok d := by
  obtain ⟨host, read⟩ := text
  unfold Library.registrableDomain
  rw [read]
  cases host <;> exact ⟨_, rfl⟩

theorem EmailText.normalized (text : EmailText lib value) :
    ∃ e, lib.normalizedEmail value = .ok e := by
  unfold Library.normalizedEmail
  cases given : truthy? value with
  | none => exact ⟨_, rfl⟩
  | some address =>
    obtain ⟨user, domain, host, parts, named, placed, read⟩ := text address given
    simp only [parts, Raising.check, named, placed, ne_eq, not_false_eq_true, and_self,
      if_true, read]
    exact ⟨_, rfl⟩

theorem PhoneText.normalized (text : PhoneText lib value country) :
    ∃ p, lib.normalizedPhone value country = .ok p := by
  unfold Library.normalizedPhone
  cases given : truthy? value with
  | none => exact ⟨_, rfl⟩
  | some number =>
    obtain ⟨parsed, parses, valid, placed⟩ := text number given
    have parses : lib.parsePhone number country = some parsed := parses
    simp only [parses, Raising.check, valid, placed, if_true]
    exact ⟨_, rfl⟩

theorem Usable.readable {rt : Runtime} {candidate : LeadCandidate} {found : OdooLookup}
    (usable : Usable rt.lib candidate found) : Readable rt candidate found := by
  constructor
  · intro c listed
    unfold companyMatch
    dsimp only
    split
    · exact ⟨_, rfl⟩
    next own =>
      split
      · exact ⟨_, rfl⟩
      · obtain ⟨d, given⟩ := usable.domain.registrable
        obtain ⟨d', stored⟩ := (usable.domains c listed (not_not.mp own)).registrable
        rw [given, stored]
        exact ⟨_, rfl⟩
  · intro c listed company
    unfold contactMatch
    dsimp only
    split
    · exact ⟨_, rfl⟩
    next own =>
      obtain ⟨e, email⟩ := usable.email.normalized
      obtain ⟨e', email'⟩ := (usable.emails c listed (not_not.mp own)).normalized
      obtain ⟨p, phone⟩ := usable.phone.normalized
      obtain ⟨p', phone'⟩ := (usable.phones c listed (not_not.mp own)).normalized
      obtain ⟨m, matched⟩ : ∃ m, emailMatch rt.lib candidate.contact c = .ok m := by
        unfold emailMatch
        split
        · obtain ⟨role, known⟩ : ∃ role, rt.lib.roleEmail candidate.contact.businessEmail =
              .ok role := by
            unfold Library.roleEmail
            rw [email]
            cases e <;> exact ⟨_, rfl⟩
          rw [email, email']
          change ∃ m, (if e = e' then _ else _ : Fallible (Option Match)) = .ok m
          split
          · rw [known]
            exact ⟨_, rfl⟩
          · exact ⟨_, rfl⟩
        · exact ⟨_, rfl⟩
      rw [matched, phone, phone']
      cases m <;> exact ⟨_, rfl⟩

end Texts

namespace Sample

def direct : OdooReadOnlyPort OdooLookup where
  lookup _ _ found := .ok found
  verificationPage _ _ _ _ _ := .ok []

def asked (key : String) : ResolveCall := ⟨candidate "tenant-a" "Acme", key, "correlation-1"⟩

end Sample

end CodestraMiddleware.Sales
