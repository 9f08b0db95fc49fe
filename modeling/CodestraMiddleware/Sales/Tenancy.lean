import CodestraMiddleware.Sales.Service

/-!
# Verification within a tenant

The registry adapter checks the tenant of a page and hands over its records as they are.
-/
namespace CodestraMiddleware.Sales

open Raising Transition Function Option Service Reaction RegistryOdooReadOnlyAdapter
open AiJobs (UUID)

/-- The candidate belongs to the tenant of a request, and to its campaign if it names one. -/
def Within (request : VerificationJobRequest) (candidate : LeadCandidate) : Prop :=
  candidate.tenantId = request.tenantId ∧ ∀ campaignId, request.campaignId = some campaignId →
    candidate.campaignId = campaignId

def Service.requestOf (s : Service) (id : UUID) : Option VerificationJobRequest :=
  (s.jobs id).map (·.request)

def Task.request? : Task → Option VerificationJobRequest
  | .paging call _ | .verifying call _ _ _ _ => some call.request
  | _ => none

abbrev Runtime.registry (rt : Runtime) (schemas : Schemas) : OdooReadOnlyPort Response :=
  port rt.lib schemas

section Steps

variable (rt : Runtime) (policy : MatchPolicy) (schemas : Schemas) {ι : Type} [DecidableEq ι]

/-- What a step counts or stores for a job is within the job's request. -/
structure Contains (s : State ι) (e : Event ι Response) : Prop where
  counted : ∀ jobId call resolution, .counted jobId call resolution ∈ notes rt policy
    (rt.registry schemas) s e →
    ∃ request, (step rt policy (rt.registry schemas) s e).service.requestOf jobId = some request ∧
    Within request call.candidate
  stored : ∀ i e' request, e = .task i e' → (s.tasks i).request? = some request →
    ∀ id candidate, (step rt policy (rt.registry schemas) s e).service.candidates
      id = some candidate → s.service.candidates id = some candidate ∨ Within request candidate

/-- The records of a page that arrives are within the request that it was asked for. -/
def Confined (s : State ι) : Event ι Response → Prop
  | .task i (.answer (.world (.document (.dict entries))) _) => ∀ call jobId,
      s.tasks i = .paging call jobId → ∀ records, sliced entries "records" call.request.batchSize =
      .ok records →
      ∀ v ∈ records, ∀ candidate, schemas.leadCandidate v = .ok candidate →
      Within call.request candidate
  | _ => True

end Steps

theorem inScope_eq_ok {response : Response} {failure : String}
    (ok : response.inScope tenantId failure = .ok entries) :
    response = .document (.dict entries) := by
  unfold Response.inScope at ok
  split at ok
  · cases ok
  · cases ok
  · split at ok
    · cases ok
      rfl
    · cases ok
  · cases ok

theorem verificationPage_eq_ok {response : Response}
    {candidates : List LeadCandidate}
    (ok : verificationPage schemas tenantId limit response = .ok candidates) :
    ∃ entries records, response = .document (.dict entries) ∧
    sliced entries "records" limit = .ok records ∧
      ∀ candidate ∈ candidates, ∃ v ∈ records, schemas.leadCandidate v = .ok candidate := by
  obtain ⟨-, -, ok⟩ := bind_eq_ok.mp ok
  obtain ⟨entries, answered, ok⟩ := bind_eq_ok.mp ok
  obtain ⟨records, taken, ok⟩ := bind_eq_ok.mp ok
  refine ⟨entries, records, inScope_eq_ok answered, taken, fun candidate listed => ?_⟩
  obtain ⟨v, member, read⟩ := (mem_of_mapM_eq_ok ok).2 candidate listed
  refine ⟨v, member, ?_⟩
  cases valid : schemas.leadCandidate v with
  | error text =>
    rw [valid] at read
    cases read
  | ok =>
    rw [valid] at read
    cases read
    rfl

def Task.Contained (requests : UUID → Option VerificationJobRequest) : Task → Prop
  | .paging call jobId => requests jobId = some call.request
  | .verifying call jobId resolve _ rest => requests jobId = some call.request ∧
      Within call.request resolve.candidate ∧ ∀ candidate ∈ rest, Within call.request candidate
  | _ => True

variable {task : Task}

theorem Task.Contained.mono (contained : task.Contained requests)
    (kept : ∀ id request, requests id = some request → requests' id = some request) :
    task.Contained requests' := by
  cases task with
  | paging => exact kept _ _ contained
  | verifying => exact ⟨kept _ _ contained.1, contained.2⟩
  | _ => trivial

structure Reaction.Contained (s : Service) (task : Task) (r : Reaction) : Prop where
  kept : ∀ id request, s.requestOf id = some request → r.service.requestOf id = some request
  work : r.task.Contained r.service.requestOf
  counted : ∀ jobId call resolution, .counted jobId call resolution ∈ r.notes →
    ∃ request, r.service.requestOf jobId = some request ∧ Within request call.candidate
  stored : ∀ request, task.request? = some request → ∀ id candidate,
    r.service.candidates id = some candidate → s.candidates id = some candidate ∨
    Within request candidate

theorem requestOf_updateJob {s : Service} {id : UUID} (change : VerificationJob → VerificationJob)
    (same : ∀ job, (change job).request = job.request) :
    (s.updateJob id change).requestOf = s.requestOf := by
  refine (comp_update (Option.map (·.request)) s.jobs id _).trans
    (update_eq_iff.mpr ⟨?_, fun _ _ => rfl⟩)
  simp [comp_def, same]

variable {jobId : UUID} {s' : Service} {call : CreateCall}

section Reactions

variable {rt : Runtime} {policy : MatchPolicy} {schemas : Schemas} {s : Service}

theorem Reaction.contained_of_same {r : Reaction} (jobs : r.service.jobs = s.jobs)
    (candidates : task.request? = none ∨ r.service.candidates = s.candidates)
    (work : r.task.Contained s.requestOf)
    (quiet : ∀ jobId call resolution, .counted jobId call resolution ∉ r.notes) :
    r.Contained s task := by
  have requests : r.service.requestOf = s.requestOf := by
    funext id
    rw [requestOf, jobs, requestOf]
  refine ⟨fun id request found => requests ▸ found, requests ▸ work,
    fun jobId call resolution there => absurd there (quiet jobId call resolution),
    fun request running id candidate found => .inl ?_⟩
  rcases candidates with idle | same
  · rw [idle] at running
    cases running
  · exact same ▸ found

theorem advance_contained {notes : List Note} {candidates : List LeadCandidate}
    (requests : s'.requestOf = s.requestOf) (job : s.requestOf jobId = some call.request)
    (within : ∀ candidate ∈ candidates, Within call.request candidate)
    (counted : ∀ jobId' call' resolution, .counted jobId' call' resolution ∈ notes →
      jobId' = jobId ∧ Within call.request call'.candidate)
      (stored : ∀ request, task.request? = some request → ∀ id candidate,
      s'.candidates id = some candidate → s.candidates id = some candidate ∨
      Within request candidate) :
    (advance call jobId candidates s' notes).Contained s task := by
  cases candidates with
  | nil =>
    have same : (s'.updateJob jobId fun job => { job with state := .completed }).requestOf =
        s.requestOf := by
      rw [← requests]
      exact requestOf_updateJob _ fun _ => rfl
    refine ⟨fun id request found => same ▸ found, trivial,
      fun jobId' call' resolution there => ?_, stored⟩
    simp at there
    obtain ⟨rfl, within⟩ := counted jobId' call' resolution there
    exact ⟨call.request, same ▸ job, within⟩
  | cons candidate rest =>
    obtain ⟨first, rest⟩ := List.forall_mem_cons.mp within
    rw [advance_cons]
    refine ⟨fun id request found => requests ▸ found, ⟨requests ▸ job, first, rest⟩,
      fun jobId' call' resolution there => ?_, stored⟩
    obtain ⟨rfl, within⟩ := counted jobId' call' resolution there
    exact ⟨call.request, requests ▸ job, within⟩

theorem Returns.candidates {call : ResolveCall}
    (returns : Returns rt policy call s resolution basis s') {id : UUID}
    (found : s'.candidates id = some candidate) : s.candidates id = some candidate ∨
    candidate = call.candidate := by
  cases returns with
  | replayed => exact .inl found
  | unavailable | resolved =>
    simp only [store, update_apply] at found
    split at found
    · cases found
      exact .inr rfl
    · exact .inl found

theorem enterCreate_contained (call : CreateCall) (fresh : s.jobs jobId = none) :
    (enterCreate rt call jobId s).Contained s (.creating call) := by
  unfold enterCreate
  split
  · split <;> exact contained_of_same rfl (.inl rfl) trivial (by simp)
  · refine ⟨fun id request found => ?_, ?_, by simp, by simp [Task.request?]⟩
    · have other : id ≠ jobId := by
        rintro rfl
        rw [requestOf, fresh] at found
        cases found
      simp only [requestOf, update_of_ne other]
      exact found
    · simp [Task.Contained, requestOf]

theorem enterPage_contained {page : Fallible (List LeadCandidate)}
    (job : s.requestOf jobId = some call.request)
    (within : ∀ candidates, page = .ok candidates → ∀ c ∈ candidates, Within call.request c) :
    (enterPage call jobId page s).Contained s (.paging call jobId) := by
  unfold enterPage
  split
  next exc =>
    split
    · have same : (s.updateJob jobId .warn).requestOf = s.requestOf :=
        requestOf_updateJob _ fun _ => rfl
      exact ⟨fun id request found => same ▸ found, trivial, by simp, fun _ _ _ _ => .inl⟩
    · exact contained_of_same rfl (.inr rfl) trivial (by simp [leave])
  next candidates =>
    refine advance_contained ?_ job (within candidates rfl) (by simp) fun _ _ _ _ => .inl
    exact requestOf_updateJob _ fun _ => rfl

theorem counts_contained {phase : Phase} (returns : Returns rt policy resolve s resolution basis s')
    (work : (Task.verifying call jobId resolve phase rest).Contained s.requestOf) :
    (counts call jobId resolve rest resolution basis s').Contained s
    (.verifying call jobId resolve phase rest) := by
  obtain ⟨job, first, rest⟩ := work
  have requests : (s'.updateJob jobId (.count resolution)).requestOf = s.requestOf := by
    rw [requestOf_updateJob (.count resolution) fun _ => rfl]
    funext id
    rw [requestOf, returns.jobs.1, requestOf]
  refine advance_contained requests job rest ?_ ?_
  · intro jobId' call' resolution' there
    simp only [List.mem_cons, reduceCtorEq, Note.counted.injEq, List.not_mem_nil, or_false,
      false_or] at there
    obtain ⟨rfl, rfl, -⟩ := there
    exact ⟨rfl, first⟩
  · rintro request ⟨⟩ id candidate found
    rcases returns.candidates found with before | rfl
    · exact .inl before
    · exact .inr first

variable (rt policy schemas) in
theorem react_contained {e : TaskEvent Response} (work : task.Contained s.requestOf)
    (fresh : ∀ call jobId, task = .creating call → e = .acquire jobId → s.jobs jobId = none)
    (within : ∀ call jobId awaited reviewId candidates, task = .paging call jobId →
      e = .answer awaited reviewId →
      pageOf (rt.registry schemas) call awaited = .ok candidates →
      ∀ c ∈ candidates, Within call.request c) :
    (task.react rt policy (rt.registry schemas) s e).Contained s task := by
  have unchanged {task : Task} (work : task.Contained s.requestOf) :
      Contained s task ⟨s, task, []⟩ :=
    contained_of_same rfl (.inr rfl) work (by simp)
  have left (jobId : UUID) (exc : Exc) {task : Task} : (leave jobId exc s []).Contained s task :=
    contained_of_same rfl (.inr rfl) trivial (by simp [leave])
  unfold Task.react
  split
  next =>
    split <;> exact contained_of_same rfl (.inl rfl) trivial (by simp)
  next =>
    split
    next => exact contained_of_same rfl (.inl rfl) trivial (by simp)
    next returned =>
      have returns := resumeResolve_returns rt policy _ returned
      exact contained_of_same returns.jobs.1 (.inl rfl) trivial (by simp)
    next => exact contained_of_same rfl (.inl rfl) trivial (by simp)
  next => exact contained_of_same rfl (.inl rfl) trivial (by simp)
  next => exact enterCreate_contained _ (fresh _ _ rfl rfl)
  next => exact contained_of_same rfl (.inl rfl) trivial (by simp)
  next => exact enterPage_contained work fun candidates => within _ _ _ _ candidates rfl rfl
  next => exact left _ _
  next =>
    split
    next => exact contained_of_same rfl (.inr rfl) work (by simp)
    next returned => exact counts_contained (resumeResolve_returns rt policy _ returned) work
    next => exact left _ _
  next => exact unchanged work

end Reactions

section Runs

variable (rt : Runtime) (policy : MatchPolicy) (schemas : Schemas) {ι : Type} [DecidableEq ι]

def State.Contained (s : State ι) : Prop := ∀ i, (s.tasks i).Contained s.service.requestOf

variable {rt policy schemas} {s : State ι}

theorem task_contained {e : TaskEvent Response}
    (admitted : (system rt policy (rt.registry schemas)).admits s (.task i e))
    (confined : Confined schemas s (.task i e)) (contained : s.Contained) :
    ((s.tasks i).react rt policy (rt.registry schemas) s.service e).Contained s.service
    (s.tasks i) := by
  refine react_contained rt policy schemas (contained i) ?_ ?_
  · rintro call jobId waiting rfl
    simp only [system, waiting] at admitted
    exact admitted.2
  · rintro call jobId awaited reviewId candidates waiting rfl answered candidate listed
    cases awaited with
    | timedOut => cases answered
    | world response =>
      obtain ⟨_, records, rfl, taken, read⟩ := verificationPage_eq_ok answered
      obtain ⟨v, member, valid⟩ := read candidate listed
      exact confined call jobId waiting records taken v member candidate valid

theorem step_contained {e : Event ι Response}
    (admitted : (system rt policy (rt.registry schemas)).admits s e)
    (confined : Confined schemas s e) (contained : s.Contained) :
    (step rt policy (rt.registry schemas) s e).Contained := by
  cases e with
  | task i e =>
    have reaction := task_contained admitted confined contained
    intro j
    by_cases here : j = i
    · cases here
      simp only [step, update_self]
      exact reaction.work
    · simp only [step, update_of_ne here]
      exact (contained j).mono reaction.kept
  | cancelJob jobId tenantId =>
    rcases step_cancelJob rt policy (rt.registry schemas) s jobId tenantId with same | changed
    · rw [same]
      exact contained
    · have requests : (s.service.updateJob jobId .cancel).requestOf = s.service.requestOf := by
        refine requestOf_updateJob _ fun job => ?_
        unfold VerificationJob.cancel
        split <;> rfl
      rw [changed]
      intro i
      rw [requests]
      exact contained i

theorem step_contains (admitted : (system rt policy (rt.registry schemas)).admits s e)
    (confined : Confined schemas s e) (contained : s.Contained) :
    Contains rt policy schemas s e := by
  cases e with
  | task i e =>
    have reaction := task_contained admitted confined contained
    refine ⟨reaction.counted, ?_⟩
    rintro _ _ request ⟨⟩ running
    exact reaction.stored request running
  | cancelJob =>
    refine ⟨fun _ _ _ there => ?_, fun _ _ _ other => ?_⟩
    · cases there
    · cases other

variable (rt policy schemas) in
/-- While the records are of the tenant that asks, a job counts and stores only its own leads. -/
theorem verification_contained {es : List (Event ι Response)}
    (run : (system rt policy (rt.registry schemas)).Run (.initial ι) es)
    (confined : (system rt policy (rt.registry schemas)).Along (Confined schemas) (.initial ι) es) :
    (system rt policy (rt.registry schemas)).Along (Contains rt policy schemas)
    (.initial ι) es := by
  have start : (State.initial ι).Contained := fun _ => trivial
  have meets := (System.along_and _ _ _ _ _).mpr ⟨run, confined⟩
  refine System.along_of_along ?_ ?_ start meets
  · exact fun _ _ meets => step_contained meets.1 meets.2
  · exact fun _ _ meets => step_contains meets.1 meets.2

end Runs

namespace Sample

def schemas : Schemas where
  leadCandidate
    | .dict (("schema_version", .str "codestra.sales.lead-candidate.v1") ::
        ("tenant_id", .str tenantId) ::
        ("campaign_id", .str "autumn") :: ("source", .dict _) :: ("company", .dict _) :: []) =>
      .ok (candidate tenantId "Acme")
    | _ => .error "1 validation error for LeadCandidate"
  odooCompany _ := none
  odooContact _ := none
  complianceSnapshot _ := none

theorem batch_bounded_one : 1 ≤ 1 ∧ 1 ≤ 100 := by decide

def verify : CreateCall :=
  ⟨⟨"tenant-a", some "autumn", 1, ⟨[], PythonValue.no_entries⟩, batch_bounded_one⟩, "key-1",
    "correlation-1"⟩

def leadRecord (tenantId : String) : PythonValue.Value :=
  .dict [("schema_version", .str "codestra.sales.lead-candidate.v1"), ("tenant_id", .str tenantId),
    ("campaign_id", .str "autumn"), ("source", .dict [("provider", .str "self_hosted_scraper"),
      ("job_id", .str "scrape-1"),
      ("request_id", .str "request-1"), ("collected_at", .str "2026-01-01T00:00:00Z")]),
    ("company", .dict [("name", .str "Acme"), ("country_code", .str "DO")])]

def page (tenantId : String) : Response :=
  .document (.dict [("tenant_id", .str "tenant-a"), ("records", .list [leadRecord tenantId])])

def verified (tenantId : String) : List (Event Unit Response) :=
  [.task () (.createJob verify), .task () (.acquire 7),
    .task () (.answer (.world (page tenantId)) 0),
    .task () (.acquire 1), .task () (.answer (.world .failed) 0)]

abbrev verification : System (State Unit) (Event Unit Response) :=
  system runtime {} (runtime.registry schemas)

end Sample

open Sample

theorem own_record_contained : verification.Run (.initial Unit) (verified "tenant-a") ∧
      verification.Along (Confined schemas) (.initial Unit) (verified "tenant-a") ∧
      verification.Along (Contains runtime {} schemas) (.initial Unit) (verified "tenant-a") := by
  have confined : verification.Along (Confined schemas) (.initial Unit) (verified "tenant-a") := by
    refine ⟨trivial, trivial, ?_, trivial, trivial, trivial⟩
    rintro call jobId ⟨⟩ records ⟨⟩ v member candidate valid
    cases List.mem_singleton.mp member
    cases valid
    exact ⟨rfl, fun campaignId named => some_inj.mp named⟩
  have run : verification.Run (.initial Unit) (verified "tenant-a") :=
    ⟨trivial, ⟨fun _ => (some_ne_none _).symm, rfl⟩, trivial, ⟨fun _ => (some_ne_none _).symm, rfl⟩,
      trivial, trivial⟩
  exact ⟨run, confined, verification_contained runtime {} schemas run confined⟩

/-- A record of `tenant-b` is stored and counted by a job of `tenant-a`. -/
theorem foreign_record_counted : verification.Run (.initial Unit) (verified "tenant-b") ∧
      ((verification.after (.initial Unit) (verified "tenant-b")).log.any fun
        | .counted jobId call _ => jobId = 7 && call.candidate.tenantId = "tenant-b"
        | _ => false) = true ∧
      ((verification.after (.initial Unit) (verified "tenant-b")).service.candidates 1).map
      (·.tenantId) = some "tenant-b" ∧
      (verification.after (.initial Unit) (verified "tenant-b")).service.requestOf 7 =
      some verify.request ∧
      ¬verification.Along (Contains runtime {} schemas) (.initial Unit) (verified "tenant-b") := by
  refine ⟨?_, rfl, rfl, rfl, ?_⟩
  · exact ⟨trivial, ⟨fun _ => (some_ne_none _).symm, rfl⟩, trivial,
      ⟨fun _ => (some_ne_none _).symm, rfl⟩, trivial, trivial⟩
  · rintro ⟨_, _, _, _, last, _⟩
    rcases last.stored () _ verify.request rfl rfl 1 (candidate "tenant-b" "Acme") rfl with
      before | within
    · cases before
    · exact absurd within.1 (by decide)

end CodestraMiddleware.Sales
