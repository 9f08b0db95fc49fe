import CodestraMiddleware.Registry.Resolver

/-!
# How old a served route can be

The database's query is the only place where a version's expiry, its `enabled` flag and its kill
switch are read. What it answers lives in Redis for one lifetime, and whoever reads it there keeps
it for another.
-/
namespace CodestraMiddleware.Registry

open AiJobs (UUID UUID.text)
open Caches (get_hit get_miss)
open State (act)
open Telephony (seconds)
open Transition Function

/-- The version is in the registry, enabled and not stopped by its kill switch. -/
def Tables.Offers (t : Tables) (e : ResolvedEndpoint) : Prop :=
  ∃ version ∈ t.versions, version.endpointVersionId.text = e.endpointVersionId ∧
    version.enabled = true ∧ version.killSwitch = false

variable {now : Int} {request : ResolutionRequest}

theorem Tables.offers_of_mem_rows {t : Tables} (selected : row ∈ t.rows request now)
    (generation : Int) : t.Offers (row.resolved generation) := by
  obtain ⟨stored, active⟩ := Tables.mem_rows selected
  simp only [IntegrationEndpointVersion.active, Bool.and_eq_true, Bool.not_eq_true'] at active
  obtain ⟨⟨⟨enabled, running⟩, -⟩, -⟩ := active
  exact ⟨row.version, stored, rfl, enabled, running⟩

theorem seconds_nonneg (n : Nat) : 0 ≤ seconds n := by
  unfold seconds
  omega

variable {cfg : Config} {ι τ : Type}

section

variable (s : State cfg ι τ)

def State.OfferedAt (e : ResolvedEndpoint) (instant : Int) : Prop :=
  ∃ t, (instant, t) ∈ s.past ∧ t.Offers e

/-- No call returned a route after its expiry. -/
def Unexpired : Prop :=
  ∀ call request e now, s.calls call = .returned request e now →
    ∀ expiry, e.expiresAt = some expiry → now < expiry

/-- Every endpoint returned to a mutation was on offer within the two lifetimes before. -/
def MutationsCurrent : Prop :=
  ∀ call request e now, s.calls call = .returned request e now → request.mutation = true →
    ∃ instant, now - (seconds cfg.l1TtlSeconds + seconds cfg.l2TtlSeconds) ≤ instant ∧
    s.OfferedAt e instant

def Stage.since? : Stage ι → Option Int
  | .querying _ _ since | .storing _ _ since _ | .reading _ _ since => some since
  | .idle | .returned .. | .denied .. => none

/-- A call that goes on does so within `latency` of its beginning. -/
def Prompt (latency : Nat) (s : State cfg ι τ) (event : Event ι τ) : Prop :=
  match event.action with
  | .resume call _ => ∀ since ∈ (s.calls call).since?, s.clock + event.elapsed ≤ since + latency
  | _ => True

instance (latency : Nat) (s : State cfg ι τ) : ∀ event, Decidable (Prompt latency s event)
  | ⟨_, .resume call _⟩ => inferInstanceAs (Decidable (∀ since ∈ (s.calls call).since?, _))
  | ⟨_, .change _⟩ | ⟨_, .evict _⟩ | ⟨_, .call ..⟩ => isTrue trivial

/-- `K` is known, at the time, of every route from which the query can choose. -/
def Answers (K : Int → ResolvedEndpoint → Prop) (s : State cfg ι τ) (event : Event ι τ) : Prop :=
  match event.action with
  | .resume call true =>
    match s.calls call with
    | .querying _ request since => ∀ row ∈ s.tables.rows request since, ∀ generation,
        K (s.clock + event.elapsed) (row.resolved generation)
    | _ => True
  | _ => True

theorem answers_true (event : Event ι τ) : Answers (fun _ _ => True) s event := by
  unfold Answers
  split
  · split
    · intro _ _ _
      trivial
    · trivial
  · trivial

end

/-- The endpoint does not expire within `span`. -/
def Outlives (span : Int) (instant : Int) (e : ResolvedEndpoint) : Prop :=
  ∀ expiry, e.expiresAt = some expiry → instant + span < expiry

theorem answers_outlives {s : State cfg ι τ} (endless : ∀ v ∈ s.tables.versions, v.expiresAt = none)
    (span : Int) (event : Event ι τ) : Answers (Outlives span) s event := by
  unfold Answers
  split
  · split
    · intro row selected generation expiry expires
      have stored := (Tables.mem_rows selected).1
      have never := endless row.version stored
      rw [show row.version.expiresAt = some expiry from expires] at never
      cases never
    · trivial
  · trivial

/-! ## From the query to the caches -/

section Dated

variable (K : Int → ResolvedEndpoint → Prop) (latency : Nat)

section

variable (s : State cfg ι τ)

def State.Sourced (instant : Int) (e : ResolvedEndpoint) : Prop :=
  s.OfferedAt e instant ∧ K instant e

/-- Everything in the caches comes from a query not too long before it expires. -/
structure CachesDated (s : State cfg ι τ) (c : Caches cfg) : Prop where
  l1 : ∀ entry ∈ c.l1.entries, ∃ instant, s.Sourced K instant entry.2.endpoint ∧
    entry.2.expiresMonotonic ≤
      instant + latency + seconds cfg.l1TtlSeconds + seconds cfg.l2TtlSeconds
  redis : ∀ key stored, c.redis key = some stored →
    ∃ instant, s.Sourced K instant stored.envelope.resolvedEndpoint ∧
      stored.expiry ≤ instant + latency + seconds cfg.l2TtlSeconds

/-- What is new in the process's own cache lives from `now`. -/
def Refilled (now : Int) (c c' : Caches cfg) : Prop :=
  ∀ entry ∈ c'.l1.entries, entry ∈ c.l1.entries ∨
    now + seconds cfg.l1TtlSeconds ≤ entry.2.expiresMonotonic

/-- A call that has missed its entry can only find a younger one. -/
def Missed (p : ι) (request : ResolutionRequest) (since : Int) : Prop :=
  since ≤ s.clock ∧ ∀ entry ∈ (s.l1 p).entries, entry.1 = request.cacheHash cfg →
    since + seconds cfg.l1TtlSeconds ≤ entry.2.expiresMonotonic

/-- The endpoint answered a query that is not older than the caches allow. -/
def Served (e : ResolvedEndpoint) (now : Int) : Prop :=
  ∃ instant, s.Sourced K instant e ∧ now ≤ instant + seconds cfg.l1TtlSeconds + seconds
    cfg.l2TtlSeconds + 2 * latency

def StageDated : Stage ι → Prop
  | .idle | .denied .. => True
  | .querying p request since | .reading p request since => Missed s p request since
  | .storing _ _ since e => since ≤ s.clock ∧ ∃ instant, s.Sourced K instant e ∧ since ≤ instant
  | .returned _ e now => Served K latency s e now

end

structure Dated (s : State cfg ι τ) : Prop where
  caches : ∀ p, CachesDated K latency s (s.caches p)
  stages : ∀ call, StageDated K latency s (s.calls call)

end Dated

variable {e : ResolvedEndpoint} {instant since : Int}

section Caches

variable {K : Int → ResolvedEndpoint → Prop} {latency : Nat} {s : State cfg ι τ} {c : Caches cfg}

theorem Caches.get_entries (c : Caches cfg) (request : ResolutionRequest) (now : Int)
    (allowStale : Bool) : (c.get request now allowStale).1.redis = c.redis ∧
      ∀ entry ∈ (c.get request now allowStale).1.l1.entries, entry ∈ c.l1.entries := by
  cases found : c.get request now allowStale with
  | mk c' hit =>
    cases hit with
    | some e =>
      obtain ⟨_, -, -, -, rfl⟩ := get_hit found
      exact ⟨rfl, fun _ held => Recency.mem_moveToEnd held⟩
    | none =>
      obtain ⟨redis, -, entries⟩ := get_miss found
      exact ⟨redis, entries⟩

section

variable (dated : CachesDated K latency s c)

include dated

theorem CachesDated.get (request : ResolutionRequest) (now : Int)
    (allowStale : Bool) : CachesDated K latency s (c.get request now allowStale).1 := by
  obtain ⟨redis, entries⟩ := c.get_entries request now allowStale
  constructor
  · intro entry held
    exact dated.l1 entry (entries entry held)
  · rw [redis]
    exact dated.redis

theorem CachesDated.putL1 (request : ResolutionRequest)
    (sourced : s.Sourced K instant e) (young : now ≤ instant + latency + seconds cfg.l2TtlSeconds) :
    CachesDated K latency s (c.putL1 request e now) := by
  constructor
  · intro entry held
    rcases Recency.mem_put held with rfl | ⟨old, -⟩
    · refine ⟨instant, sourced, ?_⟩
      dsimp only
      omega
    · exact dated.l1 entry old
  · exact dated.redis

theorem CachesDated.put (process : Process)
    (request : ResolutionRequest) (available : Bool) (sourced : s.Sourced K instant e)
    (young : now ≤ instant + latency) :
    CachesDated K latency s (c.put process request e now available) := by
  unfold Caches.put
  split
  · have younger : now ≤ instant + latency + seconds cfg.l2TtlSeconds := by
      have nonneg := seconds_nonneg cfg.l2TtlSeconds
      omega
    apply CachesDated.putL1 _ request sourced younger
    refine ⟨dated.l1, ?_⟩
    intro key stored held
    dsimp only at held
    by_cases same : key = request.key cfg e.registryGeneration
    · -- The key is written over, whatever was stored there.
      subst same
      rw [update_self] at held
      cases held
      refine ⟨instant, sourced, ?_⟩
      dsimp only
      omega
    · rw [update_of_ne same] at held
      exact dated.redis key stored held
  · exact dated

end

theorem refilled_putL1 (c : Caches cfg) (request : ResolutionRequest) (e : ResolvedEndpoint)
    (now : Int) : Refilled now c (c.putL1 request e now) := by
  intro entry held
  rcases Recency.mem_put held with rfl | ⟨old, -⟩
  · exact Or.inr (le_refl _)
  · exact Or.inl old

theorem refilled_put (c : Caches cfg) (process : Process) (request : ResolutionRequest)
    (e : ResolvedEndpoint) (now : Int) (available : Bool) :
    Refilled now c (c.put process request e now available) := by
  unfold Caches.put
  split
  · exact refilled_putL1 _ request e now
  · exact fun entry held => Or.inl held

theorem stored?_eq_some (found : c.stored? key now = some envelope) :
    ∃ stored, c.redis key = some stored ∧ stored.envelope = envelope ∧ now ≤ stored.expiry := by
  unfold Caches.stored? at found
  split at found
  next stored held =>
    split at found
    next alive =>
      cases found
      exact ⟨stored, held, rfl, alive⟩
    · cases found
  · cases found

section

variable (dated : CachesDated K latency s c)

include dated

theorem CachesDated.getL2 (read : c.getL2 process request now = .ok (c', hit)) :
    CachesDated K latency s c' ∧ Refilled now c c' ∧ ∀ e ∈ hit, Served K latency s e now := by
  unfold Caches.getL2 at read
  split at read
  · cases read
    refine ⟨dated, fun _ held => Or.inl held, ?_⟩
    rintro e ⟨⟩
  next envelope found =>
    split at read
    · cases read
      obtain ⟨stored, held, rfl, _⟩ := stored?_eq_some found
      obtain ⟨instant, sourced, _⟩ := dated.redis _ stored held
      -- Read at the end of its lifetime in Redis, it has a whole one in the process ahead of it.
      refine ⟨dated.putL1 request sourced (by omega), refilled_putL1 c request _ now, ?_⟩
      rintro e ⟨⟩
      refine ⟨instant, sourced, ?_⟩
      have := seconds_nonneg cfg.l1TtlSeconds
      omega
    · cases read

theorem CachesDated.served (held : entry ∈ c.l1.entries)
    (young : now ≤ entry.2.expiresMonotonic + latency) :
    Served K latency s entry.2.endpoint now := by
  obtain ⟨instant, sourced, _⟩ := dated.l1 entry held
  exact ⟨instant, sourced, by omega⟩

theorem CachesDated.read {redis : Bool}
    (read : (if redis then c.getL2 process request now else .ok (c, none)) = .ok (c', hit)) :
    CachesDated K latency s c' ∧ Refilled now c c' ∧ ∀ e ∈ hit, Served K latency s e now := by
  cases redis with
  | true => exact dated.getL2 read
  | false =>
    cases read
    refine ⟨dated, fun _ held => Or.inl held, ?_⟩
    rintro e ⟨⟩

/-- A call that has missed its entry and is prompt finds nothing too old, stale or not. -/
theorem CachesDated.fallBack (process : Process) (redis : Bool)
    (missed : ∀ entry ∈ c.l1.entries, entry.1 = request.cacheHash cfg →
      since + seconds cfg.l1TtlSeconds ≤ entry.2.expiresMonotonic)
    (prompt : now ≤ since + latency) : let outcome := fallBack cfg process request now redis c
    CachesDated K latency s outcome.1 ∧ Refilled now c outcome.1 ∧
      ∀ e, outcome.2 = .ok e → Served K latency s e now := by
  unfold Registry.fallBack
  split
  · refine ⟨dated, fun _ held => Or.inl held, ?_⟩
    rintro e ⟨⟩
  next c' endpoint read =>
    obtain ⟨caches, refilled, served⟩ := dated.read read
    refine ⟨caches, refilled, ?_⟩
    rintro e ⟨⟩
    exact served endpoint rfl
  next c' read =>
    obtain ⟨caches, refilled, -⟩ := dated.read read
    have again := caches.get request now !request.mutation
    have fewer := (c'.get_entries request now !request.mutation).2
    cases second : c'.get request now !request.mutation with
    | mk c'' hit =>
      rw [second] at again fewer
      refine ⟨?_, ?_, ?_⟩
      · cases hit <;> exact again
      · cases hit <;> exact fun entry held => refilled entry (fewer entry held)
      · intro e returned
        cases hit with
        | none => cases returned
        | some stale =>
          cases returned
          obtain ⟨_, found, rfl, -⟩ := get_hit second
          have held := Recency.find?_mem found
          have nonneg := seconds_nonneg cfg.l1TtlSeconds
          apply caches.served held
          -- Whether it was there when the call missed or came since, it is younger than the call.
          rcases refilled _ held with old | young
          · have younger := missed _ old rfl
            omega
          · dsimp only at young ⊢
            omega

end

end Caches

variable {s' : State cfg ι τ}

section Steps

variable {K : Int → ResolvedEndpoint → Prop} {latency : Nat} {s : State cfg ι τ}

theorem State.Sourced.mono (past : s.past ⊆ s'.past) (sourced : s.Sourced K instant e) :
    s'.Sourced K instant e := by
  obtain ⟨⟨t, seen, offers⟩, known⟩ := sourced
  exact ⟨⟨t, past seen, offers⟩, known⟩

theorem CachesDated.mono (past : s.past ⊆ s'.past) (dated : CachesDated K latency s c) :
    CachesDated K latency s' c := by
  constructor
  · intro entry held
    obtain ⟨instant, sourced, expires⟩ := dated.l1 entry held
    exact ⟨instant, sourced.mono past, expires⟩
  · intro key stored held
    obtain ⟨instant, sourced, expires⟩ := dated.redis key stored held
    exact ⟨instant, sourced.mono past, expires⟩

theorem StageDated.mono (later : s.clock ≤ s'.clock) (past : s.past ⊆ s'.past)
    (missed : ∀ p request since, Missed s p request since → Missed s' p request since)
    (dated : StageDated K latency s stage) : StageDated K latency s' stage := by
  cases stage with
  | idle | denied => trivial
  | querying p request since | reading p request since => exact missed p request since dated
  | storing =>
    obtain ⟨began, instant, sourced, queried⟩ := dated
    exact ⟨began.trans later, instant, sourced.mono past, queried⟩
  | returned =>
    obtain ⟨instant, sourced, young⟩ := dated
    exact ⟨instant, sourced.mono past, young⟩

theorem Dated.tick (dated : Dated K latency s) (elapsed : Nat) :
    Dated K latency (s.tick elapsed) := by
  have later : s.clock ≤ (s.tick elapsed).clock := by
    simp only [State.tick]
    omega
  have past : s.past ⊆ (s.tick elapsed).past := List.subset_append_left _ _
  constructor
  · intro p
    exact (dated.caches p).mono past
  · intro call
    apply (dated.stages call).mono later past
    intro p request since missed
    exact ⟨missed.1.trans later, missed.2⟩

theorem answered_dated (clock : s'.clock = s.clock) (past : s'.past = s.past) (process : Process)
    (p : ι) (began : since ≤ s.clock) (seen : (s.clock, s.tables) ∈ s.past)
    (answers : ∀ row ∈ s.tables.rows request since, ∀ generation, K s.clock
      (row.resolved generation)) :
    StageDated K latency s' (s.answered process p request since) := by
  unfold State.answered
  split
  · trivial
  · trivial
  next endpoint rest answer =>
    obtain ⟨row, selected, rfl⟩ := candidates_mem answer List.mem_cons_self
    have offers := Tables.offers_of_mem_rows selected process.repositoryGeneration
    refine ⟨clock ▸ began, s.clock, ⟨⟨s.tables, ?_, offers⟩, answers row selected _⟩, began⟩
    rw [past]
    exact seen

variable [DecidableEq ι] [DecidableEq τ]

theorem Missed.settle (missed : Missed s p request since) (call : τ) (stage : Stage ι)
    (refilled : Refilled s.clock (s.caches p') c) :
    Missed (s.settle call p' c stage) p request since := by
  refine ⟨missed.1, ?_⟩
  intro entry held same
  by_cases own : p = p'
  · subst own
    simp only [State.settle, update_self] at held
    rcases refilled entry held with old | young
    · exact missed.2 entry old same
    · -- Another call of the process has filled the entry since this one began.
      have began := missed.1
      omega
  · simp only [State.settle, update_of_ne own] at held
    exact missed.2 entry held same

section

variable (dated : Dated K latency s)

include dated

theorem Dated.settle (call : τ) (caches : CachesDated K latency s c)
    (refilled : Refilled s.clock (s.caches p) c)
    (next : StageDated K latency (s.settle call p c stage) stage) :
    Dated K latency (s.settle call p c stage) := by
  constructor
  · intro p'
    constructor
    · intro entry held
      by_cases own : p' = p
      · subst own
        simp only [State.caches, State.settle, update_self] at held
        exact caches.l1 entry held
      · simp only [State.caches, State.settle, update_of_ne own] at held
        exact (dated.caches p').l1 entry held
    · exact caches.redis
  · intro call'
    by_cases own : call' = call
    · subst own
      simp only [State.settle, update_self] at next ⊢
      exact next
    · have same : (s.settle call p c stage).calls call' = s.calls call' := by
        simp only [State.settle, update_of_ne own]
      rw [same]
      apply (dated.stages call').mono (by rfl) (by exact List.Subset.refl _)
      intro p' request since missed
      exact missed.settle call stage refilled

theorem Dated.beginCall (call : τ) (p : ι)
    (request : ResolutionRequest) : Dated K latency (s.beginCall call p request) := by
  have caches := (dated.caches p).get request s.clock false
  have refilled : Refilled s.clock (s.caches p) _ :=
    fun entry held => Or.inl (((s.caches p).get_entries request s.clock false).2 entry held)
  unfold State.beginCall
  cases look : (s.caches p).get request s.clock false with
  | mk c hit =>
    rw [look] at caches refilled
    cases hit with
    | some cached =>
      apply dated.settle call caches refilled
      obtain ⟨entry, found, rfl, servable, -⟩ := get_hit look
      -- Without stale entries, what is servable is within its lifetime.
      have fresh : s.clock ≤ entry.expiresMonotonic := by simpa [L1Entry.servable] using servable
      apply (dated.caches p).served (Recency.find?_mem found)
      dsimp only
      omega
    | none =>
      apply dated.settle call caches refilled
      -- A miss has dropped the entry, if there was one past its lifetime.
      obtain ⟨-, missing, -⟩ := get_miss look
      refine ⟨le_refl _, ?_⟩
      rintro ⟨_, entry⟩ held rfl
      simp only [State.settle, update_self] at held
      exact absurd held (Recency.find?_eq_none missing entry)

theorem Dated.resumeCall (processes : ι → Process) (call : τ)
    (available : Bool) (seen : (s.clock, s.tables) ∈ s.past)
    (prompt : ∀ since ∈ (s.calls call).since?, s.clock ≤ since + latency)
    (answers : ∀ p request since, available = true → s.calls call = .querying p request since →
      ∀ row ∈ s.tables.rows request since, ∀ generation, K s.clock (row.resolved generation)) :
    Dated K latency (s.resumeCall processes call available) := by
  have stage := dated.stages call
  unfold State.resumeCall
  cases reached : s.calls call with
  | querying p request since =>
    rw [reached] at stage
    have unchanged : Refilled s.clock (s.caches p) (s.caches p) := fun _ held => Or.inl held
    apply dated.settle call (dated.caches p) unchanged
    cases available with
    | false => exact stage.settle call _ unchanged
    | true =>
      exact answered_dated (by rfl) (by rfl) (processes p) p stage.1 seen
        (answers p request since rfl reached)
  | storing p request since e =>
    rw [reached] at stage prompt
    obtain ⟨-, instant, sourced, _⟩ := stage
    have now := prompt since rfl
    have young : s.clock ≤ instant + latency := by omega
    apply dated.settle call ((dated.caches p).put (processes p) request available sourced young)
      (refilled_put _ _ request e s.clock available)
    refine ⟨instant, sourced, ?_⟩
    have first := seconds_nonneg cfg.l1TtlSeconds
    have second := seconds_nonneg cfg.l2TtlSeconds
    omega
  | reading p request since =>
    rw [reached] at stage prompt
    obtain ⟨caches, refilled, served⟩ :=
      (dated.caches p).fallBack (processes p) available stage.2 (prompt since rfl)
    apply dated.settle call caches refilled
    cases outcome : (fallBack cfg (processes p) request s.clock available (s.caches p)).2 with
    | error reason => trivial
    | ok e => exact served e outcome
  | _ => exact dated

theorem Dated.step (processes : ι → Process) (prompt : Prompt latency s event)
    (answers : Answers K s event) : Dated K latency (s.step processes event) := by
  have ticked := dated.tick event.elapsed
  obtain ⟨elapsed, action⟩ := event
  cases action with
  | change tables =>
    exact ⟨fun p => (ticked.caches p).mono (by exact List.Subset.refl _), ticked.stages⟩
  | evict key =>
    refine ⟨fun p => ⟨(ticked.caches p).l1, ?_⟩, ticked.stages⟩
    intro key' stored held
    by_cases lost : key' = key
    · subst lost
      simp [State.caches, State.step, act] at held
    · simp only [State.caches, State.step, act, update_of_ne lost] at held
      exact (ticked.caches p).redis key' stored held
  | call call p request =>
    simp only [State.step, act]
    split
    iterate 3 exact ticked.beginCall call p request
    exact ticked
  | resume call available =>
    apply ticked.resumeCall processes call available
    · simp [State.tick]
    · exact prompt
    · rintro p request since rfl reached
      simp only [Answers] at answers
      rw [show s.calls call = .querying p request since from reached] at answers
      exact answers

end

/-- What is known of every answer at its query is known, within the two lifetimes and twice the
latency, of everything that is returned. -/
theorem served_along (processes : ι → Process)
    (prompt : (registrySystem cfg τ processes).Along (Prompt latency) .start events)
    (answers : (registrySystem cfg τ processes).Along (Answers K) .start events) :
    (registrySystem cfg τ processes).Always
    (fun s => ∀ call request e now, s.calls call = .returned request e now →
        Served K latency s e now) .start events := by
  have start : Dated K latency (State.start : State cfg ι τ) := by
    refine ⟨fun p => ⟨?_, ?_⟩, fun call => trivial⟩
    · rintro entry ⟨⟩
    · rintro key stored ⟨⟩
  have run : (registrySystem cfg τ processes).Run .start events :=
    System.along_of_forall (fun _ _ => trivial) _ events
  apply System.always_of_along (I := Dated K latency) _ _ start run
    ((System.along_and _ _ _ _ _).mpr ⟨prompt, answers⟩)
  · intro s event _ meets dated
    exact dated.step processes meets.1 meets.2
  · intro s dated call request e now returned
    have stage := dated.stages call
    rw [returned] at stage
    exact stage

end Steps

/-- Where a call takes no time, what a mutation is given was on offer within the two lifetimes; and
what anyone is given is unexpired if the query's answers outlive them. -/
theorem routes_current [DecidableEq ι] [DecidableEq τ] (processes : ι → Process)
    (events : List (Event ι τ))
    (prompt : (registrySystem cfg τ processes).Along (Prompt 0) .start events) :
    (registrySystem cfg τ processes).Always MutationsCurrent .start events ∧
    ((registrySystem cfg τ processes).Along
          (Answers (Outlives (seconds cfg.l1TtlSeconds + seconds cfg.l2TtlSeconds))) .start events →
        (registrySystem cfg τ processes).Always Unexpired .start events) := by
  constructor
  · have known : (registrySystem cfg τ processes).Along (Answers fun _ _ => True) .start events :=
      System.along_of_forall answers_true _ events
    apply (served_along processes prompt known).imp
    intro s served call request e now returned _
    obtain ⟨instant, ⟨offered, -⟩, young⟩ := served call request e now returned
    exact ⟨instant, by omega, offered⟩
  · intro outlive
    apply (served_along processes prompt outlive).imp
    intro s served call request e now returned expiry expires
    obtain ⟨_, ⟨-, longer⟩, _⟩ := served call request e now returned
    have later := longer expiry expires
    omega

open Sample

/-- One call that the database answers, of a version that never expires. -/
theorem routes_current_once :
    let system := registrySystem config Nat processes
    system.Along (Prompt 0) .start (resolvedOnce none true) ∧
      system.Always MutationsCurrent .start (resolvedOnce none true) ∧
      system.Always Unexpired .start (resolvedOnce none true) := by
  have prompt : (registrySystem config Nat processes).Along (Prompt 0) .start
      (resolvedOnce none true) := by
    decide +kernel
  have outlive : (registrySystem config Nat processes).Along
      (Answers (Outlives (seconds config.l1TtlSeconds + seconds config.l2TtlSeconds))) .start
      (resolvedOnce none true) := by
    refine ⟨?_, ?_, ?_, ?_, trivial⟩ <;> exact answers_outlives (by decide +kernel) _ _
  have current := routes_current processes (resolvedOnce none true) prompt
  exact ⟨prompt, current.1, current.2 outlive⟩

/-- A version that expires ten seconds after it was cached is served from the process's own cache
two seconds later, to a mutation. -/
theorem expired_route_served :
    let s := (registrySystem config Nat processes).after .start
      (resolvedOnce (some (Sample.now + seconds 10)) true ++
        [⟨12000000, .call 1 () (Sample.request true)⟩])
    s.calls 1 = .returned (Sample.request true) (endpoint (some (Sample.now + seconds 10)))
        (Sample.now + seconds 12) ∧
      ¬ Unexpired s := by
  intro s
  have returned : s.calls 1 = .returned (Sample.request true)
      (endpoint (some (Sample.now + seconds 10))) (Sample.now + seconds 12) := by
    decide +kernel
  refine ⟨returned, ?_⟩
  intro unexpired
  have later := unexpired 1 _ _ _ returned (Sample.now + seconds 10) rfl
  revert later
  decide

end CodestraMiddleware.Registry
