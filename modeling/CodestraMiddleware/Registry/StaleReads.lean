import CodestraMiddleware.Registry.Resolver

/-!
# Stale reads during an outage

An entry of a process's own cache stays for a grace period after its lifetime, so that a read that
is safe to answer stale can be answered from it while neither the database nor Redis is there. But
`resolve` first looks for a fresh entry, and that look forgets the entry it does not find fresh.
-/
namespace CodestraMiddleware.Registry

open Telephony (seconds)
open Transition

variable {cfg : Config}

/-- The request was resolved to `endpoint`, which was cached at `cachedAt`; its lifetime is over and
its grace period is not. -/
structure StaleCached (c : Caches cfg) (request : ResolutionRequest) (endpoint : ResolvedEndpoint)
    (cachedAt now : Int) : Prop where
  cached : c.l1.find? (request.cacheHash cfg) = some
    { endpoint := endpoint
      expiresMonotonic := cachedAt + seconds cfg.l1TtlSeconds
      staleUntilMonotonic :=
        cachedAt + seconds cfg.l1TtlSeconds + seconds cfg.staleGraceSeconds }
  safe : endpoint.staleReadSafe = true
  expired : cachedAt + seconds cfg.l1TtlSeconds < now
  withinGrace : now ≤ cachedAt + seconds cfg.l1TtlSeconds + seconds cfg.staleGraceSeconds

/-- A read is answered with the stale endpoint; a mutation with nothing older than the lifetime of
an entry. -/
def BoundedStale (c : Caches cfg) (request : ResolutionRequest) (endpoint : ResolvedEndpoint)
    (now : Int) (answer : Except ResolutionDenied ResolvedEndpoint) : Prop :=
  (request.mutation = false → answer = .ok endpoint) ∧
  (request.mutation = true → ∀ e, answer = .ok e →
    ∃ entry, c.l1.find? (request.cacheHash cfg) = some entry ∧ entry.endpoint = e ∧
    now ≤ entry.expiresMonotonic)

theorem resolve_outage (cached : c.l1.find? (request.cacheHash cfg) = some entry)
    (expired : entry.expiresMonotonic < now) (process : Process) (t : Tables) :
    (resolve cfg process t now ⟨false, false⟩ request c).2 =
    .error ⟨.endpointRegistryUnavailable, true⟩ := by
  have first : c.get request now false =
      ({ c with l1 := c.l1.erase (request.cacheHash cfg) }, none) := by
    have unservable : entry.servable now false = false := by
      simp only [L1Entry.servable, Bool.false_and, Bool.or_false, decide_eq_false_iff_not]
      omega
    simp [Caches.get, cached, unservable]
  -- The second look comes to what the first has left.
  have second := Caches.get_eq_none (c := { c with l1 := c.l1.erase (request.cacheHash cfg) })
    (c.l1.find?_erase (request.cacheHash cfg)) now !request.mutation
  simp [resolve, fallBack, first, second]

/-- After every history, in an outage, the promise is kept exactly to mutations. -/
theorem stale_reads_iff {ι τ : Type} [DecidableEq ι] [DecidableEq τ] (processes : ι → Process)
    (history : List (Event ι τ)) (p : ι) (request : ResolutionRequest) (endpoint : ResolvedEndpoint)
    (cachedAt now : Int) : let s := (registrySystem cfg τ processes).after .start history
    let answer := (resolve cfg (processes p) s.tables now ⟨false, false⟩ request (s.caches p)).2
    StaleCached (s.caches p) request endpoint cachedAt now →
      (BoundedStale (s.caches p) request endpoint now answer ↔ request.mutation = true) := by
  intro s answer stale
  have denied : answer = .error ⟨.endpointRegistryUnavailable, true⟩ :=
    resolve_outage stale.cached stale.expired (processes p) s.tables
  rw [denied]
  constructor
  · intro promise
    cases mutation : request.mutation with
    | true => rfl
    | false => cases promise.1 mutation
  · intro mutation
    constructor
    · intro read
      rw [mutation] at read
      cases read
    · intro _ e returned
      cases returned

open Sample (config processes resolvedOnce request endpoint)

/-- A mutation twenty seconds after the entry was cached. -/
theorem stale_reads_mutation :
    let s := (registrySystem config Nat processes).after .start
      (resolvedOnce none true)
    let now := Sample.now + seconds 20
    StaleCached (s.caches ()) (request true) (endpoint none) Sample.now now ∧
      BoundedStale (s.caches ()) (request true) (endpoint none) now
        (resolve config (processes ()) s.tables now ⟨false, false⟩
          (request true) (s.caches ())).2 := by
  have stale : StaleCached (((registrySystem config Nat processes).after .start
    (resolvedOnce none true)).caches ())
      (request true) (endpoint none) Sample.now (Sample.now + seconds 20) :=
    ⟨by decide +kernel, by decide +kernel, by decide +kernel, by decide +kernel⟩
  exact ⟨stale, (stale_reads_iff processes (resolvedOnce none true) ()
    (request true) (endpoint none) Sample.now (Sample.now + seconds 20) stale).mpr rfl⟩

/-- The same read twenty seconds later, with neither the database nor Redis there: the entry is
within its grace period and safe to read stale, and the call is denied. -/
theorem stale_read_denied :
    let s := (registrySystem config Nat processes).after .start
      (resolvedOnce none false)
    let now := Sample.now + seconds 20
    StaleCached (s.caches ()) (request false) (endpoint none) Sample.now now ∧
      (request false).mutation = false ∧
      (resolve config (processes ()) s.tables now ⟨false, false⟩
        (request false) (s.caches ())).2 ≠ .ok (endpoint none) ∧
      ((registrySystem config Nat processes).after s
        (inTurn 20000000 1 () (request false) ⟨false, false⟩)).calls 1 =
        .denied (request false) ⟨.endpointRegistryUnavailable, true⟩ := by
  refine ⟨⟨?_, ?_, ?_, ?_⟩, ?_, ?_, ?_⟩ <;> decide +kernel

end CodestraMiddleware.Registry
