import CodestraMiddleware.Foundations.Fields
import CodestraMiddleware.Foundations.Recency
import CodestraMiddleware.Foundations.Run
import CodestraMiddleware.Registry.Repository
import CodestraMiddleware.Telephony.Schema

/-!
# Resolving an endpoint through two caches

`RegistryResolver.resolve` asks the process's own cache, then the database, and during an outage of
the database Redis and once more its own cache, this time for an entry that may be stale. `resolve`
is the call as if nothing happened while it waits; the steps of `Action` are what the event loops of
several processes really interleave, one for each stretch between two awaits.

Redis answers while `now ≤ expiry`, as its `keyIsExpired` has it.
-/
namespace CodestraMiddleware.Registry

open Telephony (seconds)
open Transition

structure Config where
  sha256 : String → String
  /-- HMAC-SHA256, under a key, of an endpoint's compact JSON with sorted keys. -/
  hmac : String → ResolvedEndpoint → String
  l1TtlSeconds : Nat := 15
  l2TtlSeconds : Nat := 60
  staleGraceSeconds : Nat := 300
  maxEntries : Nat := 512

structure L1Entry where
  endpoint : ResolvedEndpoint
  (expiresMonotonic staleUntilMonotonic : Int)
  deriving DecidableEq

structure Envelope where
  resolvedEndpoint : ResolvedEndpoint
  signature : String

structure Stored where
  envelope : Envelope
  expiry : Int

structure Caches (cfg : Config) where
  l1 : Recency cfg.maxEntries String L1Entry
  redis : String → Option Stored

structure Process where
  signingKey : String
  /-- The generation the repository writes into what it resolves. -/
  repositoryGeneration : Int := 0
  /-- The generation under which the resolver asks Redis. -/
  generation : Int := 0

variable (cfg : Config)

def ResolutionRequest.cacheHash (request : ResolutionRequest) : String :=
  cfg.sha256 request.json.dumps

def ResolutionRequest.key (request : ResolutionRequest) (generation : Int) : String :=
  "registry:" ++ request.environment ++ ":" ++ toString generation ++ ":" ++ request.cacheHash cfg

def L1Entry.servable (entry : L1Entry) (now : Int) (allowStale : Bool) : Bool :=
  now ≤ entry.expiresMonotonic || (allowStale && entry.endpoint.staleReadSafe &&
    now ≤ entry.staleUntilMonotonic)

namespace Caches

variable {cfg}

section

variable (c : Caches cfg)

def get (request : ResolutionRequest) (now : Int) (allowStale : Bool) :
    Caches cfg × Option ResolvedEndpoint :=
  match c.l1.find? (request.cacheHash cfg) with
  | none => (c, none)
  | some entry =>
    if entry.servable now allowStale then
      ({ c with l1 := c.l1.moveToEnd (request.cacheHash cfg) }, some entry.endpoint)
    -- What cannot be served is forgotten.
    else ({ c with l1 := c.l1.erase (request.cacheHash cfg) }, none)

def putL1 (request : ResolutionRequest) (endpoint : ResolvedEndpoint) (now : Int) : Caches cfg :=
  { c with
    l1 := c.l1.put (request.cacheHash cfg)
      { endpoint := endpoint, expiresMonotonic := now + seconds cfg.l1TtlSeconds,
        staleUntilMonotonic := now + seconds cfg.l1TtlSeconds + seconds cfg.staleGraceSeconds } }

def stored? (key : String) (now : Int) : Option Envelope :=
  match c.redis key with
  | some stored => if now ≤ stored.expiry then some stored.envelope else none
  | none => none

def getL2 (process : Process) (request : ResolutionRequest) (now : Int) :
    Except ResolutionDenied (Caches cfg × Option ResolvedEndpoint) :=
  match c.stored? (request.key cfg process.generation) now with
  | none => .ok (c, none)
  | some envelope =>
    if envelope.signature = cfg.hmac process.signingKey envelope.resolvedEndpoint then
      .ok (c.putL1 request envelope.resolvedEndpoint now, some envelope.resolvedEndpoint)
    else .error ⟨.invalidSnapshotSignature, false⟩

/-- `put`, with the `RedisError` that `resolve` logs. Without Redis, or with a lifetime of zero that
`SETEX` refuses, the process's own cache is not filled either. -/
def put (process : Process) (request : ResolutionRequest)
    (endpoint : ResolvedEndpoint) (now : Int) (available : Bool) : Caches cfg :=
  if available && 0 < cfg.l2TtlSeconds then
    let stored : Stored := ⟨⟨endpoint, cfg.hmac process.signingKey endpoint⟩,
      now + seconds cfg.l2TtlSeconds⟩
    let written : Caches cfg := { c with
      redis := Function.update c.redis (request.key cfg endpoint.registryGeneration) (some stored) }
    written.putL1 request endpoint now
  else c

end

theorem get_hit {c : Caches cfg} (hit : c.get request now allowStale = (c', some e)) :
    ∃ entry, c.l1.find? (request.cacheHash cfg) = some entry ∧ entry.endpoint = e ∧
      entry.servable now allowStale = true ∧
      c' = { c with l1 := c.l1.moveToEnd (request.cacheHash cfg) } := by
  unfold get at hit
  split at hit
  · cases hit
  next entry found =>
    split at hit
    next servable =>
      cases hit
      exact ⟨entry, found, rfl, servable, rfl⟩
    · cases hit

theorem get_miss {c : Caches cfg} (miss : c.get request now allowStale = (c', none)) :
    c'.redis = c.redis ∧ c'.l1.find?
    (request.cacheHash cfg) = none ∧ ∀ entry ∈ c'.l1.entries, entry ∈ c.l1.entries := by
  unfold get at miss
  split at miss
  next missing =>
    cases miss
    exact ⟨rfl, missing, fun _ held => held⟩
  next entry found =>
    split at miss
    · cases miss
    · cases miss
      exact ⟨rfl, Recency.find?_erase _ _, fun _ held => (Recency.mem_erase.mp held).1⟩

theorem get_eq_none {c : Caches cfg} (missing : c.l1.find? (request.cacheHash cfg) = none)
    (now : Int) (allowStale : Bool) : c.get request now allowStale = (c, none) := by
  unfold get
  rw [missing]

end Caches

structure Availability where
  (database redis : Bool)

/-- What `resolve` does when the repository is unavailable. -/
def fallBack (process : Process) (request : ResolutionRequest) (now : Int) (redis : Bool)
    (c : Caches cfg) : Caches cfg × Except ResolutionDenied ResolvedEndpoint :=
  -- A `RedisError` counts as no entry.
  match if redis then c.getL2 process request now else .ok (c, none) with
  | .error denied => (c, .error denied)
  | .ok (c, some endpoint) => (c, .ok endpoint)
  | .ok (c, none) =>
    -- A read may be given an entry past its lifetime, a mutation may not.
    match c.get request now !request.mutation with
    | (c, some stale) => (c, .ok stale)
    | (c, none) => (c, .error ⟨.endpointRegistryUnavailable, true⟩)

def resolve (process : Process) (t : Tables) (now : Int) (up : Availability)
    (request : ResolutionRequest) (c : Caches cfg) :
    Caches cfg × Except ResolutionDenied ResolvedEndpoint :=
  match c.get request now false with
  | (c, some cached) => (c, .ok cached)
  | (c, none) =>
    if up.database then
      match candidates t process.repositoryGeneration request now with
      | .error denied => (c, .error denied)
      | .ok [] => (c, .error ⟨.noActiveRoute, false⟩)
      | .ok (endpoint :: _) => (c.put process request endpoint now up.redis, .ok endpoint)
    else fallBack cfg process request now up.redis c

/-- How far a call of `resolve` has come. `since` is the clock at which it began. -/
inductive Stage (ι : Type) where
  | idle
  | querying (process : ι) (request : ResolutionRequest) (since : Int)
  | storing (process : ι) (request : ResolutionRequest) (since : Int) (endpoint : ResolvedEndpoint)
  | reading (process : ι) (request : ResolutionRequest) (since : Int)
  | returned (request : ResolutionRequest) (endpoint : ResolvedEndpoint) (returnedAt : Int)
  | denied (request : ResolutionRequest) (reason : ResolutionDenied)
  deriving DecidableEq

def Stage.finish {ι : Type} (request : ResolutionRequest) (now : Int) :
    Except ResolutionDenied ResolvedEndpoint → Stage ι
  | .ok endpoint => .returned request endpoint now
  | .error reason => .denied request reason

inductive Action (ι τ : Type) where
  | change (tables : Tables)
  | evict (key : String)
  | call (call : τ) (process : ι) (request : ResolutionRequest)
  /-- The call goes on with what it waits for, which answers or is unavailable. -/
  | resume (call : τ) (available : Bool)

/-- What happens `elapsed` microseconds after the last event. -/
structure Event (ι τ : Type) where
  elapsed : Nat
  action : Action ι τ

structure State (ι τ : Type) where
  clock : Int
  tables : Tables
  /-- The registry that every event so far has met, with the clock of the event. -/
  past : List (Int × Tables)
  redis : String → Option Stored
  l1 : ι → Recency cfg.maxEntries String L1Entry
  calls : τ → Stage ι

section System

variable {cfg} {ι τ : Type}

namespace State

def caches (s : State cfg ι τ) (p : ι) : Caches cfg := ⟨s.l1 p, s.redis⟩

variable [DecidableEq ι] [DecidableEq τ]

section

variable (s : State cfg ι τ)

/-- A call reaches a stage and leaves the caches of its process so. -/
def settle (call : τ) (p : ι) (c : Caches cfg) (stage : Stage ι) : State cfg ι τ :=
  { s with redis := c.redis, l1 := Function.update s.l1 p c.l1,
           calls := Function.update s.calls call stage }

def beginCall (call : τ) (p : ι) (request : ResolutionRequest) : State cfg ι τ :=
  match (s.caches p).get request s.clock false with
  | (c, some cached) => s.settle call p c (.returned request cached s.clock)
  | (c, none) => s.settle call p c (.querying p request s.clock)

def answered (process : Process) (p : ι) (request : ResolutionRequest) (since : Int) : Stage ι :=
  match candidates s.tables process.repositoryGeneration request since with
  | .error reason => .denied request reason
  | .ok [] => .denied request ⟨.noActiveRoute, false⟩
  | .ok (endpoint :: _) => .storing p request since endpoint

def resumeCall (processes : ι → Process) (s : State cfg ι τ) (call : τ) (available : Bool) :
    State cfg ι τ :=
  match s.calls call with
  | .querying p request since =>
    s.settle call p (s.caches p) (if available then s.answered (processes p) p request since
      else .reading p request since)
  -- The lifetimes count from the reply of Redis, not from the query.
  | .storing p request _ endpoint =>
    s.settle call p ((s.caches p).put (processes p) request endpoint s.clock available)
      (.returned request endpoint s.clock)
  | .reading p request _ =>
    let outcome := fallBack cfg (processes p) request s.clock available (s.caches p)
    s.settle call p outcome.1 (.finish request s.clock outcome.2)
  | .idle | .returned .. | .denied .. => s

def act (processes : ι → Process) (s : State cfg ι τ) : Action ι τ → State cfg ι τ
  | .change tables => { s with tables := tables }
  | .evict key => { s with redis := Function.update s.redis key none }
  | .call call p request =>
    match s.calls call with
    | .idle | .returned .. | .denied .. => s.beginCall call p request
    -- A call on its way does not begin again.
    | _ => s
  | .resume call available => s.resumeCall processes call available

def tick (elapsed : Nat) : State cfg ι τ :=
  { s with clock := s.clock + elapsed, past := s.past ++ [(s.clock + elapsed, s.tables)] }

end

def step (processes : ι → Process) (s : State cfg ι τ) (event : Event ι τ) : State cfg ι τ :=
  (s.tick event.elapsed).act processes event.action

def start : State cfg ι τ where
  clock := 0
  tables := {}
  past := []
  redis _ := none
  l1 _ := .empty
  calls _ := .idle

end State

open State

variable [DecidableEq ι] [DecidableEq τ]

variable (cfg τ) in
def registrySystem (processes : ι → Process) : System (State cfg ι τ) (Event ι τ) where
  step := State.step processes
  admits _ _ := True

def inTurn (elapsed : Nat) (call : τ) (p : ι) (request : ResolutionRequest) (up : Availability) :
    List (Event ι τ) :=
  [⟨elapsed, .call call p request⟩, ⟨0, .resume call up.database⟩, ⟨0, .resume call up.redis⟩]

/-- A call that nothing interrupts does what `resolve` computes. -/
theorem resolve_in_turn (processes : ι → Process) (free : s.calls call = .idle)
    (elapsed : Nat) (p : ι) (request : ResolutionRequest) (up : Availability) :
    let reached := (registrySystem cfg τ processes).after s (inTurn elapsed call p request up)
    let now := s.clock + elapsed
    let outcome := resolve cfg (processes p) s.tables now up request (s.caches p)
    reached.calls call = .finish request now outcome.2 ∧ reached.caches p = outcome.1 := by
  simp only [inTurn, System.after, registrySystem, step, act, tick, free, beginCall, resumeCall,
    caches, resolve]
  cases first : Caches.get ⟨s.l1 p, s.redis⟩ request (s.clock + elapsed) false with
  | mk c hit =>
    cases hit with
    | some cached => simp [settle, Stage.finish]
    | none =>
      cases up with
      | mk database redis =>
        cases database with
        | false => simp [settle]
        | true =>
          simp only [settle, answered, Function.update_self, if_true]
          cases candidates s.tables (processes p).repositoryGeneration request
              (s.clock + elapsed) with
          | error reason => simp [Stage.finish]
          | ok endpoints =>
            cases endpoints with
            | nil | cons => simp [Stage.finish]

end System

/-! ## A sample registry

The digests are those of SHA-256 and of HMAC-SHA256 under the sample's key.
-/

namespace Sample

def now : Int := 1787238000000000

def request (mutation : Bool) : ResolutionRequest where
  environment := "production"
  serviceKey := "n8n"
  endpointKey := "events.ingest"
  mutation := mutation

variable (expiresAt : Option Int)

def version : IntegrationEndpointVersion where
  endpointVersionId := 3
  endpointId := 2
  configurationVersion := 1
  baseUrl := "https://example.invalid"
  pathTemplate := "/events"
  httpMethod := "POST"
  authenticationMode := "private_key_jwt"
  requiredAudience := "n8n"
  requiredScopes := ["events.write"]
  credentialReferenceId := "secret://test/key"
  tlsProfileId := "test"
  timeoutMs := 1000
  connectionTimeoutMs := 500
  staleReadSafe := true
  enabled := true
  killSwitch := false
  configurationChecksum :=
    "sha256:0000000000000000000000000000000000000000000000000000000000000000"
  effectiveAt := now - seconds 86400
  expiresAt := expiresAt

def row : Row where
  service := { serviceId := 1, serviceKey := "n8n", enabled := true }
  endpoint := { endpointId := 2, serviceId := 1, endpointKey := "events.ingest" }
  version := version expiresAt
  binding := { endpointVersionId := 3, environment := "production" }

def tables : Tables where
  services := [(row expiresAt).service]
  endpoints := [(row expiresAt).endpoint]
  versions := [(row expiresAt).version]
  bindings := [(row expiresAt).binding]
  credentials := [{ referenceKey := "secret://test/key", enabled := true }]
  schemas := [{
    serviceKey := "n8n"
    endpointKey := "events.ingest"
    apiVersion := "v1"
    enabled := true }]

def endpoint : ResolvedEndpoint := (row expiresAt).resolved 0

def digests : List (String × String) := [
  ((request false).json.dumps, "d2a059d8857be4f9ebda584322f57c0ee26cafda720b7c83c51571e13b6d7fa0"),
  ((request true).json.dumps, "4621113413a01fdb932b8eef616ecc788c03f2b6da4e9bea7a72222c855212ab")]

def signatures : List (ResolvedEndpoint × String) := [
  (endpoint none, "4945bc5e2ddf747a5b8bb1827d65b3ad140f159d5572e13014f13b8c8f20bf51"),
  (endpoint (some (now + seconds 10)),
    "c9966a1b120b8f0b4e71af9be55a1da51c07a91a245359a0b37c17c347a6b4d8")]

def config : Config where
  sha256 text := ((digests.find? (·.1 = text)).map (·.2)).getD ""
  hmac _ endpoint := ((signatures.find? (·.1 = endpoint)).map (·.2)).getD ""

def processes (_ : Unit) : Process where
  signingKey := "registry-sample-signing-key"

def resolvedOnce (mutation : Bool) : List (Event Unit Nat) :=
  ⟨1787238000000000, .change (tables expiresAt)⟩ :: inTurn 0 0 () (request mutation) ⟨true, true⟩

/-- The registry has answered once and both caches hold the route; after five seconds it comes from
the process's own cache, after twenty from the database, and is written again. -/
theorem resolved_again_in_turn :
    let S := registrySystem config Nat processes
    let s := S.after .start (resolvedOnce none true)
    (S.after s (inTurn 5000000 1 () (request true) ⟨true, true⟩)).calls 1 =
        .returned (request true) (endpoint none) (now + seconds 5) ∧
      (S.after s (inTurn 20000000 1 () (request true) ⟨true, true⟩)).calls 1 =
        .returned (request true) (endpoint none) (now + seconds 20) := by
  have free : ((registrySystem config Nat processes).after .start (resolvedOnce none true)).calls
    1 = .idle := rfl
  exact ⟨(resolve_in_turn processes free 5000000 () _ _).1.trans (by decide +kernel),
    (resolve_in_turn processes free 20000000 () _ _).1.trans (by decide +kernel)⟩

end Sample

/-! ## Entries of Redis that somebody rearranges -/

open Fields

section

variable (cfg : Config) (signingKey : String) (puts : List (ResolutionRequest × ResolvedEndpoint))

def Signed (stored : Stored) (put : ResolutionRequest × ResolvedEndpoint) : Prop :=
  stored.envelope = ⟨put.2, cfg.hmac signingKey put.2⟩

/-- What is left of the entries written by `put`, wherever they were copied or moved to. -/
def Rearranged (redis : String → Option Stored) : Prop :=
  ∀ key, ∀ stored ∈ redis key, ∃ put ∈ puts, Signed cfg signingKey stored put

/-- The entry that is read under the key, if there is one, was written there. -/
def InPlace (c : Caches cfg) (key : String) (now : Int) : Prop :=
  ∀ envelope ∈ c.stored? key now,
    ∃ put ∈ puts, put.2 = envelope.resolvedEndpoint ∧ put.1.key cfg put.2.registryGeneration = key

/-- Some `put` stored the endpoint for a request with this hash. -/
def StoredFor (request : ResolutionRequest) (generation : Int)
    (endpoint : ResolvedEndpoint) : Prop :=
  ∃ put ∈ puts, put.2 = endpoint ∧ put.1.cacheHash cfg = request.cacheHash cfg ∧
    endpoint.registryGeneration = generation

end

theorem key_injective {cfg : Config} (hex : ∀ text, ':' ∉ (cfg.sha256 text).toList)
    {request request' : ResolutionRequest}
    (same : request.key cfg generation = request'.key cfg generation') :
    request.cacheHash cfg = request'.cacheHash cfg ∧ generation = generation' := by
  -- Read from the end, both fields stop at the first colon.
  have lists := congrArg (fun text => text.toList.reverse) same
  simp only [ResolutionRequest.key, String.toList_append, List.reverse_append,
    show ":".toList.reverse = [':'] from rfl, List.append_assoc, List.singleton_append] at lists
  have free (r : ResolutionRequest) : ':' ∉ (r.cacheHash cfg).toList.reverse :=
    List.mem_reverse.not.mpr (hex _)
  have number (n : Int) : ':' ∉ (toString n).toList.reverse := by
    rw [List.mem_reverse, Int.toString_eq_repr, Int.repr_eq_if]
    split
    · exact not_mem_decimal rfl _
    · rw [String.toList_append, List.mem_append, not_or]
      exact ⟨by decide, not_mem_decimal rfl _⟩
  obtain ⟨hash, lists⟩ := delimited_inj (free request) (free request') lists
  obtain ⟨shown, -⟩ := delimited_inj (number _) (number _) lists
  exact ⟨String.toList_injective (List.reverse_injective hash),
    int_injective (List.reverse_injective shown)⟩

theorem Rearranged.signed {cfg : Config} {c : Caches cfg}
    (rearranged : Rearranged cfg signingKey puts c.redis)
    (found : c.stored? key now = some envelope) :
    envelope.signature = cfg.hmac signingKey envelope.resolvedEndpoint := by
  unfold Caches.stored? at found
  split at found
  next stored there =>
    split at found
    · cases found
      obtain ⟨put, -, signed⟩ := rearranged _ stored there
      rw [signed]
    · cases found
  · cases found

theorem storedFor_iff {cfg : Config} (hex : ∀ text, ':' ∉ (cfg.sha256 text).toList)
    (distinct : ∀ put ∈ puts, put.1.cacheHash cfg = request.cacheHash cfg →
      put.1.environment = request.environment) :
    StoredFor cfg puts request generation endpoint ↔
      ∃ put ∈ puts, put.2 = endpoint ∧ put.1.key cfg put.2.registryGeneration = request.key cfg
      generation := by
  constructor
  · rintro ⟨put, member, rfl, hash, rfl⟩
    refine ⟨put, member, rfl, ?_⟩
    rw [ResolutionRequest.key, ResolutionRequest.key, hash, distinct put member hash]
  · rintro ⟨put, member, rfl, place⟩
    obtain ⟨hash, generation⟩ := key_injective hex place
    exact ⟨put, member, rfl, hash, generation⟩

/-- The signature does not say for whom an entry was written: what is read was stored for the
request exactly if the entry under its key has not been moved there. -/
theorem snapshot_bound_iff (cfg : Config) (hex : ∀ text, ':' ∉ (cfg.sha256 text).toList)
    (process : Process) (puts : List (ResolutionRequest × ResolvedEndpoint)) (c : Caches cfg)
    (rearranged : Rearranged cfg process.signingKey puts c.redis) (request : ResolutionRequest)
    (distinct : ∀ put ∈ puts, put.1.cacheHash cfg = request.cacheHash cfg →
      put.1.environment = request.environment)
    (now : Int) : (∀ endpoint, (c.getL2 process request now).map (·.2) = .ok (some endpoint) →
        StoredFor cfg puts request process.generation endpoint) ↔
      InPlace cfg puts c (request.key cfg process.generation) now := by
  simp only [storedFor_iff hex distinct]
  unfold Caches.getL2 InPlace
  cases found : c.stored? (request.key cfg process.generation) now with
  | none => simp [Except.map]
  | some envelope => simp [rearranged.signed found, Except.map]

namespace Sample

def holding (key : String) : Caches config :=
  ⟨.empty, fun k => if k = key then
    some ⟨⟨endpoint none, config.hmac (processes ()).signingKey (endpoint none)⟩, now⟩ else none⟩

end Sample

open Sample

theorem own_snapshot_bound : StoredFor config [(request true, endpoint none)]
    (request true) 0 (endpoint none) := by
  refine (snapshot_bound_iff config ?_ (processes ()) _ (holding ((request true).key config 0)) ?_ _
    ?_ now).mpr ?_
    _ (by decide +kernel)
  · intro text
    cases found : digests.find? (·.1 = text) with
    | none => simp [config, found]
    | some pair =>
      have all : ∀ pair ∈ digests, ':' ∉ pair.2.toList := by decide +kernel
      simpa [config, found] using all pair (List.mem_of_find?_eq_some found)
  · intro key stored there
    simp only [holding, Option.mem_def, Option.ite_none_right_eq_some] at there
    obtain ⟨rfl, ⟨⟩⟩ := there
    exact ⟨_, List.mem_singleton_self _, rfl⟩
  · intro put member _
    rw [List.mem_singleton.mp member]
  · intro envelope read
    have stored : (holding ((request true).key config 0)).stored?
      ((request true).key config 0) now =
        some ⟨endpoint none, config.hmac (processes ()).signingKey (endpoint none)⟩ := by
      simp [holding, Caches.stored?]
    cases stored.symm.trans read
    exact ⟨_, List.mem_singleton_self _, rfl, rfl⟩

theorem moved_snapshot_served :
    Rearranged config (processes ()).signingKey [(request true, endpoint none)]
    (holding ((request false).key config 0)).redis ∧
      ((holding ((request false).key config 0)).getL2 (processes ()) (request false) now).map
        (·.2) = .ok (some (endpoint none)) ∧
      ¬ StoredFor config [(request true, endpoint none)] (request false) 0 (endpoint none) := by
  refine ⟨?_, by decide +kernel, ?_⟩
  · intro key stored there
    simp only [holding, Option.mem_def, Option.ite_none_right_eq_some] at there
    obtain ⟨rfl, ⟨⟩⟩ := there
    exact ⟨_, List.mem_singleton_self _, rfl⟩
  · rintro ⟨put, member, -, hash, -⟩
    obtain rfl := List.mem_singleton.mp member
    revert hash
    decide +kernel

end CodestraMiddleware.Registry
