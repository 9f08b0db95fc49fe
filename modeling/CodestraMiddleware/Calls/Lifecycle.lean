import CodestraMiddleware.Foundations.Run

/-!
# The lifecycle of a call

`core/call_lifecycle.py`, and `ingest_vicidial` of `api/v1/events.py` from the idempotency key on.
The advisory locks on the key and on the call make one transaction of a call follow the other.
-/
namespace CodestraMiddleware.Calls

open List Function

inductive LifecycleState where
  | started | connected | ended
  deriving DecidableEq

/-- `STATE_RANK`. -/
def rank : LifecycleState → Nat
  | .started => 1
  | .connected => 2
  | .ended => 3

def baseLocal (value : String) : String :=
  if [';', '1'] <:+ value.toList ∨ [';', '2'] <:+ value.toList then
    String.ofList value.toList.dropLast.dropLast
  else value

def correlationId (linkedId : Option String) (uniqueId : String) : String :=
  "asterisk:" ++ baseLocal (if linkedId.getD "" = "" then uniqueId else linkedId.getD "")

def advances (current incoming : LifecycleState) : Bool := rank incoming > rank current

structure Transition where
  previous : Option LifecycleState
  (incoming resulting : LifecycleState)
  applied : Bool

def transition (current : Option LifecycleState) (incoming : LifecycleState) : Transition :=
  match current with
  | none => ⟨none, incoming, incoming, true⟩
  | some state =>
    if advances state incoming then ⟨state, incoming, incoming, true⟩
      else ⟨state, incoming, state, false⟩

/-! ## Events and tables -/

structure LifecyclePayload where
  lifecycleStatus : LifecycleState
  (disposition hangupCause : Option String)

/-- A request with a valid envelope; `commits` says whether the database takes the transaction. -/
structure Request where
  (idempotencyKey clientInstance eventId requestHash : String)
  occurredAt : Int
  asteriskLinkedId : Option String
  (asteriskUniqueId channel sourceExtension destination dialplanContext : String)
  lifecycle : Option LifecyclePayload
  commits : Bool := true

def Request.correlation (r : Request) : String :=
  correlationId r.asteriskLinkedId r.asteriskUniqueId

structure Call where
  linkedId : Option String
  primaryUniqueId : String
  lifecycleState : LifecycleState
  (startedAt connectedAt endedAt : Option Int := none)
  (disposition hangupCause : Option String := none)
  (sourceExtension destination dialplanContext : String)

structure LifecycleEvent where
  (callId originalEventId uniqueId channel : String)
  incomingState : LifecycleState
  previousState : Option LifecycleState
  resultingState : LifecycleState
  transitionApplied : Bool
  occurredAt : Int

/-- The calls by their correlation; `records` has the request hash of a scope and key. -/
structure Store where
  records : String × String → Option String
  eventIds : List String
  calls : String → Option Call
  log : List LifecycleEvent

def Store.empty : Store := ⟨fun _ => none, [], fun _ => none, []⟩

/-! ## Ingestion -/

def Call.note (call : Call) (r : Request) (payload : LifecyclePayload) (applied : Bool) : Call :=
  match payload.lifecycleStatus with
  | .started => if call.startedAt.isNone then { call with startedAt := r.occurredAt } else call
  | .connected => if call.connectedAt.isNone then { call with connectedAt := r.occurredAt }
      else call
  | .ended =>
    if call.endedAt.isNone then
      { call with
        endedAt := r.occurredAt
        disposition := if applied then payload.disposition else call.disposition
        hangupCause := if applied then payload.hangupCause else call.hangupCause }
    else call

def Store.state? (s : Store) (call : String) : Option LifecycleState :=
  (s.calls call).map (·.lifecycleState)

def Store.decision (s : Store) (r : Request) (payload : LifecyclePayload) : Transition :=
  transition (s.state? r.correlation) payload.lifecycleStatus

/-- The row of the call, new or found, with the state that the event leaves it in. -/
def Store.moved (s : Store) (r : Request) (decision : Transition) : Call :=
  match s.calls r.correlation with
  | none =>
    { linkedId := r.asteriskLinkedId, primaryUniqueId := r.asteriskUniqueId
      lifecycleState := decision.resulting, sourceExtension := r.sourceExtension
      destination := r.destination, dialplanContext := r.dialplanContext }
  | some call => if decision.applied then { call with lifecycleState := decision.resulting }
      else call

def Store.advance (s : Store) (r : Request) (payload : LifecyclePayload) : Store :=
  let decision := s.decision r payload
  let call := (s.moved r decision).note r payload decision.applied
  { s with
    calls := update s.calls r.correlation call
    log := ⟨r.correlation, r.eventId, r.asteriskUniqueId, r.channel, payload.lifecycleStatus,
      decision.previous, decision.resulting, decision.applied, r.occurredAt⟩ :: s.log }

inductive Reply where
  | accepted | replayed | keyConflict | keyMismatch | unavailable
  deriving DecidableEq

/-- The identifier of an event is unique among the integration events of all clients. -/
def ingestVicidial (sha256 : String → String) (s : Store) (r : Request) : Store × Reply :=
  if r.lifecycle.isSome ∧ r.idempotencyKey ≠ r.eventId then (s, .keyMismatch)
  else
    let key := (r.clientInstance, sha256 r.idempotencyKey)
    match s.records key with
    | some hash => (s, if hash = r.requestHash then .replayed else .keyConflict)
    | none =>
      if r.eventId ∈ s.eventIds ∨ !r.commits then (s, .unavailable)
      else
        let stored :=
          { s with
            records := update s.records key r.requestHash, eventIds := r.eventId :: s.eventIds }
        (r.lifecycle.elim stored (stored.advance r), .accepted)

variable (sha256 : String → String)

def ingestion : Transition.System Store Request where
  step s r := (ingestVicidial sha256 s r).1
  admits _ _ := True

/-- The lifecycle events that are accepted for a call: their identifiers and the
states they report. -/
def accepted (call : String) (s : Store) (r : Request) : List (String × LifecycleState) :=
  if (ingestVicidial sha256 s r).2 = .accepted ∧ r.correlation = call then
    (r.lifecycle.map fun payload => (r.eventId, payload.lifecycleStatus)).toList
  else []

/-- The store after a run, and the events accepted for the call, the newest first. -/
def after (call : String) (run : List Request) : Store × List (String × LifecycleState) :=
  ((ingestion sha256).recording (accepted sha256 call)).after (.empty, []) run

def Store.entries (s : Store) (call : String) : List LifecycleEvent :=
  s.log.filter (·.callId = call)

def Call.dated (call : Call) : LifecycleState → Bool
  | .started => call.startedAt.isSome
  | .connected => call.connectedAt.isSome
  | .ended => call.endedAt.isSome

/-- Of some states received, the one of the highest rank. -/
def Highest (kinds : List LifecycleState) (state : Option LifecycleState) : Prop :=
  (state = none ↔ kinds = []) ∧ ∀ s ∈ state, s ∈ kinds ∧ ∀ kind ∈ kinds, rank kind ≤ rank s

/-- Each row takes the call from where the row before left it. -/
def Chained : List LifecycleEvent → Prop
  | [] => True
  | row :: older => row.previousState = older.head?.map (·.resultingState) ∧ Chained older

/-- What the store says of a call for which these events were accepted. -/
structure Logged (call : String) (s : Store) (events : List (String × LifecycleState)) : Prop where
  highest : Highest (events.map Prod.snd) (s.state? call)
  dated : ∀ kind, (s.calls call).any (·.dated kind) ↔ kind ∈ events.map Prod.snd
  entries : (s.entries call).map (fun row => (row.originalEventId, row.incomingState)) = events
  chained : Chained (s.entries call)
  current : (s.entries call).head?.map (·.resultingState) = s.state? call

variable {sha256} {call : String} {s : Store} {r : Request}

theorem Highest.unique (highest : Highest kinds state) (highest' : Highest kinds' state')
    (same : ∀ k, k ∈ kinds ↔ k ∈ kinds') : state = state' := by
  have empty : kinds = [] ↔ kinds' = [] := by simp only [eq_nil_iff_forall_not_mem, same]
  rcases state with _ | a
  · exact (highest'.1.mpr (empty.mp (highest.1.mp rfl))).symm
  rcases state' with _ | b
  · exact highest.1.mpr (empty.mpr (highest'.1.mp rfl))
  obtain ⟨mine, above⟩ := highest.2 a rfl
  obtain ⟨yours, above'⟩ := highest'.2 b rfl
  have equal := Nat.le_antisymm (above' a ((same a).mp mine)) (above b ((same b).mpr yours))
  revert equal
  rcases a <;> rcases b <;> simp [rank]

@[simp] theorem transition_previous (state : Option LifecycleState) (incoming : LifecycleState) :
    (transition state incoming).previous = state := by
  unfold transition
  repeat' split
  all_goals rfl

theorem Highest.transition (highest : Highest kinds state) (incoming : LifecycleState) :
    Highest (incoming :: kinds) (some (transition state incoming).resulting) := by
  refine ⟨by simp, ?_⟩
  rintro _ ⟨⟩
  rcases state with _ | current
  · simp [Calls.transition, highest.1.mp rfl]
  · obtain ⟨received, above⟩ := highest.2 current rfl
    by_cases higher : rank current < rank incoming
    · have below : ∀ kind ∈ kinds, rank kind ≤ rank incoming := fun kind member =>
        Nat.le_of_lt (Nat.lt_of_le_of_lt (above kind member) higher)
      simpa [Calls.transition, advances, higher] using below
    · simp only [Calls.transition, advances, higher, decide_false, Bool.false_eq_true, if_false]
      simp only [mem_cons, received, or_true, forall_eq_or_imp, true_and]
      exact ⟨Nat.le_of_not_lt higher, above⟩

/-- The row gets the date of the kind received, if it has none, and keeps its state. -/
theorem Call.note_spec (c : Call) (payload : LifecyclePayload) (applied : Bool) :
    (c.note r payload applied).lifecycleState = c.lifecycleState ∧
      ∀ kind, (c.note r payload applied).dated kind =
      (kind = payload.lifecycleStatus || c.dated kind) := by
  unfold note
  repeat' split
  all_goals refine ⟨rfl, ?_⟩; rintro ⟨⟩ <;> simp_all [dated, Option.isSome_iff_ne_none]

theorem Store.moved_spec (s : Store) (r : Request) (payload : LifecyclePayload) :
    (s.moved r (s.decision r payload)).lifecycleState = (s.decision r payload).resulting ∧
      ∀ kind, (s.moved r (s.decision r payload)).dated kind = (s.calls r.correlation).any
      (·.dated kind) := by
  unfold moved decision state?
  rcases s.calls r.correlation with _ | c
  · exact ⟨rfl, by rintro ⟨⟩ <;> rfl⟩
  · by_cases higher : advances c.lifecycleState payload.lifecycleStatus
    all_goals exact ⟨by simp [transition, higher], by
      rintro ⟨⟩ <;> simp [transition, higher, Call.dated]⟩

theorem Logged.advance (logged : Logged call s events) (payload : LifecyclePayload) :
    Logged call (s.advance r payload)
      (if r.correlation = call then (r.eventId, payload.lifecycleStatus) :: events
        else events) := by
  by_cases own : r.correlation = call
  case neg =>
    have same : (s.advance r payload).calls call = s.calls call := update_of_ne (Ne.symm own) _ _
    have rows : (s.advance r payload).entries call = s.entries call := by
      simp [Store.advance, Store.entries, own]
    rw [if_neg own]
    constructor <;> simp only [Store.state?, same, rows]
    exacts [logged.highest, logged.dated, logged.entries, logged.chained, logged.current]
  subst own
  rw [if_pos rfl]
  obtain ⟨state, dates⟩ := s.moved_spec r payload
  obtain ⟨kept, dated⟩ := (s.moved r (s.decision r payload)).note_spec (r := r) payload
    (s.decision r payload).applied
  have now : (s.advance r payload).state? r.correlation =
      some (s.decision r payload).resulting := by
    simp [Store.advance, Store.state?, kept, state]
  have rows : (s.advance r payload).entries r.correlation =
      (s.advance r payload).log.head (by simp [Store.advance]) :: s.entries r.correlation := by
    simp [Store.advance, Store.entries]
  refine ⟨?_, fun kind => ?_, ?_, ?_, ?_⟩
  · rw [now]
    exact logged.highest.transition payload.lifecycleStatus
  · rw [map_cons, mem_cons, ← logged.dated]
    simp [Store.advance, dated, dates]
  · rw [rows, map_cons, logged.entries]
    rfl
  · rw [rows]
    exact ⟨(transition_previous _ _).trans logged.current.symm, logged.chained⟩
  · rw [rows, now]
    rfl

theorem logged_stable (call : String) :
    ((ingestion sha256).recording (accepted sha256 call)).Stable fun s => Logged call s.1 s.2 := by
  rintro ⟨s, events⟩ r - logged
  change Logged call (ingestVicidial sha256 s r).1 (accepted sha256 call s r ++ events)
  unfold accepted ingestVicidial
  dsimp only
  split
  · simpa using logged
  split
  · split <;> simpa using logged
  split
  · simpa using logged
  · generalize update s.records _ _ = records
    have stored : Logged call { s with records := records, eventIds := r.eventId :: s.eventIds }
        events :=
      ⟨logged.1, logged.2, logged.3, logged.4, logged.5⟩
    rcases r.lifecycle with _ | payload
    · simpa using stored
    · have next := stored.advance (r := r) payload
      by_cases own : r.correlation = call <;> simpa [own] using next

theorem logged_after (call : String) (run : List Request) :
    Logged call (after sha256 call run).1 (after sha256 call run).2 := by
  have start : Logged call .empty [] := by
    constructor <;> simp [Store.empty, Store.state?, Store.entries, Highest, Chained]
  exact (logged_stable call).after start
    (Transition.System.along_of_forall (fun _ _ => trivial) _ run)

theorem events_suffix (call : String) (run more : List Request) :
    (after sha256 call run).2 <:+ (after sha256 call (run ++ more)).2 := by
  unfold after
  rw [Transition.System.after_append]
  exact Transition.System.after_related (R := fun s t : Store × List _ => s.2 <:+ t.2)
    (fun _ => suffix_rfl) (fun _ _ _ => IsSuffix.trans) (fun _ _ => suffix_append _ _) _ more

/-- However the events of a call arrive, the store keeps the highest state, the dates of the kinds
received and an unbroken log; the state never falls, and its final value depends only on what
was received. -/
theorem lifecycle_monotone_and_logged (call : String) (run : List Request) :
    Logged call (after sha256 call run).1 (after sha256 call run).2 ∧
    (∀ more, ∀ state ∈ (after sha256 call run).1.state? call,
      ∃ later ∈ (after sha256 call (run ++ more)).1.state? call, rank state ≤ rank later) ∧
    ∀ other, ((after sha256 call run).2.map Prod.snd).Perm
    ((after sha256 call other).2.map Prod.snd) →
      (after sha256 call run).1.state? call = (after sha256 call other).1.state? call := by
  have logged := @logged_after sha256 call
  refine ⟨logged run, fun more state now => ?_, fun other same => ?_⟩
  · have received := ((events_suffix call run more).map Prod.snd).subset
      ((logged run).highest.2 state now).1
    obtain ⟨none_iff, highest⟩ := (logged (run ++ more)).highest
    cases final : (after sha256 call (run ++ more)).1.state? call with
    | none => simp [none_iff.mp final] at received
    | some later => exact ⟨later, rfl, (highest later final).2 state received⟩
  · exact (logged run).highest.unique (logged other).highest fun _ => same.mem_iff

end CodestraMiddleware.Calls
