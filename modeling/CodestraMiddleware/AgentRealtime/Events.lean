import CodestraMiddleware.Foundations.Run
import CodestraMiddleware.Foundations.Table

/-!
# Call events of agents

`ingest_agent_event` of `api/v1/agent_realtime.py`, and what `agent_websocket` first sends. Every
event that is new is stored, but the state of its call only follows events whose sequence number is
above that of the state, and none after a terminal one.
-/
namespace CodestraMiddleware.AgentRealtime

open Relational Transition

inductive EventType where
  | created | offered | ringing | answered | connected | held | resumed
  | transferStarted | transferCompleted | transferFailed
  | hangup | completed | failed | missed
  | dispositionUpdated | recordingStarted | recordingCompleted | recordingAvailable
  deriving DecidableEq

def EventType.terminal (type : EventType) : Bool := type ∈ [hangup, completed, failed, missed]

structure Scope where
  (tenantId businessUnitId campaignId agentId extension : String)
  deriving DecidableEq

structure AgentEvent where
  (eventId idempotencyKey correlationId callId : String)
  eventType : EventType
  scope : Scope
  sequence : Nat
  deriving DecidableEq

structure AgentCallState where
  (callId correlationId : String)
  scope : Scope
  eventType : EventType
  sequence : Nat

structure Store where
  states : Table AgentCallState.callId
  events : List (AgentEvent × Bool)

structure Settings where
  agentWebsocketEnabled : Bool
  (webphoneStagingEndpoint webphoneStagingCampaign : String)

inductive Reply where
  | denied (status : Nat) (detail : String)
  | duplicate
  | stored (applied : Bool)

def transitionAllowed (current : Option AgentCallState) (incoming : Nat) : Bool :=
  current.all fun state => incoming > state.sequence && !state.eventType.terminal

/-- The row of the event's call as the transaction leaves it. -/
def Store.row (s : Store) (event : AgentEvent) : AgentCallState :=
  match s.states.find? event.callId with
  | none => ⟨event.callId, event.correlationId, event.scope, event.eventType, event.sequence⟩
  | some state =>
    if transitionAllowed (some state) event.sequence then
      { state with eventType := event.eventType, sequence := event.sequence }
    else state

/-- The unique constraints that the check for duplicates does not cover. -/
def Store.clashes (s : Store) (row : AgentCallState) : Bool :=
  s.states.rows.any fun other => other.callId ≠ row.callId ∧
    (other.correlationId = row.correlationId ∨
    other.scope.extension = row.scope.extension ∧ other.sequence = row.sequence)

def ingestAgentEvent (settings : Settings) (s : Store) (event : AgentEvent) : Store × Reply :=
  let current := s.states.find? event.callId
  let applied := transitionAllowed current event.sequence
  if !settings.agentWebsocketEnabled then (s, .denied 503 "agent realtime disabled")
  else if event.scope.extension ≠ settings.webphoneStagingEndpoint then
    (s, .denied 403 "extension denied")
  else if event.scope.campaignId ≠ settings.webphoneStagingCampaign then
    (s, .denied 403 "campaign denied")
  else if s.events.any fun (old, _) => old.eventId = event.eventId ∨
      old.idempotencyKey = event.idempotencyKey then
    (s, .duplicate)
  else if applied ∧ current.any (·.scope ≠ event.scope) then
    (s, .denied 409 "call scope is immutable")
  else if s.clashes (s.row event) ∨ s.events.any fun (old, _) => old.callId = event.callId ∧
      old.sequence = event.sequence then
    (s, .denied 409 "event identity or sequence conflict")
  else (⟨s.states.put (s.row event), (event, applied) :: s.events⟩, .stored applied)

structure BrowserIdentity where
  (tenantId businessUnitId agentId endpoint : String)
  campaigns : List String

/-- The five comparisons of `_authorized`, which the loop of the socket makes on a document. -/
def BrowserIdentity.covers (identity : BrowserIdentity) (scope : Scope) : Bool :=
  scope.tenantId = identity.tenantId ∧ scope.businessUnitId = identity.businessUnitId ∧
    scope.campaignId ∈ identity.campaigns ∧ scope.agentId = identity.agentId ∧
    scope.extension = identity.endpoint

/-- The calls sent as `authoritative_state`; the query asks for nothing else. -/
def Store.snapshot (s : Store) (identity : BrowserIdentity) : List AgentCallState :=
  s.states.rows.filter fun state => identity.covers state.scope && !state.eventType.terminal

section

variable (settings : Settings) (call : String)

def ingestion : System Store AgentEvent where
  step s event := (ingestAgentEvent settings s event).1
  admits _ _ := True

section

variable (s : Store) (event : AgentEvent)

/-- The terminal events of a call that are stored. -/
def endings : List AgentEvent :=
  match (ingestAgentEvent settings s event).2 with
  | .stored _ => if event.callId = call ∧ event.eventType.terminal then [event] else []
  | _ => []

def Store.ended (s : Store) : Bool := (s.states.find? call).any (·.eventType.terminal)

/-- Once a terminal event was accepted, the state is terminal and no agent is sent the call. -/
def HiddenOnceEnded (s : Store × List AgentEvent) : Prop :=
  s.2 ≠ [] → s.1.ended call ∧ ∀ identity, ∀ shown ∈ s.1.snapshot identity, shown.callId ≠ call

/-- A terminal event comes first, or to an ended call, or with a higher sequence number. -/
def EndsInOrder : Prop :=
  event.eventType.terminal → (s.states.find? event.callId).all fun state =>
    state.eventType.terminal || state.sequence < event.sequence

instance : Decidable (EndsInOrder s event) := inferInstanceAs (Decidable (_ → _))

end

variable {settings call} {s : Store} {event : AgentEvent}

theorem ingest_cases (settings : Settings) (call : String) (s : Store) (event : AgentEvent) :
    (ingestAgentEvent settings s event).1 = s ∧ endings settings call s event = [] ∨
      (ingestAgentEvent settings s event).1.states = s.states.put (s.row event) ∧
        endings settings call s event = if event.callId = call ∧ event.eventType.terminal then
        [event] else [] := by
  unfold endings ingestAgentEvent
  dsimp only
  repeat' split
  all_goals simp_all

theorem ingest_events (ok : ingestAgentEvent settings s event = (store, .stored applied)) :
    store.events = (event, applied) :: s.events := by
  unfold ingestAgentEvent at ok
  dsimp only at ok
  repeat' split at ok
  all_goals cases ok
  rfl

theorem Store.row_callId (s : Store) (event : AgentEvent) :
    (s.row event).callId = event.callId := by
  unfold row
  split
  · rfl
  next state found =>
    have own : state.callId = event.callId := s.states.find?_key found
    split <;> exact own

theorem Store.row_terminal (inOrder : EndsInOrder s event)
    (ends : s.ended event.callId ∨ event.eventType.terminal) :
    (s.row event).eventType.terminal := by
  unfold EndsInOrder at inOrder
  unfold Store.ended at ends
  unfold row
  split
  next missing => simpa [missing] using ends
  next state found =>
    rw [found] at inOrder ends
    by_cases final : state.eventType.terminal
    · simp [transitionAllowed, final]
    · have terminal : event.eventType.terminal := by simpa [final] using ends
      have higher : state.sequence < event.sequence := by simpa [final] using inOrder terminal
      simp [transitionAllowed, final, higher, terminal]

theorem ended_step (inOrder : EndsInOrder s event) (ended : before ≠ [] → s.ended call)
    (now : endings settings call s event ++ before ≠ []) :
    (ingestAgentEvent settings s event).1.ended call := by
  rcases ingest_cases settings call s event with ⟨same, none⟩ | ⟨states, recorded⟩
  · rw [same]
    exact ended (by simpa [none] using now)
  rw [recorded] at now
  unfold Store.ended
  rw [states, Table.find?_put, s.row_callId]
  split
  next own =>
    subst own
    apply Store.row_terminal inOrder
    by_cases terminal : event.eventType.terminal
    · exact .inr terminal
    · exact .inl (ended (by simpa [terminal] using now))
  next other => exact ended (by simpa [other] using now)

theorem Store.ended_hidden (ended : s.ended call) (identity : BrowserIdentity) :
    ∀ shown ∈ s.snapshot identity, shown.callId ≠ call := by
  rintro shown listed rfl
  obtain ⟨stored, _⟩ := List.mem_filter.mp listed
  rw [Store.ended, s.states.find?_of_mem stored] at ended
  simp_all

/-- If the terminal events of a run come in order, no call is shown once a terminal event of it was
accepted. -/
theorem ended_calls_hidden (settings : Settings) (call : String) (s : Store) (run : List AgentEvent)
    (inOrder : ((ingestion settings).recording (endings settings call)).Along
      (fun t event => EndsInOrder t.1 event) (s, []) run) :
    ((ingestion settings).recording (endings settings call)).Always (HiddenOnceEnded call)
    (s, []) run := by
  refine System.always_of_along (I := fun t => t.2 ≠ [] → t.1.ended call)
    (fun t event _ meets ended => ended_step meets ended) ?_
    (by simp) (System.along_of_forall (fun _ _ => trivial) _ run) inOrder
  exact fun t ended now => ⟨ended now, Store.ended_hidden (ended now)⟩

end

namespace Sample

def settings : Settings := ⟨true, "1001", "outbound"⟩

def event (type : EventType) (sequence : Nat) : AgentEvent :=
  ⟨"event-id-" ++ toString sequence, "event-key-" ++ toString sequence, "correlation", "call", type,
    ⟨"tenant", "unit", "outbound", "agent", "1001"⟩, sequence⟩

def empty : Store := ⟨.empty _, []⟩

end Sample

open Sample in
theorem hangup_hidden : ((ingestion settings).recording (endings settings "call")).Always
      (HiddenOnceEnded "call") (empty, []) [event .connected 4, event .hangup 5] :=
  ended_calls_hidden settings "call" empty _ (by decide)

open Sample in
/-- The disposition arrives before the hangup that it follows. -/
theorem hangup_overtaken :
    ¬ ((ingestion settings).recording (endings settings "call")).Always (HiddenOnceEnded "call")
      (empty, []) [event .dispositionUpdated 5, event .hangup 4] := by
  intro always
  have ended := (always.last (by simp [System.after, System.recording, endings]; decide)).1
  revert ended
  decide

end CodestraMiddleware.AgentRealtime
