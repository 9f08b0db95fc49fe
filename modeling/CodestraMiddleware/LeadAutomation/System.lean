import CodestraMiddleware.Foundations.Run
import CodestraMiddleware.LeadAutomation.Service

/-!
# The lead automation service over a sequence of calls

Callers may use every operation at any time, with any payload, and switches and policies may change
between two calls. `Effect` says what one call can do to the events, the outbox and the idempotency
records.
-/
namespace CodestraMiddleware.LeadAutomation

open PythonValue Raising List State Never
open Service (ackPath arrival retryPath)

/-! ## Calls that cannot raise a conflict -/

abbrev Calm {α : Type} (x : Except Raised α) : Prop :=
  Never (fun raised => ∃ message, raised = .conflict message) x

variable {raised : Raised}

namespace Calm

variable {α : Type}

theorem of_other (other : ∀ message, raised ≠ .conflict message) :
    Calm (.error raised : Except Raised α) :=
  error.mpr (not_exists.mpr other)

theorem other (calm : Calm x) (failed : x = .error raised) :
    ∀ message, raised ≠ .conflict message :=
  not_exists.mp (calm.of_error failed)

@[simp] theorem typed (o : Option α) : Calm (typed o) := by
  cases o <;> simp [LeadAutomation.typed]

@[simp] theorem item (payload : List (String × Value)) (name : String) :
    Calm (item payload name) := by
  unfold LeadAutomation.item
  split <;> simp

@[simp] theorem fullmatch (pattern : String → Bool) (v : Value) : Calm (fullmatch pattern v) := by
  cases v <;> simp [LeadAutomation.fullmatch]

@[simp] theorem items (payload : Dict) (names : List String) : Calm (items payload names) := by
  induction names with
  | nil => exact ok []
  | cons name names ih => simp [LeadAutomation.items, ih]

end Calm

theorem Event.follow_calm (e : Event) (path : List AuditEntry) : Calm (e.follow path).2 := by
  induction path generalizing e with
  | nil => exact ok ()
  | cons step path ih =>
    rw [follow, transition]
    split
    next => exact ih _
    next raised stuck =>
      split at stuck
      · cases stuck
      · cases stuck
        simp

section

variable (rt : Runtime)

@[simp] theorem boundedString_calm (v : Value) (label : String) (maximum : Nat) (literal : String) :
    Calm (boundedString v label maximum literal) := by
  simp [boundedString]

@[simp] theorem flag_calm (v : Value) (other : ∀ message, raised ≠ .conflict message) :
    Calm (flag raised v) := by
  cases v <;> simp [flag, other]

@[simp] theorem validateAttributes_calm (schemaKey attributes : Value) :
    Calm (validateAttributes schemaKey attributes) := by
  simp only [validateAttributes, bind, Calm.typed, true_and]
  intro known _
  refine ⟨by simp, fun _ _ => ?_⟩
  split <;> simp

@[simp] theorem validateConsent_calm (consent : Value) : Calm (validateConsent consent) := by
  cases consent <;> simp [validateConsent]

@[simp] theorem validateOption_calm (payload : List (String × Value))
    (option : String × String × Nat) : Calm (validateOption payload option) := by
  unfold validateOption
  split <;> simp

@[simp] theorem validateApply_calm (payload : List (String × Value)) :
    Calm (validateApply rt payload) := by
  simp [validateApply]

@[simp] theorem buildApplyPayload_calm (event result : Dict) (automationEventId : String) :
    Calm (buildApplyPayload rt event result automationEventId) := by
  simp [buildApplyPayload]

@[simp] theorem validateNames_calm (field : String) (v : Value) : Calm (validateNames field v) := by
  cases v <;> simp [validateNames]

@[simp] theorem validateUpdatedAt_calm (v : Value) : Calm (validateUpdatedAt rt v) := by
  unfold validateUpdatedAt
  split
  · split <;> simp
  · simp

@[simp] theorem validateLead_calm (request : List (String × Value)) (lead : Value) :
    Calm (validateLead request lead) := by
  unfold validateLead
  split <;> simp

@[simp] theorem validateAck_calm (ack : Dict) (request : List (String × Value)) :
    Calm (validateAck rt ack request) := by
  simp [validateAck]

@[simp] theorem classifyAck_calm (ack : Dict) : Calm (classifyAck ack) := by
  simp only [classifyAck, bind, Calm.item, Calm.typed, true_and]
  intro result _ done _
  split
  · simp
  · split
    · simp only [bind, Calm.typed, true_and]
      intro retryable _
      split <;> simp
    · simp

@[simp] theorem Event.status_calm (e : Event) : Calm e.status := by simp [status]

end

/-- The entries of `path` lead from one state to another through `TRANSITIONS`. -/
def Trail : State → List AuditEntry → State → Prop
  | state, [], target => state = target
  | state, step :: path, target => step.state ∈ state.transitions ∧ Trail step.state path target

instance decidableTrail : ∀ state path target, Decidable (Trail state path target)
  | state, [], target => inferInstanceAs (Decidable (state = target))
  | _, step :: path, target =>
    @instDecidableAnd _ _ inferInstance (decidableTrail step.state path target)

namespace Trail

variable {state middle target : State} {path rest : List AuditEntry}

theorem append (first : Trail state path middle) (second : Trail middle rest target) :
    Trail state (path ++ rest) target := by
  induction path generalizing state with
  | nil =>
    cases first
    exact second
  | cons step path ih => exact ⟨first.1, ih first.2⟩

theorem target_unique (first : Trail state path middle) (second : Trail state path target) :
    middle = target := by
  induction path generalizing state with
  | nil => exact Eq.trans (Eq.symm first) second
  | cons step path ih => exact ih first.2 second.2

theorem of_terminal (final : state ∈ terminal) (trail : Trail state path target) :
    path = [] ∧ target = state := by
  cases path with
  | nil => exact ⟨rfl, trail.symm⟩
  | cons =>
    have first := trail.1
    rw [transitions_terminal final] at first
    cases first

end Trail

theorem Event.follow_trail (e : Event) (path : List AuditEntry) : ∃ taken, taken <+: path ∧
    (e.follow path).1.audit = e.audit ++ taken ∧ Trail e.state taken (e.follow path).1.state := by
  induction path generalizing e with
  | nil => exact ⟨[], prefix_rfl, (append_nil _).symm, rfl⟩
  | cons step path ih =>
    rw [follow, transition]
    by_cases valid : step.state ∈ e.state.transitions
    · rw [if_pos valid]
      obtain ⟨taken, before, audit, trail⟩ := ih
        { e with state := step.state, audit := e.audit ++ [⟨step.state, step.resultCode⟩] }
      refine ⟨step :: taken, (cons_prefix_cons).mpr ⟨rfl, before⟩, ?_, valid, trail⟩
      rw [audit, append_assoc]
      rfl
    · -- `_transition` raises before it writes, so the trail ends here.
      rw [if_neg valid]
      exact ⟨[], nil_prefix, (append_nil _).symm, rfl⟩

/-- How the paths of the operations begin: none of them goes through the policy again, none enters
`ODOO_APPLY_PENDING` directly, and a dispatch is only reserved from `OUTBOX_PENDING`. -/
def Enters (state : State) (path : List AuditEntry) : Prop :=
  ∀ step ∈ path.head?, step.state ∉ [.schemaValidated, .policyEvaluating, .policyAllowed,
      .odooApplyPending] ∧ (step.state = .dispatchReserved → state = .outboxPending)

theorem Enters.of_prefix (enters : Enters state path) (before : taken <+: path) :
    Enters state taken := by
  obtain ⟨_, rfl⟩ := before
  cases taken with
  | nil => simp [Enters]
  | cons => exact enters

theorem ackPath_enters (state : State) (ack : Dict) (ackClass : AckClass) :
    Enters state (ackPath ack ackClass) := by
  cases ackClass with
  | complete | retry => simp [ackPath, Enters]
  | permanent =>
    simp only [ackPath]
    split
    · simp [Enters]
    · split
      · simp [Enters]
      · split <;> simp [Enters]

theorem retryPath_enters (e : Event) (attempts maximumAttempts : Int) :
    Enters e.state (retryPath e attempts maximumAttempts) := by
  unfold retryPath
  split
  · split <;> simp [Enters]
  · simp [Enters]

inductive Operation where
  | configure (enabled bindingEnabled resultProcessingEnabled odooApplyEnabled : Bool)
      (actionSwitches : List String)
  | addPolicy (policy : Policy)
  | receive (uuid : UuidHex) (payload : Dict)
  | reserveDispatch (eventId : String) (scope : TenantScope)
  | markDispatched (eventId : String) (scope : TenantScope)
  | acknowledgeN8n (eventId : String) (scope : TenantScope)
  | receiveResult (payload : Dict) (scope : TenantScope)
  | applyOdooAck (eventId : String) (ack : Dict) (scope : TenantScope)
  | recordRetry (eventId : String) (scope : TenantScope) (attempts maximumAttempts : Int)

def outcome {α : Type} (result : Service × Except Raised α) : Service × Option Raised :=
  (result.1, match result.2 with
    | .ok _ => none
    | .error raised => some raised)

theorem outcome_eq_some : (outcome result).2 = some raised ↔ result.2 = .error raised := by
  obtain ⟨t, answer⟩ := result
  cases answer <;> simp [outcome]

theorem outcome_calm (calm : Calm result.2) (message : String) :
    (outcome result).2 ≠ some (.conflict message) :=
  fun conflict => calm _ ⟨message, rfl⟩ (outcome_eq_some.mp conflict)

namespace Service

def initial : Service := {}

variable (rt : Runtime) (s : Service)

def perform : Operation → Service × Option Raised
  | .configure enabled bindingEnabled resultProcessingEnabled odooApplyEnabled actionSwitches =>
    ({ s with enabled, bindingEnabled, resultProcessingEnabled, odooApplyEnabled, actionSwitches },
      none)
  | .addPolicy policy => (s.addPolicy policy, none)
  | .receive uuid payload => outcome (s.receive rt uuid payload)
  | .reserveDispatch eventId scope => outcome (s.reserveDispatch eventId scope)
  | .markDispatched eventId scope => outcome (s.markDispatched eventId scope)
  | .acknowledgeN8n eventId scope => outcome (s.acknowledgeN8n eventId scope)
  | .receiveResult payload scope => outcome (s.receiveResult rt payload scope)
  | .applyOdooAck eventId ack scope => outcome (s.applyOdooAck rt eventId ack scope)
  | .recordRetry eventId scope attempts maximumAttempts =>
    outcome (s.recordRetry eventId scope attempts maximumAttempts)

/-- No event, outbox row or stored response has the id. -/
def Fresh (id : String) : Prop :=
  (∀ h ∈ s.events, h.event.automationEventId ≠ id) ∧
    (∀ row ∈ s.outbox, row.automationEventId ≠ id) ∧
    ∀ record ∈ s.idempotency, record.response.automationEventId ≠ id

instance (id : String) : Decidable (s.Fresh id) := inferInstanceAs (Decidable (_ ∧ _ ∧ _))

/-- Whether a payload passes every check of `receive`, so that its event is stored. -/
def stores (payload : Dict) : Bool :=
  let key := payload.getD "idempotency_key" (.str "")
  key.hashable && (s.replay? (.fromPayload rt payload) key).isNone && (ingress payload).toBool &&
    (payload.getD "event_id" (.str "")).hashable

end Service

/-- `uuid4` never gives an id that is in use. -/
def system (rt : Runtime) : Transition.System Service Operation where
  step s op := (s.perform rt op).1
  admits s
    | .receive uuid _ => s.Fresh ("LAE-" ++ uuid.text)
    | _ => True

instance (rt : Runtime) (s : Service) : ∀ op, Decidable ((system rt).admits s op)
  | .receive uuid _ => inferInstanceAs (Decidable (s.Fresh ("LAE-" ++ uuid.text)))
  | .configure .. | .addPolicy _ | .reserveDispatch .. | .markDispatched .. | .acknowledgeN8n ..
  | .receiveResult .. | .applyOdooAck .. | .recordRetry .. => isTrue trivial

variable {op : Operation}

namespace Operation

variable (rt : Runtime) (s : Service)

def arrival? : Operation → Option Held
  | .receive uuid payload => if s.stores rt payload then some (arrival rt uuid payload) else none
  | _ => none

def target? : Operation → Option Event
  | .receiveResult payload scope => s.find? (payload.getD "event_id" (.str "")) scope
  | .applyOdooAck eventId _ scope => s.find? (.str eventId) scope
  | _ => none

variable {rt s}

theorem arrival?_eq_some (stored : op.arrival? rt s = some arrived) :
    ∃ uuid payload, op = .receive uuid payload ∧ arrived = arrival rt uuid payload := by
  cases op with
  | receive uuid payload =>
    simp only [arrival?] at stored
    split at stored
    · cases stored
      exact ⟨uuid, payload, rfl, rfl⟩
    · cases stored
  | _ => cases stored

end Operation

/-- An event goes on along a trail, and may get its result or an acknowledgement on the way. -/
structure Moves (s : Service) (e e' : Event) : Prop where
  automationEventId : e'.automationEventId = e.automationEventId
  payload : e'.payload = e.payload
  trail : ∃ path, Enters e.state path ∧ e'.audit = e.audit ++ path ∧ Trail e.state path e'.state
  result : e'.resultPayload = e.resultPayload ∨
    ∃ result execution, e'.resultPayload = some result ∧ s.checkResult e result = .ok execution
  acknowledgement : e'.odooAck = e.odooAck ∨ ∃ ack ackClass, e'.odooAck = some ack ∧
    classifyAck ack = .ok ackClass

/-- What a call that stores an event leaves behind. A call that raises on the way to an answer
leaves an event that is still being evaluated. -/
structure Stored (s : Service) (arrived new : Held) (t : Service) : Prop where
  scope : new.scope = arrived.scope
  eventId : new.eventId = arrived.eventId
  automationEventId : new.event.automationEventId = arrived.event.automationEventId
  payload : new.event.payload = arrived.event.payload
  ingress : Service.ingress arrived.event.payload = .ok ()
  resultPayload : new.event.resultPayload = none
  odooAck : new.event.odooAck = none
  trail : Trail .received new.event.audit new.event.state
  events : t.events = Service.place new s.events
  records : (new.event.state = .policyEvaluating ∧ t.outbox = s.outbox ∧
    t.idempotency = s.idempotency) ∨
    ∃ record, t.idempotency = s.idempotency ++ [record] ∧ record.scope = arrived.scope ∧
      record.response.automationEventId = arrived.event.automationEventId ∧
      ((new.event.state ∈ terminal ∧ t.outbox = s.outbox) ∨
        ∃ row, new.event.state = .outboxPending ∧ t.outbox = s.outbox ++ [row] ∧
          row.scope = arrived.scope ∧ row.automationEventId = arrived.event.automationEventId)

structure SameRecords (s t : Service) : Prop where
  outbox : t.outbox = s.outbox
  idempotency : t.idempotency = s.idempotency

/-- What an operation can do to the service. -/
inductive Effect (rt : Runtime) (s : Service) (op : Operation) (t : Service)
    (raised : Option Raised) : Prop where
  | keeps (quiet : op.arrival? rt s = none) (events : t.events = s.events)
      (records : SameRecords s t)
    (calm : ∀ e ∈ op.target? s, ∀ message, raised ≠ some (.conflict message))
  | stores (arrived new : Held) (stored : op.arrival? rt s = some arrived)
    (spec : Stored s arrived new t) (untargeted : op.target? s = none)
  | moves (quiet : op.arrival? rt s = none) (e e' : Event) (held : ∃ h ∈ s.events, h.event = e)
    (moved : Moves s e e') (events : t.events = (s.write e').events) (records : SameRecords s t)
    (calm : ∀ e ∈ op.target? s, ∀ message, raised ≠ some (.conflict message))
  | quarantines (quiet : op.arrival? rt s = none) (e : Event) (held : ∃ h ∈ s.events, h.event = e)
    (target : op.target? s = some e) (events :
      t.events = (s.write { e with state := .quarantined }).events)
    (records : SameRecords s t) (message : String) (conflict : raised = some (.conflict message))

variable {e : Event}

namespace Service

variable {rt : Runtime} {s : Service}

theorem find?_held {scope : TenantScope} (found : s.find? eventId scope = some e) :
    ∃ h ∈ s.events, h.event = e := by
  obtain ⟨h, first, rfl⟩ := Option.map_eq_some_iff.mp found
  exact ⟨h, mem_of_find?_eq_some first, rfl⟩

/-! ### `receive` -/

theorem receive_of_not_stores {payload : Dict} (uuid : UuidHex)
    (refused : s.stores rt payload = false) :
    (s.receive rt uuid payload).1.events = s.events ∧
    SameRecords s (s.receive rt uuid payload).1 := by
  unfold receive
  dsimp only
  split
  · exact ⟨rfl, rfl, rfl⟩
  next key =>
    split
    · split <;> exact ⟨rfl, rfl, rfl⟩
    next fresh =>
      split
      · exact ⟨rfl, rfl, rfl⟩
      next passed =>
        split
        · exact ⟨rfl, rfl, rfl⟩
        next eventId =>
          -- All four conditions of `stores` hold here.
          simp_all [stores, arrival, Except.toBool]

theorem receive_of_stores {payload : Dict} (uuid : UuidHex) (passes : s.stores rt payload = true) :
    s.receive rt uuid payload = s.accept (arrival rt uuid payload)
      (payload.getD "idempotency_key" (.str "")) ∧ ingress payload = .ok () := by
  simp only [stores, Bool.and_eq_true, Option.isNone_iff_eq_none] at passes
  obtain ⟨⟨⟨key, fresh⟩, checked⟩, eventId⟩ := passes
  have passed : ingress payload = .ok () := by
    cases result : ingress payload with
    | ok => rfl
    | error raised => simp [result, Except.toBool] at checked
  refine ⟨?_, passed⟩
  have scope : (arrival rt uuid payload).scope = .fromPayload rt payload := rfl
  have hashable : (arrival rt uuid payload).eventId.hashable = true := eventId
  simp [receive, key, scope, fresh, passed, hashable]

theorem required_of_ingress (passed : ingress payload = .ok ()) :
    requiredEventFields ⊆ payload.keys := by
  simp only [ingress, bind_eq_ok, check_eq_ok] at passed
  obtain ⟨_, _, _, required, _⟩ := passed
  exact required

theorem status_of_ingress (passed : ingress e.payload = .ok ()) :
    ∃ response, e.status = .ok response ∧ response.automationEventId = e.automationEventId := by
  have present : ∀ name ∈ requiredEventFields, ∃ v, e.payload.entries.lookup name = some v :=
    fun name member => Option.isSome_iff_exists.mp
      (e.payload.get?_isSome_iff.mpr (required_of_ingress passed member))
  obtain ⟨eventId, first⟩ := present "event_id" (by decide)
  obtain ⟨environment, second⟩ := present "environment" (by decide)
  obtain ⟨version, third⟩ := present "policy_version" (by decide)
  exact ⟨⟨e.automationEventId, eventId, environment, e.state, version⟩, by
    simp [Event.status, first, second, third], rfl⟩

def evaluating (arrived : Held) : Held :=
  { arrived with event := { arrived.event with state := .policyEvaluating, audit := ingressPath } }

def Verdict.state : Verdict → State
  | .denied _ => .policyDenied
  | .dncBlocked => .dncBlocked
  | .consentBlocked => .consentBlocked
  | .allowed => .outboxPending

def evaluated (arrived : Held) (verdict : Verdict) : Held :=
  { arrived with event := { arrived.event with
    state := verdict.state, audit := ingressPath ++ verdict.path } }

theorem arrival_follow : (arrival rt uuid payload).event.follow ingressPath =
      ((evaluating (arrival rt uuid payload)).event, .ok ()) := rfl

theorem accept_of_raised (failed : s.evaluate payload = .error raised) :
    s.accept (arrival rt uuid payload)
    key = (s.hold (evaluating (arrival rt uuid payload)), .error raised) := by
  have same : (arrival rt uuid payload).event.payload = payload := rfl
  simp only [accept, arrival_follow, same, failed]
  rfl

theorem accept_of_verdict (decided : s.evaluate payload = .ok verdict)
    (answered : (evaluated (arrival rt uuid payload) verdict).event.status = .ok response) :
    s.accept (arrival rt uuid payload) key =
      let new := evaluated (arrival rt uuid payload) verdict
      ({ s.hold new with
          outbox := if verdict = .allowed then s.outbox ++ [{
              automationEventId := new.event.automationEventId
              scope := new.scope
              enabled := s.bindingEnabled
              attempts := 0 }] else s.outbox
          idempotency := s.idempotency ++ [⟨new.scope, key, new.event.payloadHash, response⟩] },
        .ok response) := by
  have finish : (evaluating (arrival rt uuid payload)).event.follow verdict.path =
      ((evaluated (arrival rt uuid payload) verdict).event, .ok ()) := by
    cases verdict <;> rfl
  have same : (arrival rt uuid payload).event.payload = payload := rfl
  simp only [accept, arrival_follow, same, decided, finish, answered]
  split <;> rfl

theorem accept_stored (rt : Runtime) (uuid : UuidHex) {payload : Dict} (key : Value)
    (passed : ingress payload = .ok ()) :
    ∃ new, Stored s (arrival rt uuid payload) new (s.accept (arrival rt uuid payload) key).1 := by
  cases decided : s.evaluate payload with
  | error raised =>
    rw [accept_of_raised decided]
    exact ⟨evaluating (arrival rt uuid payload), {
      scope := rfl, eventId := rfl, automationEventId := rfl, payload := rfl, ingress := passed
      resultPayload := rfl, odooAck := rfl,
      trail := by simp [evaluating, ingressPath, Trail, transitions]
      events := rfl
      records := Or.inl ⟨rfl, rfl, rfl⟩ }⟩
  | ok verdict =>
    obtain ⟨_, answered, id⟩ := status_of_ingress
      (e := (evaluated (arrival rt uuid payload) verdict).event) passed
    rw [accept_of_verdict decided answered]
    refine ⟨evaluated (arrival rt uuid payload) verdict, {
      scope := rfl, eventId := rfl, automationEventId := rfl, payload := rfl, ingress := passed
      resultPayload := rfl, odooAck := rfl, trail := ?_, events := rfl
      records := Or.inr ⟨_, rfl, rfl, id, ?_⟩ }⟩
    · cases verdict <;>
      simp [evaluated, ingressPath, Verdict.path, Verdict.state, Trail, transitions]
    · cases verdict with
      | allowed => exact Or.inr ⟨_, rfl, rfl, rfl, rfl⟩
      | _ => exact Or.inl ⟨by simp [evaluated, Verdict.state, terminal], rfl⟩

/-! ### The other operations -/

theorem move_calm (s : Service) (e : Event) (path : List AuditEntry)
    (calm : ∀ e', Calm (answer e')) : Calm (s.move e path answer).2 := by
  unfold move
  split
  · exact calm _
  next raised failed =>
    have quiet := e.follow_calm path
    rw [failed] at quiet
    exact Calm.of_other (quiet.other rfl)

theorem outcome_map (result : Service × Except Raised α) (f : α → β) :
    outcome (result.1, result.2.map f) = outcome result := by
  obtain ⟨t, answer⟩ := result
  cases answer <;> rfl

section

variable (quiet : op.arrival? rt s = none)

include quiet

theorem calm_effect {x : Except Raised α} (calm : Calm x) :
    Effect rt s op (outcome (s, x)).1 (outcome (s, x)).2 :=
  .keeps quiet rfl ⟨rfl, rfl⟩ fun _ _ => outcome_calm calm

theorem kept_effect {raised : Option Raised} (untargeted : op.target? s = none)
    (events : t.events = s.events) (records : SameRecords s t) : Effect rt s op t raised :=
  .keeps quiet events records (by simp [untargeted])

variable (held : ∃ h ∈ s.events, h.event = e)

include held

theorem move_effect (s' : Service) (ack : Option Dict) {answer : Event → Except Raised α}
    (classified : ack = e.odooAck ∨ ∃ a ackClass, ack = some a ∧ classifyAck a = .ok ackClass)
    (events : s'.events = s.events) (records : SameRecords s s') (enters : Enters e.state path)
    (calm : ∀ e', Calm (answer e')) :
    Effect rt s op (outcome (s'.move { e with odooAck := ack } path answer)).1
      (outcome (s'.move { e with odooAck := ack } path answer)).2 := by
  obtain ⟨taken, before, audit, trail⟩ := Event.follow_trail { e with odooAck := ack } path
  obtain ⟨id, payload, result, kept⟩ := Event.follow_agrees { e with odooAck := ack } path
  have moved : Moves s e (Event.follow { e with odooAck := ack } path).1 :=
    ⟨id, payload, ⟨taken, enters.of_prefix before, audit, trail⟩, Or.inl result, kept ▸ classified⟩
  have left : (outcome (s'.move { e with odooAck := ack } path answer)).1 =
      s'.write (Event.follow { e with odooAck := ack } path).1 := by
    unfold outcome move
    split <;> simp_all
  rw [left]
  refine .moves quiet e _ held moved ?_ ⟨records.outbox, records.idempotency⟩ fun _ _ =>
    outcome_calm (move_calm s' _ path calm)
  rw [write, events, write]

theorem quarantined_effect (s' : Service) (message : String) (target : op.target? s = some e)
    (events : s'.events = s.events) (records : SameRecords s s') :
    Effect rt s op (outcome (s'.quarantined (α := α) e message)).1
    (outcome (s'.quarantined (α := α) e message)).2 := by
  refine .quarantines quiet e held target ?_ ⟨records.outbox, records.idempotency⟩ message rfl
  rw [outcome, quarantined, write, events, write]

theorem acceptResult_effect (s' : Service) (checked : s.checkResult e payload = .ok execution)
    (events : s'.events = s.events) (records : SameRecords s s') :
    Effect rt s op (outcome (s'.acceptResult rt e payload)).1
    (outcome (s'.acceptResult rt e payload)).2 := by
  have enters : Enters e.state resultPath := by simp [resultPath, Enters]
  obtain ⟨taken, before, audit, trail⟩ := e.follow_trail resultPath
  obtain ⟨id, same, result, ack⟩ := e.follow_agrees resultPath
  have calm := e.follow_calm resultPath
  have written : ∀ e', (s'.write e').events = (s.write e').events := fun e' => by
    rw [write, events, write]
  unfold acceptResult
  split
  next e' raised followed =>
    -- A path that is cut short is a trail too, and the result is not kept.
    rw [followed] at audit trail id same result ack calm
    exact .moves quiet e e' held
      ⟨id, same, ⟨taken, enters.of_prefix before, audit, trail⟩, Or.inl result, Or.inl ack⟩
      (written e')
      ⟨records.outbox, records.idempotency⟩ fun _ _ => outcome_calm (Calm.of_other (calm.other rfl))
  next e' followed =>
    rw [followed] at audit trail id same ack
    refine .moves quiet e _ held ?_ (written _) ⟨records.outbox, records.idempotency⟩ fun _ _ =>
      outcome_calm (ok _)
    exact ⟨id, same, ⟨taken, enters.of_prefix before, audit, trail⟩,
      Or.inr ⟨payload, execution, rfl, checked⟩, Or.inl ack⟩

theorem applyAck_effect (ack : Dict) (target : op.target? s = some e) :
    Effect rt s op (outcome (s.applyAck rt e ack)).1 (outcome (s.applyAck rt e ack)).2 := by
  unfold applyAck
  split
  next result _ waiting =>
    split
    next raised failed =>
      exact calm_effect quiet (Calm.of_other (Calm.other (buildApplyPayload_calm rt _ _ _) failed))
    next request _ =>
      split
      next => exact quarantined_effect quiet held _ _ target rfl ⟨rfl, rfl⟩
      next raised _ failed =>
        exact calm_effect quiet (Calm.of_other
          (Calm.other (validateAck_calm rt ack request) failed))
      next =>
        split
        next raised failed =>
          exact calm_effect quiet (Calm.of_other (Calm.other (classifyAck_calm ack) failed))
        next ackClass classified =>
          exact move_effect quiet held _ _ (Or.inr ⟨ack, ackClass, rfl, classified⟩) rfl ⟨rfl, rfl⟩
            (ackPath_enters _ _ _) Event.status_calm
  next => exact quarantined_effect quiet held _ _ target rfl ⟨rfl, rfl⟩

end

theorem receiveResult_effect (payload : Dict) (scope : TenantScope) :
    Effect rt s (.receiveResult payload scope) (outcome (s.receiveResult rt payload scope)).1
      (outcome (s.receiveResult rt payload scope)).2 := by
  have quiet : (Operation.receiveResult payload scope).arrival? rt s = none := rfl
  unfold receiveResult
  dsimp only
  split
  · exact calm_effect quiet (by simp [notFound])
  split
  · exact calm_effect quiet (by simp [notFound])
  next e found =>
    have held := find?_held found
    split
    · -- The event has a result already.
      split
      · exact calm_effect quiet (by simp)
      · exact quarantined_effect quiet held _ _ found rfl ⟨rfl, rfl⟩
    · split
      · exact calm_effect quiet (by simp)
      · -- The checks can raise a conflict, which quarantines, or anything else, which does not.
        split
        next message _ => exact quarantined_effect quiet held _ _ found rfl ⟨rfl, rfl⟩
        next raised other _ => exact calm_effect quiet (by simpa using other)
        next execution checked =>
          rw [outcome_map]
          exact acceptResult_effect quiet held _ checked rfl ⟨rfl, rfl⟩

theorem applyOdooAck_effect (eventId : String) (ack : Dict) (scope : TenantScope) :
    Effect rt s (.applyOdooAck eventId ack scope) (outcome (s.applyOdooAck rt eventId ack scope)).1
      (outcome (s.applyOdooAck rt eventId ack scope)).2 := by
  have quiet : (Operation.applyOdooAck eventId ack scope).arrival? rt s = none := rfl
  unfold applyOdooAck
  split
  · exact calm_effect quiet (by simp [notFound])
  next e found =>
    have held := find?_held found
    split
    · exact calm_effect quiet (by simp)
    · split
      · exact applyAck_effect quiet held ack found
      next previous _ =>
        -- A repeated acknowledgement is answered again; another one may only follow a retryable
        -- one.
        split
        · exact calm_effect quiet e.status_calm
        · split
          next raised failed =>
            exact calm_effect quiet (Calm.of_other (Calm.other (classifyAck_calm previous) failed))
          next earlier _ =>
            split
            · exact applyAck_effect quiet held ack found
            · exact quarantined_effect quiet held _ _ found rfl ⟨rfl, rfl⟩

theorem perform_effect (op : Operation) :
    Effect rt s op (s.perform rt op).1 (s.perform rt op).2 := by
  cases op with
  | configure | addPolicy => exact kept_effect rfl rfl rfl ⟨rfl, rfl⟩
  | receive uuid payload =>
    cases passes : s.stores rt payload with
    | true =>
      obtain ⟨accepted, passed⟩ := receive_of_stores uuid passes
      obtain ⟨new, stored⟩ := accept_stored rt uuid (payload.getD "idempotency_key" (.str ""))
        passed (s := s)
      rw [← accepted] at stored
      exact .stores _ new (by simp [Operation.arrival?, passes]) stored rfl
    | false =>
      obtain ⟨events, records⟩ := receive_of_not_stores uuid passes
      exact kept_effect (by simp [Operation.arrival?, passes]) rfl events records
  | reserveDispatch =>
    simp only [perform, reserveDispatch]
    split
    · exact kept_effect rfl rfl rfl ⟨rfl, rfl⟩
    next e found =>
      split
      · exact kept_effect rfl rfl rfl ⟨rfl, rfl⟩
      next ready =>
        simp only [not_or, not_not] at ready
        exact move_effect rfl (find?_held found) s e.odooAck (.inl rfl) rfl ⟨rfl, rfl⟩
          (by simp [Enters, ready.1]) fun _ => ok _
  | markDispatched | acknowledgeN8n =>
    simp only [perform, markDispatched, acknowledgeN8n]
    split
    · exact kept_effect rfl rfl rfl ⟨rfl, rfl⟩
    next e found =>
      exact move_effect rfl (find?_held found) s e.odooAck (.inl rfl) rfl ⟨rfl, rfl⟩
        (by simp [Enters]) fun _ => ok _
  | receiveResult payload scope => exact receiveResult_effect payload scope
  | applyOdooAck eventId ack scope => exact applyOdooAck_effect eventId ack scope
  | recordRetry =>
    simp only [perform, recordRetry]
    split
    · exact kept_effect rfl rfl rfl ⟨rfl, rfl⟩
    next e found =>
      exact move_effect rfl (find?_held found) s e.odooAck (.inl rfl) rfl ⟨rfl, rfl⟩
        (retryPath_enters e _ _) fun _ => ok _

theorem step_effect (rt : Runtime) (s : Service) (op : Operation) :
    Effect rt s op ((system rt).step s op) (s.perform rt op).2 := perform_effect op

end Service

/-! ## A service with one policy -/

namespace Sample

def runtime : Runtime where
  sha256 _ := "digest"
  texts := ⟨fun _ => "", fun _ => ""⟩
  uuid _ := true
  fromisoformat _ := .aware (some 0)

def uuid (digit : Char) : UuidHex := ⟨String.ofList (replicate 32 digit), by simp⟩

def policy : Policy where
  environment := "test"
  businessUnitKey := "retail"
  campaignKey := "spring"
  eventType := "lead.created"
  action := "CREATE_LEAD"
  policyVersion := "1"
  allow := true
  requiresConsent := false
  contactEligible := false
  allowedFields := []
  enabled := true

def scope : TenantScope := ⟨"test", "retail", "spring"⟩

def fields (eventId key : String) : List (String × Value) := [
  ("contract_version", .str "1.1"), ("event_id", .str eventId), ("event_type", .str "lead.created"),
  ("environment", .str "test"), ("company_key", .str "COMPANY-7"),
    ("business_unit_key", .str "retail"),
  ("campaign_key", .str "spring"), ("automation_action", .str "CREATE_LEAD"),
  ("policy_version", .str "1"), ("attributes", .dict []), ("consent_snapshot", .dict []),
  ("attributes_schema_key", .str "farming-lead-v1"), ("idempotency_key", .str key)]

def payload (eventId key : String) : Dict :=
  ⟨fields eventId key, by simp [fields, Value.wellFormed, Value.entriesWellFormed]⟩

def result : Dict := ⟨[("contract_version", .str "1.1"), ("event_id", .str "E1"),
      ("workflow_execution_id", .str "N8N-1"),
  ("binding_key", .str "n8n.leads.ingest"), ("environment", .str "test"),
  ("company_key", .str "COMPANY-7"), ("business_unit_key", .str "retail"),
  ("campaign_key", .str "spring"), ("automation_action", .str "CREATE_LEAD"),
  ("result_status", .str "ok"), ("result_code", .str "OK"), ("result_payload", .dict []),
  ("occurred_at", .str ""), ("idempotency_key", .str "R1")], by decide⟩

def prepared : List Operation := [.configure true true true true actions, .addPolicy policy]

end Sample

end CodestraMiddleware.LeadAutomation
