import CodestraMiddleware.LeadAutomation.Events
import CodestraMiddleware.LeadAutomation.System

/-!
# What a rejected call leaves behind

`receive` stores the event before it looks up the policy and reads the consent, and `receive_result`
records the workflow execution before it takes the event on. A call that raises after these writes
leaves them in place.
-/
namespace CodestraMiddleware.LeadAutomation

open PythonValue Raising

structure Untouched (s t : Service) : Prop where
  events : t.events = s.events
  idempotency : t.idempotency = s.idempotency
  workflowIds : t.workflowIds = s.workflowIds
  outbox : t.outbox = s.outbox

section

variable {α : Type} (s : Service) (result : Service × Except Raised α)

/-- A call that raises anything but a `Conflict` leaves what is stored as it was. -/
def Atomic : Prop :=
  ∀ raised, result.2 = .error raised → (∀ message, raised ≠ .conflict message) →
    Untouched s result.1

/-- A call that raises anything but a `Conflict` changes nothing at all. -/
def NoTrace : Prop :=
  ∀ raised, result.2 = .error raised → (∀ message, raised ≠ .conflict message) → result.1 = s

end

theorem NoTrace.atomic (same : NoTrace s result) : Atomic s result := by
  intro raised failed other
  rw [same raised failed other]
  exact ⟨rfl, rfl, rfl, rfl⟩

theorem NoTrace.of_ok (s t : Service) (a : α) : NoTrace s (t, .ok a) := by
  intro raised failed
  cases failed

variable {e : Event}

namespace Service

variable {rt : Runtime} {s : Service}

/-! ## `receive` -/

/-- The policy of a payload can be looked up, and its consent can be read if the policy asks for
it. -/
structure Readable (s : Service) (payload : Dict) : Prop where
  key : ∀ name ∈ policyFields, (payload.getD name .null).hashable = true
  consent : ∀ policy, s.lookupPolicy payload = .ok (some policy) →
    s.inForce policy payload = true → (policy.contactEligible = true ∨
      policy.requiresConsent = true) →
      ∃ entries, payload.getD "consent_snapshot" .null = .dict entries

theorem lookupPolicy_ok_iff (required : requiredEventFields ⊆ payload.keys) :
    (∃ found, s.lookupPolicy payload = .ok found) ↔
    ∀ name ∈ policyFields, (payload.getD name .null).hashable = true := by
  have present : policyFields ⊆ payload.keys :=
    List.Subset.trans (by decide : policyFields ⊆ requiredEventFields) required
  have key := items_eq_ok_iff.mpr ⟨present, rfl⟩
  constructor
  · rintro ⟨_, looked⟩ name member
    simp only [lookupPolicy, bind_eq_ok, check_eq_ok, key, Except.ok.injEq,
      exists_eq_left'] at looked
    obtain ⟨-, hashable, -⟩ := looked
    exact hashable _ (List.mem_map_of_mem member)
  · intro hashable
    refine ⟨_, bind_eq_ok.mpr ⟨_, key, bind_eq_ok.mpr ⟨(), check_eq_ok.mpr ?_, rfl⟩⟩⟩
    exact List.forall_mem_map.mpr hashable

theorem evaluateConsent_ok_iff : (∃ verdict, evaluateConsent policy consent = .ok verdict) ↔
      (policy.contactEligible = true ∨ policy.requiresConsent = true →
        ∃ entries, consent = .dict entries) := by
  unfold evaluateConsent
  by_cases readable : ∃ entries, consent = .dict entries
  · obtain ⟨entries, rfl⟩ := readable
    refine iff_of_true ?_ fun _ => ⟨entries, rfl⟩
    have read : ∀ asked name unasked, ∃ v, consentField asked (.dict entries) name
        unasked = .ok v := by
      intro asked name unasked
      cases asked <;> exact ⟨_, rfl⟩
    obtain ⟨dnc, first⟩ := read policy.contactEligible "dnc_status" .null
    obtain ⟨_, second⟩ := read policy.requiresConsent "consent_status" (.str "granted")
    simp only [first, second, Bind.bind, Except.bind]
    split
    · exact ⟨_, rfl⟩
    · split <;> exact ⟨_, rfl⟩
  · have unread : ∀ name unasked, consentField true consent name unasked =
        .error .attributeError := by
      intro name unasked
      cases consent <;> simp_all [consentField]
    have unasked : ∀ name v, consentField false consent name v = .ok v := fun _ _ => rfl
    -- Whichever of the two is asked for first raises.
    cases policy.contactEligible <;> cases policy.requiresConsent <;>
      simp [unread, unasked, readable, Bind.bind, Except.bind, Value.isTrue]

theorem evaluate_ok_iff (passed : ingress payload = .ok ()) :
    (∃ verdict, s.evaluate payload = .ok verdict) ↔ s.Readable payload := by
  have required := required_of_ingress passed
  obtain ⟨consent, given⟩ := Option.isSome_iff_exists.mp
    (payload.get?_isSome_iff.mpr (required (by decide : "consent_snapshot" ∈ requiredEventFields)))
  have snapshot : item payload.entries "consent_snapshot" = .ok consent := item_eq_ok.mpr given
  have default : payload.getD "consent_snapshot" .null = consent := by simp [Dict.getD, given]
  cases looked : s.lookupPolicy payload with
  | error raised =>
    apply iff_of_false (by simp [evaluate, looked, Bind.bind, Except.bind])
    intro readable
    obtain ⟨found, ok⟩ := (lookupPolicy_ok_iff required).mpr readable.key
    rw [looked] at ok
    cases ok
  | ok found =>
    have key := (lookupPolicy_ok_iff required).mp ⟨found, looked⟩
    have readable_iff : s.Readable payload ↔ ∀ policy, found = some policy →
      s.inForce policy payload = true →
        (policy.contactEligible = true ∨ policy.requiresConsent = true) →
        ∃ entries, consent = .dict entries := by
      constructor
      · rintro ⟨-, reads⟩ policy rfl
        exact default ▸ reads policy looked
      · intro reads
        refine ⟨key, fun policy same => default ▸ reads policy ?_⟩
        rw [looked] at same
        exact Except.ok.inj same
    rw [readable_iff]
    simp only [evaluate, looked, snapshot, Bind.bind, Except.bind]
    cases found with
    | none => exact iff_of_true ⟨_, rfl⟩ (by rintro _ ⟨⟩)
    | some policy =>
      simp only [Option.some.injEq, forall_eq']
      split
      next active =>
        simp only [active, forall_const, ← evaluateConsent_ok_iff]
        cases evaluateConsent policy consent with
        | error raised => simp
        | ok verdict =>
          refine iff_of_true ?_ ⟨_, rfl⟩
          cases verdict with
          | some verdict => exact ⟨_, rfl⟩
          | none =>
            dsimp only
            split <;> exact ⟨_, rfl⟩
      next inactive => exact iff_of_true ⟨_, rfl⟩ fun active => absurd active inactive

theorem evaluateConsent_calm (policy : Policy) (consent : Value) :
    Calm (evaluateConsent policy consent) := by
  have field : ∀ asked name unasked, Calm (consentField asked consent name unasked) := by
    intro asked name unasked
    unfold consentField
    split <;> simp
  simp only [evaluateConsent, Never.bind, field, true_and]
  intro dnc _
  split
  · simp
  · simp only [Never.bind, field, true_and]
    intro status _
    split <;> simp

theorem evaluate_calm (s : Service) (payload : Dict) : Calm (s.evaluate payload) := by
  have policy : Calm (s.lookupPolicy payload) := by simp [lookupPolicy]
  simp only [evaluate, Never.bind, policy, Calm.item, true_and]
  intro found _ consent _
  split
  · simp
  · split
    · simp only [Never.bind, evaluateConsent_calm, true_and]
      intro verdict _
      split
      · simp
      · split <;> simp
    · simp

theorem receive_of_not_stores_noTrace (uuid : UuidHex)
    (refused : s.stores rt payload = false) : NoTrace s (s.receive rt uuid payload) := by
  unfold receive
  dsimp only
  split
  · exact fun _ _ _ => rfl
  next key =>
    split
    · split
      · exact fun _ _ _ => rfl
      · rintro _ ⟨⟩ other
        exact absurd rfl (other _)
    next fresh =>
      split
      · exact fun _ _ _ => rfl
      next passed =>
        split
        · exact fun _ _ _ => rfl
        next eventId => simp_all [stores, arrival, Except.toBool]

/-- A delivery is atomic exactly if it is refused before its event is stored, or
can be evaluated. -/
theorem receive_atomic (rt : Runtime) (payload : Dict) (fresh : s.Fresh ("LAE-" ++ uuid.text)) :
    (Atomic s (s.receive rt uuid payload) ↔ (s.stores rt payload = true → s.Readable payload)) ∧
      ((s.stores rt payload = true → s.Readable payload) →
        NoTrace s (s.receive rt uuid payload)) := by
  cases passes : s.stores rt payload with
  | false =>
    have noTrace := receive_of_not_stores_noTrace uuid passes
    exact ⟨iff_of_true noTrace.atomic (by rintro ⟨⟩), fun _ => noTrace⟩
  | true =>
    obtain ⟨accepted, passed⟩ := receive_of_stores uuid passes
    rw [accepted]
    simp only [forall_const, ← evaluate_ok_iff passed]
    cases decided : s.evaluate payload with
    | error raised =>
      rw [accept_of_raised decided]
      refine ⟨iff_of_false ?_ (by simp), by simp⟩
      intro atomic
      -- The event is there, with an id that no event had.
      obtain ⟨h, member, event, -⟩ :=
        exists_mem_place (evaluating (arrival rt uuid payload)) s.events
      have events := (atomic raised rfl (Calm.other (evaluate_calm s payload) decided)).events
      apply fresh.1 h (events ▸ member)
      rw [event]
      rfl
    | ok verdict =>
      obtain ⟨response, answered, -⟩ := status_of_ingress
        (e := (evaluated (arrival rt uuid payload) verdict).event) passed
      rw [accept_of_verdict decided answered]
      exact ⟨iff_of_true (NoTrace.of_ok s _ response).atomic ⟨_, rfl⟩, fun _ => .of_ok s _ response⟩

/-! ## `receive_result` -/

/-- The result is a first one for an event of the tenant and passes its checks. -/
structure Passes (rt : Runtime) (s : Service) (payload : Dict) (scope : TenantScope)
    (e : Event) : Prop where
  own : scope = .fromPayload rt payload
  found : s.find? (payload.getD "event_id" (.str "")) scope = some e
  first : e.resultHash.any (· ≠ "") = false
  enabled : s.resultProcessingEnabled = true
  checked : ∃ execution, s.checkResult e payload = .ok execution

theorem receiveResult_of_passes (passes : Passes rt s payload scope e) : ∃ execution,
      let accepted := { s with workflowIds := s.workflowIds ++ [execution] }.acceptResult
        rt e payload
      s.receiveResult rt payload scope = (accepted.1, accepted.2.map some) := by
  obtain ⟨execution, checked⟩ := passes.checked
  refine ⟨execution, ?_⟩
  have first : ¬e.resultHash.any (· ≠ "") = true := by
    rw [passes.first]
    exact Bool.false_ne_true
  have enabled : ¬s.resultProcessingEnabled = false := by simp [passes.enabled]
  simp only [receiveResult, if_neg (not_not.mpr passes.own), passes.found, if_neg first,
    if_neg enabled, checked]

/-- A result that does not pass every check is refused without a trace, or is a conflict. -/
theorem receiveResult_of_not_passes (refused : ∀ e, ¬Passes rt s payload scope e) : NoTrace s
    (s.receiveResult rt payload scope) := by
  have conflict : ∀ (t : Service) (message : String),
      NoTrace s (t, (.error (.conflict message) : Except Raised (Option ResultResponse))) := by
    rintro t message _ ⟨⟩ other
    exact absurd rfl (other message)
  unfold receiveResult
  dsimp only
  split
  · exact fun _ _ _ => rfl
  next scope =>
    split
    · exact fun _ _ _ => rfl
    next e found =>
      split
      · split
        · exact fun _ _ _ => rfl
        · exact conflict _ _
      next first =>
        split
        · exact fun _ _ _ => rfl
        next enabled =>
          split
          · exact conflict _ _
          · exact fun _ _ _ => rfl
          next execution checked =>
            exact absurd ⟨not_not.mp scope, found, by simpa using first, by simpa using enabled,
              execution, checked⟩ (refused e)

section

variable (rt : Runtime) (payload : Dict)

theorem acceptResult_of_acknowledged (ready : e.state = .n8nAcknowledged) :
    ∃ response, (s.acceptResult rt e payload).2 = .ok response := by
  simp [acceptResult, resultPath, Event.follow, Event.transition, ready, State.transitions]

theorem acceptResult_of_not_acknowledged (ready : e.state ≠ .n8nAcknowledged) :
    ∃ message, s.acceptResult rt e payload = (s.write e, .error (.leadAutomation message)) := by
  have refused : .resultReceived ∉ e.state.transitions := by
    revert ready
    cases e.state <;> decide
  simp [acceptResult, resultPath, Event.follow, Event.transition, refused]

/-- A result is atomic exactly if it fails a check, or meets an acknowledged event. -/
theorem receiveResult_atomic (scope : TenantScope) :
    (Atomic s (s.receiveResult rt payload scope) ↔ ∀ e, Passes rt s payload scope e →
      e.state = .n8nAcknowledged) ∧
      ((∀ e, Passes rt s payload scope e → e.state = .n8nAcknowledged) →
        NoTrace s (s.receiveResult rt payload scope)) := by
  by_cases passes : ∃ e, Passes rt s payload scope e
  · obtain ⟨e, passes⟩ := passes
    have only : (∀ e, Passes rt s payload scope e → e.state = .n8nAcknowledged) ↔
        e.state = .n8nAcknowledged := by
      constructor
      · exact fun all => all e passes
      · intro ready e' passes'
        cases passes.found.symm.trans passes'.found
        exact ready
    rw [only]
    obtain ⟨execution, result⟩ := receiveResult_of_passes passes
    rw [result]
    by_cases ready : e.state = .n8nAcknowledged
    · obtain ⟨response, answered⟩ := acceptResult_of_acknowledged rt payload ready
        (s := { s with workflowIds := s.workflowIds ++ [execution] })
      rw [answered]
      exact ⟨iff_of_true (NoTrace.of_ok s _ (some response)).atomic ready,
        fun _ => .of_ok s _ (some response)⟩
    · obtain ⟨_, refused⟩ := acceptResult_of_not_acknowledged rt payload ready
        (s := { s with workflowIds := s.workflowIds ++ [execution] })
      rw [refused]
      refine ⟨iff_of_false ?_ ready, fun acknowledged => absurd acknowledged ready⟩
      intro atomic
      -- The workflow execution counts as used from now on.
      have used := (atomic _ rfl (by simp)).workflowIds
      simp [write] at used
  · have refused := not_exists.mp passes
    have noTrace := receiveResult_of_not_passes refused
    exact ⟨iff_of_true noTrace.atomic fun e passes => absurd passes (refused e), fun _ => noTrace⟩

end

end Service

open Service

/-- In every state, rejections of `receive` are atomic exactly if a payload that passes its checks
can be evaluated, and those of `receive_result` exactly if a result that passes its checks meets an
acknowledged event. Where they are atomic they leave no trace at all. -/
theorem rejections_atomic_iff (rt : Runtime) (s : Service) (uuid : UuidHex) (payload : Dict)
    (scope : TenantScope) (fresh : s.Fresh ("LAE-" ++ uuid.text)) :
    (Atomic s (s.receive rt uuid payload) ↔ (s.stores rt payload = true → s.Readable payload)) ∧
      (Atomic s (s.receive rt uuid payload) ↔ NoTrace s (s.receive rt uuid payload)) ∧
      (Atomic s (s.receiveResult rt payload scope) ↔ ∀ e, Passes rt s payload scope e →
        e.state = .n8nAcknowledged) ∧
      (Atomic s (s.receiveResult rt payload scope) ↔
        NoTrace s (s.receiveResult rt payload scope)) := by
  obtain ⟨event, eventTrace⟩ := receive_atomic rt payload fresh
  obtain ⟨result, resultTrace⟩ := receiveResult_atomic rt payload scope (s := s)
  exact ⟨event, ⟨fun atomic => eventTrace (event.mp atomic), NoTrace.atomic⟩, result,
    ⟨fun atomic => resultTrace (result.mp atomic), NoTrace.atomic⟩⟩

namespace Sample

def unreadable : Dict :=
  ⟨("policy_version", .list []) :: (fields "E1" "K1").filter (·.1 ≠ "policy_version"), by decide⟩

def accepted : Service :=
  (system runtime).after .initial (prepared ++ [.receive (uuid 'a') (payload "E1" "K1")])

theorem unreadable_leaves_event : (outcome (receive runtime .initial (uuid 'a') unreadable)).2 =
      some .typeError ∧ (receive runtime .initial (uuid 'a') unreadable).1.events.length = 1 := by
  decide +kernel

theorem early_result_uses_execution : (outcome (accepted.receiveResult runtime result scope)).2 =
        some (.leadAutomation "invalid transition OUTBOX_PENDING->RESULT_RECEIVED") ∧
      (accepted.receiveResult runtime result scope).1.workflowIds.length = 1 ∧
      accepted.workflowIds.length = 0 := by
  decide +kernel

theorem unreadable_not_atomic :
    ¬Atomic .initial (receive runtime .initial (uuid 'a') unreadable) := by
  intro atomic
  obtain ⟨failed, stored⟩ := unreadable_leaves_event
  rw [(atomic _ (outcome_eq_some.mp failed) (by simp)).events] at stored
  cases stored

end Sample

open Sample

/-- Both ways in which a rejected call leaves something behind, in states that calls lead to. -/
theorem rejected_calls_leave_writes :
    ¬Atomic .initial (receive runtime .initial (uuid 'a') unreadable) ∧
      (system runtime).Run .initial (prepared ++ [.receive (uuid 'a') (payload "E1" "K1")]) ∧
        ¬Atomic accepted (accepted.receiveResult runtime result scope) := by
  refine ⟨unreadable_not_atomic, ?_, ?_⟩
  · unfold Transition.System.Run
    decide +kernel
  · intro atomic
    obtain ⟨failed, after, before⟩ := early_result_uses_execution
    rw [(atomic _ (outcome_eq_some.mp failed) (by simp)).workflowIds, before] at after
    cases after

theorem unreadable_stored_unread :
    ¬(stores runtime .initial unreadable = true → Readable .initial unreadable) := by
  have fresh : initial.Fresh ("LAE-" ++ (uuid 'a').text) := by simp [Fresh, initial]
  rw [← (rejections_atomic_iff runtime .initial (uuid 'a') unreadable scope fresh).1]
  exact unreadable_not_atomic

end CodestraMiddleware.LeadAutomation
