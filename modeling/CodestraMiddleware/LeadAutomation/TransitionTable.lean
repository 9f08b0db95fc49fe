import CodestraMiddleware.LeadAutomation.Store

/-!
# The transition table

`_transition` checks `TRANSITIONS` and writes the audit trail. Where `receive_result` and
`apply_odoo_ack` raise a `Conflict` they assign `QUARANTINED` instead, from whatever state the event
is in.
-/
namespace CodestraMiddleware.LeadAutomation

open PythonValue Raising Service Sample

variable {rt : Runtime} {s t : Service} {op : Operation}

/-- The audit of every event is the path from `RECEIVED` to its state. -/
def Audited (s : Service) : Prop := ∀ h ∈ s.events, Trail .received h.event.audit h.event.state

/-- A call follows the table: the change of each event's state is a path of `TRANSITIONS` that its
audit records, and an event in a `TERMINAL` state keeps it. -/
structure Lawful (s t : Service) : Prop where
  audited : Audited t
  recorded : ∀ h ∈ s.events, ∀ h' ∈ t.events, h'.event.automationEventId =
    h.event.automationEventId →
      ∃ path, h'.event.audit = h.event.audit ++ path ∧ Trail h.event.state path h'.event.state
  final : ∀ h ∈ s.events, ∀ h' ∈ t.events,
    h'.event.automationEventId = h.event.automationEventId → h.event.state ∈ State.terminal →
    h'.event.state = h.event.state

/-! ## What is a conflict -/

/-- The schema checks of `receive_result`. -/
structure Shaped (payload : Dict) : Prop where
  keys : payload.keys ⊆ requiredResultFields ∧ requiredResultFields ⊆ payload.keys
  version : (payload.getD "contract_version" .null).eq (.str "1.1") = true
  company : fullmatch companyKey (payload.getD "company_key" (.str "")) = .ok true

/-- A first result is bound to the event, and under the policy of the event its fields are allowed
and its execution is new. -/
structure ResultAgrees (s : Service) (e : Event) (payload : Dict) : Prop where
  bound : ∀ name ∈ immutable, (payload.getD name .null).eq (e.payload.getD name .null) = true
  binding : (payload.getD "binding_key" .null).eq (.str "n8n.leads.ingest") = true
  allowed : ∀ policy fields, s.lookupPolicy e.payload = .ok (some policy) →
    resultFields payload = .ok fields →
    ∀ field ∈ fields, (∃ name ∈ policy.allowedFields, field.eq (.str name) = true) ∧
      ∀ name ∈ immutableFields, field.eq (.str name) = false
  new : ∀ policy fields, s.lookupPolicy e.payload = .ok (some policy) →
    resultFields payload = .ok fields →
    ∀ environment, item payload.entries "environment" = .ok environment →
      ∀ execution, item payload.entries "workflow_execution_id" = .ok execution →
        environment.hashable = true ∧ execution.hashable = true →
          ∀ known ∈ s.workflowIds, (known.1.eq environment && known.2.eq execution) = false

/-- The event waits for the acknowledgement, which has the schema and the binding of its request. -/
def AckAgrees (rt : Runtime) (e : Event) (ack : Dict) : Prop :=
  e.state = .odooApplyPending ∧ ∃ result, e.resultPayload = some result ∧
    ∀ request, buildApplyPayload rt e.payload result e.automationEventId = .ok request →
      ∀ message, validateAck rt ack request ≠ .error (.ackValidation message)

/-- What the call brings agrees with the event: a result with the one that is known, or as a first
one; an acknowledgement with the one that is known, unless that asked for a
retry, or as a first one. -/
def Agrees (rt : Runtime) (s : Service) (e : Event) : Operation → Prop
  | .receiveResult payload scope => scope = .fromPayload rt payload →
    if e.resultHash.any (· ≠ "") then e.resultHash = some (canonicalHash rt payload)
    else s.resultProcessingEnabled = true → Shaped payload → ResultAgrees s e payload
  | .applyOdooAck _ ack _ => s.odooApplyEnabled = true →
    match e.odooAck with
    | none => AckAgrees rt e ack
    | some previous => canonicalHash rt previous ≠ canonicalHash rt ack →
        ∀ earlier, classifyAck previous = .ok earlier →
        (earlier = .retry ∧ e.state = .odooApplyPending) ∧ AckAgrees rt e ack
  | _ => True

/-- A call that does not agree with its event finds it in quarantine already. -/
def ConflictsInQuarantine (rt : Runtime) (s : Service) (op : Operation) : Prop :=
  ∀ e ∈ op.target? s, ¬ Agrees rt s e op → e.state = .quarantined

section Conflicts

variable {e : Event} {payload ack : Dict} {scope : TenantScope}

theorem checkResult_calm_iff : Calm (s.checkResult e payload) ↔
    (Shaped payload → ResultAgrees s e payload) := by
  have fields : Calm (resultFields payload) := by
    unfold resultFields
    split <;> simp
  have policy : Calm (s.lookupPolicy e.payload) := by simp [lookupPolicy]
  simp only [checkResult, Never.bind, Never.check, Calm.fullmatch, Calm.item, fields, policy,
    check_eq_ok, Option.forall,
    Never.error, reduceCtorEq, exists_false, not_false_eq_true, or_true, true_and,
    Raised.conflict.injEq, exists_eq',
    not_true_eq_false, or_false, forall_const, Never.ok, implies_true, and_true]
  constructor
  · intro calm shaped
    obtain ⟨bound, rest⟩ := calm shaped.keys shaped.version true shaped.company rfl
    obtain ⟨binding, rest⟩ := rest bound
    have rest policy fields found read := rest binding policy found fields read
    exact ⟨bound, binding, fun policy fields found read => (rest policy fields found read).1,
      fun policy fields found read => (rest policy fields found read).2
      (rest policy fields found read).1⟩
  · rintro agrees keys version _ company rfl
    obtain ⟨bound, binding, allowed, new⟩ := agrees ⟨keys, version, company⟩
    exact ⟨bound, fun _ => ⟨binding, fun _ policy found fields read =>
      ⟨allowed policy fields found read, fun _ => new policy fields found read⟩⟩⟩

theorem quarantined_not_calm (s : Service) (e : Event) (message : String) :
    ¬ Calm (s.quarantined (α := α) e message).2 := fun calm => calm _ ⟨message, rfl⟩ rfl

theorem applyAck_calm_iff : Calm (s.applyAck rt e ack).2 ↔ AckAgrees rt e ack := by
  unfold applyAck
  split
  next result given waiting =>
    have agrees : AckAgrees rt e ack ↔ ∀ request, buildApplyPayload rt e.payload result
      e.automationEventId = .ok request →
        ∀ message, validateAck rt ack request ≠ .error (.ackValidation message) := by
      simp [AckAgrees, given, waiting]
    rw [agrees]
    split
    next raised failed =>
      exact iff_of_true (Calm.of_other ((buildApplyPayload_calm rt _ _ _).other failed))
        (by simp [failed])
    next request built =>
      rw [built]
      split
      next invalid =>
        exact iff_of_false (quarantined_not_calm _ e _) fun valid => valid request rfl _ invalid
      next raised other failed =>
        refine iff_of_true (Calm.of_other ((validateAck_calm rt ack request).other failed)) ?_
        rintro _ ⟨⟩ message invalid
        cases failed.symm.trans invalid
        exact other _ rfl
      next valid =>
        refine iff_of_true ?_ (by simp [valid])
        split
        next raised failed => exact Calm.of_other ((classifyAck_calm ack).other failed)
        next => exact move_calm _ _ _ Event.status_calm
  next other =>
    refine iff_of_false (quarantined_not_calm s e _) ?_
    rintro ⟨waiting, result, given, -⟩
    exact other result given waiting

theorem acceptResult_calm : Calm (s.acceptResult rt e payload).2 := by
  unfold acceptResult
  split
  next followed => exact Calm.of_other ((e.follow_calm resultPath).other (by rw [followed]))
  next => exact Never.ok _

theorem outcome_calm_iff (result : Service × Except Raised α) :
    (∀ message, (outcome result).2 ≠ some (.conflict message)) ↔ Calm result.2 where
  mp other raised conflict failed := by
    obtain ⟨message, same⟩ := conflict
    exact other message (outcome_eq_some.mpr (same ▸ failed))
  mpr := outcome_calm

theorem receiveResult_calm_iff
    (found : s.find? (payload.getD "event_id" (.str "")) scope = some e) :
    Calm (s.receiveResult rt payload scope).2 ↔ Agrees rt s e (.receiveResult payload scope) := by
  simp only [Agrees, receiveResult, found]
  by_cases own : scope = .fromPayload rt payload
  · simp only [own, ne_eq, not_true_eq_false, if_false, forall_const]
    split
    next =>
      split
      next same => simp [same]
      next other => exact iff_of_false (quarantined_not_calm _ e _) other
    next =>
      split
      next disabled => simp [disabled]
      next enabled =>
        rw [← checkResult_calm_iff]
        split
        next failed =>
          exact iff_of_false (quarantined_not_calm s e _)
            fun quiet => quiet (by simpa using enabled) _ ⟨_, rfl⟩ failed
        next raised other failed =>
          exact iff_of_true (Calm.of_other other) fun _ => failed ▸ Calm.of_other other
        next checked =>
          refine iff_of_true ?_ fun _ => checked ▸ Never.ok _
          rw [← outcome_calm_iff, outcome_map, outcome_calm_iff]
          exact acceptResult_calm
  · simp [own, notFound]

theorem applyOdooAck_calm_iff (found : s.find? (.str eventId) scope = some e) :
    Calm (s.applyOdooAck rt eventId ack scope).2 ↔
      Agrees rt s e (.applyOdooAck eventId ack scope) := by
  simp only [Agrees, applyOdooAck, found]
  cases s.odooApplyEnabled with
  | false => simp
  | true =>
    simp only [forall_const, Bool.true_eq_false, if_false]
    cases e.odooAck with
    | none => exact applyAck_calm_iff
    | some previous =>
      dsimp only
      split
      next same => exact iff_of_true e.status_calm (absurd same)
      next other =>
        simp only [ne_eq, other, not_false_eq_true, forall_const]
        split
        next raised failed =>
          exact iff_of_true (Calm.of_other ((classifyAck_calm previous).other failed))
            (by simp [failed])
        next earlier classified =>
          simp only [classified, Except.ok.injEq, forall_eq']
          split
          next again => rw [applyAck_calm_iff, and_iff_right again]
          next final =>
            exact iff_of_false (quarantined_not_calm _ e _) fun agrees => final agrees.1

theorem agrees_iff (target : op.target? s = some e) :
    Agrees rt s e op ↔ ∀ message, (s.perform rt op).2 ≠ some (.conflict message) := by
  cases op with
  | receiveResult => exact (receiveResult_calm_iff target).symm.trans (outcome_calm_iff _).symm
  | applyOdooAck => exact (applyOdooAck_calm_iff target).symm.trans (outcome_calm_iff _).symm
  | _ => cases target

end Conflicts

/-! ## The calls -/

theorem lawful_of_recorded (audited : Audited t) (recorded : ∀ h ∈ s.events, ∀ h' ∈ t.events,
      h'.event.automationEventId = h.event.automationEventId →
        ∃ path, h'.event.audit = h.event.audit ++ path ∧ Trail h.event.state path h'.event.state) :
        Lawful s t where
  audited := audited
  recorded := recorded
  final h before h' after same final := by
    obtain ⟨_, -, trail⟩ := recorded h before h' after same
    exact (trail.of_terminal final).2

theorem lawful_of_same (consistent : Consistent s) (audited : Audited s)
    (events : t.events = s.events) : Lawful s t := by
  apply lawful_of_recorded (by rwa [Audited, events])
  intro h before h' after same
  rw [events] at after
  obtain rfl := consistent.eq_of_id after before same
  exact ⟨[], by simp, rfl⟩

theorem lawful_of_stored (consistent : Consistent s) (audited : Audited s)
    (fresh : s.Fresh arrived.event.automationEventId) (spec : Stored s arrived new t) :
    Lawful s t := by
  refine lawful_of_recorded ?_ ?_
  · intro h after
    rw [spec.events] at after
    rcases mem_place after with before | ⟨same, -⟩
    · exact audited h before
    · rw [same]
      exact spec.trail
  · intro h before h' after same
    rw [spec.events] at after
    rcases mem_place after with kept | ⟨placed, -⟩
    · obtain rfl := consistent.eq_of_id kept before same
      exact ⟨[], by simp, rfl⟩
    · -- The new event has an id of its own.
      rw [placed, spec.automationEventId] at same
      exact absurd same.symm (fresh.1 h before)

theorem lawful_of_write (consistent : Consistent s) (audited : Audited s)
    (held : ∃ h ∈ s.events, h.event = e)
    (same : e'.automationEventId = e.automationEventId) (audit : e'.audit = e.audit ++ path)
    (trail : Trail e.state path e'.state) (events : t.events = (s.write e').events) :
    Lawful s t := by
  refine lawful_of_recorded ?_ ?_
  · intro h after
    rw [events] at after
    rcases mem_write consistent.unique held same after with ⟨before, -⟩ | ⟨h, before, rfl, rfl⟩
    · exact audited h before
    · rw [audit]
      exact (audited h before).append trail
  · intro h before h' after id
    rw [events] at after
    rcases mem_write consistent.unique held same after with ⟨kept, -⟩ | ⟨_, holds, rfl, rfl⟩
    · obtain rfl := consistent.eq_of_id kept before id
      exact ⟨[], by simp, rfl⟩
    · obtain rfl := consistent.eq_of_id holds before (same.symm.trans id)
      exact ⟨path, audit, trail⟩

theorem lawful_iff (admitted : (system rt).admits s op) (good : Consistent s ∧ Audited s) :
    Lawful s ((system rt).step s op) ↔ ConflictsInQuarantine rt s op := by
  obtain ⟨consistent, audited⟩ := good
  rcases step_effect rt s op with ⟨-, events, -, calm⟩ | ⟨_, new, stored, spec, untargeted⟩ |
    ⟨-, e, e', held, moved, events, -, calm⟩ | ⟨-, e, held, target, events, -, message, conflict⟩
  · exact iff_of_true (lawful_of_same consistent audited events)
      fun e target other => absurd ((agrees_iff target).mpr (calm e target)) other
  · exact iff_of_true (lawful_of_stored consistent audited (fresh_of_arrival admitted stored) spec)
      (by simp [ConflictsInQuarantine, untargeted])
  · obtain ⟨path, -, audit, trail⟩ := moved.trail
    exact iff_of_true (lawful_of_write consistent audited held moved.automationEventId audit
      trail events) fun e target other => absurd ((agrees_iff target).mpr (calm e target)) other
  · constructor
    · rintro ⟨audited', -, -⟩ e' target' -
      cases target.symm.trans target'
      obtain ⟨h, before, rfl⟩ := held
      -- The audit still leads to the state that the event was in.
      have written : { h with event := { h.event with state := .quarantined } } ∈
          ((system rt).step s op).events := by
        rw [events]
        exact List.mem_map.mpr ⟨h, before, if_pos rfl⟩
      exact (audited h before).target_unique (audited' _ written)
    · intro already
      -- Writing the same state again is the empty path.
      have state := already e target fun agrees => (agrees_iff target).mp agrees message conflict
      exact lawful_of_write consistent audited held (by rfl) (by simp)
        (show Trail e.state [] .quarantined from state) events

/-- A sequence of calls follows the transition table exactly when every conflict meets an event that
is in quarantine already. -/
theorem transition_table_iff {ops : List Operation} (run : (system rt).Run .initial ops) :
    (system rt).Along (fun s op => Lawful s ((system rt).step s op)) .initial ops ↔
      (system rt).Along (ConflictsInQuarantine rt) .initial ops := by
  refine Transition.System.along_iff_of_kept (I := fun s => Consistent s ∧ Audited s)
    (fun _ _ => lawful_iff) ?_ ⟨consistent_initial, by simp [Audited, initial]⟩ run
  intro s op admitted good lawful
  exact ⟨consistent_stable rt s op admitted good.1, lawful.audited⟩

def acknowledgedDenial : List Operation := [.configure true true true true actions,
  .receive (uuid 'a') (payload "E1" "K1"), .applyOdooAck "E1" ⟨[], rfl⟩ scope]

theorem acknowledgedDenial_run : (system runtime).Run .initial acknowledgedDenial := by
  unfold Transition.System.Run
  decide +kernel

theorem acknowledgedDenial_not_audited :
    ¬Audited ((system runtime).after .initial acknowledgedDenial) := by
  unfold Audited
  decide +kernel

/-- The event goes from `POLICY_DENIED` to `QUARANTINED`, which no audit entry records. -/
theorem denial_quarantined_off_table : (system runtime).Run .initial acknowledgedDenial ∧
    ¬(system runtime).Along (fun s op => Lawful s ((system runtime).step s op)) .initial
    acknowledgedDenial := by
  refine ⟨acknowledgedDenial_run, ?_⟩
  rintro ⟨-, -, last, -⟩
  exact acknowledgedDenial_not_audited last.audited

theorem denial_conflicts_outside_quarantine :
    ¬(system runtime).Along (ConflictsInQuarantine runtime) .initial acknowledgedDenial := by
  rw [← transition_table_iff acknowledgedDenial_run]
  rintro ⟨-, -, last, -⟩
  exact acknowledgedDenial_not_audited last.audited

end CodestraMiddleware.LeadAutomation
