import CodestraMiddleware.LeadAutomation.Store

/-!
# Leaving `RETRY_PENDING`

The table lets a waiting event go back to `DISPATCH_RESERVED` or `ODOO_APPLY_PENDING`. No operation
takes either step: `reserve_dispatch` asks for `OUTBOX_PENDING` first, and nothing but a result
enters `ODOO_APPLY_PENDING`.
-/
namespace CodestraMiddleware.LeadAutomation

open PythonValue Raising Service Sample

variable {rt : Runtime} {s t : Service} {op : Operation}

def stuckStates : List State := [.retryPending, .quarantined, .failedTerminal]

theorem Trail.stuck (stuck : state ∈ stuckStates)
    (enters : Enters state path) (trail : Trail state path target) : target ∈ stuckStates := by
  by_cases final : state ∈ State.terminal
  · rw [(trail.of_terminal final).2]
    exact stuck
  · obtain rfl : state = .retryPending := by
      revert stuck final
      cases state <;> decide
    cases path with
    | nil =>
      cases trail
      exact stuck
    | cons step path =>
      obtain ⟨entry, reserved⟩ := enters step rfl
      have first := trail.1
      simp only [State.transitions, List.mem_cons, List.not_mem_nil, or_false] at first
      -- The table allows three steps; the first two are never taken from here.
      rcases first with first | first | first
      · cases reserved first
      · simp [first] at entry
      · rw [(trail.2.of_terminal (by simp [first, State.terminal])).2, first]
        decide

/-- An event that had to be retried. Its outbox row keeps its id from being given out again. -/
structure Stuck (id : String) (s : Service) : Prop where
  row : ∃ row ∈ s.outbox, row.automationEventId = id
  state : ∀ h ∈ s.events, h.event.automationEventId = id → h.event.state ∈ stuckStates

theorem Stuck.write {id : String} (stuck : Stuck id s) (consistent : Consistent s)
    (held : ∃ h ∈ s.events, h.event = e) (same : e'.automationEventId = e.automationEventId)
    (kept : e.state ∈ stuckStates → e'.state ∈ stuckStates)
    (events : t.events = (s.write e').events) (records : SameRecords s t) : Stuck id t where
  row := records.outbox ▸ stuck.row
  state := by
    rw [events]
    intro h' member found
    rcases mem_write consistent.unique held same member with ⟨before, -⟩ | ⟨h, before, rfl, rfl⟩
    · exact stuck.state h' before found
    · exact kept (stuck.state h before (same.symm.trans found))

theorem stuck_stable (rt : Runtime) (id : String) : (system rt).Stable fun s => Consistent s ∧
    Stuck id s := by
  rintro s op admitted ⟨consistent, stuck⟩
  refine ⟨consistent_stable rt s op admitted consistent, ?_⟩
  rcases step_effect rt s op with ⟨-, events, records, -⟩ | ⟨_, new, stored, spec, -⟩ |
    ⟨-, e, e', held, moved, events, records, -⟩ | ⟨-, e, held, -, events, records, -⟩
  · exact ⟨records.outbox ▸ stuck.row, events ▸ stuck.state⟩
  · -- The id in the outbox is not given to the new event.
    have fresh := fresh_of_arrival admitted stored
    obtain ⟨row, present, rowId⟩ := stuck.row
    have grows : ∀ row ∈ s.outbox, row ∈ ((system rt).step s op).outbox := by
      rcases spec.records with ⟨-, outbox, -⟩ | ⟨-, -, -, -, ⟨-, outbox⟩ | ⟨_, -, outbox, -⟩⟩ <;>
        simp +contextual [outbox]
    refine ⟨⟨row, grows row present, rowId⟩, ?_⟩
    rw [spec.events]
    intro h member found
    rcases mem_place member with before | ⟨same, -⟩
    · exact stuck.state h before found
    · rw [same, spec.automationEventId] at found
      exact absurd (rowId.trans found.symm) (fresh.2.1 row present)
  · obtain ⟨_, enters, -, trail⟩ := moved.trail
    exact stuck.write consistent held moved.automationEventId
      (fun before => Trail.stuck before enters trail) events records
  · exact stuck.write consistent held (by rfl) (fun _ => by simp [stuckStates]) events records

/-- Some sequence of calls brings the event back to where it is dispatched or applied. -/
def Recoverable (rt : Runtime) (s : Service) (id : String) : Prop :=
  ∃ ops, (system rt).Run s ops ∧ ∃ h ∈ ((system rt).after s ops).events,
    h.event.automationEventId = id ∧ h.event.state ∈ [.dispatchReserved, .odooApplyPending]

theorem not_recoverable (consistent : Consistent s) (held : h ∈ s.events)
    (waiting : h.event.state = .retryPending) : ¬Recoverable rt s h.event.automationEventId := by
  have stuck : Stuck h.event.automationEventId s := by
    refine ⟨consistent.covered h held (by simp [waiting, expectsOutbox, State.terminal]), ?_⟩
    intro h' member same
    obtain rfl := consistent.eq_of_id member held same
    simp [waiting, stuckStates]
  rintro ⟨ops, run, h', after, same, back⟩
  have still := ((stuck_stable rt _).after ⟨consistent, stuck⟩ run).2.state h' after same
  revert still back
  generalize h'.event.state = state
  cases state <;> decide

/-! ## Acknowledgements after a retry -/

/-- The acknowledgements that are kept have been classified. -/
def Classified (s : Service) : Prop :=
  ∀ h ∈ s.events, ∀ ack ∈ h.event.odooAck, ∃ ackClass, classifyAck ack = .ok ackClass

theorem classified_stable (rt : Runtime) : (system rt).Stable fun s => Consistent s ∧
    Classified s := by
  refine events_stable rt ?_ ?_ ?_
  · intro s op arrived new t h _ spec same ack found
    rw [same, spec.odooAck] at found
    cases found
  · intro s h e' classified moved ack found
    -- An acknowledgement is kept only after it has been classified.
    rcases moved.acknowledgement with kept | ⟨new, ackClass, given, known⟩
    · exact classified ack (kept ▸ found)
    · cases given.symm.trans found
      exact ⟨ackClass, known⟩
  · intro h classified
    exact classified

/-- An acknowledgement that does not repeat the last one puts a waiting event in quarantine. -/
theorem applyOdooAck_of_retryPending {scope : TenantScope} {ack : Dict} (classified : Classified s)
    (found : s.find? (.str eventId) scope = some e) (waiting : e.state = .retryPending)
    (enabled : s.odooApplyEnabled = true)
    (new : ∀ previous ∈ e.odooAck, canonicalHash rt previous ≠ canonicalHash rt ack) :
    ∃ message, (s.applyOdooAck rt eventId ack scope).2 = .error (.conflict message) ∧
      (s.applyOdooAck rt eventId ack scope).1.events =
      (s.write { e with state := .quarantined }).events := by
  have refused : s.applyAck rt e ack = s.quarantined e
      "Odoo acknowledgement without pending apply" := by
    simp [applyAck, waiting]
  rcases Option.eq_none_or_eq_some e.odooAck with earlier | ⟨previous, earlier⟩
  · have call : s.applyOdooAck rt eventId ack scope = s.quarantined e
        "Odoo acknowledgement without pending apply" := by
      simp [applyOdooAck, found, enabled, earlier, refused]
    rw [call]
    exact ⟨_, rfl, rfl⟩
  · obtain ⟨h, held, rfl⟩ := find?_held found
    obtain ⟨_, known⟩ := classified h held previous earlier
    have call : s.applyOdooAck rt eventId ack scope = s.quarantinedAs h.event
        ⟨h.event.payload.getD "event_id" .null, "ODOO_ACK_CONFLICT"⟩
        "conflicting Odoo acknowledgement replay" := by
      simp [applyOdooAck, found, enabled, earlier, new previous earlier, known, waiting]
    rw [call]
    exact ⟨_, rfl, rfl⟩

/-- In every state that calls lead to, the waiting events can be brought back exactly when there are
none, and whatever acknowledgement comes next puts a waiting event in quarantine. -/
theorem retry_recoverable_iff {ops : List Operation} (run : (system rt).Run .initial ops) :
    let s := (system rt).after .initial ops
    ((∀ h ∈ s.events, h.event.state = .retryPending → Recoverable rt s h.event.automationEventId) ↔
        ∀ h ∈ s.events, h.event.state ≠ .retryPending) ∧
      ∀ eventId scope e ack, s.find? (.str eventId) scope = some e → e.state = .retryPending →
        s.odooApplyEnabled = true →
        (∀ previous ∈ e.odooAck, canonicalHash rt previous ≠ canonicalHash rt ack) →
        ∃ message, (s.applyOdooAck rt eventId ack scope).2 = .error (.conflict message) ∧
          (s.applyOdooAck rt eventId ack scope).1.events =
            (s.write { e with state := .quarantined }).events := by
  intro s
  obtain ⟨consistent, classified⟩ : Consistent s ∧ Classified s :=
    (classified_stable rt).after ⟨consistent_initial, by simp [Classified, initial]⟩ run
  refine ⟨⟨?_, ?_⟩, fun _ _ _ _ => applyOdooAck_of_retryPending classified⟩
  · intro all h held waiting
    exact not_recoverable consistent held waiting (all h held waiting)
  · intro none h held waiting
    exact absurd waiting (none h held)

def retriedDispatch : List Operation := prepared ++
  [.receive (uuid 'a') (payload "E1" "K1"), .reserveDispatch "E1" scope,
    .recordRetry "E1" scope 1 5]

theorem retriedDispatch_run : (system runtime).Run .initial retriedDispatch := by
  unfold Transition.System.Run
  decide +kernel

theorem retriedDispatch_waits : ∃ h ∈ ((system runtime).after .initial retriedDispatch).events,
    h.event.state = .retryPending := by
  decide +kernel

theorem retried_dispatch_unrecoverable : (system runtime).Run .initial retriedDispatch ∧
    ∃ h ∈ ((system runtime).after .initial retriedDispatch).events, h.event.state = .retryPending ∧
    ¬Recoverable runtime
        ((system runtime).after .initial retriedDispatch) h.event.automationEventId := by
  obtain ⟨h, held, waiting⟩ := retriedDispatch_waits
  have consistent := (consistent_stable runtime).after consistent_initial retriedDispatch_run
  exact ⟨retriedDispatch_run, h, held, waiting, not_recoverable consistent held waiting⟩

theorem retried_dispatch_not_all_recoverable :
    ¬∀ h ∈ ((system runtime).after .initial retriedDispatch).events,
      h.event.state = .retryPending → Recoverable runtime
        ((system runtime).after .initial retriedDispatch) h.event.automationEventId := by
  intro all
  obtain ⟨h, held, waiting⟩ := retriedDispatch_waits
  exact (retry_recoverable_iff retriedDispatch_run).1.mp all h held waiting

end CodestraMiddleware.LeadAutomation
