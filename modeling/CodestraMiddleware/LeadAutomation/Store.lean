import CodestraMiddleware.LeadAutomation.Events
import CodestraMiddleware.LeadAutomation.System

/-!
# What the service keeps

Events are held under the sender's `event_id`, while repeated deliveries are told by their
idempotency key. A delivery with a new idempotency key and an old `event_id` therefore stores a
second event in place of the first.
-/
namespace CodestraMiddleware.LeadAutomation

open PythonValue Raising Service Sample List

variable {rt : Runtime} {s t : Service} {op : Operation}

variable {arrived : Held}

theorem fresh_of_arrival (admitted : (system rt).admits s op)
    (stored : op.arrival? rt s = some arrived) : s.Fresh arrived.event.automationEventId := by
  obtain ⟨_, _, rfl, rfl⟩ := Operation.arrival?_eq_some stored
  exact admitted

theorem expectsOutbox_of_transition (state : State) : ∀ next ∈ state.transitions,
    next ∉ State.terminal →
    next ∉ [.schemaValidated, .policyEvaluating, .policyAllowed, .odooApplyPending] →
    expectsOutbox state = true := by
  cases state <;> decide

theorem Trail.expectsOutbox (trail : Trail state path target) (enters : Enters state path)
    (expects : Service.expectsOutbox target = true) : Service.expectsOutbox state = true := by
  cases path with
  | nil =>
    cases trail
    exact expects
  | cons step path =>
    -- Either the path ends with its first step, or that step was taken from a state behind the
    -- outbox.
    by_cases final : step.state ∈ State.terminal
    · obtain ⟨-, rfl⟩ := trail.2.of_terminal final
      simp [Service.expectsOutbox, final] at expects
    · exact expectsOutbox_of_transition state step.state trail.1 final (enters step rfl).1

/-- Ids are not shared, every outbox row has been answered for, and every event that needs an outbox
row has one. -/
structure Consistent (s : Service) : Prop where
  unique : (ids s.events).Nodup
  outbox : (s.outbox.map (·.automationEventId)).Nodup
  answered : ∀ row ∈ s.outbox, ∃ record ∈ s.idempotency, record.scope = row.scope ∧
    record.response.automationEventId = row.automationEventId
  covered : ∀ h ∈ s.events, expectsOutbox h.event.state = true →
    ∃ row ∈ s.outbox, row.automationEventId = h.event.automationEventId

theorem Consistent.eq_of_id (consistent : Consistent s) (member : h ∈ s.events)
    (member' : h' ∈ s.events) (same : h.event.automationEventId = h'.event.automationEventId) :
    h = h' :=
  inj_on_of_nodup_map consistent.unique member member' same

theorem consistent_initial : Consistent .initial where
  unique := nodup_nil
  outbox := nodup_nil
  answered := by simp [initial]
  covered := by simp [initial]

theorem Consistent.congr (consistent : Consistent s) (events : t.events = s.events)
    (records : SameRecords s t) : Consistent t := by
  obtain ⟨outbox, idempotency⟩ := records
  obtain ⟨unique, rows, answered, covered⟩ := consistent
  rw [← events] at unique covered
  rw [← outbox] at rows answered covered
  rw [← idempotency] at answered
  exact ⟨unique, rows, answered, covered⟩

/-- Writing to an event keeps the service consistent if the event had an outbox row, or needs
none. -/
theorem Consistent.write (consistent : Consistent s)
    (held : ∃ h ∈ s.events, h.event = e) (same : e'.automationEventId = e.automationEventId)
    (expects : expectsOutbox e'.state = true → expectsOutbox e.state = true)
    (events : t.events = (s.write e').events) (records : SameRecords s t) : Consistent t where
  unique := by
    rw [events, ids_write]
    exact consistent.unique
  outbox := records.outbox ▸ consistent.outbox
  answered := by
    rw [records.outbox, records.idempotency]
    exact consistent.answered
  covered := by
    rw [events, records.outbox]
    intro h' member needs
    rcases mem_write consistent.unique held same member with ⟨before, -⟩ | ⟨h, before, rfl, rfl⟩
    · exact consistent.covered h' before needs
    · obtain ⟨row, present, id⟩ := consistent.covered h before (expects needs)
      exact ⟨row, present, id.trans same.symm⟩

variable {new : Held}

theorem Stored.absent (spec : Stored s arrived new t)
    (fresh : s.Fresh arrived.event.automationEventId) :
    new.event.automationEventId ∉ ids s.events := by
  intro member
  obtain ⟨h, held, id⟩ := mem_map.mp member
  exact fresh.1 h held (id.trans spec.automationEventId)

theorem Consistent.stored (consistent : Consistent s)
    (fresh : s.Fresh arrived.event.automationEventId)
    (spec : Stored s arrived new t) : Consistent t := by
  have absent := spec.absent fresh
  have unique := (ids_place consistent.unique absent).1
  rw [← spec.events] at unique
  -- What the new event needs is shown below, case by case.
  have covered : (∀ row ∈ s.outbox, row ∈ t.outbox) →
    (expectsOutbox new.event.state = true → ∃ row ∈ t.outbox,
        row.automationEventId = new.event.automationEventId) →
        ∀ h ∈ t.events, expectsOutbox h.event.state = true →
        ∃ row ∈ t.outbox, row.automationEventId = h.event.automationEventId := by
    intro grows own h member needs
    rw [spec.events] at member
    rcases mem_place member with before | ⟨same, -⟩
    · obtain ⟨row, present, id⟩ := consistent.covered h before needs
      exact ⟨row, grows row present, id⟩
    · rw [same] at needs ⊢
      exact own needs
  rcases spec.records with ⟨state, outbox, idempotency⟩ | ⟨record, idempotency, scope, id, rows⟩
  · -- The evaluation raised, and the event needs no row.
    refine ⟨unique, outbox ▸ consistent.outbox, ?_, covered (by simp [outbox]) ?_⟩
    · rw [outbox, idempotency]
      exact consistent.answered
    · simp [state, expectsOutbox]
  · have answered : ∀ row ∈ s.outbox, ∃ record ∈ t.idempotency, record.scope = row.scope ∧
        record.response.automationEventId = row.automationEventId := by
      intro row present
      obtain ⟨record, before, found⟩ := consistent.answered row present
      exact ⟨record, by simp [idempotency, before], found⟩
    rcases rows with ⟨state, outbox⟩ | ⟨row, state, outbox, rowScope, rowId⟩
    · refine ⟨unique, outbox ▸ consistent.outbox, outbox ▸ answered, covered (by simp [outbox]) ?_⟩
      simp [state, expectsOutbox]
    · refine ⟨unique, ?_, ?_, covered (by simp +contextual [outbox]) fun _ => ?_⟩
      · rw [outbox, map_append, nodup_append]
        refine ⟨consistent.outbox, nodup_singleton _, ?_⟩
        simp only [mem_map, map_cons, map_nil, mem_singleton]
        rintro _ ⟨earlier, present, rfl⟩ _ rfl
        exact fun same => fresh.2.1 earlier present (same.trans rowId)
      · rw [outbox]
        refine forall_mem_append.mpr ⟨answered,
          forall_mem_singleton.mpr ⟨record, by simp [idempotency], ?_⟩⟩
        exact ⟨scope.trans rowScope.symm, id.trans rowId.symm⟩
      · exact ⟨row, by simp [outbox], rowId.trans spec.automationEventId.symm⟩

theorem consistent_stable (rt : Runtime) : (system rt).Stable Consistent := by
  intro s op admitted consistent
  rcases step_effect rt s op with ⟨-, events, records, -⟩ |
    ⟨_, new, stored, spec, -⟩ | ⟨-, e, e', held, moved, events, records, -⟩ |
    ⟨-, e, held, -, events, records, -⟩
  · exact consistent.congr events records
  · exact consistent.stored (fresh_of_arrival admitted stored) spec
  · obtain ⟨_, enters, -, trail⟩ := moved.trail
    exact consistent.write held moved.automationEventId (trail.expectsOutbox enters) events records
  · exact consistent.write held (by rfl) (by simp [expectsOutbox, State.terminal]) events records

/-- What is true of every event stays so if it is true of new events, survives a move and survives
quarantine. -/
theorem events_stable (rt : Runtime) {P : Held → Prop}
    (stored : ∀ {s op arrived new t h}, Operation.arrival? rt s op = some arrived →
      Stored s arrived new t → h.event = new.event → P h)
    (moved : ∀ {s : Service} {h : Held} {e' : Event}, P h → Moves s h.event e' →
      P { h with event := e' })
    (quarantined : ∀ {h : Held}, P h →
      P { h with event := { h.event with state := .quarantined } }) :
    (system rt).Stable fun s => Consistent s ∧ ∀ h ∈ s.events, P h := by
  rintro s op admitted ⟨consistent, each⟩
  refine ⟨consistent_stable rt s op admitted consistent, ?_⟩
  rcases step_effect rt s op with ⟨-, events, -, -⟩ | ⟨_, new, arrives, spec, -⟩ |
    ⟨-, e, e', held, moves, events, -, -⟩ | ⟨-, e, held, -, events, -, -⟩
  · rwa [events]
  · rw [spec.events]
    intro h member
    rcases mem_place member with before | ⟨same, -⟩
    · exact each h before
    · exact stored arrives spec same
  · rw [events]
    intro h' member
    rcases mem_write consistent.unique held moves.automationEventId member with
      ⟨before, -⟩ | ⟨h, before, rfl, rfl⟩
    · exact each h' before
    · exact moved (each h before) moves
  · rw [events]
    intro h' member
    rcases mem_write consistent.unique held (by rfl) member with
      ⟨before, -⟩ | ⟨h, before, rfl, rfl⟩
    · exact each h' before
    · exact quarantined (each h before)

def Service.Holds (s : Service) (scope : TenantScope) (id : String) : Prop :=
  ∃ h ∈ s.events, h.scope = scope ∧ h.event.automationEventId = id

def Service.dispatchable (s : Service) : List (TenantScope × String) :=
  s.outbox.map fun row => (row.scope, row.automationEventId)

def Service.acknowledged (s : Service) : List (TenantScope × String) :=
  s.idempotency.map fun record => (record.scope, record.response.automationEventId)

/-- The store is intact, where `accepted` tells which events may not be lost. -/
structure Intact (rt : Runtime) (accepted : Service → List (TenantScope × String))
    (s : Service) : Prop where
  rows : ∀ row ∈ s.outbox, s.Holds row.scope row.automationEventId
  unique : (s.outbox.map (·.automationEventId)).Nodup
  accepted : ∀ entry ∈ accepted s, s.Holds entry.1 entry.2
  gaps : ∀ scope, ∀ gap ∈ s.reconcile rt scope, gap.kind ≠ .eventWithoutOutbox

/-- The call does not store an event in the place of an accepted one. -/
def Spares (rt : Runtime) (accepted : Service → List (TenantScope × String)) (s : Service)
    (op : Operation) : Prop :=
  ∀ arrived ∈ op.arrival? rt s, ∀ old ∈ replaced? s.events arrived, ∀ entry ∈ accepted s,
    entry.2 ≠ old.event.automationEventId

theorem Consistent.gaps (consistent : Consistent s) (rt : Runtime) (scope : TenantScope) :
    ∀ gap ∈ s.reconcile rt scope, gap.kind ≠ .eventWithoutOutbox := by
  intro gap member
  obtain ⟨h, held, found⟩ := mem_flatMap.mp member
  rw [Service.gaps, mem_append] at found
  rcases found with outbox | acknowledgement
  · -- An event that needs a row has one.
    split at outbox
    next missing =>
      simp only [Bool.and_eq_true, Bool.not_eq_true', any_eq_false, decide_eq_true_eq] at missing
      obtain ⟨row, present, id⟩ := consistent.covered h (mem_of_mem_filter held) missing.1
      exact absurd id (missing.2 row present)
    · cases outbox
  · split at acknowledgement
    · obtain rfl := mem_singleton.mp acknowledgement
      simp
    · cases acknowledgement

theorem holds_of_write {scope : TenantScope} {id : String}
    (events : t.events = (s.write e).events) (holds : s.Holds scope id) : t.Holds scope id := by
  obtain ⟨h, member, rfl, rfl⟩ := holds
  obtain ⟨h', after, scope, -, id⟩ := exists_mem_write e member
  exact ⟨h', events ▸ after, scope, id⟩

theorem holds_of_stored (consistent : Consistent s)
    (fresh : s.Fresh arrived.event.automationEventId)
    (spec : Stored s arrived new t) : t.Holds arrived.scope arrived.event.automationEventId ∧
    ∀ scope id, s.Holds scope id →
        (t.Holds scope id ↔ ∀ old ∈ replaced? s.events arrived,
          id ≠ old.event.automationEventId) := by
  have same : replaced? s.events arrived = replaced? s.events new := by
    simp only [replaced?, spec.scope, spec.eventId]
  have absent := spec.absent fresh
  constructor
  · obtain ⟨h, member, event, scope⟩ := exists_mem_place new s.events
    exact ⟨h, spec.events ▸ member, scope.trans spec.scope, event ▸ spec.automationEventId⟩
  · rintro _ _ ⟨h, member, rfl, rfl⟩
    rw [same]
    constructor
    · -- The id of the event that was replaced is gone from the whole dict.
      rintro ⟨h', after, -, id⟩ old dropped again
      apply (ids_place consistent.unique absent).2 old dropped
      rw [← again, ← id, ← spec.events]
      exact mem_map_of_mem after
    · intro spared
      have stays : replaced? s.events new ≠ some h := fun dropped => spared h dropped rfl
      exact ⟨h, spec.events ▸ mem_place_of_mem member stays, rfl, rfl⟩

structure Accepts (accepted : Service → List (TenantScope × String)) : Prop where
  initial : accepted .initial = []
  congr : ∀ {s t}, SameRecords s t → accepted t = accepted s
  stored : ∀ {s t arrived new}, Stored s arrived new t → accepted t = accepted s ∨
    accepted t = accepted s ++ [(arrived.scope, arrived.event.automationEventId)]
  rows : ∀ {s}, Consistent s → dispatchable s ⊆ accepted s

theorem accepts_dispatchable : Accepts dispatchable where
  initial := rfl
  congr records := by rw [dispatchable, records.outbox, dispatchable]
  stored spec := by
    rcases spec.records with ⟨-, outbox, -⟩ |
      ⟨-, -, -, -, ⟨-, outbox⟩ | ⟨row, -, outbox, scope, id⟩⟩
    · exact Or.inl (by rw [dispatchable, outbox, dispatchable])
    · exact Or.inl (by rw [dispatchable, outbox, dispatchable])
    · exact Or.inr (by simp [dispatchable, outbox, scope, id])
  rows _ := Subset.refl _

theorem accepts_acknowledged : Accepts acknowledged where
  initial := rfl
  congr records := by rw [acknowledged, records.idempotency, acknowledged]
  stored spec := by
    rcases spec.records with ⟨-, -, idempotency⟩ | ⟨record, idempotency, scope, id, -⟩
    · exact Or.inl (by rw [acknowledged, idempotency, acknowledged])
    · exact Or.inr (by simp [acknowledged, idempotency, scope, id])
  rows consistent := by
    intro entry member
    obtain ⟨row, present, rfl⟩ := mem_map.mp member
    obtain ⟨record, found, scope, id⟩ := consistent.answered row present
    exact mem_map.mpr ⟨record, found, by rw [scope, id]⟩

section

variable {accepted : Service → List (TenantScope × String)} (accepts : Accepts accepted)

include accepts

theorem intact_iff_holds (consistent : Consistent s) :
    Intact rt accepted s ↔ ∀ entry ∈ accepted s, s.Holds entry.1 entry.2 := by
  refine ⟨Intact.accepted, fun holds => ⟨?_, consistent.outbox, holds, consistent.gaps rt⟩⟩
  intro row present
  exact holds _ (accepts.rows consistent (mem_map_of_mem present))

/-- Out of an intact state, a call leaves the store intact exactly when it spares the accepted
events. -/
theorem intact_step_iff (admitted : (system rt).admits s op) (consistent : Consistent s)
    (intact : Intact rt accepted s) : Intact rt accepted ((system rt).step s op) ↔
    Spares rt accepted s op := by
  have after := consistent_stable rt s op admitted consistent
  rw [intact_iff_holds accepts after]
  have holds := intact.accepted
  -- A call that stores nothing spares everything.
  have unstored : op.arrival? rt s = none → SameRecords s ((system rt).step s op) →
      (∀ scope id, s.Holds scope id → ((system rt).step s op).Holds scope id) →
      ((∀ entry ∈ accepted ((system rt).step s op),
        ((system rt).step s op).Holds entry.1 entry.2) ↔ Spares rt accepted s op) := by
    intro quiet records kept
    rw [accepts.congr records]
    exact iff_of_true (fun entry member => kept _ _ (holds entry member)) (by simp [Spares, quiet])
  rcases step_effect rt s op with ⟨quiet, events, records, -⟩ |
    ⟨_, new, stored, spec, -⟩ | ⟨quiet, e, e', -, -, events, records, -⟩ |
    ⟨quiet, e, -, -, events, records, -⟩
  · apply unstored quiet records
    rintro scope id ⟨h, held, found⟩
    exact ⟨h, events ▸ held, found⟩
  · obtain ⟨own, others⟩ := holds_of_stored consistent (fresh_of_arrival admitted stored) spec
    have spared : (∀ entry ∈ accepted s, ((system rt).step s op).Holds entry.1 entry.2) ↔
        Spares rt accepted s op := by
      simp only [Spares, stored, Option.mem_some_iff, forall_eq']
      constructor
      · intro kept old dropped entry member
        exact (others _ _ (holds entry member)).mp (kept entry member) old dropped
      · intro spares entry member
        exact (others _ _ (holds entry member)).mpr fun old dropped =>
          spares old dropped entry member
    rw [← spared]
    rcases accepts.stored spec with same | longer
    · rw [same]
    · -- The stored event is accepted too, but it is held anyway.
      rw [longer]
      rw [forall_mem_append, forall_mem_singleton]
      exact and_iff_left own
  · exact unstored quiet records fun _ _ => holds_of_write events
  · exact unstored quiet records fun _ _ => holds_of_write events

theorem intact_along_iff (run : (system rt).Run .initial ops) :
    (system rt).Always (Intact rt accepted) .initial ops ↔
    (system rt).Along (Spares rt accepted) .initial ops := by
  have start : Intact rt accepted .initial := by
    rw [intact_iff_holds accepts consistent_initial, accepts.initial]
    simp
  exact (consistent_stable rt).always_iff (fun _ _ => intact_step_iff accepts)
    consistent_initial start run

end

/-- The store stays intact over a sequence of calls exactly when no call stores an event under the
`event_id` of an accepted one, whether every event counts that was answered for or only those that
went to the outbox. Outbox rows are unique and `reconcile` misses none in any case. -/
theorem store_intact_iff {ops : List Operation} (run : (system rt).Run .initial ops) :
    ((system rt).Always (Intact rt acknowledged) .initial ops ↔
      (system rt).Along (Spares rt acknowledged) .initial ops) ∧
      ((system rt).Always (Intact rt dispatchable) .initial ops ↔
        (system rt).Along (Spares rt dispatchable) .initial ops) ∧
      (system rt).Always (fun s => (s.outbox.map (·.automationEventId)).Nodup ∧
        ∀ scope, ∀ gap ∈ s.reconcile rt scope, gap.kind ≠ .eventWithoutOutbox) .initial ops :=
  ⟨intact_along_iff accepts_acknowledged run, intact_along_iff accepts_dispatchable run,
    (consistent_stable rt).always (fun _ consistent => ⟨consistent.outbox, consistent.gaps rt⟩)
    consistent_initial run⟩

def redelivered : List Operation := prepared ++ [.receive (uuid 'a') (payload "E1" "K1"),
    .receive (uuid 'b') (payload "E1" "K2")]

theorem redelivered_run : (system runtime).Run .initial redelivered := by
  unfold Transition.System.Run
  decide +kernel

theorem redelivered_lost (accepted : Service → List (TenantScope × String)) :
    ¬Intact runtime accepted ((system runtime).after .initial redelivered) := by
  intro intact
  have lost : ∃ row ∈ ((system runtime).after .initial redelivered).outbox,
      ∀ h ∈ ((system runtime).after .initial redelivered).events,
        ¬(h.scope = row.scope ∧ h.event.automationEventId = row.automationEventId) := by
    decide +kernel
  obtain ⟨row, present, gone⟩ := lost
  obtain ⟨h, held, found⟩ := intact.rows row present
  exact gone h held found

theorem redelivery_drops_accepted_event : (system runtime).Run .initial redelivered ∧
    ∀ accepted, ¬(system runtime).Always (Intact runtime accepted) .initial redelivered :=
  ⟨redelivered_run, fun accepted always => redelivered_lost accepted always.last⟩

theorem redelivery_not_spared : ¬(system runtime).Along (Spares runtime acknowledged) .initial
    redelivered :=
  fun spares => redelivered_lost _ ((store_intact_iff redelivered_run).1.mpr spares).last

end CodestraMiddleware.LeadAutomation
