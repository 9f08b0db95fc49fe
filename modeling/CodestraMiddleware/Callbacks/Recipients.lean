import CodestraMiddleware.Callbacks.System

/-!
# Whom popups reach

The popup worker looks at nothing but the version of a callback. But `create` enqueues the warning
of a callback that it blocks like that of any other, and a reassignment leaves `assigned_user_id` as
it is.
-/
namespace CodestraMiddleware.Callbacks

open Relational Raising Transition List Database CallbackState
open AiJobs (UUID)

variable {rt : Runtime}

/-! ## Callbacks that are over -/

/-- A callback in a final state has no delivery of its current version. -/
def Aggregate.Silent (a : Aggregate) : Prop :=
  ∀ r ∈ a.record, r.state ∈ terminal → ∀ d ∈ a.deliveries, d.callbackVersion < r.version

theorem Aggregate.Silent.settle {a : Aggregate} (silent : a.Silent)
    (spec : ∀ d, (f d).toDeliverySpec = d.toDeliverySpec) :
    Aggregate.Silent { a with deliveries := a.deliveries.map f } := by
  intro r there final d member
  obtain ⟨d, old, rfl⟩ := mem_map.mp member
  rw [spec d]
  exact silent r there final d old

variable {e : Event}

theorem Aggregate.Silent.step {a' : Aggregate} (step : Aggregate.Step rt e a a') (sound : a.Sound)
    (silent : a.Silent) : a'.Silent := by
  cases step with
  | kept same => rwa [same]
  | created c scheduled phone _ _ _ _ _ after =>
    intro r there final
    rw [after] at there
    cases there
    -- A new callback is scheduled or blocked.
    have state : (c.row scheduled phone).state = if c.body.compliance.checks.all then .scheduled
      else .blockedCompliance := rfl
    rw [state] at final
    split at final <;> simp [terminal] at final
  | changed c row row' call before id change after =>
    intro r there final d member
    rw [after] at there member
    cases there
    obtain ⟨d, old, rfl⟩ := mem_map.mp member
    have writes := (c.changed_eq_ok_iff row).mp change
    have bound := sound.versions row before d old
    rw [writes.next_version]
    split <;> exact Nat.lt_succ_of_le bound
  | moved m _ _ _ _ _ after =>
    intro r there final
    rw [after] at there
    cases there
    cases m <;> simp [terminal, Move.next, Move.state, CallbackRecord.advance] at final
  | reported _ _ _ _ _ _ after | reconciled _ _ _ _ _ _ after | delivered _ _ _ _ _ _ _ after =>
    rw [after]
    exact silent.settle fun d => by split <;> first | rfl | exact DeliverCall.settle_spec ..

/-! ## Reassigned callbacks -/

def MovedToAnother (before after : CallbackRecord) : Prop :=
  ∃ agent, after.assignedAgentId = some agent ∧ before.assignedAgentId ≠ some agent

instance (before after : CallbackRecord) : Decidable (MovedToAnother before after) :=
  decidable_of_iff ((after.assignedAgentId.any fun agent =>
    decide (before.assignedAgentId ≠ some agent)) = true) (by
    simp [MovedToAnother, Option.any_eq_true])

/-- A reassignment has moved the callback to another agent. -/
def State.moved (s : State) (id : UUID) : Bool :=
  s.log.any fun note =>
    match note with
    | .posted _ => false
    | .reassigned before after => decide (before.id = id ∧ MovedToAnother before after)

theorem State.moved_of_mem {s : State} {before after : CallbackRecord}
    (noted : .reassigned before after ∈ s.log)
    (other : MovedToAnother before after) : s.moved before.id = true :=
  any_eq_true.mpr ⟨_, noted, decide_eq_true ⟨rfl, other⟩⟩

variable {s : State}

/-! ## Popup runs -/

def inactive : List CallbackState := [.blockedCompliance, .completed, .cancelled]

def posted (rt : Runtime) (s : State) : Event → List Document
  | .deliver c => (deliverCallbackPopups rt c s.database).posted
  | _ => []

/-- Everything that a step posts is about a callback that is active, and none of it goes to the user
of an agent from whom the callback was taken. -/
def ReachesOwners (rt : Runtime) (s : State) (e : Event) : Prop :=
  ∀ doc ∈ posted rt s e, (∀ r ∈ s.database.records.rows, r.id = doc.callbackId →
    r.state ∉ inactive) ∧
    ∀ before after, .reassigned before after ∈ s.log → before.id = doc.callbackId →
      MovedToAnother before after → before.assignedUserId ≠ some doc.userId

/-- At a popup run, a callback that has a delivery of its version is not blocked, and no
reassignment has moved it to another agent. -/
def OwnersKept (s : State) : Event → Prop
  | .deliver _ => ∀ d ∈ s.database.deliveries.rows, ∀ r ∈ s.database.records.rows,
      d.callbackId = r.id →
      d.callbackVersion = r.version → r.state ≠ .blockedCompliance ∧ s.moved r.id = false
  | _ => True

instance (s : State) (e : Event) : Decidable (OwnersKept s e) := by
  unfold OwnersKept
  split <;> infer_instance

theorem mem_posted (member : doc ∈ posted rt s (.deliver c)) : ∃ d ∈ s.database.deliveries.rows,
    ∃ r ∈ s.database.records.rows, d.callbackId = r.id ∧ d.callbackVersion = r.version ∧
      document rt.digit d r = .ok doc := by
  simp only [posted, deliverCallbackPopups] at member
  split at member
  · cases member
  next context _ =>
    obtain ⟨d, r, row, current, made⟩ := c.mem_posts member
    obtain ⟨stored, found, -⟩ := mem_dueRows row
    obtain ⟨listed, same⟩ := record?_eq_some_iff.mp found
    exact ⟨d, stored, r, listed, same.symm, current, made⟩

theorem reachesOwners_of_kept (silent : ∀ id, (s.database.aggregate id).Silent)
    (kept : OwnersKept s e) : ReachesOwners rt s e := by
  cases e with
  | deliver c =>
    intro doc member
    obtain ⟨d, stored, r, row, same, current, made⟩ := mem_posted member
    obtain ⟨-, id, -⟩ := document_eq_ok made
    obtain ⟨unblocked, own⟩ := kept d stored r row same current
    constructor
    · intro r' row' same' state
      obtain rfl := eq_of_id row' row (same'.trans id)
      simp only [inactive, mem_cons, not_mem_nil, or_false] at state
      rcases state with blocked | final
      · exact unblocked blocked
      · have older := silent r'.id r' (record?_of_mem row) (by
          simpa [terminal] using final) d (aggregate_deliveries_mem.mpr ⟨stored, same⟩)
        exact absurd current older.ne
    · intro before after noted mine moved
      rw [← id, ← mine, s.moved_of_mem noted moved] at own
      cases own
  | _ =>
    rintro doc ⟨⟩

theorem silent_stable (rt : Runtime) : (system rt).Stable fun s =>
    Consistent s.database ∧ ∀ id, (s.database.aggregate id).Silent := by
  rintro s e - ⟨consistent, silent⟩
  have step := fun id => aggregate_step (step_effect rt s e) id
  exact ⟨fun id => (consistent id).step (step id), fun id => (silent id).step (step id)
    (consistent id)⟩

/-- Popups reach the owners of active callbacks throughout a run if no callback with a delivery of
its version is blocked or was given to another agent when there is a popup run. -/
theorem popups_reach_owners (rt : Runtime) (clock : Int) (events : List Event)
    (kept : (system rt).Along OwnersKept (.initial clock) events) :
    (system rt).Along (ReachesOwners rt) (.initial clock) events := by
  refine System.along_of_along (I := fun s => Consistent s.database ∧
    ∀ id, (s.database.aggregate id).Silent)
    (fun s e _ => silent_stable rt s e trivial)
    (fun s e kept inv => reachesOwners_of_kept inv.2 kept) ?_ kept
  exact ⟨consistent_initial clock, fun id r there => by cases there⟩

namespace Sample

def blockedWarning : List Event := [
  .create { creation with body := { request with
    compliance := { passing with consent := false } } },
  .deliver (delivering (minutes 105))]

def reassignedDue : List Event := [.create creation,
  .mutate (changing .reassigned { noChange 0 with assignedAgentId := some "B" } "K2" 1),
  .claimDue (scheduling (minutes 120)) 100, .deliver (delivering (minutes 120))]

def warned : List Event := [.create creation, .deliver (delivering (minutes 105))]

def misdirected (s : State) (e : Event) : Bool :=
  (posted runtime s e).any fun doc =>
    (s.database.records.rows.any fun r => decide (r.id = doc.callbackId ∧ r.state ∈ inactive)) ||
    s.log.any fun note =>
      match note with
      | .posted _ => false
      | .reassigned before after =>
        decide (before.id = doc.callbackId ∧ MovedToAnother before after ∧
          before.assignedUserId = some doc.userId)

theorem not_reachesOwners (bad : misdirected s e = true) : ¬ ReachesOwners runtime s e := by
  intro reaches
  obtain ⟨doc, member, holds⟩ := any_eq_true.mp bad
  obtain ⟨active, addressed⟩ := reaches doc member
  rw [Bool.or_eq_true] at holds
  rcases holds with state | user
  · obtain ⟨r, row, holds⟩ := any_eq_true.mp state
    simp only [decide_eq_true_eq] at holds
    exact active r row holds.1 holds.2
  · obtain ⟨note, noted, holds⟩ := any_eq_true.mp user
    cases note with
    | posted => cases holds
    | reassigned before after =>
      simp only [decide_eq_true_eq] at holds
      exact addressed before after noted holds.1 holds.2.1 holds.2.2

end Sample

open Sample in
/-- The warning of a callback that is scheduled goes to its owner. -/
theorem warning_reaches_owner : (system runtime).Along (ReachesOwners runtime)
    (.initial 0) warned :=
  popups_reach_owners runtime 0 warned (by decide +kernel)

open Sample in
/-- The blocked callback's warning is posted; the popup that tells `B` of the call goes to the user
of `A`. -/
theorem popups_reach_others : ¬ (system runtime).Along (ReachesOwners runtime)
    (.initial 0) blockedWarning ∧
      ¬ (system runtime).Along (ReachesOwners runtime) (.initial 0) reassignedDue := by
  have blocked : misdirected ((system runtime).after (.initial 0) (blockedWarning.take 1))
      (.deliver (delivering (minutes 105))) = true := by decide +kernel
  have former : misdirected ((system runtime).after (.initial 0) (reassignedDue.take 3))
      (.deliver (delivering (minutes 120))) = true := by decide +kernel
  exact ⟨fun along => not_reachesOwners blocked along.2.1,
    fun along => not_reachesOwners former along.2.2.2.1⟩

end CodestraMiddleware.Callbacks
