import CodestraMiddleware.Callbacks.System

/-!
# Reminders and versions

The warning before a call is a delivery of one version of its callback. Only `create` enqueues one:
`mutate` takes every callback to a new version, and for a snoozed or rescheduled one also works out
a new time for the warning, but adds no delivery for it.
-/
namespace CodestraMiddleware.Callbacks

open Relational Raising Transition List Database
open AiJobs (UUID)

variable {rt : Runtime}

def waiting : List CallbackState := [.scheduled, .snoozed, .rescheduled]

/-- A callback with popups whose warning is still to come. -/
def CallbackRecord.Awaits (r : CallbackRecord) (clock : Int) : Prop :=
  r.reminderPopupEnabled = true ∧ r.state ∈ waiting ∧ clock < r.reminders.popupAt

instance (r : CallbackRecord) (clock : Int) : Decidable (r.Awaits clock) :=
  inferInstanceAs (Decidable (_ ∧ _ ∧ _))

/-- The warning of the current version, to be made at its time. -/
def CallbackDelivery.Warns (d : CallbackDelivery) (r : CallbackRecord) : Prop :=
  d.callbackId = r.id ∧ d.callbackVersion = r.version ∧ d.channel = .popup ∧ d.stage = .warning15m ∧
    d.isPending = true ∧ d.nextAttemptAt = some r.reminders.popupAt

instance (d : CallbackDelivery) (r : CallbackRecord) : Decidable (d.Warns r) :=
  inferInstanceAs (Decidable (_ ∧ _ ∧ _ ∧ _ ∧ _ ∧ _))

/-- Every callback that awaits its reminder has one pending. -/
def Reminded (s : State) : Prop :=
  ∀ r ∈ s.database.records.rows, r.Awaits s.clock → ∃ d ∈ s.database.deliveries.rows, d.Warns r

def Aggregate.Reminded (a : Aggregate) (clock : Int) : Prop :=
  ∀ r ∈ a.record, r.Awaits clock → ∃ d ∈ a.deliveries, d.Warns r

variable {s : State}

theorem reminded_iff : Reminded s ↔ ∀ id, (s.database.aggregate id).Reminded s.clock := by
  constructor
  · intro reminded id r there awaits
    obtain ⟨row, same⟩ := record?_eq_some_iff.mp there
    obtain ⟨d, stored, warns⟩ := reminded r row awaits
    exact ⟨d, aggregate_deliveries_mem.mpr ⟨stored, warns.1.trans same⟩, warns⟩
  · intro reminded r row awaits
    obtain ⟨d, member, warns⟩ := reminded r.id r (record?_of_mem row) awaits
    exact ⟨d, (aggregate_deliveries_mem.mp member).1, warns⟩

variable {clock clock' : Int}

theorem CallbackRecord.Awaits.earlier {r : CallbackRecord} (awaits : r.Awaits clock')
    (before : clock ≤ clock') : r.Awaits clock :=
  ⟨awaits.1, awaits.2.1, before.trans_lt awaits.2.2⟩

variable {a : Aggregate}

theorem Aggregate.Reminded.later (reminded : a.Reminded clock) (before : clock ≤ clock') :
    a.Reminded clock' :=
  fun r there awaits => reminded r there (awaits.earlier before)

/-! ## Steps that keep the warnings -/

theorem CreateCall.warning_warns {c : CreateCall}
    (enabled : (c.row scheduled phone).reminderPopupEnabled = true) :
    ∃ d ∈ CreateCall.warning (c.row scheduled phone), d.Warns (c.row scheduled phone) := by
  refine ⟨(c.row scheduled phone).popup .warning15m "warning-15m"
    (c.row scheduled phone).reminders.popupAt, ?_, rfl, rfl, rfl, rfl, rfl, rfl⟩
  rw [CreateCall.warning, if_pos enabled]
  exact mem_singleton_self _

theorem Aggregate.Reminded.step {e : Event} (step : Aggregate.Step rt e a a')
    (noChange : ∀ c, e ≠ .mutate c) (noResult : ∀ c, e ≠ .callbackResult c)
    (reminded : a.Reminded clock) : a'.Reminded (max clock e.now) := by
  have before : clock ≤ max clock e.now := le_max_left _ _
  -- Warnings that the step leaves alone.
  have kept {f : CallbackDelivery → CallbackDelivery} {row : CallbackRecord}
      (there : a.record = some row) (after : a' = { a with deliveries := a.deliveries.map f })
      (same : row.Awaits (max clock e.now) → ∀ d ∈ a.deliveries, d.Warns row → f d = d) :
      a'.Reminded (max clock e.now) := by
    intro r here awaits
    rw [after] at here ⊢
    cases there.symm.trans here
    obtain ⟨d, member, warns⟩ := reminded row there (awaits.earlier before)
    exact ⟨d, mem_map.mpr ⟨d, member, same awaits d member warns⟩, warns⟩
  cases step with
  | kept same =>
    rw [same]
    exact reminded.later before
  | created _ _ _ _ _ _ _ _ after =>
    intro r there awaits
    rw [after] at there ⊢
    cases there
    obtain ⟨d, member, warns⟩ := CreateCall.warning_warns awaits.1
    exact ⟨d, mem_append_right _ (mem_append_right _ member), warns⟩
  | changed c row row' call => exact absurd call (noChange c)
  | moved m _ _ _ _ _ after =>
    intro r there awaits
    rw [after] at there
    cases there
    have state := awaits.2.1
    cases m <;> simp [waiting, Move.next, Move.state, CallbackRecord.advance] at state
  | reported c row call => exact absurd call (noResult c)
  | reconciled _ _ _ _ there old after =>
    refine kept there after fun awaits d member warns => if_neg fun stale => ?_
    rcases (old d stale).2 with older | final
    · exact absurd warns.2.1 older.ne
    · have state := awaits.2.1
      simp only [CallbackState.terminal, mem_cons, not_mem_nil, or_false] at final
      rcases final with same | same <;> simp [waiting, same] at state
  | delivered c _ _ _ call there due after =>
    refine kept there after fun awaits d member warns => if_neg fun selected => ?_
    -- A delivery is made at its time, and then the warning is no longer to come.
    have time := due d member selected
    simp only [DeliverCall.isDue, Bool.and_eq_true, warns.2.2.2.2.2, Option.any_some,
      decide_eq_true_eq] at time
    have read : c.now ≤ max clock e.now := by
      rw [call]
      exact le_max_right _ _
    exact absurd awaits.2.2 (not_lt.mpr (time.1.2.trans read))

/-- What a change asks for leaves the callback with a warning to come: the current one where the
state waits, or the one before the new time of the call. -/
def MutateCall.LeavesWarning (c : MutateCall) (row : CallbackRecord) (clock : Int) : Prop :=
  row.reminderPopupEnabled = true ∧ match c.target with
    | .state .snoozed => clock < c.now + minutes (c.body.snoozeMinutes.getD 5) - minutes 15
    | .state .rescheduled => ∃ time ∈ c.body.scheduledAt, ∃ offset ∈ time.utcoffset,
        clock < time.wall - offset - minutes 15
    | .state .scheduled => clock < row.reminders.popupAt
    | .state _ => False
    | .reassigned | .updated => row.state ∈ waiting ∧ clock < row.reminders.popupAt

theorem canonicalTime_eq_ok (ok : canonicalTime zones value timezone = .ok instant) :
    ∃ offset, value.utcoffset = some offset ∧ instant = value.wall - offset := by
  unfold canonicalTime at ok
  split at ok
  · cases ok
  · split at ok
    · cases ok
    next offset given =>
      simp only at ok
      split at ok
      · cases ok
      · cases ok
        exact ⟨offset, given, rfl⟩

variable {row row' : CallbackRecord}

theorem MutateCall.Writes.awaits_iff {c : MutateCall} (writes : c.Writes row rt.zones row') :
    row'.Awaits clock ↔ c.LeavesWarning row clock := by
  have enabled : row'.reminderPopupEnabled = row.reminderPopupEnabled := by rw [writes.spec]
  have popup : row'.reminders = if c.target = .state .snoozed ∨ c.target = .state .rescheduled then
      reminders row'.scheduledAt else row.reminders := by
    conv_lhs => rw [writes.written]
    rfl
  have schedule := writes.schedule
  unfold CallbackRecord.Awaits MutateCall.LeavesWarning
  rw [enabled, popup]
  refine and_congr_right fun _ => ?_
  rcases effective_eq_ok.mp writes.state with ⟨next, target, -, same⟩ | ⟨target, same⟩
  · rw [same, target]
    unfold MutateCall.schedule at schedule
    rw [target] at schedule
    cases next with
    | snoozed =>
      simp only [Except.ok.injEq, Prod.mk.injEq] at schedule
      simp [waiting, ← schedule.1, reminders]
    | rescheduled =>
      simp only at schedule
      split at schedule
      next time timezone given zone =>
        simp only [bind_eq_ok, check_eq_ok, raiseAs_eq_ok, Except.ok.injEq,
          Prod.mk.injEq] at schedule
        obtain ⟨-, -, instant, canonical, rfl, -⟩ := schedule
        obtain ⟨_, aware, instant⟩ := canonicalTime_eq_ok canonical
        simp [waiting, given, aware, reminders, instant]
      next => cases schedule
    | _ => simp [waiting]
  · rcases target with target | target <;> simp [target, same]

theorem Aggregate.Sound.warns_older (sound : a.Sound) (there : a.record = some row)
    (version : row'.version = row.version + 1) {f : CallbackDelivery → CallbackDelivery}
    (spec : ∀ d, (f d).toDeliverySpec = d.toDeliverySpec) :
    ∀ d ∈ a.deliveries.map f, ¬ d.Warns row' := by
  intro d member warns
  obtain ⟨old, stored, rfl⟩ := mem_map.mp member
  have bound := sound.versions row there old stored
  have current := warns.2.1
  rw [spec old, version] at current
  omega

theorem mutated_reminded_iff {c : MutateCall} (consistent : Consistent db)
    (mutated : Mutated rt c db row row' db') (reminded : ∀ id, (db.aggregate id).Reminded clock)
    (before : clock ≤ clock') : (∀ id, (db'.aggregate id).Reminded clock') ↔
    ¬ c.LeavesWarning row clock' := by
  have writes := mutated.writes
  have there : (db.aggregate row.id).record = some row := record?_of_mem mutated.loaded.found
  have none_left := (consistent row.id).warns_older there writes.next_version
    (f := fun d => if c.staleDelivery row d then d.cancelStale else d) (fun d => by split <;> rfl)
  rw [← writes.awaits_iff]
  constructor
  · intro reminded' awaits
    have own := reminded' row.id
    rw [mutated.aggregate_own] at own
    obtain ⟨d, member, warns⟩ := own row' rfl awaits
    exact none_left d member warns
  · intro settled id
    by_cases own : row.id = id
    · subst own
      rw [mutated.aggregate_own]
      intro r same awaits
      cases same
      exact absurd awaits settled
    · rw [mutated.aggregate_other own]
      exact (reminded id).later before

/-- A result is about the warning of a callback. -/
def ResultCall.AboutWarning (c : ResultCall) : Prop :=
  c.body.channel = .popup ∧ c.body.stage = .warning15m

theorem ResultCall.record_not_warns (c : ResultCall) (d : CallbackDelivery) (r : CallbackRecord) :
    ¬ (c.record d).Warns r := by
  rintro ⟨-, -, -, -, pending, time⟩
  have reported := c.body.status_reported
  simp only [record, CallbackDelivery.isPending, DeliveryStatus.pending, mem_cons,
    not_mem_nil, or_false, decide_eq_true_eq] at pending time reported
  rcases pending with queued | retry
  · rw [queued] at time
    cases time
  · rw [retry] at reported
    simp at reported

theorem reported_reminded_iff {c : ResultCall} (loaded : Loaded db c.callbackId c.principal row)
    (current : c.body.callbackVersion = row.version)
    (done : db.Committed c.work db') (reminded : ∀ id, (db.aggregate id).Reminded clock)
    (before : clock ≤ clock') :
    (∀ id, (db'.aggregate id).Reminded clock') ↔ ¬ (c.AboutWarning ∧ row.Awaits clock') := by
  have there : (db.aggregate row.id).record = some row := record?_of_mem loaded.found
  have after := fun id => done.aggregate_settled rfl rfl rfl rfl id
  constructor
  · rintro reminded' ⟨⟨channel, stage⟩, awaits⟩
    have own := reminded' row.id
    rw [after] at own
    obtain ⟨d, member, warns⟩ := own row there awaits
    obtain ⟨old, -, rfl⟩ := mem_map.mp member
    simp only [ResultCall.work] at warns
    split at warns
    · exact c.record_not_warns old row warns
    next unconcerned =>
      obtain ⟨id, version, channel', stage', -, -⟩ := warns
      refine unconcerned (decide_eq_true ⟨id.trans loaded.id, version.trans current.symm, ?_, ?_⟩)
      · rw [channel', channel]
      · rw [stage', stage]
  · intro elsewhere id r same awaits
    rw [after] at same ⊢
    obtain ⟨d, member, warns⟩ := reminded id r same (awaits.earlier before)
    refine ⟨d, mem_map.mpr ⟨d, member, if_neg fun concerns => elsewhere ?_⟩, warns⟩
    simp only [ResultCall.concerns, decide_eq_true_eq] at concerns
    obtain ⟨own, -, channel, stage⟩ := concerns
    refine ⟨⟨?_, ?_⟩, ?_⟩
    · rw [← channel, warns.2.2.1]
    · rw [← stage, warns.2.2.2.1]
    · have row' := (record?_eq_some_iff.mp same).1
      obtain rfl := eq_of_id row' loaded.found (by rw [loaded.id, ← own, warns.1])
      exact awaits

/-- No change that is made leaves a warning to come, and no result that is recorded is about one. -/
def SparesWarnings (rt : Runtime) (s : State) : Event → Prop
  | .mutate c => ∀ row row' db', Mutated rt c s.database row row' db' →
      ¬ c.LeavesWarning row (max s.clock c.now)
  | .callbackResult c => ∀ row db', callbackResult c s.database = .ok (row, db') →
      ¬ (c.AboutWarning ∧ row.Awaits (max s.clock c.now))
  | _ => True

theorem step_reminded_iff {e : Event} (consistent : Consistent s.database) (reminded : Reminded s) :
    Reminded (step rt s e) ↔ SparesWarnings rt s e := by
  rw [reminded_iff] at reminded ⊢
  have before : s.clock ≤ max s.clock e.now := le_max_left _ _
  have unchanged {db : Database} (same : db = s.database) :
      ∀ id, (db.aggregate id).Reminded (max s.clock e.now) := by
    intro id
    rw [same]
    exact (reminded id).later before
  cases e with
  | mutate c =>
    simp only [step, Event.commits]
    cases result : mutate rt c s.database with
    | error failure =>
      refine iff_of_true (unchanged rfl) fun row row' db' mutated => ?_
      rw [mutate_eq_ok_iff.mpr (.inr ⟨row, mutated⟩)] at result
      cases result
    | ok answer =>
      rcases mutate_eq_ok_iff.mp result with ⟨replayed, same⟩ | ⟨row, mutated⟩
      · refine iff_of_true (unchanged same) fun row row' db' mutated => ?_
        -- The key of a replayed change is not new.
        obtain ⟨e, stored, tenant, key⟩ := replayed.duplicate
        exact absurd key (mutated.key_fresh e stored (tenant.trans mutated.loaded.tenant.symm))
      · apply (mutated_reminded_iff consistent mutated reminded before).trans
        constructor
        · intro spared row₁ row₁' db₁ mutated₁
          obtain rfl := Except.ok.inj (mutated.loads.symm.trans mutated₁.loads)
          exact spared
        · exact fun spares => spares row _ _ mutated
  | callbackResult c =>
    simp only [step, Event.commits]
    cases result : callbackResult c s.database with
    | error failure =>
      refine iff_of_true (unchanged rfl) fun row db' ok => ?_
      rw [ok] at result
      cases result
    | ok answer =>
      obtain ⟨loaded, current, done⟩ := callbackResult_eq_ok result
      apply (reported_reminded_iff loaded current done reminded before).trans
      constructor
      · intro spared row db' ok
        cases result.symm.trans ok
        exact spared
      · exact fun spares => spares _ _ result
  | _ =>
    refine iff_of_true (fun id => (reminded id).step (aggregate_step (step_effect rt s _) id) ?_ ?_)
      trivial <;> rintro c ⟨⟩

/-- Every warning that is still to come is enqueued throughout a run exactly if no change that is
made leaves one to come. -/
theorem reminders_survive_iff (rt : Runtime) (clock : Int) (events : List Event) :
    (system rt).Always Reminded (.initial clock) events ↔ (system rt).Along (SparesWarnings rt)
    (.initial clock) events :=
  (consistent_stable rt).always_iff (fun s e _ consistent reminded =>
    step_reminded_iff consistent reminded)
    (consistent_initial clock) (fun r row => by cases row) (run_all rt _ events)

namespace Sample

def note : Event := .mutate (changing .updated { noChange 0 with notes := some "called" } "K2" 1)

def reschedule : Event :=
  .mutate (changing (.state .rescheduled) { noChange 0 with
    scheduledAt := some ⟨minutes 3000, some 0⟩, customerTimezone := some "UTC" } "K2" 1)

def lostWarning (s : State) : Bool :=
  s.database.records.rows.any fun r =>
    decide (r.Awaits s.clock) && s.database.deliveries.rows.all fun d => !decide (d.Warns r)

theorem not_reminded_of_lost (lost : lostWarning s = true) : ¬ Reminded s := by
  intro reminded
  obtain ⟨r, row, holds⟩ := any_eq_true.mp lost
  simp only [Bool.and_eq_true, decide_eq_true_eq, all_eq_true, Bool.not_eq_true',
    decide_eq_false_iff_not] at holds
  obtain ⟨d, stored, warns⟩ := reminded r row holds.1
  exact holds.2 d stored warns

end Sample

open Sample in
/-- A note on the callback, or a new time for the call: the warning that was enqueued belongs to the
version before, and there is no other. -/
theorem changes_lose_reminder : ¬ (system runtime).Always Reminded (.initial 0)
    [.create creation, note] ∧
      ¬ (system runtime).Always Reminded (.initial 0) [.create creation, reschedule] := by
  have noted : lostWarning ((system runtime).after (.initial 0) [.create creation, note]) =
    true := by decide +kernel
  have moved : lostWarning ((system runtime).after (.initial 0) [.create creation, reschedule]) =
      true := by
    decide +kernel
  exact ⟨fun always => not_reminded_of_lost noted always.last,
    fun always => not_reminded_of_lost moved always.last⟩

end CodestraMiddleware.Callbacks
