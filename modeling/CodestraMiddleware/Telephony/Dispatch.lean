import CodestraMiddleware.Telephony.System

/-!
# One dispatch record per command

Any number of workers run `dispatch_one` at the same time; they crash, their leases run out and are
taken over.
-/
namespace CodestraMiddleware.Telephony

open Relational Transition State

variable (sha256 : String → String)

variable {ι : Type} [DecidableEq ι]

theorem records_kept (s : State ι) (es : List (Event ι)) :
    RecordsKept s.database ((journalSystem sha256).after s es).database :=
  System.after_related (R := fun s s' => RecordsKept s.database s'.database) (fun _ => .refl _)
    (fun _ _ _ => .trans) (step_recordsKept sha256) s es

/-- Nobody dispatches a command after reading its operation. -/
def NoDispatchAfterRead (log : List (ι × Trace)) : Prop :=
  log.Pairwise fun later earlier =>
    ∀ i commandId, earlier = (i, .read commandId true) → later ≠ (i, .dispatched commandId)

omit [DecidableEq ι] in
theorem NoDispatchAfterRead.cons {log : List (ι × Trace)} (ordered : NoDispatchAfterRead log)
    (unread : ∀ commandId, trace = .dispatched commandId → (i, .read commandId true) ∉ log) :
    NoDispatchAfterRead ((i, trace) :: log) := by
  refine List.pairwise_cons.mpr ⟨?_, ordered⟩
  rintro earlier member j commandId rfl same
  cases same
  exact unread commandId rfl member

structure DispatchRecord (s : State ι) : Prop where
  present : ∀ i commandId, (i, .read commandId true) ∈ s.log →
    (s.database.operation? commandId).isSome
  unread : ∀ i lease heartbeat command decision,
    s.workers i = .running lease heartbeat (.loaded command none decision) →
    (i, .read lease.commandId true) ∉ s.log
  ordered : NoDispatchAfterRead s.log

omit [DecidableEq ι] in
theorem DispatchRecord.initial (db : Database) : DispatchRecord (initial ι db) where
  present i commandId member := by cases member
  unread i lease heartbeat command decision running := by cases running
  ordered := .nil

variable {commandId : UUID}

section Reacts

variable {sha256} {db : Database} {w : Worker} {e : WorkerEvent} {reaction : Reaction}
  (reacts : Reacts sha256 db w e reaction)

include reacts

theorem Reacts.dispatched (trace : reaction.trace = some (.dispatched commandId)) :
    ∃ lease heartbeat command decision,
      w = .running lease heartbeat (.loaded command none decision) ∧
      lease.commandId = commandId := by
  cases reacts with
  | dispatches running =>
    cases trace
    exact ⟨_, _, _, _, running, rfl⟩
  | stumbles looked | gaveUp looked => cases looked <;> cases trace
  | _ => cases trace

omit reacts in
theorem lookup_present (seen : Trace.read commandId true = lookup commandId' db) :
    (db.operation? commandId).isSome := by
  injection seen with same found
  rw [same, ← found]

theorem Reacts.read (trace : reaction.trace = some (.read commandId true)) :
    (db.operation? commandId).isSome := by
  cases reacts with
  | loads | persists | rejoins | finalizes => exact lookup_present (Option.some.inj trace).symm
  | stumbles | gaveUp =>
    obtain ⟨id, -, seen⟩ := Option.map_eq_some_iff.mp trace
    exact lookup_present seen.symm
  | _ => cases trace

theorem Reacts.undispatched {heartbeat : Bool}
    (going : reaction.worker = .running lease heartbeat (.loaded command none decision)) :
    (∃ heartbeat', w = .running lease heartbeat' (.loaded command none decision) ∧
      reaction.trace = none) ∨
    db.operation? lease.commandId = none ∧ reaction.trace = some (.read lease.commandId false) := by
  cases reacts with
  | rests => exact .inl ⟨heartbeat, going, rfl⟩
  | renews running | stopsRenewing running =>
    injection going with sameLease sameHeartbeat sameStage
    exact .inl ⟨true, by rw [running, sameLease, sameStage], rfl⟩
  | loads running looked =>
    injection going with sameLease sameHeartbeat sameStage
    injection sameStage with sameCommand sameOperation
    subst sameLease sameOperation
    have absent := Option.map_eq_none_iff.mp looked.symm
    exact .inr ⟨absent, by rw [lookup, absent]; rfl⟩
  | _ => cases going

end Reacts

theorem DispatchRecord.kept (s : State ι) (e : Event ι) (record : DispatchRecord s) :
    DispatchRecord (step sha256 s e) := by
  cases e with
  | api call =>
    refine ⟨fun i commandId read => ?_, record.unread, record.ordered⟩
    exact step_operation?_isSome sha256 s _ (record.present i commandId read)
  | worker i e =>
    have reacts := react_reacts sha256 e (s.workers i) s.database
    constructor
    case present =>
      intro j commandId member
      rcases (mem_step_log sha256 s i e).mp member with ⟨-, trace⟩ | old
      · exact step_operation?_isSome sha256 s _ (reacts.read trace)
      · exact step_operation?_isSome sha256 s _ (record.present j commandId old)
    case unread =>
      intro j lease heartbeat command decision running member
      by_cases same : j = i
      · -- Its own step: either it goes on without a look, or it has just found nothing.
        subst same
        rw [step_workers_self] at running
        rcases reacts.undispatched running with ⟨heartbeat', before, quiet⟩ | ⟨absent, none⟩ <;>
          rcases (mem_step_log sha256 s j e).mp member with ⟨-, trace⟩ | old
        · cases quiet.symm.trans trace
        · exact record.unread j lease heartbeat' command decision before old
        · cases none.symm.trans trace
        · -- It would have found the operation again.
          have found := record.present j lease.commandId old
          rw [absent] at found
          cases found
      · rw [step_workers_ne sha256 s i e same] at running
        rcases (mem_step_log sha256 s i e).mp member with ⟨this, -⟩ | old
        · exact same this
        · exact record.unread j lease heartbeat command decision running old
    case ordered =>
      simp only [step]
      cases trace : ((s.workers i).react sha256 e s.database).trace with
      | none => exact record.ordered
      | some seen =>
        apply record.ordered.cons
        rintro commandId rfl
        obtain ⟨lease, heartbeat, command, decision, running, rfl⟩ := reacts.dispatched trace
        exact record.unread i lease heartbeat command decision running

def TelephonyCommandState.ended : TelephonyCommandState → Bool
  | .odooResultPending | .reconciliationRequired | .failedTransient | .failedPermanent => true
  | _ => false

/-- Worker `i` runs under the lease that is current in the journal row. -/
def Holds (s : State ι) (i : ι) (r : TelephonyCommandJournal) : Prop :=
  ∃ lease heartbeat stage, s.workers i = .running lease heartbeat stage ∧
    ownedRow? lease s.database = some r

/-- Whenever the event brings a command to the end of an attempt, it is a step of the worker that
holds the command's lease. -/
def EndedByHolder (s : State ι) (e : Event ι) : Prop :=
  ∀ r ∈ s.database.commands.rows, ∀ r' ∈ (step sha256 s e).database.commands.rows,
    r'.commandId = r.commandId → r' ≠ r → r'.state.ended = true →
    ∃ i e', e = .worker i e' ∧ Holds s i r

theorem ended_by_holder (s : State ι) (e : Event ι) : EndedByHolder sha256 s e := by
  intro r member r' member' same changed ended
  have identified : ∀ old ∈ s.database.commands.rows, old.commandId = r.commandId → old = r :=
    fun old listed same => s.database.command_eq listed member same
  -- Only a recorded failure and a finalization bring a row to such a state.
  cases step_rowChange sha256 member' with
  | untouched old => exact absurd (identified r' old same) changed
  | created started =>
    simp only [CommandCall.row, newCommandRecord] at ended
    split at ended <;> cases ended
  | renewed running owned =>
    -- It was SUBMITTING and still is.
    have state := (ownedRow?_eq_some.mp owned).2.2.1
    simp only [CommandProgress.renew, state] at ended
    cases ended
  | failed running owned | finalized running owned =>
    rw [← identified _ (ownedRow?_eq_some.mp owned).1 same]
    exact ⟨_, _, rfl, _, _, _, running, owned⟩
  | _ => cases ended

/-! ## The dispatch record -/

/-- However the workers' steps interleave with each other and with API calls, crash and take leases
over, a command has at most one operation, the operation keeps its identifier and its desired hash,
no worker dispatches a command after reading its operation, and only the holder of the lease ends an
attempt. -/
theorem single_dispatch_record (db : Database) (es : List (Event ι)) :
    (journalSystem sha256).Always (fun s => ∀ o ∈ s.database.operations.rows,
      ∀ o' ∈ s.database.operations.rows, o.commandId = o'.commandId → o = o') (initial ι db) es ∧
    (∀ before later, es = before ++ later → ∀ commandId o,
      ((journalSystem sha256).after (initial ι db) before).database.operation? commandId = some o →
      ∃ o', ((journalSystem sha256).after (initial ι db) es).database.operation?
      commandId = some o' ∧
        o'.operationPublicId = o.operationPublicId ∧ o'.desiredHash = o.desiredHash) ∧
    NoDispatchAfterRead ((journalSystem sha256).after (initial ι db) es).log ∧
    (journalSystem sha256).Along (EndedByHolder sha256) (initial ι db) es := by
  have stable : (journalSystem sha256).Stable (DispatchRecord (ι := ι)) :=
    fun s e _ record => record.kept sha256 s e
  have start := DispatchRecord.initial (ι := ι) db
  have run := run_journalSystem sha256 (initial ι db) es
  refine ⟨?_, ?_, (stable.after start run).ordered, ?_⟩
  · refine stable.always ?_ start run
    intro s _ o member o' member' same
    exact s.database.operation_eq member member' same
  · rintro before later rfl commandId o found
    rw [System.after_append]
    obtain ⟨o', found', same⟩ := (records_kept sha256 _ later).operation? found
    exact ⟨o', found', congrArg OperationSpec.operationPublicId same,
      congrArg OperationSpec.desiredHash same⟩
  · exact stable.along (fun s e _ _ => ended_by_holder sha256 s e) start run

end CodestraMiddleware.Telephony
