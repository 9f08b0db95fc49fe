import CodestraMiddleware.Telephony.System

/-!
# Final states of commands

A command that was denied, cancelled, failed for good, reconciled or done should stay as it is.
`cancel_command` refuses three of the five states and not `POLICY_DENIED`; `register_operation` does
not look at the command's state at all.
-/
namespace CodestraMiddleware.Telephony

open Relational Transition

variable (sha256 : String → String) {ι : Type} [DecidableEq ι]

def TelephonyCommandState.final : TelephonyCommandState → Bool
  | .policyDenied | .cancelled | .failedPermanent | .reconciled | .succeeded => true
  | _ => false

/-- The step leaves final states as they are. -/
def KeepsFinal (s : State ι) (e : Event ι) : Prop :=
  ∀ r ∈ s.database.commands.rows, r.state.final = true →
    ∀ r' ∈ (step sha256 s e).database.commands.rows, r'.commandId = r.commandId → r'.state = r.state

instance (s : State ι) (e : Event ι) : Decidable (KeepsFinal sha256 s e) :=
  inferInstanceAs (Decidable (∀ r ∈ _, _ → ∀ r' ∈ _, _ → _))

/-- The event is not a cancellation of a denied command, nor a registration that is accepted for a
command in a final state. -/
def SparesFinal (s : State ι) : Event ι → Prop
  | .api (.cancelCommand _ commandPublicId) =>
    ∀ r, s.database.commandByPublicId? commandPublicId = some r → r.state ≠ .policyDenied
  | .api (.registerOperation _ operationId body) =>
    ∀ r, s.database.commandByPublicId? body.commandPublicId = some r → r.state.final = true →
      body.accepted sha256 operationId r s.database = false
  | _ => True

theorem claimable_not_final {r : TelephonyCommandJournal}
    (claimable : r.claimable now environment = true) : r.state.final = false := by
  simp only [TelephonyCommandJournal.claimable, Bool.and_eq_true, Bool.or_eq_true,
    decide_eq_true_eq] at claimable
  rcases claimable.2 with ⟨(state | state) | state, -⟩ | ⟨state, -⟩ <;> rw [state] <;> rfl

theorem final_cancellable {state : TelephonyCommandState} (final : state.final = true)
    (cancellable : state.uncancellable = false) : state = .policyDenied ∨ state = .cancelled := by
  cases state <;> simp_all [TelephonyCommandState.final, TelephonyCommandState.uncancellable]

theorem keepsFinal_of_spares {s : State ι} {e : Event ι} (spares : SparesFinal sha256 s e) :
    KeepsFinal sha256 s e := by
  intro r member final r' member' same
  have identified : ∀ old ∈ s.database.commands.rows, old.commandId = r.commandId → old = r :=
    fun old listed same => s.database.command_eq listed member same
  cases step_rowChange sha256 member' with
  | untouched old => rw [identified r' old same]
  | created started new => exact absurd same.symm (new r member)
  | cancelled found cancellable =>
    -- Of the final states `cancel_command` lets two pass, and CANCELLED stays what it is.
    obtain rfl := identified _ (s.database.commandByPublicId?_mem found) same
    rcases final_cancellable final cancellable with denied | cancelled
    · exact absurd denied (spares _ found)
    · rw [cancelled]
      rfl
  | registered found accepted =>
    obtain rfl := identified _ (s.database.commandByPublicId?_mem found) same
    rw [spares _ found final] at accepted
    cases accepted
  -- The worker's statements ask for the state of the row they write.
  | claimed idle found =>
    obtain rfl := identified _ (claimedRow?_mem found).1 same
    rw [claimable_not_final (claimedRow?_mem found).2] at final
    cases final
  | renewed _ owned | failed _ owned | finalized _ owned =>
    obtain rfl := identified _ (ownedRow?_eq_some.mp owned).1 same
    rw [(ownedRow?_eq_some.mp owned).2.2.1] at final
    cases final

theorem spares_of_keepsFinal {s : State ι} (keeps : KeepsFinal sha256 s e) :
    SparesFinal sha256 s e := by
  unfold SparesFinal
  split
  next now commandPublicId =>
    rintro r found denied
    have member := s.database.commandByPublicId?_mem found
    -- The cancellation goes through, and the row it writes is CANCELLED.
    have after : step sha256 s (.api (.cancelCommand now commandPublicId)) =
        { s with database := s.database.updateCommand r.commandId (.cancel now) } := by
      simp [step, ApiCall.handle, cancelCommand, found, denied, TelephonyCommandState.uncancellable]
    have state := keeps r member (by rw [denied]; rfl)
      { r with toCommandProgress := r.toCommandProgress.cancel now }
      (by rw [after]; exact s.database.updateCommand_mem member) rfl
    rw [denied] at state
    cases state
  next now operationId body =>
    intro r found final
    by_contra accepted
    rw [Bool.not_eq_false] at accepted
    have member := s.database.commandByPublicId?_mem found
    obtain ⟨db', inserted⟩ := body.insertOperation?_of_accepted sha256 accepted
    -- The registration goes through, and the row it writes is OPERATION_REGISTERED.
    have after : step sha256 s (.api (.registerOperation now operationId body)) =
        { s with database := db'.updateCommand r.commandId (.register now) } := by
      simp only [OperationRegistration.accepted, Bool.and_eq_true,
        Option.isNone_iff_eq_none] at accepted
      simp [step, ApiCall.handle, registerOperation, found, accepted.1.1, accepted.1.2, inserted]
    have kept : r ∈ db'.commands.rows := by
      obtain ⟨_, -, rfl⟩ := Database.insertOperation?_eq_some.mp inserted
      exact member
    have state := keeps r member final
      { r with toCommandProgress := r.toCommandProgress.register now }
      (by rw [after]; exact db'.updateCommand_mem kept) rfl
    rw [← state] at final
    cases final
  next => trivial

/-- In a run from any database all steps leave final states alone exactly when none of them cancels
a denied command or registers an operation for a command in a final state. -/
theorem final_states_absorb_iff (s : State ι) (es : List (Event ι)) :
    (journalSystem sha256).Along (KeepsFinal sha256) s es ↔
    (journalSystem sha256).Along (SparesFinal sha256) s es := by
  have stable : (journalSystem sha256).Stable fun _ : State ι => True := fun _ _ _ _ => trivial
  refine stable.along_iff ?_ trivial (run_journalSystem sha256 s es)
  intro s e _ _
  exact ⟨spares_of_keepsFinal sha256, keepsFinal_of_spares sha256⟩

/-! ## Two commands that leave a final state -/

namespace Sample

def create (allowed : Bool) : Event Unit :=
  .api (.createCommand ⟨newYear, 1, "IDM-00000001", command 1, some (decision allowed)⟩)

def cancel : Event Unit := .api
    (.cancelCommand (newYear + seconds 1) "CMD-66a49d9e28b1a46f32641f2a97e2a41f")

def registration : OperationRegistration where
  operationPublicId := "OPR-100"
  commandPublicId := "CMD-66a49d9e28b1a46f32641f2a97e2a41f"
  adapterServiceKey := "codestra-telephony-adapter-staging"
  adapterOperationId := "ADP-OP-100"
  targetSystem := .asterisk
  targetResourceType := "ENDPOINT"
  targetPublicId := "EPT-100"
  desiredStateVersion := 1
  desiredStateHash := "sha256:7777777777777777777777777777777777777777777777777777777777777777"
  idempotencyKey := "IDM-OPR-0001"
  correlationId := "COR-00000001"

def register : Event Unit := .api (.registerOperation (newYear + seconds 2) 2 registration)

end Sample

/-- A denied command is cancelled; a cancelled one is registered for an operation. -/
theorem final_states_left : ¬ (journalSystem Sample.sha256).Along (KeepsFinal Sample.sha256)
      (State.initial Unit Database.empty) [Sample.create false, Sample.cancel] ∧
    ¬ (journalSystem Sample.sha256).Along (KeepsFinal Sample.sha256)
      (State.initial Unit Database.empty) [Sample.create true, Sample.cancel, Sample.register] := by
  constructor <;> decide +kernel

end CodestraMiddleware.Telephony
