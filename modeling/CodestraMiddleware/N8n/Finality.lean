import CodestraMiddleware.N8n.DeliveryMoves

/-!
# Executions that have ended

A result of n8n is written to its execution whatever the status of that is; all other writers look
at the status first.
-/
namespace CodestraMiddleware.N8n

open Relational Constrained PythonValue Transition Option

variable (rt : Runtime)

/-- The execution that the event sends to n8n. -/
def posts (db : Database) : Event → Option UUID
  | .dispatchOne executionId registries .. =>
    if (posted rt db executionId registries).isSome then some executionId else none
  | _ => none

/-- An execution that has ended keeps its status and is not sent to n8n. -/
def KeepsEnded (s : State) (e : Event) : Prop :=
  ∀ id x, s.database.executions.lookup id = some x → x.status.terminal = true →
    ((step rt s e).database.executions.lookup id).map (·.status) = some x.status ∧
    posts rt s.database e ≠ some id

/-- A delivery that is over agrees with its execution. -/
def Agrees (s : State) : Prop :=
  ∀ id m d x, s.database.mappings.find? id = some m → s.database.deliveries.lookup id = some d →
    s.database.executions.lookup m.executionId = some x →
    (d.status = .delivered → x.status = .completed) ∧
        (d.status = .deadLetter → x.status.terminal = true ∧ x.status ≠ .completed)

/-- A result for an execution that has ended reports the status it has. -/
def ReportsSame (s : State) (e : Event) : Prop :=
  ∀ x status, reports rt s.database e = some (x, status) → x.status.terminal = true →
    status.mapped = x.status

variable {rt} {s : State} {e : Event}

theorem not_posts_of_terminal {id : UUID} (stored : s.database.executions.lookup id = some x)
    (terminal : x.status.terminal = true) : posts rt s.database e ≠ some id := by
  cases e with
  | dispatchOne =>
    intro posting
    simp only [posts] at posting
    split at posting
    next some =>
      cases posting
      have other : x.status ≠ .dispatching := by
        intro dispatching
        rw [dispatching] at terminal
        cases terminal
      simp [posted, stored, other] at some
    next => cases posting
  | _ =>
    intro posting
    cases posting

theorem keepsEnded_iff : KeepsEnded rt s e ↔ ReportsSame rt s e := by
  constructor
  · intro keeps x status result terminal
    obtain ⟨stored, x', found, reported, -⟩ := lookup_reported result
    have same := (keeps x.executionId x stored terminal).1
    rw [found, map_some, reported] at same
    exact some.inj same
  · intro same id x stored terminal
    refine ⟨?_, not_posts_of_terminal stored terminal⟩
    have moved := moved_step rt s e id
    rw [stored] at moved
    generalize (step rt s e).database.executions.lookup id = new at moved ⊢
    -- Every writer but the route of the results looks at the status first.
    cases moved with
    | kept => rfl
    | claimed waiting =>
      cases status : x.status <;> simp_all [ExecutionStatus.waiting, ExecutionStatus.terminal]
    | ended before | submitted before | failed before =>
      rw [before] at terminal
      cases terminal
    | recovered stale =>
      have dispatching : x.status = .dispatching := by
        unfold recovers at stale
        split at stale
        next =>
          simp only [Execution.stale, Bool.and_eq_true, decide_eq_true_eq] at stale
          exact stale.2.1
        next => cases stale
      rw [dispatching] at terminal
      cases terminal
    | reported result reported =>
      rw [map_some, reported, same x _ result terminal]

/-- Deliveries are mapped to executions that exist, and agree with them. -/
structure Agreement (s : State) : Prop where
  linked : ∀ id m, s.database.mappings.find? id = some m →
    (s.database.executions.lookup m.executionId).isSome = true
  agrees : Agrees s

theorem agreement_initial : Agreement .initial := ⟨fun _ _ => nofun, fun _ _ _ _ => nofun⟩

theorem lookup_persists {id : UUID} (stored : (s.database.executions.lookup id).isSome = true) :
    ((step rt s e).database.executions.lookup id).isSome = true := by
  have moved := moved_step rt s e id
  obtain ⟨x, found⟩ := isSome_iff_exists.mp stored
  rw [found] at moved
  generalize (step rt s e).database.executions.lookup id = new at moved ⊢
  cases moved <;> rfl

theorem Agreement.linked_step (agreement : Agreement s) (id : UUID) (m : Mapping)
    (mapped : (step rt s e).database.mappings.find? id = some m) :
    ((step rt s e).database.executions.lookup m.executionId).isSome = true := by
  rcases (tables_step rt s e).1 id with same | ⟨-, x, new, added⟩
  · rw [same] at mapped
    exact lookup_persists (agreement.linked id m mapped)
  · cases Option.some.inj (added.symm.trans mapped)
    rw [lookup_created new]
    rfl

theorem Agreement.agrees_step (agreement : Agreement s) (keeps : KeepsEnded rt s e) :
    Agrees (step rt s e) := by
  intro id m d' x' mapped delivery execution
  have shifted := shifted_step rt s e id
  rw [delivery] at shifted
  generalize before : s.database.deliveries.lookup id = old at shifted
  cases shifted with
  | published _ status =>
    rw [status]
    exact ⟨nofun, nofun⟩
  | leased | released | staged => exact ⟨nofun, nofun⟩
  | @refused d _ _ unmapped =>
    rw [id_of_delivery before, mapped] at unmapped
    cases unmapped
  | @settled d status _ ended =>
    obtain ⟨m', y, mapped', stored, rfl, terminal⟩ := ended
    rw [id_of_delivery before] at mapped'
    cases some.inj (mapped.symm.trans mapped')
    cases some.inj (execution.symm.trans stored)
    cases ended : x'.status <;> simp_all [Delivery.settle, ExecutionStatus.delivery,
      ExecutionStatus.terminal]
  | kept =>
    rcases (tables_step rt s e).1 id with same | ⟨stages, -⟩
    · -- The mapping is an old one; its execution keeps the end that the delivery agrees with.
      rw [same] at mapped
      obtain ⟨x, stored⟩ := isSome_iff_exists.mp (agreement.linked id m mapped)
      have agrees := agreement.agrees id m d' x mapped before stored
      have kept (terminal : x.status.terminal = true) : x'.status = x.status := by
        have same := (keeps m.executionId x stored terminal).1
        rw [execution, map_some] at same
        exact some.inj same
      constructor
      · intro delivered
        have completed := agrees.1 delivered
        rw [kept (by rw [completed]; rfl), completed]
      · intro dead
        obtain ⟨terminal, other⟩ := agrees.2 dead
        rw [kept terminal]
        exact ⟨terminal, other⟩
    · obtain ⟨_, staged⟩ := lookup_staged stages
      rw [delivery, before, map_some] at staged
      rw [some.inj staged]
      exact ⟨nofun, nofun⟩

/-- On every run executions that have ended keep their status, are not sent to n8n again and agree
with their deliveries, exactly if no result reports another status of an
execution that has ended. -/
theorem executions_end_iff {es : List Event} (run : (system rt).Run .initial es) :
    ((system rt).Along (KeepsEnded rt) .initial es ∧ (system rt).Always Agrees .initial es) ↔
      (system rt).Along (ReportsSame rt) .initial es := by
  refine System.along_and_always_iff (S := system rt) (I := Agreement)
    (fun _ _ _ _ => keepsEnded_iff) ?_ (fun _ agreement => agreement.agrees) agreement_initial run
  exact fun _ _ _ agreement keeps => ⟨agreement.linked_step, agreement.agrees_step keeps⟩

instance decidableReportsSame (s : State) (e : Event) : Decidable (ReportsSame rt s e) :=
  decidable_of_iff (∀ result ∈ reports rt s.database e, result.1.status.terminal = true →
    result.2.mapped = result.1.status)
    ⟨fun same x status result => same (x, status) result, fun same _ found => same _ _ found⟩

namespace Sample

def event (id : Nat) : IntegrationEvent where
  id := id
  idempotencyKey := "social:" ++ toString id
  eventType := "social.post.published"
  originalEventId := "event-" ++ toString id
  entityKey := some "social_post:7"
  sourceSystem := "social"
  correlationId := "correlation"
  payloadJson := payload

def row : Row := ⟨1, 1, "n8n", 0⟩

def delivered : List Event :=
  [.publish (event 1) [(1, "n8n")], .claimDeliveries [] "n8n" "worker-1" 10 60 0,
    .stageClaimedDelivery row [router] 1 0, claim 1, dispatchOne 202 2, result "nonce-1"
    .completed 3]

end Sample

open Sample

theorem repeated_end_agrees :
    let S := system runtime
    let es := delivered ++ [result "nonce-2" .completed 4]
    S.Along (KeepsEnded runtime) .initial es ∧ S.Always Agrees .initial es :=
  (executions_end_iff (by decide +kernel)).mpr (by decide +kernel)

/-- The execution has been completed and its delivery is over; n8n asks for a retry, and the
execution is sent to it a second time. -/
theorem completed_posted_again :
    let S := system runtime
    let completed := S.after .initial Sample.delivered
    let again := [Sample.result "nonce-2" .retry 4, Sample.claim 5]
    S.Run .initial (Sample.delivered ++ again ++ [Sample.dispatchOne 202 6]) ∧
      (completed.database.executions.lookup 1).map (·.status) = some .completed ∧
      (completed.database.deliveries.lookup 1).map (·.status) = some .delivered ∧
      ((S.after completed again).database.executions.lookup 1).map (·.status) = some .dispatching ∧
      posts runtime (S.after completed again).database (Sample.dispatchOne 202 6) = some 1 ∧
      ¬S.Along (KeepsEnded runtime) .initial
        (Sample.delivered ++ again ++ [Sample.dispatchOne 202 6]) := by
  have completed : ((((system runtime).after .initial
      Sample.delivered).database.executions.lookup 1).map (·.status)) = some .completed := by
    decide +kernel
  have reopened : ((((system runtime).after .initial (Sample.delivered ++
      [Sample.result "nonce-2" .retry 4])).database.executions.lookup 1).map (·.status)) =
      some .retry := by
    decide +kernel
  refine ⟨by decide +kernel, completed, by decide +kernel, by decide +kernel, by decide +kernel,
    fun keeps => ?_⟩
  rw [List.append_assoc, System.along_append] at keeps
  obtain ⟨x, stored, status⟩ := map_eq_some_iff.mp completed
  have same := (keeps.2.1 1 x stored (by rw [status]; rfl)).1
  rw [status] at same
  exact absurd (same.symm.trans reopened) (by decide)

end CodestraMiddleware.N8n
