import CodestraMiddleware.N8n.Executions

/-!
# What a step does to a delivery

Every step moves the row of a delivery in one of the ways that `Shifted` lists.
-/
namespace CodestraMiddleware.N8n

open Relational Constrained PythonValue Transition Option

variable (rt : Runtime)

/-- The delivery that the event hands over to an execution. -/
def stages (db : Database) : Event → Option UUID
  | e@(.stageClaimedDelivery row ..) =>
    if (db.mappings.find? row.id).isSome || (creates rt db e).isSome then some row.id else none
  | _ => none

/-- The execution of the delivery is over, with this status. -/
def Database.EndedAs (db : Database) (deliveryId : UUID) (status : ExecutionStatus) : Prop :=
  ∃ m x, db.mappings.find? deliveryId = some m ∧ db.executions.lookup m.executionId = some x ∧
    x.status = status ∧ status.terminal = true

/-- The ways in which a step can change the row of a delivery. -/
inductive Shifted (s : State) (e : Event) : Option Delivery → Option Delivery → Prop
  | kept (row : Option Delivery) : Shifted s e row row
  | published {d : Delivery} {event : IntegrationEvent} {new : List (UUID × String)}
      (publish : e = .publish event new) (status : d.status = .pending)
      (ofEvent : d.eventId = event.id)
      (recorded : ((step rt s e).database.events.lookup event.id).isSome = true) :
      Shifted s e none (some d)
  | leased {d : Delivery} {owner : String} {expires : Int}
      (waiting : d.status ∈ [.pending, .retryWait])
      (first : s.database.blocked d = false) (claimed : d.row ∈ (step rt s e).claimed) :
      Shifted s e (some d) (some (d.lease owner expires))
  | released {d : Delivery} {now : Int} (leased : d.status = .leased) :
      Shifted s e (some d) (some (d.release now))
  | staged {d : Delivery} {attempt : Option Nat} (stages : stages rt s.database e = some d.id) :
      Shifted s e (some d) (some (d.stage attempt))
  | refused {d : Delivery} {errorCode : String} (unmapped : s.database.mappings.find? d.id = none)
      (unmappedStill : (step rt s e).database.mappings.find? d.id = none) :
      Shifted s e (some d) (some (d.refuse errorCode))
  | settled {d : Delivery} {status : ExecutionStatus} (delivering : d.status = .delivering)
      (ended : (step rt s e).database.EndedAs d.id status) :
      Shifted s e (some d) (some (d.settle status))

variable {rt} {s : State}

variable {db : Database}

theorem id_of_delivery {id : UUID} (stored : db.deliveries.lookup id = some d) : d.id = id :=
  (lookup_eq_some_iff.mp stored).2

/-- No step changes the key columns of a delivery. -/
theorem Shifted.keys_eq (shifted : Shifted rt s e (some d) (some d')) : d'.keys = d.keys := by
  cases shifted <;> rfl

/-- Staging depends on the mapping and on the route, as `staged` lists. -/
theorem shifted_stageClaimedDelivery (row : Row) (registries : List Registry) (executionId : UUID)
    (now : Int) (id : UUID) : Shifted rt s (.stageClaimedDelivery row registries executionId now)
      (s.database.deliveries.lookup id)
      ((step rt s (.stageClaimedDelivery row registries executionId now)).database.deliveries.lookup
        id) := by
  have spec := staged rt s.database row registries executionId now
  generalize after : committed s.database
    (stageClaimedDelivery rt s.database row registries executionId now) = db' at spec
  have step_eq : (step rt s (.stageClaimedDelivery row registries executionId now)).database =
    db' := after
  rw [step_eq]
  cases spec with
  | conflict => exact .kept _
  | again known | mapped known =>
    rw [Database.stage, lookup_updateWhere]
    exact related_update .kept fun d _ here =>
      .staged (by simp [stages, known, of_decide_eq_true here])
  | refused _ unmapped =>
    rw [terminalFailure, lookup_updateWhere]
    refine related_update .kept fun d _ here => ?_
    have here : d.id = row.id := of_decide_eq_true here
    refine .refused (by rw [here]; exact unmapped) ?_
    rw [step_eq, here]
    exact unmapped

/-- Only waiting deliveries that nothing blocks are leased. -/
theorem shifted_claimDeliveries (locked : List UUID) (target owner : String) (limit : Nat)
    (leaseSeconds now : Int) (id : UUID) :
    Shifted rt s (.claimDeliveries locked target owner limit leaseSeconds now)
      (s.database.deliveries.lookup id)
      ((step rt s (.claimDeliveries locked target owner limit leaseSeconds
        now)).database.deliveries.lookup id) := by
  simp only [step, claimDeliveries]
  rw [lookup_updateWhere]
  refine related_update .kept fun d stored chosen => ?_
  obtain ⟨other, row, same⟩ := List.mem_map.mp (of_decide_eq_true chosen)
  obtain ⟨member, qualifies⟩ := mem_of_mem_taken row
  have equal : other = d := by
    have found : s.database.deliveries.lookup other.id = some other := lookup_of_mem member
    rw [same, id_of_delivery stored, stored] at found
    exact (Option.some.inj found).symm
  subst equal
  simp only [eligible, Bool.and_eq_true, decide_eq_true_eq, Bool.not_eq_true'] at qualifies
  refine .leased qualifies.1.1.1.1.2 qualifies.1.2 ?_
  exact List.mem_append_left _ (List.mem_map_of_mem row)

theorem shifted_recoverDeliveries (now : Int) (id : UUID) :
    Shifted rt s (.recoverDeliveries now) (s.database.deliveries.lookup id)
      ((step rt s (.recoverDeliveries now)).database.deliveries.lookup id) := by
  simp only [step, recoverDeliveries]
  rw [lookup_updateWhere]
  refine related_update .kept fun d _ expired => ?_
  simp only [Delivery.expired, Bool.and_eq_true, decide_eq_true_eq] at expired
  exact .released expired.1

theorem endedAs_of_ended (ended : db.ended deliveryId = some status) :
    db.EndedAs deliveryId status := by
  obtain ⟨m, mapped, rest⟩ := bind_eq_some_iff.mp ended
  obtain ⟨x, stored, ended⟩ := bind_eq_some_iff.mp rest
  split at ended
  next terminal =>
    cases ended
    exact ⟨m, x, mapped, stored, rfl, terminal⟩
  next => cases ended

theorem shifted_reconcileTerminal (locked : List UUID) (id : UUID) :
    Shifted rt s (.reconcileTerminal locked) (s.database.deliveries.lookup id)
      ((step rt s (.reconcileTerminal locked)).database.deliveries.lookup id) := by
  change Shifted rt s _ _ ((reconcileTerminal s.database locked).1.deliveries.lookup id)
  simp only [reconcileTerminal]
  rw [lookup_updateWhere]
  refine related_update .kept fun d _ qualifies => ?_
  simp only [Bool.and_eq_true, decide_eq_true_eq] at qualifies
  obtain ⟨_, ended⟩ := isSome_iff_exists.mp qualifies.1.2
  rw [Delivery.reconcile, ended]
  exact .settled qualifies.1.1 (endedAs_of_ended ended)

/-- A callback settles the delivery of its execution only if the result is final. -/
theorem shifted_resultCallback (q : Callback) (now : Int) (id : UUID) :
    Shifted rt s (.resultCallback q now) (s.database.deliveries.lookup id)
      ((step rt s (.resultCallback q now)).database.deliveries.lookup id) := by
  have spec := answered rt s.database q now
  generalize after : committed s.database (resultCallback rt s.database q now) = db' at spec
  have step_eq : (step rt s (.resultCallback q now)).database = db' := after
  rw [step_eq]
  cases spec with
  | refused | repeated => exact .kept _
  | @written x body admitted result =>
    unfold Database.settled
    cases delivery : s.database.mappedDelivery x.executionId with
    | none => exact .kept _
    | some =>
      simp only
      split
      next final =>
        rw [lookup_updateWhere]
        refine related_update .kept fun d _ qualifies => ?_
        simp only [Bool.and_eq_true, decide_eq_true_eq] at qualifies
        refine .settled qualifies.2 ?_
        rw [step_eq]
        obtain ⟨m, found, same⟩ := map_eq_some_iff.mp delivery
        have row : m ∈ s.database.mappings.rows := List.mem_of_find?_eq_some found
        have ofExecution : m.executionId = x.executionId := by simpa using List.find?_some found
        have mapped : s.database.mappings.find? d.id = some m := by
          rw [qualifies.1, ← same]
          exact s.database.mappings.find?_of_mem row
        have stored := Callback.stored_of_admitted admitted
        refine ⟨m, x.report q body now, mapped, ?_, rfl, ?_⟩
        · change (s.database.executions.save (x.report q body now)).lookup m.executionId = _
          have keys : (x.report q body now).keys = x.keys := rfl
          rw [lookup_save_row stored keys, if_pos ofExecution.symm]
        · simp only [List.mem_cons, List.not_mem_nil, or_false] at final
          rcases final with final | final | final <;> rw [final] <;> rfl
      next => exact .kept _

/-- A delivery that clashes with a stored one is skipped. -/
theorem lookup_insertDeliveries (event : IntegrationEvent) (id : UUID) (new : List (UUID × String))
    (t : Constrained (Shares Delivery.keys)) :
    (insertDeliveries event t new).lookup id = t.lookup id ∨
      t.lookup id = none ∧ ∃ target, (insertDeliveries event t new).lookup id =
      some (event.delivery id target) := by
  induction new generalizing t with
  | nil => exact .inl rfl
  | cons first rest ih =>
    obtain ⟨newId, target⟩ := first
    unfold insertDeliveries
    cases inserted : t.insert? (event.delivery newId target) with
    | none => exact ih t
    | some t' =>
      have found := lookup_insert? inserted id
      rw [getD_some]
      rcases ih t' with same | ⟨absent, target', added⟩
      · rw [same, found]
        split
        next here =>
          subst here
          refine .inr ⟨?_, target, rfl⟩
          rw [lookup_eq_none_iff]
          exact fun old member equal => insert?_apart inserted old member (.inl equal)
        next => exact .inl rfl
      · rw [found] at absent
        split at absent
        next => cases absent
        next => exact .inr ⟨absent, target', added⟩

theorem shifted_publish (event : IntegrationEvent) (new : List (UUID × String)) (id : UUID) :
    Shifted rt s (.publish event new) (s.database.deliveries.lookup id)
      ((step rt s (.publish event new)).database.deliveries.lookup id) := by
  cases inserted : s.database.events.insert? event with
  | none =>
    have same : step rt s (.publish event new) = s := by
      simp only [step, publish, inserted, committed]
    rw [same]
    exact .kept _
  | some events =>
    have after : (step rt s (.publish event new)).database =
        { s.database with
          events, deliveries := insertDeliveries event s.database.deliveries new } := by
      simp only [step, publish, inserted, committed]
    have recorded : ((step rt s (.publish event new)).database.events.lookup event.id).isSome =
        true := by
      rw [after, lookup_insert? inserted]
      exact congrArg isSome (if_pos rfl)
    rw [after]
    rcases lookup_insertDeliveries event id new s.database.deliveries with same | ⟨absent, _, added⟩
    · rw [same]
      exact .kept _
    · rw [absent, added]
      exact .published rfl rfl rfl recorded

/-- One case for each event; the dispatching ones leave deliveries alone. -/
theorem shifted_step (rt : Runtime) (s : State) (e : Event) (id : UUID) :
    Shifted rt s e (s.database.deliveries.lookup id)
    ((step rt s e).database.deliveries.lookup id) := by
  by_cases dispatching : e.dispatching = true
  · obtain ⟨_, same⟩ := only_executions rt s dispatching
    rw [same]
    exact .kept _
  cases e with
  | resultCallback q now => exact shifted_resultCallback q now id
  | publish event new => exact shifted_publish event new id
  | claimDeliveries locked target owner limit leaseSeconds now =>
    exact shifted_claimDeliveries locked target owner limit leaseSeconds now id
  | recoverDeliveries now => exact shifted_recoverDeliveries now id
  | stageClaimedDelivery row registries executionId now =>
    exact shifted_stageClaimedDelivery row registries executionId now id
  | reconcileTerminal locked => exact shifted_reconcileTerminal locked id
  | _ => exact absurd rfl dispatching

/-- The delivery that is staged is in its execution's hands afterwards. -/
theorem lookup_staged {id : UUID} (staging : stages rt s.database e = some id) :
    ∃ attempt, (step rt s e).database.deliveries.lookup id =
      (s.database.deliveries.lookup id).map (Delivery.stage attempt) := by
  have of_stage {row : Row} (same : row.id = id) (attempt : Option Nat) :
      (s.database.stage row.id attempt).deliveries.lookup id =
        (s.database.deliveries.lookup id).map (Delivery.stage attempt) := by
    simp only [Database.stage, lookup_updateWhere, decide_eq_true_eq]
    cases stored : s.database.deliveries.lookup id with
    | none => rfl
    | some d => simp [id_of_delivery stored, same]
  cases e with
  | stageClaimedDelivery row registries executionId now =>
    simp only [stages] at staging
    split at staging
    next possible =>
      cases staging
      have spec := staged rt s.database row registries executionId now
      simp only [step]
      generalize committed s.database _ = db' at spec ⊢
      cases spec with
      | again => exact ⟨none, of_stage rfl none⟩
      | mapped => exact ⟨some (row.attempts + 1), of_stage rfl _⟩
      | refused _ unmapped none | conflict unmapped none => simp [unmapped, none] at possible
    next => cases staging
  | _ => cases staging

/-- Mappings are made by staging only, and events by `publish` only. -/
theorem tables_step (rt : Runtime) (s : State) (e : Event) :
    (∀ id, (step rt s e).database.mappings.find? id = s.database.mappings.find? id ∨
      stages rt s.database e = some id ∧ ∃ x, creates rt s.database e = some x ∧
        (step rt s e).database.mappings.find? id = some ⟨id, x.executionId⟩) ∧
    ((step rt s e).database.events = s.database.events ∨ ∃ event new, e = .publish event new ∧
      s.database.events.insert? event = some (step rt s e).database.events) := by
  by_cases dispatching : e.dispatching = true
  · obtain ⟨_, same⟩ := only_executions rt s dispatching
    rw [same]
    exact ⟨fun _ => .inl rfl, .inl rfl⟩
  cases e with
  | stageClaimedDelivery row registries executionId now =>
    have spec := staged rt s.database row registries executionId now
    simp only [step]
    generalize committed s.database _ = db' at spec ⊢
    cases spec with
    | @mapped x _ _ new _ mapped =>
      refine ⟨fun id => ?_, .inl rfl⟩
      have found := Table.find?_insert? mapped id
      rw [found]
      split
      next here =>
        subst here
        exact .inr ⟨by simp [stages, new], x, new, rfl⟩
      next => exact .inl rfl
    | _ => exact ⟨fun _ => .inl rfl, .inl rfl⟩
  | resultCallback q now =>
    have spec := answered rt s.database q now
    simp only [step]
    generalize committed s.database _ = db' at spec ⊢
    cases spec <;> exact ⟨fun _ => .inl rfl, .inl rfl⟩
  | publish event new =>
    simp only [step, publish]
    cases inserted : s.database.events.insert? event with
    | none => exact ⟨fun _ => .inl rfl, .inl rfl⟩
    | some events => exact ⟨fun _ => .inl rfl, .inr ⟨event, new, rfl, inserted⟩⟩
  | claimDeliveries | recoverDeliveries | reconcileTerminal => exact ⟨fun _ => .inl rfl, .inl rfl⟩
  | _ => exact absurd rfl dispatching

end CodestraMiddleware.N8n
