import CodestraMiddleware.Orders.Api

/-!
# Two identifiers, one record

`create` finds a record by its idempotency key and stores it under its order id. Only the key is
looked up first: a new key with an order id that is taken replaces the record.
-/
namespace CodestraMiddleware.Orders

open Transition Raising Store Record

inductive Operation where
  | create (order : OrderEnvelope)
  | get (orderId : String)
  | command (commandId orderId : String)
  | recordFailure (commandId errorCode : String) (retryable : Bool)
  | recordResult (commandId : String) (status : ResultStatus)

variable (rt : Runtime)

def storeSystem : System Store Operation where
  step s
    | .create order => (s.commit (s.create rt order)).1
    | .get _ => s
    | .command commandId orderId => (s.commit (s.command commandId orderId)).1
    | .recordFailure commandId errorCode retryable =>
      (s.commit (s.recordFailure commandId errorCode retryable)).1
    | .recordResult commandId status => (s.commit (s.recordResult commandId status)).1
  admits _ _ := True

def Record.intake (record : Record) : OrderEnvelope × String :=
  (record.envelope, record.contentHash)

/-- What was taken in with an order is never changed. -/
def KeepsIntake (s : Store) (operation : Operation) : Prop :=
  ∀ orderId record, s.orders orderId = some record →
    (((storeSystem rt).step s operation).orders orderId).map intake = some record.intake

/-- The key with which the record of an order was created. -/
def Store.keyOf (s : Store) (orderId : String) : Option String :=
  (s.orders orderId).map (·.envelope.idempotencyKey)

/-- The order that a key leads to was made with it. -/
def Store.Pointed (s : Store) : Prop :=
  ∀ key orderId, s.byIdempotency key = some orderId → s.keyOf orderId = some key

/-- A new key comes with a new order id. -/
def TakesNewId (s : Store) : Operation → Prop
  | .create order => s.byIdempotency order.idempotencyKey = none → s.orders order.orderId = none
  | _ => True

/-- The keys point to the records created with them, and every record is pointed to. -/
def Store.Indexed (s : Store) : Prop :=
  ∀ key orderId, s.byIdempotency key = some orderId ↔ s.keyOf orderId = some key

structure Store.SameIntake (s t : Store) : Prop where
  keys : t.byIdempotency = s.byIdempotency
  records : ∀ orderId, (t.orders orderId).map intake = (s.orders orderId).map intake

variable {rt} {s t : Store}

theorem Store.SameIntake.refl : s.SameIntake s := ⟨rfl, fun _ => rfl⟩

theorem Store.SameIntake.indexed (same : s.SameIntake t) (indexed : s.Indexed) : t.Indexed := by
  intro key orderId
  -- The key of a record is a part of its intake.
  have keyOf : t.keyOf orderId = s.keyOf orderId := by
    have := congrArg (Option.map (·.1.idempotencyKey)) (same.records orderId)
    simpa [intake, keyOf, Function.comp_def] using this
  rw [same.keys, keyOf]
  exact indexed key orderId

theorem Store.sameIntake_setStatus (commandId orderId : String) (f : Command → Command)
    (status : OrderStatus) :
    s.SameIntake ((s.modifyCommand commandId f).setStatus orderId status) := by
  refine ⟨rfl, fun other => ?_⟩
  by_cases named : other = orderId
  · subst named
    simp only [setStatus, modify, modifyCommand, Function.update_self, Option.map_map]
    rfl
  · simp [setStatus, modify, modifyCommand, named]

theorem Store.sameIntake_commit (ok : ∀ t, written = .ok t → s.SameIntake t) :
    s.SameIntake (s.commit written).1 := by
  cases written with
  | ok t => exact ok t rfl
  | error => exact .refl

/-- What an operation does to the intake: nothing, except where a new key is stored. -/
theorem operated (s : Store) (operation : Operation) :
    s.SameIntake ((storeSystem rt).step s operation) ∨
    ∃ order, operation = .create order ∧ s.byIdempotency order.idempotencyKey = none ∧
      (storeSystem rt).step s operation = s.insert rt order := by
  cases operation with
  | create order =>
    cases key : s.byIdempotency order.idempotencyKey with
    | none =>
      refine .inr ⟨order, rfl, key, ?_⟩
      simp [storeSystem, Store.create, key, commit]
    | some existing =>
      refine .inl (sameIntake_commit fun t ok => ?_)
      simp only [Store.create, key] at ok
      split at ok
      · cases ok
      · split at ok <;> cases ok
        exact .refl
  | get => exact .inl .refl
  | command =>
    refine .inl (sameIntake_commit fun t ok => ?_)
    obtain ⟨record, -, ok⟩ := bind_eq_ok.mp ok
    split at ok
    · split at ok <;> cases ok
      exact .refl
    · cases ok
      exact ⟨rfl, fun _ => rfl⟩
  | recordFailure =>
    refine .inl (sameIntake_commit fun t ok => ?_)
    obtain ⟨command, -, ok⟩ := bind_eq_ok.mp ok
    obtain ⟨record, -, ok⟩ := bind_eq_ok.mp ok
    cases ok
    exact sameIntake_setStatus ..
  | recordResult =>
    refine .inl (sameIntake_commit fun t ok => ?_)
    obtain ⟨_, -, ok⟩ := bind_eq_ok.mp ok
    split at ok
    · cases ok
      exact .refl
    · obtain ⟨_, -, ok⟩ := bind_eq_ok.mp ok
      cases ok
      exact sameIntake_setStatus ..

theorem Store.keyOf_insert (order : OrderEnvelope) (orderId : String) :
    (s.insert rt order).keyOf orderId =
      if orderId = order.orderId then some order.idempotencyKey else s.keyOf orderId := by
  unfold keyOf insert
  by_cases named : orderId = order.orderId <;> simp [named, record]

theorem Store.Indexed.insert (indexed : s.Indexed)
    (newKey : s.byIdempotency order.idempotencyKey = none) (newId : s.orders order.orderId = none) :
    (s.insert rt order).Indexed := by
  intro key orderId
  -- Neither the key nor the id was known before.
  have keyed : ∀ orderId, s.keyOf orderId ≠ some order.idempotencyKey := fun orderId created => by
    simp [(indexed _ _).mpr created] at newKey
  have named : ∀ key, s.byIdempotency key ≠ some order.orderId := fun key points => by
    simpa [keyOf, newId] using (indexed _ _).mp points
  rw [keyOf_insert]
  by_cases sameKey : key = order.idempotencyKey <;> by_cases sameId : orderId = order.orderId
  · simp [Store.insert, sameKey, sameId]
  · simp [Store.insert, sameKey, sameId, keyed, Ne.symm sameId]
  · simp [Store.insert, sameKey, sameId, named, Ne.symm sameKey]
  · simpa [Store.insert, sameKey, sameId] using indexed key orderId

theorem keepsIntake_iff (indexed : s.Indexed) (operation : Operation) :
    KeepsIntake rt s operation ↔ TakesNewId s operation := by
  rcases @operated rt s operation with same | ⟨order, rfl, newKey, inserted⟩
  · apply iff_of_true (fun orderId record stored => by rw [same.records, stored]; rfl)
    cases operation with
    | create order =>
      intro newKey
      -- The key stays unknown, so nothing was stored.
      have keys := congrFun same.keys order.idempotencyKey
      simp [storeSystem, Store.create, newKey, Store.commit, Store.insert] at keys
    | _ => trivial
  · constructor
    · intro keeps _
      by_contra taken
      obtain ⟨record, stored⟩ := Option.ne_none_iff_exists'.mp taken
      have kept := keeps order.orderId record stored
      -- The record that was there would have been created with the new key.
      have same : order = record.envelope := by
        rw [inserted] at kept
        simpa [Store.insert, Store.record, intake] using congrArg (Option.map Prod.fst) kept
      have keyOf : s.keyOf order.orderId = some order.idempotencyKey := by
        rw [Store.keyOf, stored, Option.map_some, ← same]
      simp [(indexed _ _).mpr keyOf] at newKey
    · intro fresh orderId record stored
      have other : orderId ≠ order.orderId := by
        rintro rfl
        simp [fresh newKey] at stored
      simp [inserted, Store.insert, other, stored]

theorem indexed_step (indexed : s.Indexed) (fresh : TakesNewId s operation) :
    ((storeSystem rt).step s operation).Indexed := by
  rcases @operated rt s operation with same | ⟨_, rfl, newKey, inserted⟩
  · exact same.indexed indexed
  · rw [inserted]
    exact indexed.insert newKey (fresh newKey)

variable (rt)

/-- Orders are never overwritten, and the keys point to the records created with them, in exactly
the runs in which every new key comes with a new order id. -/
theorem orders_never_overwritten_iff (operations : List Operation) :
    (storeSystem rt).Along (KeepsIntake rt) .empty operations ∧
      (storeSystem rt).Always Pointed .empty operations ↔
      (storeSystem rt).Along TakesNewId .empty operations := by
  apply System.along_and_always_iff (I := Indexed)
  · exact fun s operation _ indexed => keepsIntake_iff indexed operation
  · exact fun s operation _ indexed keeps => indexed_step indexed
      ((keepsIntake_iff indexed operation).mp keeps)
  · exact fun s indexed key orderId => (indexed key orderId).mp
  · exact fun key orderId => by simp [empty, keyOf]
  · exact System.along_of_forall (fun _ _ => trivial) _ _

namespace Sample

def runtime : Runtime where
  contentHash content := content.other
  orderOrchestrationEnabled := true
  n8nOrderDispatchEnabled := true

def order : OrderEnvelope where
  commandId := "cmd-1"
  orderId := "ord-1"
  sourceSystem := "odoo"
  workflowCode := "CDST-ORDER-EXECUTE-V1"
  requestedActions := ["create_callback"]
  idempotencyKey := "ord-1-intake-key"
  traceId := "trace-1"
  expiresAt := 100
  other := "content-1"
  approval := { status := .approved, contentHash := "content-1" }

def second : OrderEnvelope :=
  { order with commandId := "cmd-2", idempotencyKey := "ord-1-second-key", other := "content-2" }

end Sample

open Sample

/-- A second key replaces the record of the first, which then points to it. -/
theorem second_key_overwrites :
    let creates := [Operation.create order, .create second]
    ¬ (storeSystem runtime).Along (KeepsIntake runtime) .empty creates ∧
    ¬ (storeSystem runtime).Always Pointed .empty creates := by
  constructor
  · rintro ⟨-, keeps, -⟩
    have kept := keeps "ord-1" (record runtime order) rfl
    exact absurd kept (by decide)
  · rintro ⟨-, -, pointed⟩
    exact absurd (pointed "ord-1-intake-key" "ord-1" (by decide)) (by decide)

end CodestraMiddleware.Orders
