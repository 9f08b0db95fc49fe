import CodestraMiddleware.Foundations.Raising
import CodestraMiddleware.Foundations.Run
import CodestraMiddleware.Foundations.Table

/-!
# Bookings

`booking/service.py` with the contracts it uses. `create` answers a key that its tenant has used
before with the record of that key, without a look at who asks for what; `get_for_customer` and
`transition` only show a record to its own customer.
-/
namespace CodestraMiddleware.Booking

open Relational Transition Raising Function Option Table

abbrev UUID := BitVec 128

inductive AppointmentState where
  | requested | matching | confirmed | rescheduled | cancelled
  deriving DecidableEq

structure Moment where
  instant : Int
  aware : Bool
  deriving DecidableEq

/-- The fields that `create` reads; the validator asks for a time zone. -/
structure ServiceRequest where
  (tenantId customerId : UUID)
  serviceCode : String
  requestedStart : Moment
  consent : Bool
  dnc : Bool := false
  aware : requestedStart.aware = true

structure BookingRecord where
  (id tenantId customerId : UUID)
  serviceCode : String
  state : AppointmentState
  requestedStart : Moment
  providerMatchId : Option UUID := none
  idempotencyKey : String
  (createdAt updatedAt : Int)
  deriving DecidableEq

def catalog : List String := ["HOME_CLEANING", "SEASONAL_MAINTENANCE", "HANDYMAN", "LAWN_CARE"]

inductive Exc where
  | bookingError (code : String) (status : Nat)
  | keyError
  deriving DecidableEq

structure Repository where
  records : Table BookingRecord.id
  keys : UUID × String → Option UUID

def Repository.empty : Repository := ⟨.empty _, fun _ => none⟩

def BookingRecord.subject (row : BookingRecord) : UUID × UUID × String :=
  (row.tenantId, row.customerId, row.serviceCode)

def ServiceRequest.subject (q : ServiceRequest) : UUID × UUID × String :=
  (q.tenantId, q.customerId, q.serviceCode)

def ServiceRequest.check (q : ServiceRequest) (key : String) : Except Exc Unit := do
  Raising.check (key ≠ "" ∧ key.length ≤ 128) (.bookingError "INVALID_IDEMPOTENCY_KEY" 422)
  Raising.check (q.consent = true ∧ q.dnc = false) (.bookingError "CONSENT_OR_DNC_BLOCKED" 409)
  Raising.check (q.serviceCode ∈ catalog) (.bookingError "UNKNOWN_SERVICE" 422)

def ServiceRequest.row (q : ServiceRequest) (key : String) (id : UUID) (now : Int) :
    BookingRecord where
  id
  tenantId := q.tenantId
  customerId := q.customerId
  serviceCode := q.serviceCode
  state := .requested
  requestedStart := q.requestedStart
  idempotencyKey := key
  createdAt := now
  updatedAt := now

namespace Repository

variable (s : Repository)

def duplicate (q : ServiceRequest) : Option BookingRecord :=
  s.records.rows.find? fun row => decide (row.subject = q.subject ∧ row.state ≠ .cancelled)

def create (q : ServiceRequest) (key : String) (id : UUID) (now : Int) :
    Repository × Except Exc (BookingRecord × Bool) :=
  match q.check key with
  | .error exc => (s, .error exc)
  | .ok _ =>
    match s.keys (q.tenantId, key) with
    | some bound =>
      (s, match s.records.find? bound with
        | some row => .ok (row, true)
        | none => .error .keyError)
    | none =>
      if (s.duplicate q).isSome then (s, .error (.bookingError "DUPLICATE_SERVICE_REQUEST" 409))
      else
        let row := q.row key id now
        ({ records := s.records.put row, keys := update s.keys (q.tenantId, key) (some id) },
          .ok (row, false))

section

variable (id tenantId customerId : UUID)

def getForCustomer : Except Exc BookingRecord :=
  match s.records.find? id with
  | none => .error (.bookingError "BOOKING_NOT_FOUND" 404)
  | some row =>
    if row.tenantId ≠ tenantId ∨ row.customerId ≠ customerId then
      .error (.bookingError "BOOKING_NOT_FOUND" 404)
    else .ok row

section

variable (state : AppointmentState) (requestedStart : Option Moment) (now : Int)

def changed : Except Exc BookingRecord := do
  let row ← s.getForCustomer id tenantId customerId
  check (row.state ≠ .cancelled) (.bookingError "BOOKING_ALREADY_CANCELLED" 409)
  check (∀ start ∈ requestedStart, start.aware = true) (.bookingError "TIMEZONE_REQUIRED" 422)
  return { row with
    state, updatedAt := now, requestedStart := requestedStart.getD row.requestedStart }

def transition : Repository × Except Exc BookingRecord :=
  match s.changed id tenantId customerId state requestedStart now with
  | .error exc => (s, .error exc)
  | .ok row => ({ s with records := s.records.put row }, .ok row)

end

end

end Repository

inductive Creates (s : Repository) (q : ServiceRequest) (key : String) (id : UUID) (now : Int) :
    Repository × Except Exc (BookingRecord × Bool) → Prop
  | refused (exc : Exc) : Creates s q key id now (s, .error exc)
  | replayed {bound : UUID} {row : BookingRecord} (passes : q.check key = .ok ())
      (used : s.keys (q.tenantId, key) = some bound) (found : s.records.find? bound = some row) :
      Creates s q key id now (s, .ok (row, true))
  | created (passes : q.check key = .ok ()) (unused : s.keys (q.tenantId, key) = none)
      (alone : ∀ row ∈ s.records.rows, row.subject = q.subject → row.state = .cancelled) :
      Creates s q key id now
        ({ records := s.records.put (q.row key id now),
           keys := update s.keys (q.tenantId, key) (some id) }, .ok (q.row key id now, false))

theorem Repository.create_spec (s : Repository) (q : ServiceRequest) (key : String) (id : UUID)
    (now : Int) : Creates s q key id now (s.create q key id now) := by
  unfold create
  split
  next => exact .refused _
  next passes =>
    split
    next bound used =>
      split
      next row found => exact .replayed passes used found
      next => exact .refused .keyError
    next unused =>
      split
      next => exact .refused _
      next single =>
        refine .created passes unused fun row member same => ?_
        by_contra active
        have missed := List.find?_eq_none.mp (not_isSome_iff_eq_none.mp single) row member
        exact missed (decide_eq_true ⟨same, active⟩)

inductive Changes (s : Repository) (id : UUID) : Repository × Except Exc BookingRecord → Prop
  | refused (exc : Exc) : Changes s id (s, .error exc)
  | changed {row row' : BookingRecord} (found : s.records.find? id = some row)
      (active : row.state ≠ .cancelled) (same : row'.id = row.id)
      (subject : row'.subject = row.subject)
      (key : row'.idempotencyKey = row.idempotencyKey) :
      Changes s id ({ s with records := s.records.put row' }, .ok row')

theorem Repository.transition_spec (s : Repository) (id tenantId customerId : UUID)
    (state : AppointmentState) (requestedStart : Option Moment) (now : Int) :
    Changes s id (s.transition id tenantId customerId state requestedStart now) := by
  unfold transition
  split
  next => exact .refused _
  next row' ok =>
    obtain ⟨row, visible, ok⟩ := bind_eq_ok.mp ok
    obtain ⟨_, active, ok⟩ := bind_eq_ok.mp ok
    obtain ⟨_, _, ok⟩ := bind_eq_ok.mp ok
    cases ok
    have found : s.records.find? id = some row := by
      unfold getForCustomer at visible
      split at visible
      · cases visible
      next found =>
        split at visible
        · cases visible
        · cases visible
          exact found
    exact .changed found (check_eq_ok.mp active) rfl rfl rfl

inductive Call where
  | create (request : ServiceRequest) (key : String) (id : UUID) (now : Int)
  | transition (id tenantId customerId : UUID) (state : AppointmentState)
      (requestedStart : Option Moment) (now : Int)

def step (s : Repository) : Call → Repository
  | .create request key id now => (s.create request key id now).1
  | .transition id tenantId customerId state requestedStart now =>
    (s.transition id tenantId customerId state requestedStart now).1

def system : System Repository Call where
  step := step
  admits s
    | .create _ _ id _ => s.records.find? id = none
    | .transition .. => True

section

variable (s : Repository)

/-- A subject has at most one booking that is not cancelled. -/
def OneActive : Prop :=
  ∀ id id' row row', s.records.find? id = some row → s.records.find? id' = some row' →
    row.state ≠ .cancelled → row'.state ≠ .cancelled → row.subject = row'.subject → id = id'

/-- A key leads to the booking that was made with it. -/
def Keyed : Prop :=
  ∀ tenantId key id, s.keys (tenantId, key) = some id →
    ∃ row, s.records.find? id = some row ∧ row.tenantId = tenantId ∧ row.idempotencyKey = key

/-- A cancelled booking is left as it is. -/
def KeepsCancelled (c : Call) : Prop :=
  ∀ id row, s.records.find? id = some row → row.state = .cancelled →
    (step s c).records.find? id = some row

/-- `create` returns a record of the customer and for the service that were asked for. -/
def ReturnsOwn : Call → Prop
  | .create request key id now =>
    ∀ row replay, (s.create request key id now).2 = .ok (row, replay) →
      row.subject = request.subject
  | .transition .. => True

/-- A request that passes the first checks does not come with a key that its tenant has used for
another customer or service. -/
def KeyUnshared : Call → Prop
  | .create request key _ _ =>
    request.check key = .ok () → ∀ bound, s.keys (request.tenantId, key) = some bound →
      ∀ row, s.records.find? bound = some row → row.customerId = request.customerId ∧
      row.serviceCode = request.serviceCode
  | .transition .. => True

end

theorem new_ne {s : Repository} (row : BookingRecord) {id : UUID}
    (fresh : s.records.find? row.id = none)
    (stored : s.records.find? id = some old) : row.id ≠ id := by
  rintro rfl
  rw [fresh] at stored
  cases stored

theorem OneActive.put (one : OneActive s)
    (alone : ∀ id other, s.records.find? id = some other → other.state ≠ .cancelled →
      other.subject = row.subject → id = row.id) (keys : UUID × String → Option UUID) :
    OneActive { records := s.records.put row, keys } := by
  intro id id' found found' stored stored' active active' same
  rw [find?_put] at stored stored'
  split at stored
  next self =>
    cases stored
    split at stored'
    next self' => exact self.symm.trans self'
    next => rw [← self, alone id' found' stored' active' same.symm]
  next =>
    split at stored'
    next self' =>
      cases stored'
      rw [← self', alone id found stored active same]
    next => exact one id id' found found' stored stored' active active' same

inductive Steps (s : Repository) : Call → Repository → Prop
  | kept (c : Call) : Steps s c s
  | created {q : ServiceRequest} {key : String} {id : UUID} {now : Int}
      (alone : ∀ row ∈ s.records.rows, row.subject = q.subject → row.state = .cancelled) :
      Steps s (.create q key id now)
        ⟨s.records.put (q.row key id now), update s.keys (q.tenantId, key) (some id)⟩
  | changed {c : Call} {id : UUID} {row row' : BookingRecord}
      (found : s.records.find? id = some row)
      (active : row.state ≠ .cancelled) (same : row'.id = id) (subject : row'.subject = row.subject)
      (key : row'.idempotencyKey = row.idempotencyKey) :
      Steps s c { s with records := s.records.put row' }

theorem stepped (s : Repository) (c : Call) : Steps s c (system.step s c) := by
  cases c with
  | create request key id now =>
    have spec := s.create_spec request key id now
    change Steps s _ (s.create request key id now).1
    generalize s.create request key id now = result at spec ⊢
    cases spec with
    | refused | replayed => exact .kept _
    | created _ _ alone => exact .created alone
  | transition id tenantId customerId state requestedStart now =>
    have spec := s.transition_spec id tenantId customerId state requestedStart now
    change Steps s _ (s.transition id tenantId customerId state requestedStart now).1
    generalize s.transition id tenantId customerId state requestedStart now = result at spec ⊢
    cases spec with
    | refused => exact .kept _
    | changed found active same subject key =>
      exact .changed found active (same.trans (s.records.find?_key found)) subject key

theorem stable_oneActive : system.Stable OneActive := by
  intro s c _ one
  have steps := stepped s c
  generalize system.step s c = s' at steps ⊢
  cases steps with
  | kept => exact one
  | created alone =>
    refine one.put (fun id' other stored active same => ?_) _
    exact absurd (alone other (s.records.find?_mem stored) same) active
  | @changed _ id row row' found active sameId subject =>
    refine one.put (fun id' other stored active' same => ?_) _
    rw [sameId]
    exact one id' id other row stored found active' active (same.trans subject)

theorem stable_keyed : system.Stable Keyed := by
  intro s c admitted keyed
  have steps := stepped s c
  generalize system.step s c = s' at steps ⊢
  cases steps with
  | kept => exact keyed
  | @created request key id now alone =>
    intro tenantId key' bound used
    simp only [update_apply] at used
    split at used
    next self =>
      cases used
      obtain ⟨rfl, rfl⟩ := Prod.mk.inj self
      exact ⟨request.row key' id now, (find?_put _ _ _).trans (if_pos rfl), rfl, rfl⟩
    next =>
      obtain ⟨row, stored, tenant, same⟩ := keyed tenantId key' bound used
      refine ⟨row, ?_, tenant, same⟩
      rw [find?_put, if_neg (new_ne (request.row key id now) admitted stored)]
      exact stored
  | @changed _ id row row' found active sameId subject sameKey =>
    intro tenant key bound used
    obtain ⟨old, stored, owner, same⟩ := keyed tenant key bound used
    by_cases self : row'.id = bound
    · have here : id = bound := sameId.symm.trans self
      subst here
      cases found.symm.trans stored
      refine ⟨row', by rw [find?_put, if_pos self], ?_, sameKey.trans same⟩
      exact (congrArg (·.1) subject).trans owner
    · exact ⟨old, by rw [find?_put, if_neg self, stored], owner, same⟩

theorem keepsCancelled (admitted : system.admits s c) : KeepsCancelled s c := by
  intro id' row stored cancelled
  have steps := stepped s c
  change (system.step s c).records.find? id' = some row
  generalize system.step s c = s' at steps ⊢
  cases steps with
  | kept => exact stored
  | @created request key id now alone =>
    rw [find?_put, if_neg (new_ne (request.row key id now) admitted stored)]
    exact stored
  | @changed _ id old row' found active sameId =>
    have other : row'.id ≠ id' := by
      intro self
      obtain rfl := sameId.symm.trans self
      cases found.symm.trans stored
      exact active cancelled
    rw [find?_put, if_neg other]
    exact stored

theorem returnsOwn_iff (keyed : Keyed s) : ReturnsOwn s c ↔ KeyUnshared s c := by
  cases c with
  | transition => exact Iff.rfl
  | create request key id now =>
    constructor
    · intro own passes bound used row found
      have replayed : (s.create request key id now).2 = .ok (row, true) := by
        simp only [Repository.create, passes, used, found]
      have same := own row true replayed
      exact Prod.mk.inj (Prod.mk.inj same).2
    · intro unshared row replay answered
      generalize outcome : s.create request key id now = result at answered
      have spec := s.create_spec request key id now
      rw [outcome] at spec
      cases spec with
      | refused => cases answered
      | replayed passes used found =>
        cases answered
        obtain ⟨customer, service⟩ := unshared passes _ used row found
        obtain ⟨_, found', tenant, -⟩ := keyed _ _ _ used
        cases found.symm.trans found'
        rw [BookingRecord.subject, tenant, customer, service]
        rfl
      | created =>
        cases answered
        rfl

/-- Whatever calls are made, at most one record of a customer for a service is not cancelled, every
key is that of a record of its tenant, and cancelled records do not change. `create` returns only
records of the customer and service it is asked for exactly if no key is used
again for another customer or service. -/
theorem bookings_owned_iff {calls : List Call} (run : system.Run .empty calls) :
    (system.Always (fun s => OneActive s ∧ Keyed s) .empty calls ∧
        system.Along (fun s c => KeepsCancelled s c ∧ ReturnsOwn s c) .empty calls) ↔
      system.Along KeyUnshared .empty calls := by
  have stable : system.Stable fun s => OneActive s ∧ Keyed s := fun s c admitted both =>
    ⟨stable_oneActive s c admitted both.1, stable_keyed s c admitted both.2⟩
  have start : OneActive .empty ∧ Keyed .empty := ⟨fun _ _ _ _ => nofun, fun _ _ _ => nofun⟩
  have always := stable.always (fun _ both => both) start run
  have along := stable.along_iff (fun _ c admitted both =>
    (and_iff_right (keepsCancelled admitted)).trans (returnsOwn_iff (c := c) both.2)) start run
  exact ⟨fun both => along.mp both.2, fun unshared => ⟨always, along.mpr unshared⟩⟩

instance decidableAdmits (s : Repository) (c : Call) : Decidable (system.admits s c) :=
  match c with
  | .create _ _ id _ => inferInstanceAs (Decidable (s.records.find? id = none))
  | .transition .. => isTrue trivial

instance decidableRun (s : Repository) (calls : List Call) : Decidable (system.Run s calls) :=
  system.decidableAlong _ s calls

theorem keyUnshared_create {id : UUID} : KeyUnshared s (.create request key id now) ↔
      (request.check key = .ok () →
        (((s.keys (request.tenantId, key)).bind s.records.find?).all fun row =>
        row.customerId = request.customerId ∧ row.serviceCode = request.serviceCode) = true) := by
  refine imp_congr_right fun _ => ?_
  cases s.keys (request.tenantId, key) with
  | none => simp
  | some bound =>
    simp only [Option.some.injEq, forall_eq', bind_some]
    cases s.records.find? bound <;> simp

instance decidableKeyUnshared (s : Repository) (c : Call) : Decidable (KeyUnshared s c) :=
  match c with
  | .create .. => decidable_of_iff' _ keyUnshared_create
  | .transition .. => isTrue trivial

namespace Sample

def request (customerId : UUID) (serviceCode : String) : ServiceRequest where
  tenantId := 1
  customerId
  serviceCode
  requestedStart := ⟨0, true⟩
  consent := true
  aware := rfl

end Sample

open Sample

theorem replay_owned :
    let calls : List Call := [.create (request 7 "HANDYMAN") "key-1" 100 0,
      .create (request 7 "HANDYMAN") "key-1" 101 1]
    system.Always (fun s => OneActive s ∧ Keyed s) .empty calls ∧
      system.Along (fun s c => KeepsCancelled s c ∧ ReturnsOwn s c) .empty calls :=
  (bookings_owned_iff (by decide +kernel)).mpr (by decide +kernel)

/-- Another customer of the tenant gets the record of the first, and a service
that was not asked for. -/
theorem foreign_record_returned :
    let s := step .empty (.create (request 7 "HANDYMAN") "key-1" 100 0)
    let again : Call := .create (request 8 "LAWN_CARE") "key-1" 101 1
    system.Run .empty [.create (request 7 "HANDYMAN") "key-1" 100 0, again] ∧
      (s.create (request 8 "LAWN_CARE") "key-1" 101 1).2 =
        .ok ((request 7 "HANDYMAN").row "key-1" 100 0, true) ∧
      ¬system.Along (fun s c => KeepsCancelled s c ∧ ReturnsOwn s c) .empty
        [.create (request 7 "HANDYMAN") "key-1" 100 0, again] := by
  have answer : ((step .empty (.create (request 7 "HANDYMAN") "key-1" 100 0)).create
      (request 8 "LAWN_CARE") "key-1" 101 1).2 =
      .ok ((request 7 "HANDYMAN").row "key-1" 100 0, true) := by
    decide +kernel
  refine ⟨by decide +kernel, answer, fun along => ?_⟩
  have own := along.2.1.2 _ _ answer
  exact absurd own (by decide)

end CodestraMiddleware.Booking
