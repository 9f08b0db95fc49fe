import CodestraMiddleware.Foundations.Run
import Mathlib.Data.List.Sort

/-!
# Delivery events

`delivery_event` and `postal` of `email/api.py` for one notification, past the check of the
signature. Both write the status of the event that comes last, not of the one that happened last.
-/
namespace CodestraMiddleware.Email

open Transition List

inductive Status where
  | created | queued | processing | submitted | sent | delivered | deferred | bouncedSoft
  | bouncedHard | complained
  | suppressed | failed | deadLetter
  deriving DecidableEq

inductive Webhook where
  | deliveryEvents | postalNative
  deriving DecidableEq

/-- The statuses that `delivery_event` knows by event type, and `STATUS_MAP`. -/
def Webhook.statuses : Webhook → List (String × Status)
  | deliveryEvents => [("DELIVERY_ACCEPTED", .submitted), ("DELIVERY_SENT", .sent),
      ("DELIVERY_DELIVERED", .delivered),
      ("DELIVERY_DEFERRED", .deferred), ("BOUNCE_SOFT", .bouncedSoft),
      ("BOUNCE_HARD", .bouncedHard),
      ("COMPLAINT", .complained), ("FAILED", .failed), ("SUPPRESSED", .suppressed)]
  | postalNative => [("accepted", .submitted), ("submitted", .submitted), ("sent", .sent),
      ("delivered", .delivered),
      ("deferred", .deferred), ("soft_bounce", .bouncedSoft), ("hard_bounce", .bouncedHard),
      ("complaint", .complained), ("suppressed", .suppressed), ("failed", .failed)]

structure Arrival where
  webhook : Webhook
  -- `kind` is the event type or the lower-cased status.
  (eventId providerMessageId kind : String)
  occurredAt : Int

structure DeliveryEvent where
  eventId : String
  status : Status
  occurredAt : Int
  deriving DecidableEq

structure Notification where
  (tenantId providerMessageId : String)
  status : Status
  (sentAt deliveredAt : Option Int)

/-- A notification and its delivery events, the last one first. -/
structure Tracked extends Notification where
  events : List DeliveryEvent

def beyvraTenantId : String := "49f847e4-9d0c-53af-9871-1abc7ff1b8cf"

def Arrival.event? (a : Arrival) : Option DeliveryEvent :=
  (a.webhook.statuses.lookup a.kind).map (⟨a.eventId, ·, a.occurredAt⟩)

def Notification.record (n : Notification) (event : DeliveryEvent) : Notification where
  tenantId := n.tenantId
  providerMessageId := n.providerMessageId
  status := event.status
  sentAt := if event.status = .sent then some event.occurredAt else n.sentAt
  deliveredAt := if event.status = .delivered then some event.occurredAt else n.deliveredAt

/-- `delivery_event` finds messages of one tenant only. -/
def Notification.finds (n : Notification) (a : Arrival) : Bool :=
  n.providerMessageId = a.providerMessageId &&
    (a.webhook = .postalNative || n.tenantId = beyvraTenantId)

/-- The answer says whether the event was there already. -/
def receive (n : Tracked) (a : Arrival) : Except (Nat × String) (Tracked × Bool) :=
  match a.event? with
  | none => .error (422, match a.webhook with
      | .deliveryEvents => "invalid_delivery_event_type"
      | .postalNative => "unsupported_provider_status")
  | some event =>
    if ∃ known ∈ n.events, known.eventId = event.eventId then
      match a.webhook with
      | .deliveryEvents => .ok (n, true)
      | .postalNative => .error (409, "webhook_replay")
    else if !n.finds a then .error (404, "provider_message_unknown")
    else .ok (⟨n.record event, event :: n.events⟩, false)

def webhooks : System Tracked Arrival where
  step n a :=
    match receive n a with
    | .ok (n', _) => n'
    | .error _ => n
  admits _ _ := True

/-- The event is known already, or happened after all that are. -/
def InOrder (n : Tracked) (a : Arrival) : Prop :=
  (∃ known ∈ n.events, known.eventId = a.eventId) ∨
    ∀ known ∈ n.events, known.occurredAt < a.occurredAt

instance (n : Tracked) (a : Arrival) : Decidable (InOrder n a) :=
  inferInstanceAs (Decidable (_ ∨ _))

/-- The arrivals are those of the events, each at least once. -/
structure Delivers (n : Notification) (events : List DeliveryEvent)
    (arrivals : List Arrival) : Prop where
  each : ∀ a ∈ arrivals, n.finds a = true ∧ ∃ event ∈ events, a.event? = some event
  all : ∀ event ∈ events, ∃ a ∈ arrivals, a.event? = some event

def Later (event known : DeliveryEvent) : Prop := known.occurredAt < event.occurredAt

instance : Std.Irrefl Later := ⟨fun _ => Int.lt_irrefl _⟩

instance : Std.Antisymm Later :=
  ⟨fun _ _ later earlier => absurd later (Int.not_lt.mpr (Int.le_of_lt earlier))⟩

variable {m : Notification} {n : Tracked} {a : Arrival} {event : DeliveryEvent}

theorem event?_eq_some (known : a.event? = some event) : event.eventId = a.eventId ∧
    event.occurredAt = a.occurredAt := by
  obtain ⟨_, -, rfl⟩ := Option.map_eq_some_iff.mp known
  exact ⟨rfl, rfl⟩

theorem step_cases (n : Tracked) (a : Arrival) : webhooks.step n a = n ∧
      (n.finds a = true → ∀ event, a.event? = some event →
        ∃ known ∈ n.events, known.eventId = event.eventId) ∨
    ∃ event, a.event? = some event ∧ (∀ known ∈ n.events, known.eventId ≠ event.eventId) ∧
      webhooks.step n a = ⟨n.record event, event :: n.events⟩ := by
  cases kind : a.event? with
  | none => exact .inl ⟨by simp [webhooks, receive, kind], fun _ => nofun⟩
  | some event =>
    by_cases known : ∃ known ∈ n.events, known.eventId = event.eventId
    · refine .inl ⟨by cases hook : a.webhook <;> simp [webhooks, receive, kind, known, hook], ?_⟩
      rintro - _ ⟨⟩
      exact known
    by_cases found : n.finds a = true
    · exact .inr ⟨event, rfl, by simpa using known, by simp [webhooks, receive, kind, known, found]⟩
    · exact .inl ⟨by simp [webhooks, receive, kind, known, found],
        fun found' => absurd found' found⟩

/-- The notification is what its events make of it, and they are sorted. -/
def Replayed (m : Notification) (n : Tracked) : Prop :=
  n.toNotification = n.events.foldr (fun event m => m.record event) m ∧ n.events.Pairwise Later

theorem Replayed.step (inOrder : InOrder n a) (replayed : Replayed m n) :
    Replayed m (webhooks.step n a) := by
  rcases step_cases n a with ⟨same, -⟩ | ⟨event, kind, fresh, recorded⟩
  · rw [same]
    exact replayed
  · obtain ⟨id, time⟩ := event?_eq_some kind
    rw [recorded]
    refine ⟨congrArg (·.record event) replayed.1,
      pairwise_cons.mpr ⟨fun known member => ?_, replayed.2⟩⟩
    rcases inOrder with ⟨old, stored, same⟩ | later
    · exact absurd (same.trans id.symm) (fresh old stored)
    · exact lt_of_lt_of_eq (later known member) time.symm

theorem mem_events (ids : (events.map (·.eventId)).Nodup)
    (each : ∀ a ∈ arrivals, n.finds a = true ∧ ∃ event ∈ events, a.event? = some event)
    (known : n.events ⊆ events) :
    event ∈ (webhooks.after n arrivals).events ↔ event ∈ n.events ∨
    ∃ a ∈ arrivals, a.event? = some event := by
  induction arrivals generalizing n with
  | nil => simp [System.after]
  | cons a arrivals ih =>
    obtain ⟨⟨found, new, listed, kind⟩, each⟩ := forall_mem_cons.mp each
    simp only [System.after, exists_mem_cons_iff, kind, Option.some.injEq]
    rcases step_cases n a with ⟨same, stored⟩ | ⟨_, kind', -, recorded⟩
    · -- The event with this id is the same one.
      obtain ⟨old, member, id⟩ := stored found new kind
      obtain rfl := inj_on_of_nodup_map ids (known member) listed id
      rw [same, ih each known]
      constructor
      · exact Or.imp_right .inr
      · rintro (old | rfl | later)
        · exact .inl old
        · exact .inl member
        · exact .inr later
    · cases kind.symm.trans kind'
      rw [recorded, ih (n := ⟨n.record new, new :: n.events⟩) each
        (cons_subset.mpr ⟨listed, known⟩), mem_cons]
      tauto

/-- Where events come in the order in which they happened, their repetitions and
the webhooks do not count. -/
theorem status_of_events (n : Tracked) (new : n.events = []) (events : List DeliveryEvent)
    (ids : (events.map (·.eventId)).Nodup) (arrivals arrivals' : List Arrival)
    (delivers : Delivers n.toNotification events arrivals)
    (delivers' : Delivers n.toNotification events arrivals')
    (inOrder : webhooks.Along InOrder n arrivals) (inOrder' : webhooks.Along InOrder n arrivals') :
    (webhooks.after n arrivals).toNotification = (webhooks.after n arrivals').toNotification := by
  have replayed {l : List Arrival} (inOrder : webhooks.Along InOrder n l) :
      Replayed n.toNotification (webhooks.after n l) :=
    (System.always_of_along (fun _ _ _ inOrder => Replayed.step inOrder)
      (fun _ replayed => replayed)
      (by simp [Replayed, new]) (@System.along_of_forall _ _ webhooks webhooks.admits
        (fun _ _ => trivial) n l) inOrder).last
  have stored {l : List Arrival} (delivers : Delivers n.toNotification events l)
      (event : DeliveryEvent) : event ∈ (webhooks.after n l).events ↔ event ∈ events := by
    rw [mem_events ids delivers.each (by simp [new])]
    constructor
    · rintro (old | ⟨a, member, kind⟩)
      · simp [new] at old
      · obtain ⟨_, ⟨_, listed, kind'⟩⟩ := delivers.each a member
        cases kind.symm.trans kind'
        exact listed
    · exact fun listed => .inr (delivers.all event listed)
  have same : (webhooks.after n arrivals).events = (webhooks.after n arrivals').events :=
    (replayed inOrder).2.eq_of_mem_iff (replayed inOrder').2 fun event =>
      (stored delivers event).trans
    (stored delivers' event).symm
  rw [(replayed inOrder).1, (replayed inOrder').1, same]

namespace Sample

def notification : Tracked := ⟨⟨beyvraTenantId, "p", .submitted, none, none⟩, []⟩

def sent (webhook : Webhook) (kind : String) : Arrival := ⟨webhook, "1", "p", kind, 1⟩

def delivered : Arrival := ⟨.postalNative, "2", "p", "delivered", 2⟩

end Sample

open Sample

theorem delivered_with_repetitions :
    (webhooks.after notification [sent .postalNative "sent", delivered]).toNotification =
      (webhooks.after notification
        [sent .deliveryEvents "DELIVERY_SENT", delivered,
          sent .postalNative "sent"]).toNotification := by
  exact status_of_events notification rfl [⟨"1", .sent, 1⟩, ⟨"2", .delivered, 2⟩] (by decide) _ _
    ⟨by decide, by decide⟩ ⟨by decide, by decide⟩ (by decide) (by decide)

theorem late_event_replaces_delivery :
    (webhooks.after notification [sent .postalNative "sent", delivered]).status = .delivered ∧
      (webhooks.after notification [delivered, sent .postalNative "sent"]).status = .sent := by
  decide

end CodestraMiddleware.Email
