import CodestraMiddleware.Recordings.Effects

/-!
# Verified events

Every link of a recording adds one event to the outbox. A completion that comes after a link is
answered as a duplicate, but one that was waiting already links the recording once more.
-/
namespace CodestraMiddleware.Recordings

open Transition Sample State Books RecordingState

variable {rt : Runtime} {ι : Type} [DecidableEq ι]

def RecordingState.linked (state : RecordingState) : Bool := decide (state = .odooLinked)

/-- There is at most one event for the recording, and there is one exactly if it has been linked. -/
def Aggregate.OneEvent (a : Aggregate) : Prop :=
  a.events.length ≤ 1 ∧ (a.events.length = 1 ↔ a.HasBeen linked)

/-- A recording that was ever linked has one event, the others none. -/
def OneEventEach (s : State ι) : Prop := ∀ uid, (s.service.books.aggregate uid).OneEvent

variable (rt) in
/-- A call of `complete` whose acknowledgement passes finds that its recording
has not been linked yet. -/
def FindsUnlinked (s : State ι) (e : Event ι) : Prop :=
  ∀ r, linking rt s e = some r → r.odooLinkedAt = none

instance decidableFindsUnlinked (s : State ι) (e : Event ι) : Decidable (FindsUnlinked rt s e) :=
  decidable_of_iff ((linking rt s e).all fun r => r.odooLinkedAt.isNone) (by
    unfold FindsUnlinked
    cases linking rt s e <;> simp)

/-! ## Links and events -/

variable {a : Aggregate}

namespace Aggregate

def links (a : Aggregate) : Nat := a.trail.countP fun entry => entry.toState.linked

def linkedAt (a : Aggregate) : Option Int := a.recording.bind (·.odooLinkedAt)

/-- There are as many events as links, and the recording knows whether there are any. -/
structure Counted (a : Aggregate) : Prop where
  published : a.events.length = a.links
  known : a.linkedAt.isSome = true ↔ 0 < a.links

theorem hasBeen_linked_iff (a : Aggregate) : a.HasBeen linked ↔ 0 < a.links :=
  List.countP_pos_iff.symm

theorem Counted.oneEvent_iff (counted : a.Counted) : a.OneEvent ↔ a.links ≤ 1 := by
  rw [OneEvent, hasBeen_linked_iff, counted.published]
  omega

theorem links_move (a : Aggregate) (r : Recording) (state : RecordingState) (reason : String) :
    (a.move r state reason).links = a.links + if state = .odooLinked then 1 else 0 := by
  simp [links, move, linked, List.countP_append, List.countP_singleton]

theorem link_links (a : Aggregate) (r : Recording) (now : Int) (event : VerifiedEvent) :
    (a.link r now event).links = a.links + 1 := links_move a _ _ _

theorem linkedAt_of_stored (stored : a.recording = some r) : a.linkedAt = r.odooLinkedAt := by
  rw [linkedAt, stored]
  rfl

theorem Counted.link (counted : a.Counted) (r : Recording) (now : Int) (event : VerifiedEvent) :
    (a.link r now event).Counted := by
  constructor
  · rw [link_links, ← counted.published]
    exact List.length_append
  · rw [link_links]
    exact ⟨fun _ => Nat.succ_pos _, fun _ => rfl⟩

theorem move_unlinked (a : Aggregate) (same : r.odooLinkedAt = a.linkedAt)
    (other : state ≠ .odooLinked) (reason : String) :
    (a.move r state reason).links = a.links ∧ (a.move r state reason).linkedAt = a.linkedAt := by
  rw [links_move, if_neg other]
  exact ⟨rfl, same⟩

end Aggregate

open Aggregate in
theorem Effect.unlinked {read : Option ObjectHead} (effect : Effect b uid read waits b') :
    (b'.aggregate uid).events = (b.aggregate uid).events ∧
    (b'.aggregate uid).links = (b.aggregate uid).links ∧
        (b'.aggregate uid).linkedAt = (b.aggregate uid).linkedAt := by
  have first {r : Recording} (stored : (b.aggregate r.recordingUid).recording = some r) :=
    move_unlinked _ (linkedAt_of_stored stored).symm (show RecordingState.uploaded ≠ _ by decide)
      "completion_received"
  cases effect with
  | kept => exact ⟨rfl, rfl, rfl⟩
  | reserved absent _ _ _ unlinked =>
    simp only [aggregate_move_self, events_move, true_and]
    refine move_unlinked _ ?_ (by decide) _
    rw [unlinked, linkedAt, absent]
    rfl
  | rejected stored code rejected =>
    simp only [aggregate_move_self, events_move, true_and]
    refine move_unlinked _ ?_ (ne_odooLinked_of_rejected rejected) _
    exact (linkedAt_of_stored stored).symm
  | received stored =>
    simp only [aggregate_move_self, events_move, true_and]
    exact first stored
  | unverified stored _ _ _ rejected =>
    simp only [aggregate_move_self, events_move, true_and]
    rw [← (first stored).1, ← (first stored).2]
    exact move_unlinked _ rfl (ne_odooLinked_of_rejected rejected) _
  | verified stored =>
    simp only [aggregate_move_self, aggregate_own, events_move, true_and]
    rw [← (first stored).1, ← (first stored).2]
    exact move_unlinked _ rfl (by decide) _
  | noted stored =>
    rw [aggregate_set_self]
    exact ⟨rfl, rfl, (linkedAt_of_stored stored).symm⟩

theorem Aggregate.Counted.of_effect {read : Option ObjectHead}
    (effect : Effect b uid read waits b') (counted : (b.aggregate uid).Counted) :
    (b'.aggregate uid).Counted := by
  obtain ⟨events, links, linkedAt⟩ := effect.unlinked
  constructor
  · rw [events, links, counted.published]
  · rw [linkedAt, links, counted.known]

variable (rt) in
theorem stable_counted : (system rt (ι := ι)).Stable fun s =>
    ∀ uid, (s.service.books.aggregate uid).Counted :=
  stable_aggregates .of_effect fun _ now event counted => counted.link _ now event

omit [DecidableEq ι] in
theorem counted_initial (uid : String) : ((initial ι).service.books.aggregate uid).Counted :=
  ⟨rfl, nofun, nofun⟩

/-- As long as there is at most one event for each recording, a step keeps it so exactly if it does
not link a recording for the second time. -/
theorem oneEvent_step_iff {s : State ι} (admitted : (system rt).admits s e)
    (counted : ∀ uid, (s.service.books.aggregate uid).Counted) (one : OneEventEach s) :
    OneEventEach (step rt s e) ↔ FindsUnlinked rt s e := by
  have counted' : ∀ uid, ((step rt s e).service.books.aggregate uid).Counted :=
    stable_counted rt s e admitted counted
  have few (uid : String) : (s.service.books.aggregate uid).links ≤ 1 :=
    (counted uid).oneEvent_iff.mp (one uid)
  simp only [OneEventEach, (counted' _).oneEvent_iff]
  cases links : linking rt s e with
  | none =>
    obtain ⟨touched, _, effect, -, -⟩ := effect_step links admitted
    have finds : FindsUnlinked rt s e := by
      intro r linked
      rw [links] at linked
      cases linked
    refine iff_of_true (fun uid => ?_) finds
    by_cases self : uid = touched
    · subst self
      rw [effect.unlinked.2.1]
      exact few uid
    · rw [effect.aggregate_ne self]
      exact few uid
  | some r =>
    obtain ⟨stored, ⟨now, _, -, books⟩, -⟩ := step_link links
    have known := (counted r.recordingUid).known
    rw [Aggregate.linkedAt_of_stored stored] at known
    constructor
    · intro few' r' linked
      rw [links] at linked
      cases linked
      have twice := few' r.recordingUid
      rw [books, aggregate_set_self, Aggregate.link_links] at twice
      rw [← Option.not_isSome_iff_eq_none, known]
      omega
    · intro finds uid
      rw [books, aggregate_set]
      split
      next self =>
        have unlinked := finds r links
        rw [unlinked] at known
        rw [Aggregate.link_links]
        simp at known
        omega
      next => exact few uid

variable (rt) in
/-- On any interleaving there is at most one event for each recording, and one exactly if it has
been linked, exactly if no call of `complete` gets its acknowledgement after the
recording has been linked. -/
theorem one_event_iff {es : List (Event ι)} (run : (system rt).Run (initial ι) es) :
    (system rt).Always OneEventEach (initial ι) es ↔ (system rt).Along (FindsUnlinked rt)
    (initial ι) es := by
  refine (stable_counted rt).always_iff (fun _ _ => oneEvent_step_iff) counted_initial
    (fun uid => ?_) run
  exact (counted_initial uid).oneEvent_iff.mpr (Nat.zero_le 1)

/-- The second completion comes after the first has been acknowledged. -/
theorem repeated_completion_one_event : (system runtime).Always OneEventEach (initial Bool)
      [reserve, complete true, acknowledge true, complete false] :=
  (one_event_iff runtime (by decide +kernel)).mpr (by decide +kernel)

def overlapping : List (Event Bool) :=
  [reserve, complete true, complete false, acknowledge true, acknowledge false]

theorem overlapping_two_events :
    let S := system runtime
    S.Run (initial Bool) overlapping ∧
      (S.after (initial Bool) overlapping).service.outbox.map
      (·.recordingUid) = ["REC-1", "REC-1"] ∧
      ¬S.Always OneEventEach (initial Bool) overlapping := by
  have published : ((system runtime).after (initial Bool) overlapping).service.outbox.map
      (·.recordingUid) = ["REC-1", "REC-1"] := by
    decide +kernel
  have twice : ¬((((system runtime).after (initial Bool) overlapping).service.books.aggregate
      "REC-1").events.length ≤ 1) := by
    decide +kernel
  exact ⟨by decide +kernel, published, fun one => twice (one.last "REC-1").1⟩

end CodestraMiddleware.Recordings
