import CodestraMiddleware.Recordings.Effects

/-!
# Rejected recordings

A recording that is quarantined or failed leaves these states only if a call of `complete` was
already waiting for Odoo: it links the recording without looking at its state again. Everything else
refuses it.
-/
namespace CodestraMiddleware.Recordings

open Transition Sample State Books RecordingState Aggregate

variable {rt : Runtime} {ι : Type} [DecidableEq ι]

/-- The recording is quarantined or has failed. -/
def Rejected (uid : String) (s : State ι) : Prop :=
  ∃ r, s.service.recordings.find? uid = some r ∧ r.state.rejected = true

instance decidableRejected (uid : String) (s : State ι) : Decidable (Rejected uid s) :=
  decidable_of_iff ((s.service.recordings.find? uid).any fun r => r.state.rejected) (by
    unfold Rejected
    cases s.service.recordings.find? uid <;> simp)

/-- The recording is not linked and cannot be played. -/
def Withheld (uid : String) (s : State ι) : Prop :=
  (∀ r, s.service.recordings.find? uid = some r → r.state ≠ .odooLinked) ∧
    ∀ scopeAuthorized ttlSeconds presigned answer,
      s.service.playbackUrl uid scopeAuthorized ttlSeconds presigned ≠ .ok answer

variable {uid : String} {s : State ι}

omit [DecidableEq ι] in
theorem withheld_iff : Withheld uid s ↔ ∀ r, s.service.recordings.find? uid = some r →
    r.state ≠ .odooLinked := by
  constructor
  · exact fun withheld => withheld.1
  · intro unlinked
    refine ⟨unlinked, fun scopeAuthorized ttlSeconds presigned answer ok => ?_⟩
    obtain ⟨r, stored, linked⟩ := Service.linked_of_playbackUrl ok
    exact unlinked r stored linked

variable (rt) in
/-- A call of `complete` whose acknowledgement passes finds its recording neither quarantined nor
failed. -/
def FindsUnrejected (s : State ι) (e : Event ι) : Prop :=
  ∀ r, linking rt s e = some r → r.state.rejected = false

instance decidableFindsUnrejected (s : State ι) (e : Event ι) :
    Decidable (FindsUnrejected rt s e) :=
  decidable_of_iff ((linking rt s e).all fun r => !r.state.rejected) (by
    unfold FindsUnrejected
    cases linking rt s e <;> simp)

/-! ## What is remembered of a rejection -/

/-- A recording that has been rejected still is, or is linked. -/
def Aggregate.Kept (a : Aggregate) : Prop :=
  a.HasBeen rejected → a.current.rejected = true ∨ a.current = .odooLinked

theorem Aggregate.Kept.not_hasBeen {a : Aggregate} (kept : a.Kept) (stored : a.recording = some r)
    (completable : r.state.completable = true) : ¬a.HasBeen RecordingState.rejected := by
  intro been
  have now := kept been
  rw [current_of_stored stored] at now
  rcases now with rejected | linked
  · rw [not_completable_of_rejected rejected] at completable
    cases completable
  · rw [linked] at completable
    cases completable

theorem Aggregate.Kept.of_effect {read : Option ObjectHead} {waits : Option Upsert}
    (effect : Effect b uid read waits b') (kept : (b.aggregate uid).Kept) :
    (b'.aggregate uid).Kept := by
  cases effect with
  | kept => exact kept
  | reserved absent =>
    -- Nothing has been written of a recording that is not there.
    simp only [aggregate_move_self, Kept, hasBeen_move]
    rintro (been | uploading)
    · have now := kept been
      rw [current, absent] at now
      rcases now with rejected | linked
      · cases rejected
      · cases linked
    · cases uploading
  | rejected _ _ rejected | unverified _ _ _ _ rejected =>
    simp only [aggregate_move_self]
    exact fun _ => .inl rejected
  | received stored completable =>
    simp only [aggregate_move_self, Kept, hasBeen_move]
    rintro (been | uploaded)
    · exact absurd been (kept.not_hasBeen stored completable)
    · cases uploaded
  | verified stored completable =>
    simp only [aggregate_move_self, aggregate_own, Kept, hasBeen_move]
    rintro ((been | uploaded) | verified)
    · exact absurd been (kept.not_hasBeen stored completable)
    · cases uploaded
    · cases verified
  | noted stored code =>
    rw [aggregate_set_self]
    intro been
    have now := kept been
    rw [current_of_stored stored] at now
    exact now

theorem Effect.stays_rejected {read : Option ObjectHead} (effect : Effect b uid read waits b')
    (rejected : (b.aggregate uid).current.rejected = true) :
    (b'.aggregate uid).current.rejected = true := by
  cases effect with
  | kept => exact rejected
  | reserved absent =>
    rw [current, absent] at rejected
    cases rejected
  | rejected stored code again => simpa using again
  | received stored completable | unverified stored completable | verified stored completable =>
    rw [current_of_stored stored] at rejected
    rw [not_completable_of_rejected rejected] at completable
    cases completable
  | noted stored =>
    rw [current_of_stored stored] at rejected
    rw [aggregate_set_self]
    exact rejected

variable (rt) in
theorem stable_kept : (system rt (ι := ι)).Stable fun s =>
    ∀ uid, (s.service.books.aggregate uid).Kept :=
  stable_aggregates .of_effect fun _ _ _ _ _ => .inr rfl

def Tracked (s : State ι) : Prop :=
  (∀ uid, (s.service.books.aggregate uid).Recorded) ∧ ∀ uid, (s.service.books.aggregate uid).Kept

variable (rt) in
theorem stable_tracked : (system rt (ι := ι)).Stable Tracked := fun s e admitted tracked =>
  ⟨stable_recorded rt s e admitted tracked.1, stable_kept rt s e admitted tracked.2⟩

omit [DecidableEq ι] in
theorem tracked_initial : Tracked (initial ι) :=
  ⟨recorded_initial ι, fun _ been => by
    obtain ⟨_, member, _⟩ := been
    cases member⟩

def HasBeenRejected (uid : String) (s : State ι) : Prop :=
  (s.service.books.aggregate uid).HasBeen rejected

omit [DecidableEq ι] in
theorem Tracked.seen (tracked : Tracked s) (rejected : Rejected uid s) : HasBeenRejected uid s := by
  obtain ⟨r, stored, rejected⟩ := rejected
  refine (tracked.1 uid).hasBeen ?_ rfl
  rw [current_of_stored stored]
  exact rejected

theorem Tracked.new (admitted : (system rt).admits s e)
    (been : HasBeenRejected uid (step rt s e)) : HasBeenRejected uid s ∨
    Rejected uid (step rt s e) := by
  rcases hasBeen_of_step admitted rfl been with before | now
  · exact .inl before
  · refine .inr ?_
    cases stored : (step rt s e).service.recordings.find? uid with
    | none =>
      have absent : ((step rt s e).service.books.aggregate uid).recording = none := stored
      rw [current, absent] at now
      cases now
    | some r =>
      rw [current_of_stored (a := (step rt s e).service.books.aggregate uid) stored] at now
      exact ⟨r, stored, now⟩

/-! ## Rejections that last -/

def StaysRejected (s : State ι) : Prop := ∀ uid, HasBeenRejected uid s → Withheld uid s

omit [DecidableEq ι] in
theorem Tracked.withheld_iff (tracked : Tracked s) (been : HasBeenRejected uid s) :
    Withheld uid s ↔ (s.service.books.aggregate uid).current.rejected = true := by
  rw [Recordings.withheld_iff]
  constructor
  · intro unlinked
    rcases tracked.2 uid been with rejected | linked
    · exact rejected
    · cases stored : s.service.recordings.find? uid with
      | none =>
        have absent : (s.service.books.aggregate uid).recording = none := stored
        rw [current, absent] at linked
        cases linked
      | some r =>
        rw [current_of_stored (a := s.service.books.aggregate uid) stored] at linked
        exact absurd linked (unlinked r stored)
  · intro rejected r stored
    rw [current_of_stored (a := s.service.books.aggregate uid) stored] at rejected
    exact ne_odooLinked_of_rejected rejected

/-- A step of a run on which rejections have lasted so far goes on like this exactly if it does not
link a rejected recording. -/
theorem staysRejected_step_iff (admitted : (system rt).admits s e) (tracked : Tracked s)
    (stays : StaysRejected s) : StaysRejected (step rt s e) ↔ FindsUnrejected rt s e := by
  have tracked' := stable_tracked rt s e admitted tracked
  constructor
  · intro stays' r links
    obtain ⟨stored, ⟨now, event, -, books⟩, -⟩ := step_link links
    by_contra rejected
    rw [Bool.not_eq_false] at rejected
    have been : HasBeenRejected r.recordingUid s := tracked.seen ⟨r, stored, rejected⟩
    have withheld := (tracked'.withheld_iff (hasBeen_step admitted been)).mp
      (stays' _ (hasBeen_step admitted been))
    change ((step rt s e).service.books.aggregate r.recordingUid).current.rejected =
      true at withheld
    rw [books, aggregate_set_self] at withheld
    cases withheld
  · intro finds uid been'
    apply (tracked'.withheld_iff been').mpr
    rcases hasBeen_of_step admitted rfl been' with been | now
    · have before := (tracked.withheld_iff been).mp (stays uid been)
      cases links : linking rt s e with
      | none =>
        obtain ⟨touched, _, effect, -, -⟩ := effect_step links admitted
        change ((step rt s e).service.books.aggregate uid).current.rejected = true
        by_cases self : uid = touched
        · subst self
          exact effect.stays_rejected before
        · rwa [effect.aggregate_ne self]
      | some r =>
        obtain ⟨stored, ⟨now, _, -, books⟩, -⟩ := step_link links
        change ((step rt s e).service.books.aggregate uid).current.rejected = true
        rw [books, aggregate_set]
        split
        next self =>
          subst self
          rw [current_of_stored stored, finds r links] at before
          cases before
        next => exact before
    · exact now

variable (rt) in
/-- On any interleaving, once a recording is quarantined or failed it is withheld from then on,
exactly if no call of `complete` gets its acknowledgement while the recording is
quarantined or failed. -/
theorem rejections_last_iff {es : List (Event ι)} (run : (system rt).Run (initial ι) es) :
    (∀ uid, (system rt).Thereafter (Rejected uid) (Withheld uid) (initial ι) es) ↔
      (system rt).Along (FindsUnrejected rt) (initial ι) es := by
  have remembered (uid : String) : (system rt).Thereafter (Rejected uid) (Withheld uid)
    (initial ι) es ↔
        (system rt).Always (fun s => HasBeenRejected uid s → Withheld uid s) (initial ι) es := by
    refine System.thereafter_iff_always (stable_tracked rt) (fun _ tracked => tracked.seen)
      (fun _ _ admitted _ => hasBeen_step admitted) (fun _ _ admitted _ => Tracked.new admitted)
      tracked_initial ?_ run
    rintro ⟨_, member, _⟩
    cases member
  simp only [remembered, ← System.always_forall]
  refine (stable_tracked rt).always_iff (fun _ _ => staysRejected_step_iff) tracked_initial ?_ run
  rintro uid ⟨_, member, _⟩
  cases member

def reportedLate : List (Event Bool) :=
  [reserve, complete true, acknowledge true, .failure "REC-1" "broken" "key-1"]

theorem reportedLate_withheld : (system runtime).Thereafter (Rejected "REC-1") (Withheld "REC-1")
    (initial Bool) reportedLate :=
  (rejections_last_iff runtime (by decide +kernel)).mpr (by decide +kernel) "REC-1"

def reportedEarly : List (Event Bool) :=
  [reserve, complete true, .failure "REC-1" "broken" "key-1"]

/-- The recording has failed, is linked all the same, and can be played. -/
theorem failed_recording_played :
    let S := system runtime
    let es := reportedEarly ++ [acknowledge true]
    S.Run (initial Bool) es ∧ Rejected "REC-1" (S.after (initial Bool) reportedEarly) ∧
      (S.after (initial Bool) es).service.playbackUrl "REC-1" true 60 (fun _ => .ok "address") =
        .ok ("address", 60) ∧
      ¬ ∀ uid, S.Thereafter (Rejected uid) (Withheld uid) (initial Bool) es := by
  have rejected : Rejected "REC-1" ((system runtime).after (initial Bool) reportedEarly) := by
    decide +kernel
  have played : ((system runtime).after (initial Bool)
      (reportedEarly ++ [acknowledge true])).service.playbackUrl "REC-1" true 60
        (fun _ => .ok "address") = .ok ("address", 60) := by
    decide +kernel
  refine ⟨by decide +kernel, rejected, played, fun lasts => ?_⟩
  have withheld := (lasts "REC-1").after rejected
  rw [← System.after_append] at withheld
  exact withheld.2 _ _ _ _ played

end CodestraMiddleware.Recordings
