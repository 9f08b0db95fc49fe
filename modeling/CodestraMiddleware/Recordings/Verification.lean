import CodestraMiddleware.Recordings.Events

/-!
# Verified recordings

A recording gets its object version and the time of its verification together, and an object version
has one owner.
-/
namespace CodestraMiddleware.Recordings

open Transition Sample Function Aggregate Books

variable {rt : Runtime} {ι : Type} [DecidableEq ι]

/-! ## Calls one after another -/

def Event.isResume : Event ι → Bool
  | .resume .. => true
  | _ => false

variable (rt) in
/-- Nothing is called while a call of `complete` waits. -/
def sequential : System (State ι) (Event ι) where
  step := step rt
  admits s e := (system rt).admits s e ∧ (e.isResume = false → ∀ i, s.waiting i = none)

abbrev Heads := List (String × ObjectHead)

def Heads.last (heads : Heads) (uid : String) : Option ObjectHead :=
  (heads.find? fun entry => decide (entry.1 = uid)).map (·.2)

variable (rt) in
def observed : System (State ι × Heads) (Event ι) :=
  (sequential rt).recording fun s e => (headRead s e).toList

def Recording.object (r : Recording) := (r.identity, r.objectVersionId, r.verifiedAt)

/-- The recording has an object, and the last head that was read for it is the reserved one. -/
def Recording.Checked (r : Recording) (heads : Heads) : Prop :=
  r.objectVersionId.isSome = true ∧ r.verifiedAt.isSome = true ∧
    ∃ head, heads.last r.recordingUid = some head ∧ r.Fits head

variable {heads : Heads} {r r' : Recording}

theorem Recording.Checked.congr (checked : r.Checked heads) (same : r'.object = r.object) :
    r'.Checked heads := by
  simp only [object, Prod.mk.injEq] at same
  obtain ⟨identity, version, verifiedAt⟩ := same
  have uid : r'.recordingUid = r.recordingUid := by
    simp only [Recording.identity, Prod.mk.injEq] at identity
    exact identity.2.2.2.2.2.1
  obtain ⟨versioned, dated, head, last, fits⟩ := checked
  exact ⟨version ▸ versioned, verifiedAt ▸ dated, head, uid ▸ last, fits.congr identity⟩

def Books.Owned (b : Books) : Prop :=
  ∀ uid r version, (b.aggregate uid).recording = some r → r.objectVersionId = some version →
    b.owner version = some uid

/-- What an effect means for the object of its recording: the recording afterwards, and the owners
of the versions. -/
inductive Revises (b : Books) (uid : String) : Option ObjectHead → Option Upsert → Recording →
    (String → Option String) → Prop
  | same {r r' : Recording} {read : Option ObjectHead}
      (stored : (b.aggregate uid).recording = some r)
      (object : r'.object = r.object) (quiet : r'.state = .odooLinked → r.state = .odooLinked ∧
        read = none) :
      Revises b uid read none r' b.owner
  | first {r' : Recording} (absent : (b.aggregate uid).recording = none)
      (unversioned : r'.objectVersionId = none) (unlinked : r'.state ≠ .odooLinked) :
      Revises b uid none none r' b.owner
  | verified {r' : Recording} {head : ObjectHead} {waits : Option Upsert}
      (own : r'.recordingUid = uid)
      (fits : r'.Fits head) (version : r'.objectVersionId = some head.versionId)
      (dated : r'.verifiedAt.isSome = true) (unlinked : r'.state ≠ .odooLinked) :
      Revises b uid (some head) waits r' (update b.owner head.versionId (some uid))

variable {uid : String} {b' b : Books} {read : Option ObjectHead} {waits : Option Upsert}

theorem Effect.revises (effect : Effect b uid read waits b')
    (stored' : (b'.aggregate uid).recording = some r') : Revises b uid read waits r' b'.owner := by
  cases effect with
  | kept => exact .same stored' rfl fun linked => ⟨linked, rfl⟩
  | reserved absent fresh unversioned =>
    rw [aggregate_move_self] at stored'
    cases stored'
    exact .first absent unversioned nofun
  | rejected stored _ rejected | unverified stored _ _ _ rejected =>
    rw [aggregate_move_self] at stored'
    cases stored'
    exact .same stored rfl fun linked => absurd linked
      (RecordingState.ne_odooLinked_of_rejected rejected)
  | received stored =>
    rw [aggregate_move_self] at stored'
    cases stored'
    exact .same stored rfl nofun
  | verified _ _ fits =>
    rw [aggregate_move_self] at stored'
    cases stored'
    exact .verified rfl (fits.congr rfl) rfl rfl nofun
  | noted stored =>
    rw [aggregate_set_self] at stored'
    cases stored'
    exact .same stored rfl fun linked => ⟨linked, rfl⟩

theorem Effect.owner_eq (effect : Effect b uid read waits b')
    (owned : b.owner version = some uid') (other : uid' ≠ uid) : b'.owner version = some uid' := by
  cases effect with
  | @verified _ _ _ head _ free =>
    change update b.owner head.versionId _ version = some uid'
    rw [update_apply]
    split
    next taken =>
      subst taken
      exact absurd (free uid' owned) other
    next => exact owned
  | _ => exact owned

theorem Effect.waits_present (effect : Effect b uid read (some u) b') :
    u.recordingUid = uid ∧ (b'.aggregate uid).recording.isSome = true := by
  cases effect with
  | verified _ _ _ _ _ upsert => exact ⟨upsert u rfl, by simp⟩

theorem Effect.present (effect : Effect b uid read waits b')
    (present : (b.aggregate uid).recording.isSome = true) :
    (b'.aggregate uid).recording.isSome = true := by
  cases effect with
  | kept => exact present
  | _ => simp

/-- Versions have one owner; a call waits for a recording that is there; a recording that is linked,
or for which a call waits, has been verified with the last head read for it. -/
structure Sound (s : State ι × Heads) : Prop where
  owned : s.1.service.books.Owned
  present : ∀ i u, s.1.waiting i = some u →
    (s.1.service.books.aggregate u.recordingUid).recording.isSome = true
  checked : ∀ uid r, (s.1.service.books.aggregate uid).recording = some r →
    (r.state = .odooLinked ∨ ∃ i u, s.1.waiting i = some u ∧ u.recordingUid = uid) → r.Checked s.2

theorem Effect.owned (effect : Effect b uid read waits b') (owned : b.Owned) : b'.Owned := by
  intro uid' r' version stored' versioned
  by_cases self : uid' = uid
  · subst self
    generalize owners : b'.owner = owner
    have revises := effect.revises stored'
    rw [owners] at revises
    cases revises with
    | same stored object =>
      apply owned uid' _ version stored
      rw [← versioned]
      exact (congrArg (·.2.1) object).symm
    | first absent unversioned =>
      rw [unversioned] at versioned
      cases versioned
    | verified own fits version' =>
      rw [version', Option.some.injEq] at versioned
      rw [versioned, update_self]
  · rw [effect.aggregate_ne self] at stored'
    exact effect.owner_eq (owned uid' r' version stored' versioned) self

variable {s : State ι}

omit [DecidableEq ι] in
theorem uid_of_stored (stored : (s.service.books.aggregate uid).recording = some r) :
    r.recordingUid = uid :=
  s.service.recordings.find?_key stored

theorem Heads.last_cons_ne (other : entry.1 ≠ uid) :
    Heads.last (entry :: heads) uid = heads.last uid := by
  rw [Heads.last, List.find?_cons_of_neg (by simpa using other)]
  rfl

variable {e : Event ι}

omit [DecidableEq ι] in
theorem not_resume_of_headRead (read : headRead s e = some entry) : e.isResume = false := by
  cases e <;> first | rfl | cases read

theorem Sound.checked_self (sound : Sound (s, heads)) (admitted : (sequential rt).admits s e)
    (effect : Effect s.service.books uid ((headRead s e).map (·.2)) waits b')
    (about : ∀ entry, headRead s e = some entry → entry.1 = uid)
    (waiting : ∀ i u, (step rt s e).waiting i = some u → s.waiting i = some u ∨ waits = some u)
    (stored' : (b'.aggregate uid).recording = some r')
    (reason : r'.state = .odooLinked ∨ ∃ i u, (step rt s e).waiting i = some u ∧
      u.recordingUid = uid) :
    r'.Checked ((headRead s e).toList ++ heads) := by
  -- Where a call still waits, no other has begun.
  have unread {i : ι} {u : Upsert} (before : s.waiting i = some u) : headRead s e = none := by
    cases read : headRead s e with
    | none => rfl
    | some entry =>
      rw [admitted.2 (not_resume_of_headRead read) i] at before
      cases before
  have revises := effect.revises stored'
  generalize reads : (headRead s e).map (·.2) = read at revises
  generalize b'.owner = owner at revises
  cases revises with
  | @same r _ _ stored object quiet =>
    rcases reason with linked | ⟨i, u, waits', target⟩
    · obtain ⟨linked, none⟩ := quiet linked
      rw [none, Option.map_eq_none_iff] at reads
      rw [reads]
      exact (sound.checked uid r stored (.inl linked)).congr object
    · rcases waiting i u waits' with before | new
      · rw [unread before]
        exact (sound.checked uid r stored (.inr ⟨i, u, before, target⟩)).congr object
      · cases new
  | first absent _ unlinked =>
    rcases reason with linked | ⟨i, u, waits', target⟩
    · exact absurd linked unlinked
    · rcases waiting i u waits' with before | new
      · have present := sound.present i u before
        rw [target, absent] at present
        cases present
      · cases new
  | @verified _ _ _ own fits version dated _ =>
    obtain ⟨entry, read, rfl⟩ := Option.map_eq_some_iff.mp reads
    refine ⟨by rw [version]; rfl, dated, entry.2, ?_, fits⟩
    rw [read, own, ← about entry read]
    simp [Heads.last]

theorem sound_effect (admitted : (sequential rt).admits s e) (unlinked : linking rt s e = none)
    (sound : Sound (s, heads)) : Sound (step rt s e, (headRead s e).toList ++ heads) := by
  obtain ⟨uid, _, effect, about, waiting⟩ := effect_step unlinked admitted.1
  refine ⟨effect.owned sound.owned, ?_, ?_⟩
  · intro i u waits'
    by_cases self : u.recordingUid = uid
    · subst self
      rcases waiting i u waits' with before | rfl
      · exact effect.present (sound.present i u before)
      · exact effect.waits_present.2
    · rw [effect.aggregate_ne self]
      rcases waiting i u waits' with before | rfl
      · exact sound.present i u before
      · exact absurd effect.waits_present.1 self
  · intro uid' r' stored' reason
    by_cases self : uid' = uid
    · subst self
      exact sound.checked_self admitted effect about waiting stored' reason
    · -- Neither the recording nor the heads read for it have changed.
      rw [effect.aggregate_ne self] at stored'
      have checked : r'.Checked heads := by
        apply sound.checked uid' r' stored'
        rcases reason with linked | ⟨i, u, waits', target⟩
        · exact .inl linked
        · rcases waiting i u waits' with before | rfl
          · exact .inr ⟨i, u, before, target⟩
          · exact absurd (target.symm.trans effect.waits_present.1) self
      obtain ⟨versioned, dated, head, last, fits⟩ := checked
      refine ⟨versioned, dated, head, ?_, fits⟩
      cases read : headRead s e with
      | none => exact last
      | some entry =>
        have other : entry.1 ≠ r'.recordingUid := by
          rw [about entry read, uid_of_stored stored']
          exact Ne.symm self
        exact (Heads.last_cons_ne other).trans last

theorem sound_link (links : linking rt s e = some r) (sound : Sound (s, heads)) :
    Sound (step rt s e, heads) := by
  obtain ⟨stored, ⟨now, _, -, books⟩, i, u, waits, target, waiting⟩ := step_link links
  have waited {j : ι} {v : Upsert} (waits' : (step rt s e).waiting j = some v) :
      s.waiting j = some v := by
    rw [waiting, update_apply] at waits'
    split at waits'
    · cases waits'
    · exact waits'
  -- The link leaves the object of the recording alone.
  have row {uid : String} {r' : Recording}
    (stored' : ((step rt s e).service.books.aggregate uid).recording = some r') :
      ∃ old, (s.service.books.aggregate uid).recording = some old ∧ r'.object = old.object ∧
        (uid = r.recordingUid ∨ r' = old) := by
    rw [books, aggregate_set] at stored'
    split at stored'
    next self =>
      subst self
      cases stored'
      exact ⟨r, stored, rfl, .inl rfl⟩
    next => exact ⟨r', stored', rfl, .inr rfl⟩
  refine ⟨?_, ?_, ?_⟩
  · intro uid r' version stored' versioned
    obtain ⟨old, stored, object, -⟩ := row stored'
    have kept := sound.owned uid old version stored ((congrArg (·.2.1) object).symm.trans versioned)
    rw [books]
    exact kept
  · intro j v waits'
    have present := sound.present j v (waited waits')
    rw [books, aggregate_set]
    split
    · rfl
    · exact present
  · intro uid r' stored' reason
    obtain ⟨old, stored, object, self⟩ := row stored'
    refine (sound.checked uid old stored ?_).congr object
    rcases self with rfl | rfl
    · exact .inr ⟨i, u, waits, target⟩
    · rcases reason with linked | ⟨j, v, waits', target'⟩
      · exact .inl linked
      · exact .inr ⟨j, v, waited waits', target'⟩

variable (rt) in
theorem stable_sound : (observed rt (ι := ι)).Stable Sound := by
  rintro ⟨s, heads⟩ e admitted sound
  cases links : linking rt s e with
  | none => exact sound_effect admitted links sound
  | some r =>
    have unread : headRead s e = none := by
      cases e <;> first | rfl | cases links
    change Sound (step rt s e, (headRead s e).toList ++ heads)
    rw [unread]
    exact sound_link links sound

omit [DecidableEq ι] in
theorem sound_initial : Sound (State.initial ι, []) :=
  ⟨fun _ _ _ => nofun, fun _ _ => nofun, fun _ _ => nofun⟩

/-! ## Linked recordings -/

/-- The claims of the recordings on their objects, and their audit entries. -/
structure Accounted (s : State ι × Heads) : Prop where
  linked : ∀ uid r, s.1.service.recordings.find? uid = some r → r.state = .odooLinked →
    r.objectVersionId.isSome = true ∧ r.verifiedAt.isSome = true ∧ r.odooLinkedAt.isSome = true ∧
      ∃ head, s.2.last uid = some head ∧ r.Fits head
  exclusive : ∀ uid uid' r r' version, s.1.service.recordings.find? uid = some r →
    s.1.service.recordings.find? uid' = some r' → r.objectVersionId = some version →
      r'.objectVersionId = some version → uid = uid'
  audited : ∀ uid r, s.1.service.recordings.find? uid = some r →
    (s.1.service.trail uid).map (·.sequence) = List.range' 1 (s.1.service.trail uid).length ∧
    Trail.Leads .reservationCreated
        ((s.1.service.trail uid).map fun entry => (entry.fromState, entry.toState)) r.state

omit [DecidableEq ι] in
theorem Sound.accounted {s : State ι × Heads} (sound : Sound s)
    (recorded : ∀ uid, (s.1.service.books.aggregate uid).Recorded)
    (counted : ∀ uid, (s.1.service.books.aggregate uid).Counted) : Accounted s := by
  refine ⟨?_, ?_, ?_⟩
  · intro uid r stored linked
    obtain ⟨versioned, dated, head, last, fits⟩ := sound.checked uid r stored (.inl linked)
    have been : (s.1.service.books.aggregate uid).HasBeen RecordingState.linked := by
      refine (recorded uid).hasBeen ?_ rfl
      rw [current_of_stored stored, linked]
      rfl
    have known := (counted uid).known.mpr ((hasBeen_linked_iff _).mp been)
    rw [linkedAt_of_stored stored] at known
    rw [uid_of_stored stored] at last
    exact ⟨versioned, dated, known, head, last, fits⟩
  · intro uid uid' r r' version stored stored' versioned versioned'
    have owned := sound.owned uid r version stored versioned
    have owned' := sound.owned uid' r' version stored' versioned'
    exact Option.some.inj (owned.symm.trans owned')
  · intro uid r stored
    have leads := (recorded uid).leads
    rw [current_of_stored stored] at leads
    exact ⟨(recorded uid).numbered, leads⟩

variable (rt) in
/-- If calls come one after another, with whatever answers of the storage and of Odoo, a linked
recording is verified, by the last head read for it; object versions are exclusive; and audit
entries are numbered and lead to the state of the recording. -/
theorem linked_recordings_verified {es : List (Event ι)}
    (run : (observed rt).Run (State.initial ι, []) es) :
    (observed rt).Always Accounted (State.initial ι, []) es := by
  have stable : (observed rt (ι := ι)).Stable fun s => Sound s ∧
    (∀ uid, (s.1.service.books.aggregate uid).Recorded) ∧
        ∀ uid, (s.1.service.books.aggregate uid).Counted := by
    rintro s e admitted ⟨sound, recorded, counted⟩
    exact ⟨stable_sound rt s e admitted sound, stable_recorded rt s.1 e admitted.1 recorded,
      stable_counted rt s.1 e admitted.1 counted⟩
  refine stable.always (fun s inv => inv.1.accounted inv.2.1 inv.2.2) ?_ run
  exact ⟨sound_initial, recorded_initial ι, counted_initial⟩

/-- A recording that is reserved, completed and acknowledged is linked. -/
theorem acknowledged_recording_verified :
    let es : List (Event Bool) := [reserve, complete true, acknowledge true]
    ((((system runtime).after (State.initial Bool) es).service.recordings.find? "REC-1").map
        fun r => r.state) = some .odooLinked ∧
      (observed runtime).Always Accounted (State.initial Bool, []) es :=
  ⟨by decide +kernel, linked_recordings_verified runtime
    ⟨⟨by decide +kernel, fun _ => by decide +kernel⟩,
      ⟨by decide +kernel, fun _ => by decide +kernel⟩, ⟨trivial, nofun⟩, trivial⟩⟩

end CodestraMiddleware.Recordings
