import CodestraMiddleware.Foundations.Trail
import CodestraMiddleware.Recordings.Service

/-!
# What a step does to a recording

The books of the service are what it knows of each recording: its row, its audit entries, its
events, and the owners of the object versions. A step changes the books of one recording at most.
-/
namespace CodestraMiddleware.Recordings

open PythonValue (Value Dict)
open Function (update update_apply)
open Relational Transition

structure Aggregate where
  recording : Option Recording
  trail : List StateAudit
  events : List VerifiedEvent

structure Books where
  aggregate : String → Aggregate
  owner : String → Option String

def Service.books (s : Service) : Books where
  aggregate uid :=
    ⟨s.recordings.find? uid, s.trail uid, s.outbox.filter fun event =>
      decide (event.recordingUid = uid)⟩
  owner := s.objectVersions

namespace Aggregate

variable (a : Aggregate)

def move (r : Recording) (state : RecordingState) (reason : String) : Aggregate :=
  { a with
    recording := some { r with state },
    trail := a.trail ++ [⟨r.recordingUid, a.trail.length + 1, r.state, state, reason⟩] }

def link (r : Recording) (now : Int) (event : VerifiedEvent) : Aggregate :=
  { a.move { r with odooLinkedAt := some now } .odooLinked "odoo_acknowledged" with
    events := a.events ++ [event] }

section

variable (kind : RecordingState → Bool)

def HasBeen : Prop := ∃ entry ∈ a.trail, kind entry.toState = true

section

variable (r : Recording) (state : RecordingState) (reason : String)

@[simp] theorem hasBeen_move : (a.move r state reason).HasBeen kind ↔ a.HasBeen kind ∨
    kind state = true := by
  simp [HasBeen, move, or_and_right, exists_or]

@[simp] theorem recording_move :
    (a.move r state reason).recording = some { r with state } := rfl

@[simp] theorem events_move :
    (a.move r state reason).events = a.events := rfl

end

@[simp] theorem hasBeen_link (r : Recording) (now : Int) (event : VerifiedEvent) :
    (a.link r now event).HasBeen kind ↔ a.HasBeen kind ∨ kind .odooLinked = true :=
  hasBeen_move a kind _ _ _

end

end Aggregate

open Aggregate

namespace Books

variable (b : Books)

def set (uid : String) (a : Aggregate) : Books := { b with aggregate := update b.aggregate uid a }

def move (r : Recording) (state : RecordingState) (reason : String) : Books :=
  b.set r.recordingUid ((b.aggregate r.recordingUid).move r state reason)

def own (version uid : String) : Books := { b with owner := update b.owner version (some uid) }

theorem aggregate_set (uid uid' : String) (a : Aggregate) :
    (b.set uid a).aggregate uid' = if uid' = uid then a else b.aggregate uid' := by
  simp only [set, update_apply]

@[simp] theorem aggregate_set_self (uid : String) (a : Aggregate) :
    (b.set uid a).aggregate uid = a := by
  rw [aggregate_set, if_pos rfl]

theorem aggregate_set_ne (other : uid' ≠ uid) (a : Aggregate) :
    (b.set uid a).aggregate uid' = b.aggregate uid' := by
  rw [aggregate_set, if_neg other]

@[simp] theorem set_set (uid : String) (a a' : Aggregate) :
    (b.set uid a).set uid a' = b.set uid a' := by
  simp [set]

@[simp] theorem aggregate_move_self (r : Recording) (state : RecordingState) (reason : String) :
    (b.move r state reason).aggregate r.recordingUid = (b.aggregate r.recordingUid).move r
    state reason :=
  b.aggregate_set_self _ _

@[simp] theorem aggregate_own (version uid uid' : String) :
    (b.own version uid).aggregate uid' = b.aggregate uid' := rfl

end Books

open Books

namespace Service

variable (s : Service)

theorem books_eq_set {s s' : Service} (owners : s'.objectVersions = s.objectVersions)
    (self : s'.books.aggregate uid = a)
    (others : ∀ uid', uid' ≠ uid → s'.books.aggregate uid' = s.books.aggregate uid') :
    s'.books = s.books.set uid a := by
  have aggregates : s'.books.aggregate = update s.books.aggregate uid a := by
    funext uid'
    rw [update_apply]
    split
    next same =>
      subst same
      exact self
    next other => exact others uid' other
  calc s'.books = ⟨s'.books.aggregate, s'.objectVersions⟩ := rfl
    _ = s.books.set uid a := by rw [aggregates, owners]; rfl

@[simp] theorem books_transition (r : Recording) (state : RecordingState) (reason : String) :
    (s.transition r state reason).books = s.books.move r state reason := by
  refine books_eq_set rfl ?_ fun uid other => ?_
  · simp [books, transition, Aggregate.move, trail]
  · simp [books, transition, trail, other.symm]

theorem books_put (r : Recording) :
    { s with recordings := s.recordings.put r }.books =
      s.books.set r.recordingUid { s.books.aggregate r.recordingUid with recording := some r } := by
  refine books_eq_set rfl ?_ fun uid other => ?_
  · simp [books, trail]
  · simp [books, trail, other.symm]

theorem books_publish (event : VerifiedEvent) :
    { s with outbox := s.outbox ++ [event] }.books = s.books.set event.recordingUid
    { s.books.aggregate event.recordingUid with
        events := (s.books.aggregate event.recordingUid).events ++ [event] } := by
  refine books_eq_set rfl ?_ fun uid other => ?_
  · simp [books, trail]
  · simp [books, trail, other.symm]

end Service

/-! ## Steps that do not link -/

/-- What a step does to the recording `uid` unless it links it: the head that it reads, and the
upsert for which it then waits. -/
inductive Effect (b : Books) : String → Option ObjectHead → Option Upsert → Books → Prop
  | kept (uid : String) : Effect b uid none none b
  | reserved {r : Recording} (absent : (b.aggregate r.recordingUid).recording = none)
      (fresh : r.state = .reservationCreated) (unversioned : r.objectVersionId = none)
      (unverified : r.verifiedAt = none) (unlinked : r.odooLinkedAt = none) :
      Effect b r.recordingUid none none (b.move r .uploading "upload_authorized")
  -- A completion that conflicts with the reservation, or a failure: in any state.
  | rejected {r : Recording} (stored : (b.aggregate r.recordingUid).recording = some r)
      (code : Option String) {state : RecordingState} (rejected : state.rejected = true)
      (reason : String) :
      Effect b r.recordingUid none none (b.move { r with failureCode := code } state reason)
  -- The storage raised something that is not caught.
  | received {r : Recording} (stored : (b.aggregate r.recordingUid).recording = some r)
      (completable : r.state.completable = true) :
      Effect b r.recordingUid none none (b.move r .uploaded "completion_received")
  | unverified {r : Recording} (stored : (b.aggregate r.recordingUid).recording = some r)
      (completable : r.state.completable = true) (read : Option ObjectHead) (code : Option String)
      {state : RecordingState} (rejected : state.rejected = true) (reason : String) :
      Effect b r.recordingUid read none ((b.move r .uploaded "completion_received").move
        { r with state := .uploaded, failureCode := code } state reason)
  | verified {r : Recording} (stored : (b.aggregate r.recordingUid).recording = some r)
      (completable : r.state.completable = true) {head : ObjectHead} (fits : r.Fits head)
      (free : ∀ owner, b.owner head.versionId = some owner → owner = r.recordingUid) (now : Int)
      {waits : Option Upsert} (upsert : ∀ u, waits = some u → u.recordingUid = r.recordingUid) :
      Effect b r.recordingUid (some head) waits
        (((b.move r .uploaded "completion_received").own head.versionId r.recordingUid).move
          { r with
            state := .uploaded, objectVersionId := some head.versionId, verifiedAt := some now }
          .serverVerified "object_verified")
  -- The upsert failed.
  | noted {r : Recording} (stored : (b.aggregate r.recordingUid).recording = some r)
      (code : Option String) : Effect b r.recordingUid none none (b.set r.recordingUid
        { b.aggregate r.recordingUid with recording := some { r with failureCode := code } })

variable {b b' : Books} {uid : String} {read : Option ObjectHead} {waits : Option Upsert}

theorem Effect.aggregate_ne (effect : Effect b uid read waits b') (other : uid' ≠ uid) :
    b'.aggregate uid' = b.aggregate uid' := by
  cases effect with
  | kept => rfl
  | unverified | verified => exact (aggregate_set_ne _ other _).trans (b.aggregate_set_ne other _)
  | _ => exact b.aggregate_set_ne other _

variable {r : Recording}

namespace Service

variable (rt : Runtime) (s : Service)

theorem effect_reserve (p : Reservation) (object : String)
    (upload : Fallible (String × Int)) (absent : s.recordings.find? uid = none) :
    Effect s.books uid none none (s.reserve rt p uid object upload).1.books := by
  unfold reserve
  split
  next => exact .kept uid
  next =>
    split
    next => exact .kept uid
    next r made =>
      -- The entry of the key and the response are not in the books.
      have new : r.recordingUid = uid ∧ r.state = .reservationCreated ∧ r.objectVersionId = none ∧
          r.verifiedAt = none ∧ r.odooLinkedAt = none := by
        unfold Reservation.recording at made
        split at made
        · cases made
        · cases made
          exact ⟨rfl, rfl, rfl, rfl, rfl⟩
      obtain ⟨rfl, fresh, unversioned, unverified, unlinked⟩ := new
      have books : ({ s with
          recordings := s.recordings.put r,
          byIdempotency := update s.byIdempotency p.key (some r.recordingUid) }.transition r
            .uploading "upload_authorized").books = s.books.move r .uploading
            "upload_authorized" := by
        rw [books_transition]
        change Books.move { s with recordings := s.recordings.put r }.books _ _ _ = _
        rw [books_put, Books.move, set_set, aggregate_set_self]
        rfl
      have effect := Effect.reserved (b := s.books) absent fresh unversioned unverified unlinked
      rw [← books] at effect
      split
      · exact effect
      · exact effect

theorem effect_failure (uid code key : String) :
    Effect s.books uid none none (s.failure uid code key).1.books := by
  unfold failure
  split
  next => exact .kept uid
  next r found =>
    rw [get_eq_ok] at found
    obtain rfl := s.recordings.find?_key found
    split
    next => exact .kept _
    next =>
      split
      next => exact .kept _
      next =>
        have failed : RecordingState.failed.rejected = true := rfl
        have effect := Effect.rejected (b := s.books) found (some code) failed code
        rw [← books_transition] at effect
        exact effect

def readHead (uid : String) (payload : Dict) (answer : Fallible ObjectHead) : Option ObjectHead :=
  match s.recordings.find? uid with
  | none => none
  | some r =>
    if r.mismatchedCompletion payload = [] ∧ r.state.completable = true then answer.toOption
      else none

theorem effect_verify (stored : s.recordings.find? r.recordingUid = some r)
    (completable : r.state.completable = true) (answer : Fallible ObjectHead) (now : Int) :
    Effect s.books r.recordingUid answer.toOption
      ((s.transition r .uploaded "completion_received").verify rt { r with state := .uploaded }
        answer now).2.upsert?
      ((s.transition r .uploaded "completion_received").verify rt { r with state := .uploaded }
        answer now).1.books := by
  unfold verify
  split
  next exc =>
    split
    next =>
      simp only [books_transition]
      exact .unverified stored completable none r.failureCode rfl "object_head_failed"
    next =>
      rw [books_transition]
      exact .received stored completable
  next head =>
    split
    next =>
      simp only [books_transition]
      exact .unverified stored completable (some head) r.failureCode rfl "version_conflict"
    next free =>
      split
      next =>
        simp only [books_transition]
        exact .unverified stored completable (some head) (some "OBJECT_METADATA_MISMATCH") rfl _
      next agrees =>
        have fits : r.Fits head := (Recording.mismatches_eq_nil.mp (not_not.mp agrees)).congr rfl
        have unowned : ∀ owner, s.books.owner head.versionId = some owner →
            owner = r.recordingUid := by
          intro owner owned
          by_contra other
          apply free
          change (s.objectVersions head.versionId).any _ = true
          rw [show s.objectVersions head.versionId = some owner from owned]
          simpa using other
        dsimp only
        rw [books_transition]
        change Effect _ _ _ _ (move (own (transition s r .uploaded _).books _ _) _ _ _)
        rw [books_transition]
        refine .verified stored completable fits unowned now ?_
        intro u waits
        split at waits
        · cases waits
        · cases waits
          rfl

theorem effect_complete (uid : String) (payload : Dict) (answer : Fallible ObjectHead) (now : Int) :
    Effect s.books uid (s.readHead uid payload answer)
    (s.complete rt uid payload answer now).2.upsert?
      (s.complete rt uid payload answer now).1.books := by
  unfold complete readHead get
  cases found : s.recordings.find? uid with
  | none => exact .kept uid
  | some r =>
    obtain rfl := s.recordings.find?_key found
    dsimp only
    by_cases agrees : r.mismatchedCompletion payload = []
    · rw [if_neg (not_not.mpr agrees)]
      by_cases completable : r.state.completable = true
      · have unlinked : ¬(r.state = .odooLinked ∧ r.objectVersionId.isSome = true) := by
          rintro ⟨linked, -⟩
          rw [linked] at completable
          cases completable
        have admissible : ¬r.state.completable = false := by simp [completable]
        rw [if_neg unlinked, if_neg admissible, if_pos ⟨agrees, completable⟩]
        exact s.effect_verify rt found completable answer now
      · rw [if_neg fun both => completable both.2]
        split
        next => exact .kept _
        next =>
          rw [if_pos (Bool.not_eq_true _ ▸ completable)]
          exact .kept _
    · rw [if_pos agrees, if_neg fun both => agrees both.1]
      rw [books_transition]
      exact .rejected found r.failureCode rfl _

theorem effect_resume (u : Upsert) (answer : Fallible Dict) (now occurredAt : Int)
    (eventId : String)
    (refused : ∀ r, s.recordings.find? u.recordingUid = some r →
      ∀ acknowledgement, answer = .ok acknowledgement →
        (r.checkAcknowledgement rt u.retentionUntil acknowledgement).toBool = false) :
    Effect s.books u.recordingUid none none
    (s.resume rt u answer now occurredAt eventId).1.books := by
  unfold resume
  split
  next => exact .kept _
  next r found =>
    rw [get_eq_ok] at found
    have uid := s.recordings.find?_key found
    split
    next => exact .kept _
    next =>
      rw [← uid] at found ⊢
      have effect := Effect.noted (b := s.books) found (some "ODOO_UPSERT_FAILED")
      rw [← books_put s { r with failureCode := some "ODOO_UPSERT_FAILED" }] at effect
      exact effect
    next acknowledgement =>
      split
      next => exact .kept _
      next passes =>
        have fails := refused r found acknowledgement rfl
        rw [passes] at fails
        cases fails

end Service

section Steps

variable (rt : Runtime) {ι : Type} [DecidableEq ι]

/-- The recording that a step links: a call of `complete` gets an acknowledgement
that passes its checks. -/
def linking (s : State ι) : Event ι → Option Recording
  | .resume i (.ok acknowledgement) _ _ _ =>
    (s.waiting i).bind fun upsert =>
      (s.service.recordings.find? upsert.recordingUid).filter fun r =>
        (r.checkAcknowledgement rt upsert.retentionUntil acknowledgement).toBool
  | _ => none

def headRead (s : State ι) : Event ι → Option (String × ObjectHead)
  | .complete _ uid payload answer _ => (s.service.readHead uid payload answer).map (uid, ·)
  | _ => none

variable {rt}

variable {e : Event ι}

theorem step_link (links : linking rt s e = some r) :
    (s.service.books.aggregate r.recordingUid).recording = some r ∧
      (∃ now event, event.recordingUid = r.recordingUid ∧ (step rt s e).service.books =
        s.service.books.set r.recordingUid
        ((s.service.books.aggregate r.recordingUid).link r now event)) ∧
      ∃ i u, s.waiting i = some u ∧ u.recordingUid = r.recordingUid ∧
        (step rt s e).waiting = update s.waiting i none := by
  unfold linking at links
  split at links
  next i acknowledgement now occurredAt eventId =>
    obtain ⟨u, waits, accepted⟩ := Option.bind_eq_some_iff.mp links
    obtain ⟨found, passes⟩ := Option.filter_eq_some_iff.mp accepted
    have uid := s.service.recordings.find?_key found
    have passed : r.checkAcknowledgement rt u.retentionUntil acknowledgement = .ok () := by
      cases outcome : r.checkAcknowledgement rt u.retentionUntil acknowledgement with
      | ok => rfl
      | error exc =>
        rw [outcome] at passes
        cases passes
    rw [← uid] at found
    refine ⟨found, ⟨now, { r with odooLinkedAt := some now, state := .odooLinked }.n8nProjection
      eventId (rt.isoformat occurredAt), rfl, ?_⟩, i, u, waits, uid.symm, ?_⟩
    · simp only [step, waits, Service.resume, Service.get, ← uid, found, passed]
      rw [Service.books_publish, Service.books_transition]
      simp only [Books.move, Recording.n8nProjection, set_set, aggregate_set_self]
      rfl
    · simp only [step, waits]
  next => cases links

theorem effect_step (unlinked : linking rt s e = none) (admitted : (system rt).admits s e) :
    ∃ uid waits, Effect s.service.books uid ((headRead s e).map (·.2)) waits
        (step rt s e).service.books ∧ (∀ entry, headRead s e = some entry → entry.1 = uid) ∧
      ∀ i u, (step rt s e).waiting i = some u → s.waiting i = some u ∨ waits = some u := by
  cases e with
  | reserve payload uid object upload =>
    exact ⟨uid, none, s.service.effect_reserve rt payload object upload admitted, nofun,
      fun _ _ => .inl⟩
  | complete i uid payload answer now =>
    refine ⟨uid, (s.service.complete rt uid payload answer now).2.upsert?, ?_, ?_, ?_⟩
    · have read : (headRead s (.complete i uid payload answer now)).map (·.2) = s.service.readHead
          uid payload answer := by
        rw [headRead, Option.map_map]
        exact Option.map_id'
      rw [read]
      exact s.service.effect_complete rt uid payload answer now
    · intro entry read
      obtain ⟨_, -, rfl⟩ := Option.map_eq_some_iff.mp read
      rfl
    · intro j u waits
      simp only [step, update_apply] at waits
      split at waits
      · exact .inr waits
      · exact .inl waits
  | resume i answer now occurredAt eventId =>
    cases waiting : s.waiting i with
    | none =>
      have same : step rt s (.resume i answer now occurredAt eventId) = s := by
        simp only [step, waiting]
      rw [same]
      exact ⟨"", none, .kept "", nofun, fun _ _ => .inl⟩
    | some u =>
      have left : ∀ j u', (step rt s (.resume i answer now occurredAt eventId)).waiting
          j = some u' → s.waiting j = some u' := by
        intro j u' waits
        simp only [step, waiting, update_apply] at waits
        split at waits
        · cases waits
        · exact waits
      refine ⟨u.recordingUid, none, ?_, nofun, fun j u' waits => .inl (left j u' waits)⟩
      simp only [step, waiting, headRead, Option.map_none]
      exact s.service.effect_resume rt u answer now occurredAt eventId
          fun r found acknowledgement ok => by
        simpa [linking, waiting, ok, found] using unlinked
  | failure uid code key =>
    exact ⟨uid, none, s.service.effect_failure uid code key, nofun, fun _ _ => .inl⟩
  | playbackUrl => exact ⟨"", none, .kept "", nofun, fun _ _ => .inl⟩

/-- What holds of the books of a recording before and after every effect and every link holds of all
recordings before and after every step. -/
theorem step_aggregates {R : Aggregate → Aggregate → Prop} (same : ∀ a, R a a)
    (effect : ∀ {b uid read waits b'}, Effect b uid read waits b' → R (b.aggregate uid)
      (b'.aggregate uid))
    (link : ∀ {a : Aggregate} {r : Recording}, a.recording = some r →
      ∀ now event, R a (a.link r now event))
    (admitted : (system rt).admits s e) (uid : String) :
    R (s.service.books.aggregate uid) ((step rt s e).service.books.aggregate uid) := by
  cases links : linking rt s e with
  | none =>
    obtain ⟨touched, _, one, -, -⟩ := effect_step links admitted
    by_cases self : uid = touched
    · subst self
      exact effect one
    · rw [one.aggregate_ne self]
      exact same _
  | some r =>
    obtain ⟨stored, ⟨now, event, -, books⟩, -⟩ := step_link links
    rw [books, aggregate_set]
    split
    next self =>
      subst self
      exact link stored now event
    next => exact same _

theorem stable_aggregates {P : Aggregate → Prop}
    (effect : ∀ {b uid read waits b'}, Effect b uid read waits b' → P (b.aggregate uid) →
      P (b'.aggregate uid))
    (link : ∀ {a : Aggregate} {r : Recording}, a.recording = some r → ∀ now event, P a →
      P (a.link r now event)) :
    (system rt (ι := ι)).Stable fun s => ∀ uid, P (s.service.books.aggregate uid) :=
  fun _ _ admitted before uid =>
    step_aggregates (R := fun a a' => P a → P a') (fun _ => id) effect link admitted uid
      (before uid)

end Steps

/-! ## Audit trails -/

variable {kind : RecordingState → Bool}

namespace Aggregate

def current (a : Aggregate) : RecordingState := (a.recording.map (·.state)).getD .reservationCreated

/-- The entries are numbered from 1 and lead to the state of the recording. -/
structure Recorded (a : Aggregate) : Prop where
  numbered : a.trail.map (·.sequence) = List.range' 1 a.trail.length
  leads : Trail.Leads .reservationCreated
    (a.trail.map fun entry => (entry.fromState, entry.toState)) a.current

theorem current_of_stored {a : Aggregate} (stored : a.recording = some r) :
    a.current = r.state := by
  rw [current, stored]
  rfl

@[simp] theorem current_move (a : Aggregate) (r : Recording) (state : RecordingState)
    (reason : String) : (a.move r state reason).current = state := rfl

theorem Recorded.move {a : Aggregate} (recorded : a.Recorded) (same : r.state = a.current)
    (state : RecordingState) (reason : String) : (a.move r state reason).Recorded := by
  constructor
  · simp [Aggregate.move, recorded.numbered, List.range'_concat, Nat.add_comm]
  · simp only [Aggregate.move, List.map_append, List.map_cons, List.map_nil,
      Trail.leads_concat, same]
    exact ⟨recorded.leads, rfl⟩

theorem Recorded.of_effect (effect : Effect b uid read waits b')
    (recorded : (b.aggregate uid).Recorded) : (b'.aggregate uid).Recorded := by
  cases effect with
  | kept => exact recorded
  | reserved absent fresh =>
    simp only [aggregate_move_self]
    refine recorded.move ?_ _ _
    rw [fresh, current, absent]
    rfl
  | rejected stored | received stored =>
    simp only [aggregate_move_self]
    refine recorded.move ?_ _ _
    exact (current_of_stored stored).symm
  | unverified stored | verified stored =>
    simp only [aggregate_move_self, aggregate_own]
    refine Recorded.move (recorded.move ?_ _ _) ?_ _ _
    · exact (current_of_stored stored).symm
    · rfl
  | noted stored =>
    rw [aggregate_set_self]
    refine ⟨recorded.numbered, ?_⟩
    have leads := recorded.leads
    rw [current_of_stored stored] at leads
    exact leads

theorem Recorded.hasBeen {a : Aggregate} (recorded : a.Recorded) (is : kind a.current = true)
    (later : kind .reservationCreated = false) : a.HasBeen kind := by
  have moved : RecordingState.reservationCreated ≠ a.current := by
    intro same
    rw [← same, later] at is
    cases is
  obtain ⟨_, member⟩ := recorded.leads.mem_of_ne moved
  obtain ⟨entry, member, same⟩ := List.mem_map.mp member
  have arrived : entry.toState = a.current := (Prod.mk.inj same).2
  exact ⟨entry, member, by rw [arrived, is]⟩

end Aggregate

theorem Effect.hasBeen_mono (effect : Effect b uid read waits b')
    (been : (b.aggregate uid).HasBeen kind) : (b'.aggregate uid).HasBeen kind := by
  cases effect with
  | kept | noted => simpa [HasBeen] using been
  | _ => simp [been]

theorem Effect.hasBeen_new (effect : Effect b uid read waits b') (passing : kind .uploaded = false)
    (been : (b'.aggregate uid).HasBeen kind) : (b.aggregate uid).HasBeen kind ∨
    kind (b'.aggregate uid).current = true := by
  cases effect with
  | kept => exact .inl been
  | noted => exact .inl (by simpa [HasBeen] using been)
  | unverified | verified => simpa [passing] using been
  | _ => simpa using been

variable {rt : Runtime} {ι : Type} [DecidableEq ι]

theorem hasBeen_step {s : State ι} (admitted : (system rt).admits s e)
    (been : (s.service.books.aggregate uid).HasBeen kind) :
    ((step rt s e).service.books.aggregate uid).HasBeen kind :=
  step_aggregates (R := fun a a' => a.HasBeen kind → a'.HasBeen kind) (fun _ => id)
    (fun effect been => effect.hasBeen_mono been)
    (fun _ now event been => (hasBeen_link _ kind _ now event).mpr (.inl been)) admitted uid been

theorem hasBeen_of_step {s : State ι} (admitted : (system rt).admits s e)
    (passing : kind .uploaded = false)
    (been : ((step rt s e).service.books.aggregate uid).HasBeen kind) :
    (s.service.books.aggregate uid).HasBeen kind ∨
    kind ((step rt s e).service.books.aggregate uid).current = true :=
  step_aggregates (R := fun a a' => a'.HasBeen kind → a.HasBeen kind ∨ kind a'.current = true)
    (fun _ => .inl) (fun effect => effect.hasBeen_new passing)
    (fun _ now event => (hasBeen_link _ kind _ now event).mp) admitted uid been

variable (rt) in
theorem stable_recorded : (system rt (ι := ι)).Stable fun s =>
    ∀ uid, (s.service.books.aggregate uid).Recorded :=
  stable_aggregates .of_effect fun {_ r} stored now _ recorded =>
    have moved := recorded.move (r := { r with odooLinkedAt := some now })
      (current_of_stored stored).symm .odooLinked "odoo_acknowledged"
    ⟨moved.numbered, moved.leads⟩

theorem recorded_initial (ι : Type) (uid : String) :
    ((State.initial ι).service.books.aggregate uid).Recorded := ⟨rfl, rfl⟩

end CodestraMiddleware.Recordings
