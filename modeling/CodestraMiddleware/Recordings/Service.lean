import CodestraMiddleware.Foundations.Run
import CodestraMiddleware.Foundations.Table
import CodestraMiddleware.Recordings.Domain

/-!
# The recording service

`recording/service.py`. The state of the service is its dicts, its audit and its outbox. A call of
`complete` is cut where it waits for Odoo: `complete` is what it does before, `resume` what it does
with the answer.
-/
namespace CodestraMiddleware.Recordings

open PythonValue (Value Dict)
open Function (update)
open Relational Transition

structure Service where
  recordings : Table Recording.recordingUid
  byIdempotency : String × String → Option String
  reservationResponses : String → Option ReservationResponse
  objectVersions : String → Option String
  failureResults : String × String → Option Ack
  audit : List StateAudit
  outbox : List VerifiedEvent

def Service.empty : Service :=
  ⟨.empty _, fun _ => none, fun _ => none, fun _ => none, fun _ => none, [], []⟩

structure Reservation where
  (idempotencyKey environment campaignKey vicidialCallId sha256 : String)
  fileSizeBytes : Int
  (format retentionClass vicidialRecordingId asteriskUniqueid agentKey startedAt : String)
  durationSeconds : BitVec 64
  codec : String
  (channels sampleRateHz : Int)

def Reservation.key (p : Reservation) : String × String := (p.environment, p.idempotencyKey)

def Reservation.recording (p : Reservation) (uid object : String) : Fallible Recording :=
  match contentTypeOf p.format with
  | none => .error (.keyError p.format)
  | some contentType => .ok {
      recordingUid := uid
      environment := p.environment
      campaignKey := p.campaignKey
      callUid := p.vicidialCallId
      idempotencyKey := p.idempotencyKey
      sha256 := p.sha256
      fileSizeBytes := p.fileSizeBytes
      contentType
      opaqueObjectIdentifier := object
      retentionClass := p.retentionClass
      vicidialRecordingId := p.vicidialRecordingId
      asteriskUniqueid := p.asteriskUniqueid
      agentKey := p.agentKey
      startedAt := p.startedAt
      durationSeconds := p.durationSeconds
      format := p.format
      codec := p.codec
      channels := p.channels
      sampleRateHz := p.sampleRateHz }

structure Upsert where
  (recordingUid idempotencyKey : String)
  metadata : List (String × Value)
  retentionUntil : Option String

inductive Progress where
  | returns (ack : Ack)
  | raises (exc : Exc)
  | waits (upsert : Upsert)

namespace Service

variable (rt : Runtime) (s : Service)

def get (uid : String) : Fallible Recording :=
  match s.recordings.find? uid with
  | some r => .ok r
  | none => .error (.notFound uid)

def trail (uid : String) : List StateAudit := s.audit.filter fun a => decide (a.recordingUid = uid)

/-- `_transition`, which also writes what has been assigned to the other fields of the recording. -/
def transition (r : Recording) (state : RecordingState) (reason : String) : Service :=
  { s with
    recordings := s.recordings.put { r with state },
    audit := s.audit ++ [⟨r.recordingUid, (s.trail r.recordingUid).length + 1, r.state, state,
      reason⟩] }

def reserve (p : Reservation) (uid object : String) (upload : Fallible (String × Int)) :
    Service × Fallible ReservationResponse :=
  match s.byIdempotency p.key with
  | some existing =>
    (s, match s.reservationResponses existing with
      | some response => .ok response
      -- The storage failed when the recording was reserved.
      | none => .error (.keyError existing))
  | none =>
    match p.recording uid object with
    | .error exc => (s, .error exc)
    | .ok r =>
      let stored : Service :=
        { s with
          recordings := s.recordings.put r,
          byIdempotency := update s.byIdempotency p.key (some uid) }
      let s' := stored.transition r .uploading "upload_authorized"
      match upload with
      | .error exc => (s', .error exc)
      | .ok (url, expires) =>
        let response : ReservationResponse :=
          ⟨uid, url, rt.isoformat expires, r.contentType, r.opaqueObjectIdentifier⟩
        ({ s' with reservationResponses := update s'.reservationResponses uid (some response) },
          .ok response)

/-- The part of `complete` from the head of the object on; `r` is the recording
once it is `UPLOADED`. -/
def verify (r : Recording) (answer : Fallible ObjectHead) (now : Int) : Service × Progress :=
  match answer with
  | .error exc =>
    if exc.headFailed then
      (s.transition r .failed "object_head_failed", .raises (.conflict "object unavailable"))
    else (s, .raises exc)
  | .ok head =>
    if ((s.objectVersions head.versionId).any fun owner => decide (owner ≠ r.recordingUid)) =
        true then
      (s.transition r .quarantined "version_conflict",
        .raises (.conflict "object version already belongs to another recording"))
    else if r.mismatches head ≠ [] then
      (s.transition { r with failureCode := some "OBJECT_METADATA_MISMATCH" } .quarantined
          (",".intercalate (r.mismatches head)), .raises (.conflict "object verification mismatch"))
    else
      let verified := { r with objectVersionId := some head.versionId, verifiedAt := some now }
      let s' := { s with
        objectVersions := update s.objectVersions head.versionId (some r.recordingUid) }
      (s'.transition verified .serverVerified "object_verified",
          match verified.retentionUntil now with
        | .error exc => .raises exc
        | .ok ending =>
          let retentionUntil := ending.map rt.isoformat
          .waits ⟨r.recordingUid, r.idempotencyKey, verified.metadata head.versionId retentionUntil,
            retentionUntil⟩)

def complete (uid : String) (payload : Dict) (answer : Fallible ObjectHead) (now : Int) :
    Service × Progress :=
  match s.get uid with
  | .error exc => (s, .raises exc)
  | .ok r =>
    if r.mismatchedCompletion payload ≠ [] then
      (s.transition r .quarantined ("completion:" ++
        ",".intercalate (r.mismatchedCompletion payload)),
        .raises (.conflict "completion contract conflicts with reservation"))
    else if r.state = .odooLinked ∧ r.objectVersionId.isSome = true then (s, .returns (r.ack true))
    else if r.state.completable = false then
      (s, .raises (.conflict "completion conflicts with recording state"))
    else
      (s.transition r .uploaded "completion_received").verify rt
        { r with state := .uploaded } answer now

/-- `complete` after the upsert; the recording may have changed meanwhile. -/
def resume (u : Upsert) (answer : Fallible Dict) (now occurredAt : Int) (eventId : String) :
    Service × Fallible Ack :=
  match s.get u.recordingUid with
  -- The call holds the recording itself, and none is ever removed.
  | .error exc => (s, .error exc)
  | .ok r =>
    match answer with
    | .error .cancelled => (s, .error .cancelled)
    | .error exc =>
      ({ s with recordings := s.recordings.put { r with
        failureCode := some "ODOO_UPSERT_FAILED" } }, .error exc)
    | .ok acknowledgement =>
      match r.checkAcknowledgement rt u.retentionUntil acknowledgement with
      | .error exc => (s, .error exc)
      | .ok _ =>
        let linked := { r with odooLinkedAt := some now }
        let s' := s.transition linked .odooLinked "odoo_acknowledged"
        let linked := { linked with state := .odooLinked }
        ({ s' with
          outbox := s'.outbox ++ [linked.n8nProjection eventId (rt.isoformat occurredAt)] },
          .ok (linked.ack false))

def failure (uid code key : String) : Service × Fallible Ack :=
  match s.get uid with
  | .error exc => (s, .error exc)
  | .ok r =>
    match s.failureResults (uid, key) with
    | some result => (s, .ok { result with duplicate := true })
    | none =>
      if key = "" ∨ key ≠ r.idempotencyKey then
        (s, .error (.conflict "failure idempotency binding mismatch"))
      else
        let failed := { r with failureCode := some code }
        let s' := s.transition failed .failed code
        let result := { failed with state := .failed }.ack false
        ({ s' with failureResults := update s'.failureResults (uid, key) (some result) },
          .ok result)

/-- The address and how long it is good for; `presigned` is the answer of the storage. -/
def playbackUrl (uid : String) (scopeAuthorized : Bool) (ttlSeconds : Int)
    (presigned : Int → Fallible String) : Fallible (String × Int) := do
  let r ← s.get uid
  Raising.check (scopeAuthorized = true) (.permission "playback scope denied")
  Raising.check (r.state = .odooLinked ∧ r.objectVersionId.any
    (fun version => decide (version ≠ "")) = true ∧
    r.legalHold = false) (.permission "recording is not playable")
  let url ← presigned (min ttlSeconds 120)
  return (url, min ttlSeconds 120)

theorem get_eq_ok {s : Service} : s.get uid = .ok r ↔ s.recordings.find? uid = some r := by
  unfold get
  split <;> simp_all

theorem linked_of_playbackUrl {s : Service} {ttlSeconds : Int}
    (ok : s.playbackUrl uid scopeAuthorized ttlSeconds presigned = .ok answer) :
    ∃ r, s.recordings.find? uid = some r ∧ r.state = .odooLinked := by
  obtain ⟨r, found, ok⟩ := Raising.bind_eq_ok.mp ok
  obtain ⟨_, -, ok⟩ := Raising.bind_eq_ok.mp ok
  obtain ⟨_, playable, -⟩ := Raising.bind_eq_ok.mp ok
  exact ⟨r, get_eq_ok.mp found, (Raising.check_eq_ok.mp playable).1⟩

end Service

structure State (ι : Type) where
  service : Service
  -- The calls of `complete` that wait for Odoo.
  waiting : ι → Option Upsert

def State.initial (ι : Type) : State ι := ⟨.empty, fun _ => none⟩

inductive Event (ι : Type) where
  | reserve (payload : Reservation) (uid object : String) (upload : Fallible (String × Int))
  | complete (i : ι) (uid : String) (payload : Dict) (answer : Fallible ObjectHead) (now : Int)
  | resume (i : ι) (answer : Fallible Dict) (now occurredAt : Int) (eventId : String)
  | failure (uid code key : String)
  | playbackUrl (uid : String) (scopeAuthorized : Bool) (ttlSeconds : Int)
      (presigned : Int → Fallible String)

def Progress.upsert? : Progress → Option Upsert
  | .waits upsert => some upsert
  | _ => none

section Runs

variable (rt : Runtime) {ι : Type} [DecidableEq ι]

def step (s : State ι) : Event ι → State ι
  | .reserve payload uid object upload =>
    { s with service := (s.service.reserve rt payload uid object upload).1 }
  | .complete i uid payload answer now =>
    let (service, progress) := s.service.complete rt uid payload answer now
    ⟨service, update s.waiting i progress.upsert?⟩
  | .resume i answer now occurredAt eventId =>
    match s.waiting i with
    | none => s
    | some upsert =>
      ⟨(s.service.resume rt upsert answer now occurredAt eventId).1, update s.waiting i none⟩
  | .failure uid code key => { s with service := (s.service.failure uid code key).1 }
  | .playbackUrl .. => s

def system : System (State ι) (Event ι) where
  step := step rt
  admits s e :=
    match e with
    | .reserve _ uid _ _ => s.service.recordings.find? uid = none
    | .complete i .. => s.waiting i = none
    | _ => True

instance decidableAdmits (s : State ι) (e : Event ι) : Decidable ((system rt).admits s e) :=
  match e with
  | .reserve _ uid _ _ => inferInstanceAs (Decidable (s.service.recordings.find? uid = none))
  | .complete i .. => inferInstanceAs (Decidable (s.waiting i = none))
  | .resume .. | .failure .. | .playbackUrl .. => isTrue trivial

instance decidableRun (s : State ι) (es : List (Event ι)) : Decidable ((system rt).Run s es) :=
  (system rt).decidableAlong _ s es

end Runs

namespace Sample

def runtime : Runtime where
  texts := ⟨fun _ => "", fun _ => ""⟩
  isoformat _ := "2026-01-01T00:00:00+00:00"
  fromisoformat _ := some (0, true)

def reservation (environment : String) : Reservation where
  idempotencyKey := "key-1"
  environment
  campaignKey := "autumn"
  vicidialCallId := "call-1"
  sha256 := "digest"
  fileSizeBytes := 1024
  format := "mp3"
  retentionClass := "standard"
  vicidialRecordingId := "7"
  asteriskUniqueid := "unique-1"
  agentKey := "agent-1"
  startedAt := "2026-01-01T00:00:00+00:00"
  durationSeconds := 0
  codec := "mp3"
  channels := 1
  sampleRateHz := 8000

def completion : Dict where
  entries := [("recording_uid", .str "REC-1"), ("idempotency_key", .str "key-1"),
    ("environment", .str "staging"), ("campaign_key", .str "autumn"), ("sha256", .str "digest"),
    ("file_size_bytes", .int 1024), ("format", .str "mp3"), ("duration_seconds", .float 0)]
  wellFormed := by decide

def head : ObjectHead where
  sizeBytes := 1024
  contentType := "audio/mpeg"
  checksumSha256 := "digest"
  versionId := "version-1"
  metadata
    | "environment" => some "staging"
    | "campaign_key" => some "autumn"
    | "recording_uid" => some "REC-1"
    | "idempotency_key" => some "key-1"
    | _ => none

def acknowledgement : Dict where
  entries := [("contract_version", .str "1.0"), ("recording_uid", .str "REC-1"),
    ("odoo_record_id", .int 1),
    ("call_link_status", .str "linked"), ("lead_link_status", .str "not_present"),
    ("campaign_link_status", .str "linked"), ("agent_link_status", .str "linked"),
    ("storage_status", .str "verified"), ("retention_class", .str "standard"),
    ("retention_until", .str "2026-01-01T00:00:00+00:00"), ("legal_hold", .bool false),
    ("updated_at", .str "2026-01-01T00:00:00+00:00")]
  wellFormed := by decide

def reserve : Event Bool := .reserve (reservation "staging") "REC-1" "object-1"
    (.ok ("upload", 300))

def complete (i : Bool) : Event Bool := .complete i "REC-1" completion (.ok head) 0

def acknowledge (i : Bool) : Event Bool := .resume i (.ok acknowledgement) 1 1 "event"

end Sample

open Sample

/-! ## Reservations under one key

A key that is in use is answered with the response stored for it, whatever the metadata, and the key
is written before the storage is asked. -/

structure ReserveCall where
  payload : Reservation
  (uid object : String)
  upload : Fallible (String × Int)

section Reserves

variable (rt : Runtime) {s : Service} {c : ReserveCall}

def Service.reserved (s : Service) (c : ReserveCall) : Service × Fallible ReservationResponse :=
  s.reserve rt c.payload c.uid c.object c.upload

def reserves (s : Service) : List ReserveCall → List (ReserveCall × Fallible ReservationResponse)
  | [] => []
  | c :: cs => (c, (s.reserved rt c).2) :: reserves (s.reserved rt c).1 cs

def afterReserves (s : Service) : List ReserveCall → Service :=
  List.foldl (fun s c => (s.reserved rt c).1) s

/-- The call puts its key into use: its format is known, and no call before it has done so. -/
def ReserveCall.First (c : ReserveCall) (before : List ReserveCall) : Prop :=
  (contentTypeOf c.payload.format).isSome ∧
    ∀ c' ∈ before, c'.payload.key = c.payload.key → contentTypeOf c'.payload.format = none

/-- What a call owes after one that has put its key into use: for the same metadata the earlier
reservation, or some reservation if the storage failed then and works now; for
other metadata a rejection. -/
structure Owed (c : ReserveCall) (response : Fallible ReservationResponse)
    (e : ReserveCall × Fallible ReservationResponse) : Prop where
  repeated : e.1.payload = c.payload → ∀ earlier, response = .ok earlier → e.2 = .ok earlier
  recovered : e.1.payload = c.payload → ∀ exc, response = .error exc →
    ∀ answer, e.1.upload = .ok answer → ∃ later, e.2 = .ok later
  rejected : e.1.payload ≠ c.payload → ∃ exc, e.2 = .error exc

/-- The storage answered the first call, and this one has its metadata; or it failed, and the call
is not repeated with a working one. -/
def ReserveCall.Harmless (c c' : ReserveCall) : Prop :=
  match c.upload with
  | .ok _ => c'.payload = c.payload
  | .error _ => c'.payload = c.payload → ∀ answer, c'.upload ≠ .ok answer

variable {rt} {key : String × String} {uid : String}

theorem reserves_calls (cs : List ReserveCall) : (reserves rt s cs).map Prod.fst = cs := by
  induction cs generalizing s with
  | nil => rfl
  | cons c cs ih => simp [reserves, ih]

/-- A call changes the response of no uid but its own. -/
theorem reserved_responses (other : c.uid ≠ uid) :
    (s.reserved rt c).1.reservationResponses uid = s.reservationResponses uid := by
  unfold Service.reserved Service.reserve
  repeat' split
  all_goals simp [Service.transition, other.symm]

theorem reserved_key (known : s.byIdempotency key = some uid) :
    (s.reserved rt c).1.byIdempotency key = some uid := by
  unfold Service.reserved Service.reserve
  split
  next => exact known
  next unused =>
    have other : key ≠ c.payload.key := fun same => by simp [same, unused] at known
    repeat' split
    all_goals simp [Service.transition, other, known]

/-- A key that is in use is answered with its response, or the error that there is none. -/
theorem reserves_used {cs : List ReserveCall} (known : s.byIdempotency key = some uid)
    (apart : uid ∉ cs.map ReserveCall.uid) : ∀ e ∈ reserves rt s cs, e.1.payload.key = key →
      e.2 = (s.reservationResponses uid).elim (.error (.keyError uid)) .ok := by
  induction cs generalizing s with
  | nil => exact fun _ m => by cases m
  | cons c cs ih =>
    refine List.forall_mem_cons.mpr ⟨?_, ?_⟩
    · rintro rfl
      simp only [Service.reserved, Service.reserve, known]
      cases s.reservationResponses uid <;> rfl
    · rw [← @reserved_responses rt s c uid (List.ne_of_not_mem_cons apart).symm]
      exact ih (reserved_key known) (List.not_mem_of_not_mem_cons apart)

theorem reserved_unused (unused : s.byIdempotency key = none)
    (unknown : c.payload.key = key → contentTypeOf c.payload.format = none) :
    (s.reserved rt c).1.byIdempotency key = none := by
  by_cases same : c.payload.key = key
  · simp [Service.reserved, Service.reserve, same, unused, Reservation.recording, unknown same]
  · unfold Service.reserved Service.reserve
    repeat' split
    all_goals simp [Service.transition, Ne.symm same, unused]

theorem afterReserves_unused {cs : List ReserveCall} (unused : s.byIdempotency key = none)
    (unknown : ∀ c ∈ cs, c.payload.key = key → contentTypeOf c.payload.format = none) :
    (afterReserves rt s cs).byIdempotency key = none := by
  induction cs generalizing s with
  | nil => exact unused
  | cons c cs ih =>
    obtain ⟨here, unknown⟩ := List.forall_mem_cons.mp unknown
    exact ih (reserved_unused unused here) unknown

theorem afterReserves_responses {cs : List ReserveCall} (apart : uid ∉ cs.map ReserveCall.uid) :
    (afterReserves rt s cs).reservationResponses uid = s.reservationResponses uid := by
  induction cs generalizing s with
  | nil => rfl
  | cons c cs ih =>
    have other := (List.ne_of_not_mem_cons apart).symm
    exact (ih (List.not_mem_of_not_mem_cons apart)).trans (reserved_responses other)

/-- The call that puts its key into use stores the response that it returns, if the storage
answers. -/
theorem reserved_first (unused : s.byIdempotency c.payload.key = none)
    (unanswered : s.reservationResponses c.uid = none)
    {contentType : String} (known : contentTypeOf c.payload.format = some contentType) :
    (s.reserved rt c).1.byIdempotency c.payload.key = some c.uid ∧
      ∃ respond, (s.reserved rt c).2 = c.upload.map respond ∧
        (s.reserved rt c).1.reservationResponses c.uid = (c.upload.map respond).toOption := by
  simp only [Service.reserved, Service.reserve, unused, Reservation.recording, known]
  refine ⟨?_, fun answer => ⟨c.uid, answer.1, rt.isoformat answer.2, contentType, c.object⟩, ?_⟩
  all_goals cases c.upload <;> simp [Service.transition, Except.map, Except.toOption, unanswered]

/-- Whatever came before the call that puts a key into use, the later calls with the key are
answered as they should exactly if they are harmless. -/
theorem reserved_once_iff (rt : Runtime) (before after : List ReserveCall) (first : c.First before)
    (fresh : ((before ++ c :: after).map ReserveCall.uid).Nodup) :
    let s := afterReserves rt .empty before
    (∀ e ∈ reserves rt (s.reserved rt c).1 after, e.1.payload.key = c.payload.key →
      Owed c (s.reserved rt c).2 e) ↔
      ∀ c' ∈ after, c'.payload.key = c.payload.key → c.Harmless c' := by
  intro s
  rw [List.map_append, List.map_cons, List.nodup_middle, List.nodup_cons, List.mem_append,
    not_or] at fresh
  obtain ⟨⟨old, new⟩, -⟩ := fresh
  obtain ⟨contentType, known⟩ := Option.isSome_iff_exists.mp first.1
  have unused : s.byIdempotency c.payload.key = none := afterReserves_unused rfl first.2
  obtain ⟨stored, respond, returned, kept⟩ :=
    @reserved_first rt s c unused (afterReserves_responses old) _ known
  conv_rhs => rw [← @reserves_calls rt (s.reserved rt c).1 after]
  rw [List.forall_mem_map]
  refine forall₃_congr fun e member shared => ?_
  have answer := reserves_used stored new e member shared
  rw [kept] at answer
  rw [returned]
  unfold ReserveCall.Harmless
  cases upload : c.upload with
  | ok =>
    rw [upload] at answer
    constructor
    · intro owed
      by_contra other
      obtain ⟨exc, raised⟩ := owed.rejected other
      cases answer.symm.trans raised
    · intro same
      exact ⟨fun _ _ earlier => answer.trans earlier, fun _ _ raised => (by cases raised),
        absurd same⟩
  | error exc =>
    rw [upload] at answer
    constructor
    · intro owed same works working
      obtain ⟨later, ok⟩ := owed.recovered same exc rfl works working
      cases answer.symm.trans ok
    · intro broken
      exact ⟨fun _ _ returned => (by cases returned),
        fun same _ _ works working => absurd working (broken same works), fun _ => ⟨_, answer⟩⟩

end Reserves

def Sample.reserving (uid : String) (upload : Fallible (String × Int)) : ReserveCall :=
  ⟨reservation "staging", uid, "object-1", upload⟩

theorem reserved_twice :
    let c := reserving "REC-1" (.ok ("upload", 300))
    ∀ e ∈ reserves runtime (Service.empty.reserved runtime c).1
        [reserving "REC-2" (.ok ("upload", 300))],
      e.1.payload.key = c.payload.key → Owed c (Service.empty.reserved runtime c).2 e :=
  (reserved_once_iff runtime [] _ ⟨rfl, by simp⟩ (by decide)).mpr
    (by simp [ReserveCall.Harmless, reserving])

/-- Other metadata gets the earlier reservation; after a storage failure the
repeated call raises. -/
theorem reservation_misanswered :
    (let other := { reserving "REC-2" (.ok ("upload", 300)) with payload.sha256 := "other" }
     (reserves runtime .empty [reserving "REC-1" (.ok ("upload", 300)), other]).map (·.2) =
      let response := .ok ⟨"REC-1", "upload", runtime.isoformat 300, "audio/mpeg", "object-1"⟩
      [response, response]) ∧
    (reserves runtime .empty [reserving "REC-1" (.error (.osError "unreachable")),
      reserving "REC-2" (.ok ("upload", 300))]).map (·.2) =
      [.error (.osError "unreachable"), .error (.keyError "REC-1")] :=
  ⟨rfl, rfl⟩

end CodestraMiddleware.Recordings
