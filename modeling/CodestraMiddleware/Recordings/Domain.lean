import CodestraMiddleware.Foundations.Raising
import CodestraMiddleware.Foundations.Values

/-!
# Call recordings

`recording/domain.py` and the parts of `recording/service.py` that look at one recording only: what
a completion, the head of a stored object and the acknowledgement of Odoo are compared with.
-/
namespace CodestraMiddleware.Recordings

open PythonValue (Value Dict)
open Raising

inductive RecordingState where
  | reservationCreated | uploading | uploaded | serverVerified | odooLinked | quarantined | failed
  deriving DecidableEq

namespace RecordingState

def completable : RecordingState → Bool
  | uploading | uploaded | serverVerified => true
  | _ => false

def rejected : RecordingState → Bool
  | quarantined | failed => true
  | _ => false

theorem not_completable_of_rejected {state : RecordingState} (rejected : state.rejected = true) :
    state.completable = false := by
  cases state <;> first | rfl | cases rejected

theorem ne_odooLinked_of_rejected {state : RecordingState} (rejected : state.rejected = true) :
    state ≠ .odooLinked := by
  rintro rfl
  cases rejected

end RecordingState

structure ObjectHead where
  sizeBytes : Int
  (contentType checksumSha256 versionId : String)
  metadata : String → Option String

/-- The automation results, which no other function reads, are left out. Times
are in microseconds. -/
structure Recording where
  (recordingUid environment campaignKey callUid idempotencyKey sha256 : String)
  fileSizeBytes : Int
  (contentType opaqueObjectIdentifier retentionClass vicidialRecordingId asteriskUniqueid agentKey :
    String)
  startedAt : String
  -- The bits of a float.
  durationSeconds : BitVec 64
  (format codec : String)
  (channels sampleRateHz : Int)
  state : RecordingState := .reservationCreated
  objectVersionId : Option String := none
  verifiedAt : Option Int := none
  odooLinkedAt : Option Int := none
  legalHold : Bool := false
  failureCode : Option String := none

structure StateAudit where
  recordingUid : String
  sequence : Nat
  (fromState toState : RecordingState)
  reason : String

inductive Exc where
  | conflict (detail : String)
  | notFound (recordingUid : String)
  | permission (detail : String)
  | keyError (key : String)
  | osError (detail : String)
  | valueError
  /-- The task was cancelled; this is not an `Exception`. -/
  | cancelled | other
  deriving DecidableEq

abbrev Fallible := Except Exc

def Exc.headFailed : Exc → Bool
  | .keyError _ | .osError _ => true
  | _ => false

def sorted (names : List String) : List String := names.insertionSort (· ≤ ·)

theorem sorted_eq_nil : sorted names = [] ↔ names = [] := by
  rw [sorted, ← List.length_eq_zero_iff, List.length_insertionSort, List.length_eq_zero_iff]

/-- What the service takes from its surroundings: the texts of times and of values. -/
structure Runtime where
  texts : Value.Texts
  isoformat : Int → String
  /-- `datetime.fromisoformat(text.replace("Z", "+00:00"))`: the instant and
  whether it has a time zone. -/
  fromisoformat : String → Option (Int × Bool)

def retentionDays : String → Option Int
  | "synthetic_test" => some 7
  | "standard" => some 365
  | "high_compliance" => some 1825
  | _ => none

def contentTypeOf : String → Option String
  | "mp3" => some "audio/mpeg"
  | "wav" => some "audio/wav"
  | "gsm" => some "audio/gsm"
  | _ => none

namespace Recording

variable (r : Recording)

def completionBindings : List (String × Value) := [("recording_uid", .str r.recordingUid),
  ("idempotency_key", .str r.idempotencyKey), ("environment", .str r.environment),
    ("campaign_key", .str r.campaignKey),
  ("sha256", .str r.sha256), ("file_size_bytes", .int r.fileSizeBytes), ("format", .str r.format),
  ("duration_seconds", .float r.durationSeconds)]

def mismatchedCompletion (payload : Dict) : List String :=
  sorted ((r.completionBindings.filter fun binding =>
    !(payload.getD binding.1 .null).eq binding.2).map (·.1))

/-! ## Stored objects -/

/-- The version is compared with itself. -/
def comparisons (head : ObjectHead) : List (String × Bool) :=
  [("sha256", r.sha256 = head.checksumSha256),
  ("file_size_bytes", r.fileSizeBytes = head.sizeBytes),
    ("content_type", r.contentType = head.contentType),
  ("version_id", head.versionId = head.versionId),
    ("environment", some r.environment = head.metadata "environment"),
  ("campaign_key", some r.campaignKey = head.metadata "campaign_key"),
  ("recording_uid", some r.recordingUid = head.metadata "recording_uid"),
  ("idempotency_key", some r.idempotencyKey = head.metadata "idempotency_key")]

def mismatches (head : ObjectHead) : List String :=
  sorted (((r.comparisons head).filter fun compared => !compared.2).map (·.1))

structure Fits (head : ObjectHead) : Prop where
  sha256 : head.checksumSha256 = r.sha256
  size : head.sizeBytes = r.fileSizeBytes
  contentType : head.contentType = r.contentType
  environment : head.metadata "environment" = some r.environment
  campaign : head.metadata "campaign_key" = some r.campaignKey
  uid : head.metadata "recording_uid" = some r.recordingUid
  idempotencyKey : head.metadata "idempotency_key" = some r.idempotencyKey

theorem mismatches_eq_nil {r : Recording} {head : ObjectHead} : r.mismatches head = [] ↔
    r.Fits head := by
  simp only [mismatches, sorted_eq_nil, comparisons, List.map_eq_nil_iff, List.filter_eq_nil_iff,
    List.forall_mem_cons, Bool.not_eq_true, Bool.not_eq_false', decide_eq_true_eq, true_and]
  constructor
  · rintro ⟨sha256, size, contentType, environment, campaign, uid, key, -⟩
    exact ⟨sha256.symm, size.symm, contentType.symm, environment.symm, campaign.symm,
      uid.symm, key.symm⟩
  · intro fits
    exact ⟨fits.sha256.symm, fits.size.symm, fits.contentType.symm, fits.environment.symm,
      fits.campaign.symm, fits.uid.symm, fits.idempotencyKey.symm, List.forall_mem_nil _⟩

def identity : String × Int × String × String × String × String × String :=
  (r.sha256, r.fileSizeBytes, r.contentType, r.environment, r.campaignKey, r.recordingUid,
    r.idempotencyKey)

theorem Fits.congr {r r' : Recording} (fits : r.Fits head) (same : r'.identity = r.identity) :
    r'.Fits head := by
  simp only [identity, Prod.mk.injEq] at same
  obtain ⟨sha256, size, contentType, environment, campaign, uid, key⟩ := same
  constructor
  · rw [sha256, fits.sha256]
  · rw [size, fits.size]
  · rw [contentType, fits.contentType]
  · rw [environment, fits.environment]
  · rw [campaign, fits.campaign]
  · rw [uid, fits.uid]
  · rw [key, fits.idempotencyKey]

def retentionUntil (verifiedAt : Int) : Fallible (Option Int) :=
  if r.legalHold ∨ r.retentionClass = "legal_hold" then .ok none
  else
    match retentionDays r.retentionClass with
    | none => .error (.keyError r.retentionClass)
    | some days => .ok (some (verifiedAt + days * 86400000000))

def metadata (versionId : String) (retentionUntil : Option String) : List (String × Value) := [
  ("contract_version", .str "1.0"), ("environment", .str r.environment),
    ("recording_uid", .str r.recordingUid),
  ("vicidial_recording_id", .str r.vicidialRecordingId), ("vicidial_call_id", .str r.callUid),
  ("asterisk_uniqueid", .str r.asteriskUniqueid), ("campaign_key", .str r.campaignKey),
    ("agent_key", .str r.agentKey),
  ("started_at", .str r.startedAt), ("duration_seconds", .float r.durationSeconds),
    ("format", .str r.format),
  ("codec", .str r.codec), ("channels", .int r.channels), ("sample_rate_hz", .int r.sampleRateHz),
  ("sha256", .str r.sha256), ("file_size_bytes", .int r.fileSizeBytes),
    ("object_version_id", .str versionId),
  ("storage_status", .str "verified"), ("retention_class", .str r.retentionClass),
  ("retention_until", (retentionUntil.map Value.str).getD .null), ("legal_hold", .bool r.legalHold)]

def requiredAcknowledgement : List String := [
  "contract_version", "recording_uid", "odoo_record_id", "call_link_status", "lead_link_status",
  "campaign_link_status", "agent_link_status", "storage_status", "retention_class",
  "retention_until", "legal_hold", "updated_at"]

def acknowledgementBindings : List (String × Value) := [("contract_version", .str "1.0"),
  ("recording_uid", .str r.recordingUid), ("storage_status", .str "verified"),
  ("retention_class", .str r.retentionClass), ("legal_hold", .bool r.legalHold)]

def parse (rt : Runtime) (text : String) : Fallible (Int × Bool) :=
  match rt.fromisoformat text with
  | some moment => .ok moment
  | none => .error .valueError

/-- The checks of an acknowledgement; `expected` is the end of the retention in the upsert. -/
def checkAcknowledgement (rt : Runtime) (expected : Option String) (acknowledgement : Dict) :
    Fallible Unit := do
  check (acknowledgement.keys ⊆ requiredAcknowledgement ∧
    requiredAcknowledgement ⊆ acknowledgement.keys)
    (.conflict "canonical Odoo acknowledgement required")
  check (∀ binding ∈ r.acknowledgementBindings, (acknowledgement.getD binding.1 .null).eq
    binding.2 = true) (.conflict "Odoo acknowledgement binding mismatch")
  match acknowledgement.getD "retention_until" .null, expected with
  | .null, none => .ok ()
  | .null, some _ | _, none => .error (.conflict "Odoo acknowledgement retention mismatch")
  | acknowledged, some expected => do
    let moment ← parse rt (acknowledged.toText rt.texts)
    let moment' ← parse rt expected
    check (moment = moment') (.conflict "Odoo acknowledgement retention mismatch")

end Recording

structure Ack where
  recordingUid : String
  state : RecordingState
  (checksumVerified odooLinked duplicate : Bool)

def Recording.ack (r : Recording) (duplicate : Bool) : Ack :=
  ⟨r.recordingUid, r.state, r.verifiedAt.isSome, r.odooLinkedAt.isSome, duplicate⟩

structure VerifiedEvent where
  (eventId occurredAt environment recordingUid callUid campaignKey : String)
  durationSeconds : BitVec 64
  sha256 : String
  objectVersionId : Option String
  retentionClass : String

def Recording.n8nProjection (r : Recording) (eventId occurredAt : String) : VerifiedEvent where
  eventId
  occurredAt
  environment := r.environment
  recordingUid := r.recordingUid
  callUid := r.callUid
  campaignKey := r.campaignKey
  durationSeconds := r.durationSeconds
  sha256 := r.sha256
  objectVersionId := r.objectVersionId
  retentionClass := r.retentionClass

structure ReservationResponse where
  (recordingUid uploadUrl uploadUrlExpiresAt requiredContentType opaqueObjectIdentifier : String)

end CodestraMiddleware.Recordings
