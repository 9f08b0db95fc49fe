import CodestraMiddleware.Recordings.ReplayGuard
import CodestraMiddleware.Recordings.Service

/-!
# Environments

The routes of `api/v1/recordings.py` that exporters call, behind `require_exporter_mtls`. A
reservation has to name the environment of the certificate and a failure may only be reported of a
recording that has it, but a completion only has to name it itself, and the service quarantines the
recording if that is not its environment. What keeps the environments apart is the authorizer, which
knows one exporter, of staging.
-/
namespace CodestraMiddleware.Recordings

open PythonValue (Value Dict)
open Transition

/-- The headers that `require_exporter_mtls` reads. -/
structure ExporterHeaders where
  (identity environment role audience notAfter revoked nonce timestamp : String)

/-- What the dependency uses of the standard library; `fromisoformat` also tells whether there is a
time zone. -/
structure Library where
  sha256 : String → String
  fromisoformat : String → Option (Int × Bool)
  int : String → Option Int

/-- The mappings of `exporter_authorizer`. -/
def exporterMappings : String → Option String
  | "codestra-recording-exporter-server-b" => some "staging"
  | _ => none

/-- `MTLSAuthorizer.authorize`. A header that is not ASCII makes `compare_digest` raise, which the
caller answers like any other refusal. -/
def ExporterHeaders.authorized (h : ExporterHeaders) (notAfter now : Int) : Bool :=
  decide (exporterMappings h.identity = some h.environment ∧ h.role = "recording-exporter" ∧
    h.audience = "codestra-recording-api" ∧ now < notAfter ∧ h.revoked = "false")

/-- The environment that the exporter is authenticated for, with the nonces seen by then. A time
without a zone cannot be compared with the clock, which is in microseconds. -/
def requireExporterMtls (lib : Library) (seen : List (String × Int)) (h : ExporterHeaders)
    (now : Int) : List (String × Int) × Except (Nat × String) String :=
  let rejected := .error (401, "exporter mTLS binding rejected")
  match lib.fromisoformat h.notAfter, lib.int h.timestamp with
  | some (notAfter, true), some timestamp =>
    if h.authorized notAfter now then
      match consume lib.sha256 300 seen ⟨h.nonce, timestamp, now / 1000000⟩ with
      | (seen, .ok ()) => (seen, .ok h.environment)
      | (seen, .error _) => (seen, rejected)
    else (seen, rejected)
  | _, _ => (seen, rejected)

structure CompletionRequest where
  (recordingUid idempotencyKey environment campaignKey sha256 : String)
  fileSizeBytes : Int
  format : String
  durationSeconds : BitVec 64

def CompletionRequest.modelDump (p : CompletionRequest) : Dict where
  entries := [("contract_version", .str "1.0"), ("recording_uid", .str p.recordingUid),
    ("idempotency_key", .str p.idempotencyKey), ("environment", .str p.environment),
    ("campaign_key", .str p.campaignKey), ("sha256", .str p.sha256),
    ("file_size_bytes", .int p.fileSizeBytes), ("format", .str p.format),
    ("duration_seconds", .float p.durationSeconds)]
  wellFormed := by
    simp only [Value.wellFormed, Value.entriesWellFormed, Bool.and_true, List.map_cons,
      List.map_nil]
    decide

inductive ExporterCall (ι : Type) where
  | reserve (payload : Reservation) (uid object : String) (upload : Fallible (String × Int))
  | complete (i : ι) (uid : String) (payload : CompletionRequest)
      (answer : Fallible ObjectHead) (now : Int)
  | failure (uid code key : String)

/-- A request of an exporter, or the answer of Odoo to a completion that waits for it. -/
inductive Request (ι : Type) where
  | call (headers : ExporterHeaders) (now : Int) (call : ExporterCall ι)
  | resume (i : ι) (answer : Fallible Dict) (now occurredAt : Int) (eventId : String)

structure ApiState (ι : Type) where
  state : State ι
  seen : List (String × Int)
  -- The environment of the certificate of the completion that `i` serves.
  certificate : ι → String

def ApiState.initial (ι : Type) : ApiState ι := ⟨.initial ι, [], fun _ => ""⟩

def translate : Exc → Nat × String
  | .notFound _ => (404, "recording not found")
  | .permission detail => (403, detail)
  | .conflict detail => (409, detail)
  | _ => (409, "")

variable {rt : Runtime} {lib : Library} {ι : Type}

/-- What the service is asked for, or the answer to a request that does not get that far. -/
def route (s : State ι) (certificate : String) : ExporterCall ι → Except (Nat × String) (Event ι)
  | .reserve payload uid object upload =>
    if payload.environment ≠ certificate then .error (403, "recording environment binding rejected")
    else .ok (.reserve payload uid object upload)
  | .complete i uid payload answer now =>
    if payload.environment ≠ certificate then .error (403, "recording environment binding rejected")
    else if payload.recordingUid ≠ uid then
      .error (translate (.conflict "path and payload recording_uid differ"))
    else .ok (.complete i uid payload.modelDump answer now)
  | .failure uid code key =>
    match s.service.get uid with
    | .error exc => .error (translate exc)
    | .ok r =>
      if r.environment ≠ certificate then .error (403, "recording environment binding rejected")
      else .ok (.failure uid code key)

variable [DecidableEq ι]

variable (rt lib) in
def serve (s : ApiState ι) : Request ι → ApiState ι
  | .call headers now call =>
    match requireExporterMtls lib s.seen headers now with
    | (seen, .error _) => { s with seen }
    | (seen, .ok certificate) =>
      match route s.state certificate call with
      | .error _ => { s with seen }
      | .ok e =>
        { state := step rt s.state e
          seen
          certificate := match call with
            | .complete i .. => Function.update s.certificate i certificate
            | _ => s.certificate }
  | .resume i answer now occurredAt eventId =>
    { s with state := step rt s.state (.resume i answer now occurredAt eventId) }

variable (rt lib) in
def api : System (ApiState ι) (Request ι) where
  step := serve rt lib
  admits _ _ := True

variable (lib) in
/-- The environment that the exporter behind a request is authenticated for. -/
def Request.exporter? (s : ApiState ι) : Request ι → Option String
  | .call headers now _ => (requireExporterMtls lib s.seen headers now).2.toOption
  | .resume i .. => (s.state.waiting i).map fun _ => s.certificate i

variable (rt lib) in
/-- A request of an authenticated exporter changes no recording of another environment and no audit
entry of one, and one of anybody else changes nothing. -/
def Isolated (s : ApiState ι) (q : Request ι) : Prop :=
  match q.exporter? lib s with
  | none => (serve rt lib s q).state = s.state
  | some environment =>
    ∀ uid r, s.state.service.recordings.find? uid = some r → r.environment ≠ environment →
      (serve rt lib s q).state.service.recordings.find? uid = some r ∧
        (serve rt lib s q).state.service.trail uid = s.state.service.trail uid

/-! ## Whatever is stored is of staging -/

namespace Service

variable {s s' : Service} {r : Recording}

/-- Every recording is of the staging environment. -/
def Staged (s : Service) : Prop :=
  ∀ uid r, s.recordings.find? uid = some r → r.environment = "staging"

theorem Staged.put (staged : s.Staged) (own : r.environment = "staging")
    (recordings : s'.recordings = s.recordings.put r) : s'.Staged := by
  intro uid r' found
  rw [recordings, Relational.Table.find?_put] at found
  split at found
  · cases found
    exact own
  · exact staged uid r' found

theorem Staged.transition (staged : s.Staged) (own : r.environment = "staging")
    (state : RecordingState) (reason : String) : (s.transition r state reason).Staged :=
  staged.put (by exact own) rfl

theorem Staged.reserve (staged : s.Staged) (own : p.environment = "staging") :
    (s.reserve rt p uid object upload).1.Staged := by
  unfold Service.reserve
  split
  · exact staged
  · split
    · exact staged
    next r recorded =>
      have named : r.environment = "staging" := by
        unfold Reservation.recording at recorded
        split at recorded
        · cases recorded
        · cases recorded
          exact own
      dsimp only
      split <;> exact (staged.put named rfl).transition named .uploading "upload_authorized"

theorem Staged.verify (staged : s.Staged) (own : r.environment = "staging") :
    (s.verify rt r answer now).1.Staged := by
  unfold Service.verify
  split
  · split
    · exact staged.transition own _ _
    · exact staged
  · split
    · exact staged.transition own _ _
    · split
      · exact staged.transition (by exact own) _ _
      · exact Staged.transition (by exact staged) (by exact own) _ _

theorem Staged.complete (staged : s.Staged) : (s.complete rt uid payload answer now).1.Staged := by
  unfold Service.complete
  split
  · exact staged
  next r found =>
    have own := staged uid r (get_eq_ok.mp found)
    split
    · exact staged.transition own _ _
    · split
      · exact staged
      · split
        · exact staged
        · exact (staged.transition own _ _).verify own

theorem Staged.resume (staged : s.Staged) :
    (s.resume rt u answer now occurredAt eventId).1.Staged := by
  unfold Service.resume
  split
  · exact staged
  next r found =>
    have own := staged u.recordingUid r (get_eq_ok.mp found)
    split
    · exact staged
    · exact staged.put (by exact own) rfl
    · split
      · exact staged
      · exact staged.put (by exact own) rfl

theorem Staged.failure (staged : s.Staged) : (s.failure uid code key).1.Staged := by
  unfold Service.failure
  split
  · exact staged
  next r found =>
    have own := staged uid r (get_eq_ok.mp found)
    split
    · exact staged
    · split
      · exact staged
      · exact staged.put (by exact own) rfl

end Service

/-- Only the exporter of staging gets past the authorizer. -/
theorem exporter_staging (ok : (requireExporterMtls lib seen h now).2 = .ok environment) :
    environment = "staging" := by
  unfold requireExporterMtls at ok
  dsimp only at ok
  split at ok
  · split at ok
    next authorized =>
      split at ok
      · cases ok
        have mapped := (of_decide_eq_true authorized).1
        unfold exporterMappings at mapped
        split at mapped
        · exact (Option.some.inj mapped).symm
        · cases mapped
      · cases ok
    · cases ok
  · cases ok

/-- The recordings are of staging, and so are the certificates of the completions that wait. -/
def ApiState.Staged (s : ApiState ι) : Prop :=
  s.state.service.Staged ∧ ∀ i u, s.state.waiting i = some u → s.certificate i = "staging"

theorem stable_staged : (api rt lib (ι := ι)).Stable ApiState.Staged := by
  rintro s (⟨headers, now, call⟩ | ⟨i, answer, now, occurredAt, eventId⟩) - ⟨staged, waiting⟩
  · simp only [api, serve]
    split
    · exact ⟨staged, waiting⟩
    next seen certificate authenticated =>
      have own : certificate = "staging" := exporter_staging (congrArg Prod.snd authenticated)
      split
      · exact ⟨staged, waiting⟩
      next e routed =>
        cases call with
        | reserve payload uid object upload =>
          simp only [route] at routed
          split at routed
          · cases routed
          next named =>
            cases routed
            exact ⟨staged.reserve ((not_not.mp named).trans own), waiting⟩
        | complete i uid payload answer now =>
          simp only [route] at routed
          split at routed
          · cases routed
          · split at routed
            · cases routed
            · cases routed
              refine ⟨staged.complete, fun j u waits => ?_⟩
              simp only [step, Function.update_apply] at waits ⊢
              split
              next => exact own
              next other => exact waiting j u (by simpa [other] using waits)
        | failure uid code key =>
          simp only [route] at routed
          split at routed
          · cases routed
          · split at routed
            · cases routed
            · cases routed
              exact ⟨staged.failure, waiting⟩
  · simp only [api, serve, step]
    split
    · exact ⟨staged, waiting⟩
    · refine ⟨staged.resume, fun j u waits => ?_⟩
      simp only [Function.update_apply] at waits
      split at waits
      · cases waits
      · exact waiting j u waits

theorem isolated_of_staged {s : ApiState ι} {q : Request ι} (staged : s.Staged) :
    Isolated rt lib s q := by
  unfold Isolated
  split
  next anonymous =>
    cases q with
    | call headers now call =>
      simp only [Request.exporter?, serve] at anonymous ⊢
      split
      · rfl
      next authenticated => simp [authenticated, Except.toOption] at anonymous
    | resume i =>
      have idle : s.state.waiting i = none := by simpa [Request.exporter?] using anonymous
      simp only [serve, step, idle]
  next environment authenticated =>
    have own : environment = "staging" := by
      cases q with
      | call headers now call =>
        simp only [Request.exporter?] at authenticated
        cases checked : (requireExporterMtls lib s.seen headers now).2 with
        | error => simp [checked, Except.toOption] at authenticated
        | ok certificate =>
          rw [checked] at authenticated
          cases authenticated
          exact exporter_staging checked
      | resume i =>
        obtain ⟨u, waits, rfl⟩ := Option.map_eq_some_iff.mp authenticated
        exact staged.2 i u waits
    intro uid r stored foreign
    exact absurd ((staged.1 uid r stored).trans own.symm) foreign

/-- Requests of exporters leave the recordings of other environments alone, whatever they are. -/
theorem environments_isolated (rt : Runtime) (lib : Library) (qs : List (Request ι)) :
    (api rt lib).Along (Isolated rt lib) (ApiState.initial ι) qs := by
  refine System.Stable.along stable_staged (fun _ _ _ => isolated_of_staged) ⟨?_, ?_⟩
    (System.along_of_forall (fun _ _ => trivial) _ qs)
  · intro uid r found
    cases found
  · intro i u waits
    cases waits

namespace Sample

def library : Library where
  sha256 := id
  fromisoformat _ := some (1000000000, true)
  int _ := some 100

def exporter (identity environment nonce : String) : ExporterHeaders :=
  ⟨identity, environment, "recording-exporter", "codestra-recording-api",
    "2026-01-01T00:00:00+00:00", "false", nonce, "100"⟩

def reservingAs (headers : ExporterHeaders) : Request Bool :=
  .call headers 100000000
    (.reserve (reservation headers.environment) "REC-1" "object-1" (.ok ("upload", 300)))

-- The exporter of staging reserves a recording; one that claims to be of production does not.
example : ((serve runtime library (.initial Bool) (reservingAs
    (exporter "codestra-recording-exporter-server-b" "staging" "n"))).state.service.recordings.find?
      "REC-1").map (·.environment) = some "staging" := by decide +kernel

example : ((serve runtime library (.initial Bool) (reservingAs
    (exporter "codestra-recording-exporter-server-b" "production"
      "n"))).state.service.recordings.find?
      "REC-1").map (·.environment) = none := by decide +kernel

end Sample

end CodestraMiddleware.Recordings
