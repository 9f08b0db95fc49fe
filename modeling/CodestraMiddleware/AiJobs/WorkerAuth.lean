import CodestraMiddleware.AiJobs.Schema
import CodestraMiddleware.Foundations.Fields
import CodestraMiddleware.Foundations.Window

/-!
# Authentication of worker requests

`authenticate_worker` and `_claim_nonce` of the internal API. A request is signed together with a
timestamp and a nonce. The timestamp may lie up to the signature's lifetime before or after the
server's clock; the nonce is kept for that lifetime from the moment it was received. The four clock
readings of one request are kept apart. Byte strings are texts of characters below 256; the
cryptographic functions, address parsing and certificate decoding are parameters.
-/
namespace CodestraMiddleware.AiJobs

open Relational ReplayWindow List Window

structure ClientCertificate where
  commonNames : List String
  (serialNumber notValidBefore notValidAfter : Int)
  (uris ipAddresses : Option (List String))
  (digitalSignature clientAuth : Option Bool)

structure AuthSettings where
  sha256 : String → String
  hmacSha256 : String → String → String
  -- Membership of an address in a network, for `strict` parsing or not.
  inNetwork : Bool → String → String → Option Bool
  loadCertificate : String → Option ClientCertificate
  issuedByAuthority : Option (ClientCertificate → Bool)
  workerServiceId : String
  workerSourceCidrs : List String
  workerTrustedProxyCidr : String
  workerCertificateSerial : Option Int
  workerCertificateIp : Option String
  (workerSpiffeId workerHmacKeyId workerId : String)
  (workerTenantId workerWorkspaceId : Option UUID)
  hmacSecret : Option String
  signatureTtlSeconds : Int

inductive AuthFault where
  | http (status : Nat) (detail : String)
  | unicodeEncodeError | typeError
  deriving DecidableEq

/-- A request with its headers, within the lengths their declarations allow. -/
structure WorkerRequest where
  (clientHost method path body serviceId hmacKeyId timestamp nonce bodyDigest signature
    certificate : String)
  (sourceIp correlationId requestId workerId signatureVersion : String)
  (tenantId workspaceId : UUID)
  nonce_length : 16 ≤ nonce.length ∧ nonce.length ≤ 128
  signature_length : signature.length = 64
  correlationId_length : 8 ≤ correlationId.length ∧ correlationId.length ≤ 128
  requestId_length : 8 ≤ requestId.length ∧ requestId.length ≤ 128
  workerId_length : 3 ≤ workerId.length ∧ workerId.length ≤ 128

structure WorkerPrincipal where
  (serviceId workerId : String)
  (tenantId workspaceId : UUID)
  (requestId correlationId : String)
  scopes : List String

def serverScopes : List String :=
  ["ai.auth.verify/read-only", "ai.worker.claim", "ai.worker.heartbeat", "ai.worker.chunks",
   "ai.worker.complete", "ai.worker.fail", "ai.worker.get", "ai.worker.cancel",
   "ai.worker.dead-letters", "ai.worker.dead-letters.retry", "ai.worker.cancellation-check",
   "ai.worker.recover-expired"]

structure ServiceNonce where
  (serviceId nonceDigest : String)
  expiresAt : Int

abbrev NonceTable := Table fun row : ServiceNonce => (row.serviceId, row.nonceDigest)

def hexDigit (c : Char) : Bool := c.isDigit || decide ('a' ≤ c ∧ c ≤ 'f')

section

variable (text : String)

def hex64 : Bool := decide (text.length = 64) && text.toList.all hexDigit

def decimalTimestamp : Bool :=
  decide (10 ≤ text.length ∧ text.length ≤ 11) && text.toList.all Char.isDigit

def safeNonce : Bool :=
  decide (16 ≤ text.length ∧ text.length ≤ 128) && text.toList.all fun c => c.isAlphanum ||
    decide (c ∈ ['.', '_', '~', '-'])

def validSecret (secret : String) : Bool :=
  decide (secret.length = 64) && secret.toList.all fun c => hexDigit c || decide ('A' ≤ c ∧ c ≤ 'F')

def decimal : Nat := text.toList.foldl (fun n c => 10 * n + (c.toNat - 48)) 0

def isAscii : Bool := text.toList.all fun c => decide (c.toNat < 128)

def encodeAscii : Except AuthFault String :=
  if isAscii text then .ok text else .error .unicodeEncodeError

end

theorem isAscii_lines (fields : List String) :
    isAscii ("\n".intercalate fields) = fields.all isAscii :=
  Lines.all_join rfl fields

/-- `hmac.compare_digest`, which refuses texts that are not ASCII. -/
def compareDigest (a b : String) : Except AuthFault Bool :=
  if isAscii a ∧ isAscii b then .ok (decide (a = b)) else .error .typeError

/-! ## The checks, in their order -/

def sourceAllowed (cfg : AuthSettings) (host : String) : Bool :=
  go cfg.workerSourceCidrs
where
  go : List String → Bool
    | [] => false
    | item :: items =>
      match cfg.inNetwork false item host with
      | none => false
      | some true => true
      | some false => go items

section

variable (cfg : AuthSettings)

def certificateIdentity (now : Int) (encoded : String) : Bool :=
  match cfg.loadCertificate encoded, cfg.issuedByAuthority with
  | some certificate, some issued =>
    -- Whatever is missing or differs raises, and every exception becomes the same answer.
    issued certificate && decide (certificate.commonNames = [cfg.workerServiceId] ∧
      cfg.workerCertificateSerial = some certificate.serialNumber ∧
      certificate.notValidBefore ≤ now ∧ now ≤ certificate.notValidAfter ∧
      certificate.uris = some [cfg.workerSpiffeId] ∧ cfg.workerCertificateIp.isSome ∧
      certificate.ipAddresses = cfg.workerCertificateIp.map ([·]) ∧
      certificate.digitalSignature = some true ∧ certificate.clientAuth = some true)
  | _, _ => false

def canonicalSigningStringV2 (method path timestamp nonce bodyDigest requestId correlationId
    workerId tenantId workspaceId : String) : Except AuthFault String :=
  -- The service is not signed: the key identifier and the certificate stand for it.
  let fields := [method, path, timestamp, nonce, bodyDigest, requestId, correlationId, workerId]
  encodeAscii ("\n".intercalate (if tenantId ≠ "" ∨ workspaceId ≠ "" then fields ++
    [tenantId, workspaceId] else fields))

def verifySignature (secret : String) (q : WorkerRequest) : Except AuthFault Unit :=
  if ¬ (hex64 q.bodyDigest ∧ cfg.sha256 q.body = q.bodyDigest) then
    .error (.http 401 "authentication denied")
  else
    match canonicalSigningStringV2 q.method.toUpper q.path q.timestamp q.nonce q.bodyDigest
        q.requestId q.correlationId q.workerId (UUID.text q.tenantId) (UUID.text q.workspaceId) with
    | .error fault => .error fault
    | .ok canonical =>
      match compareDigest (cfg.hmacSha256 secret canonical) q.signature.toLower with
      -- Not caught: a signature outside ASCII ends in a server error.
      | .error fault => .error fault
      | .ok false => .error (.http 401 "authentication denied")
      | .ok true => .ok ()

structure Arrival where
  request : WorkerRequest
  (certificateAt checkedAt receivedAt transactionAt : Int)

def WorkerRequest.signedAt (q : WorkerRequest) : Int := makeInterval (decimal q.timestamp)

section

variable (a : Arrival)

def Arrival.Timely : Prop :=
  ((a.checkedAt - a.request.signedAt).natAbs : Int) ≤ makeInterval cfg.signatureTtlSeconds

instance : Decidable (a.Timely cfg) :=
  inferInstanceAs (Decidable (_ ≤ _))

def checkRequest : Except AuthFault Unit :=
  let q := a.request
  if cfg.inNetwork true cfg.workerTrustedProxyCidr q.clientHost ≠ some true ∨
      ¬ sourceAllowed cfg q.sourceIp then
    .error (.http 404 "not found")
  else if ¬ certificateIdentity cfg a.certificateAt q.certificate then
    .error (.http 401 "authentication denied")
  else if q.serviceId ≠ cfg.workerServiceId ∨ q.hmacKeyId ≠ cfg.workerHmacKeyId then
    .error (.http 401 "authentication denied")
  else if q.workerId ≠ cfg.workerId then
    .error (.http 401 "authentication denied")
  else if q.signatureVersion ≠ "v2" then
    .error (.http 401 "authentication denied")
  else if ¬ decimalTimestamp q.timestamp ∨ ¬ safeNonce q.nonce then
    .error (.http 401 "authentication denied")
  else if ¬ a.Timely cfg then
    .error (.http 401 "authentication denied")
  else
    match cfg.hmacSecret with
    | none => .error (.http 503 "worker authentication unavailable")
    | some secret =>
      if ¬ validSecret secret then .error (.http 503 "worker authentication unavailable")
      else
        match verifySignature cfg secret q with
        | .error fault => .error fault
        | .ok () =>
          match cfg.workerTenantId, cfg.workerWorkspaceId with
          | some tenant, some workspace =>
            if q.tenantId ≠ tenant ∨ q.workspaceId ≠ workspace then
              .error (.http 403 "worker tenant binding denied")
            else .ok ()
          | _, _ => .error (.http 503 "worker authorization unavailable")

def nonceText (serviceId nonce : String) : String := serviceId ++ "\n" ++ nonce

def purgeNonces (now : Int) (table : NonceTable) : NonceTable :=
  table.delete fun row => decide (row.expiresAt ≤ now)

/-- `_claim_nonce`: a conflict rolls the purge back too. -/
def claimNonce (receivedAt transactionAt : Int) (serviceId nonce : String) (table : NonceTable) :
    Except AuthFault NonceTable :=
  match encodeAscii (nonceText serviceId nonce) with
  | .error fault => .error fault
  | .ok bytes =>
    match (purgeNonces transactionAt table).insert? ⟨serviceId, cfg.sha256 bytes,
        receivedAt + makeInterval cfg.signatureTtlSeconds⟩ with
    | none => .error (.http 409 "replay detected")
    | some table' => .ok table'

def authenticateWorker (table : NonceTable) : Except AuthFault (NonceTable × WorkerPrincipal) :=
  match checkRequest cfg a with
  | .error fault => .error fault
  | .ok () =>
    match claimNonce cfg a.receivedAt a.transactionAt a.request.serviceId a.request.nonce table with
    | .error fault => .error fault
    | .ok table' => .ok (table', {
        serviceId := cfg.workerServiceId
        workerId := a.request.workerId
        tenantId := a.request.tenantId
        workspaceId := a.request.workspaceId
        requestId := a.request.requestId
        correlationId := a.request.correlationId
        scopes := serverScopes })

/-! ## Which nonces are used twice -/

def Arrival.Passes : Prop :=
  checkRequest cfg a = .ok () ∧ encodeAscii (nonceText a.request.serviceId a.request.nonce) =
      .ok (nonceText a.request.serviceId a.request.nonce)

instance : Decidable (a.Passes cfg) :=
  inferInstanceAs (Decidable (_ ∧ _))

def Arrival.credential : String × String := (a.request.serviceId, a.request.nonce)

end

def accept (table : NonceTable) (a : Arrival) : Option NonceTable :=
  (authenticateWorker cfg a table).toOption.map Prod.fst

/-- The arrivals that a server started empty lets pass. -/
def acceptedArrivals (as : List Arrival) : List Arrival :=
  served (accept cfg) (.empty _) as

def Arrival.Before (a b : Arrival) : Prop :=
  a.receivedAt ≤ b.receivedAt ∧ a.transactionAt ≤ b.transactionAt

instance (a b : Arrival) : Decidable (a.Before b) := inferInstanceAs (Decidable (_ ∧ _))

/-- No two nonces of the arrivals have one hash. -/
def CollisionFree (as : List Arrival) : Prop :=
  ∀ a ∈ as, ∀ b ∈ as, cfg.sha256 (nonceText a.request.serviceId a.request.nonce) =
      cfg.sha256 (nonceText b.request.serviceId b.request.nonce) →
    nonceText a.request.serviceId a.request.nonce = nonceText b.request.serviceId b.request.nonce

def nonceWindow : Window Arrival (String × String) where
  key a := (a.request.serviceId, cfg.sha256 (nonceText a.request.serviceId a.request.nonce))
  checkedAt := Arrival.transactionAt
  expiresAt a := a.receivedAt + makeInterval cfg.signatureTtlSeconds

end

def NonceTable.Agrees (table : NonceTable) (memory : String × String → Option Int)
    (now : Int) : Prop :=
  ∀ k t, now ≤ t → ((∃ row ∈ table.find? k, t < row.expiresAt) ↔ ∃ expires ∈ memory k, t < expires)

variable {now : Int} {memory : String × String → Option Int}

section Replay

variable {cfg : AuthSettings} {table : NonceTable} {a b : Arrival}

theorem encodeAscii_ok (ok : encodeAscii text = .ok bytes) : bytes = text := by
  unfold encodeAscii at ok
  split at ok
  · cases ok
    rfl
  · cases ok

def Arrival.nonceRow (cfg : AuthSettings) (a : Arrival) : ServiceNonce :=
  ⟨a.request.serviceId, cfg.sha256 (nonceText a.request.serviceId a.request.nonce),
    a.receivedAt + makeInterval cfg.signatureTtlSeconds⟩

theorem accept_of_not_passes (fails : ¬ a.Passes cfg) : accept cfg table a = none := by
  unfold accept authenticateWorker
  split
  · rfl
  next checked =>
    cases encoded : encodeAscii (nonceText a.request.serviceId a.request.nonce) with
    | error fault => simp [claimNonce, encoded, Except.toOption]
    | ok bytes =>
      have same := encodeAscii_ok encoded
      exact absurd ⟨checked, same ▸ encoded⟩ fails

theorem accept_of_passes (passes : a.Passes cfg) :
    accept cfg table a = (purgeNonces a.transactionAt table).insert? (a.nonceRow cfg) := by
  unfold accept authenticateWorker
  simp only [passes.1, claimNonce, passes.2, Arrival.nonceRow]
  cases (purgeNonces a.transactionAt table).insert? _ <;> rfl

theorem find?_purgeNonces : (purgeNonces now table).find? k = some row ↔ table.find? k = some row ∧
    now < row.expiresAt := by
  rw [purgeNonces, Table.find?_delete, Option.filter_eq_some_iff]
  simp

theorem NonceTable.Agrees.purge {later : Int} (agrees : table.Agrees memory now)
    (passed : now ≤ later) : (purgeNonces later table).Agrees memory later := by
  intro k t after
  rw [← agrees k t (Int.le_trans passed after)]
  constructor
  · rintro ⟨row, found, running⟩
    exact ⟨row, (find?_purgeNonces.mp found).1, running⟩
  · rintro ⟨row, found, running⟩
    exact ⟨row, find?_purgeNonces.mpr ⟨found, Int.lt_of_le_of_lt after running⟩, running⟩

theorem NonceTable.Agrees.insert {table' : NonceTable} (agrees : table.Agrees memory now)
    (inserted : table.insert? (a.nonceRow cfg) = some table') :
    table'.Agrees ((nonceWindow cfg).remember memory a) now := by
  intro k t after
  rw [Table.find?_insert? inserted]
  unfold remember
  by_cases here : k = (nonceWindow cfg).key a
  · subst here
    simp [Arrival.nonceRow, nonceWindow]
  · have other : ((a.nonceRow cfg).serviceId, (a.nonceRow cfg).nonceDigest) ≠ k := Ne.symm here
    rw [if_neg other, Function.update_of_ne here]
    exact agrees k t after

/-- After the purge the nonce is in the table exactly when the memory has an unexpired use of it. -/
theorem purged_isSome_iff (cfg : AuthSettings) (agrees : table.Agrees memory now)
    (later : now ≤ a.transactionAt) :
    ((purgeNonces a.transactionAt table).find? ((nonceWindow cfg).key a)).isSome ↔
    ¬ (nonceWindow cfg).Fresh memory a := by
  have known := (agrees.purge later) ((nonceWindow cfg).key a) a.transactionAt (Int.le_refl _)
  constructor
  · intro present fresh
    obtain ⟨row, found⟩ := Option.isSome_iff_exists.mp present
    obtain ⟨expires, used, running⟩ := known.mp ⟨row, found, (find?_purgeNonces.mp found).2⟩
    exact Int.not_le.mpr running (fresh expires used)
  · intro used
    obtain ⟨expires, used, running⟩ : ∃ expires ∈ memory ((nonceWindow cfg).key a),
        a.transactionAt < expires := by
      simpa [Window.Fresh, nonceWindow] using used
    obtain ⟨row, found, -⟩ := known.mpr ⟨expires, used, running⟩
    exact Option.isSome_iff_exists.mpr ⟨row, found⟩

/-- The table lets a request through exactly when the memory does, and they agree again. -/
theorem accept_step (passes : a.Passes cfg) (agrees : table.Agrees memory now)
    (later : now ≤ a.transactionAt) :
    (¬ (nonceWindow cfg).Fresh memory a ∧ accept cfg table a = none) ∨
      ((nonceWindow cfg).Fresh memory a ∧ ∃ table', accept cfg table a = some table' ∧
        table'.Agrees ((nonceWindow cfg).remember memory a) a.transactionAt) := by
  have present := purged_isSome_iff cfg agrees later
  have conflict := Table.insert?_eq_none_iff (purgeNonces a.transactionAt table) (a.nonceRow cfg)
  rw [accept_of_passes passes]
  cases inserted : (purgeNonces a.transactionAt table).insert? (a.nonceRow cfg) with
  | none => exact .inl ⟨present.mp (conflict.mp inserted), rfl⟩
  | some table' =>
    refine .inr ⟨?_, table', rfl, (agrees.purge later).insert inserted⟩
    by_contra used
    rw [conflict.mpr (present.mpr used)] at inserted
    cases inserted

theorem acceptedArrivals_eq (cfg : AuthSettings) (ordered : as.Pairwise Arrival.Before) :
    acceptedArrivals cfg as = (nonceWindow cfg).accepted (fun _ => none)
    (as.filter fun a => decide (a.Passes cfg)) := by
  cases as with
  | nil => rfl
  | cons a as =>
    have clock : (a :: as).Pairwise fun a b => a.transactionAt ≤ b.transactionAt :=
      ordered.imp And.right
    have start : NonceTable.Agrees (.empty _) (fun _ => none) a.transactionAt := by
      intro k t _
      simp
    refine (nonceWindow cfg).served_eq_accepted NonceTable.Agrees ?_ ?_ clock ?_ start
    · intro table a fails
      exact accept_of_not_passes (of_decide_eq_false fails)
    · intro table memory now a passes agrees later
      exact accept_step (of_decide_eq_true passes) agrees later
    · rw [forall_mem_cons]
      exact ⟨Int.le_refl _, (pairwise_cons.mp clock).1⟩

theorem CollisionFree.credential_iff (free : CollisionFree cfg as) (first : a ∈ as)
    (second : b ∈ as) :
    (nonceWindow cfg).key a = (nonceWindow cfg).key b ↔ a.credential = b.credential := by
  simp only [nonceWindow, Arrival.credential, Prod.mk.injEq]
  constructor
  -- With the service equal, the texts differ in the nonce only.
  · rintro ⟨service, digest⟩
    have text := free a first b second digest
    rw [service, nonceText, nonceText, String.append_right_inj] at text
    exact ⟨service, text⟩
  · rintro ⟨service, nonce⟩
    rw [service, nonce]
    exact ⟨rfl, rfl⟩

/-- Two requests that pass the other checks are both accepted once the first one's entry has
expired, whatever their nonces are. -/
theorem acceptedArrivals_pair (passes : a.Passes cfg) (again : b.Passes cfg) (before : a.Before b)
    (expired : a.receivedAt + makeInterval cfg.signatureTtlSeconds ≤ b.transactionAt) :
    acceptedArrivals cfg [a, b] = [a, b] := by
  rw [acceptedArrivals_eq cfg (by simp [before])]
  have fresh : (nonceWindow cfg).Fresh ((nonceWindow cfg).remember (fun _ => none) a) b := by
    unfold Window.Fresh
    rw [remember_forall _ rfl]
    exact ⟨fun _ => expired, by rintro t ⟨⟩⟩
  have first : (nonceWindow cfg).Fresh (fun _ => none) a := by rintro t ⟨⟩
  simp [passes, again, accepted, first, fresh]

theorem checkRequest_timely (ok : checkRequest cfg a = .ok ()) : a.Timely cfg := by
  unfold checkRequest at ok
  dsimp only at ok
  by_contra late
  split_ifs at ok

/-- The timestamp decides how long a copy is timely, the receipt how long the nonce is kept. -/
theorem Arrival.Passes.covered (passes : b.Passes cfg) (same : b.request = a.request)
    (prompt : b.transactionAt ≤ b.checkedAt + latency)
    (early : a.request.signedAt + latency < a.receivedAt) :
    b.transactionAt < a.receivedAt + makeInterval cfg.signatureTtlSeconds := by
  have timely := checkRequest_timely passes.1
  simp only [Arrival.Timely, same] at timely
  omega

/-- Where no two requests share a nonce and each is received later than it was signed, by more
than the time from its check to its transaction, none is accepted twice. -/
theorem copies_refused (latency : Int) (ordered : as.Pairwise Arrival.Before)
    (received : ∀ a ∈ as, a.transactionAt ≤ a.checkedAt + latency ∧
      a.request.signedAt + latency < a.receivedAt)
    (unshared : as.Pairwise fun a b => (nonceWindow cfg).key a = (nonceWindow cfg).key b →
      b.request = a.request) :
    (acceptedArrivals cfg as).Pairwise fun a b => a.request ≠ b.request := by
  have inOrder : as.Pairwise (nonceWindow cfg).InOrder :=
    ordered.imp fun before => ⟨before.2, Int.add_le_add_right before.1 _⟩
  have covered : (as.filter fun a => decide (a.Passes cfg)).Pairwise (nonceWindow cfg).Covers := by
    refine pairwise_filter.mpr (unshared.imp_of_mem ?_)
    intro a b first second same _ again key
    exact (of_decide_eq_true again).covered (same key) (received b second).1 (received a first).2
  rw [acceptedArrivals_eq cfg ordered]
  refine ((accepted_distinct_iff _ (inOrder.filter _)).mpr covered).imp fun other same => other ?_
  simp only [nonceWindow, same]

end Replay

/-- No two accepted requests carry the same service and nonce exactly when, among the requests
that pass all other checks, a second one with the same nonce always comes before the first one's
entry expires. -/
theorem worker_replay_iff (cfg : AuthSettings) (as : List Arrival) (free : CollisionFree cfg as)
    (ordered : as.Pairwise Arrival.Before) :
    ((acceptedArrivals cfg as).Pairwise fun a b => a.credential ≠ b.credential) ↔
      as.Pairwise fun a b => a.Passes cfg → b.Passes cfg → a.credential = b.credential →
        b.transactionAt < a.receivedAt + makeInterval cfg.signatureTtlSeconds := by
  have inOrder : (as.filter fun a => decide (a.Passes cfg)).Pairwise (nonceWindow cfg).InOrder := by
    refine (ordered.imp ?_).filter _
    rintro a b ⟨received, transaction⟩
    exact ⟨transaction, Int.add_le_add_right received _⟩
  have listed : ∀ a ∈ (nonceWindow cfg).accepted (fun _ => none)
      (as.filter fun a => decide (a.Passes cfg)), a ∈ as := fun a member =>
    mem_of_mem_filter ((nonceWindow cfg).accepted_subset _ _ member)
  rw [acceptedArrivals_eq cfg ordered]
  -- Equal keys are equal credentials, on the accepted requests and on all of them.
  refine (Pairwise.iff_of_mem fun first second => ?_).trans
    (((nonceWindow cfg).accepted_distinct_iff inOrder).trans (pairwise_filter.trans
      (Pairwise.iff_of_mem fun first second => ?_)))
  · exact not_congr (free.credential_iff (listed _ first) (listed _ second)).symm
  · simp only [decide_eq_true_iff, Covers, free.credential_iff first second]
    rfl

namespace Sample

def secret : String := "0123456789abcdef0123456789abcdef0123456789abcdef0123456789abcdef"

def requestBody : String := "\x7b\"worker_id\":\"qwen-ai-01-worker\"\x7d"

def requestDigest : String := "d1b213fdc2a58a17d55fa533b12e7aa5b846531221573176bef4cfb6201beb06"

def requestNonce : String := "nonce-0000000001"

def nonceDigest : String := "1375788e82463eaf6b0252e512b1390f9adebe65a634aedd91b749f7a9de00f0"

def signedText (timestamp : String) : String :=
  "\n".intercalate ["POST", "/internal/api/v1/ai/worker/jobs/claim", timestamp, requestNonce,
    requestDigest, "request-1", "correlation", "qwen-ai-01-worker", UUID.text 2, UUID.text 3]

def signatureNow : String := "f5f6abfc6286de3bf33152c88516121e703366cea9187f2a6e572f2f798a4766"

def signatureAhead : String := "a1dd83a2fa2af4c8bcb3eed743ceeb5bf4271076c9ddabafe85524217316f18b"

def authSettings : AuthSettings where
  sha256 text := if text = requestBody then requestDigest else nonceDigest
  hmacSha256 _ message :=
    if message = signedText "1700000000" then signatureNow else signatureAhead
  inNetwork _ network address := some (decide (network = address))
  loadCertificate _ := some {
    commonNames := ["qwen-polling-worker"]
    serialNumber := 3008
    notValidBefore := 0
    notValidAfter := makeInterval 2000000000
    uris := some ["spiffe://codestra.internal/worker/qwen"]
    ipAddresses := some ["10.40.0.4"]
    digitalSignature := some true
    clientAuth := some true }
  issuedByAuthority := some fun _ => true
  workerServiceId := "qwen-polling-worker"
  workerSourceCidrs := ["10.40.0.4"]
  workerTrustedProxyCidr := "10.250.241.2"
  workerCertificateSerial := some 3008
  workerCertificateIp := some "10.40.0.4"
  workerSpiffeId := "spiffe://codestra.internal/worker/qwen"
  workerHmacKeyId := "qwen-polling-worker-hmac-v1"
  workerId := "qwen-ai-01-worker"
  workerTenantId := some 2
  workerWorkspaceId := some 3
  hmacSecret := some secret
  signatureTtlSeconds := 300

def arrivalAt (timestamp : String) (seconds : Int) : Arrival where
  request := {
    clientHost := "10.250.241.2"
    method := "post"
    path := "/internal/api/v1/ai/worker/jobs/claim"
    body := requestBody
    serviceId := "qwen-polling-worker"
    hmacKeyId := "qwen-polling-worker-hmac-v1"
    timestamp := timestamp
    nonce := requestNonce
    bodyDigest := requestDigest
    signature := if timestamp = "1700000000" then signatureNow else signatureAhead
    certificate := "MIIB"
    sourceIp := "10.40.0.4"
    correlationId := "correlation"
    requestId := "request-1"
    workerId := "qwen-ai-01-worker"
    signatureVersion := "v2"
    tenantId := 2
    workspaceId := 3
    nonce_length := by decide +kernel
    signature_length := by split <;> decide +kernel
    correlationId_length := by decide +kernel
    requestId_length := by decide +kernel
    workerId_length := by decide +kernel }
  certificateAt := makeInterval seconds
  checkedAt := makeInterval seconds
  receivedAt := makeInterval seconds
  transactionAt := makeInterval seconds

def replay (timestamp : String) (first second : Int) : List Arrival :=
  [arrivalAt timestamp first, arrivalAt timestamp second]

theorem signedText_inj : signedText t = signedText t' ↔ t = t' := by
  simp only [signedText, String.intercalate_cons_cons]
  rw [String.append_right_inj, String.append_right_inj, String.append_left_inj,
    String.append_left_inj]

theorem verifySignature_arrivalAt (ascii : isAscii timestamp) (seconds : Int) :
    verifySignature authSettings secret (arrivalAt timestamp seconds).request = .ok () := by
  have digest : hex64 requestDigest := by decide +kernel
  have upper : "post".toUpper = "POST" := by decide +kernel
  have canonical : canonicalSigningStringV2 "POST" "/internal/api/v1/ai/worker/jobs/claim" timestamp
      requestNonce requestDigest "request-1" "correlation" "qwen-ai-01-worker" (UUID.text 2)
      (UUID.text 3) = .ok (signedText timestamp) := by
    have tenant : UUID.text 2 ≠ "" := by decide +kernel
    have fields : isAscii (signedText timestamp) := by
      rw [signedText, isAscii_lines]
      simp only [all_cons, ascii, Bool.true_and]
      decide +kernel
    simp only [canonicalSigningStringV2, tenant, ne_eq, not_false_eq_true, true_or, if_true,
      cons_append, nil_append, encodeAscii]
    exact if_pos fields
  have signature : compareDigest (authSettings.hmacSha256 secret (signedText timestamp))
      (if timestamp = "1700000000" then signatureNow else signatureAhead).toLower = .ok true := by
    simp only [authSettings, signedText_inj]
    split <;> decide +kernel
  simp only [verifySignature, arrivalAt, upper, canonical, signature]
  simp [authSettings, digest]

theorem certificateIdentity_authSettings (valid : 0 ≤ seconds ∧ seconds ≤ 2000000000)
    (encoded : String) : certificateIdentity authSettings (makeInterval seconds) encoded := by
  have start : 0 ≤ makeInterval seconds := by
    unfold makeInterval
    omega
  have stop : makeInterval seconds ≤ makeInterval 2000000000 := by
    unfold makeInterval
    omega
  simp [certificateIdentity, authSettings, start, stop]

theorem passes_arrivalAt (ascii : isAscii timestamp)
    (digits : decimalTimestamp timestamp) (valid : 0 ≤ seconds ∧ seconds ≤ 2000000000)
    (timely : (arrivalAt timestamp seconds).Timely authSettings) :
    (arrivalAt timestamp seconds).Passes authSettings := by
  have source : sourceAllowed authSettings "10.40.0.4" := by decide +kernel
  have nonce : safeNonce requestNonce := by decide +kernel
  have format : validSecret secret := by decide +kernel
  have key : encodeAscii (nonceText "qwen-polling-worker" requestNonce) =
      .ok (nonceText "qwen-polling-worker" requestNonce) := by decide +kernel
  have signed := verifySignature_arrivalAt ascii seconds
  have certified := certificateIdentity_authSettings valid "MIIB"
  refine ⟨?_, key⟩
  unfold checkRequest
  -- The seven checks before the secret, in their order; the last one comes first below.
  rw [if_neg, if_neg, if_neg, if_neg, if_neg, if_neg, if_neg]
  · have configured : authSettings.hmacSecret = some secret := rfl
    simp only [configured, format, not_true_eq_false, if_false, signed]
    simp [authSettings, arrivalAt]
  · exact not_not.mpr timely
  · simpa [arrivalAt, digits] using nonce
  · simp [arrivalAt]
  · simp [arrivalAt, authSettings]
  · simp [arrivalAt, authSettings]
  · exact not_not.mpr certified
  · simp [arrivalAt, authSettings] at source ⊢
    exact source

theorem collisionFree_replay (timestamp : String) (first second : Int) :
    CollisionFree authSettings (replay timestamp first second) := by
  -- One nonce only.
  intro a there b again _
  simp only [replay, mem_cons, not_mem_nil, or_false] at there again
  rcases there with rfl | rfl <;> rcases again with rfl | rfl <;> rfl

end Sample

open Sample

theorem late_copies_refused :
    (acceptedArrivals authSettings (replay "1700000000" 1700000001 1700000300)).Pairwise
    fun a b => a.request ≠ b.request :=
  copies_refused 0 (by decide +kernel) (by decide +kernel) (by simp [replay, arrivalAt])

theorem not_distinct_of_pair (same : a.credential = b.credential)
    (both : acceptedArrivals cfg [a, b] = [a, b]) :
    ¬ (acceptedArrivals cfg [a, b]).Pairwise fun a b => a.credential ≠ b.credential := by
  rw [both]
  simp [same]

/-- A request received when it was signed is accepted again at the instant its nonce expires, and
one signed five minutes ahead of the server's clock even ten minutes later. -/
theorem worker_replay_accepted :
    ((replay "1700000000" 1700000000 1700000300).Pairwise Arrival.Before ∧
      ¬ (acceptedArrivals authSettings (replay "1700000000" 1700000000 1700000300)).Pairwise
          fun a b => a.credential ≠ b.credential) ∧
    (replay "1700000300" 1700000000 1700000600).Pairwise Arrival.Before ∧
    ¬ (acceptedArrivals authSettings
        (replay "1700000300" 1700000000 1700000600)).Pairwise fun a b =>
        a.credential ≠ b.credential := by
  refine ⟨⟨by decide +kernel, ?_⟩, by decide +kernel, ?_⟩
  all_goals
    refine not_distinct_of_pair rfl (acceptedArrivals_pair ?_ ?_ (by decide +kernel)
      (by decide +kernel))
    · apply passes_arrivalAt <;> decide +kernel
    · apply passes_arrivalAt <;> decide +kernel

/-- A second before the nonce expires the copy passes all other checks and is refused. -/
theorem worker_replay_refused : (arrivalAt "1700000000" 1700000299).Passes authSettings ∧
    (acceptedArrivals authSettings (replay "1700000000" 1700000000 1700000299)).Pairwise
        fun a b => a.credential ≠ b.credential := by
  constructor
  · apply passes_arrivalAt <;> decide +kernel
  · refine (worker_replay_iff authSettings
      (replay "1700000000" 1700000000 1700000299) (collisionFree_replay _ _ _)
      (by decide +kernel)).mpr ?_
    simp only [replay, pairwise_cons, mem_singleton, forall_eq, not_mem_nil,
      false_implies, implies_true, Pairwise.nil, and_true]
    intro _ _ _
    decide +kernel

end CodestraMiddleware.AiJobs
