import CodestraMiddleware.Foundations.Fields
import CodestraMiddleware.LeadAutomation.Contracts

/-!
# Callbacks signed with HMAC-V2

`sign_callback` and `verify_callback` of `app/core/lead_callback_auth.py`. Both sign the same text,
the eleven fields of `canonical_callback_material` joined by newlines.
-/
namespace CodestraMiddleware.LeadAutomation

open Raising List

abbrev Bytes := List UInt8

inductive CallbackFault where
  /-- `CallbackAuthenticationError`. -/
  | authentication (message : String)
  | unicodeEncodeError | typeError | overflowError

def identity : String := "codestra-n8n-lead-automation"

def audience : String := "codestra-middleware-lead-automation"

def signatureVersion : String := "HMAC-V2"

def callbackScope : String := "lead-automation.results.write"

def callbackMethod : String := "POST"

def callbackPath : String := "/api/v1/lead-automation/results"

def lowerSha256 (text : String) : Bool :=
  decide (text.length = 64) && text.toList.all fun c =>
    decide (('0' ≤ c ∧ c ≤ '9') ∨ ('a' ≤ c ∧ c ≤ 'f'))

def isAscii (text : String) : Bool := text.toList.all fun c => decide (c.toNat < 128)

/-- A field that may stand in the signed text. -/
def isLine (text : String) : Bool :=
  decide (text ≠ "") && decide ('\n' ∉ text.toList) && decide ('\r' ∉ text.toList)

/-- `hexdigest()` of SHA-256 and of HMAC-SHA256, and the time that a text denotes. -/
structure CallbackCrypto where
  sha256 : Bytes → String
  hmac : Bytes → String → String
  fromisoformat : String → IsoFormat
  sha256_hex : ∀ body, lowerSha256 (sha256 body) = true
  hmac_hex : ∀ secret text, lowerSha256 (hmac secret text) = true

/-! ## The signed text -/

structure CallbackMaterial where
  (signatureVersion method path timestamp nonce serviceIdentity serviceAudience environment scope :
    String)
  (idempotencyKey bodySha256 : String)

def CallbackMaterial.values (m : CallbackMaterial) : List String :=
  [m.signatureVersion, m.method, m.path, m.timestamp, m.nonce, m.serviceIdentity, m.serviceAudience,
    m.environment, m.scope, m.idempotencyKey, m.bodySha256]

/-- `"\n".join(values).encode("ascii")` is kept as the text that it encodes. -/
def canonicalCallbackMaterial (m : CallbackMaterial) : Except CallbackFault String := do
  check (∀ v ∈ m.values, isLine v = true) (.authentication "invalid callback signing material")
  -- A method that is not ASCII is refused whatever its upper case is.
  check (isAscii m.method = true ∧ m.method.toList.all (fun c => !('a' ≤ c ∧ c ≤ 'z')) = true)
    (.authentication "invalid callback method")
  check (isAscii m.path = true ∧ m.path.toList.all (· ∉ ['?', '#', '%']) = true)
    (.authentication "invalid callback path")
  check (lowerSha256 m.bodySha256 = true) (.authentication "invalid callback body hash format")
  check (m.signatureVersion = signatureVersion)
    (.authentication "unsupported callback signature version")
  check (isAscii ("\n".intercalate m.values) = true) .unicodeEncodeError
  .ok ("\n".intercalate m.values)

variable {text : String}

theorem isLine_spec (line : isLine text = true) : text ≠ "" ∧ '\n' ∉ text.toList := by
  simp only [isLine, Bool.and_eq_true, decide_eq_true_eq] at line
  exact line.1

theorem isAscii_lines (fields : List String) :
    isAscii ("\n".intercalate fields) = fields.all isAscii :=
  Lines.all_join rfl fields

theorem canonicalCallbackMaterial_eq_ok_iff : canonicalCallbackMaterial m = .ok text ↔
    (∀ v ∈ m.values, isLine v = true) ∧
      (isAscii m.method = true ∧ m.method.toList.all (fun c => !('a' ≤ c ∧ c ≤ 'z')) = true) ∧
      (isAscii m.path = true ∧ m.path.toList.all (· ∉ ['?', '#', '%']) = true) ∧
      lowerSha256 m.bodySha256 = true ∧ m.signatureVersion = signatureVersion ∧
      (∀ v ∈ m.values, isAscii v = true) ∧ "\n".intercalate m.values = text := by
  simp [canonicalCallbackMaterial, check_eq_ok, isAscii_lines]

theorem canonicalCallbackMaterial_injective (ok : canonicalCallbackMaterial m = .ok text)
    (ok' : canonicalCallbackMaterial m' = .ok text) : m = m' := by
  obtain ⟨lines, -, -, -, -, -, text⟩ := canonicalCallbackMaterial_eq_ok_iff.mp ok
  obtain ⟨lines', -, -, -, -, -, text'⟩ := canonicalCallbackMaterial_eq_ok_iff.mp ok'
  have values := Lines.join_injective (by simp [CallbackMaterial.values])
    (by simp [CallbackMaterial.values]) (fun v listed => (isLine_spec (lines v listed)).2)
    (fun v listed => (isLine_spec (lines' v listed)).2) (text.trans text'.symm)
  obtain ⟨⟩ := m
  obtain ⟨⟩ := m'
  simpa [CallbackMaterial.values] using values

abbrev Headers := List (String × String)

variable (c : CallbackCrypto)

def signCallback (body secret : Bytes) (timestamp nonce idempotencyKey environment : String)
    (method : String := callbackMethod) (path : String := callbackPath) :
    Except CallbackFault Headers := do
  let bodyHash := c.sha256 body
  let material ← canonicalCallbackMaterial {
    signatureVersion := signatureVersion
    method := method
    path := path
    timestamp := timestamp
    nonce := nonce
    serviceIdentity := identity
    serviceAudience := audience
    environment := environment
    scope := callbackScope
    idempotencyKey := idempotencyKey
    bodySha256 := bodyHash }
  .ok [("X-Codestra-Signature-Version", signatureVersion), ("X-Service-Identity", identity),
    ("X-Service-Audience", audience), ("X-Codestra-Timestamp", timestamp),
    ("X-Codestra-Nonce", nonce),
    ("X-Codestra-Content-SHA256", bodyHash), ("X-Codestra-Signature", c.hmac secret material),
    ("Idempotency-Key", idempotencyKey), ("X-Codestra-Environment", environment),
    ("X-Codestra-Scope", callbackScope)]

/-- What the caller passes as `now`, in microseconds. -/
inductive Clock where
  | naive
  | aware (utc : Int)

structure CallbackRequest where
  (method path : String)
  (queryString body : Bytes)
  headers : Headers
  secret : Bytes
  environment : String
  now : Clock

def requiredHeaders : List String :=
  ["X-Codestra-Signature-Version", "X-Service-Identity", "X-Service-Audience",
  "X-Codestra-Timestamp", "X-Codestra-Nonce", "X-Codestra-Content-SHA256", "X-Codestra-Signature",
  "Idempotency-Key", "X-Codestra-Environment", "X-Codestra-Scope"]

structure NonceKey where
  (environment scope path nonce : String)
  deriving DecidableEq

namespace CallbackRequest

variable (q : CallbackRequest)

def header (name : String) : String := (q.headers.lookup name).getD ""

def nonceKey : NonceKey := ⟨q.environment, callbackScope, q.path, q.header "X-Codestra-Nonce"⟩

def material : CallbackMaterial where
  signatureVersion := q.header "X-Codestra-Signature-Version"
  method := q.method
  path := q.path
  timestamp := q.header "X-Codestra-Timestamp"
  nonce := q.header "X-Codestra-Nonce"
  serviceIdentity := q.header "X-Service-Identity"
  serviceAudience := q.header "X-Service-Audience"
  environment := q.header "X-Codestra-Environment"
  scope := q.header "X-Codestra-Scope"
  idempotencyKey := q.header "Idempotency-Key"
  bodySha256 := c.sha256 q.body

/-- The time of a request is within 300 seconds of the clock. -/
def checkTimestamp : Except CallbackFault Unit :=
  match c.fromisoformat (q.header "X-Codestra-Timestamp"), q.now with
  | .invalid, _ => .error (.authentication "invalid callback timestamp")
  | .naive, _ => .error (.authentication "expired callback timestamp")
  | .aware none, _ => .error .overflowError
  | .aware (some _), .naive => .error .typeError
  | .aware (some occurred), .aware now =>
    check ((now - occurred).natAbs ≤ 300 * 1000000) (.authentication "expired callback timestamp")

def verify (usedNonces : List NonceKey) : Except CallbackFault Unit := do
  check (∀ name ∈ requiredHeaders, q.header name ≠ "")
    (.authentication "missing callback signature")
  check (q.method = callbackMethod) (.authentication "callback method mismatch")
  check (q.path = callbackPath) (.authentication "callback path mismatch")
  check (q.queryString = []) (.authentication "callback query string is prohibited")
  check (q.header "X-Codestra-Signature-Version" = signatureVersion)
    (.authentication "unsupported callback signature version")
  check (q.header "X-Service-Identity" = identity ∧ q.header "X-Service-Audience" = audience)
    (.authentication "callback identity binding mismatch")
  check (q.header "X-Codestra-Environment" = q.environment)
    (.authentication "callback environment mismatch")
  check (q.header "X-Codestra-Scope" = callbackScope) (.authentication "callback scope mismatch")
  check (lowerSha256 (q.header "X-Codestra-Content-SHA256") = true)
    (.authentication "invalid callback body hash format")
  check (c.sha256 q.body = q.header "X-Codestra-Content-SHA256")
    (.authentication "callback body hash mismatch")
  q.checkTimestamp c
  check (q.nonceKey ∉ usedNonces) (.authentication "reused callback nonce")
  let material ← canonicalCallbackMaterial (q.material c)
  -- `compare_digest` takes no text outside ASCII.
  check (isAscii (q.header "X-Codestra-Signature") = true) .typeError
  check (c.hmac q.secret material = q.header "X-Codestra-Signature")
    (.authentication "invalid callback signature")

end CallbackRequest

/-- `verify_callback`, with the nonces that it leaves in the set. -/
def verifyCallback (usedNonces : List NonceKey) (q : CallbackRequest) :
    List NonceKey × Except CallbackFault Unit :=
  match q.verify c usedNonces with
  | .ok () => (usedNonces ++ [q.nonceKey], .ok ())
  | .error fault => (usedNonces, .error fault)

/-! ## What is accepted -/

variable {c} {q : CallbackRequest} {usedNonces : List NonceKey}

theorem lowerSha256_ne_empty (hex : lowerSha256 text = true) : text ≠ "" := by
  rintro rfl
  cases hex

theorem isAscii_of_lowerSha256 (hex : lowerSha256 text = true) : isAscii text = true := by
  simp only [lowerSha256, Bool.and_eq_true, all_eq_true, decide_eq_true_eq] at hex
  simp only [isAscii, all_eq_true, decide_eq_true_eq]
  intro char member
  rcases hex.2 char member with ⟨-, digit⟩ | ⟨-, letter⟩
  · exact lt_of_le_of_lt (UInt32.le_iff_toNat_le.mp digit) (by decide)
  · exact lt_of_le_of_lt (UInt32.le_iff_toNat_le.mp letter) (by decide)

namespace CallbackRequest

def Timely (c : CallbackCrypto) (q : CallbackRequest) : Prop :=
  ∃ occurred now, c.fromisoformat (q.header "X-Codestra-Timestamp") = .aware (some occurred) ∧
    q.now = .aware now ∧ (now - occurred).natAbs ≤ 300 * 1000000

/-- The ten headers are those that `sign_callback` makes for what the request says of itself. -/
def Signed (c : CallbackCrypto) (q : CallbackRequest) : Prop :=
  ∃ signed, signCallback c q.body q.secret (q.header "X-Codestra-Timestamp")
      (q.header "X-Codestra-Nonce") (q.header "Idempotency-Key") q.environment = .ok signed ∧
    ∀ name ∈ requiredHeaders, q.headers.lookup name = signed.lookup name

theorem checkTimestamp_eq_ok_iff : q.checkTimestamp c = .ok () ↔ q.Timely c := by
  unfold checkTimestamp Timely
  split <;> simp_all

theorem lookup_of_header (given : q.header name = value) (some : value ≠ "") :
    q.headers.lookup name = .some value := by
  unfold header at given
  cases found : q.headers.lookup name with
  | none =>
    rw [found] at given
    exact absurd given.symm some
  | some v =>
    rw [found] at given
    exact congrArg Option.some given

theorem header_of_lookup (found : q.headers.lookup name = some value) : q.header name = value := by
  rw [header, found]
  rfl

theorem signed_of_verify (accepted : q.verify c usedNonces = .ok ()) :
    q.method = callbackMethod ∧ q.path = callbackPath ∧ q.queryString = [] ∧ q.Timely c ∧
      q.nonceKey ∉ usedNonces ∧ q.Signed c := by
  simp only [verify, bind_eq_ok, check_eq_ok, exists_const] at accepted
  obtain ⟨given, method, path, query, version, ⟨service, target⟩, environment, scope, -, body, _,
    timely, fresh, text, canonical, -, signature⟩ := accepted
  refine ⟨method, path, query, checkTimestamp_eq_ok_iff.mp timely, fresh, _,
    bind_eq_ok.mpr ⟨text, ?_, rfl⟩, ?_⟩
  · rw [← canonical, material, version, service, target, environment, scope, method, path]
  · have lookup : ∀ name ∈ requiredHeaders, ∀ value, q.header name = value →
        q.headers.lookup name = some value := by
      rintro name member _ rfl
      exact lookup_of_header rfl (given name member)
    simp only [requiredHeaders, forall_mem_cons] at lookup ⊢
    obtain ⟨l1, l2, l3, l4, l5, l6, l7, l8, l9, l10, -⟩ := lookup
    exact ⟨l1 _ version, l2 _ service, l3 _ target, l4 _ rfl, l5 _ rfl, l6 _ body.symm,
      l7 _ signature.symm, l8 _ rfl, l9 _ environment, l10 _ scope, forall_mem_nil _⟩

theorem verify_of_signed (method : q.method = callbackMethod) (path : q.path = callbackPath)
    (query : q.queryString = []) (timely : q.Timely c) (fresh : q.nonceKey ∉ usedNonces)
    (signed : q.Signed c) : q.verify c usedNonces = .ok () := by
  obtain ⟨signed, signs, headers⟩ := signed
  simp only [signCallback, bind_eq_ok, Except.ok.injEq] at signs
  obtain ⟨text, canonical, rfl⟩ := signs
  simp only [requiredHeaders, forall_mem_cons] at headers
  obtain ⟨l1, l2, l3, -, -, l6, l7, -, l9, l10, -⟩ := headers
  have version := header_of_lookup l1
  have service := header_of_lookup l2
  have target := header_of_lookup l3
  have body := header_of_lookup l6
  have signature := header_of_lookup l7
  have environment := header_of_lookup l9
  have scope := header_of_lookup l10
  -- No field of the signed text is empty, and neither are the digests.
  have line : ∀ {v : String}, isLine v = true → v ≠ "" := fun valid => (isLine_spec valid).1
  have lines := (canonicalCallbackMaterial_eq_ok_iff.mp canonical).1
  simp only [CallbackMaterial.values, forall_mem_cons] at lines
  obtain ⟨-, -, -, timestamp, nonce, -, -, named, -, key, -⟩ := lines
  have given : ∀ name ∈ requiredHeaders, q.header name ≠ "" := by
    simp only [requiredHeaders, forall_mem_cons]
    refine ⟨version ▸ by decide, service ▸ by decide, target ▸ by decide,
      line timestamp, line nonce,
      body ▸ lowerSha256_ne_empty (c.sha256_hex _), signature ▸ lowerSha256_ne_empty
      (c.hmac_hex _ _), line key, environment ▸ line named, scope ▸ by decide, forall_mem_nil _⟩
  have same : canonicalCallbackMaterial (q.material c) = .ok text := by
    rw [material, version, service, target, environment, scope, method, path]
    exact canonical
  simp only [verify, bind_eq_ok, check_eq_ok, exists_const]
  exact ⟨given, method, path, query, version, ⟨service, target⟩, environment, scope,
    body ▸ c.sha256_hex _, body.symm, (), checkTimestamp_eq_ok_iff.mpr timely, fresh, text, same,
    signature ▸ isAscii_of_lowerSha256 (c.hmac_hex _ _), signature.symm⟩

end CallbackRequest

theorem verifyCallback_snd : (verifyCallback c usedNonces q).2 = q.verify c usedNonces := by
  unfold verifyCallback
  split <;> simp_all

theorem verifyCallback_of_error (rejected : (verifyCallback c usedNonces q).2 = .error fault) :
    (verifyCallback c usedNonces q).1 = usedNonces := by
  rw [verifyCallback_snd] at rejected
  rw [verifyCallback, rejected]

/-! ## A sequence of calls -/

def acceptedKeys (c : CallbackCrypto) (usedNonces : List NonceKey) : List CallbackRequest →
    List NonceKey
  | [] => []
  | q :: qs =>
    match (verifyCallback c usedNonces q).2 with
    | .ok () => q.nonceKey :: acceptedKeys c (verifyCallback c usedNonces q).1 qs
    | .error _ => acceptedKeys c (verifyCallback c usedNonces q).1 qs

theorem acceptedKeys_nodup (usedNonces : List NonceKey) (qs : List CallbackRequest) :
    (acceptedKeys c usedNonces qs).Nodup ∧ ∀ key ∈ usedNonces, key ∉ acceptedKeys c
    usedNonces qs := by
  induction qs generalizing usedNonces with
  | nil => exact ⟨nodup_nil, by simp [acceptedKeys]⟩
  | cons q qs ih =>
    rw [acceptedKeys]
    split
    next accepted =>
      rw [verifyCallback_snd] at accepted
      have fresh := (CallbackRequest.signed_of_verify accepted).2.2.2.2.1
      rw [verifyCallback, accepted]
      obtain ⟨nodup, apart⟩ := ih (usedNonces ++ [q.nonceKey])
      refine ⟨nodup_cons.mpr ⟨apart _ (by simp), nodup⟩, ?_⟩
      intro key used
      rw [mem_cons, not_or]
      refine ⟨?_, apart key (by simp [used])⟩
      rintro rfl
      exact fresh used
    next fault rejected =>
      rw [verifyCallback_of_error rejected]
      exact ih usedNonces

def signedRequest (body secret : Bytes) (environment : String) (now : Int) (signed : Headers) :
    CallbackRequest where
  method := callbackMethod
  path := callbackPath
  queryString := []
  body := body
  headers := signed
  secret := secret
  environment := environment
  now := .aware now

theorem signedRequest_headers (now : Int)
    (signs : signCallback c body secret timestamp nonce key environment = .ok signed) :
    let q := signedRequest body secret environment now signed
    q.header "X-Codestra-Timestamp" = timestamp ∧ q.header "X-Codestra-Nonce" = nonce ∧
    q.header "Idempotency-Key" = key := by
  simp only [signCallback, bind_eq_ok, Except.ok.injEq] at signs
  obtain ⟨_, -, rfl⟩ := signs
  exact ⟨rfl, rfl, rfl⟩

theorem signedRequest_accepted_iff
    (signs : signCallback c body secret timestamp nonce key environment = .ok signed)
    (time : c.fromisoformat timestamp = .aware (some occurred))
    (near : (now - occurred).natAbs ≤ 300 * 1000000) :
    (verifyCallback c usedNonces (signedRequest body secret environment now signed)).2 = .ok () ↔
      ⟨environment, callbackScope, callbackPath, nonce⟩ ∉ usedNonces := by
  obtain ⟨timestampGiven, nonceGiven, keyGiven⟩ := signedRequest_headers now signs
  have nonceKey : (signedRequest body secret environment now signed).nonceKey =
      ⟨environment, callbackScope, callbackPath, nonce⟩ := by
    rw [CallbackRequest.nonceKey, nonceGiven]
    rfl
  rw [verifyCallback_snd, ← nonceKey]
  constructor
  · exact fun accepted => (CallbackRequest.signed_of_verify accepted).2.2.2.2.1
  · intro fresh
    refine CallbackRequest.verify_of_signed rfl rfl rfl ⟨occurred, now, ?_, rfl, near⟩ fresh
      ⟨signed, ?_, fun _ _ => rfl⟩
    · rw [timestampGiven]
      exact time
    · rw [timestampGiven, nonceGiven, keyGiven]
      exact signs

/-- Signing and verifying agree. Over any sequence of calls, a signed request that comes in time is
accepted exactly if its nonce is new; what is accepted carries the headers that signing makes for
it, and the signed text determines its fields; no nonce key is accepted twice; and what is rejected
leaves the nonces as they were. -/
theorem callback_signing_verified (c : CallbackCrypto) :
    (∀ usedNonces body secret timestamp nonce key environment now occurred signed,
      signCallback c body secret timestamp nonce key environment = .ok signed →
      c.fromisoformat timestamp = .aware (some occurred) → (now - occurred).natAbs ≤ 300 * 1000000 →
      ((verifyCallback c usedNonces (signedRequest body secret environment now signed)).2 = .ok () ↔
        ⟨environment, callbackScope, callbackPath, nonce⟩ ∉ usedNonces)) ∧
      (∀ usedNonces q, (verifyCallback c usedNonces q).2 = .ok () → q.Signed c) ∧
      (∀ m m' text, canonicalCallbackMaterial m = .ok text →
        canonicalCallbackMaterial m' = .ok text → m = m') ∧
      (∀ usedNonces qs, (acceptedKeys c usedNonces qs).Nodup ∧ ∀ key ∈ usedNonces,
        key ∉ acceptedKeys c usedNonces qs) ∧
      ∀ usedNonces q fault, (verifyCallback c usedNonces q).2 = .error fault →
        (verifyCallback c usedNonces q).1 = usedNonces := by
  refine ⟨fun _ _ _ _ _ _ _ _ _ _ => signedRequest_accepted_iff, ?_,
    fun _ _ _ => canonicalCallbackMaterial_injective, acceptedKeys_nodup, fun _ _ _ =>
    verifyCallback_of_error⟩
  intro usedNonces q accepted
  rw [verifyCallback_snd] at accepted
  exact (CallbackRequest.signed_of_verify accepted).2.2.2.2.2

/-- The body is an empty object. -/
def sampleBody : Bytes := [123, 125]

def sampleSecret : Bytes := [115, 101, 99, 114, 101, 116]

def sampleTime : String := "2026-01-01T00:00:00Z"

def sampleMaterial : String :=
  "\n".intercalate [signatureVersion, callbackMethod, callbackPath, sampleTime, "n1", identity,
    audience, "test",
    callbackScope, "k1", "44136fa355b3678a1146ad16f7e8649e94fb4fc21fe77e8310c060f61caaff8a"]

/-- The digests of the sample, and of the empty text for everything else. -/
def sampleCrypto : CallbackCrypto where
  sha256 body := if body = sampleBody then
    "44136fa355b3678a1146ad16f7e8649e94fb4fc21fe77e8310c060f61caaff8a"
    else "e3b0c44298fc1c149afbf4c8996fb92427ae41e4649b934ca495991b7852b855"
  hmac secret text := if secret = sampleSecret ∧ text = sampleMaterial then
      "63b40fe56570d76fffb43267a03ad242d33071406f98f7d34b0d50c9269ace9f"
    else "f9e66e179b6747ae54108f82f8ade8b3c25d76fd30afde6c395822c530196169"
  fromisoformat text := if text = sampleTime then .aware (some 1767225600000000) else .invalid
  sha256_hex _ := by
    split <;> decide +kernel
  hmac_hex _ _ := by
    split <;> decide +kernel

def sampleSigned : Headers :=
  (signCallback sampleCrypto sampleBody sampleSecret sampleTime "n1" "k1" "test").toOption.getD []

theorem sampleSigned_signs :
    signCallback sampleCrypto sampleBody sampleSecret sampleTime "n1" "k1" "test" =
    .ok sampleSigned := by
  have signs : ∃ signed, signCallback sampleCrypto sampleBody sampleSecret sampleTime "n1" "k1"
      "test" = .ok signed := by
    refine ⟨_, bind_eq_ok.mpr ⟨_, canonicalCallbackMaterial_eq_ok_iff.mpr
      ⟨?_, ?_, ?_, ?_, rfl, ?_, rfl⟩, rfl⟩⟩
    all_goals decide +kernel
  obtain ⟨_, signs⟩ := signs
  rw [sampleSigned, signs]
  rfl

/-- The sample is accepted, 300 seconds late, and only once. -/
theorem sampleSigned_accepted_once :
    let request := signedRequest sampleBody sampleSecret "test" 1767225900000000 sampleSigned
    (verifyCallback sampleCrypto [] request).2 = .ok () ∧
      (verifyCallback sampleCrypto [⟨"test", callbackScope, callbackPath, "n1"⟩] request).2 ≠
      .ok () := by
  have accepted := fun usedNonces => (callback_signing_verified sampleCrypto).1 usedNonces
    sampleBody sampleSecret
    sampleTime "n1" "k1" "test" 1767225900000000 1767225600000000 sampleSigned sampleSigned_signs
    rfl (by decide)
  exact ⟨(accepted []).mpr (by simp), fun again => (accepted _).mp again (by simp)⟩

end CodestraMiddleware.LeadAutomation
