import CodestraMiddleware.Email.Events
import CodestraMiddleware.Foundations.Raising

/-!
# Inbound mail and its cases

`ingest_inbound` of `email/contracts.py` finds the case of a message under one thread key: the
message that it answers. A case is named by its unique `(tenant_id, thread_key)`.
-/
namespace CodestraMiddleware.Email

open Transition Raising List

def beyvraAccountId : String := "edc90db9-6f89-56dc-986c-d96c244c5f55"

def eventTypes : List String :=
  ["INBOUND_MESSAGE", "DELIVERY_ACCEPTED", "DELIVERY_SENT", "DELIVERY_DELIVERED",
    "DELIVERY_DEFERRED", "BOUNCE_SOFT", "BOUNCE_HARD", "COMPLAINT", "FAILED", "SUPPRESSED"]

/-- The fields of an event's body that decide about it. -/
structure Body where
  (schemaVersion eventId eventType occurredAt provider tenantId accountId : Option String)
  (recipient messageId : String)
  inReplyTo : Option String
  references : List String

structure ServiceIdentityMapping where
  (tenantId environment : String)
  active : Bool

structure EmailTenant where
  environment : String
  active : Bool

/-- The seeded tables, and which texts `datetime.fromisoformat` reads. -/
structure Directory where
  mapping : String → Option ServiceIdentityMapping
  tenant : String → Option EmailTenant
  -- The active department of a tenant at an address, which is stripped and lower-cased.
  department : String → String → Option Nat
  isoDate : String → Bool

structure EmailCase where
  tenantId : String
  departmentId : Nat
  threadKey : String

structure CaseMessage where
  -- `tenant_id` and `thread_key` of the case.
  case : String × String
  (providerEventId messageId : String)
  inReplyTo : Option String
  references : List String

structure Cases where
  cases : List EmailCase
  messages : List CaseMessage

section

variable (d : Directory)

def authoritativeTenant (service : String) : Except String String :=
  match (d.mapping service).filter fun m => m.active && m.environment == "production" with
  | none => .error "service_identity_not_mapped"
  | some mapping =>
    match (d.tenant mapping.tenantId).filter fun t => t.active && t.environment == "production" with
    | none => .error "tenant_not_active"
    | some _ => .ok mapping.tenantId

def Body.missing (body : Body) : List String :=
  [("event_id", body.eventId), ("event_type", body.eventType), ("occurred_at", body.occurredAt),
    ("provider", body.provider), ("schema_version", body.schemaVersion)].filterMap
    fun (name, value) =>
      if value.isNone then some name else none

def validateEvent (body : Body) (expected : Option String) : Except String Unit := do
  check (body.missing = []) ("missing_event_fields:" ++ ",".intercalate body.missing)
  check (body.schemaVersion = some "codestra.email.v1" ∧ body.eventType.getD "" ∈ eventTypes)
    "unsupported_event_contract"
  check (expected = none ∨ body.eventType = expected) "unexpected_event_type"
  check (body.provider = some "klyrow-postal") "invalid_provider"
  check (d.isoDate (body.occurredAt.getD "")) "invalid_isoformat_string"
  check (body.tenantId.getD beyvraTenantId = beyvraTenantId ∧
    body.accountId.getD beyvraAccountId = beyvraAccountId) "tenant_override_denied"

/-- `^<[^<>\r\n]{1,996}>$`. -/
def isMessageId (text : String) : Bool :=
  match text.toList with
  | '<' :: rest => rest.getLast? == some '>' && 2 ≤ rest.length && rest.length ≤ 997 &&
      rest.dropLast.all (· ∉ ['<', '>', '\r', '\n'])
  | _ => false

/-- `in_reply_to or (references[-1] if references else message_id)`. -/
def Body.threadKey (body : Body) : String :=
  match body.inReplyTo.filter (· ≠ "") with
  | some id => id
  | none => body.references.getLast?.getD body.messageId

def ingestInbound (service : String) (body : Body) (db : Cases) :
    Except String (Cases × CaseMessage × Bool) := do
  validateEvent d body (some "INBOUND_MESSAGE")
  let tenantId ← authoritativeTenant d service
  match db.messages.find? (·.providerEventId = body.eventId.getD "") with
  | some existing => return (db, existing, true)
  | none =>
    match d.department tenantId body.recipient with
    | none => .error "unknown_recipient"
    | some departmentId =>
      check (isMessageId body.messageId) "invalid_message_id"
      let cases := if db.cases.any fun c => c.tenantId = tenantId ∧
        c.threadKey = body.threadKey then db.cases
        else db.cases ++ [⟨tenantId, departmentId, body.threadKey⟩]
      let message : CaseMessage :=
        ⟨(tenantId, body.threadKey), body.eventId.getD "", body.messageId, body.inReplyTo,
          body.references⟩
      return (⟨cases, db.messages ++ [message]⟩, message, false)

structure Delivery where
  service : String
  body : Body

/-- A new message that starts a conversation or answers a stored one, with its
ancestors from the root on. -/
structure Conversational (db : Cases) (e : Delivery) : Prop where
  accepted : ∃ db' m, ingestInbound d e.service e.body db = .ok (db', m, false)
  fresh : ∀ m ∈ db.messages, m.messageId ≠ e.body.messageId
  linked : (e.body.inReplyTo = none ∧ e.body.references = []) ∨
    ∃ p ∈ db.messages, e.body.inReplyTo = some p.messageId ∧ e.body.references = p.references ++
    [p.messageId]

def inbound : System Cases Delivery where
  step db e :=
    match ingestInbound d e.service e.body db with
    | .ok (db', _) => db'
    | .error _ => db
  admits := Conversational d

/-- What is answered started its conversation, and with the same tenant. -/
def AnswersStarter (db : Cases) (e : Delivery) : Prop :=
  ∀ p ∈ db.messages, e.body.inReplyTo = some p.messageId → p.inReplyTo = none ∧
    authoritativeTenant d e.service = .ok p.case.1

end

/-- Every message is in the case of the one that it answers, and conversations
are in different cases. -/
structure Cases.Threaded (db : Cases) : Prop where
  together : ∀ m ∈ db.messages, ∀ p ∈ db.messages, m.inReplyTo = some p.messageId → m.case = p.case
  apart : ∀ m ∈ db.messages, ∀ n ∈ db.messages, m.inReplyTo = none → n.inReplyTo = none →
    m.case = n.case → m = n

structure Cases.Rooted (db : Cases) : Prop where
  named : ∀ m ∈ db.messages, m.messageId ≠ ""
  distinct : ∀ m ∈ db.messages, ∀ n ∈ db.messages, m.messageId = n.messageId → m = n
  started : ∀ m ∈ db.messages, m.inReplyTo = none → m.case.2 = m.messageId
  answered : ∀ m ∈ db.messages, ∀ id, m.inReplyTo = some id →
    ∃ p ∈ db.messages, p.messageId = id ∧ p.inReplyTo = none ∧ m.case = p.case

theorem Cases.Rooted.threaded {db : Cases} (rooted : db.Rooted) : db.Threaded where
  together m member p stored link := by
    obtain ⟨p', stored', same, -, case⟩ := rooted.answered m member _ link
    exact rooted.distinct p' stored' p stored same ▸ case
  apart m member n member' start start' same := by
    -- Who starts a conversation gives its case the key.
    apply rooted.distinct m member n member'
    rw [← rooted.started m member start, ← rooted.started n member' start', same]

variable {d : Directory} {db db' : Cases} {e : Delivery} {m : CaseMessage}

theorem ingestInbound_new (ok : ingestInbound d e.service e.body db = .ok (db', m, false)) :
    ∃ tenantId, authoritativeTenant d e.service = .ok tenantId ∧ e.body.messageId ≠ "" ∧
      db'.messages = db.messages ++ [m] ∧ m = ⟨(tenantId, e.body.threadKey), e.body.eventId.getD "",
        e.body.messageId, e.body.inReplyTo, e.body.references⟩ := by
  unfold ingestInbound at ok
  obtain ⟨-, -, ok⟩ := bind_eq_ok.mp ok
  obtain ⟨tenantId, tenant, ok⟩ := bind_eq_ok.mp ok
  split at ok
  · cases ok
  split at ok
  · cases ok
  obtain ⟨_, valid, ok⟩ := bind_eq_ok.mp ok
  cases ok
  refine ⟨tenantId, tenant, ?_, rfl, rfl⟩
  intro empty
  rw [empty] at valid
  cases valid

theorem Cases.Rooted.step (rooted : db.Rooted) (admitted : Conversational d db e)
    (direct : AnswersStarter d db e) : ((inbound d).step db e).Rooted := by
  obtain ⟨db', m, ok⟩ := admitted.accepted
  have next : (inbound d).step db e = db' := by simp [inbound, ok]
  obtain ⟨_, tenant, named, messages, rfl⟩ := ingestInbound_new ok
  rw [next]
  constructor <;> simp only [messages, mem_append, mem_singleton]
  · rintro m (old | rfl)
    · exact rooted.named m old
    · exact named
  · rintro m (old | rfl) n (old' | rfl) same
    · exact rooted.distinct m old n old' same
    · exact absurd same (admitted.fresh m old)
    · exact absurd same.symm (admitted.fresh n old')
    · rfl
  · rintro m (old | rfl) start
    · exact rooted.started m old start
    · rcases admitted.linked with ⟨-, bare⟩ | ⟨p, -, link, -⟩
      · dsimp only at start
        simp [Body.threadKey, start, bare]
      · cases start.symm.trans link
  · rintro m (old | rfl) id link
    · obtain ⟨p, stored, rest⟩ := rooted.answered m old id link
      exact ⟨p, .inl stored, rest⟩
    · rcases admitted.linked with ⟨none_given, -⟩ | ⟨p, stored, link', -⟩
      · cases link.symm.trans none_given
      obtain ⟨start, tenant'⟩ := direct p stored link'
      cases tenant.symm.trans tenant'
      cases link.symm.trans link'
      refine ⟨p, .inl stored, rfl, start, Prod.ext rfl ?_⟩
      rw [rooted.started p stored start]
      simp [Body.threadKey, link', Option.filter, rooted.named p stored]

/-- Answers that join the case of what they answer answer a starter. -/
theorem Cases.Rooted.direct (rooted : db.Rooted) (admitted : Conversational d db e)
    (threaded : ((inbound d).step db e).Threaded) : AnswersStarter d db e := by
  obtain ⟨db', m, ok⟩ := admitted.accepted
  obtain ⟨_, tenant, -, messages, rfl⟩ := ingestInbound_new ok
  have next : (inbound d).step db e = db' := by simp [inbound, ok]
  rw [next] at threaded
  intro p stored link
  have joined := threaded.together _ (messages ▸ mem_append_right _ (mem_singleton_self _)) p
    (messages ▸ mem_append_left _ stored) link
  have thread : e.body.threadKey = p.messageId := by
    simp [Body.threadKey, link, Option.filter, rooted.named p stored]
  simp only [thread] at joined
  refine ⟨?_, by rw [tenant, ← joined]⟩
  by_contra answers
  obtain ⟨id, link'⟩ := Option.ne_none_iff_exists'.mp answers
  obtain ⟨q, member, rfl, start, case⟩ := rooted.answered p stored id link'
  -- The case of an answer has the key of a starter, which is another message.
  have key : p.messageId = q.messageId := by
    rw [← rooted.started q member start, ← case, ← joined]
  rw [rooted.distinct p stored q member key] at answers
  exact answers start

/-- Every conversation is one case exactly if nobody answers an answer, or with another tenant. -/
theorem conversation_one_case_iff (d : Directory) (es : List Delivery)
    (run : (inbound d).Run ⟨[], []⟩ es) :
    (inbound d).Always Cases.Threaded ⟨[], []⟩ es ↔
    (inbound d).Along (AnswersStarter d) ⟨[], []⟩ es := by
  have start : Cases.Rooted ⟨[], []⟩ := ⟨forall_mem_nil _, forall_mem_nil _, forall_mem_nil _,
    forall_mem_nil _⟩
  refine System.always_iff_of_kept (fun _ _ admitted rooted threaded => ?_)
    (fun _ _ admitted rooted _ => ?_) start start.threaded run
  · exact rooted.step admitted (rooted.direct admitted threaded)
  · exact ⟨rooted.direct admitted, fun direct => (rooted.step admitted direct).threaded⟩

namespace Sample

def directory : Directory where
  mapping _ := some ⟨beyvraTenantId, "production", true⟩
  tenant _ := some ⟨"production", true⟩
  department _ _ := some 1
  isoDate _ := true

def mail (eventId messageId : String) (inReplyTo : Option String)
    (references : List String) : Delivery :=
  ⟨"klyrow-email-provider", ⟨some "codestra.email.v1", some eventId, some "INBOUND_MESSAGE",
    some "2026-01-01",
    some "klyrow-postal", none, none, "support@beyvra.com", messageId, inReplyTo, references⟩⟩

def question : Delivery := mail "1" "<a@x>" none []

def answer : Delivery := mail "2" "<b@x>" (some "<a@x>") ["<a@x>"]

end Sample

open Sample

theorem conversation_one_case_answer : (inbound directory).Always Cases.Threaded ⟨[], []⟩
    [question, answer] := by
  refine (conversation_one_case_iff directory _ ?_).mpr ?_
  · refine ⟨⟨⟨_, _, rfl⟩, forall_mem_nil _, .inl ⟨rfl, rfl⟩⟩, ⟨⟨_, _, rfl⟩, ?_, ?_⟩, trivial⟩
    · decide
    · exact .inr ⟨_, mem_singleton_self _, rfl, rfl⟩
  · refine ⟨forall_mem_nil _, ?_, trivial⟩
    rintro p (_ | ⟨_, ⟨⟩⟩) -
    exact ⟨rfl, rfl⟩

theorem answer_to_answer_splits :
    (inbound directory).Run ⟨[], []⟩ [question, answer, mail "3" "<c@x>" (some "<b@x>")
      ["<a@x>", "<b@x>"]] ∧
    ¬ (inbound directory).Always Cases.Threaded ⟨[], []⟩
      [question, answer, mail "3" "<c@x>" (some "<b@x>") ["<a@x>", "<b@x>"]] := by
  refine ⟨⟨⟨⟨_, _, rfl⟩, forall_mem_nil _, .inl ⟨rfl, rfl⟩⟩, ⟨⟨_, _, rfl⟩, ?_, ?_⟩,
    ⟨⟨_, _, rfl⟩, ?_, ?_⟩, trivial⟩, ?_⟩
  · decide
  · exact .inr ⟨_, mem_singleton_self _, rfl, rfl⟩
  · decide
  · exact .inr ⟨_, mem_cons_of_mem _ (mem_singleton_self _), rfl, rfl⟩
  · rintro ⟨-, -, -, threaded⟩
    have same := threaded.together _ (mem_cons_of_mem _ (mem_cons_of_mem _ (mem_singleton_self _)))
      _ (mem_cons_of_mem _ mem_cons_self) rfl
    revert same
    decide

end CodestraMiddleware.Email
