import CodestraMiddleware.AiJobs.Schema
import CodestraMiddleware.Foundations.Values
import Mathlib.Data.Prod.Lex

/-!
# The durable outbox

The statements of `workers/outbox.py`, each of them one transaction. A claim makes an item
`processing` until its lease runs out; the statements that end a claim look at the status of the
item alone.
-/
namespace CodestraMiddleware.Outbox

open Relational PythonValue

abbrev UUID := AiJobs.UUID

inductive Status where
  | pending | processing | retry | delivered | deadLetter
  deriving DecidableEq

structure Item where
  id : UUID
  topic : String
  payload : Dict
  correlationId : Option String
  status : Status
  attempts : Nat
  (nextAttemptAt lockedAt : Option Int)
  lastError : Option String
  deadLetteredAt : Option Int
  replayCount : Nat
  createdAt : Int

inductive Exc where
  | valueError (message : String)
  | runtimeError (message : String)

structure RetryPolicy where
  (maxAttempts baseSeconds maxSeconds : Int)

/-- The number of attempts is positive in every call. -/
def RetryPolicy.delay (policy : RetryPolicy) (attempts : Nat) : Int :=
  min policy.maxSeconds (policy.baseSeconds * 2 ^ (attempts - 1))

abbrev Items := Table Item.id

def seconds (n : Int) : Int := n * 1000000

def Item.due (now : Int) (i : Item) : Bool :=
  decide (i.status ∈ [.pending, .retry]) && i.nextAttemptAt.all fun at_ => decide (at_ ≤ now)

def Item.claim (now leaseUntil : Int) (i : Item) : Item :=
  { i with status := .processing, lockedAt := some now, nextAttemptAt := some leaseUntil }

theorem Item.id_claim (now leaseUntil : Int) (i : Item) : (i.claim now leaseUntil).id = i.id := rfl

section

variable (items : Items)

def claimable (topic : Option String) (locked : List UUID) (limit : Int) (now : Int) : List Item :=
  taken (fun i => toLex (i.createdAt, i.id.toNat))
    (fun i => (topic.all fun name => decide (i.topic = name)) && i.due now &&
      decide (i.id ∉ locked)) limit.toNat items.rows

/-- `UPDATE ... FROM claimable`: the items, and the rows that the statement returns. -/
def claimItems (topic : Option String) (locked : List UUID) (limit leaseSeconds now : Int) :
    Items × List Item :=
  let rows := claimable items topic locked limit now
  let leaseUntil := now + seconds leaseSeconds
  (items.updateWhere (fun i => decide (i.id ∈ rows.map (·.id))) (Item.claim now leaseUntil)
    (Item.id_claim now leaseUntil), rows.map (Item.claim now leaseUntil))

def claimBatch (locked : List UUID) (limit leaseSeconds now : Int) :
    Except Exc (Items × List Item) :=
  if limit < 1 ∨ limit > 100 then .error (.valueError "claim limit must be between 1 and 100")
  else .ok (claimItems items none locked limit leaseSeconds now)

/-! ## The end of a claim -/

def Item.processing (itemId : UUID) (i : Item) : Bool :=
  decide (i.id = itemId) && decide (i.status = .processing)

def Item.acknowledge (i : Item) : Item :=
  { i with status := .delivered, lockedAt := none, nextAttemptAt := none, lastError := none }

theorem Item.id_acknowledge (i : Item) : i.acknowledge.id = i.id := rfl

/-- The number of rows is that of a lookup by the primary key. -/
def acknowledge (items : Items) (itemId : UUID) : Items × Bool :=
  (items.updateWhere (Item.processing itemId) Item.acknowledge Item.id_acknowledge,
    (items.find? itemId).any (Item.processing itemId))

section

variable (attempts : Nat) (status : Status) (lastError : String)
  (nextAttemptAt deadLetteredAt : Option Int) (i : Item)

def Item.fail : Item :=
  { i with attempts, status, lastError := some lastError, nextAttemptAt, lockedAt := none,
           deadLetteredAt }

theorem Item.id_fail :
    (i.fail attempts status lastError nextAttemptAt deadLetteredAt).id = i.id := rfl

end

def failureStatus (currentAttempts : Nat) (policy : RetryPolicy) (permanent : Bool) : Status :=
  if permanent = true ∨ (currentAttempts + 1 : Int) ≥ policy.maxAttempts then .deadLetter
    else .retry

/-- `record_failure`; `redact` is what is left of the text of an error. -/
def recordFailure (redact : String → String) (items : Items) (itemId : UUID) (currentAttempts : Nat)
    (error : String) (policy : RetryPolicy) (permanent : Bool) (now : Int) :
    Items × Except Exc Status :=
  let attempts := currentAttempts + 1
  let status := failureStatus currentAttempts policy permanent
  let nextAttemptAt := if status = .deadLetter then none
    else some (now + seconds (policy.delay attempts))
  let deadLetteredAt := if status = .deadLetter then some now else none
  (items.updateWhere (Item.processing itemId)
    (Item.fail attempts status (redact error) nextAttemptAt deadLetteredAt)
      (Item.id_fail attempts status (redact error) nextAttemptAt deadLetteredAt),
    if (items.find? itemId).any (Item.processing itemId) then .ok status
    else .error (.runtimeError "outbox item was not processing"))

/-! ## Recovery and replay -/

def Item.expired (now : Int) (i : Item) : Bool :=
  decide (i.status = .processing) && i.nextAttemptAt.any fun at_ => decide (at_ ≤ now)

def Item.recover (now : Int) (i : Item) : Item :=
  { i with
    status := .retry, lockedAt := none, nextAttemptAt := some now,
    lastError := i.lastError <|> some "worker lease expired" }

theorem Item.id_recover (now : Int) (i : Item) : (i.recover now).id = i.id := rfl

def recoverExpiredLeases (now : Int) : Items × Nat :=
  (items.updateWhere (Item.expired now) (Item.recover now) (Item.id_recover now), items.rows.countP
    (Item.expired now))

def Item.dead (itemId : UUID) (i : Item) : Bool :=
  decide (i.id = itemId) && decide (i.status = .deadLetter)

def Item.replay (i : Item) : Item :=
  { i with
    status := .pending, attempts := 0, nextAttemptAt := none, lockedAt := none, lastError := none,
    deadLetteredAt := none,
    replayCount := i.replayCount + 1 }

theorem Item.id_replay (i : Item) : i.replay.id = i.id := rfl

def replayDeadLetter (itemId : UUID) : Items × Bool :=
  (items.updateWhere (Item.dead itemId) Item.replay Item.id_replay, (items.find? itemId).any
    (Item.dead itemId))

end

/-! ## What the statements do to an item -/

variable {items : Items}

variable {i : Item}

theorem id_of_item {id : UUID} (stored : items.find? id = some i) : i.id = id :=
  items.find?_key stored

theorem processing_iff : i.processing itemId = true ↔ i.id = itemId ∧ i.status = .processing := by
  simp [Item.processing]

theorem failureStatus_cases (attempts : Nat) (policy : RetryPolicy) (permanent : Bool) :
    failureStatus attempts policy permanent = .deadLetter ∨
    failureStatus attempts policy permanent = .retry :=
  ite_eq_or_eq _ _ _

theorem find?_claimItems (topic : Option String) (locked : List UUID) (limit leaseSeconds now : Int)
    (id : UUID) :
    (claimItems items topic locked limit leaseSeconds now).1.find? id = (items.find? id).map
    fun i =>
      if i.id ∈ (claimable items topic locked limit now).map (·.id) then
        i.claim now (now + seconds leaseSeconds) else i := by
  simp [claimItems, Table.find?_updateWhere]

theorem mem_claimable (member : i ∈ claimable items topic locked limit now) :
    items.find? i.id = some i ∧ (i.status = .pending ∨ i.status = .retry) := by
  obtain ⟨row, qualifies⟩ := mem_of_mem_taken member
  simp only [Item.due, Bool.and_eq_true, decide_eq_true_eq, List.mem_cons, List.not_mem_nil,
    or_false] at qualifies
  exact ⟨items.find?_of_mem row, qualifies.1.2.1⟩

theorem mem_claimable_of_id (stored : items.find? i.id = some i)
    (member : i.id ∈ (claimable items topic locked limit now).map (·.id)) :
    i ∈ claimable items topic locked limit now := by
  obtain ⟨j, row, same⟩ := List.mem_map.mp member
  have found := (mem_claimable row).1
  rw [same, stored] at found
  cases found
  exact row

theorem nodup_claimable (topic : Option String) (locked : List UUID) (limit now : Int) :
    ((claimable items topic locked limit now).map (·.id)).Nodup :=
  nodup_taken items.unique

end CodestraMiddleware.Outbox
