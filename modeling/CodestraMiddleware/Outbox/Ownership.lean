import CodestraMiddleware.Foundations.Run
import CodestraMiddleware.Outbox.Store

/-!
# Who may end a claim

Any number of workers claim items, end their claims and call for recovery and replay. Claims are
numbered.
-/
namespace CodestraMiddleware.Outbox

open Relational PythonValue Transition List Table

structure Claim where
  item : UUID
  attempts : Nat
  deriving DecidableEq

def Item.held (i : Item) : Claim := ⟨i.id, i.attempts⟩

structure State where
  items : Items
  claims : List Claim

def State.initial : State := ⟨.empty _, []⟩

inductive Event where
  | enqueue (item : Item)
  | claimBatch (locked : List UUID) (limit leaseSeconds now : Int)
  | acknowledge (claim : Nat)
  | recordFailure (claim : Nat) (error : String) (policy : RetryPolicy)
      (permanent : Bool) (now : Int)
  | recoverExpiredLeases (now : Int)
  | replayDeadLetter (itemId : UUID)

variable (redact : String → String)

def step (s : State) : Event → State
  | .enqueue item => { s with items := s.items.insertOrIgnore item }
  | .claimBatch locked limit leaseSeconds now =>
    match claimBatch s.items locked limit leaseSeconds now with
    | .error _ => s
    | .ok (items, rows) => ⟨items, s.claims ++ rows.map Item.held⟩
  | .acknowledge k =>
    match s.claims[k]? with
    | none => s
    | some c => { s with items := (acknowledge s.items c.item).1 }
  | .recordFailure k error policy permanent now =>
    match s.claims[k]? with
    | none => s
    | some c =>
      { s with
        items := (recordFailure redact s.items c.item c.attempts error policy permanent now).1 }
  | .recoverExpiredLeases now => { s with items := (recoverExpiredLeases s.items now).1 }
  | .replayDeadLetter itemId => { s with items := (replayDeadLetter s.items itemId).1 }

/-- New items are pending. -/
def admits (_ : State) : Event → Prop
  | .enqueue item => item.status = .pending
  | _ => True

def system : System State Event where
  step := step redact
  admits := admits

/-- A later claim has the item of this one. -/
def State.Superseded (s : State) (k : Nat) (c : Claim) : Prop :=
  s.claims[k]? = some c ∧ ∃ later ∈ s.claims.drop (k + 1), later.item = c.item

def Event.ends : Event → Option Nat
  | .acknowledge k | .recordFailure k .. => some k
  | _ => none

/-- A worker whose item has been claimed again can no longer change it, and attempts do not decrease
but by a replay. -/
structure Owned (s : State) (e : Event) : Prop where
  refused : ∀ k c, e = .acknowledge k → s.Superseded k c → (acknowledge s.items c.item).2 = false
  unchanged : ∀ k c, e.ends = some k → s.Superseded k c →
    (step redact s e).items.find? c.item = s.items.find? c.item
  attempts : ∀ id i i', s.items.find? id = some i → (step redact s e).items.find? id = some i' →
    e ≠ .replayDeadLetter id → i.attempts ≤ i'.attempts

/-- Claims of items that are being processed are ended by their last claimers. -/
def EndsOwn (s : State) (e : Event) : Prop :=
  ∀ k c i, e.ends = some k → s.claims[k]? = some c → s.items.find? c.item = some i →
    i.status = .processing → ¬s.Superseded k c

variable {redact} {s : State} {e : Event}

/-! ## The last claim of an item -/

def State.Last (s : State) (k : Nat) (c : Claim) : Prop :=
  s.claims[k]? = some c ∧ ∀ later ∈ s.claims.drop (k + 1), later.item ≠ c.item

variable {c : Claim} {k : Nat}

theorem State.Last.unique (last : s.Last k c) (last' : s.Last k' c') (same : c.item = c'.item) :
    c = c' := by
  have later {j j' : Nat} {a b : Claim} (first : s.Last j a) (second : s.claims[j']? = some b)
      (item : b.item = a.item) : ¬j < j' := by
    intro less
    refine first.2 b ?_ item
    apply mem_of_getElem? (i := j' - (j + 1))
    rw [getElem?_drop, show j + 1 + (j' - (j + 1)) = j' by omega]
    exact second
  have equal : k = k' := by
    have notLess := later last last'.1 same.symm
    have notGreater := later last' last.1 same
    omega
  subst equal
  exact Option.some.inj (last.1.symm.trans last'.1)

theorem State.last_of_not_superseded (made : s.claims[k]? = some c) (current : ¬s.Superseded k c) :
    s.Last k c :=
  ⟨made, fun later member same => current ⟨made, later, member, same⟩⟩

/-- An item that is being processed is in the state in which it was last claimed. -/
def Tracked (s : State) : Prop :=
  ∀ id i, s.items.find? id = some i → i.status = .processing → ∃ k, s.Last k ⟨id, i.attempts⟩

theorem tracked_initial : Tracked .initial := fun _ _ => nofun

variable {items : Items}

theorem last_append (last : s.Last k c) (others : ∀ later ∈ new, later.item ≠ c.item) :
    State.Last ⟨items, s.claims ++ new⟩ k c := by
  have within : k < s.claims.length := (List.getElem?_eq_some_iff.mp last.1).1
  constructor
  · rw [List.getElem?_append_left within]
    exact last.1
  · rw [List.drop_append_of_le_length (by omega)]
    exact List.forall_mem_append.mpr ⟨last.2, others⟩

theorem last_new (distinct : (new.map (·.item)).Nodup) (member : c ∈ new) :
    ∃ k, State.Last ⟨items, claims ++ new⟩ k c := by
  obtain ⟨before, behind, split⟩ := append_of_mem member
  refine ⟨claims.length + before.length, ?_, ?_⟩
  · simp [split]
  · intro later follows
    have rest : later ∈ behind := by
      have drop : (claims ++ new).drop (claims.length + before.length + 1) = behind := by
        rw [split, ← append_assoc, ← length_append, ← drop_drop, drop_left]
        rfl
      rwa [drop] at follows
    rw [split, map_append, nodup_append, map_cons, nodup_cons] at distinct
    intro same
    exact distinct.2.1.1 (same ▸ mem_map_of_mem rest)

def Event.Claims (e : Event) : Prop :=
  ∃ locked limit lease now, e = .claimBatch locked limit lease now

/-- What a step can do to an item. -/
inductive Changed (s : State) (e : Event) : Option Item → Option Item → Prop
  | kept (row : Option Item) : Changed s e row row
  | claimed {i : Item} {now leaseUntil : Int} (claims : e.Claims) :
      Changed s e (some i) (some (i.claim now leaseUntil))
  | enqueued {i : Item} (pending : i.status = .pending) : Changed s e none (some i)
  | acknowledged {k : Nat} {c : Claim} {i : Item} (ends : e = .acknowledge k)
      (made : s.claims[k]? = some c) (item : c.item = i.id) (processing : i.status = .processing) :
      Changed s e (some i) (some i.acknowledge)
  | failed {k : Nat} {c : Claim} {i i' : Item} (ends : e.ends = some k)
      (made : s.claims[k]? = some c)
      (item : c.item = i.id) (processing : i.status = .processing)
      (status : i'.status ≠ .processing)
      (attempts : i'.attempts = c.attempts + 1) : Changed s e (some i) (some i')
  | recovered {i : Item} {now : Int} (processing : i.status = .processing) :
      Changed s e (some i) (some (i.recover now))
  | replayed {i : Item} (replay : e = .replayDeadLetter i.id) : Changed s e (some i) (some i.replay)

variable {i : Item}

theorem failureStatus_ne (attempts : Nat) (policy : RetryPolicy) (permanent : Bool) :
    failureStatus attempts policy permanent ≠ .processing := by
  rcases failureStatus_cases attempts policy permanent with dead | retry
  · rw [dead]
    nofun
  · rw [retry]
    nofun

section

variable (redact : String → String)

theorem step_claimBatch (s : State) (locked : List UUID) (limit lease now : Int) :
    step redact s (.claimBatch locked limit lease now) = s ∨
    step redact s (.claimBatch locked limit lease now) =
        ⟨(claimItems s.items none locked limit lease now).1,
          s.claims ++ (claimable s.items none locked limit now).map Item.held⟩ := by
  simp only [step, claimBatch]
  split
  next result =>
    split at result
    next => exact .inl rfl
    next => cases result
  next result =>
    split at result
    next => cases result
    next =>
      cases result
      refine .inr ?_
      simp only [claimItems, map_map]
      rfl

theorem changed_step (s : State) (admitted : admits s e) (id : UUID) :
    Changed s e (s.items.find? id) ((step redact s e).items.find? id) := by
  cases e with
  | claimBatch locked limit lease now =>
    rcases step_claimBatch redact s locked limit lease now with same | claimed
    · rw [same]
      exact .kept _
    · rw [claimed]
      simp only [claimItems, find?_updateWhere]
      refine related_update .kept fun i _ _ => ?_
      exact .claimed ⟨locked, limit, lease, now, rfl⟩
  | enqueue item =>
    simp only [step, insertOrIgnore]
    cases inserted : s.items.insert? item with
    | none => exact .kept _
    | some items =>
      have fresh := insert?_fresh inserted
      rw [Option.getD_some, find?_insert? inserted]
      split
      next here =>
        subst here
        rw [fresh]
        exact .enqueued admitted
      next => exact .kept _
  | acknowledge k | recordFailure k =>
    simp only [step]
    cases made : s.claims[k]? with
    | none => exact .kept _
    | some c =>
      simp only [acknowledge, recordFailure, find?_updateWhere]
      refine related_update .kept fun i _ processing => ?_
      obtain ⟨item, processing⟩ := processing_iff.mp processing
      first
      | exact .acknowledged rfl made item.symm processing
      | exact .failed rfl made item.symm processing (failureStatus_ne _ _ _) rfl
  | recoverExpiredLeases now =>
    simp only [step, recoverExpiredLeases, find?_updateWhere]
    refine related_update .kept fun i _ expired => ?_
    simp only [Item.expired, Bool.and_eq_true, decide_eq_true_eq] at expired
    exact .recovered expired.1
  | replayDeadLetter itemId =>
    simp only [step, replayDeadLetter, find?_updateWhere]
    refine related_update .kept fun i _ dead => ?_
    simp only [Item.dead, Bool.and_eq_true, decide_eq_true_eq] at dead
    exact .replayed (by rw [dead.1])

theorem stable_tracked : (system redact).Stable Tracked := by
  intro s e admitted tracked id i' stored processing
  by_cases claims : e.Claims
  · obtain ⟨locked, limit, lease, now, rfl⟩ := claims
    change (step redact s _).items.find? id = some i' at stored
    change ∃ k, (step redact s _).Last k ⟨id, i'.attempts⟩
    rcases step_claimBatch redact s locked limit lease now with same | claimed
    · rw [same] at stored ⊢
      exact tracked id i' stored processing
    rw [claimed] at stored ⊢
    rw [find?_claimItems] at stored
    obtain ⟨i, before, rfl⟩ := Option.map_eq_some_iff.mp stored
    obtain rfl := id_of_item before
    split
    next member =>
      -- The item is in the batch, and its claim is the last one.
      have row := mem_claimable_of_id before member
      refine last_new ?_ (mem_map_of_mem (f := Item.held) row)
      rw [map_map]
      exact nodup_claimable none locked limit now
    next absent =>
      rw [if_neg absent] at processing
      obtain ⟨k, last⟩ := tracked i.id i before processing
      refine ⟨k, last_append last fun later new => ?_⟩
      obtain ⟨j, row, rfl⟩ := mem_map.mp new
      intro same
      have same : j.id = i.id := same
      exact absent (same ▸ mem_map_of_mem row)
  · have claimsKept : (step redact s e).claims = s.claims := by
      cases e with
      | claimBatch locked limit lease now => exact absurd ⟨locked, limit, lease, now, rfl⟩ claims
      | acknowledge k | recordFailure k =>
        simp only [step]
        split <;> rfl
      | _ => rfl
    have changed := changed_step redact s admitted id
    change (step redact s e).items.find? id = some i' at stored
    rw [stored] at changed
    generalize before : s.items.find? id = old at changed
    cases changed with
    | kept =>
      obtain ⟨k, last⟩ := tracked id i' before processing
      refine ⟨k, ?_⟩
      unfold State.Last
      rw [show ((system redact).step s e).claims = s.claims from claimsKept]
      exact last
    | claimed made => exact absurd made claims
    | enqueued pending =>
      rw [pending] at processing
      cases processing
    | failed _ _ _ _ status => exact absurd processing status
    | _ => cases processing

end

theorem unchanged_of_not_processing (ends : e.ends = some k) (made : s.claims[k]? = some c)
    (idle : ∀ i, s.items.find? c.item = some i → i.status ≠ .processing) :
    (step redact s e).items.find? c.item = s.items.find? c.item := by
  have none (i : Item) (stored : s.items.find? c.item = some i) : i.processing c.item = false := by
    rw [← Bool.not_eq_true, processing_iff]
    exact fun both => idle i stored both.2
  cases e with
  | acknowledge | recordFailure =>
    cases ends
    simp only [step, made, acknowledge, recordFailure, find?_updateWhere]
    cases stored : s.items.find? c.item with
    | none => rfl
    | some i => simp [none i stored]
  | _ => cases ends

theorem changed_of_processing (ends : e.ends = some k) (made : s.claims[k]? = some c)
    (stored : s.items.find? c.item = some i) (processing : i.status = .processing) :
    (step redact s e).items.find? c.item ≠ s.items.find? c.item := by
  have qualifies : i.processing c.item = true := processing_iff.mpr ⟨id_of_item stored, processing⟩
  cases e with
  | acknowledge | recordFailure =>
    cases ends
    simp only [step, made, acknowledge, recordFailure, find?_updateWhere, stored, Option.map_some,
      qualifies, if_true]
    intro same
    have status := congrArg Item.status (Option.some.inj same)
    rw [processing] at status
    first
    | exact failureStatus_ne _ _ _ status
    | cases status
  | _ => cases ends

theorem attempts_kept (admitted : admits s e) (tracked : Tracked s) (own : EndsOwn s e) {id : UUID}
    (stored : s.items.find? id = some i)
    (found : (step redact s e).items.find? id = some i') (noReplay : e ≠ .replayDeadLetter id) :
    i.attempts ≤ i'.attempts := by
  have changed := changed_step redact s admitted id
  rw [stored, found] at changed
  cases changed with
  | replayed replay =>
    rw [id_of_item stored] at replay
    exact absurd replay noReplay
  | @failed k c _ _ ends made item processing _ attempts =>
    -- The claimer is the last one, so it has seen the attempts that there are.
    have here : s.items.find? c.item = some i := by rw [item, id_of_item stored, stored]
    have last := State.last_of_not_superseded made (own k c i ends made here processing)
    obtain ⟨k', last'⟩ := tracked c.item i here processing
    have seen : c.attempts = i.attempts := congrArg Claim.attempts (last.unique last' rfl)
    omega
  | _ => exact Nat.le_refl _

theorem owned_iff (admitted : admits s e) (tracked : Tracked s) : Owned redact s e ↔
    EndsOwn s e := by
  constructor
  · intro owned k c i ends made stored processing superseded
    exact changed_of_processing ends made stored processing (owned.unchanged k c ends superseded)
  · intro own
    refine ⟨fun k c ack superseded => ?_, fun k c ends superseded => ?_, fun id i i' => ?_⟩
    · subst ack
      rw [acknowledge, Option.any_eq_false]
      intro i stored
      rw [← Bool.not_eq_true, processing_iff]
      exact fun both => own k c i rfl superseded.1 stored both.2 superseded
    · refine unchanged_of_not_processing ends superseded.1 fun i stored processing => ?_
      exact own k c i ends superseded.1 stored processing superseded
    · exact attempts_kept admitted tracked own

/-- On every run the items belong to their last claimers and attempts do not decrease but by
replays, exactly if claims of items that are being processed are ended by their last claimers. -/
theorem items_owned_iff {es : List Event} (run : (system redact).Run .initial es) :
    (system redact).Along (Owned redact) .initial es ↔ (system redact).Along EndsOwn .initial es :=
  (stable_tracked redact).along_iff (fun _ _ => owned_iff) tracked_initial run

instance decidableAdmits (s : State) : (e : Event) → Decidable (admits s e)
  | .enqueue item => inferInstanceAs (Decidable (item.status = .pending))
  | .claimBatch .. | .acknowledge _ | .recordFailure .. | .recoverExpiredLeases _
  | .replayDeadLetter _ =>
    isTrue trivial

instance decidableRun (es : List Event) : Decidable ((system redact).Run .initial es) :=
  @System.decidableAlong _ _ (system redact) admits decidableAdmits .initial es

instance decidableEndsOwn (s : State) (e : Event) : Decidable (EndsOwn s e) :=
  decidable_of_iff (e.ends.all fun k => (s.claims[k]?).all fun c =>
      (s.items.find? c.item).all fun i =>
      decide (i.status = .processing → ∀ later ∈ s.claims.drop (k + 1), later.item ≠ c.item)) (by
    simp only [Option.all_eq_true, decide_eq_true_eq]
    constructor
    · rintro own k c i ends made stored processing ⟨-, later, member, same⟩
      exact own k ends c made i stored processing later member same
    · intro own k ends c made i stored processing later member same
      exact own k c i ends made stored processing ⟨made, later, member, same⟩)

namespace Sample

def item : Item where
  id := 1
  topic := "sales.lead.odoo.apply"
  payload := ⟨[], no_entries⟩
  correlationId := some "correlation"
  status := .pending
  attempts := 0
  nextAttemptAt := none
  lockedAt := none
  lastError := none
  deadLetteredAt := none
  replayCount := 0
  createdAt := 0

def policy : RetryPolicy := ⟨8, 1, 60⟩

def claim (minute : Int) : Event := .claimBatch [] 10 60 (seconds (60 * minute))

def fail (claim : Nat) (minute : Int) : Event :=
  .recordFailure claim "TimeoutError" policy false (seconds (60 * minute))

def overrun : List Event :=
  [.enqueue item, claim 0, .recoverExpiredLeases (seconds 60), claim 1, fail 1 1, claim 2,
    fail 2 2, claim 3]

end Sample

open Sample

theorem last_claimer_owns : (system id).Along (Owned id) .initial (overrun ++ [.acknowledge 3]) :=
  (items_owned_iff (by decide +kernel)).mpr (by decide +kernel)

/-- The first worker still ends the claim of the last: its acknowledgement is taken, and its failure
sets the attempts back from two to one. -/
theorem first_claimer_interferes :
    let S := system id
    let s := S.after .initial overrun
    S.Run .initial (overrun ++ [fail 0 3]) ∧ s.Superseded 0 ⟨1, 0⟩ ∧
      (acknowledge s.items 1).2 = true ∧ (s.items.find? 1).map (·.attempts) = some 2 ∧
      ((S.after s [fail 0 3]).items.find? 1).map (·.attempts) = some 1 ∧
      ¬S.Along (Owned id) .initial (overrun ++ [fail 0 3]) := by
  have before : (((system id).after .initial overrun).items.find? 1).map (·.attempts) = some 2 := by
    decide +kernel
  have after : (((system id).after ((system id).after .initial overrun)
      [fail 0 3]).items.find? 1).map (·.attempts) = some 1 := by
    decide +kernel
  refine ⟨by decide +kernel, ⟨by decide +kernel, ⟨1, 2⟩, by decide +kernel, rfl⟩, by
    decide +kernel, before,
    after, fun owned => ?_⟩
  rw [System.along_append] at owned
  obtain ⟨i, stored, two⟩ := Option.map_eq_some_iff.mp before
  obtain ⟨i', found, one⟩ := Option.map_eq_some_iff.mp after
  have least := owned.2.1.attempts 1 i i' stored found nofun
  omega

end CodestraMiddleware.Outbox
