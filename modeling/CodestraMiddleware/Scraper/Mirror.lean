import CodestraMiddleware.Scraper.Delivery

/-!
# The inbox and the outbox

While a worker is on a lead its inbox row lags behind its item. When the worker is done the two
agree.
-/
namespace CodestraMiddleware.Scraper

open Relational PythonValue Transition List State Outbox
open Outbox (UUID Item Items Status failureStatus_cases id_of_item processing_iff)

variable {ι : Type}

def Idle (s : State ι) (id : UUID) : Prop := ∀ w, ∀ t ∈ s.workers w, t.row.id ≠ id

def Agree (item : Status) (inbox : InboxStatus) : Prop :=
  (inbox = .delivered ↔ item = .delivered) ∧ (inbox = .deadLetter ↔ item = .deadLetter) ∧
    (item ≠ .delivered → item ≠ .deadLetter → inbox = .retryWait ∨ inbox = .queued)

/-- The inbox row of every item that no worker is on agrees with it. -/
def Mirrors (s : State ι) : Prop :=
  ∀ a b i r, s.items.find? a = some i → s.inbox.find? b = some r →
    i.correlationId = some r.correlationId → Idle s a → Agree i.status r.status

def Stage.owns : Stage → Bool
  | .waiting | .applying => true
  | _ => false

/-- A lead comes with a correlation id of its own; a lease runs out only when no worker is going to
end the claim; a worker stops between leads; and an item that is replayed has no inbox row. -/
def Undisturbed (s : State ι) : Event ι → Prop
  | .ingest _ _ _ correlationId .. =>
    (∀ i ∈ s.items.rows, i.correlationId ≠ some correlationId) ∧
      ∀ r ∈ s.inbox.rows, r.correlationId ≠ correlationId
  | .recoverExpiredLeases now =>
    ∀ w, ∀ t ∈ s.workers w, t.stage.owns = true →
      ((s.items.find? t.row.id).any fun i => i.expired now) = false
  | .stop w => ∀ t ∈ s.workers w, t.stage = .waiting
  | .replayDeadLetter itemId =>
    ∀ i ∈ s.items.rows, i.dead itemId = true →
      ∀ r ∈ s.inbox.rows, i.correlationId ≠ some r.correlationId
  | _ => True

/-! ## One lead -/

def Live (s : State ι) (id : UUID) (stage : Stage) : Prop :=
  ∃ w, ∃ t ∈ s.workers w, t.row.id = id ∧ t.stage = stage

/-- The inbox row is up to date, or a worker is about to bring it up to date. -/
def Fits (live : Stage → Prop) (item : Status) (inbox : InboxStatus) : Prop :=
  match item with
  | .delivered => inbox = .delivered ∨ inbox ≠ .deadLetter ∧
      ∃ reference, live (.acknowledged reference)
  | .deadLetter => inbox = .deadLetter ∨ inbox ≠ .delivered ∧
      ∃ code, live (.failed .deadLetter code)
  | _ =>
    inbox = .queued ∨ inbox = .retryWait ∨ inbox = .processing ∧
      (live .applying ∨ ∃ status code, status ≠ .deadLetter ∧ live (.failed status code))

def Stage.Fits (item : Status) : Stage → Prop
  | .waiting | .applying => item = .processing
  | .acknowledged _ => item = .delivered
  | .failed status _ => status = .deadLetter → item = .deadLetter

variable {live live' : Stage → Prop} {item status : Status} {inbox : InboxStatus}
  {stage : Stage} {t : Task}

theorem Fits.mono (more : ∀ stage, stage ≠ .waiting → live stage → live' stage)
    (fits : Fits live item inbox) : Fits live' item inbox := by
  cases item with
  | delivered | deadLetter =>
    refine fits.imp_right fun ⟨other, detail, ended⟩ => ⟨other, detail, ?_⟩
    exact more _ nofun ended
  | _ =>
    refine fits.imp_right (Or.imp_right fun ⟨processing, working⟩ => ⟨processing, ?_⟩)
    rcases working with applying | ⟨status, code, other, failed⟩
    · exact .inl (more _ nofun applying)
    · exact .inr ⟨status, code, other, more _ nofun failed⟩

theorem agree_of_fits (fits : Fits (fun _ => False) item inbox) : Agree item inbox := by
  cases item <;> simp only [Fits, exists_false, and_false, or_false] at fits <;>
    rcases fits with rfl | rfl <;> simp [Agree]

theorem Fits.open_ (fits : Fits live item inbox) (undelivered : item ≠ .delivered)
    (alive : item ≠ .deadLetter) : inbox ≠ .delivered ∧ inbox ≠ .deadLetter := by
  cases item with
  | delivered => exact absurd rfl undelivered
  | deadLetter => exact absurd rfl alive
  | _ => rcases fits with rfl | rfl | ⟨rfl, -⟩ <;> exact ⟨nofun, nofun⟩

theorem Fits.reopen {item' : Status} (fits : Fits live item inbox)
    (undelivered : item ≠ .delivered) (alive : item ≠ .deadLetter)
    (after : item' = .processing ∨ item' = .retry) : Fits live item' inbox := by
  cases item with
  | delivered => exact absurd rfl undelivered
  | deadLetter => exact absurd rfl alive
  | _ => rcases after with rfl | rfl <;> exact fits

theorem Stage.Fits.anyhow {status' : Status} (fits : stage.Fits status)
    (disowned : stage.owns = false)
    (undelivered : status ≠ .delivered) (alive : status ≠ .deadLetter) : stage.Fits status' := by
  cases stage with
  | waiting | applying => cases disowned
  | acknowledged => exact absurd fits undelivered
  | failed => exact fun dead => absurd (fits dead) alive

theorem Stage.Fits.processing (fits : stage.Fits status) (owns : stage.owns = true) :
    status = .processing := by
  cases stage with
  | waiting | applying => exact fits
  | acknowledged | failed => cases owns

theorem Fits.fail {code : String} (fits : Fits live .processing inbox)
    (ended : status = .deadLetter ∨ status = .retry) (failed : live' (.failed status code)) :
    Fits live' status inbox := by
  rcases ended with rfl | rfl
  · exact .inr ⟨(fits.open_ nofun nofun).1, code, failed⟩
  · exact fits.imp_right (Or.imp_right fun ⟨processing, _⟩ =>
      ⟨processing, .inr ⟨.retry, code, nofun, failed⟩⟩)

theorem Fits.closed (fits : Fits live item inbox) (over_ : inbox ∈ [.delivered, .deadLetter]) :
    Fits live' item inbox := by
  cases item with
  | delivered | deadLetter =>
    rcases fits with ended | ⟨other, -⟩
    · exact .inl ended
    · exact .inl (by simpa [other] using over_)
  | _ => simp [fits.open_ nofun nofun] at over_

theorem Fits.settle {result : Result} (fits : Fits live item inbox)
    (now : t.stage.Fits item) (settled : t.result = some result)
    (closed : inbox ∈ [.delivered, .deadLetter] → inbox' = inbox)
    (opened : inbox ∉ [.delivered, .deadLetter] → inbox' = result.status)
    (more : ∀ stage, stage ≠ t.stage → live stage → live' stage) : Fits live' item inbox' := by
  by_cases over_ : inbox ∈ [.delivered, .deadLetter]
  · rw [closed over_]
    exact fits.closed over_
  rw [opened over_]
  simp only [mem_cons, not_mem_nil, or_false, not_or] at over_
  obtain ⟨row, stage⟩ := t
  cases stage with
  | waiting | applying => cases settled
  | acknowledged =>
    cases settled
    subst now
    exact .inl rfl
  | failed status code =>
    cases settled
    by_cases dead : status = .deadLetter
    · obtain rfl := now dead
      simp only [dead, if_true]
      exact .inl rfl
    · simp only [dead, if_false]
      -- another worker may have ended the claim in the meantime and be about to write that
      cases item with
      | delivered =>
        obtain ⟨-, reference, acknowledged⟩ := fits.resolve_left over_.1
        exact .inr ⟨nofun, reference, more _ nofun acknowledged⟩
      | deadLetter =>
        obtain ⟨-, code', failed⟩ := fits.resolve_left over_.2
        refine .inr ⟨nofun, code', more _ (fun same => ?_) failed⟩
        cases same
        exact dead rfl
      | _ => exact .inr (.inl rfl)

structure Lead (s : State ι) (i : Item) (r : InboxRow) : Prop where
  fits : Fits (Live s i.id) i.status r.status
  stages : ∀ w, ∀ t ∈ s.workers w, t.row.id = i.id → t.stage.Fits i.status
  single : ∀ w w' t t', t ∈ s.workers w → t' ∈ s.workers w' → t.row.id = i.id → t'.row.id = i.id →
    t.stage.owns = true → t'.stage.owns = true → w = w'

variable {s s' : State ι} {i : Item} {r : InboxRow} {w : ι} {items : Items} {rest tasks : List Task}

theorem Lead.disowned (lead : Lead s i r) (member : t ∈ s.workers w) (onItem : t.row.id = i.id)
    (owns : t.stage.owns = true) (v : ι) (other : v ≠ w) (t' : Task) (member' : t' ∈ s.workers v)
    (onItem' : t'.row.id = i.id) : t'.stage.owns = false := by
  refine Bool.eq_false_iff.mpr fun owns' => other ?_
  exact lead.single v w t' t member' member onItem' onItem owns' owns

theorem mem_current (current : s.workers w = t :: rest) : t ∈ s.workers w := by
  rw [current]
  exact mem_cons_self

/-- The rows that a worker holds are those of items, no two of one, and all but
the current one wait. -/
structure Batch (items : Items) (tasks : List Task) : Prop where
  rows : ∀ t ∈ tasks, ∃ i, items.find? t.row.id = some i ∧ i.correlationId = t.row.correlationId
  distinct : (tasks.map (·.row.id)).Nodup
  behind : ∀ t ∈ tasks.tail, t.stage = .waiting

theorem batch_nil (items : Items) : Batch items [] := ⟨nofun, nodup_nil, nofun⟩

section

variable (batch : Batch items (t :: rest))

include batch

theorem Batch.of_cons : Batch items rest :=
  ⟨(forall_mem_cons.mp batch.rows).2, (nodup_cons.mp batch.distinct).2,
    fun t' member => batch.behind t' (mem_of_mem_tail member)⟩

theorem Batch.advance (stage : Stage) : Batch items (⟨t.row, stage⟩ :: rest) :=
  ⟨forall_mem_cons.mpr (forall_mem_cons.mp batch.rows), batch.distinct, batch.behind⟩

theorem Batch.apart : ∀ t' ∈ rest, t'.row.id ≠ t.row.id := by
  intro t' member same
  exact (nodup_cons.mp batch.distinct).1 (mem_map.mpr ⟨t', member, same⟩)

end

theorem batch_claimed (items : Items) (topic : Option String) (locked : List UUID)
    (limit leaseSeconds now : Int) :
    Batch items ((claimItems items topic locked limit leaseSeconds now).2.map fun i =>
      ⟨row i, .waiting⟩) := by
  simp only [claimItems, map_map]
  refine ⟨fun t member => ?_, ?_, fun t member => ?_⟩
  · obtain ⟨i, claimed, rfl⟩ := mem_map.mp member
    exact ⟨i, (mem_claimable claimed).1, rfl⟩
  · rw [map_map]
    exact nodup_claimable topic locked limit now
  · obtain ⟨i, -, rfl⟩ := mem_map.mp (mem_of_mem_tail member)
    rfl

theorem mem_rest_of_ne : ∀ t' ∈ (⟨t.row, stage⟩ : Task) :: rest, t'.row.id ≠ t.row.id →
    t' ∈ rest := by
  intro t' member other
  exact mem_of_ne_of_mem (fun same => other (congrArg (·.row.id) same)) member

section Update

variable [DecidableEq ι] (workers : s'.workers = Function.update s.workers w tasks)

include workers

theorem mem_update (member : t ∈ s'.workers v) : v = w ∧ t ∈ tasks ∨ v ≠ w ∧ t ∈ s.workers v := by
  rw [workers, Function.update_apply] at member
  split at member
  next same => exact .inl ⟨same, member⟩
  next other => exact .inr ⟨other, member⟩

theorem forall_update {p : List Task → Prop} (all : ∀ v, p (s.workers v)) (new : p tasks) (v : ι) :
    p (s'.workers v) := by
  rw [workers, Function.update_apply]
  split
  next => exact new
  next => exact all v

theorem live_of_mem (member : t ∈ tasks) : Live s' t.row.id t.stage := by
  refine ⟨w, t, ?_, rfl, rfl⟩
  rw [workers, Function.update_self]
  exact member

theorem live_update {id : UUID}
    (kept : ∀ t ∈ s.workers w, t.row.id = id → t.stage = stage → t ∈ tasks)
    (live : Live s id stage) : Live s' id stage := by
  obtain ⟨v, t, member, rfl, rfl⟩ := live
  refine ⟨v, t, ?_, rfl, rfl⟩
  rw [workers, Function.update_apply]
  split
  next same => exact kept t (same ▸ member) rfl rfl
  next => exact member

theorem Lead.update {r' : InboxRow} (lead : Lead s i r) (id : i'.id = i.id)
    (fits : Fits (Live s' i.id) i'.status r'.status)
    (others : ∀ v, v ≠ w → ∀ t ∈ s.workers v, t.row.id = i.id → t.stage.Fits i'.status)
    (stages : ∀ t ∈ tasks, t.row.id = i.id → t.stage.Fits i'.status)
    (single : ∀ t ∈ tasks, t.row.id = i.id → t.stage.owns = true →
      ∀ v, v ≠ w → ∀ t' ∈ s.workers v, t'.row.id = i.id → t'.stage.owns = false) :
      Lead s' i' r' := by
  refine ⟨by rw [id]; exact fits, fun v t member onItem => ?_, ?_⟩
  · rw [id] at onItem
    rcases mem_update workers member with ⟨-, new⟩ | ⟨other, old⟩
    · exact stages t new onItem
    · exact others v other t old onItem
  · intro v v' t t' member member' onItem onItem' owns owns'
    rw [id] at onItem onItem'
    rcases mem_update workers member with ⟨rfl, new⟩ | ⟨other, old⟩ <;>
      rcases mem_update workers member' with ⟨same, new'⟩ | ⟨other', old'⟩
    · exact same.symm
    · rw [single t new onItem owns v' other' t' old' onItem'] at owns'
      cases owns'
    · subst same
      rw [single t' new' onItem' owns' v other t old onItem] at owns
      cases owns
    · exact lead.single v v' t t' old old' onItem onItem' owns owns'

theorem Lead.keep (lead : Lead s i r) (old : ∀ t ∈ tasks, t.row.id = i.id → t ∈ s.workers w)
    (kept : ∀ t ∈ s.workers w, t.row.id = i.id → t.stage ≠ .waiting → t ∈ tasks) : Lead s' i r := by
  refine lead.update workers rfl ?_ (fun v _ => lead.stages v)
    (fun t member onItem => lead.stages w t (old t member onItem) onItem)
    fun t member onItem owns => lead.disowned (old t member onItem) onItem owns
  refine lead.fits.mono fun stage working => live_update workers fun t member onItem at_ => ?_
  subst at_
  exact kept t member onItem working

end Update

theorem Lead.advance [DecidableEq ι] {r' : InboxRow} (lead : Lead s i r)
    (current : s.workers w = t :: rest)
    (batch : Batch s.items (t :: rest)) (onItem : t.row.id = i.id) (owns : t.stage.owns = true)
    (workers : s'.workers = Function.update s.workers w (⟨t.row, stage⟩ :: rest))
    (id : i'.id = i.id)
    (fits : Live s' i.id stage → Fits (Live s' i.id) i'.status r'.status)
    (now : stage.Fits i'.status) : Lead s' i' r' := by
  have member := mem_current current
  have status := (lead.stages w t member onItem).processing owns
  have others := lead.disowned member onItem owns
  have stages := lead.stages
  rw [status] at stages
  have live : Live s' i.id stage := by
    rw [← onItem]
    exact live_of_mem (t := ⟨t.row, stage⟩) workers mem_cons_self
  refine lead.update workers id (fits live) ?_
    (forall_mem_cons.mpr ⟨fun _ => now, fun t' old on => ?_⟩) fun _ _ _ _ => others
  · intro v other t' member' on
    exact (stages v t' member' on).anyhow (others v other t' member' on) nofun nofun
  · exact absurd (on.trans onItem.symm) (batch.apart t' old)

/-- Correlation ids are unique, and every item with an inbox row is in order. -/
structure Mirrored (s : State ι) : Prop where
  batches : ∀ w, Batch s.items (s.workers w)
  items : ∀ a a' i i', s.items.find? a = some i → s.items.find? a' = some i' →
    i.correlationId = i'.correlationId → a = a'
  leads : ∀ a b i r, s.items.find? a = some i → s.inbox.find? b = some r →
    i.correlationId = some r.correlationId → Lead s i r

theorem mirrored_initial : Mirrored (initial ι) :=
  ⟨fun _ => batch_nil _, fun _ _ _ _ => nofun, fun _ _ _ _ => nofun⟩

/-- Rows are rewritten in place, and keep their correlation ids. -/
structure Follows (s s' : State ι) (f : Item → Item) (g : InboxRow → InboxRow) : Prop where
  items : ∀ a, s'.items.find? a = (s.items.find? a).map f
  inbox : ∀ b, s'.inbox.find? b = (s.inbox.find? b).map g
  item : ∀ i, (f i).correlationId = i.correlationId
  row : ∀ r, (g r).correlationId = r.correlationId

theorem follows_items {set : Item → Item} (keeps : ∀ i, (set i).id = i.id)
    (items : s'.items = s.items.updateWhere qualifies set keeps) (inbox : s'.inbox = s.inbox)
    (correlation : ∀ i, (set i).correlationId = i.correlationId) :
    Follows s s' (fun i => if qualifies i then set i else i) id := by
  refine ⟨fun a => ?_, fun b => ?_, fun i => ?_, fun _ => rfl⟩
  · rw [items, Table.find?_updateWhere]
  · rw [inbox, Option.map_id_apply]
  · split
    next => exact correlation i
    next => rfl

theorem follows_inbox {set : InboxRow → InboxRow}
    (keeps : ∀ r, (set r).id = r.id) (items : s'.items = s.items)
    (inbox : s'.inbox = s.inbox.updateWhere qualifies set keeps)
    (correlation : ∀ r, (set r).correlationId = r.correlationId) :
    Follows s s' id (fun r => if qualifies r then set r else r) := by
  refine ⟨fun a => ?_, fun b => ?_, fun _ => rfl, fun r => ?_⟩
  · rw [items, Option.map_id_apply]
  · rw [inbox, Table.find?_updateWhere]
  · split
    next => exact correlation r
    next => rfl

theorem unless_processing {id : UUID} {set : Item → Item} (i : Item) (other : i.id ≠ id) :
    (if i.processing id then set i else i) = i :=
  if_neg fun both => other (processing_iff.mp both).1

section Steps

variable (mirrored : Mirrored s)

include mirrored

theorem Mirrored.mirrors : Mirrors s := by
  intro a b i r item row same idle
  have lead := mirrored.leads a b i r item row same
  refine agree_of_fits (lead.fits.mono fun stage _ live => ?_)
  obtain ⟨w, t, member, onItem, -⟩ := live
  exact idle w t member (onItem.trans (id_of_item item))

theorem Mirrored.follow {g : InboxRow → InboxRow} (follows : Follows s s' f g)
    (batches : ∀ w, Batch s.items (s'.workers w))
    (lead : ∀ a b i r, s.items.find? a = some i → s.inbox.find? b = some r →
      i.correlationId = some r.correlationId → Lead s i r → Lead s' (f i) (g r)) : Mirrored s' := by
  refine ⟨fun w => ⟨fun t member => ?_, (batches w).distinct, (batches w).behind⟩, ?_, ?_⟩
  · obtain ⟨i, stored, same⟩ := (batches w).rows t member
    refine ⟨f i, ?_, (follows.item i).trans same⟩
    rw [follows.items, stored]
    rfl
  · intro a a' j j' stored stored' same
    rw [follows.items] at stored stored'
    obtain ⟨i, found, rfl⟩ := Option.map_eq_some_iff.mp stored
    obtain ⟨i', found', rfl⟩ := Option.map_eq_some_iff.mp stored'
    rw [follows.item, follows.item] at same
    exact mirrored.items a a' i i' found found' same
  · intro a b j q stored row same
    rw [follows.items] at stored
    rw [follows.inbox] at row
    obtain ⟨i, found, rfl⟩ := Option.map_eq_some_iff.mp stored
    obtain ⟨r, found', rfl⟩ := Option.map_eq_some_iff.mp row
    rw [follows.item, follows.row] at same
    exact lead a b i r found found' same (mirrored.leads a b i r found found' same)

theorem Mirrored.correlated (member : t ∈ s.workers w) {a : UUID}
    (stored : s.items.find? a = some i) (same : i.correlationId = some r.correlationId) :
    r.correlated t.row.correlationId = decide (t.row.id = i.id) := by
  obtain ⟨j, found, correlation⟩ := (mirrored.batches w).rows t member
  obtain rfl := id_of_item stored
  unfold InboxRow.correlated
  rw [← same, ← correlation]
  refine decide_eq_decide.mpr ⟨fun equal => ?_, fun onItem => ?_⟩
  · exact (mirrored.items _ _ i j stored found equal).symm
  · rw [onItem, stored] at found
    cases found
    rfl

theorem mirrored_recover {now : Int} (leased : Undisturbed s (.recoverExpiredLeases now)) :
    Mirrored { s with items := (recoverExpiredLeases s.items now).1 } := by
  refine mirrored.follow (follows_items (Item.id_recover now) rfl rfl fun _ => rfl)
    mirrored.batches ?_
  intro a b i r item _ _ lead
  obtain rfl := id_of_item item
  split
  next expired =>
    have status : i.status = .processing := by
      exact of_decide_eq_true (Bool.and_eq_true_iff.mp expired).1
    have fits := lead.fits
    have stages := lead.stages
    rw [status] at fits stages
    refine ⟨?_, fun w t member onItem => ?_, lead.single⟩
    · exact fits.reopen nofun nofun (.inr rfl)
    · refine (stages w t member onItem).anyhow (Bool.eq_false_iff.mpr fun owns => ?_) nofun nofun
      have held := leased w t member owns
      rw [onItem.trans (Item.id_recover now i), item, Option.any_some, expired] at held
      cases held
  next => exact ⟨lead.fits, lead.stages, lead.single⟩

theorem mirrored_replay {itemId : UUID} (unlisted : Undisturbed s (.replayDeadLetter itemId)) :
    Mirrored { s with items := (replayDeadLetter s.items itemId).1 } := by
  refine mirrored.follow (follows_items Item.id_replay rfl rfl fun _ => rfl) mirrored.batches ?_
  intro a b i r item row same lead
  have alive : ¬i.dead itemId = true := fun dead =>
    unlisted i (s.items.find?_mem item) dead r (s.inbox.find?_mem row) same
  rw [if_neg alive]
  exact ⟨lead.fits, lead.stages, lead.single⟩

/-- A lead with a correlation id of its own: an item that waits, an inbox row
that is queued, or both. -/
theorem Mirrored.insert {inbox : Inbox} (itemId : UUID) (queued : Bool)
    (fresh : ∀ i ∈ s.items.rows, i.correlationId ≠ some correlationId)
    (fresh' : ∀ r ∈ s.inbox.rows, r.correlationId ≠ correlationId)
    (item : ∀ a, items.find? a = s.items.find? a ∨ a = itemId ∧ s.items.find? a = none ∧
      queued = true ∧
      ∀ i, items.find? a = some i → i.correlationId = some correlationId ∧ i.status = .pending)
    (row : ∀ b, inbox.find? b = s.inbox.find? b ∨
      ∀ r, inbox.find? b = some r → r.correlationId = correlationId ∧
      (queued = true → r.status = .queued)) :
    Mirrored { s with items, inbox } := by
  refine ⟨fun w => ⟨fun t member => ?_, (mirrored.batches w).distinct, (mirrored.batches w).behind⟩,
    ?_, ?_⟩
  · obtain ⟨i, stored, same⟩ := (mirrored.batches w).rows t member
    rcases item t.row.id with old | ⟨-, absent, -⟩
    · exact ⟨i, old.trans stored, same⟩
    · rw [absent] at stored
      cases stored
  · intro a a' i i' stored stored' same
    rcases item a with old | ⟨here, -, -, new⟩ <;> rcases item a' with old' | ⟨here', -, -, new'⟩
    · exact mirrored.items a a' i i' (old.symm.trans stored) (old'.symm.trans stored') same
    · exact absurd (same.trans (new' i' stored').1)
        (fresh i (s.items.find?_mem (old.symm.trans stored)))
    · exact absurd (same.symm.trans (new i stored).1)
        (fresh i' (s.items.find?_mem (old'.symm.trans stored')))
    · exact here.trans here'.symm
  · intro a b i r stored stored' same
    rcases item a with old | ⟨-, absent, isQueued, new⟩ <;> rcases row b with old' | new'
    · have lead := mirrored.leads a b i r (old.symm.trans stored) (old'.symm.trans stored') same
      exact ⟨lead.fits, lead.stages, lead.single⟩
    · rw [(new' r stored').1] at same
      exact absurd same (fresh i (s.items.find?_mem (old.symm.trans stored)))
    · rw [(new i stored).1] at same
      exact absurd (Option.some.inj same).symm
        (fresh' r (s.inbox.find?_mem (old'.symm.trans stored')))
    · -- no worker has a row of an item that was not there
      have idle : ∀ w, ∀ t ∈ s.workers w, t.row.id ≠ i.id := by
        intro w t member onItem
        obtain ⟨j, found, -⟩ := (mirrored.batches w).rows t member
        rw [onItem, id_of_item stored, absent] at found
        cases found
      refine ⟨?_, fun w t member on => absurd on (idle w t member), ?_⟩
      · rw [(new i stored).2, (new' r stored').2 isQueued]
        exact .inl rfl
      · exact fun w _ t _ member _ on => absurd on (idle w t member)

theorem mirrored_ingest {inboxId : UUID}
    (fresh : Undisturbed s (.ingest itemId inboxId payload correlationId decisionCode
      accepted queued persistScraperInbox now)) :
    Mirrored (s.ingest itemId inboxId payload correlationId decisionCode accepted queued
      persistScraperInbox now) := by
  unfold ingest
  dsimp only
  split
  next inbox items inserted enqueued =>
    refine mirrored.insert itemId queued fresh.1 fresh.2 (fun a => ?_) fun b => ?_
    · split at enqueued
      next isQueued =>
        have absent := Table.insert?_fresh enqueued
        rw [Table.find?_insert? enqueued]
        split
        next same =>
          subst same
          refine .inr ⟨rfl, absent, isQueued, fun i stored => ?_⟩
          cases stored
          exact ⟨rfl, rfl⟩
        next => exact .inl rfl
      next =>
        cases enqueued
        exact .inl rfl
    · split at inserted
      next =>
        rw [Table.find?_insert? inserted]
        split
        next =>
          refine .inr fun r stored => ?_
          cases stored
          exact ⟨rfl, fun isQueued => if_pos isQueued⟩
        next => exact .inl rfl
      next =>
        cases inserted
        exact .inl rfl
  next => exact mirrored

variable [DecidableEq ι]

/-- The worker goes on with its current row; the rows behind it wait, and it may give them up. -/
theorem Mirrored.work {g : InboxRow → InboxRow}
    (current : s.workers w = t :: rest) (workers : s'.workers = Function.update s.workers w tasks)
    (batch : Batch s.items tasks) (old : ∀ t' ∈ tasks, t'.row.id ≠ t.row.id → t' ∈ rest)
    (follows : Follows s s' f g) (elsewhere : ∀ i, i.id ≠ t.row.id → f i = i)
    (elsewhere' : ∀ r, r.correlated t.row.correlationId = false → g r = r)
    (lead : ∀ i r, s.items.find? i.id = some i → Lead s i r → t.row.id = i.id →
      r.correlated t.row.correlationId = true → Lead s' (f i) (g r)) : Mirrored s' := by
  apply mirrored.follow follows (forall_update workers mirrored.batches batch)
  intro a b i r item _ same before
  have correlated := mirrored.correlated (mem_current current) item same
  by_cases onItem : t.row.id = i.id
  · obtain rfl := id_of_item item
    exact lead i r item before onItem (correlated.trans (decide_eq_true onItem))
  · rw [elsewhere i (Ne.symm onItem), elsewhere' r (correlated.trans (decide_eq_false onItem))]
    refine before.keep workers (fun t' new on => ?_) fun t' member on working => ?_
    · rw [current]
      exact mem_cons_of_mem t (old t' new fun same => onItem (same.symm.trans on))
    · have behind := (mirrored.batches w).behind
      rw [current] at member behind
      rcases mem_cons.mp member with rfl | waiting
      · exact absurd on onItem
      · exact absurd (behind t' waiting) working

theorem mirrored_process (w : ι) : Mirrored (s.process w) := by
  unfold process
  split
  next row rest current =>
    have batch := mirrored.batches w
    rw [current] at batch
    refine mirrored.work current rfl (batch.advance .applying)
      (mem_rest_of_ne (t := ⟨row, .waiting⟩))
      (follows_inbox InboxRow.id_process rfl rfl fun _ => rfl) (fun _ _ => rfl)
      (fun r apart => ?_) ?_
    · rw [apart]
      rfl
    · intro i r _ lead onItem correlated
      have status := lead.stages w _ (mem_current current) onItem
      refine lead.advance current batch onItem rfl rfl rfl (fun applying => ?_) status
      have fits := lead.fits
      simp only [id, correlated, Bool.true_and]
      rw [status] at fits ⊢
      -- the row is marked if it was not
      refine .inr (.inr ⟨?_, .inl applying⟩)
      rcases fits with before | before | ⟨before, -⟩ <;> simp [before, InboxRow.process]
  next => exact mirrored

variable (redact : String → String)

theorem mirrored_apply (w : ι) (outcome : Except (String × Bool) String) (now : Int) :
    Mirrored (s.apply redact w outcome now) := by
  unfold apply
  split
  next row rest current =>
    have batch := mirrored.batches w
    rw [current] at batch
    split
    next reference =>
      refine mirrored.work current rfl (batch.advance (.acknowledged reference))
        (mem_rest_of_ne (t := ⟨row, .applying⟩))
        (follows_items Item.id_acknowledge rfl rfl fun _ => rfl)
        unless_processing (fun _ _ => rfl) ?_
      intro i r _ lead onItem _
      have status : i.status = .processing := lead.stages w _ (mem_current current) onItem
      have alive := (lead.fits.open_ (by simp [status]) (by simp [status])).2
      rw [if_pos (processing_iff.mpr ⟨onItem.symm, status⟩)]
      exact lead.advance current batch onItem rfl rfl rfl
        (fun acknowledged => .inr ⟨alive, reference, acknowledged⟩) rfl
    next errorCode permanent =>
      simp only [recordFailure]
      have ended := failureStatus_cases row.attempts policy permanent
      generalize failureStatus row.attempts policy permanent = status at ended ⊢
      by_cases processing : (s.items.find? row.id).any (Item.processing row.id) = true
      · simp only [processing, if_true]
        refine mirrored.work current rfl (batch.advance (.failed status errorCode))
          (mem_rest_of_ne (t := ⟨row, .applying⟩))
          (follows_items (Item.id_fail _ _ _ _ _) rfl rfl fun _ => rfl)
          unless_processing (fun _ _ => rfl) ?_
        intro i r _ lead onItem _
        have before : i.status = .processing := lead.stages w _ (mem_current current) onItem
        rw [if_pos (processing_iff.mpr ⟨onItem.symm, before⟩)]
        have fits := lead.fits
        rw [before] at fits
        exact lead.advance current batch onItem rfl rfl rfl (fits.fail ended) id
      · simp only [processing]
        refine mirrored.work current rfl (batch_nil _) (fun _ member => absurd member not_mem_nil)
          (follows_items (Item.id_fail _ _ _ _ _) rfl rfl fun _ => rfl) unless_processing
          (fun _ _ => rfl) ?_
        -- an item with an inbox row would have been processing
        intro i r stored lead onItem _
        have status : i.status = .processing := lead.stages w _ (mem_current current) onItem
        rw [onItem, stored] at processing
        exact absurd (processing_iff.mpr ⟨rfl, status⟩) processing
  next => exact mirrored

theorem mirrored_settle (w : ι) : Mirrored (s.settle w) := by
  unfold settle
  split
  next t rest current =>
    have batch := mirrored.batches w
    rw [current] at batch
    split
    next result settled =>
      refine mirrored.work current rfl batch.of_cons (fun _ member _ => member)
        (follows_inbox (InboxRow.id_settle _ _) rfl rfl fun _ => rfl) (fun _ _ => rfl)
        (fun r apart => ?_) ?_
      · rw [apart]
        rfl
      · intro i r _ lead onItem correlated
        have gone : ∀ t' ∈ rest, t'.row.id ≠ i.id := by
          rw [← onItem]
          exact batch.apart
        refine lead.update (w := w) rfl rfl ?_ (fun v _ => lead.stages v)
          (fun t' member on => absurd on (gone t' member))
          (fun t' member on => absurd on (gone t' member))
        refine lead.fits.settle (lead.stages w t (mem_current current) onItem) settled ?_ ?_ ?_
        · intro closed
          simp [closed]
        · intro opened
          simp [opened, correlated, InboxRow.settle]
        · intro stage other
          refine live_update (w := w) rfl fun t' member on at_ => ?_
          rw [current] at member
          rcases mem_cons.mp member with rfl | old
          · exact absurd at_.symm other
          · exact old
    next => exact mirrored
  next => exact mirrored

theorem mirrored_stop (w : ι) (waiting : Undisturbed s (.stop w)) : Mirrored (s.setTasks w []) := by
  have follows : Follows s (s.setTasks w []) id id :=
    ⟨fun _ => Option.map_id_apply.symm, fun _ => Option.map_id_apply.symm, fun _ => rfl,
      fun _ => rfl⟩
  apply mirrored.follow follows (forall_update rfl mirrored.batches (batch_nil _))
  intro a b i r _ _ _ lead
  exact lead.keep (w := w) rfl nofun fun t member _ working => absurd (waiting t member) working

theorem mirrored_claim (w : ι) (locked : List UUID) (limit leaseSeconds now : Int)
    (free : s.workers w = []) : Mirrored (s.claim w locked limit leaseSeconds now) := by
  have batch := batch_claimed s.items (some leadTopic) locked limit leaseSeconds now
  have mine : ∀ t ∈ (claimItems s.items (some leadTopic) locked limit leaseSeconds now).2.map
      (fun i => (⟨row i, .waiting⟩ : Task)), t.stage = .waiting ∧
        t.row.id ∈ (claimable s.items (some leadTopic) locked limit now).map (·.id) := by
    intro t member
    simp only [claimItems, map_map] at member
    obtain ⟨i, claimed, rfl⟩ := mem_map.mp member
    exact ⟨rfl, mem_map.mpr ⟨i, claimed, rfl⟩⟩
  refine mirrored.follow (follows_items (Item.id_claim now _) rfl rfl fun _ => rfl)
    (forall_update rfl mirrored.batches batch) ?_
  intro a b i r item _ _ lead
  obtain rfl := id_of_item item
  simp only [decide_eq_true_eq, id]
  split
  next claimed =>
    have status := (mem_claimable (mem_claimable_of_id item claimed)).2
    obtain ⟨undelivered, alive, idle⟩ : i.status ≠ .delivered ∧ i.status ≠ .deadLetter ∧
        i.status ≠ .processing := by
      rcases status with status | status <;> simp [status]
    have unowned : ∀ v, ∀ t ∈ s.workers v, t.row.id = i.id → t.stage.owns = false := by
      intro v t member onItem
      exact Bool.eq_false_iff.mpr fun owns => idle ((lead.stages v t member onItem).processing owns)
    refine lead.update (w := w) rfl rfl ?_ (fun v _ t member onItem => ?_) ?_ ?_
    · refine (lead.fits.mono fun stage _ => live_update (w := w) rfl fun t member => ?_).reopen
        undelivered alive (.inl rfl)
      rw [free] at member
      cases member
    · exact (lead.stages v t member onItem).anyhow (unowned v t member onItem) undelivered alive
    · intro t new _
      rw [(mine t new).1]
      rfl
    · intro _ _ _ _ v _ t
      exact unowned v t
  next unclaimed =>
    refine lead.keep (s := s) (w := w) rfl (fun t new onItem => ?_) fun t member => ?_
    · rw [← onItem] at unclaimed
      exact absurd (mine t new).2 unclaimed
    · rw [free] at member
      cases member

end Steps

variable [DecidableEq ι] (redact : String → String)

theorem mirrored_step (s : State ι) (e : Event ι) (admitted : admits s e)
    (undisturbed : Undisturbed s e) (mirrored : Mirrored s) : Mirrored (step redact s e) := by
  cases e with
  | ingest =>
    exact mirrored_ingest mirrored undisturbed
  | recoverExpiredLeases now => exact mirrored_recover mirrored undisturbed
  | claim w locked limit leaseSeconds now =>
    exact mirrored_claim mirrored w locked limit leaseSeconds now admitted
  | process w => exact mirrored_process mirrored w
  | apply w outcome now => exact mirrored_apply mirrored redact w outcome now
  | settle w => exact mirrored_settle mirrored w
  | stop w => exact mirrored_stop mirrored w undisturbed
  | replayDeadLetter itemId => exact mirrored_replay mirrored undisturbed

/-- In an undisturbed run the inbox row of a lead that no worker is on agrees with its item. -/
theorem inbox_mirrors_outbox {es : List (Event ι)} (run : (system redact).Run (initial ι) es)
    (undisturbed : (system redact).Along Undisturbed (initial ι) es) :
    (system redact).Always Mirrors (initial ι) es :=
  System.always_of_along (S := system redact) (I := Mirrored) (mirrored_step redact)
    (fun _ mirrored => mirrored.mirrors) mirrored_initial run undisturbed

instance decidableAdmits (s : State ι) : (e : Event ι) → Decidable (admits s e)
  | .claim worker .. => inferInstanceAs (Decidable (s.workers worker = []))
  | .ingest .. | .recoverExpiredLeases _ | .process _ | .apply .. | .settle _ | .stop _
  | .replayDeadLetter _ =>
    isTrue trivial

instance decidableRun (s : State ι) (es : List (Event ι)) : Decidable ((system redact).Run s es) :=
  @System.decidableAlong _ _ (system redact) admits decidableAdmits s es

instance decidableUndisturbed [Fintype ι] (s : State ι) : (e : Event ι) →
    Decidable (Undisturbed s e)
  | .ingest .. | .recoverExpiredLeases _ | .stop _ | .replayDeadLetter _ => by
    unfold Undisturbed
    infer_instance
  | .claim .. | .process _ | .apply .. | .settle _ => isTrue trivial

instance decidableAgree (item : Status) (inbox : InboxStatus) : Decidable (Agree item inbox) := by
  unfold Agree
  infer_instance

instance decidableMirrors [Fintype ι] (s : State ι) : Decidable (Mirrors s) :=
  decidable_of_iff (∀ i ∈ s.items.rows, ∀ r ∈ s.inbox.rows, i.correlationId = some r.correlationId →
      (∀ w, ∀ t ∈ s.workers w, t.row.id ≠ i.id) → Agree i.status r.status) (by
    constructor
    · intro agree a b i r item row same idle
      obtain rfl := id_of_item item
      exact agree i (s.items.find?_mem item) r (s.inbox.find?_mem row) same idle
    · intro mirrors i item r row
      exact mirrors i.id r.id i r (s.items.find?_of_mem item) (s.inbox.find?_of_mem row))

namespace Sample

def ingest (itemId inboxId : UUID) : Event Bool :=
  .ingest itemId inboxId ⟨[], no_entries⟩ "correlation" "NET_NEW" true true true 0

def claim (worker : Bool) (minute : Int) : Event Bool :=
  .claim worker [] 1 60 (seconds (60 * minute))

def deliver (worker : Bool) (outcome : Except (String × Bool) String) : List (Event Bool) :=
  [.process worker, .apply worker outcome 0, .settle worker]

def timeout : Except (String × Bool) String := .error ("TimeoutError", false)

def refused : Except (String × Bool) String := .error ("OdooApplyError", true)

def retried : List (Event Bool) :=
  [ingest 1 2, claim true 0] ++ deliver true timeout ++ [claim false 1] ++ deliver false (.ok "7")

def replayed : List (Event Bool) :=
  [ingest 1 2, claim true 0] ++ deliver true refused ++ [.replayDeadLetter 1, claim true 1] ++
    deliver true (.ok "7")

def stopped : List (Event Bool) :=
  [ingest 1 2, claim true 0, .process true, .apply true (.ok "7") 0, .stop true]

def expired : List (Event Bool) :=
  [ingest 1 2, claim true 0, .recoverExpiredLeases (seconds 60)] ++ deliver true (.ok "7")

def shared : List (Event Bool) :=
  [ingest 1 2, ingest 3 4, claim true 0] ++ deliver true (.ok "7")

end Sample

open Sample

theorem retried_mirrors : (system id).Always Mirrors (initial Bool) retried ∧
      (((system id).after (initial Bool) retried).inbox.find? 2).map (·.status) = some .delivered :=
  ⟨inbox_mirrors_outbox id (by decide +kernel) (by decide +kernel), by decide +kernel⟩

theorem disturbed_disagrees :
    let disagrees (es : List (Event Bool)) : Prop :=
      (system id).Run (initial Bool) es ∧ ¬(system id).Always Mirrors (initial Bool) es
    disagrees replayed ∧ disagrees stopped ∧ disagrees expired ∧ disagrees shared := by
  have runs : ∀ es ∈ [replayed, stopped, expired, shared],
      (system id).Run (initial Bool) es ∧ ¬Mirrors ((system id).after (initial Bool) es) := by
    decide +kernel
  have disagrees (es : List (Event Bool)) (member : es ∈ [replayed, stopped, expired, shared]) :
      (system id).Run (initial Bool) es ∧ ¬(system id).Always Mirrors (initial Bool) es :=
    ⟨(runs es member).1, fun always => (runs es member).2 always.last⟩
  exact ⟨disagrees _ (by simp), disagrees _ (by simp), disagrees _ (by simp), disagrees _ (by simp)⟩

end CodestraMiddleware.Scraper
