import CodestraMiddleware.N8n.Finality

/-!
# The order of deliveries

For an entity and a target, deliveries are made one at a time in the order of their events: `claim`
takes a delivery only when all older ones are over.
-/
namespace CodestraMiddleware.N8n

open Relational Constrained PythonValue Transition List Database
open Sample (runtime router)

variable (rt : Runtime)

def Database.Rivals (db : Database) (d d' : Delivery) : Prop :=
  d.target = d'.target ∧ (db.entity d.eventId).isSome = true ∧
    db.entity d.eventId = db.entity d'.eventId

/-- At most one delivery for an entity and a target is active, and all older ones are over. -/
structure Ordered (s : State) : Prop where
  single : ∀ d ∈ s.database.deliveries.rows, ∀ d' ∈ s.database.deliveries.rows,
    d.status.active = true → d'.status.active = true → s.database.Rivals d d' → d = d'
  older : ∀ d ∈ s.database.deliveries.rows, ∀ older ∈ s.database.deliveries.rows,
    d.status.active = true → s.database.Precedes older d → older.status.final = true

/-- A delivery that is over does not become active again. -/
def StaysOver (s : State) (e : Event) : Prop :=
  ∀ id d d', s.database.deliveries.lookup id = some d →
    (step rt s e).database.deliveries.lookup id = some d' →
      d.status = .delivered ∨ d.status = .deadLetter → d'.status.active = false

/-- A worker stages a delivery that is neither delivered nor given up. -/
def StagesOpen (s : State) (e : Event) : Prop :=
  ∀ id d, stages rt s.database e = some id → s.database.deliveries.lookup id = some d →
    d.status ≠ .delivered ∧ d.status ≠ .deadLetter

variable {rt} {s : State} {e : Event}

theorem staysOver_iff : StaysOver rt s e ↔ StagesOpen rt s e := by
  constructor
  · intro stays id d staging stored
    obtain ⟨_, staged⟩ := lookup_staged staging
    rw [stored, Option.map_some] at staged
    have ended := stays id d _ stored staged
    constructor
    · intro delivered
      cases ended (.inl delivered)
    · intro dead
      cases ended (.inr dead)
  · intro stagesOpen id d d' stored found ended
    have shifted := shifted_step rt s e id
    rw [stored, found] at shifted
    cases shifted with
    | kept => rcases ended with ended | ended <;> rw [ended] <;> rfl
    | leased waiting =>
      rcases ended with ended | ended <;> rw [ended] at waiting <;> simp at waiting
    | released | refused => rfl
    | staged staging =>
      rw [id_of_delivery stored] at staging
      obtain ⟨undelivered, alive⟩ := stagesOpen id d staging stored
      rcases ended with ended | ended
      · exact absurd ended undelivered
      · exact absurd ended alive
    | settled delivering =>
      rcases ended with ended | ended <;> rw [ended] at delivering <;> cases delivering

theorem event_persists {id : Nat} (stored : s.database.events.lookup id = some event) :
    (step rt s e).database.events.lookup id = some event := by
  rcases (tables_step rt s e).2 with same | ⟨new, _, -, inserted⟩
  · rw [same]
    exact stored
  · rw [lookup_insert? inserted]
    split
    next here =>
      obtain ⟨member, same⟩ := lookup_eq_some_iff.mp stored
      exact absurd (.inl (same.trans here.symm)) (insert?_apart inserted event member)
    next => exact stored

theorem entity_step {id : Nat} (stored : (s.database.events.lookup id).isSome = true) :
    (step rt s e).database.entity id = s.database.entity id := by
  obtain ⟨_, found⟩ := Option.isSome_iff_exists.mp stored
  rw [entity, entity, found, event_persists found]

/-! ## Deliveries wait for the older ones -/

def Cleared (db : Database) (d : Delivery) : Prop :=
  ∀ older ∈ db.deliveries.rows, db.Precedes older d → older.status.final = true

theorem cleared_of_not_blocked (first : db.blocked d = false) : Cleared db d := by
  intro older member precedes
  simp only [blocked, any_eq_false, Bool.and_eq_true, decide_eq_true_eq, Bool.not_eq_true', not_and,
    Bool.not_eq_false] at first
  exact first older member precedes

/-- Deliveries belong to events; what has been claimed is there and the older ones are over; what is
active has been claimed; nothing is cancelled. -/
structure Sequenced (s : State) : Prop where
  linked : ∀ d ∈ s.database.deliveries.rows, (s.database.events.lookup d.eventId).isSome = true
  cleared : ∀ row ∈ s.claimed, ∃ d, s.database.deliveries.lookup row.id = some d ∧
    Cleared s.database d
  active : ∀ d ∈ s.database.deliveries.rows, d.status.active = true →
    ∃ row ∈ s.claimed, row.id = d.id
  uncancelled : ∀ d ∈ s.database.deliveries.rows, d.status ≠ .canceled

theorem sequenced_initial : Sequenced .initial :=
  ⟨fun _ => nofun, fun _ => nofun, fun _ => nofun, fun _ => nofun⟩

theorem Sequenced.ordered (sequenced : Sequenced s) : Ordered s := by
  have older (d older : Delivery) (row : d ∈ s.database.deliveries.rows)
      (row' : older ∈ s.database.deliveries.rows) (active : d.status.active = true)
      (precedes : s.database.Precedes older d) : older.status.final = true := by
    obtain ⟨claimed, member, same⟩ := sequenced.active d row active
    obtain ⟨d', stored, cleared⟩ := sequenced.cleared claimed member
    have stored' : s.database.deliveries.lookup d.id = some d := lookup_of_mem row
    rw [same, stored'] at stored
    cases stored
    exact cleared older row' precedes
  have not_active {status : DeliveryStatus} (active : status.active = true) :
      status.final ≠ true := by
    cases status <;> simp_all [DeliveryStatus.active, DeliveryStatus.final]
  refine ⟨fun d row d' row' active active' rivals => ?_, fun d row o row' => older d o row row'⟩
  obtain ⟨target, entity, same⟩ := rivals
  rcases Nat.lt_trichotomy d.eventId d'.eventId with less | equal | greater
  · exact absurd (older d' d row' row active' ⟨target, less, by rw [← same]; exact entity, same⟩)
      (not_active active)
  · -- A delivery is the only one of its event to its target.
    have keys : d.keys.2 = d'.keys.2 := Prod.ext equal target
    exact s.database.deliveries.eq_of_clash shares_symm row row' (.inr keys)
  · exact absurd (older d d' row row' active ⟨target.symm, greater, entity, same.symm⟩)
      (not_active active')

theorem delivery_origin (row : d' ∈ (step rt s e).database.deliveries.rows) :
    (∃ d, s.database.deliveries.lookup d'.id = some d ∧ Shifted rt s e (some d) (some d')) ∨
      ∃ event new, e = .publish event new ∧ d'.status = .pending ∧ d'.eventId = event.id ∧
        ((step rt s e).database.events.lookup event.id).isSome = true := by
  have stored : (step rt s e).database.deliveries.lookup d'.id = some d' := lookup_of_mem row
  have shifted := shifted_step rt s e d'.id
  rw [stored] at shifted
  cases before : s.database.deliveries.lookup d'.id with
  | some d =>
    rw [before] at shifted
    exact .inl ⟨d, rfl, shifted⟩
  | none =>
    rw [before] at shifted
    cases shifted with
    | published publish status ofEvent recorded =>
      exact .inr ⟨_, _, publish, status, ofEvent, recorded⟩

theorem Sequenced.linked_step (sequenced : Sequenced s) :
    ∀ d' ∈ (step rt s e).database.deliveries.rows,
      ((step rt s e).database.events.lookup d'.eventId).isSome = true := by
  intro d' row
  rcases delivery_origin row with ⟨d, stored, shifted⟩ | ⟨event, _, -, -, ofEvent, recorded⟩
  · have same : d'.eventId = d.eventId := congrArg (·.2.1) shifted.keys_eq
    obtain ⟨_, found⟩ := Option.isSome_iff_exists.mp
      (sequenced.linked d (lookup_eq_some_iff.mp stored).1)
    rw [same, event_persists found]
    rfl
  · rw [ofEvent]
    exact recorded

theorem Sequenced.uncancelled_step (sequenced : Sequenced s) :
    ∀ d' ∈ (step rt s e).database.deliveries.rows, d'.status ≠ .canceled := by
  intro d' row
  rcases delivery_origin row with ⟨d, stored, shifted⟩ | ⟨_, _, -, status, -⟩
  · cases shifted with
    | kept => exact sequenced.uncancelled d' (lookup_eq_some_iff.mp stored).1
    | @settled _ status =>
      cases status <;> nofun
    | _ => nofun
  · rw [status]
    nofun

theorem Sequenced.claimed_step (sequenced : Sequenced s) (member : row ∈ (step rt s e).claimed) :
    ∃ d, s.database.deliveries.lookup row.id = some d ∧ Cleared s.database d := by
  cases e with
  | claimDeliveries =>
    rcases mem_append.mp member with new | old
    · obtain ⟨d, taken, rfl⟩ := mem_map.mp new
      obtain ⟨stored, qualifies⟩ := mem_of_mem_taken taken
      simp only [eligible, Bool.and_eq_true, Bool.not_eq_true'] at qualifies
      exact ⟨d, lookup_of_mem stored, cleared_of_not_blocked qualifies.1.2⟩
    · exact sequenced.cleared row old
  | _ => exact sequenced.cleared row member

theorem final_stays (stays : StaysOver rt s e)
    (stored : s.database.deliveries.lookup d'.id = some d)
    (shifted : Shifted rt s e (some d) (some d'))
    (found : (step rt s e).database.deliveries.lookup d'.id = some d')
    (open_ : d.status ≠ .canceled) (final : d.status.final = true) : d'.status.final = true := by
  have ended : d.status = .delivered ∨ d.status = .deadLetter := by
    cases status : d.status <;> simp_all [DeliveryStatus.final]
  have inactive := stays _ d d' stored found ended
  cases shifted with
  | kept => exact final
  | leased | staged => cases inactive
  | released leased =>
    rw [leased] at final
    cases final
  | refused => rfl
  | settled delivering =>
    rw [delivering] at final
    cases final

theorem Sequenced.cleared_step (sequenced : Sequenced s) (admitted : admits s e)
    (stays : StaysOver rt s e) :
    ∀ row ∈ (step rt s e).claimed, ∃ d', (step rt s e).database.deliveries.lookup row.id = some d' ∧
      Cleared (step rt s e).database d' := by
  intro row member
  obtain ⟨d, stored, cleared⟩ := sequenced.claimed_step member
  have shifted := shifted_step rt s e row.id
  rw [stored] at shifted
  obtain ⟨d', found, keys⟩ : ∃ d', (step rt s e).database.deliveries.lookup row.id = some d' ∧
      d'.keys = d.keys := by
    cases after : (step rt s e).database.deliveries.lookup row.id with
    | none =>
      rw [after] at shifted
      cases shifted
    | some d' =>
      rw [after] at shifted
      exact ⟨d', rfl, shifted.keys_eq⟩
  have event := sequenced.linked d (lookup_eq_some_iff.mp stored).1
  have eventId : d'.eventId = d.eventId := congrArg (·.2.1) keys
  have target : d'.target = d.target := congrArg (·.2.2) keys
  refine ⟨d', found, fun older' row' precedes => ?_⟩
  obtain ⟨sameTarget, less, entity, sameEntity⟩ := precedes
  rw [eventId] at less entity sameEntity
  rcases delivery_origin row' with ⟨older, storedOlder, shiftedOlder⟩ | ⟨new, _, rfl, -, _, -⟩
  · have olderRow := (lookup_eq_some_iff.mp storedOlder).1
    have keysOlder := shiftedOlder.keys_eq
    have eventOlder : older'.eventId = older.eventId := congrArg (·.2.1) keysOlder
    have targetOlder : older'.target = older.target := congrArg (·.2.2) keysOlder
    rw [entity_step event] at entity sameEntity
    rw [eventOlder, entity_step (sequenced.linked older olderRow)] at sameEntity
    have final := cleared older olderRow
      ⟨by rw [← targetOlder, sameTarget, target], by rw [← eventOlder]; exact less,
        entity, sameEntity⟩
    exact final_stays stays storedOlder shiftedOlder (lookup_of_mem row')
      (sequenced.uncancelled older olderRow) final
  · -- A new event is younger than all others.
    obtain ⟨known, found⟩ := Option.isSome_iff_exists.mp event
    obtain ⟨memberEvent, same⟩ := lookup_eq_some_iff.mp found
    have younger : known.id < new.id := admitted known memberEvent
    have same : known.id = d.eventId := same
    omega

theorem Sequenced.active_step (sequenced : Sequenced s) (admitted : admits s e) :
    ∀ d' ∈ (step rt s e).database.deliveries.rows, d'.status.active = true →
    ∃ row ∈ (step rt s e).claimed, row.id = d'.id := by
  have kept (row : Row) (member : row ∈ s.claimed) : row ∈ (step rt s e).claimed := by
    cases e with
    | claimDeliveries => exact mem_append_right _ member
    | _ => exact member
  intro d' row active
  rcases delivery_origin row with ⟨d, stored, shifted⟩ | ⟨_, _, -, status, -⟩
  · cases shifted with
    | kept =>
      obtain ⟨claimed, member, same⟩ := sequenced.active d' (lookup_eq_some_iff.mp stored).1 active
      exact ⟨claimed, kept claimed member, same⟩
    | leased _ _ claimed => exact ⟨d.row, claimed, rfl⟩
    | staged staging =>
      cases e with
      | stageClaimedDelivery claimed =>
        simp only [stages] at staging
        split at staging
        next => exact ⟨claimed, kept claimed admitted, Option.some.inj staging⟩
        next => cases staging
      | _ => cases staging
    | released | refused => cases active
    | @settled _ status => cases status <;> cases active
  · rw [status] at active
    cases active

theorem Sequenced.step (sequenced : Sequenced s) (admitted : admits s e)
    (stays : StaysOver rt s e) : Sequenced (step rt s e) :=
  ⟨sequenced.linked_step, sequenced.cleared_step admitted stays, sequenced.active_step admitted,
    sequenced.uncancelled_step⟩

/-- On every run deliveries are made in order and do not become active again once they are over,
exactly if no worker stages a delivery that is over. -/
theorem deliveries_ordered_iff {es : List Event} (run : (system rt).Run .initial es) :
    ((system rt).Always Ordered .initial es ∧ (system rt).Along (StaysOver rt) .initial es) ↔
      (system rt).Along (StagesOpen rt) .initial es := by
  rw [and_comm]
  exact System.along_and_always_iff (S := system rt) (I := Sequenced) (fun _ _ _ _ => staysOver_iff)
    (fun _ _ admitted sequenced stays => sequenced.step admitted stays)
    (fun _ sequenced => sequenced.ordered) sequenced_initial run

instance decidableStagesOpen (s : State) (e : Event) : Decidable (StagesOpen rt s e) :=
  decidable_of_iff (((stages rt s.database e).bind fun id => s.database.deliveries.lookup id).all
      fun d =>
      decide (d.status ≠ .delivered ∧ d.status ≠ .deadLetter)) (by
    simp only [Option.all_eq_true, Option.bind_eq_some_iff, decide_eq_true_eq]
    exact ⟨fun opens id d staging stored => opens d ⟨id, staging, stored⟩,
      fun opens d ⟨id, staging, stored⟩ => opens id d staging stored⟩)

def reclaimed : List Event :=
  [.publish (Sample.event 1) [(1, "n8n")], .publish (Sample.event 2) [(2, "n8n")],
    .claimDeliveries [] "n8n" "worker-1" 10 60 0, .recoverDeliveries 60000000,
    .claimDeliveries [] "n8n" "worker-2" 10 60 60000000,
    .stageClaimedDelivery Sample.row [router] 1 60000000, Sample.claim 60000001,
    Sample.dispatchOne 202 60000002, Sample.result "nonce-1" .completed 60000003,
    .claimDeliveries [] "n8n" "worker-2" 10 60 60000004]

theorem reclaimed_ordered : (system runtime).Always Ordered .initial reclaimed ∧
      (system runtime).Along (StaysOver runtime) .initial reclaimed :=
  (deliveries_ordered_iff (by decide +kernel)).mpr (by decide +kernel)

/-- An active delivery has an older one that is not over. -/
def Database.overtaken (db : Database) : Bool :=
  db.deliveries.rows.any fun d => d.status.active && db.blocked d

theorem Ordered.not_overtaken (ordered : Ordered s) : s.database.overtaken = false := by
  simp only [overtaken, blocked, any_eq_false, Bool.and_eq_true, any_eq_true, decide_eq_true_eq,
    Bool.not_eq_true']
  rintro d row ⟨active, older, row', precedes, unfinished⟩
  rw [ordered.older d row older row' active precedes] at unfinished
  cases unfinished

/-- The first worker stages the row that it claimed: the delivery, which is over, is being delivered
again while the next one is leased. -/
theorem stale_worker_reactivates :
    let S := system runtime
    let es := reclaimed ++ [.stageClaimedDelivery Sample.row [router] 2 60000005]
    S.Run .initial es ∧
      (S.after .initial reclaimed).database.deliveries.rows.map (fun d => (d.id, d.status)) =
        [(1, .delivered), (2, .leased)] ∧
      (S.after .initial es).database.deliveries.rows.map (fun d => (d.id, d.status)) =
        [(1, .delivering), (2, .leased)] ∧
      ¬S.Always Ordered .initial es := by
  have overtaken : ((system runtime).after .initial (reclaimed ++
      [.stageClaimedDelivery Sample.row [router] 2 60000005])).database.overtaken = true := by
    decide +kernel
  refine ⟨by decide +kernel, by decide +kernel, by decide +kernel, fun ordered => ?_⟩
  rw [ordered.last.not_overtaken] at overtaken
  cases overtaken

end CodestraMiddleware.N8n
