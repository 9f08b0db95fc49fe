import CodestraMiddleware.Callbacks.System
import CodestraMiddleware.Foundations.Fields

/-!
# Popups that drain

When nobody else calls and the gateway accepts everything, every popup run settles deliveries for
good, until none of a campaign is left.
-/
namespace CodestraMiddleware.Callbacks

open Relational Raising Transition List DeliverCall CallbackDelivery
open AiJobs (UUID)

variable {rt : Runtime} {tenant campaign : String}

/-! ## Campaigns -/

def Aggregate.Scoped (a : Aggregate) : Prop :=
  ∀ r ∈ a.record, r.tenantId ≠ "" ∧ r.campaignId ≠ "" ∧ ',' ∉ r.campaignId.toList

theorem not_comma_of_amongJoined (among : amongJoined value ids = true) : ',' ∉ value.toList := by
  obtain ⟨id, -, part⟩ := any_eq_true.mp among
  rw [contains_iff_mem, splitCommas] at part
  obtain ⟨_, member, rfl⟩ := mem_map.mp part
  rw [String.toList_ofList]
  exact Fields.not_mem_part member

theorem amongJoined_self (given : value ≠ "") (single : ',' ∉ value.toList) :
    amongJoined value [value] = true := by
  simp [amongJoined, given, splitCommas, splitOn_eq_singleton single]

variable {e : Event}

theorem Aggregate.Scoped.step (step : Aggregate.Step rt e a a') (placed : a.Scoped) :
    a'.Scoped := by
  intro r' there'
  cases step with
  | created c _ _ _ _ _ _ inScope after =>
    rw [after] at there'
    cases there'
    simp only [RlsContext.inScope, Bool.and_eq_true] at inScope
    exact ⟨c.body.scope_given.1, c.body.scope_given.2, not_comma_of_amongJoined inScope.1.2⟩
  | kept same => exact placed r' (same ▸ there')
  | changed c row row' call before id change after =>
    rw [after] at there'
    cases there'
    rw [((c.changed_eq_ok_iff row).mp change).spec]
    exact placed row before
  | moved m c row call before allowed after =>
    rw [after] at there'
    cases there'
    exact placed row before
  | reported _ _ _ _ _ _ after | reconciled _ _ _ _ _ _ after | delivered _ _ _ _ _ _ _ after =>
    rw [after] at there'
    exact placed r' there'

/-! ## Popups of a campaign -/

structure OfCampaign (tenant campaign : String) (db : Database) (d : CallbackDelivery)
    (r : CallbackRecord) : Prop where
  stored : d ∈ db.deliveries.rows
  popup : d.channel = .popup
  owner : db.record? d.callbackId = some r
  tenant : r.tenantId = tenant
  campaign : r.campaignId = campaign

def CallbackDelivery.Settled (d : CallbackDelivery) : Prop :=
  d.status = .delivered ∨ d.status = .staleCancelled

section

variable (tenant campaign : String)

def Drained (db : Database) : Prop :=
  ∀ d r, OfCampaign tenant campaign db d r → d.Settled

/-- The delivery has a time, and is of an older version or has a document. -/
def CallbackDelivery.Finishable (d : CallbackDelivery) (r : CallbackRecord) : Prop :=
  d.isPending = true ∧ d.nextAttemptAt ≠ none ∧
    (d.callbackVersion ≠ r.version ∨ d.hasDocument r = true)

/-- Every delivery of the campaign is settled or can still be finished. -/
def Drainable (db : Database) : Prop :=
  ∀ d r, OfCampaign tenant campaign db d r → d.Settled ∨ d.Finishable r

/-- A popup run for the campaign, with a gateway that accepts everything, after all times at which a
delivery is to be tried. -/
def CalmRun (s : State) (e : Event) : Prop :=
  ∃ c : DeliverCall, e = .deliver c ∧ c.tenantId = tenant ∧ c.campaignId = campaign ∧ c.token ≠ "" ∧
    0 < c.limit ∧ c.locked = [] ∧ (∀ doc, c.gateway doc = .accepted) ∧
      ∀ d r, OfCampaign tenant campaign s.database d r → ∀ time ∈ d.nextAttemptAt, time ≤ c.now

end

/-- Enough such runs settle every popup of the campaign. -/
def Drains (rt : Runtime) (tenant campaign : String) (s : State) : Prop :=
  ∃ n, ∀ runs, (system rt).Along (CalmRun tenant campaign) s runs → n ≤ runs.length →
    Drained tenant campaign ((system rt).after s runs).database

/-! ## What a run does to a delivery -/

variable {d : CallbackDelivery} {db : Database}

theorem deliver_settle (c : DeliverCall) (context : RlsContext) (digit : Char → Bool)
    (stored : d ∈ db.deliveries.rows) : (c.work digit (c.dueRows context db)).settle d = d ∨
      ∃ r, db.record? d.callbackId = some r ∧ c.isDue context d r = true ∧
        (c.work digit (c.dueRows context db)).settle d = c.settle digit d r := by
  simp only [work]
  split
  next pair found =>
    obtain ⟨record, due⟩ := find_dueRows stored found
    exact .inr ⟨pair.2, record, due, rfl⟩
  next => exact .inl rfl

variable {r : CallbackRecord} {c : DeliverCall} {s : State}

theorem delivered_tables (done : db.Committed (c.work digit rows) db') :
    (∀ id, db'.record? id = db.record? id) ∧
    db'.deliveries.rows = db.deliveries.rows.map (c.work digit rows).settle := by
  refine ⟨fun id => congrArg Aggregate.record (done.aggregate_settled rfl rfl rfl rfl id), ?_⟩
  rw [done.deliveries_rows]
  exact append_nil _

theorem delivered_popups (popup :
      OfCampaign tenant campaign (step rt s (.deliver c)).database d' r) :
    ∃ d, OfCampaign tenant campaign s.database d r ∧
      (d' = d ∨ ∃ context, c.isDue context d r = true ∧ d' = c.settle rt.digit d r) := by
  have effect := step_effect rt s (.deliver c)
  generalize (step rt s (.deliver c)).database = db' at effect popup
  cases effect with
  | unchanged => exact ⟨d', popup, .inl rfl⟩
  | moved kind => cases kind
  | @delivered _ context _ _ _ done =>
    obtain ⟨stored, channel, owner, tenant, campaign⟩ := popup
    obtain ⟨records, rows⟩ := delivered_tables done
    rw [rows] at stored
    obtain ⟨d, old, rfl⟩ := mem_map.mp stored
    have spec := (c.work rt.digit (c.dueRows context s.database)).settle_spec d
    rw [records, spec] at owner
    rw [spec] at channel
    refine ⟨d, ⟨old, channel, owner, tenant, campaign⟩, ?_⟩
    rcases deliver_settle c context rt.digit old with same | ⟨r', found, due, settled⟩
    · exact .inl same
    · cases found.symm.trans owner
      exact .inr ⟨_, due, settled⟩

/-! ## Deliveries that are never settled -/

def CallbackDelivery.Stuck (d : CallbackDelivery) (r : CallbackRecord) : Prop :=
  ¬ d.Settled ∧ ¬ d.Finishable r

variable {context : RlsContext}

theorem DeliverCall.isDue_pending (due : c.isDue context d r = true) : d.isPending = true ∧
    d.nextAttemptAt ≠ none := by
  simp only [isDue, Bool.and_eq_true] at due
  refine ⟨due.1.1.2, fun none => ?_⟩
  have time := due.1.2
  rw [none] at time
  cases time

theorem DeliverCall.ofCampaign_of_isDue (stored : d ∈ db.deliveries.rows)
    (owner : db.record? d.callbackId = some r)
    (due : c.isDue context d r = true) : OfCampaign c.tenantId c.campaignId db d r := by
  simp only [isDue, Bool.and_eq_true, decide_eq_true_eq] at due
  obtain ⟨⟨⟨⟨-, tenant, campaign, popup⟩, -⟩, -⟩, -⟩ := due
  exact ⟨stored, popup, owner, tenant, campaign⟩

theorem CallbackDelivery.Stuck.settle (stuck : d.Stuck r) (due : c.isDue context d r = true) :
    (c.settle digit d r).Stuck r := by
  obtain ⟨pending, time⟩ := DeliverCall.isDue_pending due
  have nothing : d.callbackVersion = r.version ∧ d.hasDocument r = false := by
    have unfinishable := stuck.2
    simpa [Finishable, pending, time] using unfinishable
  have retried : c.settle digit d r = c.retry d := by
    unfold DeliverCall.settle
    rw [if_neg (not_not.mpr nothing.1)]
    split
    next => rfl
    next doc ok =>
      rw [(document_eq_ok ok).1] at nothing
      cases nothing.2
  rw [retried]
  constructor
  · rintro (status | status) <;> cases status
  · rintro ⟨-, -, older | document⟩
    · exact older nothing.1
    · cases nothing.2.symm.trans document

theorem stuck_step (rt : Runtime) (c : DeliverCall)
    (popup : OfCampaign tenant campaign s.database d r) (stuck : d.Stuck r) :
    ∃ d' r', OfCampaign tenant campaign (step rt s (.deliver c)).database d' r' ∧ d'.Stuck r' := by
  have effect := step_effect rt s (.deliver c)
  generalize (step rt s (.deliver c)).database = db' at effect
  cases effect with
  | unchanged => exact ⟨d, r, popup, stuck⟩
  | moved kind => cases kind
  | @delivered _ context _ _ _ done =>
    obtain ⟨stored, channel, owner, tenant, campaign⟩ := popup
    have spec := (c.work rt.digit (c.dueRows context s.database)).settle_spec d
    obtain ⟨records, rows⟩ := delivered_tables done
    refine ⟨(c.work rt.digit (c.dueRows context s.database)).settle d, r,
      ⟨?_, ?_, ?_, tenant, campaign⟩, ?_⟩
    · rw [rows]
      exact mem_map_of_mem stored
    · rw [spec, channel]
    · rw [records, spec, owner]
    · rcases deliver_settle c context rt.digit stored with same | ⟨r', found, due, settled⟩
      · rw [same]
        exact stuck
      · cases found.symm.trans owner
        rw [settled]
        exact stuck.settle due

theorem stuck_run (popup : OfCampaign tenant campaign s.database d r)
    (stuck : d.Stuck r) (calm : (system rt).Along (CalmRun tenant campaign) s runs) :
    ¬ Drained tenant campaign ((system rt).after s runs).database := by
  induction runs generalizing s d r with
  | nil => exact fun drained => stuck.1 (drained d r popup)
  | cons e runs ih =>
    obtain ⟨⟨c, rfl, -⟩, rest⟩ := calm
    obtain ⟨d', r', popup', stuck'⟩ := stuck_step rt c popup stuck
    exact ih popup' stuck' rest

theorem exists_later (rows : List CallbackDelivery) : ∃ now, ∀ d ∈ rows, ∀ time ∈ d.nextAttemptAt,
    time ≤ now := by
  induction rows with
  | nil => exact ⟨0, fun d member => by cases member⟩
  | cons first rows ih =>
    obtain ⟨now, later⟩ := ih
    refine ⟨max now (first.nextAttemptAt.getD 0),
      forall_mem_cons.mpr ⟨fun time given => ?_, fun d rest time given => ?_⟩⟩
    · rw [Option.mem_def.mp given]
      exact le_max_right _ _
    · exact (later d rest time given).trans (le_max_left _ _)

theorem exists_calm_runs (rt : Runtime) (tenant campaign : String) (n : Nat) (s : State) :
    ∃ runs, (system rt).Along (CalmRun tenant campaign) s runs ∧ n ≤ runs.length := by
  induction n generalizing s with
  | zero => exact ⟨[], trivial, Nat.le_refl 0⟩
  | succ n ih =>
    obtain ⟨now, later⟩ := exists_later s.database.deliveries.rows
    let c : DeliverCall := ⟨tenant, campaign, "token", 1, now, [], fun _ => .accepted⟩
    obtain ⟨runs, calm, length⟩ := ih (step rt s (.deliver c))
    refine ⟨.deliver c :: runs, ⟨⟨c, rfl, rfl, rfl, ?_, Nat.one_pos, rfl, fun _ => rfl, ?_⟩, calm⟩,
      ?_⟩
    · exact (by decide : "token" ≠ "")
    · exact fun d r popup => later d popup.stored
    · exact Nat.succ_le_succ length

theorem not_drains_of_stuck (popup : OfCampaign tenant campaign s.database d r)
    (stuck : d.Stuck r) : ¬ Drains rt tenant campaign s := by
  rintro ⟨n, drains⟩
  obtain ⟨runs, calm, length⟩ := exists_calm_runs rt tenant campaign n s
  exact stuck_run popup stuck calm (drains runs calm length)

theorem DeliverCall.posts_through (digit : Char → Bool) (accepts : ∀ doc, c.gateway doc = .accepted)
    (rows : List (CallbackDelivery × CallbackRecord)) : (c.posts digit rows).2 = true := by
  induction rows with
  | nil => rfl
  | cons row rows ih =>
    rw [posts]
    split
    · exact ih
    · split
      next => exact ih
      next doc ok =>
        rw [accepts doc]
        exact ih

theorem CallbackDelivery.Finishable.settle (digit : Char → Bool)
    (accepts : ∀ doc, c.gateway doc = .accepted) (finishable : d.Finishable r) :
    (c.settle digit d r).Settled := by
  unfold DeliverCall.settle
  split
  · exact .inr rfl
  next current =>
    have has := finishable.2.2.resolve_left current
    obtain ⟨doc, made⟩ := document_of_hasDocument digit has
    rw [made]
    simp only [accepts doc]
    exact .inl rfl

theorem CallbackDelivery.not_settled_of_pending (pending : d.isPending = true) : ¬ d.Settled := by
  rintro (status | status) <;> simp [isPending, DeliveryStatus.pending, status] at pending

theorem drainable_step (calm : CalmRun tenant campaign s e)
    (drainable : Drainable tenant campaign s.database) :
    Drainable tenant campaign (step rt s e).database := by
  obtain ⟨c, rfl, -, -, -, -, -, accepts, -⟩ := calm
  intro d' r popup'
  obtain ⟨d, popup, rfl | ⟨_, due, rfl⟩⟩ := delivered_popups popup'
  · exact drainable d' r popup
  · have unsettled := d.not_settled_of_pending (isDue_pending due).1
    exact .inl (((drainable d r popup).resolve_left unsettled).settle _ accepts)

def isOpen (tenant campaign : String) (db : Database) (d : CallbackDelivery) : Bool :=
  decide (d.channel = .popup) && d.isPending &&
    (db.record? d.callbackId).any fun r => decide (r.tenantId = tenant ∧ r.campaignId = campaign)

theorem isOpen_iff (stored : d ∈ db.deliveries.rows) : isOpen tenant campaign db d = true ↔
      d.isPending = true ∧ ∃ r, OfCampaign tenant campaign db d r := by
  simp only [isOpen, Bool.and_eq_true, decide_eq_true_eq, Option.any_eq_true]
  constructor
  · rintro ⟨⟨popup, pending⟩, r, owner, tenant, campaign⟩
    exact ⟨pending, r, stored, popup, owner, tenant, campaign⟩
  · rintro ⟨pending, r, -, popup, owner, tenant, campaign⟩
    exact ⟨⟨popup, pending⟩, r, owner, tenant, campaign⟩

def openCount (tenant campaign : String) (db : Database) : Nat :=
  db.deliveries.rows.countP (isOpen tenant campaign db)

theorem settle_of_mem_dueRows (member : (d, r) ∈ c.dueRows context db) :
    (c.work digit (c.dueRows context db)).settle d = c.settle digit d r := by
  obtain ⟨stored, owner, -⟩ := mem_dueRows member
  simp only [work]
  split
  next pair found =>
    obtain ⟨record, -⟩ := find_dueRows stored found
    rw [Option.some_inj.mp (record.symm.trans owner)]
  next absent =>
    have differs := find?_eq_none.mp absent (d, r) member
    simp at differs

theorem context_of_scoped (token : c.token ≠ "") (tenant : r.tenantId = c.tenantId)
    (campaign : r.campaignId = c.campaignId)
    (placed : r.tenantId ≠ "" ∧ r.campaignId ≠ "" ∧ ',' ∉ r.campaignId.toList) :
    ∃ context, c.context = .ok context ∧ context.inScope r = true := by
  obtain ⟨tenantGiven, campaignGiven, single⟩ := placed
  have among := amongJoined_self campaignGiven single
  rw [tenant] at tenantGiven
  rw [campaign] at campaignGiven
  refine ⟨⟨c.tenantId, [c.campaignId], "callback-realtime-worker", .user .service, []⟩, ?_, ?_⟩
  · simp [DeliverCall.context, bind_eq_ok, tenantGiven, campaignGiven, token]
  · rw [campaign] at among
    simp [RlsContext.inScope, tenant, campaign, among, RlsRole.seesAll]

/-- As long as a popup of the campaign can be finished, a calm run selects a row and commits. -/
theorem calm_selects (rt : Runtime) (calm : CalmRun tenant campaign s e)
    (placed : ∀ id, (s.database.aggregate id).Scoped)
    (popup : OfCampaign tenant campaign s.database d r) (finishable : d.Finishable r) :
    ∃ c context, e = .deliver c ∧ c.tenantId = tenant ∧ c.campaignId = campaign ∧
      (∀ doc, c.gateway doc = .accepted) ∧ c.dueRows context s.database ≠ [] ∧
      s.database.Committed (c.work rt.digit (c.dueRows context s.database))
      (step rt s e).database := by
  obtain ⟨c, rfl, rfl, rfl, token, _, unlocked, accepts, later⟩ := calm
  obtain ⟨context, started, inScope⟩ :=
    context_of_scoped token popup.tenant popup.campaign (placed d.callbackId r popup.owner)
  refine ⟨c, context, rfl, rfl, rfl, accepts, ?_, ?_⟩
  · obtain ⟨time, at_⟩ := Option.ne_none_iff_exists'.mp finishable.2.1
    have due : c.isDue context d r = true := by
      simp [isDue, inScope, popup.tenant, popup.campaign, popup.popup, finishable.1, at_,
        later d r popup time at_, unlocked]
    have listed : (d, r) ∈ s.database.deliveries.rows.filterMap fun d =>
        ((s.database.record? d.callbackId).filter (c.isDue context d)).map fun r => (d, r) :=
      mem_filterMap.mpr ⟨d, popup.stored, by simp [popup.owner, due]⟩
    intro empty
    rcases take_eq_nil_iff.mp empty with zero | none
    · omega
    · have sorted := (mem_insertionSort (fun x y =>
        x.1.nextAttemptAt.getD 0 ≤ y.1.nextAttemptAt.getD 0)).mpr listed
      rw [none] at sorted
      cases sorted
  · have through := posts_through rt.digit accepts (c.dueRows context s.database)
    obtain ⟨db', done⟩ : ∃ db', s.database.commit (c.work rt.digit (c.dueRows context s.database))
        .integrity = .ok db' :=
      ⟨_, rfl⟩
    have after : (step rt s (.deliver c)).database = db' := by
      simp [step, Event.commits, deliverCallbackPopups, started, through, done, orUnchanged]
    rw [after]
    exact Database.commit_eq_ok.mp done

/-- What holds of the popups of a campaign while only calm runs are made. -/
def Draining (tenant campaign : String) (s : State) : Prop :=
  (∀ id, (s.database.aggregate id).Scoped) ∧ Drainable tenant campaign s.database

theorem draining_step (s : State) (e : Event) (calm : CalmRun tenant campaign s e)
    (draining : Draining tenant campaign s) : Draining tenant campaign (step rt s e) :=
  ⟨fun id => (draining.1 id).step (aggregate_step (step_effect rt s e) id),
    drainable_step calm draining.2⟩

theorem openCount_step (s : State) (e : Event) (calm : CalmRun tenant campaign s e)
    (draining : Draining tenant campaign s) :
    openCount tenant campaign (step rt s e).database ≤ openCount tenant campaign
    s.database - 1 := by
  by_cases none : ∀ d r, OfCampaign tenant campaign s.database d r → d.Settled
  · -- Nothing is open, and a run opens nothing.
    have closed : openCount tenant campaign (step rt s e).database = 0 := by
      refine countP_eq_zero.mpr fun d' stored' opened => ?_
      obtain ⟨pending, r, popup'⟩ := (isOpen_iff stored').mp opened
      obtain ⟨c, rfl, -⟩ := calm
      obtain ⟨d, popup, rfl | ⟨context, due, -⟩⟩ := delivered_popups popup'
      · exact not_settled_of_pending pending (none d' r popup)
      · exact not_settled_of_pending (isDue_pending due).1 (none d r popup)
    omega
  · push Not at none
    obtain ⟨d, r, popup, unsettled⟩ := none
    obtain ⟨c, context, rfl, rfl, rfl, accepts, some, done⟩ :=
      calm_selects rt calm draining.1 popup ((draining.2 d r popup).resolve_left unsettled)
    obtain ⟨records, rows⟩ := delivered_tables done
    have same : isOpen c.tenantId c.campaignId (step rt s (.deliver c)).database =
        isOpen c.tenantId c.campaignId s.database := by
      funext d
      simp only [isOpen, records]
    have fewer : openCount c.tenantId c.campaignId (step rt s (.deliver c)).database <
        openCount c.tenantId c.campaignId s.database := by
      rw [openCount, same, rows]
      -- The first row that the run selects is open before it and settled after it.
      obtain ⟨⟨chosen, owner⟩, member⟩ := exists_mem_of_ne_nil _ some
      obtain ⟨stored, found, due⟩ := mem_dueRows member
      have pending := (isDue_pending due).1
      have selected := ofCampaign_of_isDue stored found due
      have finishable := (draining.2 chosen owner selected).resolve_left
        (not_settled_of_pending pending)
      refine Constrained.fewer_qualify ?_ stored
        ((isOpen_iff stored).mpr ⟨pending, owner, selected⟩) ?_
      · intro d stored opened
        rcases deliver_settle c context rt.digit stored with same | ⟨r, found, due, -⟩
        · rwa [same] at opened
        · exact (isOpen_iff stored).mpr ⟨(isDue_pending due).1, r,
            ofCampaign_of_isDue stored found due⟩
      · rw [settle_of_mem_dueRows member]
        have settled := finishable.settle rt.digit accepts
        have closed := Bool.eq_false_iff.mpr fun pending => not_settled_of_pending pending settled
        simp [isOpen, closed]
    omega

/-! ## Every reachable state -/

/-- From a state that calls, scheduler runs and popup runs lead to, enough calm runs settle every
popup of a campaign exactly if each of them that is not settled has a time and is of an older
version or has a document. -/
theorem popups_drain_iff (rt : Runtime) (clock : Int) (events : List Event)
    (tenant campaign : String) :
    Drains rt tenant campaign ((system rt).after (.initial clock) events) ↔
      Drainable tenant campaign ((system rt).after (.initial clock) events).database := by
  set s := (system rt).after (.initial clock) events
  constructor
  · intro drains d r popup
    by_contra stuck
    exact not_drains_of_stuck popup (not_or.mp stuck) drains
  · intro drainable
    have start : Draining tenant campaign s :=
      ⟨(aggregates_stable fun _ _ _ step placed => placed.step step).after
      (fun id r there => by cases there) (run_all rt _ events), drainable⟩
    refine ⟨openCount tenant campaign s.database, fun runs calm enough => ?_⟩
    let count : State → Nat := fun s => openCount tenant campaign s.database
    obtain ⟨kept, none⟩ : Draining tenant campaign _ ∧ count _ = 0 :=
      System.exhausted draining_step openCount_step start calm enough
    intro d r popup
    refine (kept.2 d r popup).resolve_right fun finishable => ?_
    have closed := countP_eq_zero.mp none d popup.stored
    exact closed ((isOpen_iff popup.stored).mpr ⟨finishable.1, r, popup⟩)

namespace Sample

def teamCall : CreateCall :=
  { creation with
    body := { request with
      assignedAgentId := none
      assignedUserId := none
      assignedTeamId := some "T"
      owner := by decide } }

def stuckPopup (db : Database) : Bool :=
  db.deliveries.rows.any fun d => (db.record? d.callbackId).any fun r =>
    decide (d.channel = .popup ∧ r.tenantId = "COD" ∧ r.campaignId = "TEST_SYN" ∧
      d.isPending = true ∧ d.callbackVersion = r.version ∧ d.hasDocument r = false)

theorem not_drains_of_stuckPopup (stuck : stuckPopup s.database = true) :
    ¬ Drains runtime "COD" "TEST_SYN" s := by
  simp only [stuckPopup, any_eq_true, Option.any_eq_true, decide_eq_true_eq] at stuck
  obtain ⟨d, stored, r, owner, popup, tenant, campaign, pending, current, without⟩ := stuck
  refine not_drains_of_stuck ⟨stored, popup, owner, tenant, campaign⟩
    ⟨not_settled_of_pending pending, ?_⟩
  rintro ⟨-, -, older | document⟩
  · exact older current
  · rw [without] at document
    cases document

end Sample

open Sample in
/-- A callback of an agent that is due: the worker does not know the stage of the second popup that
`claim_due` enqueues. A callback of a team: the first warning has nobody to go to. -/
theorem popups_never_drain : ¬ Drains runtime "COD" "TEST_SYN" ((system runtime).after (.initial 0)
        [.create creation, .claimDue (scheduling (minutes 120)) 10]) ∧
      ¬ Drains runtime "COD" "TEST_SYN"
      ((system runtime).after (.initial 0) [.create teamCall]) := by
  constructor
  · exact not_drains_of_stuckPopup (by decide +kernel)
  · exact not_drains_of_stuckPopup (by decide +kernel)

end CodestraMiddleware.Callbacks
