import CodestraMiddleware.Telephony.Dispatch
import CodestraMiddleware.Telephony.FinalStates

/-!
# The number of attempts

`_record_failure` turns the `MAX_ATTEMPTS`-th failure into `FAILED_PERMANENT`, and this is the only
place where attempts are counted. `claim_authorized` takes over a lease that has run out whatever
the count is, and a failure reaches `_record_failure` from the `try` block only.
-/
namespace CodestraMiddleware.Telephony

open Relational Transition Database State CommandProgress

variable (sha256 : String → String) {ι : Type} [DecidableEq ι]

def TelephonyCommandState.settled : TelephonyCommandState → Bool
  | .failedPermanent | .odooResultPending | .reconciliationRequired => true
  | _ => false

def claims (commandId : UUID) (log : List (ι × Trace)) : Nat :=
  log.countP fun entry => decide (entry.2 = .claimed commandId)

/-- No command has had more than `MAX_ATTEMPTS` attempts, and after the last one it is settled. -/
structure AttemptsBounded (s : State ι) : Prop where
  bound : ∀ r ∈ s.database.commands.rows, r.attemptCount ≤ maxAttempts
  last : ∀ r ∈ s.database.commands.rows, r.attemptCount = maxAttempts → r.state.settled = true ∨
    ∃ i, Holds s i r

/-- The event does not cut the last attempt of a command short: no claim takes its lease over, and
the worker that holds the lease neither crashes nor finds the stored command invalid. -/
def SparesLastAttempt (s : State ι) : Event ι → Prop
  | .worker i (.claim now environment locked _) => s.workers i = .idle →
    ∀ r, claimedRow? now environment locked s.database = some r →
    ¬ (r.state = .submitting ∧ r.attemptCount = maxAttempts)
  | .worker i (.load now _) => ∀ lease heartbeat r, s.workers i = .running lease
      heartbeat .claimed →
    ownedRow? lease s.database = some r → r.attemptCount = maxAttempts →
      r.request.forbidApplicationSelectedResources now = .ok ()
  | .worker i .crash => ∀ r, Holds s i r → r.attemptCount ≠ maxAttempts
  | _ => True

def Stage.submitted : Stage → Bool
  | .loaded _ (some _) _ | .readingBack _ | .readBack _ _ => true
  | _ => false

structure RowSound (r : TelephonyCommandJournal) : Prop where
  authorized : r.state = .authorized → r.attemptCount = 0
  transient : r.state = .failedTransient → r.attemptCount < maxAttempts
  reading : r.state ≠ .readbackPending

structure AttemptRecord (s : State ι) : Prop where
  rows : ∀ r ∈ s.database.commands.rows, RowSound r
  tokens : ∀ i j lease lease' heartbeat heartbeat' stage stage',
    s.workers i = .running lease heartbeat stage → s.workers j = .running lease' heartbeat' stage' →
    lease.owner = lease'.owner → i = j
  operations : ∀ i lease heartbeat stage, s.workers i = .running lease heartbeat stage →
    stage.submitted = true → (s.database.operation? lease.commandId).isSome
  known : ∀ i commandId, (i, .claimed commandId) ∈ s.log →
    ∃ r ∈ s.database.commands.rows, r.commandId = commandId
  counts : ∀ r ∈ s.database.commands.rows, r.attemptCount = claims r.commandId s.log

omit [DecidableEq ι] in
theorem AttemptRecord.initial : AttemptRecord (initial ι empty) where
  rows r member := by cases member
  tokens i j lease lease' heartbeat heartbeat' stage stage' running := by cases running
  operations i lease heartbeat stage running := by cases running
  known i commandId member := by cases member
  counts r member := by cases member

variable {r : TelephonyCommandJournal}

theorem RowSound.of_change {s : State ι} (unattended : e.unattended = true)
    (sound : ∀ r ∈ s.database.commands.rows, RowSound r) (change : RowChange sha256 s e r) :
    RowSound r := by
  cases change with
  | untouched member => exact sound r member
  | created | finalized =>
    constructor <;> simp only [CommandCall.row, newCommandRecord, finalize,
      Readback.commandState] <;> split <;> simp
  | cancelled | registered => cases unattended
  | claimed => constructor <;> simp [claim]
  | renewed _ owned =>
    have state := (ownedRow?_eq_some.mp owned).2.2.1
    constructor <;> simp [renew, state]
  | failed =>
    constructor
    case transient =>
      -- A transient failure is recorded below the limit only.
      intro state
      simp only [fail] at state ⊢
      by_contra full
      simp [not_lt.mp full] at state
    all_goals
      simp only [fail]
      split <;> simp

variable {heartbeat : Bool} {stage : Stage}

section Reacts

variable {sha256} {db : Database} {w : Worker} {e : WorkerEvent} {reaction : Reaction}
  (reacts : Reacts sha256 db w e reaction)

include reacts

theorem Reacts.lease {lease : Lease} (running : reaction.worker = .running lease heartbeat stage) :
    (∃ heartbeat' stage', w = .running lease heartbeat' stage') ∨
      ∃ now environment locked, e = .claim now environment locked lease.owner := by
  cases reacts with
  | rests => exact .inl ⟨_, _, running⟩
  | claims =>
    cases running
    exact .inr ⟨_, _, _, rfl⟩
  | escapes | recordsFailure | finalizes | gaveUp | crashes => cases running
  | _ =>
    cases running
    exact .inl ⟨_, _, ‹_›⟩

theorem Reacts.submitted {lease : Lease}
    (before : ∀ lease heartbeat stage, w = .running lease heartbeat stage →
      stage.submitted = true → (db.operation? lease.commandId).isSome)
    (running : reaction.worker = .running lease heartbeat stage)
    (submitted : stage.submitted = true) :
    (reaction.database.operation? lease.commandId).isSome := by
  cases reacts with
  | rests => exact before lease heartbeat stage running submitted
  | loads was looked =>
    -- The one load that counts is the one that has found the operation.
    cases running
    simp only [Stage.submitted] at submitted
    split at submitted
    next same =>
      cases same
      rw [eq_comm, Option.map_eq_some_iff] at looked
      obtain ⟨o, found, -⟩ := looked
      rw [found]
      rfl
    next same => cases same
    next same => cases same
    next => cases submitted
  | resumes was | readsBack was =>
    cases running
    exact before _ _ _ was rfl
  | persists was owned absent inserted =>
    cases running
    rw [operation?_updateCommand, ← (ownedRow?_eq_some.mp owned).2.1]
    exact Option.isSome_iff_exists.mpr ⟨_, operation?_insertOperation? inserted⟩
  | rejoins was owned present =>
    cases running
    rw [operation?_updateCommand, ← (ownedRow?_eq_some.mp owned).2.1, present]
    rfl
  | renews was | stopsRenewing was =>
    cases running
    exact before _ _ _ was submitted
  | claims | denied | dispatches | answered | stumbles =>
    cases running
    cases submitted
  | _ => cases running

theorem Reacts.claimed {commandId : UUID} (trace : reaction.trace = some (.claimed commandId)) :
    ∃ now environment locked owner row, e = .claim now environment locked owner ∧ w = .idle ∧
      claimedRow? now environment locked db = some row ∧ row.commandId = commandId ∧
      reaction.database = db.updateCommand row.commandId (.claim now owner) := by
  cases reacts with
  | claims idle found =>
    cases trace
    exact ⟨_, _, _, _, _, rfl, idle, found, rfl, rfl⟩
  | stumbles looked | gaveUp looked => cases looked <;> cases trace
  | _ => cases trace

theorem Reacts.holder {lease : Lease} (running : w = .running lease heartbeat stage)
    (owned : ownedRow? lease db = some r) :
    (∃ heartbeat' stage', reaction.worker = .running lease heartbeat' stage') ∨
    (∀ r' ∈ reaction.database.commands.rows, r'.commandId = r.commandId → r'.state ≠ .submitting) ∨
    (stage.submitted = true ∧ db.operation? lease.commandId = none) ∨ e = .crash ∨
    ∃ now decision, e = .load now decision ∧ stage = .claimed ∧
    r.request.forbidApplicationSelectedResources now ≠ .ok () := by
  subst running
  have left {db' : Database} {change : CommandProgress → CommandProgress}
    (away : ∀ p, (change p).state ≠ .submitting) :
      ∀ r' ∈ (db'.updateCommand r.commandId change).commands.rows, r'.commandId = r.commandId →
      r'.state ≠ .submitting := by
    intro r' member same
    rcases db'.mem_updateCommand _ member with ⟨-, other⟩ | ⟨old, -, -, rfl⟩
    · exact absurd same other
    · exact away _
  cases reacts with
  | rests => exact .inl ⟨_, _, rfl⟩
  | claims idle => cases idle
  | escapes before refused =>
    cases before
    have found := db.command?_eq_some.mpr
      ⟨(ownedRow?_eq_some.mp owned).1, (ownedRow?_eq_some.mp owned).2.1⟩
    exact .inr (.inr (.inr (.inr ⟨_, _, rfl, rfl, refused r found⟩)))
  -- The two transactions that end an attempt take the row out of SUBMITTING.
  | recordsFailure before owned' =>
    cases before
    cases owned.symm.trans owned'
    refine .inr (.inl (left fun p => ?_))
    simp only [fail]
    split <;> simp
  | finalizes before owned' =>
    cases before
    cases owned.symm.trans owned'
    refine .inr (.inl (left fun p => ?_))
    simp only [finalize, Readback.commandState]
    split <;> simp
  | gaveUp _ before conflict =>
    cases before
    rcases conflict with lost | ⟨⟨_, _, rfl⟩, absent⟩
    · rw [owned] at lost
      cases lost
    · exact .inr (.inr (.inl ⟨rfl, absent⟩))
  | crashes => exact .inr (.inr (.inr (.inl rfl)))
  | _ =>
    cases ‹Worker.running lease heartbeat stage = _›
    exact .inl ⟨_, _, rfl⟩

end Reacts

theorem claims_step (s : State ι) (i : ι) (e : WorkerEvent) (commandId : UUID) :
    claims commandId (step sha256 s (.worker i e)).log = claims commandId s.log +
      if ((s.workers i).react sha256 e s.database).trace = some (.claimed commandId) then 1
      else 0 := by
  simp only [step, claims, List.countP_append]
  cases ((s.workers i).react sha256 e s.database).trace with
  | none => simp
  | some trace => simp [Nat.add_comm]

omit [DecidableEq ι] in
theorem claims_eq_zero {log : List (ι × Trace)}
    (unclaimed : ∀ i, (i, Trace.claimed commandId) ∉ log) : claims commandId log = 0 := by
  rw [claims, List.countP_eq_zero]
  rintro ⟨i, trace⟩ member same
  have claimed : trace = .claimed commandId := of_decide_eq_true same
  rw [claimed] at member
  exact unclaimed i member

theorem RowChange.attemptCount {e : Event ι} (change : RowChange sha256 s e r) :
    (∃ old ∈ s.database.commands.rows, old.commandId = r.commandId ∧
      old.attemptCount = r.attemptCount) ∨
    ((∀ old ∈ s.database.commands.rows, old.commandId ≠ r.commandId) ∧ r.attemptCount = 0) ∨
    ∃ i now environment locked owner old, e = .worker i (.claim now environment locked owner) ∧
      s.workers i = .idle ∧ claimedRow? now environment locked s.database = some old ∧
      old.commandId = r.commandId ∧ r.attemptCount = old.attemptCount + 1 := by
  cases change with
  | untouched member => exact .inl ⟨r, member, rfl, rfl⟩
  | created started new => exact .inr (.inl ⟨new, rfl⟩)
  | cancelled found | registered found =>
    exact .inl ⟨_, s.database.commandByPublicId?_mem found, rfl, rfl⟩
  | claimed idle found => exact .inr (.inr ⟨_, _, _, _, _, _, rfl, idle, found, rfl, rfl⟩)
  | renewed _ owned | failed _ owned | finalized _ owned =>
    exact .inl ⟨_, (ownedRow?_eq_some.mp owned).1, rfl, rfl⟩

variable {i : ι}

omit [DecidableEq ι] in
theorem react_claim {s : State ι} (owner : String) {row : TelephonyCommandJournal}
    (idle : s.workers i = .idle)
    (found : claimedRow? now environment locked s.database = some row) :
    (s.workers i).react sha256 (.claim now environment locked owner) s.database =
      ⟨s.database.updateCommand row.commandId (.claim now owner),
        .running ⟨row.commandId, owner⟩ false .claimed, some (.claimed row.commandId)⟩ := by
  simp [Worker.react, idle, claimAuthorized, found]

section Kept

variable {s : State ι} {e : Event ι}

section

variable (record : AttemptRecord s)

include record

theorem AttemptRecord.tokens_kept (fresh : FreshOwner s e)
    (i j : ι) (lease lease' : Lease) (heartbeat heartbeat' : Bool) (stage stage' : Stage)
    (first : (step sha256 s e).workers i = .running lease heartbeat stage)
    (second : (step sha256 s e).workers j = .running lease' heartbeat' stage')
    (same : lease.owner = lease'.owner) : i = j := by
  cases e with
  | api call =>
    exact record.tokens i j lease lease' heartbeat heartbeat' stage stage' first second same
  | worker k e =>
    have reacts := react_reacts sha256 e (s.workers k) s.database
    -- A worker other than `k` has the lease it had, and its token is not the fresh one.
    have apart {l : ι} {lease lease' : Lease} {heartbeat heartbeat' : Bool} {stage stage' : Stage}
      (other : l ≠ k)
        (stepped : (step sha256 s (.worker k e)).workers k = .running lease heartbeat stage)
        (running : s.workers l = .running lease' heartbeat' stage') :
        lease.owner ≠ lease'.owner := by
      intro same
      rw [step_workers_self] at stepped
      rcases reacts.lease stepped with ⟨heartbeat₀, stage₀, before⟩ | ⟨now, _, _, rfl⟩
      · exact other (record.tokens l k lease' lease heartbeat' heartbeat₀ stage' stage₀ running
          before same.symm)
      · exact fresh l (by rw [running, Worker.owner?, same])
    by_cases here : i = k
    · subst here
      by_contra differ
      rw [step_workers_ne sha256 s i e (Ne.symm differ)] at second
      exact apart (Ne.symm differ) first second same
    · rw [step_workers_ne sha256 s k e here] at first
      by_cases there : j = k
      · subst there
        exact absurd same.symm (apart here second first)
      · rw [step_workers_ne sha256 s k e there] at second
        exact record.tokens i j lease lease' heartbeat heartbeat' stage stage' first second same

theorem AttemptRecord.operations_kept (i : ι) (lease : Lease)
    (heartbeat : Bool) (stage : Stage)
    (running : (step sha256 s e).workers i = .running lease heartbeat stage)
    (submitted : stage.submitted = true) :
    ((step sha256 s e).database.operation? lease.commandId).isSome := by
  cases e with
  | api call =>
    exact step_operation?_isSome sha256 s _
      (record.operations i lease heartbeat stage running submitted)
  | worker k e =>
    by_cases here : i = k
    · subst here
      rw [step_workers_self] at running
      exact (react_reacts sha256 e (s.workers i) s.database).submitted (record.operations i)
        running submitted
    · rw [step_workers_ne sha256 s k e here] at running
      exact step_operation?_isSome sha256 s _
        (record.operations i lease heartbeat stage running submitted)

theorem AttemptRecord.known_kept (i : ι) (commandId : UUID)
    (logged : (i, .claimed commandId) ∈ (step sha256 s e).log) :
    ∃ r ∈ (step sha256 s e).database.commands.rows, r.commandId = commandId := by
  suffices known : ∃ r ∈ s.database.commands.rows, r.commandId = commandId by
    obtain ⟨r, member, same⟩ := known
    obtain ⟨r', member', kept⟩ := (step_recordsKept sha256 s e).commands r member
    exact ⟨r', member', (congrArg CommandSpec.commandId kept).trans same⟩
  cases e with
  | api call => exact record.known i commandId logged
  | worker k e =>
    rcases (mem_step_log sha256 s k e).mp logged with ⟨-, trace⟩ | old
    · obtain ⟨now, _, _, _, row, -, -, found, same, -⟩ :=
        (react_reacts sha256 e (s.workers k) s.database).claimed trace
      exact ⟨row, (claimedRow?_mem found).1, same⟩
    · exact record.known i commandId old

theorem AttemptRecord.counts_kept (r : TelephonyCommandJournal)
    (member : r ∈ (step sha256 s e).database.commands.rows) :
    r.attemptCount = claims r.commandId (step sha256 s e).log := by
  have change := (step_rowChange sha256 member).attemptCount
  -- Without a claim of this command, its count and its claims stay.
  have quiet : (∀ i e', e = .worker i e' → ((s.workers i).react sha256 e' s.database).trace ≠
      some (.claimed r.commandId)) → r.attemptCount = claims r.commandId s.log := by
    intro quiet
    rcases change with ⟨old, listed, same, count⟩ | ⟨new, count⟩ |
      ⟨i, now, environment, locked, owner, old, rfl, idle, found, same, -⟩
    · rw [← count, ← same]
      exact record.counts old listed
    · rw [count, claims_eq_zero]
      intro i logged
      obtain ⟨old, listed, same⟩ := record.known i r.commandId logged
      exact new old listed same
    · exact absurd (by rw [react_claim sha256 owner idle found, same]) (quiet i _ rfl)
  cases e with
  | api call => exact quiet fun _ _ same => by cases same
  | worker i e =>
    rw [claims_step]
    split
    next traced =>
      obtain ⟨now, _, _, _, row, -, -, _, same, database⟩ :=
        (react_reacts sha256 e (s.workers i) s.database).claimed traced
      rw [step_database, database] at member
      rcases s.database.mem_updateCommand row.commandId member with ⟨-, other⟩ |
        ⟨old, listed, id, rfl⟩
      · exact absurd same.symm other
      · have count := record.counts old listed
        show old.attemptCount + 1 = claims old.commandId s.log + 1
        rw [count]
    next traced =>
      apply quiet
      rintro j e' ⟨⟩
      exact traced

theorem AttemptRecord.kept (unattended : e.unattended = true) (fresh : FreshOwner s e) :
    AttemptRecord (step sha256 s e) where
  rows _ member := .of_change sha256 unattended record.rows (step_rowChange sha256 member)
  tokens := record.tokens_kept sha256 fresh
  operations := record.operations_kept sha256
  known := record.known_kept sha256
  counts := record.counts_kept sha256

end

end Kept

section Bound

variable {s : State ι} {e : Event ι}

omit [DecidableEq ι] in
theorem Holds.mem (holds : Holds s i r) : r ∈ s.database.commands.rows ∧ r.state = .submitting := by
  obtain ⟨_, _, _, -, owned⟩ := holds
  obtain ⟨member, -, state, -⟩ := ownedRow?_eq_some.mp owned
  exact ⟨member, state⟩

omit [DecidableEq ι] in
theorem AttemptRecord.holder_unique (record : AttemptRecord s) (first : Holds s i r)
    (second : Holds s j r) : i = j := by
  obtain ⟨lease, heartbeat, stage, running, owned⟩ := first
  obtain ⟨lease', heartbeat', stage', running', owned'⟩ := second
  have owner := (ownedRow?_eq_some.mp owned).2.2.2
  have owner' := (ownedRow?_eq_some.mp owned').2.2.2
  apply record.tokens i j lease lease' heartbeat heartbeat' stage stage' running running'
  rw [owner] at owner'
  exact Option.some.inj owner'

theorem RowSound.below (sound : RowSound r)
    (bound : r.attemptCount ≤ maxAttempts) (claimable : r.claimable now environment = true)
    (spared : ¬ (r.state = .submitting ∧ r.attemptCount = maxAttempts)) :
    r.attemptCount < maxAttempts := by
  simp only [TelephonyCommandJournal.claimable, Bool.and_eq_true, Bool.or_eq_true,
    decide_eq_true_eq] at claimable
  -- AUTHORIZED, FAILED_TRANSIENT, READBACK_PENDING, or SUBMITTING with a lease that has run out.
  rcases claimable.2 with ⟨(state | state) | state, -⟩ | ⟨state, -⟩
  · rw [sound.authorized state]
    decide
  · exact sound.transient state
  · exact absurd state sound.reading
  · exact lt_of_le_of_ne bound fun full => spared ⟨state, full⟩

theorem Holds.kept (record : AttemptRecord s) (spares : SparesLastAttempt s e) (holds : Holds s i r)
    (full : r.attemptCount = maxAttempts) (member : r ∈ (step sha256 s e).database.commands.rows) :
    Holds (step sha256 s e) i r := by
  obtain ⟨lease, heartbeat, stage, running, owned⟩ := holds
  obtain ⟨-, id, state, owner⟩ := ownedRow?_eq_some.mp owned
  have owned' : ownedRow? lease (step sha256 s e).database = some r :=
    ownedRow?_eq_some.mpr ⟨member, id, state, owner⟩
  cases e with
  | api call => exact ⟨lease, heartbeat, stage, running, owned'⟩
  | worker k e =>
    by_cases here : i = k
    · subst here
      rcases (react_reacts sha256 e (s.workers i) s.database).holder running owned with
        ⟨heartbeat', stage', kept⟩ | ended | ⟨submitted, absent⟩ | rfl |
        ⟨now, _, rfl, rfl, invalid⟩
      · exact ⟨lease, heartbeat', stage', by rw [step_workers_self, kept], owned'⟩
      · exact absurd state (ended r member rfl)
      · -- A finalization that finds no operation: not reached, it was written before.
        have found := record.operations i lease heartbeat stage running submitted
        rw [absent] at found
        cases found
      · exact absurd full (spares r ⟨lease, heartbeat, stage, running, owned⟩)
      · exact absurd (spares lease heartbeat r running owned full) invalid
    · exact ⟨lease, heartbeat, stage, by rw [step_workers_ne sha256 s k e here, running], owned'⟩

theorem AttemptsBounded.kept (record : AttemptRecord s) (unattended : e.unattended = true)
    (bounded : AttemptsBounded s) (spares : SparesLastAttempt s e) :
    AttemptsBounded (step sha256 s e) := by
  constructor
  case bound =>
    intro r member
    rcases (step_rowChange sha256 member).attemptCount with ⟨old, listed, -, count⟩ | ⟨-, count⟩ |
      ⟨i, now, _, _, owner, old, rfl, idle, found, -, count⟩
    · rw [← count]
      exact bounded.bound old listed
    · rw [count]
      exact Nat.zero_le _
    · -- The claim is the one place where the count grows.
      obtain ⟨listed, claimable⟩ := claimedRow?_mem found
      have below := (record.rows old listed).below (bounded.bound old listed) claimable
        (spares idle old found)
      omega
  case last =>
    intro r member full
    cases step_rowChange sha256 member with
    | untouched old =>
      rcases bounded.last r old full with settled | ⟨i, holds⟩
      · exact .inl settled
      · exact .inr ⟨i, holds.kept sha256 record spares full member⟩
    | created => cases full
    | cancelled | registered => cases unattended
    | @claimed i _ _ _ owner old idle found =>
      refine .inr ⟨i, ⟨old.commandId, owner⟩, false, .claimed, ?_,
        ownedRow?_eq_some.mpr ⟨member, rfl, rfl, rfl⟩⟩
      rw [step_workers_self, react_claim sha256 owner idle found]
    | renewed running owned still =>
      obtain ⟨heartbeat, stage, still⟩ := still
      obtain ⟨-, id, state, owner⟩ := ownedRow?_eq_some.mp owned
      exact .inr ⟨_, _, heartbeat, stage, still, ownedRow?_eq_some.mpr ⟨member, id, state, owner⟩⟩
    | failed =>
      refine .inl ?_
      simp only [fail] at full ⊢
      simp [full, TelephonyCommandState.settled]
    | finalized =>
      refine .inl ?_
      simp only [finalize, Readback.commandState]
      split <;> rfl

theorem AttemptsBounded.undropped {e : WorkerEvent} (record : AttemptRecord s)
    (bounded : AttemptsBounded (step sha256 s (.worker i e)))
    (database : (step sha256 s (.worker i e)).database = s.database)
    (idle : (step sha256 s (.worker i e)).workers i = .idle) (holds : Holds s i r) :
    r.attemptCount ≠ maxAttempts := by
  intro full
  obtain ⟨_, state⟩ := holds.mem
  rcases bounded.last r (by rwa [database]) full with settled | ⟨j, lease, heartbeat, stage,
    running, owned⟩
  · rw [state] at settled
    cases settled
  · by_cases here : j = i
    · subst here
      rw [idle] at running
      cases running
    · rw [step_workers_ne sha256 s i e here] at running
      rw [database] at owned
      exact here (record.holder_unique ⟨lease, heartbeat, stage, running, owned⟩ holds)

theorem SparesLastAttempt.of_bounded (record : AttemptRecord s)
    (bounded : AttemptsBounded (step sha256 s e)) : SparesLastAttempt s e := by
  unfold SparesLastAttempt
  split
  next i now environment locked owner =>
    -- The claim would make it one attempt too many.
    rintro idle r found ⟨-, full⟩
    have reacted := react_claim sha256 owner idle found
    have exceeded := bounded.bound { r with
        toCommandProgress := r.toCommandProgress.claim now owner } (by
        rw [step_database, reacted]
        exact s.database.updateCommand_mem (claimedRow?_mem found).1)
    have count : r.attemptCount + 1 ≤ maxAttempts := exceeded
    omega
  next i now decision =>
    -- The exception escapes, and nobody is left to end the attempt.
    intro lease heartbeat r running owned full
    by_contra invalid
    have found := s.database.command?_eq_some.mpr
      ⟨(ownedRow?_eq_some.mp owned).1, (ownedRow?_eq_some.mp owned).2.1⟩
    have reacted : (s.workers i).react sha256 (.load now decision) s.database =
        ⟨s.database, .idle, none⟩ := by
      cases checked : r.request.forbidApplicationSelectedResources now with
      | ok => exact absurd checked invalid
      | error => simp [Worker.react, running, loadCommand, found, checked]
    exact bounded.undropped sha256 record (by rw [step_database, reacted])
      (by rw [step_workers_self, reacted]) ⟨lease, heartbeat, .claimed, running, owned⟩ full
  next i =>
    intro r holds
    exact bounded.undropped sha256 record rfl (by rw [step_workers_self]; rfl) holds
  next => trivial

end Bound

/-- In every run of workers over commands created from an empty journal, `attempt_count` is the
number of claims; it stays within `MAX_ATTEMPTS`, and the last attempt settles the command, exactly
when no event cuts a last attempt short. -/
theorem attempts_bounded_iff {es : List (Event ι)}
    (run : (workerSystem sha256).Run (initial ι empty) es) :
    (workerSystem sha256).Always (fun s => ∀ r ∈ s.database.commands.rows,
      r.attemptCount = claims r.commandId s.log) (initial ι empty) es ∧
    ((workerSystem sha256).Always AttemptsBounded (initial ι empty) es ↔
      (workerSystem sha256).Along SparesLastAttempt (initial ι empty) es) := by
  have stable : (workerSystem sha256).Stable (AttemptRecord (ι := ι)) :=
    fun s e admitted record => record.kept sha256 admitted.1 admitted.2
  refine ⟨stable.always (fun s record => record.counts) .initial run, ?_⟩
  refine stable.always_iff ?_ .initial ⟨?_, ?_⟩ run
  · intro s e admitted record bounded
    exact ⟨.of_bounded sha256 record, bounded.kept sha256 record admitted.1⟩
  · intro r member
    cases member
  · intro r member
    cases member

omit [DecidableEq ι] in
theorem SparesLastAttempt.of_below {s : State ι}
    (below : ∀ r ∈ s.database.commands.rows, r.attemptCount < maxAttempts) :
    SparesLastAttempt s e := by
  unfold SparesLastAttempt
  split
  next =>
    rintro idle r found ⟨-, full⟩
    exact (below r (claimedRow?_mem found).1).ne full
  next =>
    intro lease heartbeat r running owned full
    exact absurd full (below r (ownedRow?_eq_some.mp owned).1).ne
  next =>
    intro r holds
    exact (below r holds.mem.1).ne
  next => trivial

namespace Sample

def claim (n k : Nat) : Event Unit :=
  .worker () (.claim (newYear + seconds n) .staging (fun _ => false)
    ("3f2504e04f8941d39a0c0305e82c330" ++ toString k))

def load (n : Nat) : Event Unit := .worker () (.load (newYear + seconds n) (some (decision true)))

def failedAttempt : List (Event Unit) :=
  [create true, claim 1 0, load 1, .worker () (.call (newYear + seconds 1)),
    .worker () (.raise (.httpStatus 503)), .worker () (.recordFailure (newYear + seconds 2))]

def expiredAttempts : List (Event Unit) :=
  create true :: (List.range 9).flatMap fun k => [claim (300 + 120 * k) k, load (300 + 120 * k)]

end Sample

theorem attempts_bounded_first : (workerSystem Sample.sha256).Always AttemptsBounded
      (initial Unit empty) Sample.failedAttempt := by
  apply (attempts_bounded_iff Sample.sha256 (by decide +kernel)).2.mpr
  refine ⟨?_, ?_, ?_, ?_, ?_, ?_, trivial⟩ <;> exact .of_below (by decide +kernel)

theorem ninth_attempt : (workerSystem Sample.sha256).Run (initial Unit empty)
    Sample.expiredAttempts ∧
    ¬ (workerSystem Sample.sha256).Always AttemptsBounded (initial Unit empty)
    Sample.expiredAttempts := by
  refine ⟨by decide +kernel, ?_⟩
  intro always
  have bound := always.last.bound
  revert bound
  decide +kernel

end CodestraMiddleware.Telephony
