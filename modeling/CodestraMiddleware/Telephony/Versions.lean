import CodestraMiddleware.Foundations.Transactions
import CodestraMiddleware.Telephony.Operations

/-!
# Versions of an aggregate under concurrent commands

`create_command` once more, statement by statement. The idempotency lookup runs before the advisory
lock, the version check after it, and the lock is on the whole aggregate.
-/
namespace CodestraMiddleware.Telephony

open Relational Transition ReadCommitted List Constrained

inductive CreateStage where
  /-- The checks before the first query of the journal are passed. -/
  | bound (body : TelephonyCommandRequest) (decision : PolicyDecision)
  /-- The key has no row and the decision passed its checks. -/
  | cleared (body : TelephonyCommandRequest) (decision : PolicyDecision)
  | locked (body : TelephonyCommandRequest) (decision : PolicyDecision)
  /-- The version is above those of the aggregate. -/
  | fresh (body : TelephonyCommandRequest) (decision : PolicyDecision)
  | outdated (body : TelephonyCommandRequest)
  | inserted (body : TelephonyCommandRequest) (decision : PolicyDecision)
  | violated (body : TelephonyCommandRequest)
  | rolledBack (body : TelephonyCommandRequest)
  | conflicting (body : TelephonyCommandRequest)
  | answered (reply : Reply)
  | raised (fault : Fault)
  | finished (outcome : Except Fault Reply)

structure Creation where
  call : CommandCall
  stage : CreateStage

variable (sha256 : String → String) (hashtextextended : String → Int)

def aggregateLockKey (body : TelephonyCommandRequest) : String :=
  "\x1f".intercalate [body.environment.value, body.aggregateType, body.aggregatePublicId]

variable {body : TelephonyCommandRequest}

theorem aggregateLockKey_congr {body' : TelephonyCommandRequest}
    (same : body.aggregate = body'.aggregate) : aggregateLockKey body = aggregateLockKey body' := by
  simp only [TelephonyCommandRequest.aggregate, Prod.mk.injEq] at same
  obtain ⟨environment, aggregateType, publicId⟩ := same
  rw [aggregateLockKey, environment, aggregateType, publicId, aggregateLockKey]

namespace Creation

def enter (x : Creation) (stage : CreateStage) : Creation := { x with stage := stage }

def start (call : CommandCall) : Creation where
  call := call
  stage :=
    match call.start with
    | .error fault => .raised fault
    | .ok (body, decision) => .bound body decision

variable (x : Creation)

def lookup (body : TelephonyCommandRequest) (decision : PolicyDecision) (db : Database) :
    CreateStage :=
  match existingCommand? sha256 body db with
  | some existing =>
    match replay sha256 body existing with
    | .ok reply => .answered reply
    | .error fault => .raised fault
  | none =>
    match policyDefect? sha256 x.call.now body decision with
    | some defect => .raised (.http 409 defect.detail)
    | none => .cleared body decision

end Creation

section

variable (body : TelephonyCommandRequest)

def checkVersion (decision : PolicyDecision) (db : Database) : CreateStage :=
  if stale body db then .outdated body else .fresh body decision

def reread (db : Database) : CreateStage :=
  match existingCommand? sha256 body db with
  | some existing =>
    if existing.requestHash = body.requestHash sha256 then .answered (existing.view true)
    else .conflicting body
  | none => .conflicting body

def explainConflict (db : Database) : CreateStage :=
  if stale body db then .raised (.http 409 "stale or duplicate aggregate version")
  else .raised (.http 409 "concurrent command conflict")

end

/-- The statements of `create_command`. The commit flushes the row, so that a violated constraint
shows as an `IntegrityError` of the insert. -/
def createStatement (x : Creation) : Statement Database TelephonyCommandJournal Int Creation :=
  match x.stage with
  | .bound body decision => .select fun db => x.enter (x.lookup sha256 body decision db)
  | .cleared body decision =>
    .lock (hashtextextended (aggregateLockKey body)) (x.enter (.locked body decision))
  | .locked body decision => .select fun db => x.enter (checkVersion body decision db)
  | .fresh body decision =>
    .insert (x.call.row sha256 body decision) (x.enter (.inserted body decision))
      (x.enter (.violated body))
  | .inserted body decision =>
    .commit (x.enter (.finished (.ok ((x.call.row sha256 body decision).view false))))
  -- The dependency that owns the session closes it, so a refusal rolls back.
  | .outdated _ =>
    .rollback (x.enter (.finished (.error (.http 409 "stale or duplicate aggregate version"))))
  -- This rollback gives the lock back: the two queries below see whatever is committed by then.
  | .violated body => .rollback (x.enter (.rolledBack body))
  | .rolledBack body => .select fun db => x.enter (reread sha256 body db)
  | .conflicting body => .select fun db => x.enter (explainConflict body db)
  | .answered reply => .rollback (x.enter (.finished (.ok reply)))
  | .raised fault => .rollback (x.enter (.finished (.error fault)))
  | .finished _ => .halt

def createProgram : Program Database TelephonyCommandJournal Int Creation where
  statement := createStatement sha256 hashtextextended
  insert? := Database.insertCommand?
  clash r r' := decide (r.Clash r')

/-! ## A call on its own -/

def Outcome.reply (outcome : Outcome) : Except Fault Reply := outcome.map Prod.snd

variable {outcome : Outcome}

section Alone

variable (db : Database) (x : Creation)

theorem recover_ends (body : TelephonyCommandRequest) :
    Ends (createProgram sha256 hashtextextended) db [] (x.enter (.violated body)) db
      (x.enter (.finished (recover sha256 body db))) := by
  have conflict : Ends (createProgram sha256 hashtextextended) db []
      (x.enter (.conflicting body)) db (x.enter (.finished (if stale body db then
        .error (.http 409 "stale or duplicate aggregate version")
        else .error (.http 409 "concurrent command conflict")))) := by
    apply Ends.select rfl
    show Ends _ db [] (x.enter (explainConflict body db)) _ _
    rw [explainConflict]
    split <;> exact .rollback rfl (.halt rfl)
  apply Ends.rollback rfl
  apply Ends.select rfl
  show Ends _ db [] (x.enter (reread sha256 body db)) _ _
  rw [reread, recover]
  cases existingCommand? sha256 body db with
  | none => exact conflict
  | some existing =>
    dsimp only
    split
    · exact .rollback rfl (.halt rfl)
    · exact conflict

theorem fresh_ends (body : TelephonyCommandRequest) (decision : PolicyDecision)
    (inserts : (match db.insertCommand? (x.call.row sha256 body decision) with
      | some db' => Except.ok (db', (x.call.row sha256 body decision).view false)
      | none => (recover sha256 body db).map (db, ·)) = outcome) :
    Ends (createProgram sha256 hashtextextended) db [] (x.enter (.fresh body decision))
      (Outcome.database db outcome) (x.enter (.finished outcome.reply)) := by
  subst inserts
  cases inserted : db.insertCommand? (x.call.row sha256 body decision) with
  | none =>
    refine .violate rfl inserted ?_
    have ends := recover_ends sha256 hashtextextended db x body
    cases recovered : recover sha256 body db <;> (rw [recovered] at ends; exact ends)
  | some db' => exact .store rfl inserted rfl rfl

/-- The statements compute the one transaction that `create_command` is everywhere else. -/
theorem createCommand_ends (call : CommandCall) (creates : createCommand sha256 call db = outcome) :
    Ends (createProgram sha256 hashtextextended) db [] (Creation.start call)
      (Outcome.database db outcome) ⟨call, .finished outcome.reply⟩ := by
  subst creates
  rw [createCommand, Creation.start]
  cases call.start with
  | error fault => exact .rollback rfl (.halt rfl)
  | ok passed =>
    obtain ⟨body, decision⟩ := passed
    dsimp only
    apply Ends.select rfl
    let x : Creation := ⟨call, .bound body decision⟩
    show Ends _ db [] (x.enter (x.lookup sha256 body decision db)) _ _
    rw [Creation.lookup]
    cases existingCommand? sha256 body db with
    | some existing =>
      dsimp only
      cases replay sha256 body existing <;> exact .rollback rfl (.halt rfl)
    | none =>
      cases policyDefect? sha256 call.now body decision with
      | some defect => exact .rollback rfl (.halt rfl)
      | none =>
        apply Ends.lock rfl
        apply Ends.select rfl
        show Ends _ db [] (x.enter (checkVersion body decision db)) _ _
        rw [checkVersion]
        split
        · exact .rollback rfl (.halt rfl)
        · exact fresh_ends sha256 hashtextextended db x body decision rfl

end Alone

namespace Creation

variable (x : Creation)

def rows : List TelephonyCommandJournal :=
  match x.stage with
  | .inserted body decision => [x.call.row sha256 body decision]
  | _ => []

def held : List Int :=
  match x.stage with
  | .locked body _ | .fresh body _ | .outdated body | .inserted body _ | .violated body =>
    [hashtextextended (aggregateLockKey body)]
  | _ => []

def checked? : Option TelephonyCommandRequest :=
  match x.stage with
  | .fresh body _ | .inserted body _ => some body
  | _ => none

theorem checked?_held {x : Creation} (checked : x.checked? = some body) :
    hashtextextended (aggregateLockKey body) ∈ x.held hashtextextended := by
  obtain ⟨_, stage⟩ := x
  cases stage <;> cases checked <;> exact mem_singleton.mpr rfl

end Creation

theorem create_tracks : Tracks (createProgram sha256 hashtextextended) (Creation.rows sha256)
    (Creation.held hashtextextended) := by
  constructor
  case lock =>
    rintro ⟨call, stage⟩ key y stmt
    cases stage <;> cases stmt
    exact ⟨rfl, rfl⟩
  case select =>
    rintro ⟨call, stage⟩ f db stmt
    cases stage <;> cases stmt <;>
      simp only [Creation.enter, Creation.lookup, checkVersion, reread, explainConflict] <;>
      (repeat' split) <;> exact ⟨rfl, rfl⟩
  case effect =>
    rintro ⟨call, stage⟩ act db stmt
    cases stage <;> cases stmt
  case insert =>
    rintro ⟨call, stage⟩ row y z stmt
    cases stage <;> cases stmt
    exact ⟨⟨rfl, rfl⟩, rfl, rfl⟩
  case commit | rollback =>
    rintro ⟨_, stage⟩ y stmt
    cases stage <;> cases stmt <;> exact ⟨rfl, rfl⟩

/-! ## The order of the journal -/

/-- The versions of an aggregate increase in the order of the commits, and no two rows have one
stable idempotency key. -/
structure JournalOrdered (db : Database) : Prop where
  versions : db.commands.rows.Pairwise fun earlier later =>
    earlier.aggregate = later.aggregate → earlier.aggregateVersion < later.aggregateVersion
  keys : db.commands.rows.Pairwise fun earlier later =>
    earlier.request.stableIdempotencyKey sha256 ≠ later.request.stableIdempotencyKey sha256

theorem stale_eq_false_iff : stale body db = false ↔
    ∀ r ∈ db.commands.rows, r.aggregate = body.aggregate →
      r.aggregateVersion < body.aggregateVersion := by
  rw [stale, latestVersion?]
  cases latest : ((db.commands.rows.filter fun r => decide (r.aggregate = body.aggregate)).map
      (·.aggregateVersion)).max? with
  | none =>
    simp only [max?_eq_none_iff, map_eq_nil_iff, filter_eq_nil_iff] at latest
    simp only [Option.any_none, true_iff]
    intro r member same
    exact absurd (decide_eq_true same) (latest r member)
  | some version =>
    obtain ⟨reached, bound⟩ := max?_eq_some_iff.mp latest
    simp only [mem_map, mem_filter, decide_eq_true_eq] at reached bound
    obtain ⟨top, ⟨member, same⟩, rfl⟩ := reached
    simp only [Option.any_some, decide_eq_false_iff_not, not_le]
    constructor
    · intro above r listed aggregate
      exact Nat.lt_of_le_of_lt (bound _ ⟨r, ⟨listed, aggregate⟩, rfl⟩) above
    · intro fresh
      exact fresh top member same

abbrev Creations (ι : Type) := State ι Database TelephonyCommandJournal Int Creation

variable {ι : Type} [DecidableEq ι]

def Creations.start (calls : ι → CommandCall) : Creations ι where
  database := .empty
  locks := []
  pending := []
  sessions i := .start (calls i)

variable {s : Creations ι} {i : ι}

/-- With nothing else in progress the transaction does what `createCommand` computes. -/
theorem createCommand_in_turn (alone : s.Alone i) (nothing : owned i s.pending = [])
    (begins : s.sessions i = .start call)
    (creates : createCommand sha256 call s.database = outcome) :
    Reaches (createProgram sha256 hashtextextended) i s (Outcome.database s.database outcome)
    ⟨call, .finished outcome.reply⟩ :=
  (createCommand_ends sha256 hashtextextended s.database call creates).reaches alone rfl
    nothing begins

/-- The sample command takes its lock and is inserted. -/
theorem first_command_in_turn : ∃ db reply,
    let call : CommandCall :=
      ⟨Sample.newYear, 1, "IDM-00000001", Sample.command 1, some (Sample.decision true)⟩
    Reaches (createProgram Sample.sha256 fun _ => 0) () (Creations.start fun _ => call) db
      ⟨call, .finished reply⟩ ∧ db.commands.rows.length = 1 :=
  ⟨_, _, createCommand_in_turn _ _ ⟨forall_mem_nil _, forall_mem_nil _⟩ rfl rfl rfl, by
    decide +kernel⟩

/-- The journal is in order, and what a version check found is still true. -/
structure VersionRecord (s : Creations ι) : Prop where
  tracked : Tracked (Creation.rows sha256) (Creation.held hashtextextended) s
  exclusive : Exclusive s
  versions : s.database.commands.rows.Pairwise fun earlier later =>
    earlier.aggregate = later.aggregate → earlier.aggregateVersion < later.aggregateVersion
  recorded : ∀ r ∈ s.database.commands.rows, r.idempotencyHash =
    r.request.stableIdempotencyKey sha256
  fresh : ∀ i body, (s.sessions i).checked? = some body → stale body s.database = false

theorem VersionRecord.ordered (record : VersionRecord sha256 hashtextextended s) :
    JournalOrdered sha256 s.database where
  versions := record.versions
  keys := by
    apply s.database.commands.apart.imp_of_mem
    -- The key is a function of the request, and its column is unique.
    intro earlier later first second apart same
    rw [← record.recorded earlier first, ← record.recorded later second] at same
    exact apart (.inr (.inr (.inl same)))

section Steps

variable {sha256 hashtextextended}

theorem Creation.leads_checked
    (leads : (createStatement sha256 hashtextextended x).Leads view database y)
    (checked : y.checked? = some body) : x.checked? = some body ∨ stale body view = false ∧
    x.rows sha256 = [] := by
  obtain ⟨_, stage⟩ := x
  cases stage
  case locked request decision =>
    cases leads
    revert checked
    simp only [Creation.enter, checkVersion]
    split
    next => intro checked; cases checked
    next fresh =>
      intro checked
      cases checked
      exact .inr ⟨by simpa using fresh, rfl⟩
  case fresh =>
    -- Inserted, the request is still past its check; violated, it is not.
    rcases leads with rfl | rfl <;> cases checked
    exact .inl rfl
  case bound | rolledBack | conflicting =>
    cases leads
    revert checked
    simp only [Creation.enter, Creation.lookup, reread, explainConflict]
    (repeat' split) <;> intro checked <;> cases checked
  case finished => cases leads
  all_goals
    cases leads
    cases checked

theorem createStatement_no_effect (acts : createStatement sha256 hashtextextended x = .effect act) :
    False := by
  obtain ⟨_, stage⟩ := x
  cases stage <;> cases acts

theorem journal_step (moved : Moves (createProgram sha256 hashtextextended) s i s')
    (tracked : Tracked (Creation.rows sha256) (Creation.held hashtextextended) s) :
    s'.database = s.database ∨
      ∃ body decision commands, (s.sessions i).checked? = some body ∧
      (s'.sessions i).checked? = none ∧
        s.database.commands.insert? ((s.sessions i).call.row sha256 body decision) = some commands ∧
        s'.database = { s.database with commands := commands } := by
  rcases moved.database with same | ⟨next, commits, committed⟩ | ⟨act, acts, -⟩
  · exact .inl same
  · have session : s' = s ∨ s'.sessions i = next := by
      rcases moved.leads with same | leads
      · exact .inl same
      · rw [commits] at leads
        exact .inr leads
    rcases session with rfl | session
    · exact .inl rfl
    rw [session, committed, tracked.view_eq i]
    generalize s.sessions i = x at commits
    obtain ⟨call, stage⟩ := x
    cases stage
    case inserted body decision =>
      cases commits
      have view : (createProgram sha256 hashtextextended).install s.database
          (Creation.rows sha256 ⟨call, .inserted body decision⟩) =
          (s.database.insertCommand? (call.row sha256 body decision)).getD s.database := rfl
      rw [view]
      cases inserted : s.database.insertCommand? (call.row sha256 body decision) with
      | none => exact .inl rfl
      | some db' =>
        obtain ⟨commands, added, rfl⟩ := Database.insertCommand?_eq_some.mp inserted
        exact .inr ⟨body, decision, commands, rfl, rfl, added, rfl⟩
    -- No other stage commits.
    all_goals cases commits
  · exact (createStatement_no_effect acts).elim

theorem stale_insert (added : db.commands.insert? row = some commands)
    (fresh : stale body db = false)
    (other : row.aggregate ≠ body.aggregate) :
    stale body { db with commands := commands } = false := by
  rw [stale_eq_false_iff] at fresh ⊢
  intro r member same
  rcases (mem_insert? added).mp member with old | rfl
  · exact fresh r old same
  · exact absurd same other

theorem VersionRecord.aggregate_ne (record : VersionRecord sha256 hashtextextended s)
    (differ : j ≠ i) {body' : TelephonyCommandRequest} (one : (s.sessions i).checked? = some body)
    (two : (s.sessions j).checked? = some body') : body.aggregate ≠ body'.aggregate := by
  intro same
  have held := Creation.checked?_held hashtextextended one
  rw [aggregateLockKey_congr same] at held
  exact differ (record.tracked.holder_unique record.exclusive
    (Creation.checked?_held hashtextextended two) held)

theorem VersionRecord.kept (moved : Moves (createProgram sha256 hashtextextended) s i s')
    (record : VersionRecord sha256 hashtextextended s) :
    VersionRecord sha256 hashtextextended s' := by
  have tracked := moved.tracked (create_tracks sha256 hashtextextended) record.tracked
  have exclusive := moved.exclusive record.exclusive
  rcases journal_step moved record.tracked with
    same | ⟨body, decision, commands, checked, ended, added, journal⟩
  · refine ⟨tracked, exclusive, same ▸ record.versions, same ▸ record.recorded, ?_⟩
    intro j body checked
    rw [same]
    by_cases own : j = i
    · subst own
      rcases moved.leads with rfl | leads
      · exact record.fresh j body checked
      rcases Creation.leads_checked leads checked with before | ⟨fresh, nothing⟩
      · exact record.fresh j body before
      · -- The check saw the committed journal: the call has no row of its own yet.
        rwa [record.tracked.view_eq j, nothing, install_nil] at fresh
    · rw [moved.sessions_ne own] at checked
      exact record.fresh j body checked
  · -- A commit. The row's version is still fresh, since its aggregate's lock is held.
    have above := stale_eq_false_iff.mp (record.fresh i body checked)
    refine ⟨tracked, exclusive, ?_, ?_, ?_⟩
    · rw [journal]
      rw [rows_insert? added, pairwise_append]
      refine ⟨record.versions, pairwise_singleton _ _, ?_⟩
      intro r member new last
      rw [mem_singleton.mp last]
      exact above r member
    · rw [journal]
      intro r member
      rcases (mem_insert? added).mp member with old | rfl
      · exact record.recorded r old
      · rfl
    · intro j other waiting
      have differ : j ≠ i := by
        rintro rfl
        rw [ended] at waiting
        cases waiting
      rw [moved.sessions_ne differ] at waiting
      rw [journal]
      exact stale_insert added (record.fresh j other waiting)
        (record.aggregate_ne differ checked waiting)

end Steps

theorem VersionRecord.start (calls : ι → CommandCall) :
    VersionRecord sha256 hashtextextended (Creations.start calls) := by
  have stage : ∀ i, (∃ fault, (Creation.start (calls i)).stage = .raised fault) ∨
      ∃ body decision, (Creation.start (calls i)).stage = .bound body decision := by
    intro i
    rw [Creation.start]
    cases (calls i).start with
    | error fault => exact .inl ⟨fault, rfl⟩
    | ok passed => exact .inr ⟨passed.1, passed.2, rfl⟩
  constructor
  case tracked =>
    intro i
    rcases stage i with ⟨_, raised⟩ | ⟨body, _, bound⟩
    · simp [Creations.start, owned, Creation.rows, Creation.held, raised]
    · simp [Creations.start, owned, Creation.rows, Creation.held, bound]
  case exclusive =>
    intro i j key held
    cases held
  case versions => exact Pairwise.nil
  case recorded =>
    intro r member
    cases member
  case fresh =>
    intro i body checked
    rfl

/-- A step of a session inserts at most one command. -/
def AppendsAtMostOne (s : Creations ι) (i : ι) : Prop :=
  let s' := step (createProgram sha256 hashtextextended) s i
  s'.database.commands.rows = s.database.commands.rows ∨
    ∃ r, s'.database.commands.rows = s.database.commands.rows ++ [r]

/-- Whatever the interleaving of the statements: rows are journaled one after the other, each with a
version above those of its aggregate before it, and with a key that no other row has. -/
theorem aggregate_versions_increase (calls : ι → CommandCall) (schedule : List ι) :
    (system (createProgram sha256 hashtextextended)).Along
        (AppendsAtMostOne sha256 hashtextextended) (Creations.start calls) schedule ∧
      (system (createProgram sha256 hashtextextended)).Always
        (fun s => JournalOrdered sha256 s.database) (Creations.start calls) schedule := by
  have stable : (system (createProgram sha256 hashtextextended)).Stable
      (VersionRecord (ι := ι) sha256 hashtextextended) :=
    stable_of_moves _ fun _ _ _ moved record => record.kept moved
  have start := VersionRecord.start sha256 hashtextextended calls
  have run := run_system (createProgram sha256 hashtextextended) (Creations.start calls) schedule
  constructor
  · apply stable.along _ start run
    intro s i _ record
    rcases journal_step (step_moves _ s i) record.tracked with
      same | ⟨body, decision, commands, -, -, added, journal⟩
    · exact .inl (congrArg (·.commands.rows) same)
    · exact .inr ⟨_, (congrArg (·.commands.rows) journal).trans (rows_insert? added)⟩
  · exact stable.always (fun s record => record.ordered) start run

end CodestraMiddleware.Telephony
