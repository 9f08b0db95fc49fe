import CodestraMiddleware.Foundations.Cursor
import CodestraMiddleware.AiJobs.Output

/-!
# The event stream of a job

`GET /jobs/{job_id}/stream` polls a job: each iteration asks for the chunks above the last sequence
number it has sent and then, in a second statement, for the state of the job. Both read what is
committed at that moment, so worker calls fall between any two of them.
-/
namespace CodestraMiddleware.AiJobs

open Relational Transition List Cursor JobChunk

structure Watch where
  (jobId organizationId workspaceId : UUID)

inductive StreamEvent where
  | chunk (sequence : Nat) (content : String)
  -- The stored proposal, under the identifier `result`.
  | result (content : String)
  | error (code : String)
  | terminal (state : JobState)
  deriving DecidableEq

def StreamEvent.ofChunk (c : JobChunk) : StreamEvent := .chunk c.sequence c.content

inductive Query where
  | chunks | state | closed
  deriving DecidableEq

structure Generator where
  last : Int
  emittedContent : Bool
  iteration : Nat
  next : Query
  events : List StreamEvent

def Generator.start : Generator := ⟨-1, false, 0, .chunks, []⟩

def chunkQuery (w : Watch) (last : Int) (db : Database) : List JobChunk :=
  match db.job? w.jobId with
  | none => []
  | some r =>
    if r.organizationId = w.organizationId ∧ r.workspaceId = w.workspaceId then
      ahead sequence last r.chunks.rows
    else []

def stateQuery (w : Watch) (db : Database) : Option (JobState × Option JobResult) :=
  match db.job? w.jobId with
  | none => none
  | some r =>
    if r.organizationId = w.organizationId ∧ r.workspaceId = w.workspaceId then
      some (r.state, r.result)
    else none

def Generator.send (g : Generator) (row : JobChunk) : Generator :=
  { g with last := row.sequence, emittedContent := true, events := g.events ++ [.ofChunk row] }

def Generator.readChunks (rows : List JobChunk) (g : Generator) : Generator :=
  { rows.foldl Generator.send g with next := .state }

/-- The proposal stands in for chunks that were never sent. -/
def Generator.fallback (g : Generator) (state : JobState) (result : Option JobResult) :
    List StreamEvent :=
  match result.bind fun row => row.output.proposal with
  | some proposal => if state = .completed ∧ g.emittedContent = false then [.result proposal]
      else []
  | none => []

def Generator.readState (row : Option (JobState × Option JobResult)) (g : Generator) : Generator :=
  match row with
  | none => { g with next := .closed, events := g.events ++ [.error "not_found"] }
  | some (state, result) =>
    if state ∈ [.completed, .failed, .cancelled, .deadLetter] then
      { g with next := .closed, events := g.events ++ g.fallback state result ++ [.terminal state] }
    else
      -- `for _ in range(1200)` falls through without a terminal event.
      { g with iteration := g.iteration + 1,
               next := if g.iteration + 1 < 1200 then .chunks else .closed }

def Generator.poll (w : Watch) (db : Database) (g : Generator) : Generator :=
  match g.next with
  | .chunks => g.readChunks (chunkQuery w g.last db)
  | .state => g.readState (stateQuery w db)
  | .closed => g

/-! ## A worker and the generator side by side -/

/-- `unread` records whether a chunk of the job was stored since the last look at its chunks. -/
structure Session where
  store : State
  generator : Generator
  unread : Bool

inductive SessionEvent where
  | work (e : Event)
  | poll

def Op.Reports : Op → Prop
  | .appendChunk .. => True
  | .finish .. => True
  | _ => False

def chunkCount (w : Watch) (db : Database) : Nat :=
  ((db.job? w.jobId).map fun r => r.chunks.rows.length).getD 0

def Session.step (cfg : Config) (w : Watch) (c : Session) : SessionEvent → Session
  | .work e =>
    let store := AiJobs.step cfg c.store e
    { c with
      store := store
      unread := c.unread || decide (chunkCount w store.db ≠ chunkCount w c.store.db) }
  | .poll =>
    { c with generator := c.generator.poll w c.store.db,
             unread := if c.generator.next = .chunks then false else c.unread }

def Session.begin (s : State) : Session := ⟨s, .start, false⟩

def sessionSystem (cfg : Config) (w : Watch) : System Session SessionEvent where
  step := Session.step cfg w
  admits c
    | .work e => c.store.clock ≤ e.now ∧ e.op.Reports
    | .poll => True

def Stores (cfg : Config) (w : Watch) (s : State) (e : Event) (n : Nat) : Prop :=
  ∃ call content limit db', e.op = .appendChunk call n content limit ∧ call.jobId = w.jobId ∧
    exec cfg e.now e.op s.db = .ok (db', .chunk true)

/-- Chunks arrive ahead of the stream, and the state query that reads `completed` follows a look at
all of them. -/
def Heard (cfg : Config) (w : Watch) (c : Session) : SessionEvent → Prop
  | .work e => ∀ n, Stores cfg w c.store e n → c.generator.last < n
  | .poll => c.generator.next = .state → ∀ result, stateQuery w c.store.db =
      some (.completed, result) → c.unread = false

section Steps

variable {cfg : Config} {w : Watch} {c : Session} {r : JobRecord} {sent : List JobChunk}
  {closing : List StreamEvent}

theorem step_appendChunk (cfg : Config) (now : Int) (call : LeaseCall) (n limit : Nat)
    (content : String) (found : s.db.job? w.jobId = some r) :
    ∃ r', (step cfg s ⟨now, .appendChunk call n content limit⟩).db.job? w.jobId = some r' ∧
      r'.toJobSpec = r.toJobSpec ∧ r'.result = r.result ∧ r'.state = r.state ∧
      ((r'.chunks = r.chunks ∧
          ∀ m, ¬ Stores cfg w s ⟨now, .appendChunk call n content limit⟩ m) ∨
          (r.state = .leased ∧ ∃ token,
          r.chunks.insert? ⟨n, token, content⟩ = some r'.chunks ∧
          ∀ m, Stores cfg w s ⟨now, .appendChunk call n content limit⟩ m ↔ m = n)) := by
  -- A call that is refused, repeats a number or is about another job stores no chunk of this one.
  have nothing : ∀ {outcome}, exec cfg now (.appendChunk call n content limit) s.db = outcome →
      (∀ db', outcome ≠ .ok (db', .chunk true) ∨ call.jobId ≠ w.jobId) →
      ∀ m, ¬ Stores cfg w s ⟨now, .appendChunk call n content limit⟩ m := by
    rintro outcome computed refused m ⟨call', content', limit', db', op, target, stored⟩
    cases op
    rcases refused db' with other | elsewhere
    · exact other (computed.symm.trans stored)
    · exact elsewhere target
  cases outcome : exec cfg now (.appendChunk call n content limit) s.db with
  | error fault =>
    rw [step_db_error outcome]
    exact ⟨r, found, rfl, rfl, rfl, .inl ⟨rfl, nothing outcome fun _ => .inl (by rintro ⟨⟩)⟩⟩
  | ok result =>
    obtain ⟨db', _⟩ := result
    obtain ⟨r₀, found₀, lease, stored⟩ := appendChunk_ok outcome
    rw [step_db_ok outcome]
    rcases stored with ⟨k, -, rfl, rfl⟩ | ⟨chunks, inserted, rfl, rfl⟩
    · refine ⟨r, found, rfl, rfl, rfl, .inl ⟨rfl, nothing outcome fun _ => .inl ?_⟩⟩
      intro answered
      cases answered
    · have key₀ := Database.job?_id found₀
      by_cases here : call.jobId = w.jobId
      · rw [here] at found₀ key₀
        cases found.symm.trans found₀
        refine ⟨{ r with chunks := chunks, outputBytes := r.outputBytes + content.utf8ByteSize },
          ?_, rfl, rfl, rfl, .inr ⟨?_, call.fencingToken, inserted, ?_⟩⟩
        · rw [← key₀] at found ⊢
          exact Database.job?_put_self found
        · simpa using lease.1
        · intro m
          constructor
          · rintro ⟨_, _, _, db', op, -⟩
            cases op
            rfl
          · rintro rfl
            exact ⟨call, content, limit, _, rfl, here, outcome⟩
      · refine ⟨r, ?_, rfl, rfl, rfl, .inl ⟨rfl, nothing outcome fun _ => .inr here⟩⟩
        rw [Database.job?_put_ne]
        · exact found
        · exact fun same => here (key₀.symm.trans same)

theorem step_reports (cfg : Config) (found : s.db.job? w.jobId = some r)
    (reports : e.op.Reports) : ∃ r', (step cfg s e).db.job? w.jobId = some r' ∧
    r'.toJobSpec = r.toJobSpec ∧
      r'.result = r.result ∧ (r.state = .completed → r'.state = .completed) ∧
      ((r'.chunks = r.chunks ∧ ∀ n, ¬ Stores cfg w s e n) ∨
        (r.state = .leased ∧ ∃ k, r.chunks.insert? k = some r'.chunks ∧ ∀ n, Stores cfg w s e n ↔
          n = k.sequence)) := by
  obtain ⟨now, op⟩ := e
  cases op with
  | appendChunk call n content limit =>
    obtain ⟨r', found', spec, result, state, stored⟩ :=
      step_appendChunk cfg now call n limit content found
    refine ⟨r', found', spec, result, fun done => state.trans done, ?_⟩
    rcases stored with quiet | ⟨leased, _, inserted, number⟩
    · exact .inl quiet
    · exact .inr ⟨leased, _, inserted, number⟩
  | finish call report =>
    have silent : ∀ n, ¬ Stores cfg w s ⟨now, .finish call report⟩ n := by
      rintro n ⟨_, _, _, db', op, -⟩
      cases op
    obtain ⟨_, r', found', moved, -⟩ := step_job cfg ⟨now, .finish call report⟩ found
    refine ⟨r', found', moved.spec, ?_⟩
    cases moved with
    | idle => exact ⟨rfl, id, .inl ⟨rfl, silent⟩⟩
    | finish _ lease =>
      refine ⟨rfl, fun done => ?_, .inl ⟨rfl, silent⟩⟩
      rcases lease.busy with state | state <;> simp [done] at state
  | _ => exact reports.elim

end Steps

/-! ## The generator as a reader behind a mark -/

/-- The generator has sent the chunks `sent`, and closed with `closing` if it has closed. -/
structure Session.Sound (w : Watch) (c : Session) (r : JobRecord) (sent : List JobChunk)
    (closing : List StreamEvent) : Prop where
  found : c.store.db.job? w.jobId = some r
  noResult : r.result = none
  follows : Follows sequence r.chunks.rows sent c.generator.last
  events : c.generator.events = sent.map .ofChunk ++ closing
  running : c.generator.next ≠ .closed → closing = []
  closed : closing = [] ∨ closing = [.error "not_found"] ∨
    ∃ state, closing = [.terminal state] ∧ (state = .completed → r.state = .completed)
  caughtUp : c.generator.next = .state → c.unread = false →
    r.organizationId = w.organizationId ∧ r.workspaceId = w.workspaceId →
    ∀ k ∈ r.chunks.rows, (k.sequence : Int) ≤ c.generator.last
  waiting : c.unread = true → ∃ k ∈ r.chunks.rows, k ∉ sent

/-- No chunk was missed, and none is left behind a `completed` event. -/
def Session.OnTrack (r : JobRecord) (sent : List JobChunk) (closing : List StreamEvent)
    (c : Session) : Prop :=
  ¬ Missed sequence r.chunks.rows sent c.generator.last ∧ (closing = [.terminal .completed] →
      ∀ k ∈ r.chunks.rows, (k.sequence : Int) ≤ c.generator.last)

theorem foldl_send (rows : List JobChunk) (g : Generator) :
    (rows.foldl Generator.send g).last = advance sequence g.last rows ∧
      (rows.foldl Generator.send g).events = g.events ++ rows.map .ofChunk := by
  induction rows generalizing g with
  | nil => simp [advance]
  | cons row rows ih =>
    obtain ⟨last, events⟩ := ih (g.send row)
    refine ⟨last, ?_⟩
    rw [foldl_cons, events]
    simp [Generator.send]

section Sessions

variable {cfg : Config} {w : Watch} {c : Session} {r : JobRecord} {sent : List JobChunk}
  {closing : List StreamEvent}

section

variable (sound : c.Sound w r sent closing)

include sound

theorem Session.Sound.not_completed (leased : r.state = .leased) :
    closing ≠ [.terminal .completed] := by
  rintro rfl
  rcases sound.closed with ended | ended | ⟨_, ended, done⟩
  · cases ended
  · cases ended
  · cases ended
    rw [leased] at done
    cases done rfl

theorem Session.Sound.work {e : Event} (reports : e.op.Reports) :
    ∃ r', (c.step cfg w (.work e)).Sound w r' sent closing ∧
    ((c.step cfg w (.work e)).OnTrack r' sent closing ↔
        c.OnTrack r sent closing ∧ Heard cfg w c (.work e)) := by
  obtain ⟨r', found', spec, result, done, stored⟩ := step_reports cfg sound.found reports
  have noResult : r'.result = none := result.trans sound.noResult
  have closed : closing = [] ∨ closing = [.error "not_found"] ∨
      ∃ state, closing = [.terminal state] ∧ (state = .completed → r'.state = .completed) := by
    rcases sound.closed with none_yet | missing | ⟨state, ended, complete⟩
    · exact .inl none_yet
    · exact .inr (.inl missing)
    · exact .inr (.inr ⟨state, ended, fun h => done (complete h)⟩)
  refine ⟨r', ?_⟩
  rcases stored with ⟨chunks, silent⟩ | ⟨leased, k, inserted, number⟩
  -- No chunk of the job arrives: nothing changes for the reader.
  · have unread : (c.step cfg w (.work e)).unread = c.unread := by
      simp [Session.step, chunkCount, found', sound.found, chunks]
    constructor
    · refine ⟨found', noResult, chunks ▸ sound.follows, sound.events, sound.running, closed, ?_, ?_⟩
      · rw [unread, chunks, spec]
        exact sound.caughtUp
      · rw [unread, chunks]
        exact sound.waiting
    · have heard : Heard cfg w c (.work e) := fun n stores => absurd stores (silent n)
      simp only [Session.OnTrack, chunks, heard, and_true]
      rfl
  · have rows : r'.chunks.rows = r.chunks.rows ++ [k] := Table.rows_insert? inserted
    have fresh : k ∉ sent := by
      intro member
      have absent := (Table.find?_eq_none_iff _ _).mp (Table.insert?_fresh inserted)
      exact absent k (sound.follows.stored k member) rfl
    have unread : (c.step cfg w (.work e)).unread = true := by
      simp [Session.step, chunkCount, found', sound.found, rows]
    constructor
    · refine ⟨found', noResult, rows ▸ sound.follows.arrive k, sound.events, sound.running,
        closed, ?_, ?_⟩
      · intro _ read
        simp [unread] at read
      · intro _
        exact ⟨k, by simp [rows], fresh⟩
    -- The job is still leased, so nothing was closed as completed: only the mark decides.
    · have open_ := sound.not_completed leased
      have heard : Heard cfg w c (.work e) ↔ c.generator.last < k.sequence := by
        constructor
        · intro all
          exact all k.sequence ((number k.sequence).mpr rfl)
        · intro above n stores
          rw [(number n).mp stores]
          exact above
      simp only [Session.OnTrack, rows, open_, false_implies, and_true, heard]
      change ¬ Missed sequence (r.chunks.rows ++ [k]) sent c.generator.last ↔ _
      rw [missed_arrive_iff fresh, not_or, Int.not_le]

theorem Session.Sound.readChunks (turn : c.generator.next = .chunks) :
    ∃ sent', (c.step cfg w .poll).Sound w r sent' closing ∧
    ((c.step cfg w .poll).OnTrack r sent' closing ↔
        c.OnTrack r sent closing ∧ Heard cfg w c .poll) := by
  have open_ : closing = [] := sound.running (by simp [turn])
  subst open_
  have heard : Heard cfg w c .poll := by
    intro here
    rw [turn] at here
    cases here
  have unique := r.chunks.unique
  -- A subject of another tenant gets no rows, and its mark stays.
  obtain ⟨rows, query, follows, caughtUp, missed⟩ :
    ∃ rows, chunkQuery w c.generator.last c.store.db = rows ∧
      Follows sequence r.chunks.rows (sent ++ rows) (advance sequence c.generator.last rows) ∧
      (r.organizationId = w.organizationId ∧ r.workspaceId = w.workspaceId →
        ∀ k ∈ r.chunks.rows, (k.sequence : Int) ≤ advance sequence c.generator.last rows) ∧
      (Missed sequence r.chunks.rows (sent ++ rows) (advance sequence c.generator.last rows) ↔
        Missed sequence r.chunks.rows sent c.generator.last) := by
    by_cases tenant : r.organizationId = w.organizationId ∧ r.workspaceId = w.workspaceId
    · exact ⟨_, by simp [chunkQuery, sound.found, tenant], sound.follows.read unique,
        fun _ => (read_bounds c.generator.last unique).2, missed_read_iff unique⟩
    · refine ⟨[], by simp [chunkQuery, sound.found, tenant], ?_, fun match_ => absurd match_ tenant,
        ?_⟩ <;> rw [append_nil]
      · exact sound.follows
      · rfl
  obtain ⟨last, events⟩ := foldl_send rows c.generator
  have generator : (c.step cfg w .poll).generator = c.generator.readChunks rows := by
    simp [Session.step, Generator.poll, turn, query]
  have last' : (c.step cfg w .poll).generator.last = advance sequence c.generator.last rows := by
    rw [generator]; exact last
  have unread : (c.step cfg w .poll).unread = false := by simp [Session.step, turn]
  refine ⟨sent ++ rows, ⟨sound.found, sound.noResult, ?_, ?_, fun _ => rfl, .inl rfl, ?_, by
    simp [unread]⟩, ?_⟩
  · rw [last']
    exact follows
  · rw [generator]
    change (foldl Generator.send _ _).events = _
    rw [events, sound.events, append_nil, append_nil, map_append]
  · intro _ _
    rw [last']
    exact caughtUp
  · simp [Session.OnTrack, last', missed, heard]

/-- Under what the generator has read, a chunk is left above the mark exactly when one arrived
since. -/
theorem Session.Sound.unread_iff (turn : c.generator.next = .state)
    (tenant : r.organizationId = w.organizationId ∧ r.workspaceId = w.workspaceId)
    (caught : ¬ Missed sequence r.chunks.rows sent c.generator.last) :
    (∀ k ∈ r.chunks.rows, (k.sequence : Int) ≤ c.generator.last) ↔ c.unread = false := by
  constructor
  · intro below
    by_contra read
    obtain ⟨k, member, unsent⟩ := sound.waiting (by simpa using read)
    exact caught ⟨k, member, below k member, unsent⟩
  · intro read
    exact sound.caughtUp turn read tenant

theorem Session.Sound.readState (turn : c.generator.next = .state) :
    ∃ closing', (c.step cfg w .poll).Sound w r sent closing' ∧
    ((c.step cfg w .poll).OnTrack r sent closing' ↔
        c.OnTrack r sent closing ∧ Heard cfg w c .poll) := by
  have open_ : closing = [] := sound.running (by simp [turn])
  subst open_
  have generator : (c.step cfg w .poll).generator = c.generator.readState
      (stateQuery w c.store.db) := by
    simp [Session.step, Generator.poll, turn]
  have unread : (c.step cfg w .poll).unread = c.unread := by simp [Session.step, turn]
  -- Whatever the generator reads, it only closes or goes on: chunks and mark stay.
  have close : ∀ closing' iteration next, c.generator.readState (stateQuery w c.store.db) =
        { c.generator with
          iteration := iteration, next := next, events := c.generator.events ++ closing' } →
      next ≠ .state → (next ≠ .closed → closing' = []) →
      (closing' = [] ∨ closing' = [.error "not_found"] ∨
        ∃ state, closing' = [.terminal state] ∧ (state = .completed → r.state = .completed)) →
      (c.step cfg w .poll).Sound w r sent closing' ∧
      (c.step cfg w .poll).generator.last = c.generator.last := by
    intro closing' iteration next read moved running closed
    rw [read] at generator
    refine ⟨⟨sound.found, sound.noResult, ?_, ?_, ?_, closed, ?_, unread ▸ sound.waiting⟩, ?_⟩ <;>
      rw [generator]
    · exact sound.follows
    · rw [sound.events, append_nil]
    · exact running
    · exact fun here => absurd here moved
  by_cases tenant : r.organizationId = w.organizationId ∧ r.workspaceId = w.workspaceId
  · have query : stateQuery w c.store.db = some (r.state, none) := by
      simp [stateQuery, sound.found, tenant, sound.noResult]
    rw [query] at close
    have heard : Heard cfg w c .poll ↔ (r.state = .completed → c.unread = false) := by
      simp [Heard, turn, query]
    -- There is no stored result to fall back on, so the terminal event is the only one.
    by_cases ended : r.state ∈ [.completed, .failed, .cancelled, .deadLetter]
    · obtain ⟨after, last⟩ := close [.terminal r.state] c.generator.iteration .closed
        (by
          simp only [Generator.readState, if_pos ended, Generator.fallback, Option.bind_none,
            append_nil])
        nofun (by simp) (.inr (.inr ⟨r.state, rfl, id⟩))
      have completed : [StreamEvent.terminal r.state] = [.terminal .completed] ↔
        r.state = .completed := by simp
      refine ⟨_, after, ?_⟩
      simp only [Session.OnTrack, last, completed, heard, reduceCtorEq, false_implies, and_true]
      refine and_congr_right fun caught => imp_congr_right fun _ => ?_
      exact sound.unread_iff turn tenant caught
    · obtain ⟨after, last⟩ := close [] (c.generator.iteration + 1)
        (if c.generator.iteration + 1 < 1200 then .chunks else .closed)
        (by simp only [Generator.readState, if_neg ended, append_nil]) (by split <;> nofun)
        (fun _ => rfl) (.inl rfl)
      have running : r.state ≠ .completed := by
        intro state
        simp [state] at ended
      exact ⟨_, after, by simp [Session.OnTrack, last, heard, running]⟩
  · have query : stateQuery w c.store.db = none := by simp [stateQuery, sound.found, tenant]
    have heard : Heard cfg w c .poll := by simp [Heard, query]
    obtain ⟨after, last⟩ := close [.error "not_found"] c.generator.iteration .closed
      (by rw [query, Generator.readState]) nofun (by simp) (.inr (.inl rfl))
    exact ⟨_, after, by simp [Session.OnTrack, last, heard]⟩

theorem Session.Sound.step (admitted : (sessionSystem cfg w).admits c e) : ∃ r' sent' closing',
    (c.step cfg w e).Sound w r' sent' closing' ∧
      ((c.step cfg w e).OnTrack r' sent' closing' ↔ c.OnTrack r sent closing ∧
        Heard cfg w c e) := by
  cases e with
  | work e =>
    obtain ⟨r', after⟩ := sound.work admitted.2
    exact ⟨r', sent, closing, after⟩
  | poll =>
    cases turn : c.generator.next with
    | chunks =>
      obtain ⟨sent', after⟩ := sound.readChunks turn
      exact ⟨r, sent', closing, after⟩
    | state =>
      obtain ⟨closing', after⟩ := sound.readState turn
      exact ⟨r, sent, closing', after⟩
    | closed =>
      have same : c.step cfg w .poll = c := by simp [Session.step, Generator.poll, turn]
      have heard : Heard cfg w c .poll := by simp [Heard, turn]
      rw [same]
      exact ⟨r, sent, closing, sound, by simp [heard]⟩

theorem Session.Sound.run (run : (sessionSystem cfg w).Run c es) :
    ∃ r' sent' closing', ((sessionSystem cfg w).after c es).Sound w r' sent' closing' ∧
      (((sessionSystem cfg w).after c es).OnTrack r' sent' closing' ↔
        c.OnTrack r sent closing ∧ (sessionSystem cfg w).Along (Heard cfg w) c es) := by
  -- The record, the chunks sent and the closing events all move with the step.
  induction es generalizing c r sent closing with
  | nil => exact ⟨r, sent, closing, sound, by simp [System.Along, System.after]⟩
  | cons e es ih =>
    obtain ⟨r₁, _, _, sound₁, one⟩ := sound.step run.1
    obtain ⟨r', sent', closing', sound', rest⟩ := ih sound₁ run.2
    refine ⟨r', sent', closing', sound', rest.trans ?_⟩
    change _ ∧ (sessionSystem cfg w).Along (Heard cfg w) (c.step cfg w e) es ↔
      _ ∧ Heard cfg w c e ∧ (sessionSystem cfg w).Along (Heard cfg w) (c.step cfg w e) es
    rw [one, and_assoc]

/-- Once the generator has reported a completed job, being on track means that it has sent all
chunks of the job in order. -/
theorem Session.Sound.complete_iff (reported : .terminal .completed ∈ c.generator.events) :
    c.generator.events = (inOrder sequence r.chunks.rows).map .ofChunk ++
        [.terminal .completed] ↔ c.OnTrack r sent closing := by
  have ended : closing = [.terminal .completed] := by
    rw [sound.events, mem_append, mem_map] at reported
    rcases reported with ⟨k, -, wrong⟩ | last
    · cases wrong
    rcases sound.closed with rfl | rfl | ⟨_, rfl, -⟩
    · cases last
    · simp at last
    · rw [mem_singleton] at last
      rw [last]
  subst ended
  have unique := r.chunks.unique
  rw [sound.events, append_left_inj]
  have onTrack : c.OnTrack r sent [.terminal .completed] ↔
      sent = inOrder sequence r.chunks.rows := by
    rw [sound.follows.complete_iff unique]
    simp [Session.OnTrack]
  rw [onTrack]
  constructor
  · intro same
    -- Events show the sequence number, which identifies a chunk of the job.
    apply (sound.follows.complete_iff unique).mpr
    refine sound.follows.caught_up fun k member => ?_
    have shown : StreamEvent.ofChunk k ∈ sent.map .ofChunk := by
      rw [same]
      exact mem_map_of_mem (mem_inOrder.mpr member)
    obtain ⟨k', sent', equal⟩ := mem_map.mp shown
    have number : k'.sequence = k.sequence := by
      cases k
      cases k'
      cases equal
      rfl
    exact r.chunks.eq_of_key (sound.follows.stored k' sent') member number ▸ sent'
  · intro same
    rw [same]

end

end Sessions

/-! ## Streams of a leased job -/

/-- A stored result belongs to a job that is not leased again. -/
def JobRecord.ResultSettled (r : JobRecord) : Prop := r.result.isSome → r.state.Settled

variable {now : Int}

theorem JobStep.resultSettled (moved : JobStep cfg now op reply r r') (ended : r.Ended)
    (before : r.ResultSettled) : r'.ResultSettled := by
  intro stored
  have settled := moved.settled ended.flagged
  cases moved with
  | claim _ taken =>
    obtain ⟨_, -, rfl⟩ := Option.map_eq_some_iff.mp taken
    exact settled (before stored)
  | @complete c _ _ completionState _ _ prepared =>
    obtain ⟨-, -, -, -, asked⟩ := prepared.spec
    have states : r.finishState c.report completionState = .cancelled ∨
        r.finishState c.report completionState = completionState :=
      GenerationJob.finishState_of_success rfl completionState
    rcases asked with ⟨rfl, -⟩ | ⟨rfl, -⟩ <;> rcases states with state | state <;>
      simp [JobRecord.settle, state, JobState.Settled]
  | expire passed => exact settled (before (by simpa [JobRecord.expire, passed] using stored))
  | _ => exact settled (before stored)

theorem stable_resultSettled (cfg : Config) (admits : Op → Prop) :
    (system cfg admits).Stable (State.Each fun _ r => r.Ended ∧ r.ResultSettled) := by
  refine stable_each (fun _ sound => sound) ?_ ?_
  · intro now r fresh
    refine ⟨fresh.ended, ?_⟩
    obtain ⟨_, _, -, -, rfl⟩ := fresh
    rintro ⟨⟩
  · intro now op reply r r' _ moved sound
    exact ⟨moved.ended sound.1, moved.resultSettled sound.1 sound.2⟩

/-- The stream of a job that a worker holds: when it reports the job as completed, it has sent
exactly the stored chunks, each once and in order, exactly when every chunk arrived above the last
number sent and none between the last look and the state query that read `completed`. -/
theorem stream_complete_iff (cfg : Config) (start : Int) (before : List Event)
    (reached : (fullSystem cfg).Run (.initial start) before) (w : Watch) (r₀ : JobRecord)
    (found : ((fullSystem cfg).after (.initial start) before).db.job? w.jobId = some r₀)
    (leased : r₀.state = .leased) (es : List SessionEvent)
    (run : (sessionSystem cfg w).Run (.begin ((fullSystem cfg).after (.initial start) before)) es)
    (c : Session)
    (final : (sessionSystem cfg w).after
      (.begin ((fullSystem cfg).after (.initial start) before)) es = c)
    (reported : .terminal .completed ∈ c.generator.events) :
    (∃ r, c.store.db.job? w.jobId = some r ∧ c.generator.events =
      (inOrder sequence r.chunks.rows).map .ofChunk ++ [.terminal .completed]) ↔
    (sessionSystem cfg w).Along (Heard cfg w)
    (.begin ((fullSystem cfg).after (.initial start) before)) es := by
  subst final
  -- A leased job has no stored result, so the stream cannot fall back on a proposal.
  have settled :=
    ((stable_resultSettled cfg _).after (each_initial _ start) reached w.jobId r₀ found).2
  have noResult : r₀.result = none := by
    cases stored : r₀.result with
    | none => rfl
    | some row =>
      have wrong := settled (by simp [stored])
      simp [JobState.Settled, leased] at wrong
  have sound : (Session.begin ((fullSystem cfg).after (.initial start) before)).Sound w
      r₀ [] [] := by
    refine ⟨found, noResult, ⟨?_, .nil, ?_⟩, rfl, fun _ => rfl, .inl rfl, ?_, ?_⟩
    · rintro chunk ⟨⟩
    · rintro chunk ⟨⟩
    · rintro ⟨⟩
    · rintro ⟨⟩
  have onTrack : (Session.begin ((fullSystem cfg).after (.initial start) before)).OnTrack
      r₀ [] [] := by
    refine ⟨?_, by rintro ⟨⟩⟩
    rintro ⟨k, -, below, -⟩
    change (k.sequence : Int) ≤ -1 at below
    omega
  obtain ⟨r, _, _, sound', heard⟩ := sound.run run
  rw [← and_iff_right (b := (sessionSystem cfg w).Along _ _ es) onTrack, ← heard,
    ← sound'.complete_iff reported]
  constructor
  · rintro ⟨r', found', shown⟩
    cases found'.symm.trans sound'.found
    exact shown
  · intro shown
    exact ⟨r, sound'.found, shown⟩

/-! ## Streams that lose chunks -/

namespace Sample

def leasedSession : Session :=
  .begin ((fullSystem config).after (.initial 0) [submitAt 0 false 0, claimAt 1 "w"])

def streamed (es : List SessionEvent) : Session :=
  (sessionSystem config ⟨1, 2, 3⟩).after leasedSession es

def Session.chunks (c : Session) : Option (List JobChunk) :=
  (c.store.db.job? 1).map (·.chunks.rows)

def finishAt (now : Int) : SessionEvent :=
  .work ⟨now, .finish ⟨1, "w", 1, ⟨none, none⟩⟩ ⟨false, none, false, "correlation"⟩⟩

end Sample

open Sample

def chunkBetweenQueries : List SessionEvent :=
  [.poll, .work (appendAt 2 "w" 1 0 "A"), finishAt 3, .poll]

def chunkBehindMark : List SessionEvent :=
  [.work (appendAt 2 "w" 1 1 "B"), .poll, .poll, .work (appendAt 3 "w" 1 0 "A"), finishAt 4,
    .poll, .poll]

theorem stream_loses_chunks :
    ((sessionSystem config ⟨1, 2, 3⟩).Run leasedSession chunkBetweenQueries ∧
      (streamed chunkBetweenQueries).generator.events = [.terminal .completed] ∧
      Sample.Session.chunks (streamed chunkBetweenQueries) = some [⟨0, 1, "A"⟩]) ∧
    ((sessionSystem config ⟨1, 2, 3⟩).Run leasedSession chunkBehindMark ∧
      (streamed chunkBehindMark).generator.events = [.chunk 1 "B", .terminal .completed] ∧
      Sample.Session.chunks (streamed chunkBehindMark) = some [⟨1, 1, "B"⟩, ⟨0, 1, "A"⟩]) := by
  refine ⟨⟨?_, by decide +kernel, by decide +kernel⟩, ?_, by decide +kernel, by decide +kernel⟩
  · exact ⟨trivial, ⟨by decide, trivial⟩, ⟨by decide, trivial⟩, trivial, trivial⟩
  · exact ⟨⟨by decide, trivial⟩, trivial, trivial, ⟨by decide, trivial⟩, ⟨by decide, trivial⟩,
      trivial, trivial, trivial⟩

theorem heard_append {c : Session} {n : Nat}
    {content : String} (above : c.generator.last < n) :
    Heard cfg w c (.work ⟨now, .appendChunk call n content limit⟩) := by
  rintro m ⟨_, _, _, db', op, -⟩
  cases op
  exact above

theorem heard_poll {cfg : Config} {c : Session} (read : c.unread = false) : Heard cfg w c .poll :=
  fun _ _ _ => read

/-- A worker that appends in order, with a look of the stream after its last chunk. -/
theorem stream_complete_in_order : ∃ r, (streamed [.work (appendAt 2 "w" 1 0 "A"), .poll, .poll,
        .work (appendAt 3 "w" 1 1 "B"), finishAt 4, .poll, .poll]).store.db.job? 1 = some r ∧
      (streamed [.work (appendAt 2 "w" 1 0 "A"), .poll, .poll,
        .work (appendAt 3 "w" 1 1 "B"), finishAt 4, .poll, .poll]).generator.events =
        (inOrder sequence r.chunks.rows).map .ofChunk ++ [.terminal .completed] := by
  have leased : Sample.read (fullSystem config) (·.state)
      [submitAt 0 false 0, claimAt 1 "w"] = some .leased := by decide +kernel
  obtain ⟨r₀, found, state⟩ := Option.map_eq_some_iff.mp leased
  refine (stream_complete_iff config 0 _ (run_iff.mpr ⟨by decide, fun _ _ => trivial⟩)
    ⟨1, 2, 3⟩ r₀ found state _ ?_ _ rfl (by decide +kernel)).mpr ?_
  · exact ⟨⟨by decide, trivial⟩, trivial, trivial, ⟨by decide, trivial⟩, ⟨by decide, trivial⟩,
      trivial, trivial, trivial⟩
  · refine ⟨heard_append (by decide +kernel), ?_, heard_poll (by decide +kernel),
      heard_append (by decide +kernel), ?_, ?_, heard_poll (by decide +kernel), trivial⟩
    · exact fun turn => nomatch turn
    · rintro m ⟨_, _, _, _, ⟨⟩, _⟩
    · intro turn
      have chunks : (streamed [.work (appendAt 2 "w" 1 0 "A"), .poll, .poll,
          .work (appendAt 3 "w" 1 1 "B"), finishAt 4]).generator.next = .chunks := by
        decide +kernel
      cases chunks.symm.trans turn

end CodestraMiddleware.AiJobs
