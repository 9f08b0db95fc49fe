import CodestraMiddleware.AgentRealtime.Events

/-!
# The agent socket

`agent_websocket` sends the open calls and then follows the stream of its extension. Its cursor is
`$` until a read has returned something: each such read starts at the end that the stream has when
the read begins.
-/
namespace CodestraMiddleware.AgentRealtime

open Relational Transition List

/-- An event, and whether the state of its call followed it. -/
abbrev Document := AgentEvent × Bool

/-- A cursor counts the entries up to the last one returned, or is `$`; a blocked read keeps the
length that the stream had when it began. -/
inductive Phase where
  | connecting
  | looping (cursor : Option Nat)
  | blocked (cursor : Option Nat) (length : Nat)
  deriving DecidableEq

/-- The stream is kept whole; `trimmed` counts the entries that `MAXLEN` has dropped from it. -/
structure World where
  store : Store
  (inFlight stream : List Document)
  trimmed : Nat
  socket : Phase
  (reflected sent : List Document)

inductive Step where
  | commit (event : AgentEvent)
  | append (document : Document) (trimmed : Nat)
  | query
  | xread
  | returned (count : Nat)

/-- Where the read that is blocked, or the next one, begins. -/
def World.next (w : World) : Nat :=
  match w.socket with
  | .connecting => 0
  | .looping cursor => cursor.getD w.stream.length
  | .blocked cursor length => cursor.getD length

section

variable (settings : Settings) (identity : BrowserIdentity)

def World.step (w : World) : Step → World
  | .commit event =>
    match ingestAgentEvent settings w.store event with
    | (store, .stored applied) => { w with store, inFlight := w.inFlight ++ [(event, applied)] }
    | _ => w
  | .append document trimmed =>
    { w with
      inFlight := w.inFlight.filter (· ≠ document),
      stream := w.stream ++ [document].filter (·.1.scope.extension = identity.endpoint),
      trimmed := max w.trimmed trimmed }
  | .query => { w with socket := .looping none, reflected := w.store.events }
  | .xread =>
    match w.socket with
    | .looping cursor => { w with socket := .blocked cursor w.stream.length }
    | _ => w
  | .returned count =>
    match w.socket with
    | .blocked cursor _ =>
      let start := max w.next w.trimmed
      let entries := (w.stream.drop start).take count
      { w with
        socket := .looping (if entries = [] then cursor else some (start + entries.length)),
        sent := w.sent ++ entries.filter (identity.covers ·.1.scope) }
    | _ => w

/-- The stream keeps ten thousand entries at least; a read returns up to twenty, or times out. -/
def system : System World Step where
  step := World.step settings identity
  admits w
    | .append document trimmed => document ∈ w.inFlight ∧ trimmed ≤ w.stream.length + 1 - 10000
    | .query => w.socket = .connecting
    | .returned count => 0 < count ∧ count ≤ 20
    | _ => True

/-- No document of the agent is appended while the cursor is `$` and no read is blocked, unless the
snapshot reflects it; and no entry is dropped that a read has yet to return. -/
def Heard (w : World) : Step → Prop
  | .append document _ => w.socket = .looping none → identity.covers document.1.scope →
      document ∈ w.reflected
  | .returned _ => w.trimmed ≤ w.next
  | _ => True

def Reads (w : World) : Step → Prop
  | .xread => ∃ cursor, w.socket = .looping cursor
  | .returned count => (∃ cursor length, w.socket = .blocked cursor length) ∧
      w.trimmed ≤ w.next ∧ 0 < count
  | _ => False

def World.empty : World := ⟨⟨.empty _, []⟩, [], [], 0, .connecting, [], []⟩

/-- Everything before the place where the next read begins is reflected or has been sent. -/
structure Followed (w : World) : Prop where
  stored : ∀ document ∈ w.stream ++ w.inFlight, document ∈ w.store.events
  within : w.next ≤ w.stream.length
  covered : ∀ document ∈ w.stream.take w.next, identity.covers document.1.scope →
    document ∈ w.reflected ∨ document ∈ w.sent

/-- Twice what is left to read, and one if the loop has yet to ask for it. -/
def World.remaining (w : World) : Nat :=
  if w.stream.length ≤ w.next then 0
  else 2 * (w.stream.length - w.next) + if w.socket = .looping (some w.next) then 1 else 0

variable {settings identity} {w : World}

/-- The next read begins behind what a read has returned. One that timed out had
begun at the end. -/
theorem World.next_returned {length count : Nat} (socket : w.socket = .blocked cursor length)
    (kept : w.trimmed ≤ w.next) (within : w.next ≤ w.stream.length) (positive : 0 < count) :
    (w.step settings identity (.returned count)).next = w.next + min count
    (w.stream.length - w.next) ∧
      (w.step settings identity (.returned count)).stream = w.stream := by
  refine ⟨?_, by simp [step, socket]⟩
  have here : w.next = cursor.getD length := by simp [next, socket]
  simp only [step, socket, Nat.max_eq_left kept]
  by_cases none : (w.stream.drop w.next).take count = []
  · simp only [take_eq_nil_iff, drop_eq_nil_iff] at none
    rcases cursor <;> simp_all [next] <;> omega
  · rw [if_neg none, length_take, length_drop]
    rfl

section

variable (followed : Followed identity w)

include followed

theorem Followed.returned (kept : w.trimmed ≤ w.next) {count : Nat}
    (positive : 0 < count) : Followed identity (w.step settings identity (.returned count)) := by
  rcases socket : w.socket with _ | cursor | ⟨cursor, _⟩
  · simpa [World.step, socket] using followed
  · simpa [World.step, socket] using followed
  have within := followed.within
  obtain ⟨next, same⟩ := @World.next_returned settings identity _ _ _ _ socket kept within positive
  constructor
  · simpa [World.step, socket] using followed.stored
  · rw [next, same]
    omega
  intro document member inScope
  rw [next, same, take_add, mem_append] at member
  simp only [World.step, socket, Nat.max_eq_left kept, mem_append, mem_filter]
  rcases member with old | new
  · exact (followed.covered document old inScope).imp id .inl
  · exact .inr (.inr ⟨take_subset_take_left _ (Nat.min_le_left _ _) new, inScope⟩)

theorem Followed.append (waiting : document ∈ w.inFlight)
    (heard : Heard identity w (.append document trimmed)) :
    Followed identity (w.step settings identity (.append document trimmed)) := by
  obtain ⟨stored, within, covered⟩ := followed
  have known := stored document (mem_append_right _ waiting)
  simp only [World.step]
  generalize added : [document].filter (·.1.scope.extension = identity.endpoint) = new
  have own : ∀ d ∈ new, d = document := by simp [← added]
  constructor
  · intro d member
    simp only [mem_append, mem_filter] at member
    rcases member with (old | fresh) | flying
    · exact stored d (mem_append_left _ old)
    · exact own d fresh ▸ known
    · exact stored d (mem_append_right _ flying.1)
  all_goals by_cases unread : w.socket = .looping none
  · simp [World.next, unread]
  · rcases socket : w.socket with _ | (_ | n) | ⟨cursor, length⟩ <;> simp_all [World.next] <;> omega
  · simp only [World.next, unread, Option.getD_none, take_length] at covered ⊢
    intro d member inScope
    rcases mem_append.mp member with old | fresh
    · exact covered d old inScope
    · cases own d fresh
      exact .inl (heard unread inScope)
  · have same : ∀ inFlight stream trimmed,
        World.next { w with inFlight := inFlight, stream := stream, trimmed := trimmed } =
        w.next := by
      rcases socket : w.socket with _ | (_ | n) | ⟨_, _⟩ <;> simp_all [World.next]
    rw [same, take_append_of_le_length within]
    exact covered

theorem Followed.step {e : Step} (admitted : (system settings identity).admits w e)
    (heard : Heard identity w e) : Followed identity (w.step settings identity e) := by
  obtain ⟨stored, within, covered⟩ := id followed
  cases e with
  | commit event =>
    rcases ok : ingestAgentEvent settings w.store event with ⟨_, _ | _ | _⟩
    · simpa [World.step, ok] using followed
    · simpa [World.step, ok] using followed
    · simp only [World.step, ok]
      refine ⟨fun document member => ?_, within, covered⟩
      rw [ingest_events ok]
      rw [← append_assoc, mem_append, mem_singleton] at member
      rcases member with old | rfl
      · exact mem_cons_of_mem _ (stored document old)
      · exact mem_cons_self
  | append => exact followed.append admitted.1 heard
  | query =>
    refine ⟨stored, Nat.le_refl _, fun document member _ => .inl (stored document ?_)⟩
    exact mem_append_left _ (mem_of_mem_take member)
  | xread =>
    rcases socket : w.socket with _ | cursor | ⟨cursor, _⟩
    · simpa [World.step, socket] using followed
    · simp only [World.step, socket]
      simp only [World.next, socket] at within covered
      exact ⟨stored, within, covered⟩
    · simpa [World.step, socket] using followed
  | returned count => exact followed.returned heard admitted.1

end

theorem remaining_reads {e : Step} (within : w.next ≤ w.stream.length) (reads : Reads w e) :
    (w.step settings identity e).remaining ≤ w.remaining - 1 := by
  cases e with
  | xread =>
    obtain ⟨cursor, socket⟩ := reads
    rcases cursor <;> simp [World.step, World.remaining, World.next, socket]
    split <;> simp
  | returned count =>
    obtain ⟨⟨_, _, socket⟩, kept, positive⟩ := reads
    obtain ⟨next, same⟩ := @World.next_returned settings identity _ _ _ _ socket kept
      within positive
    simp only [World.remaining, next, same, socket]
    repeat' split
    all_goals omega
  | _ => exact reads.elim

/-- Whatever is interleaved, as long as no document is appended unheard, a loop that goes on reading
sends every document of the agent that the snapshot does not reflect. -/
theorem no_update_lost (settings : Settings) (identity : BrowserIdentity) (run reads : List Step)
    (admitted : (system settings identity).Run .empty run)
    (heard : (system settings identity).Along (Heard identity) .empty run)
    (reading : (system settings identity).Along Reads
      ((system settings identity).after .empty run) reads)
    (enough : 2 * ((system settings identity).after .empty run).stream.length < reads.length) :
    let w := (system settings identity).after .empty (run ++ reads)
    ∀ document ∈ w.stream, identity.covers document.1.scope → document ∈ w.reflected ∨
    document ∈ w.sent := by
  have start : Followed identity .empty :=
    ⟨by simp [World.empty], Nat.zero_le _, by simp [World.empty]⟩
  have followed := (System.always_of_along (Q := Followed identity)
    (fun w e admitted heard followed => followed.step admitted heard)
    (fun _ => id) start admitted heard).last
  have goesOn : ∀ w e, Reads w e → Followed identity w →
      Followed identity (w.step settings identity e) := by
    rintro w (_ | _ | _ | _ | _) reads followed
    case xread => exact followed.step trivial trivial
    case returned => exact followed.returned reads.2.1 reads.2.2
    all_goals exact reads.elim
  have left : ((system settings identity).after .empty run).remaining ≤ reads.length := by
    unfold World.remaining
    repeat' split
    all_goals omega
  obtain ⟨followed, done⟩ := System.exhausted goesOn
    (fun w e reads followed => remaining_reads followed.within reads) followed reading left
  rw [System.after_append]
  intro w document member
  have read : w.stream.length ≤ w.next := by
    unfold World.remaining at done
    split at done
    · assumption
    · omega
  apply followed.covered document
  rwa [take_of_length_le read]

end

namespace Sample

def identity : BrowserIdentity := ⟨"tenant", "unit", "agent", "1001", ["outbound"]⟩

def ringing : Document := (event .ringing 1, true)

def agent : System World Step := system settings identity

end Sample

open Sample in
theorem ringing_sent :
    let w := agent.after .empty ([.query, .xread, .commit (event .ringing 1), .append ringing 0] ++
      [.returned 20, .xread, .returned 20])
    ∀ document ∈ w.stream, identity.covers document.1.scope → document ∈ w.reflected ∨
    document ∈ w.sent :=
  no_update_lost settings identity _ _ ⟨rfl, trivial, trivial,
    ⟨mem_cons_self, Nat.zero_le _⟩, trivial⟩
    ⟨trivial, trivial, trivial, fun idle => (by cases idle), trivial⟩
    ⟨⟨⟨none, 0, rfl⟩, by decide⟩, ⟨some 1, rfl⟩, ⟨⟨some 1, 1, rfl⟩, by decide⟩, trivial⟩ (by decide)

open Sample in
/-- The event falls between the query and the first read. Reads that time out change nothing. -/
theorem ringing_lost :
    let w := agent.after .empty [.query, .commit (event .ringing 1), .append ringing 0]
    agent.after w [.xread, .returned 20] = w ∧ ringing ∈ w.stream ∧
      identity.covers ringing.1.scope ∧ ringing ∉ w.reflected ∧ ringing ∉ w.sent :=
  ⟨rfl, by decide⟩

end CodestraMiddleware.AgentRealtime
