import CodestraMiddleware.Foundations.Run
import Mathlib.Algebra.BigOperators.Fin

/-!
# Transactions under read committed

Sessions run programs whose statements interleave. A `SELECT` sees what is committed when it runs,
with the session's own uncommitted rows. An `INSERT` waits while another session has an uncommitted
row that clashes with its own, and fails on a clash with a visible one. A transaction-level advisory
lock waits for its holder and is given back by the commit or the rollback.

A schedule is a list of sessions; each entry runs the next statement of that session, or nothing if
the statement has to wait.
-/
namespace ReadCommitted

open Transition List

/-- The next statement of a session in program state `σ`. -/
inductive Statement (δ ω κ σ : Type) where
  | lock (key : κ) (next : σ)
  | select (next : δ → σ)
  | effect (act : δ → δ × σ)
  | insert (row : ω) (next violated : σ)
  | commit (next : σ)
  | rollback (next : σ)
  | halt

structure Program (δ ω κ σ : Type) where
  statement : σ → Statement δ ω κ σ
  -- `none` when a constraint is violated.
  insert? : δ → ω → Option δ
  clash : ω → ω → Bool

def Program.install {δ ω κ σ : Type} (P : Program δ ω κ σ) (d : δ) (rows : List ω) : δ :=
  rows.foldl (fun d w => (P.insert? d w).getD d) d

@[simp] theorem install_nil (P : Program δ ω κ σ) (d : δ) : P.install d [] = d :=
  rfl

@[simp] theorem install_singleton (P : Program δ ω κ σ) (d : δ) (row : ω) :
    P.install d [row] = (P.insert? d row).getD d :=
  rfl

/-- The committed data, and the locks and uncommitted rows of each session. -/
structure State (ι δ ω κ σ : Type) where
  database : δ
  locks : List (ι × κ)
  pending : List (ι × ω)
  sessions : ι → σ

variable {ι δ ω κ σ : Type} [DecidableEq ι] (P : Program δ ω κ σ)

def owned {α : Type} (i : ι) (xs : List (ι × α)) : List α := (xs.filter (·.1 = i)).map (·.2)

namespace State

variable (s : State ι δ ω κ σ) (i : ι)

/-- The committed database with the session's own uncommitted rows, oldest first. -/
def view : δ := P.install s.database (owned i s.pending)

def goto (next : σ) : State ι δ ω κ σ := { s with sessions := Function.update s.sessions i next }

/-- The end of a transaction gives back its locks and forgets its uncommitted rows. -/
def release : State ι δ ω κ σ :=
  { s with locks := s.locks.filter fun l => !decide (l.1 = i),
           pending := s.pending.filter fun w => !decide (w.1 = i) }

@[simp] theorem goto_database (next : σ) : (s.goto i next).database = s.database := rfl

@[simp] theorem goto_locks (next : σ) : (s.goto i next).locks = s.locks := rfl

@[simp] theorem goto_pending (next : σ) : (s.goto i next).pending = s.pending := rfl

@[simp] theorem goto_sessions_self (next : σ) : (s.goto i next).sessions i = next := by
  simp [goto]

theorem goto_sessions_ne {i : ι} (other : j ≠ i) (next : σ) :
    (s.goto i next).sessions j = s.sessions j := by
  simp [goto, other]

def Awaited (row : ω) : Prop := ∃ w ∈ s.pending, w.1 ≠ i ∧ P.clash w.2 row = true

instance (row : ω) : Decidable (s.Awaited P i row) :=
  inferInstanceAs (Decidable (∃ w ∈ s.pending, _))

def Locked (key : κ) : Prop := ∃ l ∈ s.locks, l.1 ≠ i ∧ l.2 = key

instance [DecidableEq κ] (key : κ) : Decidable (s.Locked i key) :=
  inferInstanceAs (Decidable (∃ l ∈ s.locks, _))

end State

open State

/-- What one statement of session `i` does, with the conditions under which it does it. -/
inductive Moves (s : State ι δ ω κ σ) (i : ι) : State ι δ ω κ σ → Prop where
  | waits : Moves s i s
  | locks (key : κ) (next : σ) (stmt : P.statement (s.sessions i) = .lock key next)
      (free : ¬ s.Locked i key) : Moves s i { s.goto i next with locks := (i, key) :: s.locks }
  | selects (next : δ → σ) (stmt : P.statement (s.sessions i) = .select next) :
      Moves s i (s.goto i (next (s.view P i)))
  | acts (act : δ → δ × σ) (stmt : P.statement (s.sessions i) = .effect act) :
      Moves s i { s.goto i (act s.database).2 with database := (act s.database).1 }
  | inserts (row : ω) (next violated : σ)
      (stmt : P.statement (s.sessions i) = .insert row next violated)
      (alone : ¬ s.Awaited P i row) (accepted : (P.insert? (s.view P i) row).isSome) :
      Moves s i { s.goto i next with pending := s.pending ++ [(i, row)] }
  | violates (row : ω) (next violated : σ)
      (stmt : P.statement (s.sessions i) = .insert row next violated)
      (alone : ¬ s.Awaited P i row) (refused : P.insert? (s.view P i) row = none) :
      Moves s i (s.goto i violated)
  | commits (next : σ) (stmt : P.statement (s.sessions i) = .commit next) :
      Moves s i { (s.goto i next).release i with database := s.view P i }
  | rollsBack (next : σ) (stmt : P.statement (s.sessions i) = .rollback next) :
      Moves s i ((s.goto i next).release i)

variable {P}

theorem Moves.sessions_ne {i : ι} (moved : Moves P s i s') (other : j ≠ i) :
    s'.sessions j = s.sessions j := by
  cases moved with
  | waits => rfl
  | _ =>
    exact s.goto_sessions_ne other _

/-- `y` is where a statement can lead that sees `view` and acts on `database`. -/
def Statement.Leads (view database : δ) (y : σ) : Statement δ ω κ σ → Prop
  | .lock _ next => y = next
  | .select next => y = next view
  | .effect act => y = (act database).2
  | .insert _ next violated => y = next ∨ y = violated
  | .commit next => y = next
  | .rollback next => y = next
  | .halt => False

theorem Moves.leads {s : State ι δ ω κ σ} (moved : Moves P s i s') :
    s' = s ∨ (P.statement (s.sessions i)).Leads (s.view P i) s.database (s'.sessions i) := by
  cases moved with
  | waits => exact .inl rfl
  | locks _ _ stmt | selects _ stmt | acts _ stmt | inserts _ _ _ stmt | violates _ _ _ stmt
  | commits _ stmt
  | rollsBack _ stmt =>
    exact .inr (by simp [stmt, Statement.Leads, release])

theorem Moves.database {s : State ι δ ω κ σ} (moved : Moves P s i s') : s'.database = s.database ∨
      (∃ next, P.statement (s.sessions i) = .commit next ∧ s'.database = s.view P i) ∨
      ∃ act, P.statement (s.sessions i) = .effect act ∧ s'.database = (act s.database).1 := by
  cases moved with
  | commits next stmt => exact .inr (.inl ⟨next, stmt, rfl⟩)
  | acts act stmt => exact .inr (.inr ⟨act, stmt, rfl⟩)
  | _ => exact .inl rfl

section Step

variable [DecidableEq κ] (P)

def step (s : State ι δ ω κ σ) (i : ι) : State ι δ ω κ σ :=
  match P.statement (s.sessions i) with
  | .lock key next =>
    -- A session may take a lock again that it has.
    if s.Locked i key then s else { s.goto i next with locks := (i, key) :: s.locks }
  | .select next => s.goto i (next (s.view P i))
  | .effect act => { s.goto i (act s.database).2 with database := (act s.database).1 }
  | .insert row next violated =>
    -- Whether a clash is an error is only known when the other transaction has ended.
    if s.Awaited P i row then s
    else
      match P.insert? (s.view P i) row with
      | none => s.goto i violated
      | some _ => { s.goto i next with pending := s.pending ++ [(i, row)] }
  | .commit next => { (s.goto i next).release i with database := s.view P i }
  | .rollback next => (s.goto i next).release i
  | .halt => s

def system : System (State ι δ ω κ σ) ι where
  step := step P
  admits _ _ := True

theorem run_system (s : State ι δ ω κ σ) (schedule : List ι) : (system P).Run s schedule :=
  System.along_of_forall (fun _ _ => trivial) s schedule

theorem step_moves (s : State ι δ ω κ σ) (i : ι) : Moves P s i (step P s i) := by
  unfold step
  split
  next key next stmt =>
    split
    · exact .waits
    next free => exact .locks key next stmt free
  next next stmt => exact .selects next stmt
  next act stmt => exact .acts act stmt
  next row next violated stmt =>
    split
    · exact .waits
    next alone =>
      split
      next refused => exact .violates row next violated stmt alone refused
      next accepted => exact .inserts row next violated stmt alone (by simp [accepted])
  next next stmt => exact .commits next stmt
  next next stmt => exact .rollsBack next stmt
  next => exact .waits

theorem stable_of_moves {I : State ι δ ω κ σ → Prop}
    (kept : ∀ s i s', Moves P s i s' → I s → I s') : (system P).Stable I :=
  fun s i _ => kept s i _ (step_moves P s i)

end Step

/-! ## Locks exclude -/

def Exclusive (s : State ι δ ω κ σ) : Prop :=
  ∀ i j key, (i, key) ∈ s.locks → (j, key) ∈ s.locks → i = j

theorem Moves.exclusive {s : State ι δ ω κ σ} (moved : Moves P s i s') (exclusive : Exclusive s) :
    Exclusive s' := by
  cases moved with
  | locks key next _ free =>
    -- The new holder found no other one.
    have unheld : ∀ j, (j, key) ∈ s.locks → j = i := by
      intro j held
      by_contra other
      exact free ⟨(j, key), held, other, rfl⟩
    intro a b k first second
    rcases mem_cons.mp first with first | first <;>
      rcases mem_cons.mp second with second | second
    · cases first
      cases second
      rfl
    · cases first
      exact (unheld b second).symm
    · cases second
      exact unheld a first
    · exact exclusive a b k first second
  | commits | rollsBack =>
    intro a b k first second
    exact exclusive a b k (mem_of_mem_filter first) (mem_of_mem_filter second)
  | _ => exact exclusive

/-! ## What a session holds

`rows` and `held` read off the program state which uncommitted rows and which locks the session
has. They are right in every reachable state as soon as every statement keeps them right.
-/

/-- The effect of each statement on the rows and locks that a program state stands for. -/
structure Tracks (P : Program δ ω κ σ) (rows : σ → List ω) (held : σ → List κ) : Prop where
  lock : ∀ {x key y}, P.statement x = .lock key y → rows y = rows x ∧ held y = key :: held x
  select : ∀ {x f} (d : δ), P.statement x = .select f → rows (f d) = rows x ∧ held (f d) = held x
  effect : ∀ {x act} (d : δ), P.statement x = .effect act → rows (act d).2 = rows x ∧
    held (act d).2 = held x
  insert : ∀ {x row y z}, P.statement x = .insert row y z →
    (rows y = rows x ++ [row] ∧ held y = held x) ∧ rows z = rows x ∧ held z = held x
  commit : ∀ {x y}, P.statement x = .commit y → rows y = [] ∧ held y = []
  rollback : ∀ {x y}, P.statement x = .rollback y → rows y = [] ∧ held y = []

/-- Every session has the rows and locks its program state stands for. -/
def Tracked (rows : σ → List ω) (held : σ → List κ) (s : State ι δ ω κ σ) : Prop :=
  ∀ i, owned i s.pending = rows (s.sessions i) ∧ owned i s.locks = held (s.sessions i)

section Owned

variable {α : Type} (i : ι) (xs : List (ι × α))

@[simp] theorem owned_cons_self (a : α) : owned i ((i, a) :: xs) = a :: owned i xs := by
  simp [owned]

@[simp] theorem owned_append_self (a : α) : owned i (xs ++ [(i, a)]) = owned i xs ++ [a] := by
  simp [owned]

@[simp] theorem owned_release_self : owned i (xs.filter fun x => !decide (x.1 = i)) = [] := by
  simp [owned]

variable {i} {j : ι} (other : j ≠ i)

include other

theorem owned_cons_ne (a : α) : owned j ((i, a) :: xs) = owned j xs := by
  simp [owned, Ne.symm other]

theorem owned_append_ne (a : α) : owned j (xs ++ [(i, a)]) = owned j xs := by
  simp [owned, Ne.symm other]

theorem owned_release_ne : owned j (xs.filter fun x => !decide (x.1 = i)) = owned j xs := by
  have kept : ∀ x : ι × α, (decide (x.1 = j) && !decide (x.1 = i)) = decide (x.1 = j) := by
    intro x
    by_cases mine : x.1 = j
    · simp [mine, other]
    · simp [mine]
  simp [owned, kept]

end Owned

theorem Moves.owned_ne {s : State ι δ ω κ σ} (moved : Moves P s i s') (other : j ≠ i) :
    owned j s'.pending = owned j s.pending ∧ owned j s'.locks = owned j s.locks := by
  cases moved with
  | locks key => exact ⟨rfl, owned_cons_ne _ other key⟩
  | inserts row => exact ⟨owned_append_ne _ other row, rfl⟩
  | commits | rollsBack => exact ⟨owned_release_ne _ other, owned_release_ne _ other⟩
  | _ => exact ⟨rfl, rfl⟩

theorem Moves.tracked {held : σ → List κ} (tracks : Tracks P rows held)
    {s : State ι δ ω κ σ} (moved : Moves P s i s') (tracked : Tracked rows held s) :
    Tracked rows held s' := by
  intro j
  by_cases same : j = i
  · subst same
    obtain ⟨ownRows, ownLocks⟩ := tracked j
    cases moved with
    | waits => exact ⟨ownRows, ownLocks⟩
    | locks key next stmt => simpa [tracks.lock stmt, ← ownLocks] using ownRows
    | selects next stmt =>
      simpa [tracks.select (s.view P j) stmt] using And.intro ownRows ownLocks
    | acts act stmt =>
      simpa [tracks.effect s.database stmt] using And.intro ownRows ownLocks
    | inserts _ _ _ stmt => simpa [(tracks.insert stmt).1, ← ownRows] using ownLocks
    | violates _ _ _ stmt =>
      simpa [(tracks.insert stmt).2] using And.intro ownRows ownLocks
    | commits next stmt => simp [release, tracks.commit stmt]
    | rollsBack next stmt => simp [release, tracks.rollback stmt]
  · rw [moved.sessions_ne same, (moved.owned_ne same).1, (moved.owned_ne same).2]
    exact tracked j

/-- What a session sees is known from its program state and the committed database. -/
theorem Tracked.view_eq (tracked : Tracked rows held s) (i : ι) :
    s.view P i = P.install s.database (rows (s.sessions i)) := by
  rw [view, (tracked i).1]

theorem Tracked.holder_unique {s : State ι δ ω κ σ}
    (tracked : Tracked rows held s) (exclusive : Exclusive s) (first : key ∈ held (s.sessions i))
    (second : key ∈ held (s.sessions j)) : i = j := by
  have listed : ∀ k, key ∈ held (s.sessions k) → (k, key) ∈ s.locks := by
    intro k holds
    rw [← (tracked k).2] at holds
    simpa [owned] using holds
  exact exclusive i j key (listed i first) (listed j second)

/-! ## A session on its own

Without other sessions no statement waits, and a program takes the database from one value to
another.
-/

/-- Alone, with uncommitted `rows`, a program goes from `x` to its end `z` and leaves `d'`. -/
inductive Ends (P : Program δ ω κ σ) : δ → List ω → σ → δ → σ → Prop where
  | lock {d rows x key y d' z} (stmt : P.statement x = .lock key y) (rest : Ends P d rows y d' z) :
      Ends P d rows x d' z
  | select {d rows x f d' z} (stmt : P.statement x = .select f)
      (rest : Ends P d rows (f (P.install d rows)) d' z) : Ends P d rows x d' z
  | effect {d rows x act d' z} (stmt : P.statement x = .effect act)
      (rest : Ends P (act d).1 rows (act d).2 d' z) : Ends P d rows x d' z
  | insert {d rows x row y v d' z} (stmt : P.statement x = .insert row y v)
      (accepted : (P.insert? (P.install d rows) row).isSome)
      (rest : Ends P d (rows ++ [row]) y d' z) : Ends P d rows x d' z
  | violate {d rows x row y v d' z} (stmt : P.statement x = .insert row y v)
      (refused : P.insert? (P.install d rows) row = none) (rest : Ends P d rows v d' z) :
      Ends P d rows x d' z
  | commit {d rows x y d' z} (stmt : P.statement x = .commit y)
      (rest : Ends P (P.install d rows) [] y d' z) : Ends P d rows x d' z
  | rollback {d rows x y d' z} (stmt : P.statement x = .rollback y) (rest : Ends P d [] y d' z) :
      Ends P d rows x d' z
  | halt {d rows x} (stmt : P.statement x = .halt) : Ends P d rows x d x

theorem Ends.store {z : σ} (stmt : P.statement x = .insert row y v)
    (accepted : P.insert? d row = some d')
    (commit : P.statement y = .commit z) (halt : P.statement z = .halt) : Ends P d [] x d' z := by
  refine .insert stmt (Option.isSome_iff_exists.mpr ⟨d', accepted⟩) (.commit commit ?_)
  rw [nil_append, install_singleton, accepted]
  exact .halt halt

/-- No other session has locks or uncommitted rows. -/
structure State.Alone (s : State ι δ ω κ σ) (i : ι) : Prop where
  locks : ∀ l ∈ s.locks, l.1 = i
  pending : ∀ w ∈ s.pending, w.1 = i

theorem Moves.alone {s : State ι δ ω κ σ} (moved : Moves P s i s') (alone : s.Alone i) :
    s'.Alone i := by
  cases moved with
  | locks => exact ⟨forall_mem_cons.mpr ⟨rfl, alone.locks⟩, alone.pending⟩
  | inserts =>
    exact ⟨alone.locks, forall_mem_append.mpr ⟨alone.pending, forall_mem_singleton.mpr rfl⟩⟩
  | commits | rollsBack =>
    exact ⟨fun l member => alone.locks l (mem_of_mem_filter member),
      fun w member => alone.pending w (mem_of_mem_filter member)⟩
  | _ => exact ⟨alone.locks, alone.pending⟩

omit [DecidableEq ι] in
theorem State.Alone.unlocked {s : State ι δ ω κ σ} (alone : s.Alone i) (key : κ) :
    ¬ s.Locked i key := by
  rintro ⟨l, member, other, -⟩
  exact other (alone.locks l member)

omit [DecidableEq ι] in
theorem State.Alone.unawaited {s : State ι δ ω κ σ} (alone : s.Alone i) (row : ω) :
    ¬ s.Awaited P i row := by
  rintro ⟨w, member, other, -⟩
  exact other (alone.pending w member)

/-- Session `i`, scheduled often enough, leaves `d` and stands at `z`. -/
def Reaches [DecidableEq κ] (P : Program δ ω κ σ) (i : ι) (s : State ι δ ω κ σ) (d : δ)
    (z : σ) : Prop :=
  ∃ n, ((system P).after s (replicate n i)).database = d ∧
    ((system P).after s (replicate n i)).sessions i = z

theorem Reaches.step [DecidableEq κ] {i : ι} (rest : Reaches P i (step P s i) d z) :
    Reaches P i s d z := by
  obtain ⟨n, reached⟩ := rest
  exact ⟨n + 1, reached⟩

/-- A schedule of one session does what its program does alone. -/
theorem Ends.reaches [DecidableEq κ] {x z : σ} (ends : Ends P d rows x d' z) {i : ι}
    (alone : s.Alone i)
    (database : s.database = d) (pending : owned i s.pending = rows) (session : s.sessions i = x) :
    Reaches P i s d' z := by
  -- Each statement is one entry of the schedule; alone, none of them waits.
  induction ends generalizing s with
  | halt stmt => exact ⟨0, database, session⟩
  | lock stmt _ ih | select stmt _ ih | effect stmt _ ih | commit stmt _ ih | rollback stmt _ ih =>
    apply Reaches.step
    apply ih ((step_moves P s i).alone alone) <;>
      simp [ReadCommitted.step, session, stmt, alone.unlocked, view, release, database, pending]
  | insert stmt accepted rest ih =>
    obtain ⟨_, accepted⟩ := Option.isSome_iff_exists.mp accepted
    apply Reaches.step
    apply ih ((step_moves P s i).alone alone) <;>
      simp [ReadCommitted.step, session, stmt, view, alone.unawaited, database, pending, accepted]
  | violate stmt refused rest ih =>
    apply Reaches.step
    apply ih ((step_moves P s i).alone alone) <;>
      simp [ReadCommitted.step, session, stmt, view, alone.unawaited, database, pending, refused]

/-! ## Counting sessions -/

section Count

variable [Fintype ι]

/-- How many sessions are in a program state that satisfies `p`. -/
def State.count (p : σ → Bool) (s : State ι δ ω κ σ) : Nat :=
  (Finset.univ.filter fun i => p (s.sessions i) = true).card

theorem Moves.count {s : State ι δ ω κ σ} (moved : Moves P s i s') (p : σ → Bool) :
    s'.count p + (p (s.sessions i)).toNat = s.count p + (p (s'.sessions i)).toNat := by
  -- The count is that of the scheduled session and that of the others, which stay.
  have split : ∀ t : State ι δ ω κ σ, t.count p =
      (p (t.sessions i)).toNat + ∑ j ∈ Finset.univ.erase i, (p (t.sessions j)).toNat := by
    intro t
    rw [State.count, Finset.card_filter, ← Finset.add_sum_erase _ _ (Finset.mem_univ i)]
    simp only [Bool.toNat, Bool.cond_eq_ite]
  have rest : ∑ j ∈ Finset.univ.erase i, (p (s'.sessions j)).toNat = ∑ j ∈ Finset.univ.erase i,
      (p (s.sessions j)).toNat := by
    apply Finset.sum_congr rfl
    intro j member
    rw [moved.sessions_ne (Finset.ne_of_mem_erase member)]
  rw [split s, split s', rest]
  omega

end Count

end ReadCommitted
