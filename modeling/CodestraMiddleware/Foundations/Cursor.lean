import Mathlib.Data.List.Sort

/-!
# Reading a growing table behind a high-water mark

A reader keeps the key of the last row it has sent and asks, again and again, for the rows with a
greater key, in key order. Rows are only ever added.
-/
namespace Cursor

open List

variable {ρ : Type} (key : ρ → Nat)

/-- `ORDER BY key`. -/
def inOrder (rows : List ρ) : List ρ := rows.insertionSort fun a b => key a ≤ key b

/-- `WHERE key > mark ORDER BY key`. -/
def ahead (mark : Int) (rows : List ρ) : List ρ :=
  inOrder key (rows.filter fun r => decide (mark < key r))

/-- The mark after sending some rows: the key of the last one. -/
def advance (mark : Int) (sent : List ρ) : Int := sent.foldl (fun _ r => (key r : Int)) mark

/-- What has been sent belongs to the table, is in order and lies behind the mark. -/
structure Follows (rows sent : List ρ) (mark : Int) : Prop where
  stored : ∀ r ∈ sent, r ∈ rows
  increasing : sent.Pairwise fun a b => key a < key b
  behind : ∀ r ∈ sent, (key r : Int) ≤ mark

/-- Some row lies behind the mark and has not been sent. -/
def Missed (rows sent : List ρ) (mark : Int) : Prop :=
  ∃ r ∈ rows, (key r : Int) ≤ mark ∧ r ∉ sent

variable {key} {rows sent : List ρ} {mark : Int}

@[simp] theorem mem_inOrder : r ∈ inOrder key rows ↔ r ∈ rows :=
  mem_insertionSort _

theorem mem_ahead : r ∈ ahead key mark rows ↔ r ∈ rows ∧ mark < key r := by
  simp [ahead]

/-- Under distinct keys the order is strict. -/
theorem inOrder_increasing (unique : (rows.map key).Nodup) : (inOrder key rows).Pairwise fun a b =>
    key a < key b := by
  have sorted : (inOrder key rows).Pairwise fun a b => key a ≤ key b :=
    pairwise_insertionSort _ rows
  have distinct : (inOrder key rows).Pairwise fun a b => key a ≠ key b := by
    have perm := (perm_insertionSort (fun a b => key a ≤ key b) rows).map key
    exact pairwise_map.mp (perm.nodup_iff.mpr unique)
  exact (sorted.and distinct).imp fun h => Nat.lt_of_le_of_ne h.1 h.2

theorem ahead_increasing (mark : Int) (unique : (rows.map key).Nodup) :
    (ahead key mark rows).Pairwise fun a b => key a < key b :=
  inOrder_increasing (unique.sublist (filter_sublist.map key))

/-- Sending rows above the mark, in order, leaves the mark at the greatest of them. -/
theorem advance_bounds (above : ∀ r ∈ xs, mark < key r)
    (increasing : xs.Pairwise fun a b => key a < key b) :
    mark ≤ advance key mark xs ∧ ∀ r ∈ xs, (key r : Int) ≤ advance key mark xs := by
  induction xs generalizing mark with
  | nil => exact ⟨Int.le_refl mark, by simp⟩
  | cons x xs ih =>
    obtain ⟨first, rest⟩ := pairwise_cons.mp increasing
    have head := above x mem_cons_self
    -- The rest is sent from the mark that `x` leaves.
    obtain ⟨reached, covered⟩ := @ih (key x)
      (fun r member => Int.ofNat_lt.mpr (first r member)) rest
    change mark ≤ advance key (key x) xs ∧ ∀ r ∈ x :: xs, (key r : Int) ≤ advance key (key x) xs
    exact ⟨by omega, forall_mem_cons.mpr ⟨reached, covered⟩⟩

theorem read_bounds (mark : Int) (unique : (rows.map key).Nodup) :
    mark ≤ advance key mark (ahead key mark rows) ∧
      ∀ r ∈ rows, (key r : Int) ≤ advance key mark (ahead key mark rows) := by
  obtain ⟨reached, covered⟩ :=
    advance_bounds (fun r member => (mem_ahead.mp member).2) (ahead_increasing mark unique)
  refine ⟨reached, ?_⟩
  intro r member
  by_cases above : mark < key r
  · exact covered r (mem_ahead.mpr ⟨member, above⟩)
  · omega

theorem Follows.read (follows : Follows key rows sent mark) (unique : (rows.map key).Nodup) :
    Follows key rows (sent ++ ahead key mark rows) (advance key mark (ahead key mark rows)) := by
  obtain ⟨reached, covered⟩ := read_bounds mark unique
  refine ⟨?_, ?_, ?_⟩
  · exact forall_mem_append.mpr ⟨follows.stored, fun r new => (mem_ahead.mp new).1⟩
  · refine pairwise_append.mpr ⟨follows.increasing, ahead_increasing mark unique, ?_⟩
    intro a old b new
    have below := follows.behind a old
    have above := (mem_ahead.mp new).2
    omega
  · refine forall_mem_append.mpr ⟨fun r old => ?_, fun r new => covered r (mem_ahead.mp new).1⟩
    exact Int.le_trans (follows.behind r old) reached

/-- Reading on neither misses a row nor finds a missed one. -/
theorem missed_read_iff (unique : (rows.map key).Nodup) :
    Missed key rows (sent ++ ahead key mark rows) (advance key mark (ahead key mark rows)) ↔
    Missed key rows sent mark := by
  obtain ⟨_, covered⟩ := read_bounds mark unique
  constructor
  · rintro ⟨r, member, -, unsent⟩
    rw [mem_append, not_or] at unsent
    refine ⟨r, member, ?_, unsent.1⟩
    by_contra above
    exact unsent.2 (mem_ahead.mpr ⟨member, by omega⟩)
  · rintro ⟨r, member, _, unsent⟩
    refine ⟨r, member, covered r member, ?_⟩
    rw [mem_append, not_or]
    refine ⟨unsent, fun new => ?_⟩
    have above := (mem_ahead.mp new).2
    omega

theorem Follows.arrive (follows : Follows key rows sent mark) (x : ρ) :
    Follows key (rows ++ [x]) sent mark :=
  ⟨fun r member => mem_append_left _ (follows.stored r member), follows.increasing, follows.behind⟩

theorem missed_arrive_iff (new : x ∉ sent) :
    Missed key (rows ++ [x]) sent mark ↔ Missed key rows sent mark ∨ (key x : Int) ≤ mark := by
  constructor
  · rintro ⟨r, member, below, unsent⟩
    rcases mem_append.mp member with old | this
    · exact .inl ⟨r, old, below, unsent⟩
    · obtain rfl := mem_singleton.mp this
      exact .inr below
  · rintro (⟨r, member, below, unsent⟩ | below)
    · exact ⟨r, mem_append_left _ member, below, unsent⟩
    · exact ⟨x, mem_append_right _ (mem_singleton_self x), below, new⟩

theorem Follows.caught_up (follows : Follows key rows sent mark)
    (everything : ∀ r ∈ rows, r ∈ sent) :
    ¬ Missed key rows sent mark ∧ ∀ r ∈ rows, (key r : Int) ≤ mark := by
  refine ⟨?_, fun r member => follows.behind r (everything r member)⟩
  rintro ⟨r, member, -, unsent⟩
  exact unsent (everything r member)

/-- The whole table has been sent, once and in order, exactly when no row was missed and none lies
above the mark. -/
theorem Follows.complete_iff (follows : Follows key rows sent mark)
    (unique : (rows.map key).Nodup) :
    sent = inOrder key rows ↔ ¬ Missed key rows sent mark ∧ ∀ r ∈ rows, (key r : Int) ≤ mark := by
  constructor
  · intro complete
    refine follows.caught_up fun r member => ?_
    rw [complete]
    exact mem_inOrder.mpr member
  · rintro ⟨nothing, below⟩
    -- Both lists are strictly increasing and have the same rows.
    have same : ∀ r, r ∈ sent ↔ r ∈ inOrder key rows := by
      intro r
      rw [mem_inOrder]
      refine ⟨follows.stored r, fun member => ?_⟩
      by_contra unsent
      exact nothing ⟨r, member, below r member, unsent⟩
    have ordered := inOrder_increasing unique
    have perm : sent.Perm (inOrder key rows) := by
      refine (perm_ext_iff_of_nodup ?_ ?_).mpr same
      · exact follows.increasing.imp fun less equal => by simp [equal] at less
      · exact ordered.imp fun less equal => by simp [equal] at less
    exact perm.eq_of_pairwise (fun a b _ _ less more =>
      absurd less (Nat.not_lt.mpr (Nat.le_of_lt more))) follows.increasing ordered

end Cursor
