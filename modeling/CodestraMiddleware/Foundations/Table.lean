import Mathlib.Data.List.Perm.Subperm
import Mathlib.Data.List.Sort

/-!
# Keyed tables

A relational table with one unique key: a list of rows, in insertion order, together with the proof
that no two rows share a key.
-/
namespace Relational

open List

/-- Rows with a primary key. -/
structure Table {κ ρ : Type} (key : ρ → κ) where
  rows : List ρ
  unique : (rows.map key).Nodup

namespace Table

variable {κ ρ : Type} {key : ρ → κ}

def empty (key : ρ → κ) : Table key := ⟨[], nodup_nil⟩

section

variable (t : Table key) (f : ρ → ρ) (keeps : ∀ r, key (f r) = key r)

/-- `UPDATE`: rewrite every row; the statement's `WHERE` clause is part of `f`. -/
def update : Table key where
  rows := t.rows.map f
  unique := by
    rw [map_map, show key ∘ f = key from funext keeps]
    exact t.unique

/-- `UPDATE ... WHERE`. -/
def updateWhere (t : Table key) (qualifies : ρ → Bool) (set : ρ → ρ)
    (keeps : ∀ r, key (set r) = key r) : Table key :=
  t.update (fun r => if qualifies r then set r else r) (by
    intro r
    split
    · exact keeps r
    · rfl)

def delete (t : Table key) (p : ρ → Bool) : Table key where
  rows := t.rows.filter fun r => !p r
  unique := t.unique.sublist (filter_sublist.map key)

@[simp] theorem rows_update :
    (t.update f keeps).rows = t.rows.map f := rfl

end

variable {r : ρ}

theorem eq_of_key (t : Table key) (member : r ∈ t.rows) (member' : r' ∈ t.rows)
    (same : key r = key r') : r = r' :=
  inj_on_of_nodup_map t.unique member member' same

theorem length_filter_le (t : Table key) (p : ρ → Bool) (keys : List κ)
    (covered : ∀ r ∈ t.rows.filter p, key r ∈ keys) : (t.rows.filter p).length ≤ keys.length := by
  have distinct : ((t.rows.filter p).map key).Nodup :=
    t.unique.sublist (filter_sublist.map key)
  have within : (t.rows.filter p).map key ⊆ keys := by
    intro k member
    obtain ⟨r, row, rfl⟩ := mem_map.mp member
    exact covered r row
  simpa using (subperm_of_subset distinct within).length_le

variable [DecidableEq κ]

section

variable (t : Table key)

theorem length_filter_mem {keys : List κ} (distinct : keys.Nodup) (taken : keys ⊆ t.rows.map key) :
    (t.rows.filter fun r => key r ∈ keys).length = keys.length := by
  have distinct' : ((t.rows.filter fun r => key r ∈ keys).map key).Nodup :=
    t.unique.sublist (filter_sublist.map key)
  have same : ((t.rows.filter fun r => key r ∈ keys).map key).Perm keys := by
    rw [perm_ext_iff_of_nodup distinct' distinct]
    intro k
    simp only [mem_map, mem_filter, decide_eq_true_eq]
    constructor
    · rintro ⟨r, ⟨-, member⟩, rfl⟩
      exact member
    · intro member
      obtain ⟨r, row, rfl⟩ := mem_map.mp (taken member)
      exact ⟨r, ⟨row, member⟩, rfl⟩
  simpa using same.length_eq

def find? (t : Table key) (k : κ) : Option ρ := t.rows.find? fun r => decide (key r = k)

/-- `INSERT`, refused when the key is taken. -/
def insert? (r : ρ) : Option (Table key) :=
  if absent : key r ∈ t.rows.map key then none
  else some {
    rows := t.rows ++ [r]
    unique := by
      rw [map_append, nodup_append]
      refine ⟨t.unique, nodup_singleton _, ?_⟩
      rintro a taken b new rfl
      simp only [map_cons, map_nil, mem_singleton] at new
      exact absent (new ▸ taken) }

/-- `INSERT ... ON CONFLICT DO NOTHING`. -/
def insertOrIgnore (r : ρ) : Table key := (t.insert? r).getD t

/-- Overwrite the row that has the key of `r`, if there is one. -/
def replace (r : ρ) : Table key :=
  t.update (fun old => if key old = key r then r else old) (by
    intro old
    split
    next same => exact same.symm
    next => rfl)

/-- An assignment to the key of `r`. -/
def put (r : ρ) : Table key := (t.insert? r).getD (t.replace r)

/-- `INSERT ... ON CONFLICT DO UPDATE`, where `f` computes the row that replaces the old one. -/
def upsert (r : ρ) (f : ρ → ρ) (keeps : ∀ old, key (f old) = key old) : Table key :=
  (t.insert? r).getD (t.update (fun old => if key old = key r then f old else old) (by
    intro old
    split
    · exact keeps old
    · rfl))

theorem find?_eq_some_iff (k : κ) (r : ρ) : t.find? k = some r ↔ r ∈ t.rows ∧ key r = k := by
  constructor
  · intro found
    exact ⟨mem_of_find?_eq_some found, by simpa using find?_some found⟩
  · rintro ⟨member, rfl⟩
    cases found : t.find? (key r) with
    | none =>
      have missed := find?_eq_none.mp found r member
      simp at missed
    | some r' =>
      have same : key r' = key r := by simpa using find?_some found
      rw [t.eq_of_key (mem_of_find?_eq_some found) member same]

theorem find?_eq_none_iff (k : κ) : t.find? k = none ↔ ∀ r ∈ t.rows, key r ≠ k := by
  simp [find?, find?_eq_none]

theorem find?_key (found : t.find? k = some r) : key r = k :=
  ((t.find?_eq_some_iff k r).mp found).2

theorem find?_mem (found : t.find? k = some r) : r ∈ t.rows :=
  ((t.find?_eq_some_iff k r).mp found).1

theorem find?_of_mem (member : r ∈ t.rows) : t.find? (key r) = some r :=
  (t.find?_eq_some_iff _ _).mpr ⟨member, rfl⟩

@[simp] theorem find?_empty (k : κ) : (empty key).find? k = none := rfl

@[simp] theorem find?_update (f : ρ → ρ) (keeps : ∀ r, key (f r) = key r) (k : κ) :
    (t.update f keeps).find? k = (t.find? k).map f := by
  simp only [find?, rows_update, find?_map]
  congr 2
  funext r
  simp [keeps r]

@[simp] theorem find?_updateWhere (qualifies : ρ → Bool) (set : ρ → ρ)
    (keeps : ∀ r, key (set r) = key r) (k : κ) : (t.updateWhere qualifies set keeps).find? k =
      (t.find? k).map fun r => if qualifies r then set r else r :=
  t.find?_update _ _ k

theorem find?_replace (r : ρ) (k : κ) :
    (t.replace r).find? k = if key r = k then (t.find? k).map (fun _ => r) else t.find? k := by
  rw [replace, find?_update]
  cases found : t.find? k with
  | none => simp
  | some old =>
    have same := t.find?_key found
    simp only [Option.map_some, same, eq_comm (a := k)]
    split <;> rfl

theorem find?_delete (p : ρ → Bool) (k : κ) : (t.delete p).find? k = (t.find? k).filter
    fun r => !p r := by
  ext r
  simp [find?_eq_some_iff, delete, Option.filter_eq_some_iff, and_right_comm]

theorem insert?_eq_none_iff (r : ρ) : t.insert? r = none ↔ (t.find? (key r)).isSome := by
  rw [← Option.ne_none_iff_isSome, Ne, find?_eq_none_iff]
  unfold insert?
  split
  next taken =>
    obtain ⟨old, member, same⟩ := mem_map.mp taken
    simp only [true_iff, not_forall]
    exact ⟨old, member, fun differs => differs same⟩
  next free =>
    simp only [reduceCtorEq, false_iff, not_not]
    intro old member same
    exact free (mem_map.mpr ⟨old, member, same⟩)

end

variable {t t' : Table key}

section

variable (inserted : t.insert? r = some t')

include inserted

theorem rows_insert? : t'.rows = t.rows ++ [r] := by
  unfold insert? at inserted
  split at inserted
  · cases inserted
  · cases inserted
    rfl

theorem mem_insert? : row ∈ t'.rows ↔ row ∈ t.rows ∨ row = r := by
  rw [rows_insert? inserted, mem_append, mem_singleton]

theorem insert?_fresh : t.find? (key r) = none := by
  cases found : t.find? (key r) with
  | none => rfl
  | some old =>
    have refused := (t.insert?_eq_none_iff r).mpr (by simp [found])
    simp [refused] at inserted

theorem find?_insert? (k : κ) : t'.find? k = if key r = k then some r else t.find? k := by
  have fresh := insert?_fresh inserted
  simp only [find?, rows_insert? inserted, find?_append]
  by_cases same : key r = k
  · subst same
    simp only [find?] at fresh
    simp [fresh]
  · simp [same]

end

@[simp] theorem find?_put (t : Table key) (r : ρ) (k : κ) :
    (t.put r).find? k = if key r = k then some r else t.find? k := by
  unfold put
  cases inserted : t.insert? r with
  | none =>
    obtain ⟨old, found⟩ := Option.isSome_iff_exists.mp ((t.insert?_eq_none_iff r).mp inserted)
    rw [Option.getD_none, find?_replace]
    split
    next same => rw [← same, found, Option.map_some]
    next => rfl
  | some t' =>
    exact find?_insert? inserted k

end Table

/-- What an update does to a row: those that qualify are moved, the others are kept. -/
theorem related_update {R : Option ρ → Option ρ → Prop} (kept : ∀ row, R row row)
    {row : Option ρ} {qualifies : ρ → Bool} {set : ρ → ρ}
    (moved : ∀ r, row = some r → qualifies r = true → R (some r) (some (set r))) :
    R row (row.map fun r => if qualifies r then set r else r) := by
  cases row with
  | none => exact kept none
  | some r =>
    rw [Option.map_some]
    split
    next reached => exact moved r rfl reached
    next => exact kept _

variable {ρ κ : Type} [LinearOrder κ]

/-- `SELECT ... WHERE ... ORDER BY ... FOR UPDATE SKIP LOCKED LIMIT`; which rows
are locked is part of what qualifies. -/
def taken (key : ρ → κ) (qualifies : ρ → Bool) (limit : Nat) (rows : List ρ) : List ρ :=
  ((rows.filter qualifies).insertionSort fun a b => key a ≤ key b).take limit

variable {key : ρ → κ} {qualifies : ρ → Bool} {limit : Nat} {rows : List ρ}

theorem mem_of_mem_taken (member : r ∈ taken key qualifies limit rows) :
    r ∈ rows ∧ qualifies r = true :=
  mem_filter.mp ((mem_insertionSort _).mp (mem_of_mem_take member))

theorem nodup_taken {id : ρ → α} (distinct : (rows.map id).Nodup) :
    ((taken key qualifies limit rows).map id).Nodup := by
  have sorted : (((rows.filter qualifies).insertionSort fun a b => key a ≤ key b).map id).Nodup :=
    ((perm_insertionSort _ _).map id).nodup_iff.mpr (distinct.sublist (filter_sublist.map id))
  exact sorted.sublist ((take_sublist _ _).map id)

end Relational
