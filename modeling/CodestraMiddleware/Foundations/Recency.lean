import Mathlib.Data.List.Nodup

/-!
# A bounded map in the order of last use

Entries stand from the one used longest ago to the one used last, each key once and no more of them
than the limit. A new entry comes last and pushes out the first ones that are too many.
-/

/-- At most `limit` entries, the last one being the one used last. -/
structure Recency (limit : Nat) (κ ν : Type) where
  entries : List (κ × ν)
  keysNodup : (entries.map Prod.fst).Nodup
  withinLimit : entries.length ≤ limit

namespace Recency

open List

variable {limit : Nat} {κ ν : Type} [DecidableEq κ]

def empty : Recency limit κ ν := ⟨[], nodup_nil, Nat.zero_le _⟩

def find? (m : Recency limit κ ν) (k : κ) : Option ν := (m.entries.find? (·.1 = k)).map Prod.snd

section

variable (m : Recency limit κ ν)

def others (k : κ) : List (κ × ν) := m.entries.filter (·.1 ≠ k)

theorem others_sublist (k : κ) : (m.others k).Sublist m.entries :=
  filter_sublist

theorem keys_others_append (k : κ) (v : ν) : ((m.others k ++ [(k, v)]).map Prod.fst).Nodup := by
  rw [map_append, nodup_append]
  refine ⟨m.keysNodup.sublist ((m.others_sublist k).map _), nodup_singleton _, ?_⟩
  intro key other key' last same
  obtain ⟨entry, kept, rfl⟩ := mem_map.mp other
  have different : entry.1 ≠ k := by simpa using (mem_filter.mp kept).2
  rw [map_singleton, mem_singleton] at last
  exact different (same.trans last)

def erase (k : κ) : Recency limit κ ν where
  entries := m.others k
  keysNodup := m.keysNodup.sublist ((m.others_sublist k).map _)
  withinLimit := Nat.le_trans (m.others_sublist k).length_le m.withinLimit

end

variable {m : Recency limit κ ν} {k : κ} {v : ν}

theorem find?_mem (found : m.find? k = some v) : (k, v) ∈ m.entries := by
  obtain ⟨⟨key, _⟩, entry, rfl⟩ := Option.map_eq_some_iff.mp found
  have same : key = k := by simpa using find?_some entry
  exact same ▸ mem_of_find?_eq_some entry

theorem find?_eq_none (missing : m.find? k = none) (v : ν) : (k, v) ∉ m.entries := by
  intro entry
  have none := List.find?_eq_none.mp (Option.map_eq_none_iff.mp missing) (k, v) entry
  simp at none

variable {entry : κ × ν}

theorem mem_erase : entry ∈ (m.erase k).entries ↔ entry ∈ m.entries ∧ entry.1 ≠ k := by
  simp [erase, others]

@[simp] theorem find?_erase (m : Recency limit κ ν) (k : κ) : (m.erase k).find? k = none := by
  rw [find?, Option.map_eq_none_iff, List.find?_eq_none]
  intro entry kept
  simpa using (mem_erase.mp kept).2

theorem length_others_lt (entry : (k, v) ∈ m.entries) : (m.others k).length < m.entries.length := by
  apply length_filter_lt_length_iff_exists.mpr
  exact ⟨(k, v), entry, by simp⟩

def moveToEnd (m : Recency limit κ ν) (k : κ) : Recency limit κ ν :=
  match found : m.find? k with
  | none => m
  | some v =>
    { entries := m.others k ++ [(k, v)]
      keysNodup := m.keys_others_append k v
      withinLimit := by
        have shorter := length_others_lt (find?_mem found)
        have bounded := m.withinLimit
        simp only [length_append, length_singleton]
        omega }

theorem mem_moveToEnd (kept : entry ∈ (m.moveToEnd k).entries) : entry ∈ m.entries := by
  unfold moveToEnd at kept
  split at kept
  · exact kept
  next v found =>
    rcases mem_append.mp kept with other | last
    · exact (m.others_sublist k).subset other
    · rw [mem_singleton.mp last]
      exact find?_mem found

/-- A new entry, with the entries used longest ago dropped while there are too many. -/
def put (m : Recency limit κ ν) (k : κ) (v : ν) : Recency limit κ ν where
  entries := (m.others k ++ [(k, v)]).drop ((m.others k ++ [(k, v)]).length - limit)
  keysNodup := (m.keys_others_append k v).sublist ((drop_sublist _ _).map _)
  withinLimit := by
    rw [length_drop]
    omega

theorem mem_put (kept : entry ∈ (m.put k v).entries) : entry = (k, v) ∨ entry ∈ m.entries ∧
    entry.1 ≠ k := by
  have held := mem_of_mem_drop kept
  rcases mem_append.mp held with other | last
  · exact Or.inr (mem_erase.mp other)
  · exact Or.inl (mem_singleton.mp last)

end Recency
