import Mathlib.Data.List.Basic

/-!
# Trails

The moves that a state machine has logged lead from its first state to its current one if each
begins where the one before it ended.
-/
namespace Trail

variable {σ : Type} {start stop a b : σ} {moves : List (σ × σ)}

def Leads (start : σ) : List (σ × σ) → σ → Prop
  | [], stop => start = stop
  | (a, b) :: moves, stop => a = start ∧ Leads b moves stop

theorem leads_concat : Leads start (moves ++ [(a, b)]) stop ↔ Leads start moves a ∧ b = stop := by
  induction moves generalizing start with
  | nil => simp [Leads, eq_comm]
  | cons move moves ih => simp [Leads, ih, and_assoc]

theorem Leads.mem_of_ne (leads : Leads start moves stop) (moved : start ≠ stop) :
    ∃ a, (a, stop) ∈ moves := by
  induction moves generalizing start with
  | nil => exact absurd leads moved
  | cons move moves ih =>
    obtain ⟨a, b⟩ := move
    by_cases arrived : b = stop
    · exact ⟨a, arrived ▸ List.mem_cons_self⟩
    · obtain ⟨a', member⟩ := ih leads.2 arrived
      exact ⟨a', List.mem_cons_of_mem _ member⟩

end Trail
