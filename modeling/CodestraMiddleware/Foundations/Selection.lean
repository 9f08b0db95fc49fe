import CodestraMiddleware.Foundations.Raising

/-!
# The first of the best

`List.maxOn?` picks the first of the values with the greatest score. Values without a score can be
left out or replaced by others without a score, and what is picked among those with one stays the
same.
-/
namespace Selection

open Raising

variable {α β ε : Type} {score : β → Nat}

theorem le_of_maxOn? {values : List β} (picked : values.maxOn? score = some best)
    (member : b ∈ values) : score b ≤ score best := by
  have given : values ≠ [] := List.ne_nil_of_mem member
  rw [List.maxOn?_eq_some_maxOn given, Option.some_inj] at picked
  rw [← picked]
  exact List.le_apply_maxOn_of_mem member

variable (score) in
def scored (values : List β) : Option β :=
  (values.maxOn? score).filter fun b => decide (0 < score b)

theorem scored_cons (b : β) (values : List β) :
    scored score (b :: values) = if score b = 0 then scored score values
      else some ((scored score values).elim b (maxOn score b)) := by
  have larger {x y : β} (less : score x < score y) : maxOn score x y = y :=
    maxOn_eq_right (Nat.not_le.mpr less)
  have first {x y : β} (least : score y ≤ score x) : maxOn score x y = x := maxOn_eq_left least
  simp only [scored, List.maxOn?_cons, Option.filter_some]
  cases values.maxOn? score with
  | none =>
    by_cases zero : score b = 0
    · simp [zero]
    · simp [zero, Nat.pos_of_ne_zero zero]
  | some m =>
    simp only [Option.elim_some, Option.filter_some]
    rcases Nat.lt_or_ge (score b) (score m) with less | least
    · have positive : 0 < score m := by omega
      simp only [larger less]
      by_cases zero : score b = 0
      · simp [zero, positive]
      · simp [zero, positive, larger less]
    · simp only [first least]
      by_cases zero : score b = 0
      · have none : score m = 0 := by omega
        simp [zero, none]
      · by_cases none : score m = 0
        · simp [zero, none, Nat.pos_of_ne_zero zero]
        · simp [zero, Nat.pos_of_ne_zero zero, Nat.pos_of_ne_zero none, first least]

/-- Values are computed one after another; those that are left out have no score. -/
theorem scored_mapM_filter {f : α → Except ε β} {values : List α}
    (dropped : ∀ a ∈ values, keep a = false → ∃ b, f a = .ok b ∧ score b = 0) :
    scored score <$> values.mapM f = scored score <$> (values.filter keep).mapM f := by
  -- What is picked from a longer list depends on what is picked from the rest.
  have longer (b : β) (rest : Except ε (List β)) :
    scored score <$> (rest >>= fun bs => pure (b :: bs)) =
      (fun best => if score b = 0 then best else some (best.elim b (maxOn score b))) <$>
      (scored score <$> rest) := by
    cases rest with
    | error raised => rfl
    | ok bs => exact congrArg Except.ok (scored_cons b bs)
  induction values with
  | nil => rfl
  | cons a values ih =>
    obtain ⟨first, rest⟩ := List.forall_mem_cons.mp dropped
    specialize ih rest
    rw [List.mapM_cons]
    cases kept : keep a with
    | true =>
      rw [List.filter_cons_of_pos kept, List.mapM_cons]
      cases f a with
      | error raised => rfl
      | ok b => exact (longer b _).trans ((congrArg _ ih).trans (longer b _).symm)
    | false =>
      obtain ⟨b, ok, zero⟩ := first kept
      rw [List.filter_cons_of_neg (by simp [kept]), ← ih, ok]
      apply (longer b _).trans
      simp only [zero, if_true]
      exact id_map _

end Selection
