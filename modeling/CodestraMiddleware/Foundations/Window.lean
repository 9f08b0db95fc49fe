import Mathlib.Data.List.Basic

/-!
# Keys that may be used once within a window

Every attempt to use a key is checked at one time and, if accepted, remembered until another. The
memory below keeps the expiry of the last accepted attempt of each key and never drops one.
-/
namespace ReplayWindow

open List

structure Window (α κ : Type) where
  key : α → κ
  (checkedAt expiresAt : α → Int)

namespace Window

variable {α κ σ : Type} [DecidableEq κ] (W : Window α κ)

section

variable (memory : κ → Option Int)

/-- No unexpired use of the key is remembered. -/
def Fresh (a : α) : Prop := ∀ t ∈ memory (W.key a), t ≤ W.checkedAt a

instance (a : α) : Decidable (W.Fresh memory a) :=
  inferInstanceAs (Decidable (∀ t ∈ memory (W.key a), _))

def remember (a : α) : κ → Option Int :=
  Function.update memory (W.key a) (some (W.expiresAt a))

def accepted (memory : κ → Option Int) : List α → List α
  | [] => []
  | a :: as =>
    if W.Fresh memory a then a :: accepted (W.remember memory a) as else accepted memory as

theorem accepted_subset (as : List α) : W.accepted memory as ⊆ as := by
  induction as generalizing memory with
  | nil => exact Subset.refl _
  | cons a as ih =>
    unfold accepted
    split
    · exact cons_subset_cons a (ih _)
    · exact subset_cons_of_subset a (ih _)

end

/-- Neither clock goes back from one attempt to the next. -/
def InOrder (a b : α) : Prop := W.checkedAt a ≤ W.checkedAt b ∧ W.expiresAt a ≤ W.expiresAt b

/-- A second use of a key is checked while the first one is remembered. -/
def Covers (a b : α) : Prop := W.key a = W.key b → W.checkedAt b < W.expiresAt a

variable {memory : κ → Option Int}

theorem remember_eq_none_iff {k : κ} : W.remember memory a k = none ↔
    W.key a ≠ k ∧ memory k = none := by
  unfold remember
  by_cases same : k = W.key a
  · simp [same]
  · simp [Function.update_of_ne same, Ne.symm same]

theorem remember_forall (unknown : memory (W.key a) = none) {P : Int → Prop} :
    (∀ t ∈ W.remember memory a k, P t) ↔ (W.key a = k → P (W.expiresAt a)) ∧
    ∀ t ∈ memory k, P t := by
  unfold remember
  by_cases same : k = W.key a
  · subst same
    simp [unknown]
  · simp [Function.update_of_ne same, Ne.symm same]

variable {as : List α}

/-- Starting from a memory that was written before, no key is accepted twice, nor one that is
remembered, exactly when every attempt is checked while an earlier one of its key is remembered. -/
theorem accepted_distinct_iff_of_memory (memory : κ → Option Int) (ordered : as.Pairwise W.InOrder)
    (past : ∀ a ∈ as, ∀ k, ∀ t ∈ memory k, t ≤ W.expiresAt a) :
    ((∀ a ∈ W.accepted memory as, memory (W.key a) = none) ∧
        (W.accepted memory as).Pairwise fun a b => W.key a ≠ W.key b) ↔
      (∀ a ∈ as, ∀ t ∈ memory (W.key a), W.checkedAt a < t) ∧ as.Pairwise W.Covers := by
  -- Generalised over the memory, so that the tail can be read from what `a` leaves behind.
  induction as generalizing memory with
  | nil => simp [accepted]
  | cons a as ih =>
    obtain ⟨first, rest⟩ := pairwise_cons.mp ordered
    have pastRest : ∀ b ∈ as, ∀ k, ∀ t ∈ memory k, t ≤ W.expiresAt b := fun b member =>
      past b (mem_cons_of_mem a member)
    by_cases fresh : W.Fresh memory a
    · cases known : memory (W.key a) with
      | some t =>
        -- The entry is expired but was there: the key is used twice and no window covers it.
        have lapsed : t ≤ W.checkedAt a := fresh t known
        constructor
        · rintro ⟨new, -⟩
          have unknown := new a (by simp [accepted, fresh])
          rw [known] at unknown
          cases unknown
        · rintro ⟨covered, -⟩
          have running := covered a mem_cons_self t known
          omega
      | none =>
        have pastNext : ∀ b ∈ as, ∀ k, ∀ t ∈ W.remember memory a k, t ≤ W.expiresAt b := by
          intro b member k
          rw [W.remember_forall known]
          exact ⟨fun _ => (first b member).2, pastRest b member k⟩
        have tail := ih (W.remember memory a) rest pastNext
        simp only [W.remember_eq_none_iff, W.remember_forall known] at tail
        simp only [accepted, fresh, if_true, forall_mem_cons, pairwise_cons, known, true_and,
          Option.not_mem_none, false_implies, implies_true]
        constructor
        · rintro ⟨unknown, differ, apart⟩
          obtain ⟨covered, pairs⟩ := tail.mp
            ⟨fun b member => ⟨differ b member, unknown b member⟩, apart⟩
          exact ⟨fun b member => (covered b member).2, fun b member => (covered b member).1, pairs⟩
        · rintro ⟨covered, covers, pairs⟩
          obtain ⟨unknown, apart⟩ := tail.mpr
            ⟨fun b member => ⟨covers b member, covered b member⟩, pairs⟩
          exact ⟨fun b member => (unknown b member).2, fun b member => (unknown b member).1, apart⟩
    · -- The attempt is refused, and what refuses it also covers the later uses of its key.
      obtain ⟨t, known, running⟩ : ∃ t, memory (W.key a) = some t ∧ W.checkedAt a < t := by
        simpa [Fresh] using fresh
      have soon : t ≤ W.expiresAt a := past a mem_cons_self _ t known
      simp only [accepted, fresh, if_false, ih memory rest pastRest, forall_mem_cons, pairwise_cons]
      constructor
      · rintro ⟨covered, pairs⟩
        refine ⟨⟨?_, covered⟩, ?_, pairs⟩
        · intro t' known'
          cases known.symm.trans known'
          exact running
        · intro b member same
          have here := covered b member t (same ▸ known)
          omega
      · rintro ⟨⟨-, covered⟩, -, pairs⟩
        exact ⟨covered, pairs⟩

/-- No key is accepted twice exactly when every later attempt to use a key is checked before the
earlier one expires. -/
theorem accepted_distinct_iff (ordered : as.Pairwise W.InOrder) :
    ((W.accepted (fun _ => none) as).Pairwise fun a b => W.key a ≠ W.key b) ↔
    as.Pairwise W.Covers := by
  simpa using W.accepted_distinct_iff_of_memory (fun _ => none) ordered (by simp)

def served (offer : σ → α → Option σ) (s : σ) : List α → List α
  | [] => []
  | a :: as =>
    match offer s a with
    | some s' => a :: served offer s' as
    | none => served offer s as

/-- An implementation that agrees with the memory about all keys from some time on accepts what
the memory accepts among the attempts that pass its other checks. -/
theorem served_eq_accepted (Agrees : σ → (κ → Option Int) → Int → Prop)
    (refuses : ∀ s a, passes a = false → offer s a = none)
    (step : ∀ s memory now a, passes a = true → Agrees s memory now → now ≤ W.checkedAt a →
      (¬ W.Fresh memory a ∧ offer s a = none) ∨ (W.Fresh memory a ∧
          ∃ s', offer s a = some s' ∧ Agrees s' (W.remember memory a) (W.checkedAt a)))
    (ordered : as.Pairwise fun a b => W.checkedAt a ≤ W.checkedAt b)
    (later : ∀ a ∈ as, now ≤ W.checkedAt a) (agrees : Agrees s memory now) :
    served offer s as = W.accepted memory (as.filter passes) := by
  induction as generalizing s memory now with
  | nil => rfl
  | cons a as ih =>
    obtain ⟨first, rest⟩ := pairwise_cons.mp ordered
    have laterRest : ∀ b ∈ as, now ≤ W.checkedAt b := fun b member =>
      later b (mem_cons_of_mem a member)
    cases good : passes a with
    | false => simp [served, refuses s a good, good, ih rest laterRest agrees]
    | true =>
      rcases step s memory now a good agrees (later a mem_cons_self) with
        ⟨used, refused⟩ | ⟨fresh, s', taken, agrees'⟩
      · simp [served, refused, good, accepted, used, ih rest laterRest agrees]
      · simp [served, taken, good, accepted, fresh, ih rest first agrees']

end Window

end ReplayWindow
