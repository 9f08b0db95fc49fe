import Mathlib.Data.List.Basic

/-!
# Checks that raise

A function that checks one thing after another and raises at the first that fails is a sequence of
binds in `Except`.
-/
namespace Raising

open List

variable {ε α β : Type}

def check (c : Prop) [Decidable c] (raised : ε) : Except ε Unit :=
  if c then .ok () else .error raised

/-! ## Where a sequence of checks returns -/

variable {raised : ε}

@[simp] theorem check_eq_ok {c : Prop} [Decidable c] {u : Unit} : check c raised = .ok u ↔ c := by
  unfold check
  split <;> simp_all

variable {x : Except ε α} {f : α → Except ε β}

@[simp] theorem bind_eq_ok {b : β} : x >>= f = .ok b ↔ ∃ a, x = .ok a ∧ f a = .ok b := by
  cases x <;> simp [bind, Except.bind]

@[simp] theorem map_eq_ok {f : α → β} {b : β} : f <$> x = .ok b ↔ ∃ a, x = .ok a ∧ f a = b := by
  cases x <;> simp [Functor.map, Except.map]

variable {l : List α}

@[simp] theorem forM_eq_ok {f : α → Except ε Unit} {u : Unit} : forM l f = .ok u ↔
    ∀ a ∈ l, f a = .ok () := by
  induction l with
  | nil => exact ⟨fun _ => nofun, fun _ => rfl⟩
  | cons a l ih =>
    rw [forM_cons, bind_eq_ok, forall_mem_cons]
    constructor
    · rintro ⟨_, first, rest⟩
      exact ⟨first, ih.mp rest⟩
    · rintro ⟨first, rest⟩
      exact ⟨(), first, ih.mpr rest⟩

theorem mem_of_mapM_eq_ok {found : List β} (ok : l.mapM f = .ok found) :
    (∀ a ∈ l, ∃ b ∈ found, f a = .ok b) ∧ ∀ b ∈ found, ∃ a ∈ l, f a = .ok b := by
  induction l generalizing found with
  | nil =>
    cases ok
    exact ⟨forall_mem_nil _, forall_mem_nil _⟩
  | cons a l ih =>
    rw [mapM_cons] at ok
    obtain ⟨b, first, ok⟩ := bind_eq_ok.mp ok
    obtain ⟨bs, rest, ok⟩ := bind_eq_ok.mp ok
    cases ok
    obtain ⟨each, only⟩ := ih rest
    constructor
    · refine forall_mem_cons.mpr ⟨⟨b, mem_cons_self, first⟩, fun a member => ?_⟩
      obtain ⟨b, member, ok⟩ := each a member
      exact ⟨b, mem_cons_of_mem _ member, ok⟩
    · refine forall_mem_cons.mpr ⟨⟨a, mem_cons_self, first⟩, fun b member => ?_⟩
      obtain ⟨a, member, ok⟩ := only b member
      exact ⟨a, mem_cons_of_mem _ member, ok⟩

theorem exists_mapM_eq_ok (each : ∀ a ∈ l, ∃ b, f a = .ok b) : ∃ found, l.mapM f = .ok found := by
  induction l with
  | nil => exact ⟨[], rfl⟩
  | cons a l ih =>
    obtain ⟨⟨b, first⟩, rest⟩ := forall_mem_cons.mp each
    obtain ⟨found, ok⟩ := ih rest
    exact ⟨b :: found, by simp [mapM_cons, first, ok]⟩

theorem bind_congr_of_map {γ : Type} {y : Except ε α} {g : α → γ} {f' : α → Except ε β}
    (same : g <$> x = g <$> y) (rest : ∀ a a', g a = g a' → f a = f' a') : x >>= f = y >>= f' := by
  cases x with
  | error raised =>
    cases y with
    | error raised' => cases same; rfl
    | ok a' => cases same
  | ok a =>
    cases y with
    | error raised' => cases same
    | ok a' => exact rest a a' (Except.ok.inj same)

/-! ## What a sequence of checks never raises -/

def Never (kind : ε → Prop) (x : Except ε α) : Prop := ∀ raised, kind raised → x ≠ .error raised

namespace Never

variable {kind : ε → Prop}

@[simp] theorem ok (a : α) : Never kind (.ok a : Except ε α) := nofun

@[simp] theorem error : Never kind (.error raised : Except ε α) ↔ ¬kind raised := by
  constructor
  · exact fun never bad => never raised bad rfl
  · rintro good _ bad ⟨⟩
    exact good bad

theorem of_error (never : Never kind x) (failed : x = .error raised) : ¬kind raised :=
  fun bad => never raised bad failed

@[simp] theorem check {c : Prop} [Decidable c] : Never kind (check c raised) ↔
    c ∨ ¬kind raised := by
  unfold Raising.check
  split <;> simp_all

@[simp] theorem bind : Never kind (x >>= f) ↔ Never kind x ∧ ∀ a, x = .ok a → Never kind (f a) := by
  cases x with
  | ok a | error raised => simp [Bind.bind, Except.bind]

@[simp] theorem loop {f : α → Except ε Unit} (each : ∀ a, Never kind (f a)) :
    Never kind (forM l f) := by
  induction l with
  | nil => exact ok ()
  | cons a l ih =>
    exact bind.mpr ⟨each a, fun _ _ => ih⟩

end Never

end Raising
