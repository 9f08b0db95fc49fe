import Mathlib.Data.List.Basic

/-!
# Runs of a guarded transition system

A system steps deterministically on events; a guard says which events may happen in which state. A
run is a list of events each of which is admitted where it happens.
-/
namespace Transition

/-- `step` is total; `admits` says when an event may happen. -/
structure System (σ ε : Type) where
  step : σ → ε → σ
  admits : σ → ε → Prop

namespace System

variable {σ ε : Type} (S : System σ ε)

/-- The state that a list of events leads to. -/
def after (s : σ) : List ε → σ
  | [] => s
  | e :: es => after (S.step s e) es

/-- `P` holds of every step, read in the state in which the step is taken. -/
def Along (P : σ → ε → Prop) (s : σ) : List ε → Prop
  | [] => True
  | e :: es => P s e ∧ Along P (S.step s e) es

/-- `Q` holds at the start and after every event. -/
def Always (Q : σ → Prop) (s : σ) : List ε → Prop
  | [] => Q s
  | e :: es => Q s ∧ Always Q (S.step s e) es

/-- Once `P` holds, `Q` holds from then on. -/
def Thereafter (P Q : σ → Prop) (s : σ) : List ε → Prop
  | [] => P s → Q s
  | e :: es => (P s → S.Always Q s (e :: es)) ∧ Thereafter P Q (S.step s e) es

/-- Every event is admitted where it happens. -/
def Run (s : σ) (es : List ε) : Prop := S.Along S.admits s es

/-- `I` is kept by every admitted step. -/
def Stable (I : σ → Prop) : Prop := ∀ s e, S.admits s e → I s → I (S.step s e)

/-- The system with a history: what is recorded of each step, the newest first. -/
def recording {α : Type} (record : σ → ε → List α) : System (σ × List α) ε where
  step s e := (S.step s.1 e, record s.1 e ++ s.2)
  admits s e := S.admits s.1 e

instance decidableAlong (P : σ → ε → Prop) [∀ s e, Decidable (P s e)] : ∀ (s : σ)
    (es : List ε), Decidable (S.Along P s es)
  | _, [] => isTrue trivial
  | s, e :: es => @instDecidableAnd _ _ _ (decidableAlong P (S.step s e) es)

@[simp] theorem after_append (s : σ) (es fs : List ε) :
    S.after s (es ++ fs) = S.after (S.after s es) fs := by
  induction es generalizing s with
  | nil => rfl
  | cons e es ih => exact ih (S.step s e)

theorem along_append (P : σ → ε → Prop) (s : σ) (es fs : List ε) :
    S.Along P s (es ++ fs) ↔ S.Along P s es ∧ S.Along P (S.after s es) fs := by
  induction es generalizing s with
  | nil => simp [Along, after]
  | cons e es ih => simp [Along, after, ih, and_assoc]

theorem along_and (P Q : σ → ε → Prop) (s : σ) (es : List ε) :
    S.Along (fun s e => P s e ∧ Q s e) s es ↔ S.Along P s es ∧ S.Along Q s es := by
  induction es generalizing s with
  | nil => simp [Along]
  | cons e es ih =>
    simp only [Along, ih]
    exact and_and_and_comm

variable {S} {I : σ → Prop}

variable {P : σ → ε → Prop}

/-- With `P` the guard: where everything is admitted, every list of events is a run. -/
theorem along_of_forall (all : ∀ s e, P s e) (s : σ) (es : List ε) : S.Along P s es := by
  induction es generalizing s with
  | nil => trivial
  | cons e es ih => exact ⟨all s e, ih (S.step s e)⟩

/-- A preorder in which every step goes up: runs go up. -/
theorem after_related {R : σ → σ → Prop} (refl : ∀ s, R s s)
    (trans : ∀ s s' s'', R s s' → R s' s'' → R s s'') (one : ∀ s e, R s (S.step s e)) (s : σ)
    (es : List ε) : R s (S.after s es) := by
  induction es generalizing s with
  | nil => exact refl s
  | cons e es ih => exact trans s _ _ (one s e) (ih (S.step s e))

theorem Stable.after (stable : S.Stable I) (start : I s) : ∀ {es : List ε}, S.Run s es →
    I (S.after s es)
  | [], _ => start
  | e :: _, run => stable.after (stable s e run.1 start) run.2

variable {Q : σ → Prop} {C : σ → ε → Prop}

/-- A property that only the steps meeting a condition keep holds in every state visited by a run
whose steps all meet it. -/
theorem always_of_along (kept : ∀ s e, S.admits s e → C s e → I s → I (S.step s e))
    (one : ∀ s, I s → Q s) (start : I s) : ∀ {es : List ε}, S.Run s es → S.Along C s es →
    S.Always Q s es
  | [], _, _ => one s start
  | e :: _, run, meets =>
    ⟨one s start, always_of_along kept one (kept s e run.1 meets.1 start) run.2 meets.2⟩

/-- What holds of a step out of a good state holds along every run whose steps all meet a condition,
if such steps lead to good states. -/
theorem along_of_along (kept : ∀ s e, C s e → I s → I (S.step s e))
    (one : ∀ s e, C s e → I s → P s e) (start : I s) :
    ∀ {es : List ε}, S.Along C s es → S.Along P s es
  | [], _ => trivial
  | e :: _, meets =>
    ⟨one s e meets.1 start, along_of_along kept one (kept s e meets.1 start) meets.2⟩

theorem Stable.along (stable : S.Stable I) (one : ∀ s e, S.admits s e → I s → P s e) (start : I s)
    (run : S.Run s es) : S.Along P s es := along_of_along stable one start run

theorem Stable.always (stable : S.Stable I) (one : ∀ s, I s → Q s) (start : I s)
    (run : S.Run s es) : S.Always Q s es :=
  always_of_along (fun s e _ => stable s e) one start run run

/-- If a step out of a good state is lawful exactly when it meets a condition, and lawful steps lead
to good states, then all steps of a run are lawful exactly when all of them meet it. -/
theorem along_iff_of_kept (one : ∀ s e, S.admits s e → I s → (P s e ↔ C s e))
    (kept : ∀ s e, S.admits s e → I s → P s e → I (S.step s e)) (start : I s) (run : S.Run s es) :
    S.Along P s es ↔ S.Along C s es := by
  induction es generalizing s with
  | nil => exact Iff.rfl
  | cons e es ih =>
    have next := one s e run.1 start
    constructor
    · rintro ⟨lawful, rest⟩
      exact ⟨next.mp lawful, (ih (kept s e run.1 start lawful) run.2).mp rest⟩
    · rintro ⟨meets, rest⟩
      have lawful := next.mpr meets
      exact ⟨lawful, (ih (kept s e run.1 start lawful) run.2).mpr rest⟩

/-- The states that such a run visits have what the invariant implies. -/
theorem along_and_always_iff (one : ∀ s e, S.admits s e → I s → (P s e ↔ C s e))
    (kept : ∀ s e, S.admits s e → I s → P s e → I (S.step s e)) (good : ∀ s, I s → Q s)
    (start : I s) (run : S.Run s es) : (S.Along P s es ∧ S.Always Q s es) ↔ S.Along C s es := by
  have along := along_iff_of_kept one kept start run
  refine ⟨fun both => along.mp both.1, fun meets => ⟨along.mpr meets, ?_⟩⟩
  exact always_of_along (fun s e admitted meets inv => kept s e admitted inv
    ((one s e admitted inv).mpr meets)) good start run meets

/-- If, under an invariant, a step is good exactly when it meets a condition, then all steps of a
run are good exactly when all of them meet it. -/
theorem Stable.along_iff (stable : S.Stable I) (one : ∀ s e, S.admits s e → I s → (P s e ↔ C s e))
    (start : I s) (run : S.Run s es) : S.Along P s es ↔ S.Along C s es :=
  along_iff_of_kept one (fun s e admitted inv _ => stable s e admitted inv) start run

/-- If, under an invariant that good states keep, a step out of a good state reaches a good state
exactly when it meets a condition, then a run from a good state stays good
exactly when all its steps meet it. -/
theorem always_iff_of_kept (kept : ∀ s e, S.admits s e → I s → Q (S.step s e) → I (S.step s e))
    (one : ∀ s e, S.admits s e → I s → Q s → (Q (S.step s e) ↔ C s e)) (start : I s) (good : Q s)
    (run : S.Run s es) : S.Always Q s es ↔ S.Along C s es := by
  induction es generalizing s with
  | nil => simpa [Always, Along] using good
  | cons e es ih =>
    have next := one s e run.1 start good
    have rest := fun reached => ih (kept s e run.1 start reached) reached run.2
    constructor
    · rintro ⟨_, tail⟩
      -- The next state is the first of the rest, or the last of all.
      have reached : Q (S.step s e) := by cases es with
        | nil => exact tail
        | cons => exact tail.1
      exact ⟨next.mp reached, (rest reached).mp tail⟩
    · rintro ⟨condition, tail⟩
      have reached := next.mpr condition
      exact ⟨good, (rest reached).mpr tail⟩

theorem Stable.always_iff (stable : S.Stable I)
    (one : ∀ s e, S.admits s e → I s → Q s → (Q (S.step s e) ↔ C s e))
    (start : I s) (good : Q s) (run : S.Run s es) : S.Always Q s es ↔ S.Along C s es :=
  always_iff_of_kept (fun s e admitted inv _ => stable s e admitted inv) one start good run

/-- If every step from a good state leaves fewer things to do as long as there are any, a run of at
least as many steps leaves none, in a good state. -/
theorem exhausted {open_ : σ → Nat} (kept : ∀ s e, C s e → I s → I (S.step s e))
    (fewer : ∀ s e, C s e → I s → open_ (S.step s e) ≤ open_ s - 1) (start : I s) :
    ∀ {es : List ε}, S.Along C s es → open_ s ≤ es.length → I (S.after s es) ∧
    open_ (S.after s es) = 0
  | [], _, enough => ⟨start, Nat.le_zero.mp enough⟩
  | e :: es, meets, enough => by
    have next := fewer s e meets.1 start
    have rest : open_ (S.step s e) ≤ es.length := by
      rw [List.length_cons] at enough
      omega
    exact exhausted kept fewer (kept s e meets.1 start) meets.2 rest

theorem Always.last : ∀ {es : List ε}, S.Always Q s es → Q (S.after s es)
  | [], always => always
  | _ :: _, always => always.2.last

theorem Thereafter.always {P : σ → Prop} (holds : P s) : ∀ {es : List ε}, S.Thereafter P Q s es →
    S.Always Q s es
  | [], once => once holds
  | _ :: _, once => once.1 holds

theorem Thereafter.after {P : σ → Prop} {es : List ε} (once : S.Thereafter P Q s (es ++ fs))
    (holds : P (S.after s es)) : Q (S.after (S.after s es) fs) := by
  induction es generalizing s with
  | nil => exact (once.always holds).last
  | cons e es ih => exact ih once.2 holds

/-- What holds once something has happened, where the state remembers in `H` that it has. -/
theorem thereafter_iff_always {H P : σ → Prop} (stable : S.Stable I) (seen : ∀ s, I s → P s → H s)
    (kept : ∀ s e, S.admits s e → I s → H s → H (S.step s e))
    (new : ∀ s e, S.admits s e → I s → H (S.step s e) → H s ∨ P (S.step s e)) {s : σ} (inv : I s)
    (start : H s → P s) (run : S.Run s es) : S.Thereafter P Q s es ↔
    S.Always (fun s => H s → Q s) s es := by
  have remembered : S.Always (fun s => H s → Q s) s es ↔ (H s → S.Always Q s es) ∧
      S.Thereafter P Q s es := by
    clear start
    induction es generalizing s with
    | nil => exact ⟨fun once => ⟨once, fun holds => once (seen s inv holds)⟩, fun both => both.1⟩
    | cons e es ih =>
      obtain ⟨admitted, run⟩ := run
      specialize ih (stable s e admitted inv) run
      constructor
      · rintro ⟨first, rest⟩
        obtain ⟨later, once⟩ := ih.mp rest
        have all : H s → S.Always Q s (e :: es) := fun happened =>
          ⟨first happened, later (kept s e admitted inv happened)⟩
        exact ⟨all, fun holds => all (seen s inv holds), once⟩
      · rintro ⟨all, -, once⟩
        refine ⟨fun happened => (all happened).1, ih.mpr ⟨fun happened => ?_, once⟩⟩
        rcases new s e admitted inv happened with before | holds
        · exact (all before).2
        · exact once.always holds
  rw [remembered]
  exact ⟨fun once => ⟨fun happened => once.always (start happened), once⟩, fun both => both.2⟩

theorem always_forall {Q : α → σ → Prop} : S.Always (fun s => ∀ a, Q a s) s es ↔
    ∀ a, S.Always (Q a) s es := by
  induction es generalizing s with
  | nil => exact Iff.rfl
  | cons e es ih =>
    simp only [Always, ih]
    exact forall_and.symm

theorem Always.imp {P : σ → Prop} (one : ∀ s, P s → Q s) : ∀ {es : List ε}, S.Always P s es →
    S.Always Q s es
  | [], always => one s always
  | _ :: _, always => ⟨one s always.1, always.2.imp one⟩

end System

end Transition
