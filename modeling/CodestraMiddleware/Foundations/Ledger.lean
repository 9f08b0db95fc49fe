import Mathlib.Data.List.Basic

/-!
# Ledgers of claims

An item is claimed by one worker after the other. A claim is held until it is released, which is
what happens when its lease is taken back, or until its holder reports on it; after a final report
the item is not claimed again. The claims are numbered from 1, and the number of the newest one is
the fencing token.
-/
namespace Leases

open List

variable {ρ : Type}

inductive Action (ρ : Type) where
  | claim | release
  | report (r : ρ)
  deriving DecidableEq

def Action.report? : Action ρ → Option ρ
  | .report r => some r
  | .claim | .release => none

inductive Ending (ρ : Type) where
  | released
  | reported (r : ρ)

def Ending.report? : Ending ρ → Option ρ
  | .released => none
  | .reported r => some r

@[simp] theorem Ending.report?_released : (Ending.released : Ending ρ).report? = none := rfl

@[simp] theorem Ending.report?_reported (r : ρ) : (Ending.reported r).report? = some r := rfl

def Ending.is (p : ρ → Bool) (e : Ending ρ) : Bool := e.report?.any p

structure Ledger (ρ : Type) where
  -- Oldest first.
  endings : List (Ending ρ)
  held : Bool

variable {n : Nat}

namespace Ledger

section

variable (l : Ledger ρ)

def act : Action ρ → Ledger ρ
  | .claim => { l with held := true }
  | .release => ⟨l.endings ++ [.released], false⟩
  | .report r => ⟨l.endings ++ [.reported r], false⟩

def of : List (Action ρ) → Ledger ρ
  | [] => ⟨[], false⟩
  | a :: actions => (of actions).act a

def token : Nat := l.endings.length + l.held.toNat

def ending? : Nat → Option (Ending ρ)
  | 0 => none
  | n + 1 => l.endings[n]?

def reports : List ρ := l.endings.filterMap Ending.report?

end

/-- The last claim ended with a report that satisfies `p`. -/
def endsWith (p : ρ → Bool) (l : Ledger ρ) : Bool := !l.held && l.endings.getLast?.any (·.is p)

section Act

variable (l : Ledger ρ) (r : ρ)

@[simp] theorem reports_claim : (l.act .claim).reports = l.reports := rfl

@[simp] theorem reports_release : (l.act .release).reports = l.reports := by
  simp [act, reports]

@[simp] theorem reports_report : (l.act (.report r)).reports = l.reports ++ [r] := by
  simp [act, reports]

theorem reports_act (a : Action ρ) : (l.act a).reports = l.reports ++ a.report?.toList := by
  cases a <;> simp [Action.report?]

theorem ending?_eq_some_iff : l.ending? n = some e ↔ ∃ i, n = i + 1 ∧ l.endings[i]? = some e := by
  cases n with
  | zero | succ i => simp [ending?]

theorem ending?_or_held (made : 0 < n ∧ n ≤ l.token) : (∃ e, l.ending? n = some e) ∨ l.held = true ∧
    n = l.token := by
  obtain ⟨i, rfl⟩ : ∃ i, n = i + 1 := ⟨n - 1, by omega⟩
  by_cases ended : i < l.endings.length
  · exact .inl ⟨l.endings[i], by simp [ending?, ended]⟩
  · have upper := made.2
    unfold token at upper ⊢
    cases held : l.held with
    | false => simp [held] at upper; omega
    | true =>
      simp only [held, Bool.toNat_true] at upper ⊢
      exact .inr ⟨trivial, by omega⟩

theorem token_le_act (a : Action ρ) : l.token ≤ (l.act a).token := by
  cases a <;> cases held : l.held <;> simp [act, token, held]

theorem ending?_token (ended : l.ending? l.token = some e) :
    l.held = false ∧ l.endings.getLast? = some e := by
  obtain ⟨i, token, found⟩ := (l.ending?_eq_some_iff).mp ended
  have bound : i < l.endings.length := (List.getElem?_eq_some_iff.mp found).1
  unfold Ledger.token at token
  cases held : l.held with
  | true =>
    simp only [held, Bool.toNat_true] at token
    omega
  | false =>
    refine ⟨rfl, ?_⟩
    rw [List.getLast?_eq_getElem?, ← found]
    congr 1
    omega

theorem getLast?_reports (last : l.endings.getLast? = some (.reported r)) :
    l.reports.getLast? = some r := by
  obtain ⟨_, split⟩ := getLast?_eq_some_iff.mp last
  simp [reports, split]

end Act

/-! ## Lawful actions -/

section Lawful

variable (final : ρ → Bool)

/-- A claim needs an item that nobody holds and that has no final report; a release and a report
need an item that is held. -/
def Allows (l : Ledger ρ) : Action ρ → Prop
  | .claim => l.held = false ∧ l.endsWith final = false
  | .release => l.held = true
  | .report _ => l.held = true

def Lawful : List (Action ρ) → Prop
  | [] => True
  | a :: actions => (of actions).Allows final a ∧ Lawful actions

variable {final} {actions : List (Action ρ)}

section

variable (lawful : Lawful final actions)

include lawful

theorem Lawful.not_final : (∀ e ∈ (of actions).endings.dropLast, e.is final = false) ∧
      ((of actions).held = true → ∀ e ∈ (of actions).endings, e.is final = false) := by
  induction actions with
  | nil => simp [of]
  | cons a actions ih =>
    obtain ⟨allowed, earlier⟩ := lawful
    obtain ⟨inner, whole⟩ := ih earlier
    cases a with
    | claim =>
      refine ⟨inner, fun _ e member => ?_⟩
      have last : (of actions).endings.getLast?.any (·.is final) = false := by
        simpa [endsWith, allowed.1] using allowed.2
      rcases eq_nil_or_concat (of actions).endings with nil | ⟨_, x, split⟩
      · simp [of, act, nil] at member
      · rw [split] at inner last
        simp only [of, act, split, concat_eq_append, mem_append, mem_singleton] at member
        rcases member with old | rfl
        · exact inner e (by simpa using old)
        · simpa using last
    | release | report r =>
      refine ⟨?_, by simp [of, act]⟩
      simpa [of, act] using whole allowed

theorem Lawful.ending?_final (ended : (of actions).ending? n = some (.reported r))
    (closing : final r = true) : n = (of actions).token ∧ (of actions).held = false := by
  obtain ⟨i, rfl, found⟩ := (ending?_eq_some_iff _).mp ended
  obtain ⟨inner, whole⟩ := lawful.not_final
  have isFinal : (Ending.reported r).is final = true := closing
  have free : (of actions).held = false := by
    by_contra held
    have open_ := whole (by simpa using held) _ (List.mem_of_getElem? found)
    rw [isFinal] at open_
    exact Bool.noConfusion open_
  refine ⟨?_, free⟩
  have bound : i < (of actions).endings.length := (List.getElem?_eq_some_iff.mp found).1
  by_contra later
  have short : i < (of actions).endings.dropLast.length := by
    simp only [token, free, Bool.toNat_false] at later
    rw [List.length_dropLast]
    omega
  have open_ := inner (.reported r) (List.mem_of_getElem? (i := i) (by
    rw [List.getElem?_dropLast, if_pos (by rw [List.length_dropLast] at short; exact short),
      found]))
  rw [isFinal] at open_
  exact Bool.noConfusion open_

theorem Lawful.countP_reports (closing : ∀ r, p r = true → final r = true) :
    (of actions).reports.countP p = ((of actions).endsWith p).toNat := by
  obtain ⟨inner, whole⟩ := lawful.not_final
  have none_of : ∀ endings : List (Ending ρ), (∀ e ∈ endings, e.is final = false) →
      (endings.filterMap Ending.report?).countP p = 0 := by
    intro endings open_
    rw [countP_eq_zero]
    intro r member
    obtain ⟨e, ended, reported⟩ := mem_filterMap.mp member
    have notFinal := open_ e ended
    simp only [Ending.is, reported, Option.any_some] at notFinal
    intro holds
    rw [closing r holds] at notFinal
    exact Bool.noConfusion notFinal
  unfold reports endsWith
  cases held : (of actions).held with
  | true => simpa using none_of _ (whole held)
  | false =>
    rcases eq_nil_or_concat (of actions).endings with nil | ⟨init, x, split⟩
    · simp [nil]
    · rw [split] at inner ⊢
      have before := none_of init (by simpa using inner)
      cases x with
      | released => simp [Ending.is, before]
      | reported r =>
        simp only [concat_eq_append, filterMap_append, countP_append, before]
        cases holds : p r <;> simp [Ending.is, holds]

end

end Lawful

end Ledger

end Leases
