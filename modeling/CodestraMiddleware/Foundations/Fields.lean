import Mathlib.Algebra.Group.Nat.Defs
import Mathlib.Data.List.Basic

/-!
# Texts made of fields

A text that writes several values one after another determines them when each field has a fixed
width or ends in a character that it does not contain. Signed texts are fields joined by newlines.
-/
namespace Fields

open List Nat

theorem delimited_inj [DecidableEq α] {d : α} {field field' rest rest' : List α}
    (free : d ∉ field) (free' : d ∉ field') (same : field ++ d :: rest = field' ++ d :: rest') :
    field = field' ∧ rest = rest' := by
  have taken : ∀ field rest : List α, d ∉ field →
      (field ++ d :: rest).takeWhile (fun c => decide (c ≠ d)) = field := by
    intro field rest free
    rw [takeWhile_append_of_pos]
    · simp
    · intro c member
      exact decide_eq_true fun equal => free (equal ▸ member)
  have fields : field = field' := by rw [← taken field rest free, same, taken field' rest' free']
  subst fields
  exact ⟨rfl, (cons.inj (append_cancel_left same)).2⟩

theorem not_mem_part [DecidableEq α] {d : α} {text part : List α} (member : part ∈ text.splitOn d) :
    d ∉ part := by
  induction text generalizing part with
  | nil =>
    rw [splitOn_nil, mem_singleton] at member
    simp [member]
  | cons c text ih =>
    rw [splitOn_cons_eq_if_modifyHead] at member
    split at member
    · rcases mem_cons.mp member with rfl | later
      · exact not_mem_nil
      · exact ih later
    next other =>
      -- The character goes to the first part, which is there.
      cases parts : text.splitOn d with
      | nil => exact absurd parts (splitOn_ne_nil d text)
      | cons first rest =>
        rw [parts] at member ih
        rcases mem_cons.mp member with rfl | later
        · intro inside
          rcases mem_cons.mp inside with rfl | before
          · exact other (beq_self_eq_true d)
          · exact ih mem_cons_self before
        · exact ih (mem_cons_of_mem first later)

theorem not_mem_decimal (other : d.isDigit = false) (n : Nat) : d ∉ (toString n).toList := by
  intro member
  have digit : d.isDigit = true := by
    apply isDigit_of_mem_toDigits (b := 10) (n := n) (by decide) (by decide)
    simpa using member
  rw [other] at digit
  cases digit

theorem decimal_injective {n : Nat} (same : (toString n).toList = (toString m).toList) : n = m := by
  have digits : toDigits 10 n = toDigits 10 m := by simpa using same
  rw [← ofDigitChars_ten_toDigits (n := n), digits, ofDigitChars_ten_toDigits]

theorem int_injective {n m : Int} (same : (toString n).toList = (toString m).toList) : n = m := by
  have unsigned {k : Nat} {rest : List Char} : '-' :: rest ≠ k.repr.toList := fun equal =>
    not_mem_decimal rfl k (equal ▸ mem_cons_self)
  simp only [Int.toString_eq_repr, Int.repr_eq_if, apply_ite String.toList, String.toList_append,
    show "-".toList = ['-'] from rfl, singleton_append] at same
  split at same <;> split at same
  · have size := decimal_injective same
    omega
  · exact absurd same.symm unsigned
  · exact absurd same unsigned
  · have size := decimal_injective (cons.inj same).2
    omega

theorem eq_of_digits {b : Nat} (small : n < b ^ k) (small' : m < b ^ k)
    (same : ∀ i < k, n / b ^ i % b = m / b ^ i % b) : n = m := by
  induction k generalizing n m with
  | zero =>
    rw [Nat.pow_zero, Nat.lt_one_iff] at small small'
    rw [small, small']
  | succ k ih =>
    have quotient : n / b = m / b := by
      refine ih ?_ ?_ fun i place => ?_
      · exact Nat.div_lt_of_lt_mul (by rwa [Nat.pow_succ, Nat.mul_comm] at small)
      · exact Nat.div_lt_of_lt_mul (by rwa [Nat.pow_succ, Nat.mul_comm] at small')
      · have next := same (i + 1) (Nat.succ_lt_succ place)
        rwa [Nat.pow_succ, Nat.mul_comm, ← Nat.div_div_eq_div_mul, ← Nat.div_div_eq_div_mul] at next
    have remainder : n % b = m % b := by simpa using same 0 (Nat.succ_pos k)
    rw [← Nat.div_add_mod n b, quotient, remainder, Nat.div_add_mod]

theorem digitChar_injective (small : a < 16) (small' : b < 16)
    (same : digitChar a = digitChar b) : a = b := by
  have all : ∀ a < 16, ∀ b < 16, digitChar a = digitChar b → a = b := by decide
  exact all a small b small' same

end Fields

namespace Lines

theorem join_injective (nonempty : lines ≠ []) (nonempty' : lines' ≠ [])
    (single : ∀ line ∈ lines, '\n' ∉ line.toList) (single' : ∀ line ∈ lines', '\n' ∉ line.toList)
    (same : "\n".intercalate lines = "\n".intercalate lines') : lines = lines' := by
  have split : ∀ lines : List String, lines ≠ [] → (∀ line ∈ lines, '\n' ∉ line.toList) →
      ("\n".intercalate lines).toList.splitOn '\n' = lines.map String.toList := by
    intro lines nonempty single
    rw [String.toList_intercalate]
    exact List.splitOn_intercalate _ (List.forall_mem_map.mpr single) (by simpa using nonempty)
  have lists := (split lines nonempty single).symm.trans
    ((congrArg (fun text : String => text.toList.splitOn '\n') same).trans
      (split lines' nonempty' single'))
  exact List.map_injective_iff.mpr (fun _ _ => String.toList_injective) lists

theorem all_join (newline : p '\n' = true) (lines : List String) :
    ("\n".intercalate lines).toList.all p = lines.all fun line => line.toList.all p := by
  rw [String.toList_intercalate]
  induction lines with
  | nil => rfl
  | cons line lines ih =>
    cases lines with
    | nil => simp
    | cons =>
      rw [List.map_cons] at ih
      rw [List.map_cons, List.map_cons, List.intercalate_cons_cons, List.all_append,
        List.all_append, ih]
      simp [newline]

end Lines
