import Mathlib.Data.List.Pairwise

/-!
# Tables under several unique constraints

Two rows clash when one of the unique constraints forbids them to stand together. A table is a list
of rows, in insertion order, no two of which clash.
-/
namespace Relational

open List Option

/-- Rows of which no two clash: a table with any number of unique constraints. -/
structure Constrained {ρ : Type} (clash : ρ → ρ → Prop) where
  rows : List ρ
  apart : rows.Pairwise fun r r' => ¬ clash r r'

namespace Constrained

variable {ρ : Type} {clash : ρ → ρ → Prop}

def empty (clash : ρ → ρ → Prop) : Constrained clash := ⟨[], Pairwise.nil⟩

/-- `SELECT ... LIMIT 1`. -/
def find? (t : Constrained clash) (p : ρ → Bool) : Option ρ := t.rows.find? p

section

variable (t : Constrained clash)

section

variable (f : ρ → ρ) (keeps : ∀ r r', clash (f r) (f r') → clash r r')

/-- `UPDATE`: rewrite every row; the statement's `WHERE` clause is part of `f`. -/
def update : Constrained clash where
  rows := t.rows.map f
  apart := by
    rw [pairwise_map]
    exact t.apart.imp fun apart clashes => apart (keeps _ _ clashes)

/-- `UPDATE` of columns that a constraint looks at, refused when rows would clash. -/
def update? [DecidableRel clash] (t : Constrained clash) (f : ρ → ρ) : Option (Constrained clash) :=
  if apart : (t.rows.map f).Pairwise fun r r' => ¬ clash r r' then some ⟨t.rows.map f, apart⟩
    else none

/-- `INSERT`, refused on a clash. -/
def insert? [DecidableRel clash] (t : Constrained clash) (r : ρ) : Option (Constrained clash) :=
  if taken : ∃ old ∈ t.rows, clash old r then none
  else some {
    rows := t.rows ++ [r]
    apart := by
      rw [pairwise_append]
      refine ⟨t.apart, pairwise_singleton _ _, ?_⟩
      intro old member new single clashes
      rw [mem_singleton.mp single] at clashes
      exact taken ⟨old, member, clashes⟩ }

/-- Several rows in one transaction: all of them are inserted or none. -/
def insertAll? [DecidableRel clash] (t : Constrained clash) : List ρ → Option (Constrained clash)
  | [] => some t
  | r :: rs => (t.insert? r).bind fun t' => t'.insertAll? rs

@[simp] theorem rows_update : (t.update f keeps).rows = t.rows.map f :=
  rfl

end

@[simp] theorem update_id (keeps) : t.update (fun r => r) keeps = t := by
  simp [update]

theorem eq_of_clash (symm : ∀ r r', clash r r' → clash r' r) (member : r ∈ t.rows)
    (member' : r' ∈ t.rows) (clashes : clash r r') : r = r' := by
  by_contra differ
  have : Std.Symm fun r r' => ¬ clash r r' := ⟨fun a b apart back => apart (symm b a back)⟩
  exact t.apart.forall member member' differ clashes

theorem find?_eq_some_iff (symm : ∀ r r', clash r r' → clash r' r)
    (unique : ∀ r r', p r = true → p r' = true → clash r r') (r : ρ) : t.find? p = some r ↔
    r ∈ t.rows ∧ p r = true := by
  constructor
  · intro found
    exact ⟨mem_of_find?_eq_some found, find?_some found⟩
  · rintro ⟨member, holds⟩
    cases found : t.find? p with
    | none => exact absurd holds (by simpa using find?_eq_none.mp found r member)
    | some r' =>
      have holds' := find?_some found
      rw [t.eq_of_clash symm (mem_of_find?_eq_some found) member (unique r' r holds' holds)]

theorem find?_mem {t : Constrained clash} (found : t.find? p = some r) : r ∈ t.rows ∧ p r = true :=
  ⟨mem_of_find?_eq_some found, find?_some found⟩

theorem find?_eq_none_iff (p : ρ → Bool) : t.find? p = none ↔ ∀ r ∈ t.rows, p r = false := by
  simp [find?, find?_eq_none]

/-- The rows that have a unique value are the one that a lookup finds. -/
theorem filter_eq_find? (unique : ∀ r r', p r = true → p r' = true → clash r r') :
    t.rows.filter p = (t.find? p).toList := by
  obtain ⟨rows, apart⟩ := t
  unfold find?
  induction rows with
  | nil => rfl
  | cons r rows ih =>
    obtain ⟨first, rest⟩ := pairwise_cons.mp apart
    cases holds : p r with
    | false =>
      rw [filter_cons_of_neg (by simp [holds]), find?_cons_of_neg (by simp [holds])]
      exact ih rest
    | true =>
      rw [filter_cons_of_pos holds, find?_cons_of_pos holds]
      have none_left : rows.filter p = [] := by
        rw [filter_eq_nil_iff]
        exact fun r' member holds' => first r' member (unique r r' holds holds')
      rw [none_left]
      rfl

end

variable {f : ρ → ρ}

theorem find?_of_map {t t' : Constrained clash} (mapped : t'.rows = t.rows.map f)
    (same : ∀ r, p (f r) = p r) : t'.find? p = (t.find? p).map f := by
  rw [find?, find?, mapped, find?_map]
  congr 2
  funext r
  exact same r

theorem fewer_qualify {rows : List ρ} (only : ∀ r ∈ rows, p (f r) = true → p r = true)
    (member : r ∈ rows) (before : p r = true) (after : p (f r) = false) :
    (rows.map f).countP p < rows.countP p := by
  induction rows with
  | nil => cases member
  | cons first rows ih =>
    obtain ⟨here, later⟩ := forall_mem_cons.mp only
    have fewer : (rows.map f).countP p ≤ rows.countP p := by
      rw [countP_map]
      exact countP_mono_left later
    rw [map_cons, countP_cons, countP_cons]
    rcases mem_cons.mp member with rfl | rest
    · rw [before, after]
      simpa using Nat.lt_succ_of_le fewer
    · have strictly := ih later rest
      have head : (if p (f first) = true then 1 else 0) ≤ if p first = true then 1 else 0 := by
        split
        next holds => exact Nat.le_of_eq (if_pos (here holds)).symm
        next => exact Nat.zero_le _
      omega

/-! ## Rows that stay -/

/-- Every row of `t` is in `t'`, up to what `key` forgets. -/
def Keeps {α : Type} (key : ρ → α) (t t' : Constrained clash) : Prop :=
  ∀ r ∈ t.rows, ∃ r' ∈ t'.rows, key r' = key r

section Keeps

variable {α : Type} {key : ρ → α} {t t' t'' : Constrained clash}

theorem Keeps.refl (t : Constrained clash) : Keeps key t t := fun r member => ⟨r, member, rfl⟩

theorem Keeps.trans (first : Keeps key t t') (second : Keeps key t' t'') : Keeps key t t'' := by
  intro r member
  obtain ⟨r', member', same⟩ := first r member
  obtain ⟨r'', member'', same'⟩ := second r' member'
  exact ⟨r'', member'', same'.trans same⟩

theorem Keeps.of_map (mapped : t'.rows = t.rows.map f) (same : ∀ r, key (f r) = key r) :
    Keeps key t t' := by
  intro r member
  refine ⟨f r, ?_, same r⟩
  rw [mapped]
  exact mem_map_of_mem member

theorem Keeps.of_append (appended : t'.rows = t.rows ++ [r]) : Keeps key t t' := by
  intro old member
  refine ⟨old, ?_, rfl⟩
  rw [appended]
  exact mem_append_left _ member

end Keeps

variable [DecidableRel clash] {t t' : Constrained clash} {r : ρ}

theorem rows_update? (updated : t.update? f = some t') : t'.rows = t.rows.map f := by
  unfold update? at updated
  split at updated
  · cases updated
    rfl
  · cases updated

section

variable (inserted : t.insert? r = some t')

include inserted

theorem rows_insert? : t'.rows = t.rows ++ [r] := by
  unfold insert? at inserted
  split at inserted
  · cases inserted
  · cases inserted
    rfl

theorem mem_insert? : row ∈ t'.rows ↔ row ∈ t.rows ∨ row = r := by
  rw [rows_insert? inserted, mem_append, mem_singleton]

theorem insert?_apart : ∀ old ∈ t.rows, ¬ clash old r := by
  intro old member clashes
  rw [insert?, dif_pos ⟨old, member, clashes⟩] at inserted
  cases inserted

end

section Lookup

variable {p : ρ → Bool} (unique : ∀ r r', p r = true → p r' = true → clash r r')

include unique

theorem insert?_fresh (inserted : t.insert? r = some t') (holds : p r = true) :
    t.find? p = none := by
  rw [find?_eq_none_iff]
  intro old member
  by_contra found
  exact insert?_apart inserted old member (unique old r (by simpa using found) holds)

theorem find?_insert? (inserted : t.insert? r = some t') : t'.find? p = if p r = true then some r
    else t.find? p := by
  have fresh := insert?_fresh unique inserted
  simp only [find?] at fresh ⊢
  rw [rows_insert? inserted, find?_append]
  split
  next holds => simp [fresh holds, holds]
  next other => simp [other]

end Lookup

theorem insert?_isSome (apart : ∀ old ∈ t.rows, ¬ clash old r) : (t.insert? r).isSome := by
  rw [insert?, dif_neg]
  · rfl
  · rintro ⟨old, member, clashes⟩
    exact apart old member clashes

theorem insert?_isSome_iff : (t.insert? r).isSome ↔ ∀ old ∈ t.rows, ¬ clash old r := by
  constructor
  · intro inserted
    obtain ⟨t', inserted⟩ := isSome_iff_exists.mp inserted
    exact insert?_apart inserted
  · exact insert?_isSome

/-! ## Several rows -/

theorem rows_insertAll? (inserted : t.insertAll? rs = some t') : t'.rows = t.rows ++ rs := by
  induction rs generalizing t with
  | nil =>
    cases inserted
    simp
  | cons r rs ih =>
    obtain ⟨_, first, rest⟩ := bind_eq_some_iff.mp inserted
    rw [ih rest, rows_insert? first, append_assoc]
    rfl

/-- Rows that clash neither with those that are there nor with one another are inserted together. -/
theorem insertAll?_isSome_iff : (t.insertAll? rs).isSome ↔
      (∀ r ∈ rs, ∀ old ∈ t.rows, ¬ clash old r) ∧ rs.Pairwise fun r r' => ¬ clash r r' := by
  induction rs generalizing t with
  | nil => simp [insertAll?]
  | cons r rs ih =>
    rw [forall_mem_cons, pairwise_cons, insertAll?]
    cases first : t.insert? r with
    | none =>
      have refused : ¬ ∀ old ∈ t.rows, ¬ clash old r := by
        rw [← insert?_isSome_iff, first]
        simp
      simp only [bind_none, isSome_none, Bool.false_eq_true, false_iff]
      exact fun holds => refused holds.1.1
    | some next =>
      have apart := insert?_apart first
      rw [bind_some, ih]
      constructor
      · rintro ⟨later, distinct⟩
        refine ⟨⟨apart, fun r' member old row => later r' member old ?_⟩,
          fun r' member => ?_, distinct⟩
        · exact (mem_insert? first).mpr (.inl row)
        · exact later r' member r ((mem_insert? first).mpr (.inr rfl))
      · rintro ⟨⟨-, later⟩, here, distinct⟩
        refine ⟨fun r' member old row => ?_, distinct⟩
        rcases (mem_insert? first).mp row with row | rfl
        · exact later r' member old row
        · exact here r' member

/-! ## Two unique keys -/

/-- Rows that agree in the first or in the second of their keys. -/
def Shares {α β : Type} (keys : ρ → α × β) (r r' : ρ) : Prop :=
  (keys r).1 = (keys r').1 ∨ (keys r).2 = (keys r').2

instance {α β : Type} [DecidableEq α] [DecidableEq β] (keys : ρ → α × β) :
    DecidableRel (Shares keys) :=
  fun _ _ => inferInstanceAs (Decidable (_ ∨ _))

section Shares

variable {α β : Type} {keys : ρ → α × β}

theorem shares_symm (r r' : ρ) (shares : Shares keys r r') : Shares keys r' r :=
  shares.imp Eq.symm Eq.symm

/-- `UPDATE ... WHERE` that leaves both keys alone. -/
def updateWhere (t : Constrained (Shares keys)) (qualifies : ρ → Bool) (set : ρ → ρ)
    (keeps : ∀ r, qualifies r = true → keys (set r) = keys r) : Constrained (Shares keys) :=
  t.update (fun r => if qualifies r then set r else r) (by
    have same (r : ρ) : keys (if qualifies r then set r else r) = keys r := by
      split
      next holds => exact keeps r holds
      next => rfl
    intro r r' shares
    simpa only [Shares, same] using shares)

variable [DecidableEq α]

/-- By the first of the two keys. -/
def lookup (t : Constrained (Shares keys)) (a : α) : Option ρ :=
  t.find? fun r => decide ((keys r).1 = a)

variable {t : Constrained (Shares keys)}

theorem lookup_eq_some_iff : t.lookup a = some r ↔ r ∈ t.rows ∧ (keys r).1 = a := by
  rw [lookup, t.find?_eq_some_iff shares_symm, decide_eq_true_eq]
  intro r r' first second
  rw [decide_eq_true_eq] at first second
  exact .inl (first.trans second.symm)

theorem lookup_eq_none_iff : t.lookup a = none ↔ ∀ r ∈ t.rows, (keys r).1 ≠ a := by
  simp [lookup, find?_eq_none_iff]

theorem lookup_of_mem (member : r ∈ t.rows) : t.lookup (keys r).1 = some r :=
  lookup_eq_some_iff.mpr ⟨member, rfl⟩

@[simp] theorem lookup_updateWhere (t : Constrained (Shares keys)) (qualifies : ρ → Bool)
    (set : ρ → ρ)
    (keeps : ∀ r, qualifies r = true → keys (set r) = keys r) (a : α) :
    (t.updateWhere qualifies set keeps).lookup a =
      (t.lookup a).map fun r => if qualifies r then set r else r := by
  refine find?_of_map (rows_update _ _ _) fun r => ?_
  split
  next holds => rw [keeps r holds]
  next => rfl

variable [DecidableEq β]

/-- The row that has the keys of `r` becomes `r`. -/
def save (t : Constrained (Shares keys)) (r : ρ) : Constrained (Shares keys) :=
  t.updateWhere (fun old => decide (keys old = keys r)) (fun _ => r)
    (fun _ same => (of_decide_eq_true same).symm)

theorem lookup_save {t : Constrained (Shares keys)} (stored : t.lookup (keys r).1 = some old)
    (same : keys r = keys old) (a : α) : (t.save r).lookup a = if (keys r).1 = a then some r
    else t.lookup a := by
  rw [save, lookup_updateWhere]
  split
  next here =>
    subst here
    rw [stored, map_some, if_pos (decide_eq_true same.symm)]
  next elsewhere =>
    cases found : t.lookup a with
    | none => rfl
    | some other =>
      have key : (keys other).1 = a := (lookup_eq_some_iff.mp found).2
      have differ : keys other ≠ keys r := by
        intro equal
        exact elsewhere (by rw [← equal, key])
      simp [differ]

theorem lookup_insert? {t t' : Constrained (Shares keys)}
    (inserted : t.insert? r = some t') (a : α) :
    t'.lookup a = if (keys r).1 = a then some r else t.lookup a := by
  have found := find?_insert? (p := fun r => decide ((keys r).1 = a)) (by
    intro r r' first second
    rw [decide_eq_true_eq] at first second
    exact .inl (first.trans second.symm)) inserted
  simpa only [lookup, decide_eq_true_eq] using found

end Shares

end Constrained

end Relational
