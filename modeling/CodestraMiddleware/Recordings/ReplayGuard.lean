import Mathlib.Data.List.Basic

/-!
# The replay guard of the exporter

`ReplayGuard` of `recording/security.py`. A nonce is remembered from its arrival on, while its
timestamp may be as far ahead of the clock as behind it.
-/
namespace CodestraMiddleware.Recordings

open List

structure Presented where
  nonce : String
  (timestamp now : Int)

variable (sha256 : String → String) (ttlSeconds : Int)

/-- `seen` are the fingerprints that are remembered, and until when. -/
def consume (seen : List (String × Int)) (c : Presented) : List (String × Int) ×
    Except String Unit :=
  if c.nonce = "" ∨ ttlSeconds < (c.now - c.timestamp).natAbs then
    (seen, .error "stale or missing replay binding")
  else
    let seen := seen.filter fun entry => decide (c.now < entry.2)
    if sha256 c.nonce ∈ seen.map (·.1) then (seen, .error "request replay rejected")
    else (seen ++ [(sha256 c.nonce, c.now + ttlSeconds)], .ok ())

/-- The presentations that the guard accepts. -/
def consumed (seen : List (String × Int)) : List Presented → List Presented
  | [] => []
  | c :: cs =>
    match consume sha256 ttlSeconds seen c with
    | (seen, .ok _) => c :: consumed seen cs
    | (seen, .error _) => consumed seen cs

variable {sha256 ttlSeconds}

/-- What is forgotten has expired. -/
theorem consume_lapsed (consumes : consume sha256 ttlSeconds seen c = (seen', result))
    (later : c.now ≤ now)
    (lapsed : ∀ t, (key, t) ∈ seen' → t ≤ now) : ∀ t, (key, t) ∈ seen → t ≤ now := by
  intro t known
  by_contra running
  have kept : (key, t) ∈ (consume sha256 ttlSeconds seen c).1 := by
    unfold consume
    split
    · exact known
    · dsimp only
      split <;> simp [known, show c.now < t by omega]
  rw [consumes] at kept
  exact running (lapsed t kept)

theorem consume_ok (ok : consume sha256 ttlSeconds seen c = (seen', .ok done)) :
    c.now - c.timestamp ≤ ttlSeconds ∧
    (sha256 c.nonce, c.now + ttlSeconds) ∈ seen' ∧ ∀ t, (sha256 c.nonce, t) ∈ seen → t ≤ c.now := by
  unfold consume at ok
  split at ok
  · cases ok
  · dsimp only at ok
    split at ok
    · cases ok
    next unseen =>
      cases ok
      refine ⟨by omega, by simp, fun t known => ?_⟩
      by_contra running
      exact unseen (mem_map.mpr ⟨_, mem_filter.mpr ⟨known, by simpa using running⟩, rfl⟩)

theorem consumed_apart (ordered : cs.Pairwise fun a b => a.now ≤ b.now) :
    (∀ b ∈ consumed sha256 ttlSeconds seen cs, b ∈ cs ∧ b.now - b.timestamp ≤ ttlSeconds ∧
      ∀ t, (sha256 b.nonce, t) ∈ seen → t ≤ b.now) ∧
    (consumed sha256 ttlSeconds seen cs).Pairwise fun a b => a.nonce = b.nonce →
    a.now + ttlSeconds ≤ b.now := by
  fun_induction consumed sha256 ttlSeconds seen cs with
  | case1 => simp
  | case2 seen c cs seen' _ ok ih =>
    obtain ⟨first, rest⟩ := pairwise_cons.mp ordered
    obtain ⟨after, apart⟩ := ih rest
    obtain ⟨inside, stored, fresh⟩ := consume_ok ok
    refine ⟨forall_mem_cons.mpr ⟨⟨mem_cons_self, inside, fresh⟩, fun b member => ?_⟩,
      pairwise_cons.mpr ⟨?_, apart⟩⟩
    · obtain ⟨listed, inside, lapsed⟩ := after b member
      exact ⟨mem_cons_of_mem c listed, inside, consume_lapsed ok (first b listed) lapsed⟩
    · intro b member same
      exact (after b member).2.2 _ (same ▸ stored)
  | case3 seen c cs seen' _ refused ih =>
    obtain ⟨first, rest⟩ := pairwise_cons.mp ordered
    obtain ⟨after, apart⟩ := ih rest
    refine ⟨fun b member => ?_, apart⟩
    obtain ⟨listed, inside, lapsed⟩ := after b member
    exact ⟨mem_cons_of_mem c listed, inside, consume_lapsed refused (first b listed) lapsed⟩

/-- No nonce is accepted twice with one timestamp when all timestamps are behind the clock. -/
theorem consumed_once (ordered : cs.Pairwise fun a b => a.now ≤ b.now)
    (behind : ∀ c ∈ cs, c.timestamp < c.now) :
    (consumed sha256 ttlSeconds [] cs).Pairwise fun a b =>
    (a.nonce, a.timestamp) ≠ (b.nonce, b.timestamp) := by
  obtain ⟨all, apart⟩ := @consumed_apart sha256 ttlSeconds [] cs ordered
  refine apart.imp_of_mem fun {a b} member member' late same => ?_
  obtain ⟨nonce, timestamp⟩ := Prod.mk.inj same
  have := late nonce
  have := behind a (all a member).1
  have := (all b member').2.1
  omega

theorem repeated_once : (consumed id 300 [] [⟨"n", 99, 100⟩, ⟨"n", 99, 399⟩]).Pairwise fun a b =>
    (a.nonce, a.timestamp) ≠ (b.nonce, b.timestamp) :=
  consumed_once (by simp) (by simp)

/-- A timestamp of the arrival itself is still good when the nonce is forgotten. -/
theorem forgotten_nonce : consumed id 300 []
    [⟨"n", 100, 100⟩, ⟨"n", 100, 400⟩] = [⟨"n", 100, 100⟩, ⟨"n", 100, 400⟩] :=
  rfl

end CodestraMiddleware.Recordings
