import CodestraMiddleware.ClickToCall.Origination

/-!
# The ceilings of the call policy

An activatable policy bounds the calls at once and the attempts by one. `Capacity` counts both, but
`originate_call` asks `authorize` without one, so nothing bounds the calls it dials.
-/
namespace CodestraMiddleware.ClickToCall

open Transition OriginateCall

variable (cfg : Config)

def OriginateCall.dialling? (x : OriginateCall) (w : World) : Option Agent :=
  match w.replay? (x.keyHash cfg) with
  | some _ => none
  | none =>
    match (x.rateLimit w).2 with
    | .error _ => none
    | .ok () =>
      match x.evaluate cfg with
      | .error _ => none
      | .ok (agent, decision) =>
        match x.adapter with
        | .unconfigured _ => none
        | _ => if decision = .allow then some agent else none

section Dialling

variable {cfg} {x : OriginateCall} {w : World}

theorem record_dialled (attempt : Attempt) : (record cfg x attempt w).1.dialled = w.dialled := by
  unfold record
  split
  · split
    next w' inserted => exact insert?_dialled inserted
    next => rfl
  · rfl

theorem originate_dialled (agent : Agent) : (x.originate agent w).1.dialled = w.dialled ++
    (match x.adapter with
      | .unconfigured _ => []
      | _ => [x.dial agent]) := by
  unfold originate
  cases x.adapter <;> simp

theorem rateLimit_dialled : (x.rateLimit w).1.dialled = w.dialled := by
  unfold rateLimit
  split <;> rfl

theorem originateCall_dialled : (originateCall cfg x w).1.dialled = w.dialled ++
    ((x.dialling? cfg w).map x.dial).toList := by
  unfold originateCall dialling?
  cases w.replay? (x.keyHash cfg) with
  | some prior => simp
  | none =>
    have limited := rateLimit_dialled (x := x) (w := w)
    cases outcome : x.rateLimit w with
    | mk w' limit =>
      rw [outcome] at limited
      cases limit with
      | error fault => simpa using limited
      | ok =>
        cases x.evaluate cfg with
        | error fault => simpa using limited
        | ok evaluated =>
          obtain ⟨agent, decision⟩ := evaluated
          simp only [settle]
          by_cases allowed : decision = .allow
          · have dialled := originate_dialled (x := x) (w := w') agent
            rw [if_pos allowed]
            cases called : x.originate agent w' with
            | mk w'' result =>
              rw [called, limited] at dialled
              cases result with
              | error fault =>
                rw [dialled]
                cases x.adapter <;> simp [allowed]
              | ok attempt =>
                rw [record_dialled, dialled]
                cases x.adapter <;> simp [allowed]
          · rw [if_neg allowed, record_dialled, limited]
            cases x.adapter <;> simp [allowed]

theorem evaluate_terms (policy : x.policy = .ok p)
    (evaluated : x.evaluate cfg = .ok (agent, decision)) :
    authorizeTerms cfg.python p (x.policyRequest agent) = .ok decision := by
  unfold evaluate at evaluated
  rw [policy] at evaluated
  split at evaluated
  · cases evaluated
  · split at evaluated
    · cases evaluated
    · split at evaluated
      · cases evaluated
      next assigned =>
        split at evaluated
        · cases evaluated
        · simp only at evaluated
          split at evaluated
          · cases evaluated
          next capacity authorized =>
            cases evaluated
            rw [← authorize_none, authorized]
            rfl

theorem dialling?_allowed (policy : x.policy = .ok p) (dials : x.dialling? cfg w = some agent) :
    authorizeTerms cfg.python p (x.policyRequest agent) = .ok .allow := by
  unfold dialling? at dials
  split at dials
  · cases dials
  · split at dials
    · cases dials
    · split at dials
      · cases dials
      next agent' decision evaluated =>
        split at dials
        · cases dials
        · split at dials
          next allowed =>
            cases dials
            rw [evaluate_terms policy evaluated, allowed]
          · cases dials

end Dialling

/-! ## Requests one after the other -/

/-- The database together with the calls that are up. -/
structure Line where
  world : World
  active : List String

inductive LineEvent where
  | originate (call : OriginateCall)
  | ended (callId : String)

section

variable (p : Policy)

def OriginateCall.under (x : OriginateCall) : OriginateCall := { x with policy := .ok p }

section

variable (line : Line)

def Line.step : LineEvent → Line
  | .originate call =>
    { world := (originateCall cfg (call.under p) line.world).1
      active := line.active ++ match (call.under p).dialling? cfg line.world, call.adapter with
        | some _, .accepts => [call.callId]
        | _, _ => [] }
  | .ended callId => { line with active := line.active.erase callId }

def lineSystem : System Line LineEvent where
  step := Line.step cfg p
  admits _ _ := True

def Line.start : Line := ⟨.empty, []⟩

def Line.capacity : Capacity := ⟨line.active.length, line.world.dialled.length⟩

/-- The calls dialled and the calls under way are within the policy's ceilings. -/
def WithinCeilings : Prop :=
  (line.world.dialled.length : Int) ≤ p.maxCallAttempts ∧
    (line.active.length : Int) ≤ p.maxConcurrentCalls

instance : Decidable (WithinCeilings p line) :=
  inferInstanceAs (Decidable (_ ∧ _))

/-- A request that comes to the adapter would be allowed with the capacity counted so far. -/
def WithinCapacity : LineEvent → Prop
  | .originate call => ∀ agent ∈ (call.under p).dialling? cfg line.world,
      (authorize cfg.python p (call.policyRequest agent) (some line.capacity)).map
      Prod.fst = .ok .allow
  | .ended _ => True

end

end

def Accounted (line : Line) : Prop := line.active.length ≤ line.world.dialled.length

section Steps

variable {cfg} {p : Policy} {line : Line}

variable (cfg p line) in
theorem originate_counts (call : OriginateCall) :
    let next := line.step cfg p (.originate call)
    match (call.under p).dialling? cfg line.world with
    | none => next.world.dialled.length = line.world.dialled.length ∧
        next.active.length = line.active.length
    | some _ => next.world.dialled.length = line.world.dialled.length + 1 ∧
        next.active.length ≤ line.active.length + 1 := by
  intro next
  have dialled : next.world.dialled = _ := originateCall_dialled
  have active : next.active = line.active ++ match (call.under p).dialling? cfg line.world,
      call.adapter with
      | some _, .accepts => [call.callId]
      | _, _ => [] := rfl
  rw [dialled, active]
  cases (call.under p).dialling? cfg line.world with
  | none => simp
  | some agent => cases call.adapter <;> simp

theorem accounted_step (event : LineEvent) (accounted : Accounted line) :
    Accounted (line.step cfg p event) := by
  unfold Accounted at accounted ⊢
  cases event with
  | ended callId =>
    have fewer := List.length_erase_le (a := callId) (l := line.active)
    exact fewer.trans accounted
  | originate call =>
    have counts := originate_counts cfg p line call
    cases dials : (call.under p).dialling? cfg line.world with
    | none | some agent =>
      simp only [dials] at counts
      omega

/-- A request that dials keeps the ceilings of an activatable policy exactly if it is the first. -/
theorem within_iff_capacity (activatable : p.validateForActivation = [])
    (accounted : Accounted line) (within : WithinCeilings p line) (event : LineEvent) :
    WithinCeilings p (line.step cfg p event) ↔ WithinCapacity cfg p line event := by
  obtain ⟨concurrent, attempts⟩ := p.ceilings_of_activatable activatable
  unfold Accounted at accounted
  simp only [WithinCeilings, concurrent, attempts] at within ⊢
  cases event with
  | ended callId =>
    have fewer := List.length_erase_le (a := callId) (l := line.active)
    simp only [WithinCapacity, Line.step, iff_true]
    omega
  | originate call =>
    have counts := originate_counts cfg p line call
    cases dials : (call.under p).dialling? cfg line.world with
    | none =>
      simp only [dials] at counts
      simp only [WithinCapacity, dials, Option.mem_def, reduceCtorEq, IsEmpty.forall_iff,
        implies_true, iff_true]
      omega
    | some agent =>
      simp only [dials] at counts
      have policy : (call.under p).policy = .ok p := rfl
      have allowed := dialling?_allowed policy dials
      change authorizeTerms cfg.python p (call.policyRequest agent) = .ok .allow at allowed
      -- The terms are met, so that a capacity would decide alone.
      have reserve : (authorize cfg.python p (call.policyRequest agent)
          (some line.capacity)).map Prod.fst = .ok .allow ↔ line.world.dialled.length = 0 := by
        rw [authorize_some_allow]
        simp only [allowed, true_and, Capacity.reserve, Line.capacity, concurrent, attempts]
        split
        next full =>
          simp only [Option.isSome_none, Bool.false_eq_true, false_iff]
          omega
        next free =>
          simp only [Option.isSome_some, true_iff]
          omega
      simp only [WithinCapacity, dials, Option.mem_def, Option.some.injEq, forall_eq']
      rw [reserve]
      omega

end Steps

/-- The calls that are dialled for requests against an activatable policy stay within its ceilings
exactly as long as each of them would have been allowed with a capacity. -/
theorem ceilings_kept_iff {p : Policy} (activatable : p.validateForActivation = [])
    (events : List LineEvent) : (lineSystem cfg p).Always (WithinCeilings p) Line.start events ↔
      (lineSystem cfg p).Along (WithinCapacity cfg p) Line.start events := by
  have stable : (lineSystem cfg p).Stable Accounted := fun _ event _ => accounted_step event
  have start : Accounted Line.start := Nat.le_refl 0
  have within : WithinCeilings p Line.start := by
    obtain ⟨concurrent, attempts⟩ := p.ceilings_of_activatable activatable
    simp [WithinCeilings, Line.start, World.empty, concurrent, attempts]
  apply stable.always_iff _ start within (System.along_of_forall (fun _ _ => trivial) _ _)
  intro line event _ accounted within
  exact within_iff_capacity activatable accounted within event

namespace Sample

def requests : List LineEvent := [.originate (call "call-1" "originate-sample-key-0001" 42),
  .originate (call "call-2" "originate-sample-key-0002" 43)]

end Sample

open Sample

/-- The first request under an activatable policy is one that a capacity allows. -/
theorem ceilings_kept_first : policy.validateForActivation = [] ∧
    (lineSystem config policy).Always (WithinCeilings policy) Line.start (requests.take 1) := by
  refine ⟨by decide, (ceilings_kept_iff config (by decide) _).mpr ⟨?_, trivial⟩⟩
  intro agent dials
  have found : some (⟨"7410", "agent.syn", "COD"⟩ : Agent) = some agent := dials
  cases found
  rfl

/-- The second request is dialled while the first call is under way. -/
theorem ceilings_exceeded : policy.validateForActivation = [] ∧
    ¬ (lineSystem config policy).Always (WithinCeilings policy) Line.start requests := by
  refine ⟨by decide, fun always => ?_⟩
  exact absurd always.last (by decide +kernel)

end CodestraMiddleware.ClickToCall
