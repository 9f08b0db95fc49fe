import CodestraMiddleware.Foundations.Run

/-!
# The admission slot of speech streams

`stream_speech` of `api/v1/tts.py` from `Admission.acquire` on. Cancellations of the job and
recovered leases show only in the results of the awaited calls.
-/
namespace CodestraMiddleware.Tts

open Transition Function

/-- What is awaited next. -/
inductive Stage where
  | claimExact | audit | provider | markProviderStarted | firstChunk | closeFailed | recordChunk
  -- The response is with the server, which has not asked for its body yet.
  | response
  | audio | closeAudio
  deriving DecidableEq

inductive Result where
  | ok
  -- No row was claimed; the stream ended, or raised `TTSError`.
  | ended
  | exception
  -- `CancelledError` is no `Exception`; a body that nobody asks for ends like that, too.
  | cancelled
  deriving DecidableEq

inductive Next where
  | stage (s : Stage)
  | release
  -- The exception leaves the handler, and `release` is not called.
  | leave
  deriving DecidableEq

def Stage.next : Stage → Result → Next
  | claimExact, .ok => .stage audit
  | claimExact, .ended => .release
  | audit, .ok => .stage provider
  | audit, .ended | audit, .exception => .release
  | provider, .ok => .stage markProviderStarted
  | markProviderStarted, .ok => .stage firstChunk
  | firstChunk, .ok => .stage recordChunk
  | firstChunk, .ended => .stage closeFailed
  | recordChunk, .ok => .stage response
  | response, .ok => .stage audio
  -- A chunk was sent; whatever else happens, `finally` is next.
  | audio, .ok => .stage audio
  | audio, _ => .stage closeAudio
  | closeFailed, .ok | closeAudio, .ok => .release
  | _, _ => .leave

inductive Slot where
  | acquired (request : Nat)
  | released (request : Nat)
  deriving DecidableEq

/-- The lock, and where each request is. -/
structure Slots where
  locked : Bool
  stages : Nat → Option Stage
  -- What happened to the lock, the last first.
  log : List Slot

def Slots.initial : Slots := ⟨false, fun _ => none, []⟩

inductive Request where
  | acquire (request : Nat)
  | resume (request : Nat) (result : Result)

/-- `acquire` raises `tts_capacity_exhausted` while the lock is held; `release`
frees it, whoever holds it. -/
def Slots.step (s : Slots) : Request → Slots
  | .acquire r => if s.locked then s else ⟨true, update s.stages r (some .claimExact),
      .acquired r :: s.log⟩
  | .resume r result =>
    match s.stages r with
    | none => s
    | some stage =>
      match stage.next result with
      | .stage next => { s with stages := update s.stages r (some next) }
      | .release => ⟨false, update s.stages r none,
          if s.locked then .released r :: s.log else s.log⟩
      | .leave => { s with stages := update s.stages r none }

def admission : System Slots Request where
  step := Slots.step
  admits s
    | .acquire r => .acquired r ∉ s.log
    | .resume .. => True

/-- The results of an awaited call after which the handler goes on or comes to `release`. -/
def Stage.Handles : Stage → Result → Prop
  -- A claim that finds no row, and a stream that ends at once or raises `TTSError`.
  | claimExact, result | firstChunk, result => result = .ok ∨ result = .ended
  -- `except Exception`.
  | audit, result => result ≠ .cancelled
  | audio, _ => True
  | provider, result | markProviderStarted, result | recordChunk, result | response, result
  | closeFailed, result | closeAudio, result => result = .ok

/-- No exception leaves the handler past `release`. -/
def Guarded (s : Slots) : Request → Prop
  | .acquire _ => True
  | .resume r result => ∀ stage, s.stages r = some stage → stage.Handles result

/-- Every request that acquired the lock has released it, once, before the next one acquired it. -/
inductive Paired : List Slot → Prop where
  | nil : Paired []
  | pair {log r} (rest : Paired log) (new : .acquired r ∉ log) :
      Paired (.released r :: .acquired r :: log)

/-- The lock is free and no request is in progress, or the one in progress holds the lock. -/
def Returned (s : Slots) : Prop :=
  s.locked = false ∧ (∀ r, s.stages r = none) ∧ Paired s.log ∨
    ∃ r log, s.locked = true ∧ (∀ r', (s.stages r').isSome ↔ r' = r) ∧ s.log = .acquired r :: log ∧
      Paired log ∧ .acquired r ∉ log

theorem next_eq_leave_iff (stage : Stage) (result : Result) : stage.next result = .leave ↔
    ¬ stage.Handles result := by
  cases stage <;> cases result <;> simp [Stage.next, Stage.Handles]

theorem Returned.step (admitted : admission.admits s e) (guarded : Guarded s e)
    (returned : Returned s) : Returned (s.step e) := by
  cases e with
  | acquire r =>
    rcases returned with ⟨free, idle, paired⟩ | held
    · refine .inr ⟨r, s.log, ?_⟩
      simp only [Slots.step, free]
      refine ⟨rfl, fun r' => ?_, rfl, paired, admitted⟩
      by_cases same : r' = r <;> simp [same, idle]
    · have ⟨_, _, locked, _⟩ := held
      rw [Slots.step, if_pos locked]
      exact .inr held
  | resume r result =>
    simp only [Slots.step]
    split
    · exact returned
    next stage at_ =>
      -- A request in progress is the one that holds the lock.
      rcases returned with ⟨-, idle, -⟩ | ⟨own, log, locked, only, logged, paired, new⟩
      · cases at_.symm.trans (idle r)
      obtain rfl : r = own := (only r).mp (by simp [at_])
      split
      next next _ =>
        refine .inr ⟨r, log, locked, fun r' => ?_, logged, paired, new⟩
        simp only [update_apply]
        split
        next same => simp [same]
        next => exact only r'
      next =>
        refine .inl ⟨rfl, fun r' => ?_, ?_⟩
        · simp only [update_apply]
          split
          next => rfl
          next other => exact Option.not_isSome_iff_eq_none.mp fun busy => other ((only r').mp busy)
        · simp only [locked, logged, if_true]
          exact .pair paired new
      next left => exact absurd (guarded stage at_) ((next_eq_leave_iff stage result).mp left)

/-- A request that leaves keeps the lock, and nobody is left to give it back. -/
theorem Returned.guarded (returned : Returned s) (after : Returned (s.step e)) : Guarded s e := by
  cases e with
  | acquire => trivial
  | resume r result =>
    intro stage at_
    by_contra unhandled
    rcases returned with ⟨-, idle, -⟩ | ⟨own, log, locked, only, -⟩
    · cases at_.symm.trans (idle r)
    obtain rfl : r = own := (only r).mp (by simp [at_])
    simp only [Slots.step, at_, (next_eq_leave_iff stage result).mpr unhandled] at after
    rcases after with ⟨free, -⟩ | ⟨own, -, -, busy, -⟩
    · cases locked.symm.trans free
    · have there := (busy own).mpr rfl
      by_cases same : own = r
      · simp [same] at there
      · simp only [update_of_ne same] at there
        exact same ((only own).mp there)

/-- Every request gives the slot back, once and for itself, exactly while no exception escapes past
`release`. -/
theorem slot_returned_iff (es : List Request) (run : admission.Run .initial es) :
    admission.Always Returned .initial es ↔ admission.Along Guarded .initial es :=
  System.Stable.always_iff (I := fun _ => True) (fun _ _ _ _ => trivial)
    (fun _ _ admitted _ returned => ⟨returned.guarded,
      fun guarded => returned.step admitted guarded⟩) trivial
    (.inl ⟨rfl, fun _ => rfl, .nil⟩) run

namespace Sample

def streamed : List Request :=
  [.acquire 1, .resume 1 .ok, .resume 1 .ok, .resume 1 .ok, .resume 1 .ok, .resume 1 .ok,
    .resume 1 .ok, .resume 1 .ok, .resume 1 .ended, .resume 1 .ok]

/-- The job is cancelled before `mark_provider_started`. -/
def cancelledEarly : List Request :=
  [.acquire 1, .resume 1 .ok, .resume 1 .ok, .resume 1 .ok, .resume 1 .exception]

end Sample

open Sample

theorem streamed_returned : admission.Always Returned .initial streamed := by
  refine (slot_returned_iff _ ?_).mpr ?_
  · simp [streamed, System.Run, System.Along, admission, Slots.initial]
  · simp [streamed, System.Along, admission, Guarded, Slots.step, Slots.initial, Stage.next,
      Stage.Handles]

theorem cancelledEarly_kept : admission.Run .initial cancelledEarly ∧
    ¬ admission.Always Returned .initial cancelledEarly := by
  refine ⟨by simp [cancelledEarly, System.Run, System.Along, admission, Slots.initial],
    fun always => ?_⟩
  rcases always.last with ⟨free, -⟩ | ⟨r, log, -, only, -⟩
  · cases free
  · have busy := (only r).mpr rfl
    simp [cancelledEarly, System.after, admission, Slots.step, Slots.initial, Stage.next] at busy

end CodestraMiddleware.Tts
