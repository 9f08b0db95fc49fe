import CodestraMiddleware.Foundations.Raising

/-!
# The callback state machine and its reminder policy

`core/callbacks.py`: the table of states, the compliance check that decides the first state of a
callback, the times of its reminders, and the two normalizations of a request.
-/
namespace CodestraMiddleware.Callbacks

open Raising

inductive CallbackState where
  | draft | scheduled | reminderPending | ready | due | inProgress | snoozed | rescheduled
  | missed | escalated | failed | blockedCompliance | completed | cancelled
  deriving DecidableEq

namespace CallbackState

def text : CallbackState → String
  | draft => "DRAFT"
  | scheduled => "SCHEDULED"
  | reminderPending => "REMINDER_PENDING"
  | ready => "READY"
  | due => "DUE"
  | inProgress => "IN_PROGRESS"
  | snoozed => "SNOOZED"
  | rescheduled => "RESCHEDULED"
  | missed => "MISSED"
  | escalated => "ESCALATED"
  | failed => "FAILED"
  | blockedCompliance => "BLOCKED_COMPLIANCE"
  | completed => "COMPLETED"
  | cancelled => "CANCELLED"

def terminal : List CallbackState := [completed, cancelled]

def transitions : CallbackState → List CallbackState
  | draft => [scheduled, cancelled, blockedCompliance]
  | scheduled =>
    [reminderPending, ready, due, snoozed, rescheduled, cancelled, blockedCompliance]
  | reminderPending => [ready, due, snoozed, rescheduled, cancelled, failed]
  | ready => [due, snoozed, rescheduled, cancelled]
  | due => [inProgress, snoozed, rescheduled, missed, cancelled]
  | inProgress => [completed, failed, rescheduled]
  | snoozed => [reminderPending, ready, due, rescheduled, cancelled]
  | rescheduled => [reminderPending, ready, due, snoozed, cancelled]
  | missed => [escalated, inProgress, rescheduled, cancelled]
  | escalated => [inProgress, rescheduled, cancelled, failed]
  | failed => [scheduled, cancelled]
  | blockedCompliance => [scheduled, cancelled]
  | completed => []
  | cancelled => []

theorem transitions_of_terminal (final : state ∈ terminal) : state.transitions = [] := by
  simp only [terminal, List.mem_cons, List.not_mem_nil, or_false] at final
  rcases final with rfl | rfl <;> rfl

end CallbackState

def transition (current target : CallbackState) : Except String Unit :=
  check (target ∈ current.transitions) ("invalid callback transition " ++ current.text ++ " -> " ++
    target.text)

def minutes (n : Int) : Int := n * 60000000

/-- A `datetime` as a request gives it: the reading of the clock, and how far the clock is ahead of
UTC unless the value is naive. -/
structure DateTime where
  wall : Int
  utcoffset : Option Int

/-- The zones that `ZoneInfo` knows, each with its offset at an instant. -/
abbrev Zones := String → Option (Int → Int)

def canonicalTime (zones : Zones) (value : DateTime) (timezone : String) : Except String Int :=
  match zones timezone with
  | none => .error "unknown customer timezone"
  | some zone =>
    match value.utcoffset with
    | none => .error "scheduled_at must include UTC offset"
    | some offset =>
      let instant := value.wall - offset
      -- The supplied offset must agree with the named zone.
      if zone instant ≠ offset then .error "scheduled_at offset does not match customer_timezone"
      else .ok instant

structure Reminders where
  (email1At email2At popupAt : Int)

def reminders (scheduledAt : Int) : Reminders where
  email1At := scheduledAt - minutes (24 * 60)
  email2At := scheduledAt - minutes 60
  popupAt := scheduledAt - minutes 15

structure Compliance where
  (consent dnc suppressed withinCallingHours campaignAllowed : Bool)

structure Checks where
  (consent dncClear suppressionClear callingHours campaignAllowed : Bool)

def Checks.all (c : Checks) : Bool :=
  c.consent && c.dncClear && c.suppressionClear && c.callingHours && c.campaignAllowed

def Compliance.checks (c : Compliance) : Checks where
  consent := c.consent
  dncClear := !c.dnc
  suppressionClear := !c.suppressed
  callingHours := c.withinCallingHours
  campaignAllowed := c.campaignAllowed

def complianceState (c : Compliance) : CallbackState × Checks :=
  (if c.checks.all then .scheduled else .blockedCompliance, c.checks)

/-! ## Telephone numbers -/

/-- `re.sub(r"\D", "", value)` keeps the characters that `decimal` accepts. -/
def normalizedPhone (decimal : Char → Bool) (value : String) : Except String String :=
  let result := "+" ++ String.ofList (value.toList.filter decimal)
  if 8 ≤ result.length ∧ result.length ≤ 16 then .ok result else .error "invalid phone number"

end CodestraMiddleware.Callbacks
