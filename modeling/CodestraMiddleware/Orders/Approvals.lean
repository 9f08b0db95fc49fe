import CodestraMiddleware.Orders.Intake

/-!
# Dispatch and approval

`approve_order` and `reject_order` write to the stored record. `dispatch_order` reads the approval
in the request, which the content hash does not cover, and of the record only its content hash.
-/
namespace CodestraMiddleware.Orders

open Transition Raising Sample
open Store (commit)

variable (rt : Runtime)

def accepted (s : Store) (call : Call) : List Call := if Accepts rt s call then [call] else []

/-- The calls that were accepted, the newest first, hold an approval of the order with this content
and no rejection since. -/
def approvedIn (orderId hash : String) : List Call → Bool
  | [] => false
  | .approveOrder id approval _ :: past => (id == orderId && approval.contentHash == hash) ||
      approvedIn orderId hash past
  | .rejectOrder id :: past => id != orderId && approvedIn orderId hash past
  | _ :: past => approvedIn orderId hash past

/-- One of the accepted calls has received the order as one that requires an approval. -/
def RequiresApproval (past : List Call) (orderId : String) : Prop :=
  ∃ order, .receiveOrder order ∈ past ∧ order.orderId = orderId ∧ order.approval.required = true

/-- An accepted dispatch of an order that was received as one that requires an approval has it. -/
def DispatchesApproved (s : Store × List Call) : Call → Prop
  | .dispatchOrder order now => Accepts rt s.1 (.dispatchOrder order now) →
      RequiresApproval s.2 order.orderId →
      ∃ record ∈ s.1.orders order.orderId, approvedIn order.orderId record.contentHash s.2 = true
  | _ => True

/-- Such an order is sent to the dispatch only while its stored status is `APPROVED`. -/
def FindsApproved (s : Store × List Call) : Call → Prop
  | .dispatchOrder order _ => RequiresApproval s.2 order.orderId →
      ∀ record ∈ s.1.orders order.orderId, record.status = .approved
  | _ => True

/-- What is stored as approved was approved with its content, and not rejected since. -/
def Vouched (s : Store × List Call) : Prop :=
  ∀ orderId record, s.1.orders orderId = some record → record.status = .approved →
    approvedIn orderId record.contentHash s.2 = true

variable {rt} {s t t' : Store}

variable {orderId : String}

variable {call : Call} {past : List Call}

theorem approvedIn_accepted {hash : String} (held : approvedIn orderId hash past = true)
    (kept : Accepts rt s call → call ≠ .rejectOrder orderId) :
    approvedIn orderId hash (accepted rt s call ++ past) = true := by
  unfold accepted
  split
  next accepts =>
    cases call <;> simp_all [approvedIn]
  next => exact held

variable {record : Record}

/-- What is approved in `t` was so in `s`, and has not changed. -/
def Store.ApprovesNone (s t : Store) : Prop :=
  ∀ orderId record, t.orders orderId = some record → record.status = .approved →
    s.orders orderId = some record

namespace Store.ApprovesNone

theorem refl : s.ApprovesNone s := fun _ _ stored _ => stored

theorem of_orders (approvesNone : s.ApprovesNone t) (same : t'.orders = t.orders) :
    s.ApprovesNone t' :=
  fun orderId record stored => approvesNone orderId record (congrFun same orderId ▸ stored)

theorem commit {written : Except Exc Store} (before : s.ApprovesNone t)
    (ok : ∀ t', written = .ok t' → s.ApprovesNone t') : s.ApprovesNone (t.commit written).1 := by
  cases written with
  | ok t' => exact ok t' rfl
  | error => exact before

theorem insert (order : OrderEnvelope) : s.ApprovesNone (s.insert rt order) := by
  intro orderId record stored approved
  by_cases named : orderId = order.orderId
  · subst named
    simp only [Store.insert, Function.update_self, Option.some.injEq] at stored
    subst stored
    simp only [Store.record] at approved
    split at approved <;> cases approved
  · simpa [Store.insert, named] using stored

end Store.ApprovesNone

theorem Store.approved_setStatus (stored : (s.setStatus orderId status).orders other = some record)
    (approved : record.status = .approved) (changed : status ≠ .approved) :
    other ≠ orderId ∧ s.orders other = some record := by
  by_cases named : other = orderId
  · subst named
    simp only [setStatus, modify, Function.update_self, Option.map_eq_some_iff] at stored
    obtain ⟨_, -, rfl⟩ := stored
    exact absurd approved changed
  · exact ⟨named, by simpa [setStatus, modify, named] using stored⟩

theorem Store.ApprovesNone.setStatus (s : Store) (orderId : String) {status : OrderStatus}
    (changed : status ≠ .approved) : s.ApprovesNone (s.setStatus orderId status) :=
  fun _ _ stored approved => (approved_setStatus stored approved changed).2

theorem Store.orders_command {orderId : String} (ok : s.command commandId orderId = .ok t) :
    t.orders = s.orders := by
  obtain ⟨_, -, ok⟩ := bind_eq_ok.mp ok
  split at ok
  · split at ok <;> cases ok
    rfl
  · cases ok
    rfl

open Store in
theorem approvesNone_perform {call : Call}
    (other : ∀ orderId approval now, call ≠ .approveOrder orderId approval now) :
    s.ApprovesNone (perform rt s call).1 := by
  cases call with
  | approveOrder => exact absurd rfl (other _ _ _)
  | receiveOrder order =>
    refine .commit .refl fun t ok => ?_
    simp only [create] at ok
    split at ok
    · split at ok
      · cases ok
      · split at ok <;> cases ok
        exact .refl
    · cases ok
      exact .insert order
  | rejectOrder | receiveDeadLetter =>
    refine .commit .refl fun t ok => ?_
    obtain ⟨-, -, ok⟩ := bind_eq_ok.mp ok
    cases ok
    exact .setStatus s _ (by decide)
  | dispatchOrder order now =>
    simp only [perform, dispatchOrder]
    split
    · exact .refl
    · -- The status of the order is set whether or not there is a command for it.
      have marked := @ApprovesNone.setStatus s order.orderId .dispatchedToN8n (by decide)
      refine marked.commit fun t ok => ?_
      obtain ⟨t', commanded, ok⟩ := bind_eq_ok.mp ok
      cases ok
      have same := orders_command commanded
      exact marked.of_orders same
  | receiveResult path result =>
    refine .commit .refl fun t ok => ?_
    obtain ⟨-, -, ok⟩ := bind_eq_ok.mp ok
    obtain ⟨command, -, ok⟩ := bind_eq_ok.mp ok
    split at ok
    · cases ok
      exact .refl
    · obtain ⟨-, -, ok⟩ := bind_eq_ok.mp ok
      cases ok
      exact .setStatus (s.setCommandStatus _ _) _ (by cases result.status <;> decide)
  | receiveError =>
    refine .commit .refl fun t ok => ?_
    obtain ⟨-, -, ok⟩ := bind_eq_ok.mp ok
    obtain ⟨command, -, ok⟩ := bind_eq_ok.mp ok
    obtain ⟨-, -, ok⟩ := bind_eq_ok.mp ok
    cases ok
    refine .setStatus (s.modifyCommand _ _) _ ?_
    unfold failureStatus
    split_ifs <;> decide
  | receiveProgress progress =>
    refine .commit .refl fun t ok => ?_
    obtain ⟨record, -, ok⟩ := bind_eq_ok.mp ok
    obtain ⟨-, -, ok⟩ := bind_eq_ok.mp ok
    cases ok
    exact .setStatus (s.addProgress progress) _ (by decide)
  | createCommand order => exact .commit .refl fun t ok => .of_orders .refl (orders_command ok)
  | startCommand commandId =>
    simp only [perform, startCommand]
    split
    · exact .refl
    · refine .commit .refl fun t ok => ?_
      obtain ⟨_, -, ok⟩ := bind_eq_ok.mp ok
      cases ok
      exact .setStatus (s.setCommandStatus commandId .running) _ (by decide)
  | progressCommand =>
    refine .commit .refl fun t ok => ?_
    obtain ⟨_, -, ok⟩ := bind_eq_ok.mp ok
    obtain ⟨-, -, ok⟩ := bind_eq_ok.mp ok
    cases ok
    exact .refl

/-- An order is approved after a call if it was before and the call has not rejected it, or if the
call has approved its content. -/
theorem approved_step {record : Record}
    (stored : ((system rt).step s call).orders orderId = some record)
    (approved : record.status = .approved) :
    (s.orders orderId = some record ∧ (Accepts rt s call → call ≠ .rejectOrder orderId)) ∨
    ∃ approval now, call = .approveOrder orderId approval now ∧
      approval.contentHash = record.contentHash ∧ Accepts rt s call := by
  cases call with
  | approveOrder id approval now =>
    simp only [system, perform, Accepts] at stored ⊢
    cases done : approveOrder s id approval now with rw [done] at stored
    | error raised => exact .inl ⟨stored, by simp [commit]⟩
    | ok t =>
      simp only [approveOrder, bind_eq_ok, check_eq_ok, Store.get_eq_ok] at done
      obtain ⟨found, known, -, hash, -, -, done⟩ := done
      cases done
      by_cases named : orderId = id
      · subst named
        simp only [commit, Store.modify, Function.update_self, known, Option.map_some,
          Option.some.injEq] at stored
        subst stored
        exact .inr ⟨approval, now, rfl, hash, rfl⟩
      · exact .inl ⟨by simpa [commit, Store.modify, named] using stored, by simp⟩
  | rejectOrder id =>
    refine .inl ⟨approvesNone_perform (by simp) orderId record stored approved,
      fun accepts same => ?_⟩
    cases same
    simp only [system, perform, Accepts] at stored accepts
    cases done : rejectOrder s orderId with
    | error raised => simp [done, commit] at accepts
    | ok t =>
      obtain ⟨_, -, set⟩ := bind_eq_ok.mp done
      rw [done] at stored
      cases set
      exact (Store.approved_setStatus stored approved (by decide)).1 rfl
  | _ => exact .inl ⟨approvesNone_perform (by simp) orderId record stored approved, by simp⟩

/-- Only an order that is stored is dispatched. -/
theorem stored_of_dispatched {order : OrderEnvelope}
    (accepts : Accepts rt s (.dispatchOrder order now)) :
    ∃ record, s.orders order.orderId = some record := by
  simp only [Accepts, perform, dispatchOrder] at accepts
  split at accepts
  next => cases accepts
  next ok =>
    obtain ⟨record, stored, -⟩ := bind_eq_ok.mp ok
    exact ⟨record, Store.get_eq_ok.mp stored⟩

theorem vouched_step (vouched : Vouched (s, past)) (call : Call) :
    Vouched (((system rt).recording (accepted rt)).step (s, past) call) := by
  intro orderId record stored approved
  rcases approved_step stored approved with ⟨before, kept⟩ | ⟨_, now, rfl, hash, accepts⟩
  · exact approvedIn_accepted (vouched orderId record before approved) kept
  · simp [System.recording, accepted, accepts, approvedIn, hash]

variable (rt)

/-- As long as the dispatches of orders that were received as ones that require an approval find
them `APPROVED`, only approved orders are dispatched. -/
theorem dispatched_only_approved (calls : List Call)
    (found : ((system rt).recording (accepted rt)).Along FindsApproved (.empty, []) calls) :
    ((system rt).recording (accepted rt)).Along (DispatchesApproved rt) (.empty, []) calls := by
  refine System.along_of_along (I := Vouched)
    (fun s call _ vouched => vouched_step vouched call) ?_ ?_ found
  · intro s call finds vouched
    cases call with
    | dispatchOrder order now =>
      intro accepts requires
      obtain ⟨record, stored⟩ := stored_of_dispatched accepts
      exact ⟨record, stored, vouched order.orderId record stored (finds requires record stored)⟩
    | _ => trivial
  · simp [Vouched, Store.empty]

def Sample.approval : ApprovalRequest := ⟨"manager", "content-1"⟩

theorem approved_then_dispatched :
    let calls := [Call.receiveOrder order, .approveOrder "ord-1" approval 0,
      .dispatchOrder order 1]
    ((system runtime).recording (accepted runtime)).Along (DispatchesApproved runtime)
      (.empty, []) calls ∧
    Accepts runtime ((system runtime).after .empty (calls.take 2)) (.dispatchOrder order 1) :=
  ⟨dispatched_only_approved runtime _ ⟨trivial, trivial, fun _ _ stored => by cases stored; rfl,
    trivial⟩, by decide⟩

/-- The request says that it is approved, and nobody has approved the order;
after a rejection, too. -/
theorem unapproved_dispatched :
    let calls := [Call.receiveOrder order, .rejectOrder "ord-1", .dispatchOrder order 1]
    ¬ ((system runtime).recording (accepted runtime)).Along (DispatchesApproved runtime)
      (.empty, []) calls := by
  rintro calls ⟨-, -, authorised, -⟩
  obtain ⟨_, ⟨⟩, approved⟩ := authorised (by decide) ⟨order, .tail _ (.head _), rfl, rfl⟩
  exact absurd approved (by decide)

end CodestraMiddleware.Orders
