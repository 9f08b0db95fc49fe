import CodestraMiddleware.Telephony.System

/-!
# Resubmission of a command

`create_command` takes the request hash after the body is completed with the decision it has found,
so a body that names none is another request once a newer decision is recorded.
-/
namespace CodestraMiddleware.Telephony

open Relational Transition Database Constrained

section

variable {sha256 : String → String} {call again : CommandCall} {body : TelephonyCommandRequest}
  {db db' : Database}

theorem existingCommand?_eq_some : existingCommand? sha256 body db = some r ↔
    r ∈ db.commands.rows ∧ r.idempotencyHash = body.stableIdempotencyKey sha256 := by
  refine (db.commands.find?_eq_some_iff (fun _ _ clash => CommandSpec.Clash.symm clash)
    (fun r r' one two => ?_) r).trans ?_
  · rw [decide_eq_true_eq] at one two
    exact .inr (.inr (.inl (one.trans two.symm)))
  · rw [decide_eq_true_eq]

theorem createCommand_journaled
    (accepted : createCommand sha256 call db = .ok (db', .command view)) :
    ∃ body decision r, call.start = .ok (body, decision) ∧
    existingCommand? sha256 body db' = some r ∧
      r.requestHash = body.requestHash sha256 ∧ r.commandId = view.commandId := by
  unfold createCommand at accepted
  split at accepted
  · cases accepted
  next body decision started =>
    refine ⟨body, decision, ?_⟩
    split at accepted
    next r found =>
      unfold replay at accepted
      split at accepted
      next => cases accepted
      next same =>
        cases accepted
        exact ⟨r, started, found, not_not.mp same, rfl⟩
    next fresh =>
      split at accepted
      · cases accepted
      split at accepted
      · cases accepted
      split at accepted
      next db'' inserted =>
        cases accepted
        obtain ⟨_, added, rfl⟩ := insertCommand?_eq_some.mp inserted
        exact ⟨_, started, existingCommand?_eq_some.mpr ⟨(mem_insert? added).mpr (.inr rfl), rfl⟩,
          rfl, rfl⟩
      next =>
        simp only [recover, fresh] at accepted
        split at accepted <;> cases accepted

theorem valid_later {c : TelephonyCommandRequest}
    (valid : c.forbidApplicationSelectedResources now = .ok ())
    (timely : ∀ expiry ∈ c.expiresAt, later < expiry.instant) :
    c.forbidApplicationSelectedResources later = .ok () := by
  unfold TelephonyCommandRequest.forbidApplicationSelectedResources at valid ⊢
  grind

theorem start_again (started : call.start = .ok (body, decision))
    (identical : again.body = call.body)
    (header : again.header = call.header)
    (timely : ∀ expiry ∈ call.body.expiresAt, again.now < expiry.instant)
    (decided : again.decision = some decision')
    (same : call.body.policyDecisionId = none → call.decision.map (·.id) = some decision'.id) :
    again.start = .ok (body, decision') := by
  unfold CommandCall.start at started ⊢
  rw [identical, header, decided]
  split at started
  · cases started
  next valid =>
    rw [valid_later valid timely]
    split at started
    · cases started
    split at started
    · cases started
    next own _ _ =>
      cases started
      cases named : call.body.policyDecisionId <;> simp_all

theorem journaled_later {ι : Type} [DecidableEq ι] {s : State ι}
    (journaled : existingCommand? sha256 body s.database = some r)
    (es : List (Event ι)) : ∃ r', existingCommand? sha256 body
    ((journalSystem sha256).after s es).database = some r' ∧
      r'.toCommandSpec = r.toCommandSpec := by
  induction es generalizing s r with
  | nil => exact ⟨r, journaled, rfl⟩
  | cons e es ih =>
    obtain ⟨member, key⟩ := existingCommand?_eq_some.mp journaled
    obtain ⟨r', member', spec⟩ := (step_recordsKept sha256 s e).commands r member
    obtain ⟨r'', found, spec'⟩ := ih (existingCommand?_eq_some.mpr
      ⟨member', (congrArg (·.idempotencyHash) spec).trans key⟩)
    exact ⟨r'', found, spec'.trans spec⟩

end

/-- Whatever happens in between, a command whose body names its decision, or for which no newer
decision is found, is answered again with what is journaled. -/
theorem resubmission_replayed {ι : Type} [DecidableEq ι] (sha256 : String → String) (s : State ι)
    (call again : CommandCall)
    (es : List (Event ι)) (decision : PolicyDecision) (db' : Database) (view : CommandView)
    (accepted : createCommand sha256 call s.database = .ok (db', .command view))
    (identical : again.body = call.body ∧ again.header = call.header)
    (timely : ∀ expiry ∈ call.body.expiresAt, again.now < expiry.instant)
    (decided : again.decision = some decision)
    (same : call.body.policyDecisionId = none → call.decision.map (·.id) = some decision.id) :
    let later := ((journalSystem sha256).after { s with database := db' } es).database
    ∃ r : TelephonyCommandJournal, r.commandId = view.commandId ∧
    createCommand sha256 again later = .ok (later, r.view true) := by
  obtain ⟨body, _, r, started, journaled, content, id⟩ := createCommand_journaled accepted
  obtain ⟨r', found, spec⟩ := journaled_later (s := { s with database := db' }) journaled es
  refine ⟨r', (congrArg (·.commandId) spec).trans id, ?_⟩
  have content' : r'.requestHash = body.requestHash sha256 :=
    (congrArg (·.requestHash) spec).trans content
  simp [createCommand, start_again started identical.1 identical.2 timely decided same, found,
    replay, content', Except.map]

namespace Sample

/-- A call with a body that names no decision, under which the latest has the given identifier. -/
def undecided (id : String) : CommandCall :=
  ⟨newYear, 1, "IDM-00000001", { command 1 with policyDecisionId := none },
    some { decision true with id }⟩

def digest (text : String) : String :=
  if text = { command 1 with
      policyDecisionId := some "22222222-2222-4222-8222-222222222222" }.json.dumps then
    "ab56a6f2cfec7ec772f4d2741a4e0523a6e69a689ec4d8499c24f25fa2cb96cc"
  else sha256 text

def claimedThenDead : List (Event Unit) :=
  [.worker () (.claim newYear .staging (fun _ => false) "3f2504e04f8941d39a0c0305e82c3301"),
    .worker () .crash]

def first : Outcome := createCommand digest (undecided (decision true).id) .empty

end Sample

open Sample

/-- A worker claims the command and dies before it is submitted again. -/
theorem first_resubmitted : ∃ db' view, first = .ok (db', .command view) ∧
    let later := ((journalSystem digest).after (.initial Unit db') claimedThenDead).database
    ∃ r : TelephonyCommandJournal, r.commandId = view.commandId ∧
      createCommand digest (undecided (decision true).id) later = .ok (later, r.view true) := by
  have accepted : (first.toOption.any fun answer => answer.2 matches .command _) = true := by
    decide +kernel
  rcases outcome : first with fault | ⟨db', view | _ | _ | _⟩ <;> rw [outcome] at accepted
  case ok.command =>
    exact ⟨db', view, rfl, resubmission_replayed digest (.initial Unit .empty)
      (undecided (decision true).id) _
      claimedThenDead _ db' view outcome ⟨rfl, rfl⟩ (by rintro _ ⟨⟩; decide) rfl fun _ => rfl⟩
  all_goals cases accepted

/-- The same body fails once a newer decision is recorded under its correlation. -/
theorem newer_decision_refused : (first.toOption.any fun (db', _) =>
    createCommand digest (undecided "22222222-2222-4222-8222-222222222222") db' matches
      .error (.http 409 "idempotency key conflict")) = true := by
  decide +kernel

end CodestraMiddleware.Telephony
