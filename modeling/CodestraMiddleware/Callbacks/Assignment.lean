import CodestraMiddleware.Callbacks.System

/-!
# Who may assign a callback

`mutate` asks for a role, and of a supervisor for one of their own teams, where the target is
`REASSIGNED`. The two assignment fields belong to the body of every route, however, and are written
for every target.
-/
namespace CodestraMiddleware.Callbacks

open Relational Raising Transition Option Endpoint

variable {rt : Runtime}

def Endpoint.request (endpoint : Endpoint) (call : MutateCall) : MutateCall :=
  { call with target := endpoint.target }

def Principal.MayAssign (p : Principal) (before after : CallbackRecord) : Prop :=
  p.role ∈ MutateCall.reassigningRoles ∧
    (p.role = .supervisor → ∀ team, after.assignedTeamId = some team →
      after.assignedTeamId ≠ before.assignedTeamId → team ∈ p.teams)

/-- A call changes the assignment of its callback only on behalf of someone who may. -/
def AssignsWithAuthority (rt : Runtime) (c : MutateCall) (db : Database) : Prop :=
  ∀ before after db', db.record? c.callbackId = some before → mutate rt c db = .ok (after, db') →
    after.assignedAgentId ≠ before.assignedAgentId ∨ after.assignedTeamId ≠ before.assignedTeamId →
      c.principal.MayAssign before after

def MutateCall.NamesOther (c : MutateCall) (row : CallbackRecord) : Prop :=
  (∃ agent ∈ c.body.assignedAgentId, row.assignedAgentId ≠ some agent) ∨
    ∃ team ∈ c.body.assignedTeamId, row.assignedTeamId ≠ some team

/-- The call is a reassignment; or what its body names is what the callback has; or the principal
may reassign, and a supervisor names no other team but one of their own. -/
def MutateCall.Entitled (c : MutateCall) (row : CallbackRecord) : Prop :=
  c.target = .reassigned ∨ (c.NamesOther row → c.principal.role ∈ reassigningRoles ∧
    (c.principal.role = .supervisor → ∀ team ∈ c.body.assignedTeamId,
      row.assignedTeamId ≠ some team → team ∈ c.principal.teams))

variable {c : MutateCall}

theorem MutateCall.assignment_of_ne (row : CallbackRecord) (other : c.target ≠ .reassigned) :
    c.assignment row =
      (c.body.assignedAgentId.or row.assignedAgentId, c.body.assignedTeamId.or
        row.assignedTeamId) := by
  unfold assignment
  cases c.body.assignedAgentId <;> cases c.body.assignedTeamId <;> simp [other]

variable {row row' : CallbackRecord}

theorem MutateCall.Writes.assigned (writes : c.Writes row zones row') :
    row'.assignedAgentId = (c.assignment row).1 ∧ row'.assignedTeamId = (c.assignment row).2 := by
  rw [writes.written]
  exact ⟨rfl, rfl⟩

theorem or_ne_iff {named : Option String} : named.or held ≠ held ↔
    ∃ name ∈ named, held ≠ some name := by
  cases named with
  | none => simp
  | some name => simp [eq_comm]

theorem MutateCall.Writes.mayAssign (writes : c.Writes row zones row')
    (reassigns : c.target = .reassigned) : c.principal.MayAssign row row' := by
  have authority := writes.authority
  simp only [checkReassignment, reassigns, if_true, bind_eq_ok, check_eq_ok] at authority
  obtain ⟨-, role, -, asked, teams⟩ := authority
  refine ⟨role, fun supervisor team set _ => ?_⟩
  have own : (c.body.assignedTeamId.all c.principal.teams.contains) = true :=
    teams.resolve_left fun other => other supervisor
  -- The team that is written is the one of the body.
  have named : c.body.assignedTeamId = some team := by
    rw [writes.assigned.2] at set
    unfold assignment at set
    rw [reassigns] at set
    cases given : c.body.assignedTeamId with
    | some name =>
      rw [given] at set
      exact set
    | none =>
      obtain ⟨_, named⟩ := ne_none_iff_exists'.mp (asked.resolve_right fun some => some given)
      rw [given, named] at set
      cases set
  rw [named] at own
  simpa using own

theorem Mutated.mayAssign_iff {db : Database} (mutated : Mutated rt c db row row' db') :
    (row'.assignedAgentId ≠ row.assignedAgentId ∨ row'.assignedTeamId ≠ row.assignedTeamId →
      c.principal.MayAssign row row') ↔ c.Entitled row := by
  have writes := mutated.writes
  by_cases reassigns : c.target = .reassigned
  · exact iff_of_true (fun _ => writes.mayAssign reassigns) (.inl reassigns)
  · obtain ⟨agent, team⟩ := writes.assigned
    rw [c.assignment_of_ne row reassigns] at agent team
    unfold MutateCall.Entitled Principal.MayAssign MutateCall.NamesOther
    rw [or_iff_right reassigns, agent, team, or_ne_iff, or_ne_iff]
    refine imp_congr_right fun _ => and_congr_right fun _ => imp_congr_right fun _ => ?_
    constructor
    · intro own name named other
      refine own name ?_ ⟨name, named, other⟩
      rw [mem_def.mp named]
      rfl
    · rintro own name set ⟨name', named, other⟩
      obtain rfl : name' = name := by
        rw [mem_def.mp named] at set
        exact some_inj.mp set
      exact own name' named other

/-- In every state that is reached, a call to a route changes an assignment with authority exactly
if, where it is made at all, it is entitled to. -/
theorem assignment_authority_iff (rt : Runtime) (clock : Int) (events : List Event)
    (endpoint : Endpoint) (call : MutateCall) :
    let db := ((system rt).after (.initial clock) events).database
    AssignsWithAuthority rt (endpoint.request call) db ↔
      ∀ row row' db', Mutated rt (endpoint.request call) db row row' db' →
        (endpoint.request call).Entitled row := by
  intro db
  constructor
  · intro authority row row' db' mutated
    refine mutated.mayAssign_iff.mp fun changes => ?_
    have loaded := mutated.loaded
    have found : db.record? (endpoint.request call).callbackId = some row :=
      Database.record?_eq_some_iff.mpr ⟨loaded.found, loaded.id⟩
    exact authority row row' db' found (mutate_eq_ok_iff.mpr (.inr ⟨row, mutated⟩)) changes
  · intro entitled before after db' found ok changes
    rcases mutate_eq_ok_iff.mp ok with ⟨replayed, -⟩ | ⟨row, mutated⟩
    · -- A replayed call returns the row as it is.
      have loaded := loaded_of_load replayed.loads
      have same := Database.record?_eq_some_iff.mpr ⟨loaded.found, loaded.id⟩
      cases found.symm.trans same
      simp at changes
    · have loaded := mutated.loaded
      have same := Database.record?_eq_some_iff.mpr ⟨loaded.found, loaded.id⟩
      cases found.symm.trans same
      exact mutated.mayAssign_iff.mpr (entitled before after db' mutated) changes

namespace Sample

def agentA : Principal := ⟨"A", "COD", ["TEST_SYN"], .agent, ["T"]⟩

def supervisor : Principal := ⟨"S", "COD", ["TEST_SYN"], .supervisor, ["T"]⟩

def teamCreation : CreateCall :=
  { creation with body := { request with assignedTeamId := some "T", owner := by decide } }

def giveAway : MutateCall :=
  { changing .updated { noChange 0 with assignedAgentId := some "B" } "K2" 1 with
    principal := agentA }

def giveToForeignTeam : MutateCall :=
  { changing .updated { noChange 0 with assignedTeamId := some "X" } "K2" 1 with
    principal := supervisor }

end Sample

open Sample in
/-- An agent assigns their callback to someone else, and a supervisor to a foreign team. -/
theorem assigns_without_authority :
    let db := ((system runtime).after (.initial 0) [.create teamCreation]).database
    ¬ AssignsWithAuthority runtime (patch.request giveAway) db ∧
      ¬ AssignsWithAuthority runtime (patch.request giveToForeignTeam) db := by
  intro db
  have row : (db.record? 1).map (fun r => (r.assignedAgentId, r.assignedTeamId)) =
      some (some "A", some "T") := by decide +kernel
  obtain ⟨before, found, assigned⟩ := map_eq_some_iff.mp row
  simp only [Prod.mk.injEq] at assigned
  have given : (mutate runtime (patch.request giveAway) db).toOption.map
      (fun answer => answer.1.assignedAgentId) = some (some "B") := by decide +kernel
  have foreign : (mutate runtime (patch.request giveToForeignTeam) db).toOption.map
      (fun answer => answer.1.assignedTeamId) = some (some "X") := by decide +kernel
  have answered {α : Type} {x : Fallible (CallbackRecord × Database)}
    {f : CallbackRecord → α} {a : α}
      (some_ : x.toOption.map (fun answer => f answer.1) = some a) :
      ∃ after db', x = .ok (after, db') ∧ f after = a := by
    cases x with
    | error => cases some_
    | ok answer => exact ⟨answer.1, answer.2, rfl, some_inj.mp some_⟩
  constructor
  · intro authority
    obtain ⟨after, db', ok, agent⟩ := answered given
    have role := (authority before after db' found ok (.inl (by rw [agent, assigned.1]; decide))).1
    exact absurd role (by decide)
  · intro authority
    obtain ⟨after, db', ok, team⟩ := answered foreign
    have changes : after.assignedTeamId ≠ before.assignedTeamId := by
      rw [team, assigned.2]
      decide
    have own := (authority before after db' found ok (.inr changes)).2 rfl "X" team changes
    exact absurd own (by decide)

end CodestraMiddleware.Callbacks
