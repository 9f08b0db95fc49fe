import Mathlib.Data.List.Pairwise
import Mathlib.Tactic.SplitIfs

/-!
# Approval tokens

`ApprovalTokens` of `core/controller.py`, and the agent of server A, which checks one in every
request. A token is what its signature covers, and `none` where the signature is wrong.
-/
namespace CodestraMiddleware.Controller

structure Scope where
  (taskId tenantId serverId workspace : String)
  deriving DecidableEq

structure Claims extends Scope where
  tools : List String
  (planHash approverHash : String)
  (iat exp : Int)
  jti : String
  deriving DecidableEq

/-- `verify` with `consume`; the result is the consumed ids afterwards. -/
def verify (consumed : List String) (token : Option Claims) (scope : Scope) (tool : String)
    (now : Int) : Except String (List String) :=
  match token with
  | none => .error "approval token invalid"
  | some claims =>
    if now < claims.iat - 5 ∨ claims.exp ≤ now then .error "approval token expired"
    else if claims.toScope ≠ scope then .error "approval token scope denied"
    else if tool ∉ claims.tools then .error "approval token tool scope denied"
    else if claims.jti = "" ∨ claims.jti ∈ consumed then .error "approval token replay rejected"
    else .ok (claims.jti :: consumed)

/-! ## The agent -/

structure AgentRequest where
  now : Int
  (tenantId requestId correlationId taskId workspace tool : String)
  token : Option Claims
  -- The file with the signing key can be read, and the key is long enough.
  keyed : Bool

section

variable (r : AgentRequest)

def AgentRequest.scope : Scope := ⟨r.taskId, r.tenantId, "middleware", r.workspace⟩

/-- `approval_tokens` makes a new object for the request, and nothing is consumed in it. -/
def authorizeAgentRequest : Except (Nat × String) Unit :=
  if !r.keyed then .error (503, "approval verifier unavailable")
  else
    match verify [] r.token r.scope r.tool r.now with
    | .error text => .error (401, text)
    | .ok _ => .ok ()

/-- `execute_tool` for a request from the controller, up to the call of `AgentExecutor.execute`. -/
def executeTool : Except (Nat × String) Unit :=
  if r.tenantId = "" ∨ r.requestId = "" ∨ r.correlationId = "" then
    .error (422, "tenant_id, request_id and correlation_id required")
  else authorizeAgentRequest r

def AgentRequest.Reaches : Prop := executeTool r = .ok ()

end

/-- The request has its header fields, and the token is timely, has an id, and
covers what is asked. -/
structure AgentRequest.Covered (r : AgentRequest) (claims : Claims) : Prop where
  named : r.tenantId ≠ "" ∧ r.requestId ≠ "" ∧ r.correlationId ≠ ""
  keyed : r.keyed = true
  timely : claims.iat - 5 ≤ r.now ∧ r.now < claims.exp
  scope : claims.toScope = r.scope
  tool : r.tool ∈ claims.tools
  jti : claims.jti ≠ ""

/-- A token that has covered a request covers no later one. -/
def RepeatsInVain (r r' : AgentRequest) : Prop :=
  ∀ claims, r.token = some claims → r'.token = some claims → r.Covered claims → ¬ r'.Covered claims

/-- The first of two requests with one token spends it. -/
def SpendsToken (r r' : AgentRequest) : Prop :=
  ∀ claims, r.token = some claims → r'.token = some claims → r.Reaches → ¬ r'.Reaches

theorem reaches_iff {r : AgentRequest} (token : r.token = some claims) : r.Reaches ↔
    r.Covered claims := by
  unfold AgentRequest.Reaches executeTool authorizeAgentRequest verify
  rw [token]
  constructor
  · intro reaches
    dsimp only at reaches
    split_ifs at reaches with unnamed unkeyed untimely unscoped unlisted used
    simp only [not_or, Int.not_lt, Int.not_le, not_not, Bool.not_eq_true]
      at unnamed unkeyed untimely unscoped unlisted used
    exact ⟨unnamed, by simpa using unkeyed, untimely, unscoped, unlisted, used.1⟩
  · rintro ⟨named, keyed, timely, scope, tool, jti⟩
    have timely : ¬ (r.now < claims.iat - 5 ∨ claims.exp ≤ r.now) := by omega
    simp [named, keyed, timely, scope, tool, jti]

/-- No token starts two tools exactly where a token that has covered a request covers no later one:
nothing remembers that it was spent. -/
theorem token_starts_one_tool_iff (rs : List AgentRequest) : rs.Pairwise SpendsToken ↔
    rs.Pairwise RepeatsInVain :=
  List.Pairwise.iff fun r r' => forall₃_congr fun claims token token' => by
    rw [reaches_iff token, reaches_iff token']

namespace Sample

def claims : Claims := ⟨⟨"task", "tenant", "middleware", "/work"⟩, ["git_status"], "hash",
      "approver", 0, 300, "1"⟩

def agentRequest (now : Int) : AgentRequest :=
  ⟨now, "tenant", "request", "correlation", "task", "/work", "git_status", some claims, true⟩

end Sample

open Sample

theorem expired_token_again : [agentRequest 10, agentRequest 300].Pairwise SpendsToken := by
  rw [token_starts_one_tool_iff, List.pairwise_pair]
  rintro _ ⟨⟩ - - again
  exact absurd again.timely.2 (by decide)

theorem token_starts_two_tools : ¬ [agentRequest 10, agentRequest 20].Pairwise SpendsToken := by
  rw [List.pairwise_pair]
  exact fun spends => spends claims rfl rfl rfl rfl

end CodestraMiddleware.Controller
