import AreFoundation.RestBff.Api

-- The part of Rego that the policy uses: a rule with alternatives, each of which has a value and a
-- body of expressions that all have to hold.
namespace Rego

structure Clause (ι δ : Type) where
  value : δ
  body  : List (ι → Bool) := []

-- The first alternative whose body holds decides.
def evaluate (default : δ) (input : ι) : List (Clause ι δ) → δ
  | []              => default
  | clause :: chain => if clause.body.all (· input) then clause.value else evaluate default input chain

end Rego

namespace RestBff.Policy

structure Input where
  decisionId  : String
  agentId     : String
  actionClass : String
  resource    : String

structure Decision where
  effect : String
  reason : String
  deriving DecidableEq

inductive EvaluateError
  | dependencyTimeout
  | other (message : String)
  deriving DecidableEq

abbrev Evaluator := Input → Except EvaluateError Decision

-- The `Evaluate` method of `Stub`.
def stub : Evaluator := fun input =>
  if Go.contains (Go.toLower input.resource) "timeout" then
    .error .dependencyTimeout
  else .ok <|
    if input.actionClass = "demo.forbidden_action" then
      ⟨"DENY", "forbidden action class for demo"⟩
    else if input.actionClass = "demo.read" then
      ⟨"ALLOW", "read scope allowed"⟩
    else if Go.contains (Go.toUpper input.actionClass) "DENY" then
      ⟨"DENY", "policy-evaluated"⟩
    else
      ⟨"ALLOW", "policy-evaluated"⟩

-- The rule `decision` of `are_evaluatepolicy.rego`.
def decisionRule : List (Rego.Clause Input Decision) :=
  [{ value := ⟨"DENY", "forbidden action class for demo"⟩
     body  := [fun input => input.actionClass = "demo.forbidden_action"] },
    { value := ⟨"ALLOW", "read scope allowed"⟩
      body  := [fun input => input.actionClass = "demo.read",
        fun input => Go.hasPrefix input.resource "urn:dataset/"] },
    { value := ⟨"ALLOW", "model promotion policy passed for governed model resource"⟩
      body  := [fun input => input.actionClass = "model.promote_to_production",
        fun input => input.agentId ≠ "", fun input => Go.hasPrefix input.resource "model/",
        fun input => !Go.contains (Go.toLower input.resource) "experimental"] },
    { value := ⟨"DENY", "model promotion requires a governed non-experimental model resource"⟩
      body  := [fun input => input.actionClass = "model.promote_to_production"] },
    { value := ⟨"DENY", "action class contains deny"⟩
      body  := [fun input => Go.contains (Go.toUpper input.actionClass) "DENY"] },
    { value := ⟨"ALLOW", "policy-evaluated"⟩ }]

def decision (input : Input) : Decision :=
  Rego.evaluate ⟨"DENY", "no policy matched action class"⟩ input decisionRule

def Input.ofPayload (payload : Json) : Input where
  decisionId  := (payload.field "decision_id").asString
  agentId     := (payload.field "agent_id").asString
  actionClass := (payload.field "action_class").asString
  resource    := (payload.field "resource").asString

-- The end of `evaluatePolicy`.
def policyResponse (requestId decisionId : String) : Except EvaluateError Decision → Response
  | .error .dependencyTimeout =>
    jsonError requestId "DEPENDENCY_TIMEOUT" "policy engine timeout" true .gatewayTimeout
  | .error (.other message)   =>
    jsonError requestId "POLICY_ENGINE_UNAVAILABLE" message true .badGateway
  | .ok ⟨effect, reason⟩      =>
    if effect ≠ "ALLOW" ∧ effect ≠ "DENY" then
      jsonError requestId "INTERNAL" "invalid policy effect" false .internalServerError
    else
      ⟨.ok, .object
        [("decision", .object
          [("decision_id", .string decisionId), ("effect", .string effect),
            ("reason", .string reason)])]⟩

def evaluatePolicy (requestId : String) (body : Option Json) (eval : Evaluator) : Response :=
  match body.bind Json.asStruct? with
  | none         => invalidArgument requestId "invalid json body"
  | some payload =>
    let input := Input.ofPayload payload
    if Go.trimSpace input.decisionId = "" ∨ Go.trimSpace input.agentId = "" ∨
        Go.trimSpace input.actionClass = "" then
      invalidArgument requestId "decision_id, agent_id, and action_class are required"
    else
      policyResponse requestId input.decisionId (eval input)

end RestBff.Policy
