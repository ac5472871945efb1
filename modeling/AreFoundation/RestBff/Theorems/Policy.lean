import AreFoundation.Gateway.Upstream
import AreFoundation.RestBff.Policy

namespace RestBff.Policy

-- The effect for an action class that is not treated in a special way.
def denyEffect (actionClass : String) : String :=
  if actionClass = "demo.forbidden_action" ∨ Go.contains (Go.toUpper actionClass) "DENY" then "DENY"
  else "ALLOW"

theorem denyEffect_read : denyEffect "demo.read" = "ALLOW" := by
  decide +kernel

theorem denyEffect_promotion : denyEffect "model.promote_to_production" = "ALLOW" := by
  decide +kernel

theorem stub_of_no_timeout {input : Input}
    (ht : ¬Go.contains (Go.toLower input.resource) "timeout") :
    ∃ d, stub input = .ok d ∧ d.effect = denyEffect input.actionClass := by
  refine ⟨_, if_neg ht, ?_⟩
  by_cases hf : input.actionClass = "demo.forbidden_action"
  case pos => simp [hf, denyEffect]
  case neg =>
    by_cases hd : input.actionClass = "demo.read"
    case pos => simp [hd, denyEffect_read]
    case neg =>
      simp only [hf, hd, if_false, denyEffect, false_or]
      split <;> rfl

-- The conditions under which a model may be promoted.
def Governed (input : Input) : Prop :=
  Go.hasPrefix input.resource "model/" ∧ ¬Go.contains (Go.toLower input.resource) "experimental"

instance (input : Input) : Decidable (Governed input) :=
  inferInstanceAs <| Decidable (_ ∧ _)

theorem decision_of_promotion {input : Input} (ha : input.agentId ≠ "")
    (hm : input.actionClass = "model.promote_to_production") :
    (decision input).effect = if Governed input then "ALLOW" else "DENY" := by
  simp only [decision, decisionRule, Rego.evaluate, List.all_cons, List.all_nil, hm, Governed]
  by_cases hp : Go.hasPrefix input.resource "model/" <;>
    by_cases he : Go.contains (Go.toLower input.resource) "experimental" <;> simp [ha, hp, he]

theorem decision_of_other {input : Input}
    (hm : input.actionClass ≠ "model.promote_to_production") :
    (decision input).effect = denyEffect input.actionClass := by
  simp only [decision, decisionRule, Rego.evaluate, List.all_cons, List.all_nil, hm]
  by_cases hf : input.actionClass = "demo.forbidden_action"
  case pos => simp [hf, denyEffect]
  case neg =>
    by_cases hd : input.actionClass = "demo.read"
    case pos =>
      -- Without the prefix of a dataset the last alternative allows the action as well.
      have hr : ¬Go.contains (Go.toUpper "demo.read") "DENY" := by decide +kernel
      by_cases hu : Go.hasPrefix input.resource "urn:dataset/" <;>
        simp [hd, hu, hr, denyEffect_read]
    case neg =>
      by_cases hn : Go.contains (Go.toUpper input.actionClass) "DENY" <;>
        simp [hf, hd, hn, denyEffect]

theorem stub_agrees_iff {input : Input} (ha : input.agentId ≠ "")
    (ht : ¬Go.contains (Go.toLower input.resource) "timeout") :
    (∃ d, stub input = .ok d ∧ d.effect = (decision input).effect) ↔
      (input.actionClass = "model.promote_to_production" → Governed input) := by
  obtain ⟨d, hs, he⟩ := stub_of_no_timeout ht
  have same : (∃ d, stub input = .ok d ∧ d.effect = (decision input).effect) ↔
      d.effect = (decision input).effect := by
    simp [hs]
  rw [same, he]
  by_cases hm : input.actionClass = "model.promote_to_production"
  case pos =>
    rw [decision_of_promotion ha hm, hm, denyEffect_promotion]
    by_cases hg : Governed input <;> simp [hg]
  case neg => simp [decision_of_other hm, hm]

def sampleInput (resource : String) : Input where
  decisionId  := "dec-1"
  agentId     := "agt-1"
  actionClass := "model.promote_to_production"
  resource    := resource

theorem stub_agrees_governed :
    ∃ d, stub (sampleInput "model/champion") = .ok d ∧
      d.effect = (decision <| sampleInput "model/champion").effect :=
  (stub_agrees_iff (by decide) (by decide +kernel)).mpr fun _ => by decide +kernel

theorem stub_promotes_experimental :
    stub (sampleInput "model/experimental-1") = .ok ⟨"ALLOW", "policy-evaluated"⟩ ∧
    (decision <| sampleInput "model/experimental-1").effect = "DENY" :=
  ⟨by decide +kernel, by decide +kernel⟩

section Gateway

open Gateway (StaticUpstreamClient Call)

def errorCode (body : Json) : String :=
  ((body.field "error").field "code").asString

def effectOf (body : Json) : String :=
  ((body.field "decision").field "effect").asString

-- The values that both endpoints require are not blank.
structure Input.Complete (input : Input) : Prop where
  decisionId  : Go.trimSpace input.decisionId ≠ ""
  agentId     : Go.trimSpace input.agentId ≠ ""
  actionClass : Go.trimSpace input.actionClass ≠ ""

variable {client : StaticUpstreamClient} {req : Call} {input : Input} {payload : Json}

theorem Input.Complete.not_blank (h : input.Complete) :
    ¬(Go.trimSpace input.decisionId = "" ∨ Go.trimSpace input.agentId = "" ∨
      Go.trimSpace input.actionClass = "") := by
  simp [h.decisionId, h.agentId, h.actionClass]

theorem evaluatePolicy_of_complete (hb : req.payload? = some payload)
    (hc : (Input.ofPayload payload).Complete) :
    evaluatePolicy requestId req.body eval =
      policyResponse requestId (Input.ofPayload payload).decisionId
        (eval <| Input.ofPayload payload) := by
  unfold Gateway.UpstreamRequest.payload? at hb
  unfold evaluatePolicy
  rw [hb]
  exact if_neg hc.not_blank

theorem handleEvaluatePolicy_of_timeout (hb : req.payload? = some payload)
    (hc : (Input.ofPayload payload).Complete)
    (ht : Go.contains (Go.toLower (Input.ofPayload payload).resource) "timeout") :
    client.handleEvaluatePolicy req opa =
      Gateway.jsonError req.requestId "DEPENDENCY_TIMEOUT" "policy engine timeout" true 504 := by
  unfold StaticUpstreamClient.handleEvaluatePolicy
  simp only [hb]
  exact (if_neg hc.not_blank).trans (if_pos ht)

theorem handleEvaluatePolicy_of_no_timeout (ho : client.opaBaseUrl = "")
    (hb : req.payload? = some payload) (hc : (Input.ofPayload payload).Complete)
    (ht : ¬Go.contains (Go.toLower (Input.ofPayload payload).resource) "timeout") :
    (client.handleEvaluatePolicy req opa).statusCode = 200 ∧
    effectOf (client.handleEvaluatePolicy req opa).body =
      denyEffect (Input.ofPayload payload).actionClass := by
  have hn := hc.not_blank
  have hd : Go.toUpper "DENY" = "DENY" := by decide +kernel
  have ha : Go.toUpper "ALLOW" = "ALLOW" := by decide +kernel
  simp only [Input.ofPayload] at hn ht
  simp only [StaticUpstreamClient.handleEvaluatePolicy, hb, if_neg hn, if_neg ht, ho, denyEffect,
    Input.ofPayload, StaticUpstreamClient.policyDecision, hd, ha,
    or_comm (a := (payload.field "action_class").asString = "demo.forbidden_action")]
  split
  case isTrue h  => exact absurd rfl h
  case isFalse   => split <;> exact ⟨rfl, rfl⟩

theorem handleEvaluatePolicy_agrees (ho : client.opaBaseUrl = "") (hb : req.payload? = some payload)
    (hc : (Input.ofPayload payload).Complete) (opa : Except String (String × String))
    (requestId : String) :
    ((client.handleEvaluatePolicy req opa).statusCode = 504 ∧
      errorCode (client.handleEvaluatePolicy req opa).body = "DEPENDENCY_TIMEOUT" ∧
      (evaluatePolicy requestId req.body stub).status = .gatewayTimeout ∧
      errorCode (evaluatePolicy requestId req.body stub).body = "DEPENDENCY_TIMEOUT") ∨
    ((client.handleEvaluatePolicy req opa).statusCode = 200 ∧
      (evaluatePolicy requestId req.body stub).status = .ok ∧
      effectOf (client.handleEvaluatePolicy req opa).body =
        effectOf (evaluatePolicy requestId req.body stub).body) := by
  rw [evaluatePolicy_of_complete hb hc]
  by_cases ht : Go.contains (Go.toLower (Input.ofPayload payload).resource) "timeout"
  case pos =>
    have hs : stub (Input.ofPayload payload) = .error .dependencyTimeout := if_pos ht
    rw [handleEvaluatePolicy_of_timeout hb hc ht, hs]
    exact .inl ⟨rfl, rfl, rfl, rfl⟩
  case neg =>
    obtain ⟨d, hs, he⟩ := stub_of_no_timeout ht
    obtain ⟨ok, effect⟩ := handleEvaluatePolicy_of_no_timeout ho hb hc ht
    rw [hs, effect, ← he]
    have accepted : ¬(d.effect ≠ "ALLOW" ∧ d.effect ≠ "DENY") := by
      rw [he, denyEffect]
      split <;> simp
    simp only [policyResponse, if_neg accepted]
    exact .inr ⟨ok, trivial, rfl⟩

def samplePolicyCall : Call where
  method         := asBytes "POST"
  path           := asBytes "/v1/policy/evaluations"
  rawQuery       := []
  body           := some <| .object
    [("decision_id", .string "dec-1"), ("agent_id", .string "agt-1"),
      ("action_class", .string "data.Deny"), ("resource", .string "dataset:alpha")]
  agentId        := asBytes "operator"
  requestId      := asBytes "req-1"
  identity       := asBytes "subject"
  idempotencyKey := asBytes "policy-1"
  authorization  := asBytes "Bearer token"
  contentType    := asBytes "application/json"
  traceparent    := ""

theorem handleEvaluatePolicy_agrees_denied :
    effectOf (({} : StaticUpstreamClient).handleEvaluatePolicy samplePolicyCall (.error "")).body =
      effectOf (evaluatePolicy "req-1" samplePolicyCall.body stub).body := by
  have complete : (Input.ofPayload <| samplePolicyCall.body.getD .null).Complete :=
    ⟨by decide +kernel, by decide +kernel, by decide +kernel⟩
  have ok : ¬(({} : StaticUpstreamClient).handleEvaluatePolicy samplePolicyCall
      (.error "")).statusCode = 504 := by
    decide +kernel
  have payload : samplePolicyCall.payload? = some (samplePolicyCall.body.getD .null) := rfl
  have noOpa : ({} : StaticUpstreamClient).opaBaseUrl = "" := rfl
  have agrees := handleEvaluatePolicy_agrees noOpa payload complete (.error "") "req-1"
  exact (agrees.resolve_left fun h => ok h.left).right.right

end Gateway

end RestBff.Policy
