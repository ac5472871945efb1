import Mathlib.Data.List.Infix
import AreFoundation.Library.EcmaScript
import AreFoundation.Library.OrderedMap

open EcmaScript

namespace OpaIntegration

inductive PolicyEffect
  | allow
  | deny
  | escalate
  deriving DecidableEq

def PolicyEffect.toRaw : PolicyEffect → String
  | allow    => "ALLOW"
  | deny     => "DENY"
  | escalate => "ESCALATE"

structure AdmissionEnvelope where
  envelopeId             : String
  admittedScopes         : List String := []
  admittedBehavioralCaps : OrderedMap String Number := {}

structure EvaluationContext where
  passportId        : String
  actionMetadata    : OrderedMap String String := {}
  admissionEnvelope : Option AdmissionEnvelope := none

structure EvaluateRequest where
  evaluationId : String
  agentId      : String
  actionClass  : String
  resource     : String
  context      : EvaluationContext
  bundleNames  : List String := []

abbrev EvaluateRequest.Invalid (request : EvaluateRequest) : Prop :=
  request.evaluationId = "" ∨ request.agentId = "" ∨ request.actionClass = "" ∨
    request.resource = "" ∨ request.context.passportId = ""

structure RuleMatch where
  ruleName    : String
  bundleName  : String
  actionClass : String
  effect      : PolicyEffect
  fired       : Bool
  matchReason : String

structure PolicyRule where
  ruleName       : String
  actionClass    : String
  effect         : PolicyEffect
  resourcePrefix : Option String := none
  deriving DecidableEq

structure LoadedBundle where
  bundleName   : String
  bundleId     : String
  version      : String
  loadedTs     : Int
  ruleCount    : Nat
  compileValid : Bool
  rules        : List PolicyRule
  deriving DecidableEq

section Admission

def scopeAdmits (actionClass pat : String) : Bool :=
  if pat.toList.getLast? = some '*' then
    let pre := String.ofList pat.toList.dropLast
    actionClass = pre || startsWith actionClass pre
  else
    actionClass = pat

-- The loop over the caps, in the order in which `Object.entries` lists them.
def assertCaps (metadata : OrderedMap String String) :
    List (String × Number) → Except String Unit
  | []                    => .ok ()
  | (metric, cap) :: caps =>
    match property metadata metric with
    | .undefined | .text "" => assertCaps metadata caps
    | raw                   =>
      if raw.toNumber = .nan then
        .error <| "admission_cap_invalid_numeric:" ++ metric
      else if raw.toNumber.gt cap then
        .error <| "admission_cap_exceeded:" ++ metric
      else
        assertCaps metadata caps

def assertAdmissionEnvelope (request : EvaluateRequest) : Except String Unit :=
  match request.context.admissionEnvelope with
  | none     => .ok ()
  | some env =>
    if env.admittedScopes ≠ [] ∧ ¬env.admittedScopes.any (scopeAdmits request.actionClass) then
      .error "admission_scope_violation"
    else
      assertCaps request.context.actionMetadata env.admittedBehavioralCaps.entries

end Admission

section Compilation

def includes (s t : String) : Bool :=
  t.toList <:+: s.toList

def effect? (token : String) : Option PolicyEffect :=
  [.allow, .deny, .escalate].find? (·.toRaw = token.toUpper)

-- The maximal runs of word characters. A token that `\b` delimits on both sides is one of them.
def wordRuns (line : String) : List String :=
  line.toList.splitOnP (!isWordChar ·) |>.map String.ofList

-- `\baction=\S+`, where the flag says whether the preceding character is no word character.
def mentionsAction (boundary : Bool) : List Char → Bool
  | []      => false
  | c :: cs =>
    boundary && "action=".toList.isPrefixOf (c :: cs) &&
        ((c :: cs).drop 7).head?.any (!isWhiteSpace ·) ||
      mentionsAction (!isWordChar c) cs

-- The line has no white space at its ends.
def words (line : String) : List String :=
  line.toList.splitOnP isWhiteSpace |>.filter (· ≠ []) |>.map String.ofList

-- What follows the label in the first token that starts with it.
def labelled? (label : String) (parts : List String) : Option String :=
  parts.find? (startsWith · label) |>.map fun p => String.ofList <| p.toList.drop label.length

def compileLine (idx : Nat) (line : String) : Except String PolicyRule :=
  let parts := words line
  if ((wordRuns line).head?.bind effect?).isNone then
    .error "rego_compile_error"
  else if (wordRuns line).countP (effect? · |>.isSome) ≠ 1 then
    .error "rego_compile_error"
  else if ¬mentionsAction true line.toList then
    .error "rego_compile_error"
  else if parts.length < 3 then
    .error "rego_compile_error"
  else match parts.head?.bind effect?, labelled? "action=" parts with
    | some effect, some actionClass =>
      .ok { ruleName       := effect.toRaw.toLower ++ "_rule_" ++ toString (idx + 1)
            actionClass    := actionClass
            effect         := effect
            resourcePrefix := labelled? "prefix=" parts }
    | _, _ => .error "rego_compile_error"

def significantLines (source : String) : List String :=
  source.toList.splitOn '\n' |>.map (trim <| String.ofList ·)
    |>.filter fun line => line ≠ "" ∧ ¬startsWith line "#"

def compileRegoLikeSource (regoSource : String) : Except String (List PolicyRule) :=
  let trimmed := trim regoSource
  if trimmed = "" ∨ includes trimmed "invalid_rego" then
    .error "rego_compile_error"
  else
    (significantLines trimmed).zipIdx.mapM fun (line, idx) => compileLine idx line

end Compilation

section Evaluation

def PolicyRule.resourceMatch (rule : PolicyRule) (resource : String) : Bool :=
  match rule.resourcePrefix with
  | none | some "" => true
  | some pre       => startsWith resource pre

structure DecisionResult where
  effect       : PolicyEffect
  denyReason   : String
  matchedRules : List RuleMatch
  firedRules   : List String

-- The variables that the two loops update.
structure Evidence where
  matchedRules       : List RuleMatch := []
  seenAllow          : Bool := false
  seenEscalate       : Bool := false
  seenDeny           : Bool := false
  coveredActionClass : Bool := false

def visitRule (request : EvaluateRequest) (bundle : LoadedBundle) (seen : Evidence)
    (rule : PolicyRule) : Evidence :=
  if rule.actionClass ≠ request.actionClass then
    seen
  else
    let fired := rule.resourceMatch request.resource
    { matchedRules       := seen.matchedRules ++ [{
        ruleName    := rule.ruleName
        bundleName  := bundle.bundleName
        actionClass := rule.actionClass
        effect      := rule.effect
        fired       := fired
        matchReason := if fired then "resource_match" else "resource_mismatch" }]
      seenAllow          := seen.seenAllow || fired && rule.effect = .allow
      seenEscalate       := seen.seenEscalate || fired && rule.effect = .escalate
      seenDeny           := seen.seenDeny || fired && rule.effect = .deny
      coveredActionClass := true }

def visitBundles (request : EvaluateRequest) (bundles : List LoadedBundle) : Evidence :=
  bundles.foldl (fun seen bundle => bundle.rules.foldl (visitRule request bundle) seen) {}

def Evidence.firedRules (seen : Evidence) (effect : PolicyEffect) : List String :=
  seen.matchedRules.filter (fun r => r.fired ∧ r.effect = effect) |>.map (·.ruleName)

def evaluateWithBundles (request : EvaluateRequest) (bundles : List LoadedBundle) :
    DecisionResult :=
  match assertAdmissionEnvelope request with
  | .error denyReason => ⟨.deny, denyReason, [], []⟩
  | .ok ()            =>
    let seen := visitBundles request bundles
    if !seen.coveredActionClass then
      ⟨.deny, "no_policy_covers_action_class", seen.matchedRules, []⟩
    else if seen.seenDeny then
      ⟨.deny, "deny_rule_fired", seen.matchedRules, seen.firedRules .deny⟩
    else if seen.seenEscalate then
      ⟨.escalate, "", seen.matchedRules, seen.firedRules .escalate⟩
    else if seen.seenAllow then
      ⟨.allow, "", seen.matchedRules, seen.firedRules .allow⟩
    else
      ⟨.deny, "no_rule_fired", seen.matchedRules, []⟩

end Evaluation

end OpaIntegration
