import Mathlib.Order.Bounds.Basic
import AreFoundation.OpaIntegration.Evaluator

open EcmaScript

namespace OpaIntegration

namespace PolicyEffect

def severity : PolicyEffect → Nat
  | allow    => 0
  | escalate => 1
  | deny     => 2

theorem severity_injective : Function.Injective severity := by
  intro a b h
  cases a <;> cases b <;> first | rfl | cases h

instance : LinearOrder PolicyEffect :=
  LinearOrder.lift' severity severity_injective

theorem le_def {a b : PolicyEffect} : a ≤ b ↔ a.severity ≤ b.severity :=
  Iff.rfl

theorem le_deny (a : PolicyEffect) : a ≤ deny := by
  cases a <;> simp [le_def, severity]

end PolicyEffect

structure PolicyRule.Fires (rule : PolicyRule) (request : EvaluateRequest) : Prop where
  actionClass : rule.actionClass = request.actionClass
  resource    : ∀ pre ∈ rule.resourcePrefix, pre.toList <+: request.resource.toList

variable {request : EvaluateRequest} {rule : PolicyRule} {rules : List PolicyRule}

instance : Decidable (rule.Fires request) :=
  decidable_of_iff
    (rule.actionClass = request.actionClass ∧
      ∀ pre ∈ rule.resourcePrefix, pre.toList <+: request.resource.toList)
    ⟨fun ⟨h₁, h₂⟩ => ⟨h₁, h₂⟩, fun ⟨h₁, h₂⟩ => ⟨h₁, h₂⟩⟩

theorem PolicyRule.resourceMatch_iff {resource : String} :
    rule.resourceMatch resource ↔ ∀ pre ∈ rule.resourcePrefix, pre.toList <+: resource.toList := by
  unfold resourceMatch
  split
  case h_1 h => simp [h]
  case h_2 h => simp [h]
  case h_3 h => simp [h, startsWith, List.isPrefixOf_iff_prefix]

def rulesOf (bundles : List LoadedBundle) : List PolicyRule :=
  bundles.flatMap (·.rules)

-- The rules with an effect that fire, and whether there are any.
def firing (request : EvaluateRequest) (rules : List PolicyRule) : List PolicyRule :=
  rules.filter (·.Fires request)

def Sees (request : EvaluateRequest) (rules : List PolicyRule) (effect : PolicyEffect) : Prop :=
  ∃ rule ∈ rules, rule.Fires request ∧ rule.effect = effect

def Evidence.saw (seen : Evidence) : PolicyEffect → Bool
  | .allow    => seen.seenAllow
  | .escalate => seen.seenEscalate
  | .deny     => seen.seenDeny

-- What the variables of the loops say about the rules that have been visited.
structure Evidence.Summarises (request : EvaluateRequest) (rules : List PolicyRule)
    (seen : Evidence) : Prop where
  saw     : ∀ effect, seen.saw effect ↔ Sees request rules effect
  fired   : ∀ effect, seen.firedRules effect =
              ((firing request rules).filter (·.effect = effect)).map (·.ruleName)
  covered : seen.coveredActionClass ↔ ∃ rule ∈ rules, rule.actionClass = request.actionClass

theorem Sees.mono (h : Sees request rules e) (hs : rules ⊆ rules') : Sees request rules' e :=
  have ⟨rule, hm, hr⟩ := h
  ⟨rule, hs hm, hr⟩

theorem Sees.covers (h : Sees request rules e) :
    ∃ rule ∈ rules, rule.actionClass = request.actionClass :=
  have ⟨rule, hm, hf, _⟩ := h
  ⟨rule, hm, hf.actionClass⟩

theorem sees_append : Sees request (rules ++ rules') e ↔
    Sees request rules e ∨ Sees request rules' e := by
  simp [Sees, or_and_right, exists_or]

theorem sees_singleton : Sees request [rule] e ↔ rule.Fires request ∧ rule.effect = e := by
  simp [Sees]

theorem firing_append :
    firing request (rules ++ rules') = firing request rules ++ firing request rules' :=
  List.filter_append ..

namespace Evidence.Summarises

variable {seen : Evidence}

theorem visitRule (h : seen.Summarises request rules) (bundle : LoadedBundle) (rule : PolicyRule) :
    (visitRule request bundle seen rule).Summarises request (rules ++ [rule]) := by
  by_cases ha : rule.actionClass = request.actionClass
  case neg =>
    have hf : ¬rule.Fires request := (ha ·.actionClass)
    simp only [OpaIntegration.visitRule, ha, ne_eq, not_false_eq_true, if_true]
    exact {
      saw e   := by simp [sees_append, sees_singleton, hf, h.saw]
      fired e := by simp [firing, hf, h.fired]
      covered := by simp [h.covered, or_and_right, exists_or, ha] }
  case pos =>
    have hf : rule.Fires request ↔ rule.resourceMatch request.resource :=
      ⟨fun hf => PolicyRule.resourceMatch_iff.mpr hf.resource,
        fun hr => ⟨ha, PolicyRule.resourceMatch_iff.mp hr⟩⟩
    simp only [OpaIntegration.visitRule, ha, ne_eq, not_true_eq_false, if_false]
    exact {
      saw e   := by
        rw [sees_append, sees_singleton, hf, ← h.saw]
        cases e <;> simp [Evidence.saw]
      fired e := by
        simp only [firing_append, List.filter_append, List.map_append, ← h.fired,
          Evidence.firedRules]
        by_cases hr : rule.resourceMatch request.resource <;> by_cases he : rule.effect = e
        all_goals simp [firing, hf, hr, he]
      covered := by simp [ha] }

theorem visitRules (h : seen.Summarises request rules) (bundle : LoadedBundle)
    (rules' : List PolicyRule) :
    (rules'.foldl (OpaIntegration.visitRule request bundle) seen).Summarises request
      (rules ++ rules') := by
  induction rules' generalizing seen rules
  case nil        => simpa using h
  case cons hd tl hi => simpa using hi <| h.visitRule bundle hd

theorem visitBundles (h : seen.Summarises request rules) (bundles : List LoadedBundle) :
    (bundles.foldl (fun seen bundle =>
      bundle.rules.foldl (OpaIntegration.visitRule request bundle) seen) seen).Summarises request
        (rules ++ rulesOf bundles) := by
  induction bundles generalizing seen rules
  case nil           => simpa [rulesOf] using h
  case cons hd tl hi => simpa [rulesOf] using hi <| h.visitRules hd hd.rules

theorem init (request : EvaluateRequest) : Summarises request [] {} where
  saw e   := by cases e <;> simp [Evidence.saw, Sees]
  fired e := rfl
  covered := by simp

end Evidence.Summarises

-- The outcomes of an evaluation, each with its condition on the rules as a set.
inductive Verdict (request : EvaluateRequest) (rules : List PolicyRule) :
    PolicyEffect → String → Prop
  | rejected (h : assertAdmissionEnvelope request = .error reason) : Verdict request rules .deny reason
  | denied (ok : assertAdmissionEnvelope request = .ok ()) (h : Sees request rules .deny) :
    Verdict request rules .deny "deny_rule_fired"
  | escalated (ok : assertAdmissionEnvelope request = .ok ()) (h : Sees request rules .escalate)
      (hd : ¬Sees request rules .deny) : Verdict request rules .escalate ""
  | allowed (ok : assertAdmissionEnvelope request = .ok ()) (h : Sees request rules .allow)
      (hd : ¬Sees request rules .deny) (he : ¬Sees request rules .escalate) :
    Verdict request rules .allow ""
  | noRuleFired (ok : assertAdmissionEnvelope request = .ok ())
      (hc : ∃ rule ∈ rules, rule.actionClass = request.actionClass)
      (h : ∀ e, ¬Sees request rules e) : Verdict request rules .deny "no_rule_fired"
  | notCovered (ok : assertAdmissionEnvelope request = .ok ())
      (hc : ¬∃ rule ∈ rules, rule.actionClass = request.actionClass) :
    Verdict request rules .deny "no_policy_covers_action_class"

theorem visitBundles_summarises (request : EvaluateRequest) (bundles : List LoadedBundle) :
    (visitBundles request bundles).Summarises request (rulesOf bundles) :=
  (Evidence.Summarises.init request).visitBundles bundles

theorem evaluateWithBundles_verdict (request : EvaluateRequest) (bundles : List LoadedBundle) :
    Verdict request (rulesOf bundles) (evaluateWithBundles request bundles).effect
      (evaluateWithBundles request bundles).denyReason := by
  have hs := visitBundles_summarises request bundles
  have hd := hs.saw .deny
  have he := hs.saw .escalate
  have ha := hs.saw .allow
  simp only [Evidence.saw] at hd he ha
  unfold evaluateWithBundles
  split
  case h_1 h  => exact .rejected h
  case h_2 ok =>
    dsimp only
    split_ifs with h₁ h₂ h₃ h₄
    case pos => exact .notCovered ok (hs.covered.not.mp (by simpa using h₁))
    case pos => exact .denied ok (hd.mp h₂)
    case pos => exact .escalated ok (he.mp h₃) (hd.not.mp h₂)
    case pos => exact .allowed ok (ha.mp h₄) (hd.not.mp h₂) (he.not.mp h₃)
    case neg =>
      refine .noRuleFired ok (hs.covered.mp (by simpa using h₁)) ?_
      rintro (_ | _ | _)
      exacts [ha.not.mp h₄, hd.not.mp h₂, he.not.mp h₃]

theorem firing_eq_nil_iff : firing request rules = [] ↔ ∀ e, ¬Sees request rules e := by
  simp only [firing, Sees, List.filter_eq_nil_iff, decide_eq_true_eq]
  constructor
  case mp  => exact fun h _ ⟨rule, hm, hf, _⟩ => h rule hm hf
  case mpr => exact fun h rule hm hf => h _ ⟨rule, hm, hf, rfl⟩

theorem evaluateWithBundles_firedRules (bundles : List LoadedBundle)
    (ok : assertAdmissionEnvelope request = .ok ()) :
    (evaluateWithBundles request bundles).firedRules =
      ((firing request <| rulesOf bundles).filter
        (·.effect = (evaluateWithBundles request bundles).effect)).map (·.ruleName) := by
  have hs := visitBundles_summarises request bundles
  simp only [evaluateWithBundles, ok]
  split_ifs with h₁ h₂ h₃ h₄
  case pos =>
    have hn : firing request (rulesOf bundles) = [] := by
      rw [firing_eq_nil_iff]
      intro e he
      simp [hs.covered.mpr he.covers] at h₁
    simp [hn]
  case neg =>
    have hn : firing request (rulesOf bundles) = [] := by
      rw [firing_eq_nil_iff]
      rintro (_ | _ | _)
      exacts [(hs.saw .allow).not.mp h₄, (hs.saw .deny).not.mp h₂, (hs.saw .escalate).not.mp h₃]
    simp [hn]
  all_goals exact hs.fired _

namespace Verdict

variable {request' : EvaluateRequest} {rules' : List PolicyRule} {e e' : PolicyEffect} {d d' : String}

-- Nothing else about the request and the rules matters.
theorem congr (h : Verdict request rules e d)
    (ha : assertAdmissionEnvelope request = assertAdmissionEnvelope request')
    (hc : request.actionClass = request'.actionClass) (hr : request.resource = request'.resource)
    (hm : ∀ {rule}, rule ∈ rules ↔ rule ∈ rules') : Verdict request' rules' e d := by
  have fires : ∀ {rule : PolicyRule}, rule.Fires request ↔ rule.Fires request' :=
    ⟨fun ⟨h₁, h₂⟩ => ⟨hc ▸ h₁, hr ▸ h₂⟩, fun ⟨h₁, h₂⟩ => ⟨hc ▸ h₁, hr ▸ h₂⟩⟩
  have sees : ∀ {e}, Sees request rules e ↔ Sees request' rules' e := by simp [Sees, fires, hm]
  have covers : (∃ rule ∈ rules, rule.actionClass = request.actionClass) ↔
      ∃ rule ∈ rules', rule.actionClass = request'.actionClass := by simp [hm, hc]
  cases h
  case rejected h          => exact .rejected (ha ▸ h)
  case denied ok h         => exact .denied (ha ▸ ok) (sees.mp h)
  case escalated ok h hd   => exact .escalated (ha ▸ ok) (sees.mp h) (sees.not.mp hd)
  case allowed ok h hd he  =>
    exact .allowed (ha ▸ ok) (sees.mp h) (sees.not.mp hd) (sees.not.mp he)
  case noRuleFired ok hc h =>
    exact .noRuleFired (ha ▸ ok) (covers.mp hc) fun _ => sees.not.mp (h _)
  case notCovered ok hc    => exact .notCovered (ha ▸ ok) (covers.not.mp hc)

theorem unique (h : Verdict request rules e d) (h' : Verdict request rules e' d') :
    e = e' ∧ d = d' := by
  cases h <;> cases h' <;> simp_all
  all_goals
    have ⟨rule, hm, hc⟩ := ‹Sees request rules _›.covers
    exact ‹∀ rule ∈ rules, rule.actionClass ≠ request.actionClass› rule hm hc

theorem isGreatest (h : Verdict request rules e d) (ok : assertAdmissionEnvelope request = .ok ())
    (hs : Sees request rules s) : IsGreatest { e | Sees request rules e } e := by
  cases h
  case rejected h          => simp [ok] at h
  case denied h            => exact ⟨h, fun e _ => e.le_deny⟩
  case escalated h hd      =>
    refine ⟨h, ?_⟩
    rintro (_ | _ | _) he
    case deny => exact absurd he hd
    all_goals decide
  case allowed h hd he     =>
    refine ⟨h, ?_⟩
    rintro (_ | _ | _) h
    case deny     => exact absurd h hd
    case escalate => exact absurd h he
    case allow    => exact le_rfl
  case noRuleFired h       => exact absurd hs (h s)
  case notCovered hc       => exact absurd hs.covers hc

theorem eq_deny (h : Verdict request rules e d) (hs : ∀ s, ¬Sees request rules s) : e = .deny := by
  cases h
  case escalated h _ => exact absurd h (hs _)
  case allowed h _ _ => exact absurd h (hs _)
  all_goals rfl

theorem eq_deny_of_sees (h : Verdict request rules e d) (hs : Sees request rules .deny) :
    e = .deny := by
  cases h
  case escalated hd => exact absurd hs hd
  case allowed hd _ => exact absurd hs hd
  all_goals rfl

-- A rule that is added and is no `ALLOW` rule does not help to an `ALLOW`.
theorem ne_allow (h : Verdict request rules e d) (h' : Verdict request rules' e' d')
    (hs : rules ⊆ rules') (hn : ∀ rule ∈ rules', rule ∈ rules ∨ rule.effect ≠ .allow)
    (he : e ≠ .allow) : e' ≠ .allow := by
  rintro rfl
  cases h'
  case allowed ok ha hd hx =>
    have ⟨rule, hm, hf, hr⟩ := ha
    have hm : rule ∈ rules := (hn rule hm).resolve_right (· hr)
    have hg := h.isGreatest ok ⟨rule, hm, hf, hr⟩
    cases e
    case allow    => exact he rfl
    case deny     => exact hd <| hg.left.mono hs
    case escalate => exact hx <| hg.left.mono hs

end Verdict

section Bundles

variable {bundles bundles' : List LoadedBundle}

theorem evaluateWithBundles_congr (h : ∀ {rule}, rule ∈ rulesOf bundles ↔ rule ∈ rulesOf bundles') :
    (evaluateWithBundles request bundles).effect = (evaluateWithBundles request bundles').effect ∧
    (evaluateWithBundles request bundles).denyReason =
      (evaluateWithBundles request bundles').denyReason :=
  (evaluateWithBundles_verdict request bundles).congr rfl rfl rfl h
    |>.unique <| evaluateWithBundles_verdict request bundles'

-- The bundles in another order, each with its rules in another order.
def Rearranged (bundles bundles' : List LoadedBundle) : Prop :=
  ∃ l, bundles.Perm l ∧ List.Forall₂ (fun b b' => b.rules.Perm b'.rules) l bundles'

theorem Rearranged.mem_rulesOf_iff (h : Rearranged bundles bundles') :
    rule ∈ rulesOf bundles ↔ rule ∈ rulesOf bundles' := by
  have ⟨l, hp, hf⟩ := h
  trans rule ∈ rulesOf l
  case _ => exact (hp.flatMap_right _).mem_iff
  case _ =>
    clear h hp
    induction hf
    case nil          => rfl
    case cons hr _ hi => simpa [rulesOf, hr.mem_iff] using or_congr_right hi

-- The bundles with one more rule in one of them.
inductive RuleAdded (rule : PolicyRule) : List LoadedBundle → List LoadedBundle → Prop
  | intro (hb : b.rules = r₁ ++ r₂) (hb' : b'.rules = r₁ ++ rule :: r₂) :
    RuleAdded rule (l₁ ++ b :: l₂) (l₁ ++ b' :: l₂)

theorem RuleAdded.mem_rulesOf_iff (h : RuleAdded added bundles bundles') :
    rule ∈ rulesOf bundles' ↔ rule ∈ rulesOf bundles ∨ rule = added := by
  have ⟨hb, hb'⟩ := h
  simp only [rulesOf, List.flatMap_append, List.flatMap_cons, List.mem_append, hb, hb',
    List.mem_cons]
  tauto

theorem evaluateWithBundles_strictest (request : EvaluateRequest) (bundles : List LoadedBundle) :
    (∀ reason, assertAdmissionEnvelope request = .error reason →
      (evaluateWithBundles request bundles).effect = .deny) ∧
    (assertAdmissionEnvelope request = .ok () →
      (firing request (rulesOf bundles) = [] →
        (evaluateWithBundles request bundles).effect = .deny) ∧
      (firing request (rulesOf bundles) ≠ [] →
        IsGreatest { e | e ∈ (firing request <| rulesOf bundles).map (·.effect) }
          (evaluateWithBundles request bundles).effect) ∧
      (evaluateWithBundles request bundles).firedRules =
        ((firing request <| rulesOf bundles).filter
          (·.effect = (evaluateWithBundles request bundles).effect)).map (·.ruleName)) ∧
    (∀ bundles', Rearranged bundles bundles' →
      (evaluateWithBundles request bundles').effect =
        (evaluateWithBundles request bundles).effect) ∧
    (∀ rule bundles', RuleAdded rule bundles bundles' → rule.effect ≠ .allow →
      (evaluateWithBundles request bundles).effect ≠ .allow →
      (evaluateWithBundles request bundles').effect ≠ .allow) := by
  have hv := evaluateWithBundles_verdict request bundles
  refine ⟨?rejected, ?admitted, ?rearranged, ?added⟩
  case rejected =>
    intro reason h
    simp [evaluateWithBundles, h]
  case admitted =>
    intro ok
    refine ⟨hv.eq_deny ∘ firing_eq_nil_iff.mp, ?_, evaluateWithBundles_firedRules bundles ok⟩
    intro hf
    have ⟨s, hs⟩ : ∃ s, Sees request (rulesOf bundles) s := by
      simpa [firing_eq_nil_iff] using hf
    have hm : { e | e ∈ (firing request <| rulesOf bundles).map (·.effect) } =
        { e | Sees request (rulesOf bundles) e } := by
      ext e
      simp [firing, Sees, and_assoc]
    exact hm ▸ hv.isGreatest ok hs
  case rearranged =>
    intro bundles' hr
    exact (evaluateWithBundles_congr hr.mem_rulesOf_iff).left.symm
  case added =>
    intro rule bundles' ha hr
    refine hv.ne_allow (evaluateWithBundles_verdict request bundles') ?_ ?_
    case _ => exact fun _ hm => ha.mem_rulesOf_iff.mpr (.inl hm)
    case _ =>
      intro r hm
      rcases ha.mem_rulesOf_iff.mp hm with hm | rfl
      exacts [.inl hm, .inr hr]

end Bundles

end OpaIntegration
