import AreFoundation.OpaIntegration.Theorems.Compiler
import AreFoundation.OpaIntegration.Theorems.Errors

open EcmaScript

namespace OpaIntegration

section Admission

variable {request : EvaluateRequest}

-- A metric that is reported stays below its cap. One of which the name is inherited by every object is
-- never left out.
def Below (metadata : OrderedMap String String) (metric : String) (cap : Number) : Prop :=
  property metadata metric ≠ .undefined → property metadata metric ≠ .text "" →
    (property metadata metric).toNumber ≠ .nan ∧ ¬(property metadata metric).toNumber.gt cap

-- An envelope without scopes does not restrict the action.
structure AdmissionEnvelope.Admits (env : AdmissionEnvelope) (request : EvaluateRequest) : Prop where
  scope : env.admittedScopes ≠ [] → ∃ pat ∈ env.admittedScopes, scopeAdmits request.actionClass pat
  caps  : ∀ metric cap, (metric, cap) ∈ env.admittedBehavioralCaps.entries →
            Below request.context.actionMetadata metric cap

-- Every object has a constructor, also one that reports nothing.
example : assertCaps {} [("constructor", .finite 5)] =
    .error "admission_cap_invalid_numeric:constructor" := by
  decide +kernel

end Admission

namespace OpaIntegrationService

variable [Sha256] [Ed25519]

-- The payloads that the registry returns in a step.
def supplied (_ : OpaIntegrationService) : Op → Set (BundlePayload × LoadEnv)
  | .startupLoadBundles registry env =>
    {p | ∃ active, registry.getActiveBundles = .ok active ∧ p.1 ∈ active ∧ p.2 = env p.1}
  | .reloadBundle bundleName registry env =>
    {p | registry.getActiveBundle bundleName = .ok p.1 ∧ p.2 = env}
  | .handleLifecycleEvent event registry env =>
    {p | (registry.getActiveBundle event.bundleName = .ok p.1 ∨
      ∃ version, registry.getBundle event.bundleName version = .ok p.1) ∧ p.2 = env}
  | .evaluate .. => ∅

-- The bundle has been made from one of the payloads.
def CompiledIn (B : Set (BundlePayload × LoadEnv)) (b : LoadedBundle) : Prop :=
  ∃ p ∈ B, compileBundle p.1 p.2 = .ok b

variable {s : OpaIntegrationService} {B : Set (BundlePayload × LoadEnv)}

theorem CompiledIn.mono (h : CompiledIn B b) (hs : B ⊆ B') : CompiledIn B' b :=
  h.imp fun _ h => ⟨hs h.left, h.right⟩

theorem mem_of_loadBundleFromPayload
    (h : (name, b) ∈ (s.loadBundleFromPayload payload startupStrict env).2.loadedByName) :
    (name, b) ∈ s.loadedByName ∨ compileBundle payload env = .ok b := by
  cases hc : compileBundle payload env
  case error     => rw [loadBundleFromPayload_of_error hc] at h; exact .inl h
  case ok loaded =>
    simp only [loadBundleFromPayload, hc] at h
    rcases OrderedMap.mem_set.mp h with ⟨_, rfl⟩ | ⟨_, h⟩
    case inl => exact .inr rfl
    case inr => exact .inl h

theorem mem_of_loadAll {env : BundlePayload → LoadEnv} {active : List BundlePayload}
    (h : (name, b) ∈ (loadAll env s active).2.loadedByName) :
    (name, b) ∈ s.loadedByName ∨ ∃ payload ∈ active, compileBundle payload (env payload) = .ok b := by
  induction active generalizing s
  case nil => exact .inl h
  case cons payload active hi =>
    have loaded {result s'} (hl : s.loadBundleFromPayload payload true (env payload) = (result, s'))
        (h : (name, b) ∈ s'.loadedByName) : (name, b) ∈ s.loadedByName ∨
          ∃ payload' ∈ payload :: active, compileBundle payload' (env payload') = .ok b := by
      rw [← show (s.loadBundleFromPayload payload true (env payload)).2 = s' from by rw [hl]] at h
      exact (mem_of_loadBundleFromPayload h).imp_right (⟨payload, List.mem_cons_self, ·⟩)
    simp only [loadAll] at h
    split at h
    case h_1 hl => exact loaded hl h
    case h_2 hl =>
      rcases hi h with h | ⟨payload', hm, hc⟩
      case inl => exact loaded hl h
      case inr => exact .inr ⟨payload', List.mem_cons_of_mem _ hm, hc⟩

-- Bundles come from nowhere else.
theorem mem_of_step {op : Op} (h : (name, b) ∈ (s.step op).loadedByName) :
    (name, b) ∈ s.loadedByName ∨ CompiledIn (s.supplied op) b := by
  cases op
  case evaluate => exact .inl (mem_evaluate.mp h).left
  case startupLoadBundles registry env =>
    simp only [step, startupLoadBundles] at h
    split at h
    case h_1 => exact .inl h
    case h_2 => exact .inl h
    case h_3 active _ ha =>
      refine (mem_of_loadAll h).imp_right ?_
      rintro ⟨payload, hm, hc⟩
      exact ⟨(payload, env payload), ⟨active, ha, hm, rfl⟩, hc⟩
  case reloadBundle bundleName registry env =>
    simp only [step, reloadBundle] at h
    split at h
    case isTrue  => exact .inl h
    case isFalse =>
      split at h
      case h_1 => exact .inl h
      case h_2 active ha =>
        split at h
        case h_1 => exact .inl h
        case h_2 =>
          exact (mem_of_loadBundleFromPayload h).imp_right (⟨(active, env), ⟨ha, rfl⟩, ·⟩)
  case handleLifecycleEvent event registry env =>
    simp only [step, handleLifecycleEvent] at h
    split at h
    case h_1 =>
      split at h
      case h_1 => exact .inl h
      case h_2 payload hf =>
        refine (mem_of_loadBundleFromPayload h).imp_right (⟨(payload, env), ⟨?_, rfl⟩, ·⟩)
        split at hf
        case h_3 version _ _ => exact .inr ⟨version, hf⟩
        all_goals exact .inl hf
    case h_2 => exact .inl (OrderedMap.mem_delete.mp h).left
    case h_3 => exact .inl h

-- Everything that is selected or loaded comes from the payloads.
structure Supplied (A : Set Query) (B : Set (BundlePayload × LoadEnv)) (s : OpaIntegrationService) :
    Prop where
  traced   : Traced A s
  loaded   : ∀ {name b}, (name, b) ∈ s.loadedByName → CompiledIn B b
  selected : ∀ {q b}, q ∈ A → b ∈ q.selected → CompiledIn B b

theorem Supplied.step {A : Set Query} {op : Op} (h : Supplied A B s) (ho : op.MayThrow) :
    Supplied (A ∪ s.queries op) (B ∪ s.supplied op) (s.step op) where
  traced := h.traced.step ho
  loaded hm := by
    rcases mem_of_step hm with hm | hc
    case inl => exact (h.loaded hm).mono Set.subset_union_left
    case inr => exact hc.mono Set.subset_union_right
  selected hq hb := by
    refine CompiledIn.mono ?_ Set.subset_union_left
    rcases hq with hq | hq
    case inl => exact h.selected hq hb
    case inr =>
      obtain ⟨_, _, _, _, _, _, hs, _⟩ := evaluate_of_query hq
      exact h.loaded (mem_loadedByName_of_selected (hs ▸ hb))

theorem run_supplied (r : Run (fun _ op => op.MayThrow) (new ttl maxEntries) s) :
    Supplied (r.collect queries) (r.collect supplied) s :=
  r.invariant_fold₂ (P := Supplied) (fun h _ c => h.step c)
    ⟨traced_new, (nomatch ·), (nomatch ·)⟩

end OpaIntegrationService

namespace Sample

open OpaIntegrationService
open scoped Sha256.Standard

end Sample

end OpaIntegration
