import AreFoundation.OpaIntegration.Theorems.Errors

namespace OpaIntegration

namespace OpaIntegrationService

variable {s : OpaIntegrationService}

theorem selectBundles_of_not_loaded (h : ∀ b, (name, b) ∉ s.loadedByName) :
    s.selectBundles [name] = [] := by
  refine List.filter_eq_nil_iff.mpr fun b hb => ?_
  have ⟨k, hk⟩ := OrderedMap.mem_values.mp hb
  have hn : b.bundleName ≠ name := fun hn => h b (hn ▸ s.named hk ▸ hk)
  simpa using hn

theorem selectBundles_of_loaded (h : (name, b) ∈ s.loadedByName) :
    b ∈ s.selectBundles [name] := by
  refine List.mem_filter.mpr ⟨OrderedMap.mem_values.mpr ⟨_, h⟩, ?_⟩
  simpa using s.named h

end OpaIntegrationService

section Order

variable [Sha256] [Ed25519]

def activated (bundleName version : String) : PolicyLifecycleEvent where
  eventType     := .bundleActivated
  bundleName    := bundleName
  bundleVersion := some version

def deprecated (bundleName version : String) : PolicyLifecycleEvent where
  eventType     := .bundleDeprecated
  bundleName    := bundleName
  bundleVersion := some version

-- The registry has the bundle at this version, and it can be loaded.
structure Provides (registry : PolicyRegistryClient) (bundleName version : String) (env : LoadEnv)
    (bundle : LoadedBundle) : Prop where
  payload : ∃ payload, (activated bundleName version).payload registry = .ok payload ∧
              OpaIntegrationService.compileBundle payload env = .ok bundle
  name    : bundle.bundleName = bundleName
  version : bundle.version = version

namespace OpaIntegrationService

variable {s : OpaIntegrationService} {name : String} {b bundle : LoadedBundle}

theorem mem_activated (h : Provides registry bundleName version env bundle) :
    (name, b) ∈ (s.handleLifecycleEvent (activated bundleName version) registry env).2.loadedByName ↔
      (name = bundleName ∧ b = bundle) ∨ (name ≠ bundleName ∧ (name, b) ∈ s.loadedByName) := by
  obtain ⟨payload, hp, hc⟩ := h.payload
  have step : (s.handleLifecycleEvent (activated bundleName version) registry env).2 =
      (s.loadBundleFromPayload payload false env).2 := by
    simp only [handleLifecycleEvent, activated]
    split
    case h_1 he => cases hp.symm.trans he
    case h_2 he => cases hp.symm.trans he; rfl
  rw [step, loadBundleFromPayload, hc, ← h.name]
  exact OrderedMap.mem_set

-- The version that the event names is not compared with the one that is loaded.
theorem mem_deprecated :
    (name, b) ∈ (s.handleLifecycleEvent (deprecated bundleName version) registry env).2.loadedByName ↔
      (name, b) ∈ s.loadedByName ∧ name ≠ bundleName :=
  OrderedMap.mem_delete

-- Whatever version is loaded before and is deprecated, only the order in which it is deprecated
-- first leaves the new one in force.
theorem deprecated_removes_activated (hp : Provides registry name v₂ env bundle) :
    let first := (s.handleLifecycleEvent (activated name v₂) registry env).2
    let replaced := (first.handleLifecycleEvent (deprecated name v₁) registry' env').2
    let second := (s.handleLifecycleEvent (deprecated name v₁) registry' env').2
    let kept := (second.handleLifecycleEvent (activated name v₂) registry env).2
    (∀ b', (name, b') ∉ replaced.loadedByName) ∧ replaced.selectBundles [name] = [] ∧
    (name, bundle) ∈ kept.loadedByName ∧ bundle.version = v₂ ∧
    bundle ∈ kept.selectBundles [name] := by
  intro first replaced second kept
  have gone : ∀ b', (name, b') ∉ replaced.loadedByName :=
    fun _ h => (mem_deprecated.mp h).right rfl
  have loaded : (name, bundle) ∈ kept.loadedByName := (mem_activated hp).mpr <| .inl ⟨rfl, rfl⟩
  exact ⟨gone, selectBundles_of_not_loaded gone, loaded, hp.version,
    selectBundles_of_loaded loaded⟩

end OpaIntegrationService

end Order

namespace Sample

open OpaIntegrationService

open scoped Sha256.Standard

def nextVersion : BundlePayload :=
  { payload "b1" "ALLOW action=READ prefix=a" with bundleId := "b1-2.0.0", version := "2.0.0" }

def publishing : PolicyRegistryClient where
  getActiveBundles  := .ok [nextVersion]
  getActiveBundle _ := .ok nextVersion
  getBundle _ _     := .ok nextVersion

def nextBundle : LoadedBundle where
  bundleName   := "b1"
  bundleId     := "b1-2.0.0"
  version      := "2.0.0"
  loadedTs     := 0
  ruleCount    := 1
  compileValid := true
  rules        := [{
    ruleName       := "allow_rule_1"
    actionClass    := "READ"
    effect         := .allow
    resourcePrefix := "a" }]

theorem provides_nextBundle : Provides publishing "b1" "2.0.0" ⟨0, 0, none⟩ nextBundle where
  payload := ⟨nextVersion, rfl, by decide +kernel⟩
  name    := rfl
  version := rfl

theorem deprecated_removes_activated_started :
    ("b1", nextBundle) ∈ ((started.handleLifecycleEvent (deprecated "b1" "1.0.0") publishing
      ⟨0, 0, none⟩).2.handleLifecycleEvent (activated "b1" "2.0.0") publishing
      ⟨0, 0, none⟩).2.loadedByName :=
  (deprecated_removes_activated provides_nextBundle).2.2.1

def replaced : OpaIntegrationService :=
  ((started.handleLifecycleEvent (activated "b1" "2.0.0") publishing ⟨0, 0, none⟩).2
    |>.handleLifecycleEvent (deprecated "b1" "1.0.0") publishing ⟨0, 0, none⟩).2

def kept : OpaIntegrationService :=
  ((started.handleLifecycleEvent (deprecated "b1" "1.0.0") publishing ⟨0, 0, none⟩).2
    |>.handleLifecycleEvent (activated "b1" "2.0.0") publishing ⟨0, 0, none⟩).2

def effectOf (s : OpaIntegrationService) : Option PolicyEffect :=
  (s.evaluate (request "a|b" "c") 0 (.ok none) defaultEvaluator).1.toOption.map (·.effect)

-- The replacement is removed together with the version that it supersedes.
theorem replacement_removed :
    Nonempty (Run (fun _ op => op.MayThrow) (new 30 10000) started) ∧
    (started.loadedByName.get? "b1").map (·.version) = some "1.0.0" ∧
    replaced.loadedByName.get? "b1" = none ∧ effectOf replaced = some .deny ∧
    (kept.loadedByName.get? "b1").map (·.version) = some "2.0.0" ∧
    effectOf kept = some .allow := by
  refine ⟨⟨.ofSchedule [startup [payload "b1" "ALLOW action=READ prefix=a|"]]
    ⟨trivial, trivial, trivial⟩⟩, ?_, ?_, ?_, ?_, ?_⟩
  all_goals decide +kernel

end Sample

end OpaIntegration
