import AreFoundation.OpaIntegration.Theorems.Transparency

namespace OpaIntegration

-- The payload that is loaded if the event activates a bundle.
def PolicyLifecycleEvent.payload (event : PolicyLifecycleEvent) (registry : PolicyRegistryClient) :
    Except String BundlePayload :=
  match event.bundleVersion with
  | none | some "" => registry.getActiveBundle event.bundleName
  | some version   => registry.getBundle event.bundleName version

theorem EvaluateRequest.effective_eq {request effective : EvaluateRequest}
    (h : request.effective fetched = .ok effective) :
    effective.actionClass = request.actionClass ∧ effective.resource = request.resource ∧
      effective.bundleNames = request.bundleNames := by
  unfold EvaluateRequest.effective at h
  split at h
  case h_1 => cases h; exact ⟨rfl, rfl, rfl⟩
  case h_2 =>
    cases fetched
    case error => cases h
    case ok    => cases h; exact ⟨rfl, rfl, rfl⟩

namespace OpaIntegrationService

variable {s : OpaIntegrationService} {name : String} {b : LoadedBundle}

section Errors

variable {selected : List LoadedBundle}

theorem errorsOf_recordError (h : name ≠ bundle.bundleName) :
    (s.recordError bundle).errorsOf name = s.errorsOf name := by
  unfold recordError
  dsimp only
  split
  all_goals exact congrArg (Option.getD · 0) (OrderedMap.get?_set_of_ne h)

-- Every selected bundle is counted once, so that the count before the loop decides.
theorem mem_foldl_recordError (hd : (selected.map (·.bundleName)).Nodup) :
    (name, b) ∈ (selected.foldl recordError s).loadedByName ↔
      (name, b) ∈ s.loadedByName ∧
        (name ∈ selected.map (·.bundleName) → s.errorsOf name < 9) := by
  induction selected generalizing s
  case nil => simp
  case cons bundle tl hi =>
    rw [List.map_cons, List.nodup_cons] at hd
    rw [List.foldl_cons, hi hd.right, mem_recordError, and_assoc, List.map_cons, List.mem_cons,
      or_imp]
    refine and_congr_right fun _ => and_congr_right fun _ => ?_
    by_cases hn : name = bundle.bundleName
    case pos =>
      have : name ∉ tl.map (·.bundleName) := hn ▸ hd.left
      simp [this]
    case neg => rw [errorsOf_recordError hn]

theorem selectBundles_nodup (s : OpaIntegrationService) (bundleNames : List String) :
    ((s.selectBundles bundleNames).map (·.bundleName)).Nodup := by
  have hn : s.loadedByName.values.map (·.bundleName) = s.loadedByName.keys := by
    rw [OrderedMap.values, List.map_map]
    exact List.map_congr_left fun _ he => s.named he
  have nodup : (s.loadedByName.values.map (·.bundleName)).Nodup := hn ▸ s.loadedByName.nodup
  unfold selectBundles
  split
  case isTrue  => exact nodup
  case isFalse => exact nodup.sublist <| List.filter_sublist.map _

end Errors

section Step

variable [Sha256]

-- The evaluator is called for the query and throws.
def Fails (s : OpaIntegrationService) (q : Query) : Op → Prop
  | .evaluate _ now _ evaluator =>
    (s.cache.get q.key now).1 = none ∧ q.respond now evaluator = none
  | _ => False

-- The tenth consecutive error, or a later one, of a bundle that is selected for the query.
def Unloads (s : OpaIntegrationService) (name : String) (op : Op) : Prop :=
  ∃ q, s.query? op = some q ∧ s.Fails q op ∧ name ∈ q.selected.map (·.bundleName) ∧
    9 ≤ s.errorsOf name

theorem mem_evaluate :
    (name, b) ∈ (s.evaluate request now fetched evaluator).2.loadedByName ↔
      (name, b) ∈ s.loadedByName ∧ ¬s.Unloads name (.evaluate request now fetched evaluator) := by
  cases hq : s.query? (.evaluate request now fetched evaluator)
  case none =>
    have ⟨_, he⟩ := evaluate_of_no_query hq
    simp [he, Unloads, hq]
  case some q =>
    obtain ⟨_, _, _, _, ho, _, hs, he⟩ := evaluate_of_query hq
    cases ho
    have hv := evaluateEffective_cases hs now evaluator
    rw [he]
    generalize (s.evaluateEffective q.request now evaluator).1 = value at hv
    generalize (s.evaluateEffective q.request now evaluator).2 = s' at hv ⊢
    cases hv
    case hit hg _ _ hl =>
      have hn : (s.cache.get q.key now).1 ≠ none := Option.isSome_iff_ne_none.mp hg
      simp [hl, Unloads, hq, Fails, hn]
    case answered _ hr hl _ => simp [hl, Unloads, hq, Fails, hr]
    case failed hg hr =>
      rw [mem_foldl_recordError (hs ▸ s.selectBundles_nodup _)]
      simp [Unloads, hq, Fails, hg, hr, errorsOf]

variable [Ed25519]

-- The payload is loaded under the name of the bundle.
def Loads (name : String) (payload : BundlePayload) (env : LoadEnv) : Prop :=
  payload.bundleName = name ∧ ∃ loaded, compileBundle payload env = .ok loaded

-- The bundle is deprecated or replaced.
def Touches (s : OpaIntegrationService) (name : String) : Op → Prop
  | .startupLoadBundles registry env =>
    ∃ active, registry.getActiveBundles = .ok active ∧
      ∃ payload ∈ active, Loads name payload (env payload)
  | .evaluate .. => False
  | .reloadBundle bundleName registry env =>
    ∃ payload, registry.getActiveBundle bundleName = .ok payload ∧ Loads name payload env ∧
      ∀ existing ∈ s.loadedByName.get? bundleName, existing.version ≠ payload.version
  | .handleLifecycleEvent event registry env =>
    match event.eventType with
    | .bundleActivated  => ∃ payload, event.payload registry = .ok payload ∧ Loads name payload env
    | .bundleDeprecated => event.bundleName = name
    | .other            => False

theorem mem_loadBundleFromPayload (h : (name, b) ∈ s.loadedByName) (hn : ¬Loads name payload env)
    (startupStrict : Bool) :
    (name, b) ∈ (s.loadBundleFromPayload payload startupStrict env).2.loadedByName := by
  cases hc : compileBundle payload env
  case error     => exact (loadBundleFromPayload_of_error hc startupStrict).symm ▸ h
  case ok loaded =>
    simp only [loadBundleFromPayload, hc]
    apply OrderedMap.mem_set.mpr
    refine .inr ⟨?_, h⟩
    rintro rfl
    exact hn ⟨(compileBundle_bundleName hc).symm, loaded, hc⟩

theorem mem_loadAll (h : (name, b) ∈ s.loadedByName) {env : BundlePayload → LoadEnv}
    (hn : ∀ payload ∈ active, ¬Loads name payload (env payload)) :
    (name, b) ∈ (loadAll env s active).2.loadedByName := by
  induction active generalizing s
  case nil => exact h
  case cons payload _ hi =>
    have hm := mem_loadBundleFromPayload h (hn payload <| .head _) true
    simp only [loadAll]
    split
    all_goals rename_i hl; rw [hl] at hm
    case h_1 => exact hm
    case h_2 => exact hi hm fun payload hp => hn payload (.tail _ hp)

theorem mem_step (h : (name, b) ∈ s.loadedByName) (ht : ¬s.Touches name op)
    (hu : ¬s.Unloads name op) : (name, b) ∈ (s.step op).loadedByName := by
  cases op
  case evaluate => exact mem_evaluate.mpr ⟨h, hu⟩
  case startupLoadBundles registry env =>
    simp only [step, startupLoadBundles]
    split
    case h_3 active _ ha =>
      apply mem_loadAll h
      exact fun payload hp hl => ht ⟨active, ha, payload, hp, hl⟩
    all_goals exact h
  case reloadBundle bundleName registry env =>
    simp only [step, reloadBundle]
    split
    case isTrue  => exact h
    case isFalse =>
      split
      case h_1            => exact h
      case h_2 payload hp =>
        split
        case h_1    => exact h
        case h_2 hv =>
          apply mem_loadBundleFromPayload h
          intro hl
          refine ht ⟨payload, hp, hl, ?_⟩
          intro existing he
          simpa [Option.mem_def.mp he, Option.filter_some] using hv
  case handleLifecycleEvent event registry env =>
    cases he : event.eventType
    all_goals
      simp only [step, handleLifecycleEvent, he]
      simp only [Touches, he] at ht
    case bundleActivated =>
      split
      case h_1            => exact h
      case h_2 payload hp =>
        apply mem_loadBundleFromPayload h
        exact fun hl => ht ⟨payload, hp, hl⟩
    case bundleDeprecated => exact OrderedMap.mem_delete.mpr ⟨h, fun hn => ht hn.symm⟩
    case other            => exact h

-- The steps of a run in which a bundle is never deprecated, replaced or unloaded.
def Keeps (name : String) : Transition.Guard OpaIntegrationService Op :=
  fun s op => op.MayThrow ∧ ¬s.Touches name op ∧ ¬s.Unloads name op

theorem run_keeps (r : Run (Keeps name) s₁ s₂) (h : (name, b) ∈ s₁.loadedByName) :
    (name, b) ∈ s₂.loadedByName := by
  apply r.invariant (P := fun s => (name, b) ∈ s.loadedByName)
  case h => exact fun h _ c => mem_step h c.right.left c.right.right
  case a => exact h

theorem run_evaluate_denies {A : Set Query}
    (r₁ : Run (fun _ op => op.MayThrow) (new ttl maxEntries) s₁)
    (hb : (name, b) ∈ s₁.loadedByName) (r₂ : Run (Keeps name) s₁ s₂)
    (hr : rule ∈ b.rules) (hf : rule.Fires request) (hd : rule.effect = .deny)
    (hn : request.bundleNames = []) (he : MayThrow evaluator)
    (hq : s₂.query? (.evaluate request now fetched evaluator) = some q)
    (hA : A = r₁.collect queries ∪ r₂.collect queries ∪
      s₂.queries (.evaluate request now fetched evaluator))
    (hc : NoCollision A) (hs : Separated A) :
    ∃ response, (s₂.evaluate request now fetched evaluator).1 = .ok response ∧
      response.effect = .deny := by
  have traced : Traced A s₂ := by
    apply ((traced_new.run r₁ id).run r₂ And.left).mono
    simp [hA]
  have mem : q ∈ A := hA ▸ .inr hq
  obtain ⟨_, _, _, _, ho, heff, hsel, heq⟩ := evaluate_of_query hq
  cases ho
  have ⟨hac, hres, hnames⟩ := EvaluateRequest.effective_eq heff
  have selected : b ∈ q.selected := by
    rw [hsel, hnames, hn, selectBundles, if_pos rfl]
    exact OrderedMap.mem_values.mpr ⟨name, run_keeps r₂ hb⟩
  have sees : Sees q.request (rulesOf q.selected) .deny := by
    refine ⟨rule, List.mem_flatMap.mpr ⟨b, selected, hr⟩, ?_, hd⟩
    exact ⟨hf.actionClass.trans hac.symm, hres ▸ hf.resource⟩
  refine ⟨_, congrArg Prod.fst heq, ?_⟩
  have considered : ∀ q' ∈ A, (∀ {b}, b ∈ q'.selected ↔ b ∈ q.selected) → q'.Considered := by
    intro q' _ hm hnil
    have := hm.mpr selected
    simp [hnil] at this
  rcases traced.evaluateEffective hc hs mem hsel considered he rfl with ⟨h, _⟩ | ⟨h, _⟩
  case inl =>
    have hv := evaluateWithBundles_verdict q.request q.selected
    exact h.trans <| hv.eq_deny_of_sees sees
  case inr => exact h

end Step

end OpaIntegrationService

namespace Sample

open OpaIntegrationService

open scoped Sha256.Standard

def throwing : Evaluator := fun _ _ => none

def failing (bundleNames : List String) : Op :=
  .evaluate { request "a" "c" with bundleNames } 0 (.ok none) throwing

def bothStartup : Op :=
  startup [payload "allowing" "ALLOW action=READ prefix=a",
    payload "denying" "DENY action=READ prefix=a"]

-- One bundle allows what the other one denies.
def both : OpaIntegrationService :=
  (new 30 10000).step bothStartup

def denyRule : PolicyRule where
  ruleName       := "deny_rule_1"
  actionClass    := "READ"
  effect         := .deny
  resourcePrefix := "a"

def denying : LoadedBundle where
  bundleName   := "denying"
  bundleId     := "denying-1.0.0"
  version      := "1.0.0"
  loadedTs     := 0
  ruleCount    := 1
  compileValid := true
  rules        := [denyRule]

theorem denying_loaded : ("denying", denying) ∈ both.loadedByName := by
  rw [← OrderedMap.get?_eq_some_iff]
  decide +kernel

theorem denyRule_fires : denyRule.Fires (request "a" "c") := by
  decide

def askedBoth : OpaIntegrationService :=
  both.step <| evaluation (request "x" "c")

-- Another question has been asked before.
def failedOnce : OpaIntegrationService :=
  askedBoth.step (failing [])

theorem admissible_startup : Transition.Admissible system (fun _ op => op.MayThrow) (new 30 10000)
    [bothStartup] :=
  ⟨trivial, trivial, trivial⟩

theorem admissible_failing :
    Transition.Admissible system (Keeps "denying") both
      [evaluation (request "x" "c"), failing []] := by
  have few : ¬9 ≤ both.errorsOf "denying" := by decide +kernel
  have few' : ¬9 ≤ askedBoth.errorsOf "denying" := by decide +kernel
  refine ⟨trivial, ⟨fun _ _ => .inr rfl, id, ?_⟩, trivial, ⟨fun _ _ => .inl rfl, id, ?_⟩, trivial⟩
  case refine_1 => exact fun ⟨_, _, _, _, h⟩ => few h
  case refine_2 => exact fun ⟨_, _, _, _, h⟩ => few' h

theorem selectBundles_askedBoth : askedBoth.selectBundles [] = both.selectBundles [] := by
  decide +kernel

theorem selectBundles_failedOnce : failedOnce.selectBundles [] = both.selectBundles [] := by
  decide +kernel

def bothQueries : Set Query :=
  (Transition.Run.ofSchedule _ admissible_startup).collect queries ∪
    (Transition.Run.ofSchedule _ admissible_failing).collect queries ∪
    failedOnce.queries (evaluation <| request "a" "c")

theorem bothQueries_subset : bothQueries ⊆
    {⟨request "a" "c", both.selectBundles []⟩, ⟨request "x" "c", both.selectBundles []⟩} := by
  intro q h
  simp only [bothQueries, Transition.Run.collect, Transition.Run.fold_ofSchedule] at h
  rcases h with ((h | h) | (h | h) | h) | h
  case inl.inl.inl     => cases h
  case inl.inl.inr     => cases h
  case inl.inr.inl.inl => cases h
  case inl.inr.inl.inr =>
    exact .inr <| Option.some.inj <| h.symm.trans <| query?_request both _ (by decide) (by decide)
  case inl.inr.inr =>
    rw [← selectBundles_askedBoth]
    exact .inl <| Option.some.inj <| h.symm.trans <| query?_request askedBoth _ (by decide) (by decide)
  case inr =>
    rw [← selectBundles_failedOnce]
    exact .inl <| Option.some.inj <| h.symm.trans <| query?_request failedOnce _ (by decide) (by decide)

theorem run_evaluate_denies_failedOnce :
    ∃ response, (failedOnce.evaluate (request "a" "c") 0 (.ok none) defaultEvaluator).1 =
      .ok response ∧ response.effect = .deny := by
  have injective : bothQueries.InjOn (·.key) :=
    (Set.injOn_pair.mpr fun h => absurd h (by decide +kernel)).mono bothQueries_subset
  exact run_evaluate_denies (.ofSchedule _ admissible_startup) denying_loaded
    (.ofSchedule _ admissible_failing) (.head _) denyRule_fires rfl rfl (fun _ _ => .inr rfl)
    (query?_request failedOnce _ (by decide) (by decide)) rfl
    (noCollision_of_injOn injective) (separated_of_injOn injective)

theorem admissible_replicate (n : Nat) (s : OpaIntegrationService) :
    Transition.Admissible system (fun s op => op.MayThrow ∧ ¬s.Touches "denying" op) s
      (List.replicate n <| failing ["denying"]) := by
  induction n generalizing s
  case zero    => exact trivial
  case succ hi => exact ⟨trivial, ⟨fun _ _ => .inl rfl, id⟩, hi _⟩

def failedTenTimes : OpaIntegrationService :=
  Transition.exec system both <| List.replicate 10 <| failing ["denying"]

-- The requests that fail select only the bundle that denies, and the bundle that allows stays.
theorem denied_request_allowed :
    Nonempty (Run (fun _ op => op.MayThrow) (new 30 10000) both) ∧
    ("denying", denying) ∈ both.loadedByName ∧
    Nonempty (Run (fun s op => op.MayThrow ∧ ¬s.Touches "denying" op) both failedTenTimes) ∧
    (∃ rule ∈ denying.rules, rule.Fires (request "a" "c") ∧ rule.effect = .deny) ∧
    ((failedTenTimes.evaluate (request "a" "c") 0 (.ok none) defaultEvaluator).1.toOption.map
      (·.effect)) = some .allow := by
  refine ⟨⟨.ofSchedule _ admissible_startup⟩, denying_loaded,
    ⟨.ofSchedule _ <| admissible_replicate 10 both⟩, ⟨denyRule, .head _, denyRule_fires, rfl⟩, ?_⟩
  decide +kernel

end Sample

end OpaIntegration
