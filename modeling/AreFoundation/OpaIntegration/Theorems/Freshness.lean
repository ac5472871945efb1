import AreFoundation.OpaIntegration.Service

namespace OpaIntegration

namespace EvaluationCache

variable {cache cache' : EvaluationCache} {key : String} {now : Int}

theorem mem_of_get (h : e ∈ (cache.get key now).2.map) : e ∈ cache.map := by
  unfold get at h
  split at h
  case h_1         => exact h
  case h_2 entry he =>
    split at h
    case isTrue  => exact (OrderedMap.mem_filter.mp h).left
    case isFalse =>
      rcases OrderedMap.mem_set.mp h with ⟨hk, hv⟩ | ⟨_, h⟩
      case inl =>
        rw [OrderedMap.get?_eq_some_iff] at he
        exact (Prod.ext hk hv : e = (key, entry)) ▸ he
      case inr => exact (OrderedMap.mem_filter.mp h).left

theorem get_some (h : (cache.get key now).1 = some value) :
    ∃ entry, (key, entry) ∈ cache.map ∧
      value = { entry.value with cacheHit := true, evaluatedTs := now } := by
  unfold get at h
  split at h
  case h_1          => cases h
  case h_2 entry he =>
    split at h
    case isTrue  => cases h
    case isFalse => exact ⟨entry, OrderedMap.get?_eq_some_iff.mp he, (Option.some.inj h).symm⟩

theorem mem_of_set (h : (k, entry) ∈ (cache.set key value now).map) :
    (k = key ∧ entry = ⟨{ value with cacheHit := false }, now⟩) ∨
    (k ≠ key ∧ (k, entry) ∈ cache.map) := by
  have evicted : ∀ {m : OrderedMap String CacheEntry} {first : Option String},
      (k, entry) ∈ first.elim m m.delete → (k, entry) ∈ m := by
    intro m first h
    cases first
    case none => exact h
    case some => exact (OrderedMap.mem_delete.mp h).left
  simp only [set] at h
  have hm : (k, entry) ∈ (cache.map.delete key).set key ⟨{ value with cacheHit := false }, now⟩ := by
    split at h
    case isTrue  => exact evicted h
    case isFalse => exact h
  rcases OrderedMap.mem_set.mp hm with h | ⟨hk, h⟩
  case inl => exact .inl h
  case inr => exact .inr ⟨hk, (OrderedMap.mem_delete.mp h).left⟩

theorem mem_invalidateForBundle : e ∈ (cache.invalidateForBundle name).map ↔
    e ∈ cache.map ∧ name ∉ e.2.value.activeBundleNames := by
  simp [invalidateForBundle]

end EvaluationCache

-- A request with the admission envelope in force and the bundles that are selected for it.
structure Query where
  request  : EvaluateRequest
  selected : List LoadedBundle

namespace Query

variable (q : Query)

def key [Sha256] : String :=
  OpaIntegrationService.buildCacheKey q.request q.selected

-- What is answered without the cache, unless the evaluator throws.
def respond (now : Int) (evaluator : Evaluator) : Option EvaluateResponse :=
  if q.selected = [] then
    some <| OpaIntegrationService.denyResponse q.request now [] "no_policy_covers_action_class"
  else
    (evaluator q.request q.selected).map <|
      OpaIntegrationService.toResponse q.request now q.selected

theorem respond_cases {q : Query} (h : q.respond now evaluator = some value) :
    (q.selected = [] ∧
        value = OpaIntegrationService.denyResponse q.request now []
          "no_policy_covers_action_class") ∨
      ∃ result, value = OpaIntegrationService.toResponse q.request now q.selected result := by
  unfold respond at h
  split at h
  case isTrue hs => exact .inl ⟨hs, (Option.some.inj h).symm⟩
  case isFalse   =>
    obtain ⟨result, _, hv⟩ := Option.map_eq_some_iff.mp h
    exact .inr ⟨result, hv.symm⟩

theorem respond_activeBundleNames {q : Query} (h : q.respond now evaluator = some value) :
    value.activeBundleNames = q.selected.map (·.bundleName) := by
  rcases respond_cases h with ⟨hs, rfl⟩ | ⟨_, rfl⟩
  case inl => rw [hs]; rfl
  case inr => rfl

theorem respond_cacheHit {q : Query} (h : q.respond now evaluator = some value) :
    { value with cacheHit := false } = value := by
  rcases respond_cases h with ⟨_, rfl⟩ | ⟨_, rfl⟩ <;> rfl

end Query

namespace OpaIntegrationService

variable {svc : OpaIntegrationService}

def query? (svc : OpaIntegrationService) : Op → Option Query
  | .evaluate request _ fetched _ =>
    if request.Invalid then
      none
    else
      (request.effective fetched).toOption.map fun request =>
        ⟨request, svc.selectBundles request.bundleNames⟩
  | _ => none

section Errors

theorem foldl_resetErrors_cache (selected : List LoadedBundle) (svc : OpaIntegrationService) :
    (selected.foldl resetErrors svc).cache = svc.cache := by
  induction selected generalizing svc
  case nil        => rfl
  case cons hd _ hi => exact hi <| svc.resetErrors hd

theorem foldl_resetErrors_loadedByName (selected : List LoadedBundle)
    (svc : OpaIntegrationService) :
    (selected.foldl resetErrors svc).loadedByName = svc.loadedByName := by
  induction selected generalizing svc
  case nil        => rfl
  case cons hd _ hi => exact hi <| svc.resetErrors hd

theorem recordError_cache (bundle : LoadedBundle) : (svc.recordError bundle).cache = svc.cache := by
  unfold recordError
  dsimp only
  split <;> rfl

theorem mem_recordError {b bundle : LoadedBundle} :
    (name, b) ∈ (svc.recordError bundle).loadedByName ↔
      (name, b) ∈ svc.loadedByName ∧ (name = bundle.bundleName → svc.errorsOf name < 9) := by
  unfold recordError
  dsimp only
  split
  case isTrue he =>
    simp only [unload, OrderedMap.mem_delete]
    refine and_congr_right fun _ => ⟨fun hn h => absurd h hn, ?_⟩
    rintro h rfl
    have := h rfl
    omega
  case isFalse he =>
    refine (and_iff_left ?_).symm
    rintro rfl
    omega

theorem foldl_recordError_cache (selected : List LoadedBundle) (svc : OpaIntegrationService) :
    (selected.foldl recordError svc).cache = svc.cache := by
  induction selected generalizing svc
  case nil           => rfl
  case cons hd tl hi => exact (hi _).trans <| recordError_cache hd

theorem mem_of_foldl_recordError (selected : List LoadedBundle)
    (h : e ∈ (selected.foldl recordError svc).loadedByName) : e ∈ svc.loadedByName := by
  induction selected generalizing svc
  case nil           => exact h
  case cons hd tl hi => exact (mem_recordError.mp <| hi h).left

end Errors

section Evaluate

variable [Sha256] {q : Query}

-- The outcomes of an evaluation for its response and for the cache and the loaded bundles.
inductive Evaluated (svc : OpaIntegrationService) (q : Query) (now : Int) (evaluator : Evaluator) :
    EvaluateResponse → OpaIntegrationService → Prop
  | hit (hg : (svc.cache.get q.key now).1.isSome) (hm : (q.key, entry) ∈ svc.cache.map)
      (hc : ∀ {e}, e ∈ svc'.cache.map → e ∈ svc.cache.map)
      (hl : svc'.loadedByName = svc.loadedByName) :
    Evaluated svc q now evaluator { entry.value with cacheHit := true, evaluatedTs := now } svc'
  | answered (hg : (svc.cache.get q.key now).1 = none) (hr : q.respond now evaluator = some value)
      (hc : svc'.cache = (svc.cache.get q.key now).2.set q.key value now)
      (hl : svc'.loadedByName = svc.loadedByName) : Evaluated svc q now evaluator value svc'
  | failed (hg : (svc.cache.get q.key now).1 = none) (hr : q.respond now evaluator = none) :
    Evaluated svc q now evaluator (denyResponse q.request now q.selected "evaluation_error")
      (q.selected.foldl recordError { svc with cache := (svc.cache.get q.key now).2 })

theorem evaluateEffective_cases (hq : q.selected = svc.selectBundles q.request.bundleNames)
    (now : Int) (evaluator : Evaluator) :
    svc.Evaluated q now evaluator (svc.evaluateEffective q.request now evaluator).1
      (svc.evaluateEffective q.request now evaluator).2 := by
  have hk : buildCacheKey q.request q.selected = q.key := rfl
  simp only [evaluateEffective, ← hq, hk]
  rcases hg : svc.cache.get q.key now with ⟨_ | value, cache⟩
  all_goals have hc : (svc.cache.get q.key now).2 = cache := congrArg Prod.snd hg
  case none =>
    have hn : (svc.cache.get q.key now).1 = none := congrArg Prod.fst hg
    by_cases hs : q.selected = []
    case pos =>
      simp only [hs, if_true]
      exact .answered hn (by simp [Query.respond, hs]) (by rw [hc]) rfl
    case neg =>
      simp only [hs, if_false]
      cases hd : evaluator q.request q.selected
      case none => exact hc ▸ .failed hn (by simp [Query.respond, hs, hd])
      case some =>
        exact .answered hn (by simp [Query.respond, hs, hd])
          ((foldl_resetErrors_cache ..).trans (by rw [hc])) (foldl_resetErrors_loadedByName ..)
  case some =>
    have ⟨entry, hm, hv⟩ := EvaluationCache.get_some (congrArg Prod.fst hg)
    have kept : ∀ {e}, e ∈ cache.map → e ∈ svc.cache.map := hc ▸ EvaluationCache.mem_of_get
    exact hv ▸ .hit (by simp [hg]) hm kept rfl

theorem evaluate_of_query {op : Op} (hq : svc.query? op = some q) :
    ∃ request now fetched evaluator, op = .evaluate request now fetched evaluator ∧
      request.effective fetched = .ok q.request ∧
      q.selected = svc.selectBundles q.request.bundleNames ∧
      svc.evaluate request now fetched evaluator =
        (.ok (svc.evaluateEffective q.request now evaluator).1,
          (svc.evaluateEffective q.request now evaluator).2) := by
  cases op
  case evaluate request now fetched evaluator =>
    simp only [query?] at hq
    split at hq
    case isTrue     => cases hq
    case isFalse hv =>
      have ⟨r, hr, he⟩ := Option.map_eq_some_iff.mp hq
      cases hf : request.effective fetched
      case error => simp [hf, Except.toOption] at hr
      case ok    =>
        simp only [hf, Except.toOption, Option.some.injEq] at hr
        subst hr he
        exact ⟨_, _, _, _, rfl, hf, rfl, by simp [evaluate, hv, hf]⟩
  all_goals cases hq

theorem evaluate_of_no_query
    (hq : svc.query? (.evaluate request now fetched evaluator) = none) :
    ∃ err, svc.evaluate request now fetched evaluator = (.error err, svc) := by
  simp only [query?] at hq
  split at hq
  case isTrue hv  => exact ⟨_, if_pos hv⟩
  case isFalse hv =>
    cases hf : request.effective fetched
    case error err => exact ⟨err, by simp [evaluate, hv, hf]⟩
    case ok        => simp [hf, Except.toOption] at hq

end Evaluate

theorem mem_loadedByName_of_selected (h : b ∈ svc.selectBundles bundleNames) :
    (b.bundleName, b) ∈ svc.loadedByName := by
  have hv : b ∈ svc.loadedByName.values := by
    unfold selectBundles at h
    split at h
    case isTrue  => exact h
    case isFalse => exact List.mem_of_mem_filter h
  have ⟨name, hm⟩ := OrderedMap.mem_values.mp hv
  exact svc.named hm ▸ hm

-- A cached response and the bundles that it was computed from, as far as they are still loaded.
structure UpToDate (svc : OpaIntegrationService) (bundles : List LoadedBundle) (entry : CacheEntry) :
    Prop where
  names  : entry.value.activeBundleNames = bundles.map (·.bundleName)
  loaded : ∀ {b l}, b ∈ bundles → (b.bundleName, l) ∈ svc.loadedByName → l = b

theorem UpToDate.mono {svc' : OpaIntegrationService} (h : svc.UpToDate bundles entry)
    (hl : ∀ {e}, e ∈ svc'.loadedByName → e ∈ svc.loadedByName) : svc'.UpToDate bundles entry where
  names        := h.names
  loaded hb hm := h.loaded hb (hl hm)

-- No response is added, and the ones that remain are as up to date as before.
structure Kept (svc svc' : OpaIntegrationService) : Prop where
  cached   : ∀ {e}, e ∈ svc'.cache.map → e ∈ svc.cache.map
  upToDate : ∀ {k entry bundles}, (k, entry) ∈ svc'.cache.map → svc.UpToDate bundles entry →
               svc'.UpToDate bundles entry

namespace Kept

theorem refl (svc : OpaIntegrationService) : svc.Kept svc where
  cached       := id
  upToDate _ h := h

theorem trans (h₁ : Kept svc svc') (h₂ : Kept svc' svc'') : Kept svc svc'' where
  cached hm     := h₁.cached <| h₂.cached hm
  upToDate hm h := h₂.upToDate hm <| h₁.upToDate (h₂.cached hm) h

theorem of_subset {svc' : OpaIntegrationService}
    (hc : ∀ {e}, e ∈ svc'.cache.map → e ∈ svc.cache.map)
    (hl : ∀ {e}, e ∈ svc'.loadedByName → e ∈ svc.loadedByName) : svc.Kept svc' where
  cached       := hc
  upToDate _ h := h.mono hl

end Kept

section Load

variable [Sha256] [Ed25519]

theorem compileBundle_ok (h : compileBundle payload env = .ok loaded) :
    loaded.bundleName = payload.bundleName ∧ loaded.version = payload.version ∧
      compileRegoLikeSource payload.regoSource = .ok loaded.rules := by
  cases hv : verifyBundlePayload payload env.publicKeyPem
  case error => simp [compileBundle, hv, bind, Except.bind] at h
  case ok    =>
    cases hr : compileRegoLikeSource payload.regoSource
    case error => simp [compileBundle, hv, hr, bind, Except.bind] at h
    case ok    =>
      simp only [compileBundle, hv, hr, bind, Except.bind, pure, Except.pure, Except.ok.injEq] at h
      exact h ▸ ⟨rfl, rfl, rfl⟩

theorem compileBundle_bundleName (h : compileBundle payload env = .ok loaded) :
    loaded.bundleName = payload.bundleName :=
  (compileBundle_ok h).left

theorem loadBundleFromPayload_of_error (h : compileBundle payload env = .error err)
    (startupStrict : Bool) : (svc.loadBundleFromPayload payload startupStrict env).2 = svc := by
  simp only [loadBundleFromPayload, h]
  split <;> rfl

theorem loadBundleFromPayload_kept (payload : BundlePayload) (startupStrict : Bool) (env : LoadEnv) :
    svc.Kept (svc.loadBundleFromPayload payload startupStrict env).2 := by
  cases h : compileBundle payload env
  case error     => exact (loadBundleFromPayload_of_error h startupStrict).symm ▸ .refl svc
  case ok loaded =>
    simp only [loadBundleFromPayload, h]
    refine ⟨fun hm => (EvaluationCache.mem_invalidateForBundle.mp hm).left, ?_⟩
    intro k entry bundles hm hu
    refine ⟨hu.names, ?_⟩
    intro b l hb hl
    -- A bundle of the response cannot be the one that is loaded.
    have hne : b.bundleName ≠ loaded.bundleName := by
      rw [compileBundle_bundleName h]
      intro he
      have hn := (EvaluationCache.mem_invalidateForBundle.mp hm).right
      exact hn <| hu.names ▸ List.mem_map.mpr ⟨b, hb, he⟩
    rcases OrderedMap.mem_set.mp hl with ⟨he, _⟩ | ⟨_, hl⟩
    case inl => exact absurd he hne
    case inr => exact hu.loaded hb hl

theorem loadAll_kept (env : BundlePayload → LoadEnv) (active : List BundlePayload) :
    svc.Kept (loadAll env svc active).2 := by
  induction active generalizing svc
  case nil => exact .refl svc
  case cons payload _ hi =>
    have hk := svc.loadBundleFromPayload_kept payload true (env payload)
    simp only [loadAll]
    split
    all_goals rename_i h; rw [h] at hk
    case h_1 => exact hk
    case h_2 => exact hk.trans hi

theorem startupLoadBundles_kept (registry : PolicyRegistryClient) (env : BundlePayload → LoadEnv) :
    svc.Kept (svc.startupLoadBundles registry env).2 := by
  unfold startupLoadBundles
  split
  case h_3 => exact loadAll_kept ..
  all_goals exact .refl svc

theorem reloadBundle_kept (bundleName : String) (registry : PolicyRegistryClient) (env : LoadEnv) :
    svc.Kept (svc.reloadBundle bundleName registry env).2 := by
  unfold reloadBundle
  split
  case isTrue  => exact .refl svc
  case isFalse =>
    split
    case h_1 => exact .refl svc
    case h_2 =>
      split
      case h_1 => exact .refl svc
      case h_2 => exact loadBundleFromPayload_kept ..

theorem handleLifecycleEvent_kept (event : PolicyLifecycleEvent) (registry : PolicyRegistryClient)
    (env : LoadEnv) : svc.Kept (svc.handleLifecycleEvent event registry env).2 := by
  unfold handleLifecycleEvent
  split
  case h_1 =>
    dsimp only
    split
    case h_1 => exact .refl svc
    case h_2 => exact loadBundleFromPayload_kept ..
  case h_2 =>
    refine .of_subset (fun hm => ?_) (fun hm => ?_)
    case _ => exact (EvaluationCache.mem_invalidateForBundle.mp hm).left
    case _ => exact (OrderedMap.mem_filter.mp hm).left
  case h_3 => exact .refl svc

end Load

section Step

variable [Sha256] [Ed25519] {op : Op} {q : Query} {entry : CacheEntry}

-- The response that a step stores, with what it was computed from.
def stores? (svc : OpaIntegrationService) (op : Op) : Option (Query × CacheEntry) :=
  match op with
  | .evaluate _ now _ evaluator =>
    (svc.query? op).bind fun q =>
      if (svc.cache.get q.key now).1.isSome then
        none
      else
        (q.respond now evaluator).map fun value => (q, ⟨value, now⟩)
  | _ => none

structure Stored (svc : OpaIntegrationService) (op : Op) (q : Query) (entry : CacheEntry) :
    Prop where
  query    : svc.query? op = some q
  selected : q.selected = svc.selectBundles q.request.bundleNames
  answer   : ∃ request fetched evaluator,
               op = .evaluate request entry.cachedTs fetched evaluator ∧
               q.respond entry.cachedTs evaluator = some entry.value
  cached   : ∀ {k e}, (k, e) ∈ (svc.step op).cache.map →
               (k = q.key ∧ e = entry) ∨ (k ≠ q.key ∧ (k, e) ∈ svc.cache.map)
  loaded   : (svc.step op).loadedByName = svc.loadedByName

theorem Stored.upToDate (h : svc.Stored op q entry) : (svc.step op).UpToDate q.selected entry where
  names :=
    have ⟨_, _, _, _, hr⟩ := h.answer
    Query.respond_activeBundleNames hr
  loaded hb hl := by
    rw [h.loaded] at hl
    exact OrderedMap.eq_of_mem hl <| mem_loadedByName_of_selected (h.selected ▸ hb)

theorem step_cases (svc : OpaIntegrationService) (op : Op) :
    (svc.stores? op = none ∧ svc.Kept (svc.step op)) ∨
    (∃ q entry, svc.stores? op = some (q, entry) ∧ svc.Stored op q entry) := by
  cases op
  case startupLoadBundles   => exact .inl ⟨rfl, startupLoadBundles_kept ..⟩
  case reloadBundle         => exact .inl ⟨rfl, reloadBundle_kept ..⟩
  case handleLifecycleEvent => exact .inl ⟨rfl, handleLifecycleEvent_kept ..⟩
  case evaluate request now fetched evaluator =>
    cases hq : svc.query? (.evaluate request now fetched evaluator)
    case none =>
      have ⟨_, he⟩ := evaluate_of_no_query hq
      exact .inl ⟨by simp [stores?, hq], by simpa [step, he] using .refl svc⟩
    case some q =>
      have ⟨_, _, _, _, ho, _, hs, he⟩ := evaluate_of_query hq
      cases ho
      have hc := evaluateEffective_cases hs now evaluator
      generalize (svc.evaluateEffective q.request now evaluator).1 = value at he hc
      generalize (svc.evaluateEffective q.request now evaluator).2 = svc' at he hc
      have hstep : svc.step (.evaluate request now fetched evaluator) = svc' := by simp [step, he]
      cases hc
      case hit hg _ hc hl =>
        exact .inl ⟨by simp [stores?, hq, hg], hstep ▸ .of_subset hc (hl ▸ id)⟩
      case failed hg hr =>
        refine .inl ⟨by simp [stores?, hq, hg, hr], hstep ▸ .of_subset ?_ ?_⟩
        case _ =>
          intro e hm
          rw [foldl_recordError_cache] at hm
          exact EvaluationCache.mem_of_get hm
        case _ => exact mem_of_foldl_recordError _
      case answered hg hr hl hc =>
        refine .inr ⟨q, ⟨value, now⟩, by simp [stores?, hq, hg, hr], hq, hs,
          ⟨_, _, _, rfl, hr⟩, ?_, hstep ▸ hl⟩
        intro k e hm
        rw [hstep, hc] at hm
        rcases EvaluationCache.mem_of_set hm with ⟨hk, hv⟩ | ⟨hk, hm⟩
        case inl => exact .inl ⟨hk, Query.respond_cacheHit hr ▸ hv⟩
        case inr => exact .inr ⟨hk, EvaluationCache.mem_of_get hm⟩

-- The response that was last stored under a key in a run.
def lastStored (k : String) (r : Run g s₁ s₂) : Option (Query × CacheEntry) :=
  r.fold (fun s op last => ((s.stores? op).filter (·.1.key = k)).or last) none

theorem run_lastStored (r : Run g (new ttl maxEntries) svc) (hm : (k, entry) ∈ svc.cache.map) :
    ∃ q, lastStored k r = some (q, entry) ∧ svc.UpToDate q.selected entry := by
  refine r.invariant_fold (P := fun last s => ∀ {entry}, (k, entry) ∈ s.cache.map →
    ∃ q : Query, last = some (q, entry) ∧ s.UpToDate q.selected entry) ?_ (nomatch ·) hm
  intro last s op hi _ _ entry hm
  rcases s.step_cases op with ⟨hn, hk⟩ | ⟨q, entry', hs, h⟩
  case inl =>
    have ⟨q, hq, hu⟩ := hi <| hk.cached hm
    exact ⟨q, by simpa [hn] using hq, hk.upToDate hm hu⟩
  case inr =>
    rcases h.cached hm with ⟨hk, he⟩ | ⟨hk, hm⟩
    case inl => exact ⟨q, by simp [hs, hk, he], he ▸ h.upToDate⟩
    case inr =>
      have ⟨q', hq, hu⟩ := hi hm
      exact ⟨q', by simp [hs, hq, Option.filter_some, Ne.symm hk], hu.mono (h.loaded ▸ id)⟩

-- The integrity check, the signature check or the compilation fails.
def LoadFails (payload : BundlePayload) (env : LoadEnv) : Prop :=
  (∃ err, verifyBundlePayload payload env.publicKeyPem = .error err) ∨
  (∃ err, compileRegoLikeSource payload.regoSource = .error err)

theorem LoadFails.compileBundle (h : LoadFails payload env) :
    ∃ err, OpaIntegrationService.compileBundle payload env = .error err := by
  simp only [OpaIntegrationService.compileBundle]
  cases hv : verifyBundlePayload payload env.publicKeyPem
  case error err => exact ⟨err, rfl⟩
  case ok        =>
    rcases h with ⟨_, h⟩ | ⟨err, h⟩
    case inl => simp [hv] at h
    case inr => exact ⟨err, by simp [h, bind, Except.bind]⟩

theorem run_cache_outlives_no_bundle (ttl : Int) (maxEntries : Nat) :
    (∀ {s} (r : Run .any (new ttl maxEntries) s) {k entry}, (k, entry) ∈ s.cache.map →
      ∃ q, lastStored k r = some (q, entry) ∧
        ∀ b ∈ q.selected, ∀ l ∈ s.loadedByName.values,
          l.bundleName = b.bundleName → l.version = b.version → l.rules = b.rules) ∧
    (∀ (s : OpaIntegrationService) {payload env}, LoadFails payload env →
      (s.loadBundleFromPayload payload false env).2 = s) := by
  refine ⟨?_, ?_⟩
  case _ =>
    intro s r k entry hm
    have ⟨q, hq, hu⟩ := run_lastStored r hm
    refine ⟨q, hq, ?_⟩
    intro b hb l hl hn _
    have ⟨name, hl⟩ := OrderedMap.mem_values.mp hl
    have : name = b.bundleName := (s.named hl).symm.trans hn
    exact congrArg LoadedBundle.rules <| hu.loaded hb (this ▸ hl)
  case _ =>
    intro s payload env h
    have ⟨_, he⟩ := h.compileBundle
    exact loadBundleFromPayload_of_error he false

end Step

end OpaIntegrationService

end OpaIntegration
