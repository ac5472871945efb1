import AreFoundation.OpaIntegration.Theorems.Transparency

namespace OpaIntegration

theorem EvaluateRequest.effective_evaluationId {request effective : EvaluateRequest}
    (h : request.effective fetched = .ok effective) :
    effective.evaluationId = request.evaluationId := by
  unfold EvaluateRequest.effective at h
  split at h
  case h_1 => cases h; rfl
  case h_2 =>
    cases fetched
    case error => cases h
    case ok    => cases h; rfl

theorem Query.respond_evaluationId {q : Query} (h : q.respond now evaluator = some value) :
    value.evaluationId = q.request.evaluationId := by
  rcases respond_cases h with ⟨_, rfl⟩ | ⟨_, rfl⟩ <;> rfl

theorem EvaluationCache.get_isSome_iff {cache : EvaluationCache}
    (hm : (key, entry) ∈ cache.map) :
    (cache.get key now).1.isSome ↔ now - entry.cachedTs ≤ cache.ttlMs := by
  simp only [get, OrderedMap.get?_eq_some_iff.mpr hm]
  split
  case isTrue h  => exact iff_of_false (by simp) (by omega)
  case isFalse h => exact iff_of_true rfl (by omega)

namespace OpaIntegrationService

section Evaluate

variable [Sha256] [Ed25519] {s : OpaIntegrationService} {q : Query} {A : Set Query}
variable {g : Transition.Guard OpaIntegrationService Op}

-- Every cached response carries the identifier of a query of `A` with its cache key.
def Issued (A : Set Query) (s : OpaIntegrationService) : Prop :=
  ∀ k entry, (k, entry) ∈ s.cache.map → ∃ q ∈ A, q.key = k ∧
    entry.value.evaluationId = q.request.evaluationId

theorem Issued.step (h : Issued A s) (op : Op) : Issued (A ∪ s.queries op) (s.step op) := by
  intro k entry hm
  rcases s.step_cases op with ⟨_, hk⟩ | ⟨q, entry', _, hs⟩
  case inl =>
    obtain ⟨q, hq, hi⟩ := h k entry <| hk.cached hm
    exact ⟨q, .inl hq, hi⟩
  case inr =>
    rcases hs.cached hm with ⟨rfl, rfl⟩ | ⟨_, hm⟩
    case inl =>
      obtain ⟨_, _, _, _, hr⟩ := hs.answer
      exact ⟨q, .inr hs.query, rfl, Query.respond_evaluationId hr⟩
    case inr =>
      obtain ⟨q, hq, hi⟩ := h k entry hm
      exact ⟨q, .inl hq, hi⟩

theorem run_issued (r : Run g (new ttl maxEntries) s) : Issued (r.collect queries) s :=
  r.invariant_fold (fun h _ _ => h.step _) (fun _ _ hm => nomatch hm)

omit [Ed25519] in
-- A response is either computed for the request or a copy of the cached one.
theorem evaluateEffective_evaluationId (hs : q.selected = s.selectBundles q.request.bundleNames)
    (now : Int) (evaluator : Evaluator) :
    (s.evaluateEffective q.request now evaluator).1.evaluationId = q.request.evaluationId ↔
      ∀ entry, (q.key, entry) ∈ s.cache.map → now - entry.cachedTs ≤ s.cache.ttlMs →
        entry.value.evaluationId = q.request.evaluationId := by
  have missed (hg : (s.cache.get q.key now).1 = none) (entry : CacheEntry)
      (hm : (q.key, entry) ∈ s.cache.map) (hl : now - entry.cachedTs ≤ s.cache.ttlMs) :
      entry.value.evaluationId = q.request.evaluationId := by
    have := (EvaluationCache.get_isSome_iff hm).mpr hl
    simp [hg] at this
  have outcome := evaluateEffective_cases hs now evaluator
  generalize (s.evaluateEffective q.request now evaluator).1 = response at outcome
  generalize (s.evaluateEffective q.request now evaluator).2 = s' at outcome
  cases outcome
  case hit hg hm _ _ =>
    constructor
    case mp =>
      intro h entry' hm' _
      exact OrderedMap.eq_of_mem hm' hm ▸ h
    case mpr => exact fun h => h _ hm <| (EvaluationCache.get_isSome_iff hm).mp hg
  case answered hg hr _ _ => exact iff_of_true (Query.respond_evaluationId hr) (missed hg)
  case failed hg _        => exact iff_of_true rfl (missed hg)

theorem run_evaluationId_iff (r : Run g (new ttl maxEntries) s)
    (hq : s.query? (.evaluate request now fetched evaluator) = some q) :
    ∃ response, (s.evaluate request now fetched evaluator).1 = .ok response ∧
      (response.evaluationId = request.evaluationId ↔
        ∀ entry, (q.key, entry) ∈ s.cache.map → now - entry.cachedTs ≤ s.cache.ttlMs →
          entry.value.evaluationId = request.evaluationId) ∧
      ((∀ q' ∈ r.collect queries, q'.key = q.key →
          q'.request.evaluationId = request.evaluationId) →
        response.evaluationId = request.evaluationId) := by
  obtain ⟨_, _, _, _, ho, hf, hs, he⟩ := evaluate_of_query hq
  cases ho
  have exact_when := evaluateEffective_evaluationId hs now evaluator
  rw [EvaluateRequest.effective_evaluationId hf] at exact_when
  refine ⟨_, congrArg Prod.fst he, exact_when, ?_⟩
  intro same
  apply exact_when.mpr
  intro entry hm _
  obtain ⟨q', hq', hk, hi⟩ := run_issued r _ _ hm
  exact hi.trans <| same q' hq' hk

end Evaluate

section Reload

variable [Sha256] [Ed25519] {svc svc' : OpaIntegrationService} {active : BundlePayload}

theorem not_loadFails (h : compileBundle payload env = .ok loaded) : ¬LoadFails payload env := by
  intro hf
  obtain ⟨_, he⟩ := hf.compileBundle
  rw [he] at h
  cases h

theorem loadFails_of_error (h : compileBundle payload env = .error err) : LoadFails payload env := by
  cases hv : verifyBundlePayload payload env.publicKeyPem
  case error err => exact .inl ⟨err, hv⟩
  case ok        =>
    cases hr : compileRegoLikeSource payload.regoSource
    case error err => exact .inr ⟨err, hr⟩
    case ok        => simp [compileBundle, hv, hr, bind, Except.bind, pure, Except.pure] at h

theorem reloadBundle_reloaded (ha : registry.getActiveBundle name = .ok active)
    (h : svc.reloadBundle name registry env = (.ok (bundle, true, message), svc')) :
    (∀ b, svc.loadedByName.get? name = some b → b.version ≠ active.version) ∧
      svc.loadBundleFromPayload active false env = (.ok bundle, svc') := by
  unfold reloadBundle at h
  split at h
  case isTrue  => cases h
  case isFalse =>
    simp only [ha] at h
    split at h
    case h_1      => cases h
    case h_2 none =>
      constructor
      case left =>
        rintro b hb hv
        simp [hb, Option.filter_some, hv] at none
      case right =>
        rcases hl : svc.loadBundleFromPayload active false env with ⟨_ | loaded, svc''⟩
        case error => simp [hl, Except.map] at h
        case ok    =>
          simp only [hl, Except.map, Prod.mk.injEq, Except.ok.injEq] at h
          simp [h]

theorem reloadBundle_truthful_iff (ha : registry.getActiveBundle name = .ok active)
    (h : svc.reloadBundle name registry env = (.ok (bundle, true, message), svc')) :
    (svc'.loadedByName.get? name = some bundle ∧ bundle.version = active.version ∧
        compileRegoLikeSource active.regoSource = .ok bundle.rules) ↔
      (¬LoadFails active env ∧ active.bundleName = name) := by
  obtain ⟨outdated, hl⟩ := reloadBundle_reloaded ha h
  cases hc : compileBundle active env
  case error err =>
    refine iff_of_false ?_ fun hr => hr.left <| loadFails_of_error hc
    have same : (svc.loadBundleFromPayload active false env).2 = svc :=
      loadBundleFromPayload_of_error hc false
    rw [hl] at same
    rintro ⟨hg, hv, _⟩
    exact outdated bundle (same ▸ hg) hv
  case ok loaded =>
    obtain ⟨hn, hv, hr⟩ := compileBundle_ok hc
    simp only [loadBundleFromPayload, hc, Prod.mk.injEq, Except.ok.injEq] at hl
    obtain ⟨rfl, rfl⟩ := hl
    by_cases he : active.bundleName = name
    case pos =>
      refine iff_of_true ⟨?_, hv, hr⟩ ⟨not_loadFails hc, he⟩
      simp only [load, OrderedMap.get?_set, hn, he, if_true]
    case neg =>
      refine iff_of_false ?_ fun hr => he hr.right
      rintro ⟨hg, hv, _⟩
      simp only [load, OrderedMap.get?_set, hn, Ne.symm he, if_false] at hg
      exact outdated loaded hg hv

end Reload

end OpaIntegrationService

namespace Sample

open OpaIntegrationService

open scoped Sha256.Standard

theorem run_evaluationId_repeated :
    ∃ response, (asked.evaluate (request "a|b" "c") 0 (.ok none) defaultEvaluator).1 =
      .ok response ∧ response.evaluationId = "eval-1" := by
  have again : asked.query? (evaluation <| request "a|b" "c") =
      some ⟨request "a|b" "c", asked.selectBundles []⟩ :=
    query?_request asked defaultEvaluator (by decide) (by decide)
  obtain ⟨response, he, _, h⟩ := run_evaluationId_iff (.ofSchedule _ admissible_asked) again
  refine ⟨response, he, h ?_⟩
  intro q hq _
  rcases sampleQueries_subset (.inl hq) with rfl | rfl <;> rfl

theorem evaluationId_of_cached_response :
    Nonempty (Run .any (new 30 10000) evaluated) ∧
    ((evaluated.evaluate { request "a|b" "c" with evaluationId := "eval-2" } 0 (.ok none)
      defaultEvaluator).1.toOption.map (·.evaluationId)) = some "eval-1" :=
  ⟨⟨.ofSchedule [startup [payload "b1" "ALLOW action=READ prefix=a|"],
      evaluation (request "a|b" "c")] ⟨trivial, trivial, trivial, trivial, trivial⟩⟩,
    by decide +kernel⟩

-- The registry has a second version of the bundle.
def secondVersion (regoSource : String) : BundlePayload :=
  { payload "b1" regoSource with bundleId := "b1-2.0.0", version := "2.0.0" }

def secondRegistry (regoSource : String) : PolicyRegistryClient where
  getActiveBundles  := .ok [secondVersion regoSource]
  getActiveBundle _ := .ok <| secondVersion regoSource
  getBundle _ _     := .error "not_found"

theorem reloadBundle_truthful_secondVersion :
    ∃ bundle svc',
      started.reloadBundle "b1" (secondRegistry "DENY action=READ prefix=a|") ⟨1, 1, none⟩ =
        (.ok (bundle, true, "bundle reloaded"), svc') ∧
      svc'.loadedByName.get? "b1" = some bundle ∧ bundle.version = "2.0.0" := by
  have answer : ((started.reloadBundle "b1" (secondRegistry "DENY action=READ prefix=a|")
      ⟨1, 1, none⟩).1.toOption.map (·.2)) = some (true, "bundle reloaded") := by
    decide +kernel
  rcases h : started.reloadBundle "b1" (secondRegistry "DENY action=READ prefix=a|")
    ⟨1, 1, none⟩ with ⟨_ | ⟨bundle, reloaded, message⟩, svc'⟩
  case error => simp [h, Except.toOption] at answer
  case ok    =>
    simp only [h, Except.toOption, Option.map_some, Option.some.injEq, Prod.mk.injEq] at answer
    obtain ⟨rfl, rfl⟩ := answer
    have compiled : (compileBundle (secondVersion "DENY action=READ prefix=a|")
        ⟨1, 1, none⟩).toOption.isSome := by
      decide +kernel
    have loads : ¬LoadFails (secondVersion "DENY action=READ prefix=a|") ⟨1, 1, none⟩ := by
      cases hc : compileBundle (secondVersion "DENY action=READ prefix=a|") ⟨1, 1, none⟩
      case error => simp [hc, Except.toOption] at compiled
      case ok    => exact not_loadFails hc
    obtain ⟨hg, hv, _⟩ := (reloadBundle_truthful_iff rfl h).mpr ⟨loads, rfl⟩
    exact ⟨bundle, svc', rfl, hg, hv⟩

theorem reloadBundle_keeps_old_bundle :
    Nonempty (Run .any (new 30 10000) started) ∧
    ((started.reloadBundle "b1" (secondRegistry "GRANT action=READ")
      ⟨1, 1, none⟩).1.toOption.map fun r => (r.1.version, r.2.1)) = some ("1.0.0", true) ∧
    ((started.reloadBundle "b1" (secondRegistry "GRANT action=READ")
      ⟨1, 1, none⟩).2.loadedByName.get? "b1").map (·.version) = some "1.0.0" ∧
    ((secondRegistry "GRANT action=READ").getActiveBundle "b1").toOption.map (·.version) =
      some "2.0.0" := by
  refine ⟨⟨.ofSchedule [startup [payload "b1" "ALLOW action=READ prefix=a|"]] ?_⟩, ?_, ?_, rfl⟩
  case refine_1 => exact ⟨trivial, trivial, trivial⟩
  all_goals decide +kernel

end Sample

end OpaIntegration
