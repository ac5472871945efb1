import AreFoundation.Library.Sha256
import AreFoundation.OpaIntegration.Theorems.Freshness
import AreFoundation.OpaIntegration.Theorems.Strictest

namespace OpaIntegration

theorem assertCaps_congr {metadata metadata' : OrderedMap String String}
    (h : ∀ metric, metadata.get? metric = metadata'.get? metric)
    (caps : List (String × EcmaScript.Number)) :
    assertCaps metadata caps = assertCaps metadata' caps := by
  induction caps
  case nil       => rfl
  case cons cap caps hi =>
    have ⟨metric, cap⟩ := cap
    simp only [assertCaps, EcmaScript.property, h, hi]

namespace Query

variable {q q' : Query}

def keyText (q : Query) : String :=
  OpaIntegrationService.keyText q.request q.selected

def decision (q : Query) : DecisionResult :=
  evaluateWithBundles q.request q.selected

-- Two queries that agree in everything that a decision depends on, where bundles are given by
-- their names and versions.
structure SameQuestion (q q' : Query) : Prop where
  actionClass : q.request.actionClass = q'.request.actionClass
  resource    : q.request.resource = q'.request.resource
  metadata    : ∀ metric, q.request.context.actionMetadata.get? metric =
                  q'.request.context.actionMetadata.get? metric
  envelope    : q.request.context.admissionEnvelope.map
                    (fun env => (env.admittedScopes, env.admittedBehavioralCaps)) =
                  q'.request.context.admissionEnvelope.map
                    (fun env => (env.admittedScopes, env.admittedBehavioralCaps))
  versions    : (q.selected.map fun b => (b.bundleName, b.version)).Perm
                  (q'.selected.map fun b => (b.bundleName, b.version))

theorem SameQuestion.assertAdmissionEnvelope (h : q.SameQuestion q') :
    assertAdmissionEnvelope q.request = assertAdmissionEnvelope q'.request := by
  have he := h.envelope
  unfold OpaIntegration.assertAdmissionEnvelope
  cases hq : q.request.context.admissionEnvelope <;>
    cases hq' : q'.request.context.admissionEnvelope <;> simp [hq, hq'] at he
  case none.none => rfl
  case some.some => simp [h.actionClass, he, assertCaps_congr h.metadata]

theorem SameQuestion.decision (h : q.SameQuestion q')
    (hs : ∀ {b}, b ∈ q.selected ↔ b ∈ q'.selected) :
    q.decision.effect = q'.decision.effect ∧ q.decision.denyReason = q'.decision.denyReason := by
  have hr : ∀ {rule}, rule ∈ rulesOf q.selected ↔ rule ∈ rulesOf q'.selected := by
    simp [rulesOf, hs]
  exact (evaluateWithBundles_verdict q.request q.selected).congr
    h.assertAdmissionEnvelope h.actionClass h.resource hr
    |>.unique <| evaluateWithBundles_verdict q'.request q'.selected

-- The answer for a query without bundles does not look at the admission envelope.
def Considered (q : Query) : Prop :=
  q.selected = [] → OpaIntegration.assertAdmissionEnvelope q.request = .ok ()

theorem respond_default_ne_none : q.respond now defaultEvaluator ≠ none := by
  unfold respond
  split <;> simp [defaultEvaluator]

theorem respond_default (h : q.respond now defaultEvaluator = some value) (hc : q.Considered) :
    value.effect = q.decision.effect ∧ value.denyReason = q.decision.denyReason := by
  unfold respond at h
  split at h
  case isTrue hs =>
    cases h
    have hv := evaluateWithBundles_verdict q.request q.selected
    have hn : ¬∃ rule ∈ rulesOf q.selected, rule.actionClass = q.request.actionClass := by
      simp [rulesOf, hs]
    exact (Verdict.notCovered (hc hs) hn).unique hv
  case isFalse =>
    cases h
    exact ⟨rfl, rfl⟩

end Query

-- An evaluator that throws or returns what the default evaluator returns.
def MayThrow (evaluator : Evaluator) : Prop :=
  ∀ request bundles, evaluator request bundles = none ∨
    evaluator request bundles = defaultEvaluator request bundles

theorem Query.respond_of_mayThrow {q : Query} (he : MayThrow evaluator)
    (h : q.respond now evaluator = some value) : q.respond now defaultEvaluator = some value := by
  by_cases hs : q.selected = []
  case pos => simpa [respond, hs] using h
  case neg =>
    rcases he q.request q.selected with he | he
    case inl => simp [respond, hs, he] at h
    case inr => simpa [respond, hs, he] using h

def Op.MayThrow : Op → Prop
  | .evaluate _ _ _ evaluator => OpaIntegration.MayThrow evaluator
  | _                         => True

-- The assumption about SHA-256, for the texts that are hashed.
def NoCollision [Sha256] (A : Set Query) : Prop :=
  (A.image (asBytes ·.keyText)).InjOn sha256Hex

-- No two queries share the text of their cache key and ask for different decisions.
def Separated (A : Set Query) : Prop :=
  ∀ q ∈ A, ∀ q' ∈ A, q.keyText = q'.keyText → q.SameQuestion q'

section Queries

variable {A : Set Query} {q q' : Query}

theorem NoCollision.keyText_eq [Sha256] (h : NoCollision A) (hq : q ∈ A) (hq' : q' ∈ A)
    (hk : q.key = q'.key) : q.keyText = q'.keyText :=
  asBytes_injective <| h (Set.mem_image_of_mem _ hq) (Set.mem_image_of_mem _ hq') hk

-- It suffices that different queries have different keys.
theorem noCollision_of_injOn [Sha256] (h : A.InjOn (·.key)) : NoCollision A := by
  rintro _ ⟨q, hq, rfl⟩ _ ⟨q', hq', rfl⟩ he
  rw [h hq hq' he]

theorem Query.SameQuestion.refl (q : Query) : q.SameQuestion q where
  actionClass := rfl
  resource    := rfl
  metadata _  := rfl
  envelope    := rfl
  versions    := .refl _

theorem separated_of_injOn [Sha256] (h : A.InjOn (·.key)) : Separated A := by
  intro q hq q' hq' hk
  have he : q = q' := h hq hq' <| congrArg (sha256Hex <| asBytes ·) hk
  exact he ▸ .refl q

end Queries

namespace OpaIntegrationService

variable [Sha256] [Ed25519] {s : OpaIntegrationService} {q : Query}
variable {g : Transition.Guard OpaIntegrationService Op}

def queries (s : OpaIntegrationService) (op : Op) : Set Query :=
  { q | s.query? op = some q }

-- Every cached response answers a query of `A` and is up to date.
def Traced (A : Set Query) (s : OpaIntegrationService) : Prop :=
  ∀ k entry, (k, entry) ∈ s.cache.map → ∃ q ∈ A, q.key = k ∧
    (∃ now, q.respond now defaultEvaluator = some entry.value) ∧ s.UpToDate q.selected entry

theorem Traced.step {A : Set Query} (h : Traced A s) (ho : op.MayThrow) :
    Traced (A ∪ s.queries op) (s.step op) := by
  intro k entry hm
  rcases s.step_cases op with ⟨_, hk⟩ | ⟨q, entry', _, hs⟩
  case inl =>
    have ⟨q, hq, hk', ha, hu⟩ := h k entry <| hk.cached hm
    exact ⟨q, .inl hq, hk', ha, hk.upToDate hm hu⟩
  case inr =>
    rcases hs.cached hm with ⟨rfl, rfl⟩ | ⟨_, hm⟩
    case inl =>
      have ⟨_, _, evaluator, he, hr⟩ := hs.answer
      have hv : MayThrow evaluator := by simpa [he, Op.MayThrow] using ho
      exact ⟨q, .inr hs.query, rfl, ⟨_, Query.respond_of_mayThrow hv hr⟩, hs.upToDate⟩
    case inr =>
      have ⟨q, hq, hk, ha, hu⟩ := h k entry hm
      exact ⟨q, .inl hq, hk, ha, hu.mono (hs.loaded ▸ id)⟩

omit [Ed25519] in
theorem Traced.mono {A B : Set Query} (h : Traced A s) (hs : A ⊆ B) : Traced B s := by
  intro k entry hm
  have ⟨q, hq, hr⟩ := h k entry hm
  exact ⟨q, hs hq, hr⟩

omit [Ed25519] in
theorem traced_new : Traced ∅ (new ttl maxEntries) :=
  fun _ _ hm => nomatch hm

theorem Traced.run {A : Set Query} (h : Traced A s₁) (r : Run g s₁ s₂)
    (hg : ∀ {s op}, g s op → op.MayThrow) : Traced (A ∪ r.collect queries) s₂ := by
  apply r.invariant_fold (P := fun B s => Traced (A ∪ B) s)
  case h =>
    intro B s op h _ c
    exact Set.union_assoc .. ▸ h.step (hg c)
  case a => simpa using h

omit [Sha256] [Ed25519] in
theorem UpToDate.mem_selected_iff {q' : Query} (h : s.UpToDate q'.selected entry)
    (hs : q.selected = s.selectBundles q.request.bundleNames) (hq : q'.SameQuestion q) :
    b ∈ q'.selected ↔ b ∈ q.selected := by
  have loaded : ∀ {b}, b ∈ q.selected → (b.bundleName, b) ∈ s.loadedByName :=
    fun hb => mem_loadedByName_of_selected (hs ▸ hb)
  constructor
  case mp =>
    intro hb
    have ⟨c, hc, he⟩ := List.mem_map.mp <| hq.versions.mem_iff.mp <| List.mem_map.mpr ⟨b, hb, rfl⟩
    have hn : c.bundleName = b.bundleName := (Prod.mk.inj he).left
    exact h.loaded hb (hn ▸ loaded hc) ▸ hc
  case mpr =>
    intro hb
    have ⟨c, hc, he⟩ := List.mem_map.mp <| hq.versions.mem_iff.mpr <| List.mem_map.mpr ⟨b, hb, rfl⟩
    have hn : c.bundleName = b.bundleName := (Prod.mk.inj he).left
    exact h.loaded hc (hn ▸ loaded hb) ▸ hc

omit [Ed25519] in
-- A response from the cache answers a query that asks for the same decision.
theorem Traced.hit {A : Set Query} (h : Traced A s) (hc : NoCollision A) (hA : Separated A)
    (hq : q ∈ A) (hs : q.selected = s.selectBundles q.request.bundleNames)
    (hm : (q.key, entry) ∈ s.cache.map) :
    ∃ q' ∈ A, (∃ now, q'.respond now defaultEvaluator = some entry.value) ∧
      (∀ {b}, b ∈ q'.selected ↔ b ∈ q.selected) ∧
      q'.decision.effect = q.decision.effect ∧ q'.decision.denyReason = q.decision.denyReason := by
  have ⟨q', hq', hk, ha, hu⟩ := h _ _ hm
  have same := hA _ hq' _ hq <| hc.keyText_eq hq' hq hk
  exact ⟨q', hq', ha, hu.mem_selected_iff hs same, same.decision <| hu.mem_selected_iff hs same⟩

omit [Ed25519] in
-- Unless the evaluator throws, an evaluation gives the decision of its query.
theorem Traced.evaluateEffective {A : Set Query} (h : Traced A s) (hc : NoCollision A)
    (hA : Separated A) (hq : q ∈ A) (hs : q.selected = s.selectBundles q.request.bundleNames)
    (hn : ∀ q' ∈ A, (∀ {b}, b ∈ q'.selected ↔ b ∈ q.selected) → q'.Considered)
    (he : MayThrow evaluator)
    (hr : (s.evaluateEffective q.request now evaluator).1 = response) :
    (response.effect = q.decision.effect ∧ response.denyReason = q.decision.denyReason) ∨
    (response.effect = .deny ∧ q.respond now evaluator = none) := by
  have hv := evaluateEffective_cases hs now evaluator
  rw [hr] at hv
  generalize (s.evaluateEffective q.request now evaluator).2 = s' at hv
  cases hv
  case hit _ hm _ _ =>
    have ⟨q', hq', ⟨_, ha⟩, hb, hd, hdr⟩ := h.hit hc hA hq hs hm
    have ⟨hd', hdr'⟩ := Query.respond_default ha (hn q' hq' hb)
    exact .inl ⟨hd'.trans hd, hdr'.trans hdr⟩
  case answered _ ha _ _ =>
    exact .inl <| Query.respond_default (Query.respond_of_mayThrow he ha) (hn q hq .rfl)
  case failed _ ha => exact .inr ⟨rfl, ha⟩

theorem run_evaluate_transparent {A : Set Query}
    (r : Run (fun _ op => op.MayThrow) (new ttl maxEntries) s)
    (h : (s.evaluate request now fetched defaultEvaluator).1 = .ok response)
    (hA : A = r.collect queries ∪ s.queries (.evaluate request now fetched defaultEvaluator))
    (hc : NoCollision A) (hs : Separated A) (hn : ∀ q ∈ A, q.Considered) :
    ∃ effective, request.effective fetched = .ok effective ∧
      response.effect =
        (evaluateWithBundles effective <| s.selectBundles effective.bundleNames).effect ∧
      response.denyReason =
        (evaluateWithBundles effective <| s.selectBundles effective.bundleNames).denyReason := by
  have traced : Traced A s := by
    apply (traced_new.run r id).mono
    simp [hA]
  cases hq : s.query? (.evaluate request now fetched defaultEvaluator)
  case none =>
    have ⟨_, he⟩ := evaluate_of_no_query hq
    simp [he] at h
  case some q =>
    have mem : q ∈ A := hA ▸ .inr hq
    obtain ⟨_, _, _, _, ho, hf, hsel, he⟩ := evaluate_of_query hq
    cases ho
    simp only [he, Except.ok.injEq] at h
    refine ⟨q.request, hf, ?_⟩
    rw [← hsel]
    have hd := traced.evaluateEffective hc hs mem hsel (fun q' hq' _ => hn q' hq')
      (fun _ _ => .inr rfl) h
    exact hd.resolve_right fun ⟨_, hr⟩ => Query.respond_default_ne_none hr

end OpaIntegrationService

namespace Sample

open OpaIntegrationService

open scoped Sha256.Standard

-- The payloads carry no signature.
scoped instance unsigned : Ed25519 where
  createPublicKey _ := .ok ()
  fromBase64 _      := []
  verify _ _ _      := false

def payload (bundleName regoSource : String) : BundlePayload where
  bundleId   := bundleName ++ "-1.0.0"
  bundleName := bundleName
  version    := "1.0.0"
  regoSource := regoSource

def startup (active : List BundlePayload) : Op :=
  .startupLoadBundles
    { getActiveBundles := .ok active
      getActiveBundle _ := .error "not_found"
      getBundle _ _ := .error "not_found" }
    fun _ => ⟨0, 0, none⟩

def request (resource passportId : String) : EvaluateRequest where
  evaluationId := "eval-1"
  agentId      := "agent-1"
  actionClass  := "READ"
  resource     := resource
  context      := { passportId }

def evaluation (r : EvaluateRequest) : Op :=
  .evaluate r 0 (.ok none) defaultEvaluator

-- The bundle allows only resources below `a|`.
def started : OpaIntegrationService :=
  (new 30 10000).step <| startup [payload "b1" "ALLOW action=READ prefix=a|"]

def evaluated : OpaIntegrationService :=
  started.step <| evaluation (request "a|b" "c")

theorem admissible : Transition.Admissible system (fun _ op => op.MayThrow) (new 30 10000)
    [startup [payload "b1" "ALLOW action=READ prefix=a|"], evaluation (request "a|b" "c")] :=
  ⟨trivial, trivial, trivial, fun _ _ => .inr rfl, trivial⟩

theorem query?_request (s : OpaIntegrationService) (evaluator : Evaluator) (hr : resource ≠ "")
    (hp : passportId ≠ "") :
    s.query? (.evaluate (request resource passportId) 0 (.ok none) evaluator) =
      some ⟨request resource passportId, s.selectBundles []⟩ := by
  simp [query?, request, EvaluateRequest.effective, Except.toOption, hr, hp]

theorem selectBundles_evaluated : evaluated.selectBundles [] = started.selectBundles [] := by
  decide +kernel

-- Another question has been asked since.
def asked : OpaIntegrationService :=
  evaluated.step <| evaluation (request "x" "c")

theorem admissible_asked : Transition.Admissible system (fun _ op => op.MayThrow) (new 30 10000)
    [startup [payload "b1" "ALLOW action=READ prefix=a|"], evaluation (request "a|b" "c"),
      evaluation (request "x" "c")] :=
  ⟨trivial, trivial, trivial, fun _ _ => .inr rfl, trivial, fun _ _ => .inr rfl, trivial⟩

theorem selectBundles_asked : asked.selectBundles [] = started.selectBundles [] := by
  decide +kernel

def sampleQueries : Set Query :=
  (Transition.Run.ofSchedule _ admissible_asked).collect queries ∪
    asked.queries (evaluation <| request "a|b" "c")

theorem sampleQueries_subset : sampleQueries ⊆
    {⟨request "a|b" "c", started.selectBundles []⟩, ⟨request "x" "c", started.selectBundles []⟩} := by
  intro q h
  rw [sampleQueries, Transition.Run.collect, Transition.Run.fold_ofSchedule] at h
  rcases h with (((h | h) | h) | h) | h
  case inl.inl.inl.inl => cases h
  case inl.inl.inl.inr => cases h
  case inl.inl.inr =>
    exact .inl <| Option.some.inj <| h.symm.trans <| query?_request started _ (by decide) (by decide)
  case inl.inr =>
    rw [← selectBundles_evaluated]
    exact .inr <| Option.some.inj <| h.symm.trans <| query?_request evaluated _ (by decide) (by decide)
  case inr =>
    rw [← selectBundles_asked]
    exact .inl <| Option.some.inj <| h.symm.trans <| query?_request asked _ (by decide) (by decide)

theorem run_evaluate_transparent_asked :
    ∃ response, (asked.evaluate (request "a|b" "c") 0 (.ok none) defaultEvaluator).1 =
      .ok response ∧ response.effect = .allow := by
  have answered : ((asked.evaluate (request "a|b" "c") 0 (.ok none) defaultEvaluator).1
      |>.toOption.isSome) := by decide +kernel
  have injective : sampleQueries.InjOn (·.key) :=
    (Set.injOn_pair.mpr fun h => absurd h (by decide +kernel)).mono sampleQueries_subset
  have considered : ∀ q ∈ sampleQueries, q.Considered := by
    intro q hq _
    rcases sampleQueries_subset hq with rfl | rfl <;> rfl
  cases h : (asked.evaluate (request "a|b" "c") 0 (.ok none) defaultEvaluator).1
  case error    => simp [h, Except.toOption] at answered
  case ok value =>
    obtain ⟨_, he, hd, _⟩ := run_evaluate_transparent (.ofSchedule _ admissible_asked) h rfl
      (noCollision_of_injOn injective) (separated_of_injOn injective) considered
    cases he
    have allowed : (evaluateWithBundles (request "a|b" "c") (started.selectBundles [])).effect =
        .allow := by decide +kernel
    exact ⟨value, rfl, hd.trans (selectBundles_asked ▸ allowed)⟩

-- Both requests have the cache key `agent-1|READ|a|b|c|b1:1.0.0|none|`.
theorem other_request_allowed :
    Nonempty (Run (fun _ op => op.MayThrow) (new 30 10000) evaluated) ∧
    ((evaluated.evaluate (request "a" "b|c") 0 (.ok none) defaultEvaluator).1.toOption.map
      (·.effect)) = some .allow ∧
    (evaluateWithBundles (request "a" "b|c") (evaluated.selectBundles [])).effect = .deny := by
  rw [selectBundles_evaluated]
  refine ⟨⟨.ofSchedule _ admissible⟩, ?_, ?_⟩
  all_goals decide +kernel

end Sample

end OpaIntegration
