import AreFoundation.ScopeEvaluator.Service

namespace ScopeEvaluator

-- What it means for a scope to cover a request.
structure ScopeEntry.Covers (scope : ScopeEntry) (request : EvaluateScopeRequest) (now : Int) :
    Prop where
  alive       : now < scope.expiresTs
  actionClass : scope.actionClass = request.actionClass
  resource    : globMatch scope.resourcePattern request.resource = .ok true
  context     : scope.contextConstraints = ∅ ∨ scope.contextConstraints = request.context

instance {scope : ScopeEntry} : Decidable (scope.Covers request now) :=
  decidable_of_iff
    (now < scope.expiresTs ∧ scope.actionClass = request.actionClass ∧
      globMatch scope.resourcePattern request.resource = .ok true ∧
      (scope.contextConstraints = ∅ ∨ scope.contextConstraints = request.context))
    ⟨fun ⟨h₁, h₂, h₃, h₄⟩ => ⟨h₁, h₂, h₃, h₄⟩, fun ⟨h₁, h₂, h₃, h₄⟩ => ⟨h₁, h₂, h₃, h₄⟩⟩

def ScopeEntry.toMatch (scope : ScopeEntry) : ScopeMatch where
  scopeId         := scope.scopeId
  actionClass     := scope.actionClass
  resourcePattern := scope.resourcePattern
  isEscalation    := scope.isEscalation
  scopeExpiresTs  := scope.expiresTs

-- The fields that a request must have.
structure EvaluateScopeRequest.Complete (request : EvaluateScopeRequest) : Prop where
  evaluationId : request.evaluationId ≠ ""
  agentId      : request.agentId ≠ ""
  actionClass  : request.actionClass ≠ ""
  resource     : request.resource ≠ ""

theorem EvaluateScopeRequest.Complete.not_invalid {request : EvaluateScopeRequest}
    (h : request.Complete) : ¬request.Invalid := by
  simp [h.evaluationId, h.agentId, h.actionClass, h.resource]

def sampleRequest : EvaluateScopeRequest where
  evaluationId := "e-1"
  agentId      := "agent-1"
  actionClass  := "READ"
  resource     := "data/users"

theorem sampleRequest_complete : sampleRequest.Complete :=
  ⟨by decide, by decide, by decide, by decide⟩

namespace ScopeEvaluatorService

variable {request : EvaluateScopeRequest} {now : Int} {scope : ScopeEntry}

theorem contextMatches_iff {constraints context : HashMap String String} :
    contextMatches constraints context ↔ constraints = ∅ ∨ constraints = context := by
  simp only [contextMatches]
  split
  case isTrue he =>
    have : constraints = ∅ := by
      apply HashMap.eq_of_lookup_eq (by simp)
      simpa using he
    simp [this]
  case isFalse he =>
    have hne : constraints ≠ ∅ := by rintro rfl; simp at he
    split
    case isTrue hc =>
      have : constraints ≠ context := by rintro rfl; exact hc rfl
      simp [hne, this]
    case isFalse hc =>
      simp only [decide_eq_true_eq, hne, false_or]
      constructor
      case mp  => exact fun h => (HashMap.eq_of_lookup_eq h (not_not.mp hc)).symm
      case mpr => rintro rfl; exact fun _ _ => rfl

theorem evaluateEntry_of_covers (h : scope.Covers request now) :
    evaluateEntry request now scope = .ok scope.toMatch := by
  simp [evaluateEntry, not_le.mpr h.alive, h.actionClass, h.resource,
    contextMatches_iff.mpr h.context, ScopeEntry.toMatch]

theorem evaluateEntry_of_not_covers (h : ¬scope.Covers request now) :
    ∃ reason, evaluateEntry request now scope = .error (miss scope reason) := by
  simp only [evaluateEntry]
  split
  case isTrue   => exact ⟨_, rfl⟩
  case isFalse ha =>
    split
    case isTrue     => exact ⟨_, rfl⟩
    case isFalse hc =>
      split
      case h_1     => exact ⟨_, rfl⟩
      case h_2     => exact ⟨_, rfl⟩
      case h_3 hg =>
        split
        case isTrue hx =>
          exact absurd ⟨not_le.mp ha, not_not.mp hc, hg, contextMatches_iff.mp hx⟩ h
        case isFalse => exact ⟨_, rfl⟩

theorem exists_missReason (request : EvaluateScopeRequest) (now : Int) :
    ∃ reason : ScopeEntry → MissReason, ∀ scope, ¬scope.Covers request now →
      evaluateEntry request now scope = .error (miss scope <| reason scope) := by
  have h : ∀ scope : ScopeEntry, ∃ reason, ¬scope.Covers request now →
      evaluateEntry request now scope = .error (miss scope reason) := by
    intro scope
    by_cases hc : scope.Covers request now
    case pos => exact ⟨.scopeExpired, absurd hc⟩
    case neg =>
      have ⟨reason, hr⟩ := evaluateEntry_of_not_covers hc
      exact ⟨reason, fun _ => hr⟩
  choose reason hr using h
  exact ⟨reason, hr⟩

theorem matches_eq (scopes : List ScopeEntry) :
    (scopes.map <| evaluateEntry request now).filterMap (·.toOption) =
      (scopes.filter (·.Covers request now)).map (·.toMatch) := by
  induction scopes
  case nil            => rfl
  case cons scope _ hi =>
    by_cases h : scope.Covers request now
    case pos => simpa [evaluateEntry_of_covers h, h, Except.toOption] using hi
    case neg =>
      have ⟨_, hr⟩ := evaluateEntry_of_not_covers h
      simpa [hr, h, Except.toOption] using hi

theorem misses_eq {reason : ScopeEntry → MissReason} (scopes : List ScopeEntry)
    (hr : ∀ scope, ¬scope.Covers request now →
      evaluateEntry request now scope = .error (miss scope <| reason scope)) :
    (scopes.map <| evaluateEntry request now).filterMap
        (fun | .error miss => some miss | .ok _ => none) =
      (scopes.filter (¬·.Covers request now)).map fun scope => miss scope <| reason scope := by
  induction scopes
  case nil             => rfl
  case cons scope _ hi =>
    by_cases h : scope.Covers request now
    case pos => simpa [evaluateEntry_of_covers h, h] using hi
    case neg => simpa [hr scope h, h] using hi

-- The decision for a passport, apart from where the passport comes from.
structure Decides (request : EvaluateScopeRequest) (now : Int) (p : Passport)
    (resp : EvaluateScopeResponse) : Prop where
  scopeMatches : resp.scopeMatches = (p.scopes.filter (·.Covers request now)).map (·.toMatch)
  misses       : ∃ reason : ScopeEntry → MissReason, resp.misses =
                   (p.scopes.filter (¬·.Covers request now)).map fun s => miss s <| reason s
  inScope      : resp.inScope ↔ now < p.expiresTs ∧ resp.scopeMatches ≠ []

theorem Decides.mono (h : Decides request now p resp) (h' : Decides request now p' resp')
    (he : p'.expiresTs = p.expiresTs) (hs : p.scopes ⊆ p'.scopes) (hi : resp.inScope) :
    resp'.inScope := by
  have ⟨ha, hm⟩ := h.inScope.mp hi
  refine h'.inScope.mpr ⟨he ▸ ha, ?_⟩
  rw [h.scopeMatches] at hm
  rw [h'.scopeMatches]
  simp only [ne_eq, List.map_eq_nil_iff, List.filter_eq_nil_iff, not_forall] at hm ⊢
  have ⟨scope, hm, hc⟩ := hm
  exact ⟨scope, hs hm, hc⟩

variable {svc : ScopeEvaluatorService} {clock : Clock}
variable {fetched : Except ScopeError ScopeEvaluator.Passport}

theorem evaluateScope_decides (hr : request.Complete)
    (hp : (svc.getOrFetchPassport request.agentId clock.monotonic fetched).1 = .ok (p, cacheHit)) :
    ∃ resp, (svc.evaluateScope request clock fetched).1 = .ok resp ∧
      Decides request clock.millis p resp := by
  have ⟨reason, hm⟩ := exists_missReason request clock.millis
  generalize hf : svc.getOrFetchPassport request.agentId clock.monotonic fetched = f at hp
  cases f
  cases hp
  simp only [evaluateScope, if_neg hr.not_invalid, hf]
  refine ⟨_, rfl, matches_eq _, ⟨reason, misses_eq _ hm⟩, ?_⟩
  simp [EvaluateScopeRequest.respond]

-- The second part compares the passport with one that has at least its scopes.
theorem evaluateScope_exact (hr : request.Complete)
    (hp : (svc.getOrFetchPassport request.agentId clock.monotonic fetched).1 = .ok (p, cacheHit)) :
    ∃ resp, (svc.evaluateScope request clock fetched).1 = .ok resp ∧
      Decides request clock.millis p resp ∧
      ∀ {svc' : ScopeEvaluatorService} {clock' fetched' p' cacheHit' resp'},
        (svc'.getOrFetchPassport request.agentId clock'.monotonic fetched').1 =
          .ok (p', cacheHit') →
        (svc'.evaluateScope request clock' fetched').1 = .ok resp' → clock'.millis = clock.millis →
        p'.expiresTs = p.expiresTs → p.scopes ⊆ p'.scopes → resp.inScope → resp'.inScope := by
  have ⟨resp, h, hd⟩ := evaluateScope_decides hr hp
  refine ⟨resp, h, hd, ?_⟩
  intro svc' clock' fetched' p' cacheHit' resp' hp' h' ht he hs hi
  have ⟨_, h'', hd'⟩ := evaluateScope_decides hr hp'
  cases h'.symm.trans h''
  exact hd.mono (ht ▸ hd') he hs hi

section Sample

def decisionRequest : EvaluateScopeRequest :=
  { sampleRequest with context := Finmap.singleton "env" "prod" }

def decisionScope (scopeId actionClass : String) (constraints : HashMap String String) :
    ScopeEntry where
  scopeId            := scopeId
  actionClass        := actionClass
  resourcePattern    := "data/*"
  contextConstraints := constraints
  expiresTs          := 2000
  isEscalation       := false

-- Only the second scope covers the request.
def decisionPassport : Passport where
  passportId   := "p-1"
  passportType := "STANDARD"
  expiresTs    := 3000
  scopes       := [decisionScope "s-1" "WRITE" ∅,
                   decisionScope "s-2" "READ" (Finmap.singleton "env" "prod"),
                   decisionScope "s-3" "READ" (Finmap.singleton "env" "test")]

def decisionClock : Clock := ⟨1000, 0⟩

theorem evaluateScope_exact_decisionPassport :
    ∃ resp, ((new 500 60 5).evaluateScope decisionRequest decisionClock
        (.ok decisionPassport)).1 = .ok resp ∧
      resp.inScope ∧ resp.scopeMatches.map (·.scopeId) = ["s-2"] := by
  have complete : decisionRequest.Complete := ⟨by decide, by decide, by decide, by decide⟩
  have fetched : ((new 500 60 5).getOrFetchPassport decisionRequest.agentId
      decisionClock.monotonic (.ok decisionPassport)).1 = .ok (decisionPassport, false) := rfl
  have ⟨resp, h, hd, _⟩ := evaluateScope_exact complete fetched
  have hm : resp.scopeMatches.map (·.scopeId) = ["s-2"] := by
    rw [hd.scopeMatches]
    decide +kernel
  refine ⟨resp, h, hd.inScope.mpr ⟨by decide, ?_⟩, hm⟩
  intro he
  simp [he] at hm

end Sample

end ScopeEvaluatorService

end ScopeEvaluator
