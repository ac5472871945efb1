import AreFoundation.PassportIssuance.Server
import AreFoundation.PassportIssuance.Theorems.Issuance

namespace PassportIssuance

open Transition

-- The seconds that a `time.Duration` can hold.
theorem bmod_nanoseconds_iff {seconds : Int} (h : 0 < seconds) :
    (seconds * 1000000000).bmod (2 ^ 64) = seconds * 1000000000 ↔ seconds ≤ 9223372036 := by
  constructor
  case mp =>
    intro he
    have hl : (seconds * 1000000000).bmod (2 ^ 64) < (2 ^ 64 + 1) / 2 := Int.bmod_lt (by decide)
    omega
  case mpr =>
    intro hs
    apply Int.bmod_eq_of_le
    all_goals omega

namespace IssueInput

variable {input : IssueInput}

theorem check_eq_ok (h : input.check status = .ok ()) :
    input.validate = .ok () ∧ input.checkProvisional = .ok () := by
  unfold check at h
  cases hv : input.validate
  case error => rw [hv] at h; cases h
  case ok    =>
    rw [hv] at h
    cases hs : checkAgentStatus status
    case error => rw [hs] at h; cases h
    case ok    => rw [hs] at h; exact ⟨rfl, h⟩

theorem validate_eq_ok (h : input.validate = .ok ()) :
    input.scopes ≠ [] ∧ 300 ≤ input.ttlSeconds ∧
    (input.passportType = .provisional → input.ttlSeconds ≤ 86400) ∧
    (input.passportType = .standard → input.ttlSeconds ≤ 2592000) := by
  unfold validate at h
  split_ifs at h with hf hl hp hs
  simp only [not_or, not_and, not_lt] at hf hl hp hs
  exact ⟨hf.2.2.2, hl, hp, hs⟩

theorem checkProvisional_eq_ok (h : input.checkProvisional = .ok ())
    (hp : input.passportType = .provisional) :
    ∀ s ∈ input.scopes, s.actionClass ∈ provisionalAllowedActionType := by
  unfold checkProvisional at h
  split_ifs at h with hc
  intro s hs
  by_contra ha
  exact hc ⟨hp, s, hs, ha⟩

end IssueInput

namespace Service

variable [Sha256] {s s' : Service} {input : IssueInput} {env : IssueEnv} {p : Passport}

theorem IssuePassport.checked (h : s.IssuePassport input env (.ok p, s')) :
    input.check env.agentStatus = .ok () := by
  cases h
  case first hc _ _     => exact hc
  case reissue hc _ _ _ => exact hc

theorem IssueNew.lookup (h : s.IssueNew input env (.ok p, s')) :
    s'.passports.lookup p.passportId = some p := by
  cases h
  exact Finmap.lookup_insert _

theorem IssuePassport.lookup (h : s.IssuePassport input env (.ok p, s')) :
    s'.passports.lookup p.passportId = some p := by
  cases h
  case first hn   => exact hn.lookup
  case reissue hn => exact hn.lookup

end Service

namespace Grpc.Server

-- What the engine guarantees about a passport that it has issued for a request.
structure WithinLimits (req : IssuePassportRequest) (p : Passport) : Prop where
  scopes      : p.scopeSet ≠ []
  type        : p.passportType = .standard ∨ p.passportType = .provisional
  lifetime    : p.expiresTs - p.issuedTs = req.ttlSeconds * 1000000000
  noOverflow  : req.ttlSeconds * 1000000000 < 2 ^ 63
  atLeast     : 300 ≤ req.ttlSeconds
  standard    : p.passportType = .standard → req.ttlSeconds ≤ 2592000
  provisional : p.passportType = .provisional → req.ttlSeconds ≤ 86400 ∧
                  ∀ s ∈ p.scopeSet, s.actionClass ∈ ["READ", "NOTIFY", "QUERY"]

theorem WithinLimits.revoke (h : WithinLimits req p) : WithinLimits req (p.revoke reason t) where
  scopes      := h.scopes
  type        := h.type
  lifetime    := h.lifetime
  noOverflow  := h.noOverflow
  atLeast     := h.atLeast
  standard    := h.standard
  provisional := h.provisional

theorem parsePassportType_eq_ok (h : parsePassportType raw = .ok pType) :
    pType = .standard ∨ pType = .provisional := by
  unfold parsePassportType at h
  split at h
  all_goals cases h
  · exact .inl rfl
  · exact .inl rfl
  · exact .inr rfl

section Issue

variable {req : IssuePassportRequest} {env : ServerEnv}

theorem ttlSeconds_bounds (hp : parsePassportType req.passportType = .ok pType)
    (hc : (req.present.toInput pType env).check status = .ok ()) :
    300 ≤ req.ttlSeconds ∧ req.ttlSeconds ≤ 2592000 := by
  have ⟨_, hl, hv, hs⟩ := IssueInput.validate_eq_ok (IssueInput.check_eq_ok hc).left
  refine ⟨hl, ?_⟩
  cases parsePassportType_eq_ok hp
  case inl h => exact hs h
  case inr h => exact (hv h).trans (by decide)

theorem toPassport_withinLimits (hp : parsePassportType req.passportType = .ok pType)
    (hc : (req.present.toInput pType env).check status = .ok ()) :
    WithinLimits req ((req.present.toInput pType env).toPassport issue signed policy) := by
  have ⟨hv, ha⟩ := IssueInput.check_eq_ok hc
  have ⟨hn, _, hp', hs⟩ := IssueInput.validate_eq_ok hv
  have ⟨hl, hu⟩ := ttlSeconds_bounds hp hc
  have hpos : 0 < req.ttlSeconds := by omega
  have hw := (bmod_nanoseconds_iff hpos).mpr (by omega)
  exact {
    scopes      := hn
    type        := parsePassportType_eq_ok hp
    lifetime    := (add_sub_cancel_left ..).trans hw
    noOverflow  := by omega
    atLeast     := hl
    standard    := hs
    provisional := fun h => ⟨hp' h, IssueInput.checkProvisional_eq_ok ha h⟩ }

end Issue

section Outcome

variable [Sha256] {svc : Service} {req : IssuePassportRequest} {env : ServerEnv}

-- Requests with a scope are answered as if the missing ones had not been sent.
theorem issuePassport_eq_present (h : req.present.requestedScopes ≠ []) :
    issuePassport svc (some req) env = Grpc.issuePassport svc req.present env := by
  dsimp only [issuePassport]
  split
  case h_1 hn => exact absurd hn h
  case h_2    => rfl

-- An outcome of `IssuePassport`: the request is refused by the server, or the service answers it.
inductive IssuePassport (svc : Service) (req : IssuePassportRequest) (env : ServerEnv) :
    Except Status PassportMessage × Service → Prop
  | refused : IssuePassport svc req env (.error status, svc)
  | failed (hp : parsePassportType req.passportType = .ok pType)
    (h : svc.issuePassport (req.present.toInput pType env) env.issue = (.error err, svc')) :
    IssuePassport svc req env (.error (mapErr err), svc')
  | issued (hp : parsePassportType req.passportType = .ok pType)
    (h : svc.issuePassport (req.present.toInput pType env) env.issue = (.ok p, svc')) :
    IssuePassport svc req env (.ok (passportToProto p), svc')

theorem issuePassport_cases (svc : Service) (req : IssuePassportRequest) (env : ServerEnv) :
    IssuePassport svc req env (issuePassport svc (some req) env) := by
  dsimp only [issuePassport]
  split
  case h_1 => exact .refused
  case h_2 =>
    unfold Grpc.issuePassport
    split
    case h_1    => exact .refused
    case h_2 hp =>
      split
      case isTrue  => exact .refused
      case isFalse =>
        split
        case h_1 h => exact .failed hp h
        case h_2 h => exact .issued hp h

end Outcome

section Scopes

-- The scope is alive when it is granted and lives for as long as the request says.
structure Granted (ttlSeconds : Int) (sr : ScopeRequest) (scope : Scope) : Prop where
  alive    : scope.grantedTs < scope.expiresTs
  lifetime : scope.expiresTs - scope.grantedTs =
    (if 0 < sr.scopeTtlSeconds then sr.scopeTtlSeconds else ttlSeconds) * 1000000000

theorem scopeFromProto_granted_iff {sr : ScopeRequest} {ttl : Int} {scopeId : String}
    (hl : 0 < ttl) (hu : ttl ≤ 2592000) :
    Granted ttl sr (scopeFromProto sr ttl now scopeId) ↔ sr.scopeTtlSeconds ≤ 9223372036 := by
  -- The duration in seconds, which is positive in either case.
  obtain ⟨seconds, hs⟩ : ∃ n, n = if 0 < sr.scopeTtlSeconds then sr.scopeTtlSeconds else ttl :=
    ⟨_, rfl⟩
  have hpos : 0 < seconds := by split at hs <;> omega
  have hle : seconds ≤ 9223372036 ↔ sr.scopeTtlSeconds ≤ 9223372036 := by split at hs <;> omega
  have he : (scopeFromProto sr ttl now scopeId).expiresTs =
      now + (seconds * 1000000000).bmod (2 ^ 64) := by
    have : (if sr.scopeTtlSeconds ≤ 0 then ttl else sr.scopeTtlSeconds) = seconds := by
      rw [hs]
      split_ifs <;> omega
    simp only [scopeFromProto, this, if_neg hpos.not_ge]
  have hg : (scopeFromProto sr ttl now scopeId).grantedTs = now := rfl
  rw [← hle, ← bmod_nanoseconds_iff hpos]
  constructor
  case mp =>
    intro h
    have hd := h.lifetime
    rwa [he, hg, ← hs, add_sub_cancel_left] at hd
  case mpr =>
    intro h
    constructor
    case alive    =>
      have hn : 0 < seconds * 1000000000 := by omega
      rw [he, hg, h]
      exact lt_add_of_pos_right now hn
    case lifetime => rw [he, hg, h, ← hs, add_sub_cancel_left]

theorem scopes_granted_iff {scopes : List ScopeRequest} {ttl : Int} {ids : Nat → String}
    (hl : 0 < ttl) (hu : ttl ≤ 2592000) (n : Nat) :
    List.Forall₂ (Granted ttl) scopes
      ((scopes.zipIdx n).map fun x => scopeFromProto x.1 ttl now (ids x.2)) ↔
    ∀ sr ∈ scopes, sr.scopeTtlSeconds ≤ 9223372036 := by
  induction scopes generalizing n
  case nil           => simp
  case cons sr tl hi => simp [hi, scopeFromProto_granted_iff hl hu]

end Scopes

section Accepted

variable [Sha256] {svc svc' : Service} {req : IssuePassportRequest} {env : ServerEnv}

theorem issuePassport_scopes_granted_iff
    (h : issuePassport svc (some req) env = (.ok message, svc')) :
    ∃ p, message = passportToProto p ∧ svc'.passports.lookup p.passportId = some p ∧
      (List.Forall₂ (Granted req.ttlSeconds) req.requestedScopes.reduceOption p.scopeSet ↔
        ∀ sr, some sr ∈ req.requestedScopes → sr.scopeTtlSeconds ≤ 9223372036) := by
  have hr := issuePassport_cases svc req env
  rw [h] at hr
  cases hr
  case issued p hp hi =>
    have hi := hi ▸ svc.issuePassport_cases ..
    obtain ⟨_, _, _, rfl⟩ := hi.eq_toPassport
    have ⟨hl, hu⟩ := ttlSeconds_bounds hp hi.checked
    refine ⟨_, rfl, hi.lookup, ?_⟩
    simp only [← List.reduceOption_mem_iff]
    exact scopes_granted_iff (by omega) hu 0

end Accepted

section Sample

open scoped Sha256.Standard

-- Nil is a possible element of the requested scopes.
def sampleRequest (passportType : String) (scopeTtlSeconds : Int) : IssuePassportRequest where
  agentId         := "agent-1"
  passportType    := passportType
  requestedScopes := [none, some ⟨"READ", "data/**", scopeTtlSeconds, ∅⟩]
  ttlSeconds      := 3600
  issuedBy        := "authority"
  reason          := "initial"

def sampleServerEnv : ServerEnv where
  now      := 1700000000000000000
  scopeIds := fun _ => "scope-1"
  issue    := Service.sampleEnv "p-1" "pub-local" 1700000000000000000 []

theorem exists_of_toBool {r : Except ε α × σ} (h : r.1.toBool = true) : ∃ a s, r = (.ok a, s) := by
  obtain ⟨_ | a, s⟩ := r
  · cases h
  · exact ⟨a, s, rfl⟩

theorem issuePassport_scopes_granted_twoHours :
    ∃ message svc' p, issuePassport (.new true true) (some <| sampleRequest "" 7200)
        sampleServerEnv = (.ok message, svc') ∧
      svc'.passports.lookup p.passportId = some p ∧
      List.Forall₂ (Granted 3600) [⟨"READ", "data/**", 7200, ∅⟩] p.scopeSet := by
  obtain ⟨message, svc', h⟩ := exists_of_toBool (r := issuePassport (.new true true)
    (some <| sampleRequest "" 7200) sampleServerEnv) (by decide +kernel)
  have ⟨p, _, hl, hg⟩ := issuePassport_scopes_granted_iff h
  refine ⟨message, svc', p, h, hl, hg.mpr fun sr hm => ?_⟩
  have hs : sr = ⟨"READ", "data/**", 7200, ∅⟩ := by simpa [sampleRequest] using hm
  rw [hs]
  decide

-- The number of nanoseconds is negative as an integer of 64 bits.
theorem issuePassport_scope_expired_when_granted :
    (issuePassport (.new true true) (some <| sampleRequest "STANDARD" 9223372037)
      sampleServerEnv).1.toBool ∧
    ((issuePassport (.new true true) (some <| sampleRequest "STANDARD" 9223372037)
      sampleServerEnv).2.passports.lookup "p-1").map (·.scopeSet.map (·.grantedTs)) =
        some [1700000000000000000] ∧
    ((issuePassport (.new true true) (some <| sampleRequest "STANDARD" 9223372037)
      sampleServerEnv).2.passports.lookup "p-1").map (·.scopeSet.map (·.expiresTs)) =
        some [-7523372036709551616] := by
  decide +kernel

end Sample

-- The requests that were accepted, under the identifiers of the passports that answered them.
def record [Sha256] (svc : Service) (call : Call)
    (requests : HashMap String IssuePassportRequest) : HashMap String IssuePassportRequest :=
  match call with
  | .issuePassport (some req) env =>
    match (issuePassport svc (some req) env).1 with
    | .ok message => requests.insert message.passportId req
    | .error _    => requests
  | _ => requests

-- `active` excludes that the zero value is stored when a passport is superseded.
structure Limited (requests : HashMap String IssuePassportRequest)
    (passports : HashMap String Passport) (activeByAgent : HashMap String String) : Prop where
  passport : ∀ {id p}, passports.lookup id = some p →
               ∃ req, requests.lookup id = some req ∧ WithinLimits req p
  active   : ∀ {a id}, activeByAgent.lookup a = some id → id ∈ passports

namespace Limited

variable {requests : HashMap String IssuePassportRequest}
variable {passports : HashMap String Passport} {activeByAgent : HashMap String String}
variable {a id : String} {p : Passport}

theorem empty : Limited ∅ ∅ ∅ where
  passport h := by simp at h
  active h   := by simp at h

theorem insert_revoke (i : Limited requests passports activeByAgent)
    (h : passports.lookup id = some p) :
    Limited requests (passports.insert id <| p.revoke reason t) activeByAgent where
  passport {id₁ p₁} h₁ := by
    rw [HashMap.lookup_insert] at h₁
    split at h₁
    case isTrue he =>
      have ⟨req, hr, w⟩ := i.passport h
      exact ⟨req, he ▸ hr, Option.some.inj h₁ ▸ w.revoke⟩
    case isFalse => exact i.passport h₁
  active h₁ := Finmap.mem_insert.mpr <| .inr <| i.active h₁

theorem erase (i : Limited requests passports activeByAgent) :
    Limited requests passports (activeByAgent.erase a) where
  passport    := i.passport
  active h := by
    rw [HashMap.lookup_erase] at h
    split at h
    case isTrue  => cases h
    case isFalse => exact i.active h

theorem insert_new (i : Limited requests passports activeByAgent) (w : WithinLimits req p) :
    Limited (requests.insert id req) (passports.insert id p) (activeByAgent.insert a id) where
  passport {id₁ p₁} h := by
    rw [HashMap.lookup_insert] at h ⊢
    split at h
    case isTrue he  => exact ⟨req, if_pos he, Option.some.inj h ▸ w⟩
    case isFalse he => exact if_neg he ▸ i.passport h
  active {a₁ id₁} h := by
    rw [HashMap.lookup_insert] at h
    rw [Finmap.mem_insert]
    split at h
    case isTrue  => exact .inl (Option.some.inj h).symm
    case isFalse => exact .inr <| i.active h

end Limited

-- The passports of the service respect the limits for the requests that were accepted.
def Respects (requests : HashMap String IssuePassportRequest) (svc : Service) : Prop :=
  Limited requests svc.passports svc.activeByAgent

-- The requests after the service has answered one of them.
def answered (requests : HashMap String IssuePassportRequest) (req : IssuePassportRequest) :
    Except ServiceError Passport → HashMap String IssuePassportRequest
  | .ok p    => requests.insert p.passportId req
  | .error _ => requests

section Step

variable {svc : Service} {requests : HashMap String IssuePassportRequest}

theorem supersede_respects (i : Respects requests svc)
    (h : svc.activeByAgent.lookup a = some currentId) :
    Respects requests (svc.supersede currentId t) := by
  have ⟨p, hp⟩ := Finmap.mem_iff.mp <| i.active h
  rw [Respects, Service.passports_supersede hp]
  exact i.insert_revoke hp

theorem service_revokePassport_respects (i : Respects requests svc)
    (h : svc.RevokePassport passportId reason t svc') : Respects requests svc' := by
  cases h
  case unchanged    => exact i
  case current hp _ => exact (i.insert_revoke hp).erase
  case other hp _   => exact i.insert_revoke hp

theorem revokePassport_respects (i : Respects requests svc) :
    Respects requests (revokePassport svc req t).2 := by
  unfold revokePassport
  split
  case h_1 => exact i
  case h_2 req =>
    split
    case isTrue  => exact i
    case isFalse =>
      have hr : Respects requests
        (svc.revokePassport req.passportId req.reason req.revokedBy t).2 :=
        service_revokePassport_respects i <| svc.revokePassport_cases ..
      split
      case h_1 h => rwa [h] at hr
      case h_2 h => rwa [h] at hr

variable [Sha256] {req : IssuePassportRequest} {input : IssueInput} {env : IssueEnv}

theorem issueNew_respects (i : Respects requests svc)
    (w : ∀ {signed policy}, WithinLimits req (input.toPassport env signed policy))
    (h : svc.IssueNew input env r) : Respects (answered requests req r.1) r.2 := by
  cases h
  case unsigned  => exact i
  case unbundled => exact i
  case issued    => exact i.insert_new w

theorem service_issuePassport_respects (i : Respects requests svc)
    (w : input.check env.agentStatus = .ok () →
      ∀ {signed policy}, WithinLimits req (input.toPassport env signed policy))
    (h : svc.IssuePassport input env r) : Respects (answered requests req r.1) r.2 := by
  cases h
  case refused            => exact i
  case first hc _ hn      => exact issueNew_respects i (w hc) hn
  case reissue hc hl _ hn => exact issueNew_respects (supersede_respects i hl) (w hc) hn

theorem issuePassport_respects {env : ServerEnv} (i : Respects requests svc) :
    Respects (record svc (.issuePassport (some req) env) requests)
      (issuePassport svc (some req) env).2 := by
  have h := issuePassport_cases svc req env
  dsimp only [record]
  generalize issuePassport svc (some req) env = r at h ⊢
  cases h
  case refused => exact i
  case failed svc' err hp h =>
    have hc := h ▸ svc.issuePassport_cases ..
    have : Respects (answered requests req (.error err)) svc' :=
      service_issuePassport_respects i (fun hc => toPassport_withinLimits hp hc) hc
    exact this
  case issued hp h =>
    have hc := h ▸ svc.issuePassport_cases ..
    exact service_issuePassport_respects i (fun hc => toPassport_withinLimits hp hc) hc

theorem step_respects (i : Respects requests svc) :
    Respects (record svc call requests) (system.step svc call) := by
  cases call
  all_goals dsimp only [system, handle]
  case issuePassport req env =>
    cases req
    case none => exact i
    case some => exact issuePassport_respects i
  case revokePassport => exact revokePassport_respects i
  all_goals exact i

theorem run_passports_within_limits (r : Run system .any (.new b l) svc) :
    ∀ id p, svc.passports.lookup id = some p →
      ∃ req, (r.fold record ∅).lookup id = some req ∧ WithinLimits req p := by
  have i : Respects (r.fold record ∅) svc := r.invariant_fold (fun i _ _ => step_respects i) .empty
  exact fun _ _ => i.passport

end Step

section Sample

open scoped Sha256.Standard

-- A provisional passport is issued and revoked.
def sampleCalls : List Call :=
  [.issuePassport (some <| sampleRequest " provisional " 60) sampleServerEnv,
    .getPassport (some "p-1"),
    .revokePassport (some ⟨"p-1", "compromised", "authority"⟩) 1700000001000000000]

theorem run_passports_within_limits_revoked :
    ∃ svc, Nonempty (Run system .any (.new true true) svc) ∧
      ∃ p, svc.passports.lookup "p-1" = some p ∧ p.status = .revoked ∧
        ∃ req, WithinLimits req p := by
  have ha : Admissible system .any (.new true true) sampleCalls := by
    simp [sampleCalls, Admissible, system, Guard.any]
  let r := Run.ofSchedule sampleCalls ha
  have hs : (((exec system (.new true true) sampleCalls).passports.lookup "p-1").map
      (·.status)) = some .revoked := by decide +kernel
  have ⟨p, hp, hr⟩ := Option.map_eq_some_iff.mp hs
  have ⟨req, _, w⟩ := run_passports_within_limits r "p-1" p hp
  exact ⟨_, ⟨r⟩, p, hp, hr, req, w⟩

end Sample

end Grpc.Server

end PassportIssuance
