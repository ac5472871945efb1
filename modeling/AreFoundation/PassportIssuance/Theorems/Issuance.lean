import AreFoundation.Library.Sha256
import AreFoundation.PassportIssuance.Service

namespace PassportIssuance

open Transition

namespace Service

theorem policyAtIssuance_eq_none {s : Service} {input : IssueInput} {env : IssueEnv} :
    s.policyAtIssuance input env = none ↔
    input.policyIdAtIssuance = "" ∧ input.policyVerAtIssuance = "" ∧ s.policyBundles ∧
      env.activePolicyBundle = none := by
  simp only [policyAtIssuance]
  split <;> simp_all

theorem passports_supersede {s : Service} {id : String} (h : s.passports.lookup id = some p) :
    (s.supersede id t).passports =
      s.passports.insert id (p.revoke "superseded_by_force_reissue" t) := by
  simp only [supersede, enqueue, h, Option.getD_some]

section Step

variable [Sha256] {s : Service} {input : IssueInput} {env : IssueEnv} {id : String}

-- An outcome of `issueNew`: a dependency fails, or the passport is recorded.
inductive IssueNew (s : Service) (input : IssueInput) (env : IssueEnv) :
    Except ServiceError Passport × Service → Prop
  | unsigned (h : env.sign = none) : IssueNew s input env (.error .unavailable, s)
  | unbundled (hs : env.sign = some signed) (hb : s.policyAtIssuance input env = none) :
    IssueNew s input env (.error .unavailable,
      s.recordSignature ⟨signed.publicKey, input.payload env.now, signed.signature⟩)
  | issued (hs : env.sign = some signed) (hb : s.policyAtIssuance input env = some policy) :
    IssueNew s input env (.ok <| input.toPassport env signed policy, s
      |>.recordSignature ⟨signed.publicKey, input.payload env.now, signed.signature⟩
      |>.recordPassport (input.toPassport env signed policy))

theorem issueNew_cases (s : Service) (input : IssueInput) (env : IssueEnv) :
    IssueNew s input env (s.issueNew input env) := by
  simp only [issueNew]
  split
  case _ h    => exact .unsigned h
  case _ _ hs =>
    split
    case _ hb   => exact .unbundled hs hb
    case _ _ hb => exact .issued hs hb

-- An outcome of `issuePassport`: nothing happens, or a passport is issued after the current one, if
-- there is one, has been revoked.
inductive IssuePassport (s : Service) (input : IssueInput) (env : IssueEnv) :
    Except ServiceError Passport × Service → Prop
  | refused : IssuePassport s input env (.error err, s)
  | first (hc : input.check env.agentStatus = .ok ())
    (h : s.activeByAgent.lookup input.agentId = none) (hn : IssueNew s input env r) :
    IssuePassport s input env r
  | reissue (hc : input.check env.agentStatus = .ok ())
    (h : s.activeByAgent.lookup input.agentId = some currentId) (hf : input.forceReissue)
    (hn : IssueNew (s.supersede currentId env.supersededTs) input env r) : IssuePassport s input env r

theorem issuePassport_cases (s : Service) (input : IssueInput) (env : IssueEnv) :
    IssuePassport s input env (s.issuePassport input env) := by
  unfold issuePassport
  split
  case _      => exact .refused
  case _ hc   =>
    split
    case _ h           => exact .first hc h <| issueNew_cases ..
    case _ currentId h =>
      split
      case isTrue hf => exact .reissue hc h hf <| issueNew_cases ..
      case isFalse   => exact .refused

-- The state after a revocation, up to the index of active passports.
def recordRevocation (s : Service) (id : String) (p : Passport) (reason : String)
    (now : Calendar.Instant) (activeByAgent : HashMap String String) : Service :=
  let event : LifecycleEvent := ⟨.passportRevoked, p.agentId, id, reason⟩
  { s with passports := s.passports.insert id (p.revoke reason now), activeByAgent }
    |>.enqueue event |>.writePassportLifecycle event

-- What `revokePassport` can do to the state: nothing, or a passport is revoked, which may have been
-- the current one of its agent.
inductive RevokePassport (s : Service) (id reason : String) (now : Calendar.Instant) :
    Service → Prop
  | unchanged : RevokePassport s id reason now s
  | current (hp : s.passports.lookup id = some p)
    (hl : s.activeByAgent.lookup p.agentId = some id) : RevokePassport s id reason now
      (s.recordRevocation id p reason now <| s.activeByAgent.erase p.agentId)
  | other (hp : s.passports.lookup id = some p)
    (hl : s.activeByAgent.lookup p.agentId ≠ some id) : RevokePassport s id reason now
      (s.recordRevocation id p reason now s.activeByAgent)

omit [Sha256] in
theorem revokePassport_cases (s : Service) (id reason revokedBy : String)
    (now : Calendar.Instant) :
    RevokePassport s id reason now (s.revokePassport id reason revokedBy now).2 := by
  simp only [revokePassport]
  split
  case isTrue  => exact .unchanged
  case isFalse =>
    split
    case _      => exact .unchanged
    case _ p hp =>
      split
      case isTrue  => exact .unchanged
      case isFalse =>
        split
        case isTrue hl  => exact .current hp hl
        case isFalse hl => exact .other hp hl

theorem IssueNew.mem_passports (h : s.IssueNew input env r) (hm : id ∈ s.passports) :
    id ∈ r.2.passports := by
  cases h
  case issued => exact Finmap.mem_insert.mpr <| .inr hm
  all_goals exact hm

theorem IssuePassport.mem_passports (h : s.IssuePassport input env r) (hm : id ∈ s.passports) :
    id ∈ r.2.passports := by
  cases h
  case refused    => exact hm
  case first hn   => exact hn.mem_passports hm
  case reissue hn => exact hn.mem_passports <| Finmap.mem_insert.mpr <| .inr hm

theorem IssuePassport.eq_toPassport (h : s.IssuePassport input env (.ok p, s')) :
    ∃ signed policy, env.sign = some signed ∧ p = input.toPassport env signed policy := by
  cases h
  case first hn =>
    cases hn
    case issued hs _ => exact ⟨_, _, hs, rfl⟩
  case reissue hn =>
    cases hn
    case issued hs _ => exact ⟨_, _, hs, rfl⟩

end Step

section Atomicity

variable [Sha256] {s : Service} {input : IssueInput} {env : IssueEnv}

-- The call gets to the point where the current passport of the agent is revoked.
structure Supersedes (s : Service) (input : IssueInput) (env : IssueEnv) : Prop where
  checked : input.check env.agentStatus = .ok ()
  current : s.activeByAgent.lookup input.agentId ≠ none
  forced  : input.forceReissue

-- One of the two dependencies that are called after that point fails.
def DependencyFails (s : Service) (input : IssueInput) (env : IssueEnv) : Prop :=
  env.sign = none ∨
    (input.policyIdAtIssuance = "" ∧ input.policyVerAtIssuance = "" ∧ s.policyBundles ∧
      env.activePolicyBundle = none)

theorem issueNew_error (h : DependencyFails s input env) :
    (s.issueNew input env).1 = .error .unavailable ∧ (s.issueNew input env).2.outbox = s.outbox := by
  have hn := issueNew_cases s input env
  generalize s.issueNew input env = r at hn
  cases hn
  case unsigned      => exact ⟨rfl, rfl⟩
  case unbundled     => exact ⟨rfl, rfl⟩
  case issued hs hb =>
    cases h
    case inl h => simp [h] at hs
    case inr h => simp [policyAtIssuance_eq_none.mpr h] at hb

theorem IssueNew.issued_of_not_dependencyFails (h : s.IssueNew input env r)
    (hd : ¬DependencyFails s input env) :
    ∃ signed policy, r = (.ok <| input.toPassport env signed policy, s
      |>.recordSignature ⟨signed.publicKey, input.payload env.now, signed.signature⟩
      |>.recordPassport (input.toPassport env signed policy)) := by
  cases h
  case unsigned hs  => exact absurd (.inl hs) hd
  case unbundled hb => exact absurd (.inr <| policyAtIssuance_eq_none.mp hb) hd
  case issued       => exact ⟨_, _, rfl⟩

theorem failed_issuePassport_unchanged_iff :
    (∀ err, (s.issuePassport input env).1 = .error err →
      (s.issuePassport input env).2.passports = s.passports ∧
      (s.issuePassport input env).2.activeByAgent = s.activeByAgent ∧
      (s.issuePassport input env).2.outbox = s.outbox) ↔
    ¬(Supersedes s input env ∧ DependencyFails s input env) := by
  constructor
  case mp =>
    intro h ⟨hs, hd⟩
    have ⟨currentId, hc⟩ := Option.ne_none_iff_exists'.mp hs.current
    have hi : s.issuePassport input env =
        (s.supersede currentId env.supersededTs).issueNew input env := by
      simp [issuePassport, hs.checked, hc, hs.forced]
    have ⟨he, ho⟩ := issueNew_error (s := s.supersede currentId env.supersededTs) hd
    rw [← hi] at he ho
    -- The event for the revocation has been enqueued and is not taken back.
    have := ho.symm.trans (h _ he).right.right
    simp [supersede, enqueue] at this
  case mpr =>
    intro h err he
    have hc := issuePassport_cases s input env
    generalize s.issuePassport input env = r at he hc
    cases hc
    case refused => exact ⟨rfl, rfl, rfl⟩
    case first hn =>
      cases hn
      case unsigned  => exact ⟨rfl, rfl, rfl⟩
      case unbundled => exact ⟨rfl, rfl, rfl⟩
      case issued    => cases he
    case reissue hc hl hf hn =>
      have hs : Supersedes s input env := ⟨hc, by simp [hl], hf⟩
      obtain ⟨_, _, rfl⟩ := hn.issued_of_not_dependencyFails fun hd => h ⟨hs, hd⟩
      cases he

-- The call issues a passport.
structure Issues (s : Service) (input : IssueInput) (env : IssueEnv) : Prop where
  checked      : input.check env.agentStatus = .ok ()
  free         : s.activeByAgent.lookup input.agentId = none ∨ input.forceReissue
  dependencies : ¬DependencyFails s input env

-- The current passport of the agent has not been revoked for a new one at that very instant.
def Revokes (s : Service) (input : IssueInput) (env : IssueEnv) : Prop :=
  ∀ {id p}, s.activeByAgent.lookup input.agentId = some id → s.passports.lookup id = some p →
    p.revoke "superseded_by_force_reissue" env.supersededTs ≠ p

omit [Sha256] in
theorem supersede_passports_eq_iff {id : String} :
    (s.supersede id t).passports = s.passports ↔
      ∃ p, s.passports.lookup id = some p ∧ p.revoke "superseded_by_force_reissue" t = p := by
  have hs : (s.supersede id t).passports = s.passports.insert id
    ((s.passports.lookup id).getD .zero |>.revoke "superseded_by_force_reissue" t) := rfl
  rw [hs, HashMap.insert_eq_self_iff]
  cases hl : s.passports.lookup id
  case none   => simp
  case some p => simp [eq_comm]

theorem issuePassport_of_issues (h : Issues s input env) :
    ∃ signed policy s', s.issuePassport input env = (.ok <| input.toPassport env signed policy, s') ∧
      env.passportId ∈ s'.passports := by
  have issue {s₀ : Service} (hd : ¬DependencyFails s₀ input env) :
      ∃ signed policy s', s₀.issueNew input env = (.ok <| input.toPassport env signed policy, s') ∧
        env.passportId ∈ s'.passports := by
    obtain ⟨signed, policy, he⟩ := (issueNew_cases s₀ input env).issued_of_not_dependencyFails hd
    exact ⟨signed, policy, _, he, Finmap.mem_insert.mpr <| .inl rfl⟩
  unfold issuePassport
  rw [h.checked]
  dsimp only
  split
  case h_1    => exact issue h.dependencies
  case h_2 hl =>
    rw [if_pos (h.free.resolve_left (hl ▸ nofun))]
    exact issue h.dependencies

theorem issueNew_of_dependencyFails (h : DependencyFails s input env) :
    ∃ s', s.issueNew input env = (.error .unavailable, s') ∧ s'.passports = s.passports ∧
      s'.activeByAgent = s.activeByAgent := by
  have hn := issueNew_cases s input env
  have he := (issueNew_error h).left
  generalize s.issueNew input env = r at he hn
  cases hn
  case unsigned  => exact ⟨_, rfl, rfl, rfl⟩
  case unbundled => exact ⟨_, rfl, rfl, rfl⟩
  case issued    => cases he

theorem issuePassport_of_not_issues (h : ¬Issues s input env) :
    ∃ err s', s.issuePassport input env = (.error err, s') ∧ s'.activeByAgent = s.activeByAgent ∧
      (s'.passports = s.passports ↔
        ¬(Supersedes s input env ∧ DependencyFails s input env ∧ Revokes s input env)) := by
  unfold issuePassport
  split
  case h_1 hc =>
    exact ⟨_, s, rfl, rfl, iff_of_true rfl fun ⟨hs, _⟩ => nomatch hc.symm.trans hs.checked⟩
  case h_2 hc =>
    split
    case h_1 hl =>
      have hd : DependencyFails s input env := not_not.mp fun hd => h ⟨hc, .inl hl, hd⟩
      obtain ⟨s', he, hp, ha⟩ := issueNew_of_dependencyFails hd
      exact ⟨_, s', he, ha, iff_of_true hp fun ⟨hs, _⟩ => hs.current hl⟩
    case h_2 id hl =>
      split
      case isFalse hf => exact ⟨_, s, rfl, rfl, iff_of_true rfl fun ⟨hs, _⟩ => hf hs.forced⟩
      case isTrue hf  =>
        have hd : DependencyFails s input env := not_not.mp fun hd => h ⟨hc, .inr hf, hd⟩
        have hs : Supersedes s input env := ⟨hc, hl ▸ nofun, hf⟩
        obtain ⟨s', he, hp, ha⟩ :=
          issueNew_of_dependencyFails (s := s.supersede id env.supersededTs) hd
        refine ⟨_, s', he, ha, ?_⟩
        rw [hp, supersede_passports_eq_iff]
        constructor
        case mp  => exact fun ⟨p, hp, he⟩ ⟨_, _, hr⟩ => hr hl hp he
        case mpr =>
          intro hn
          by_contra hr
          refine hn ⟨hs, hd, fun hl' hp he => hr ⟨_, ?_, he⟩⟩
          exact Option.some.inj (hl.symm.trans hl') ▸ hp

theorem issues_of_ok (h : s.issuePassport input env = (.ok p, s')) : Issues s input env := by
  by_contra hn
  obtain ⟨_, _, he, _⟩ := issuePassport_of_not_issues hn
  cases he.symm.trans h

end Atomicity

section Sample

open scoped Sha256.Standard

def sampleScope : Scope where
  scopeId         := "scope-1"
  actionClass     := "READ"
  resourcePattern := "data/**"
  grantedTs       := 1700000000000000000
  expiresTs       := 1800000000000000000

def sampleInput (agentId : String) (forceReissue : Bool) : IssueInput where
  agentId      := agentId
  passportType := .standard
  scopes       := [sampleScope]
  ttlSeconds   := 3600
  issuedBy     := "authority"
  forceReissue := forceReissue
  reason       := "initial"

-- Signatures are formed as in the stub of the credential store, which prefixes the payload.
def sampleEnv (passportId publicKey : String) (now : Int) (payload : List UInt8) : IssueEnv where
  agentStatus        := some .active
  supersededTs       := now
  passportId         := passportId
  now                := now
  sign               := some ⟨"cred-local", publicKey, asBytes "sig:" ++ payload⟩
  activePolicyBundle := some ("local-bundle", "1.0.0")

def sampleIssue (agentId passportId publicKey : String) : Op :=
  let input := sampleInput agentId false
  .issuePassport input <|
    sampleEnv passportId publicKey 1700000000000000000 (input.payload 1700000000000000000)

def failingEnv : IssueEnv :=
  { sampleEnv "p-2" "pub-local" 1700000001000000000 [] with sign := none }

-- The credential store is down when the passport of an agent is to be replaced.
theorem failed_reissue_revokes :
    ∃ s : Service, Nonempty (Run engine .any (.new true true) s) ∧
      (s.issuePassport (sampleInput "agent-1" true) failingEnv).1 = .error .unavailable ∧
      (s.passports.lookup "p-1").map (·.status) = some .active ∧
      ((s.issuePassport (sampleInput "agent-1" true) failingEnv).2.passports.lookup "p-1").map
        (·.status) = some .revoked ∧
      (s.issuePassport (sampleInput "agent-1" true) failingEnv).2.outbox =
        s.outbox ++ [⟨.passportRevoked, "agent-1", "p-1", "superseded_by_force_reissue"⟩] := by
  refine ⟨exec _ _ [sampleIssue "agent-1" "p-1" "pub-local"], ⟨.ofSchedule _ ?_⟩, ?_⟩
  all_goals decide +kernel

end Sample

end Service

-- The map of passports and the index of active passports describe each other.
structure Indexed (passports : HashMap String Passport) (activeByAgent : HashMap String String) :
    Prop where
  keyed   : ∀ {id p}, passports.lookup id = some p → p.passportId = id
  active  : ∀ {id p}, passports.lookup id = some p → p.status = .active →
              activeByAgent.lookup p.agentId = some id
  indexed : ∀ {a id}, activeByAgent.lookup a = some id →
              ∃ p, passports.lookup id = some p ∧ p.agentId = a

def NoActive (passports : HashMap String Passport) (agentId : String) : Prop :=
  ∀ {id p}, passports.lookup id = some p → p.agentId = agentId → p.status ≠ .active

namespace Indexed

variable {passports : HashMap String Passport} {activeByAgent : HashMap String String}
variable {p p' : Passport} {a id : String}

theorem empty : Indexed ∅ ∅ where
  keyed h   := by simp at h
  active h  := by simp at h
  indexed h := by simp at h

theorem noActive (i : Indexed passports activeByAgent) (h : activeByAgent.lookup a = none) :
    NoActive passports a := by
  intro id p hp ha hs
  have := i.active hp hs
  rw [ha, h] at this
  cases this

theorem agentId_eq (i : Indexed passports activeByAgent) (h : passports.lookup id = some p)
    (h' : activeByAgent.lookup a = some id) : p.agentId = a := by
  have ⟨p', hp', ha'⟩ := i.indexed h'
  exact Option.some.inj (h.symm.trans hp') ▸ ha'

theorem insert_revoke (i : Indexed passports activeByAgent) (h : passports.lookup id = some p) :
    Indexed (passports.insert id <| p.revoke reason t) activeByAgent where
  keyed {id₁ p₁} h₁ := by
    rw [HashMap.lookup_insert] at h₁
    split at h₁
    case isTrue he  => exact Option.some.inj h₁ ▸ (i.keyed h).trans he.symm
    case isFalse he => exact i.keyed h₁
  active {id₁ p₁} h₁ hs₁ := by
    rw [HashMap.lookup_insert] at h₁
    split at h₁
    case isTrue he  => simp [← Option.some.inj h₁, Passport.revoke] at hs₁
    case isFalse he => exact i.active h₁ hs₁
  indexed {a₁ id₁} h₁ := by
    have ⟨p₁, hp₁, ha₁⟩ := i.indexed h₁
    by_cases he : id₁ = id
    case pos =>
      subst he
      have : p = p₁ := Option.some.inj <| h.symm.trans hp₁
      exact ⟨p.revoke reason t, by simp, this ▸ ha₁⟩
    case neg => exact ⟨p₁, by simp [he, hp₁], ha₁⟩

-- The agent's only active passport is gone.
theorem noActive_insert_revoke
    (i : Indexed passports activeByAgent) (h : activeByAgent.lookup a = some id) :
    NoActive (passports.insert id <| p.revoke reason t) a := by
  intro id₁ p₁ h₁ ha₁ hs₁
  rw [HashMap.lookup_insert] at h₁
  split at h₁
  case isTrue he  => simp [← Option.some.inj h₁, Passport.revoke] at hs₁
  case isFalse he =>
    have := i.active h₁ hs₁
    rw [ha₁, h] at this
    exact he (Option.some.inj this).symm

theorem erase (i : Indexed passports activeByAgent) (hn : NoActive passports a) :
    Indexed passports (activeByAgent.erase a) where
  keyed := i.keyed
  active {id p} h hs := by
    have ha : p.agentId ≠ a := (hn h · hs)
    rw [HashMap.lookup_erase, if_neg ha]
    exact i.active h hs
  indexed {a₁ id} h := by
    rw [HashMap.lookup_erase] at h
    split at h
    case isTrue  => simp at h
    case isFalse => exact i.indexed h

theorem insert_new (i : Indexed passports activeByAgent) (hn : NoActive passports p.agentId)
    (hf : p.passportId ∉ passports) :
    Indexed (passports.insert p.passportId p) (activeByAgent.insert p.agentId p.passportId) where
  keyed {id₁ p₁} h := by
    rw [HashMap.lookup_insert] at h
    split at h
    case isTrue he => exact Option.some.inj h ▸ he.symm
    case isFalse   => exact i.keyed h
  active {id₁ p₁} h hs := by
    rw [HashMap.lookup_insert] at h
    split at h
    case isTrue he =>
      cases Option.some.inj h
      rw [HashMap.lookup_insert, if_pos rfl, he]
    case isFalse =>
      have ha : p₁.agentId ≠ p.agentId := (hn h · hs)
      rw [HashMap.lookup_insert, if_neg ha]
      exact i.active h hs
  indexed {a₁ id₁} h := by
    rw [HashMap.lookup_insert] at h
    split at h
    case isTrue he =>
      cases Option.some.inj h
      exact ⟨p, by simp, he.symm⟩
    case isFalse =>
      have ⟨p₁, hp₁, ha₁⟩ := i.indexed h
      have hne := HashMap.ne_of_lookup_of_not_mem hp₁ hf
      exact ⟨p₁, by simp [hne, hp₁], ha₁⟩

theorem active_unique (i : Indexed passports activeByAgent) (h : passports.lookup id = some p)
    (h' : passports.lookup id' = some p') (hs : p.status = .active) (hs' : p'.status = .active)
    (ha : p.agentId = p'.agentId) : id = id' := by
  have := i.active h hs
  rw [ha, i.active h' hs'] at this
  exact (Option.some.inj this).symm

end Indexed

namespace Service

def Consistent (s : Service) : Prop :=
  Indexed s.passports s.activeByAgent

theorem RevokePassport.consistent {s : Service} {id : String} (i : s.Consistent)
    (h : s.RevokePassport id reason t s') : s'.Consistent := by
  cases h
  case unchanged     => exact i
  case current hp hl => exact (i.insert_revoke hp).erase <| i.noActive_insert_revoke hl
  case other hp _    => exact i.insert_revoke hp

theorem supersede_consistent {s : Service} (i : s.Consistent)
    (h : s.activeByAgent.lookup a = some currentId) :
    (s.supersede currentId t).Consistent ∧ NoActive (s.supersede currentId t).passports a := by
  have ⟨p, hp, _⟩ := i.indexed h
  rw [Consistent, passports_supersede hp]
  exact ⟨i.insert_revoke hp, i.noActive_insert_revoke h⟩

theorem supersede_fresh {s : Service} {id : String} (i : s.Consistent)
    (h : s.activeByAgent.lookup a = some currentId) (hf : id ∉ s.passports) :
    id ∉ (s.supersede currentId t).passports := by
  intro hm
  have ⟨p, hp, _⟩ := i.indexed h
  cases Finmap.mem_insert.mp hm
  case inl he => exact hf <| he ▸ Finmap.mem_iff.mpr ⟨p, hp⟩
  case inr h  => exact hf h

variable [Sha256] {s : Service} {input : IssueInput} {env : IssueEnv} {op : Op}

theorem IssueNew.consistent (i : s.Consistent) (hn : NoActive s.passports input.agentId)
    (hf : env.passportId ∉ s.passports) (h : s.IssueNew input env r) : r.2.Consistent := by
  cases h
  case unsigned  => exact i
  case unbundled => exact i
  case issued    => exact i.insert_new hn hf

theorem IssuePassport.consistent (i : s.Consistent) (hf : env.passportId ∉ s.passports)
    (h : s.IssuePassport input env r) : r.2.Consistent := by
  cases h
  case refused     => exact i
  case first hl hn => exact hn.consistent i (i.noActive hl) hf
  case reissue hl _ hn =>
    have ⟨i', hn'⟩ := supersede_consistent (t := env.supersededTs) i hl
    exact hn.consistent i' hn' <| supersede_fresh i hl hf

theorem step_consistent (i : s.Consistent) (ha : engine.allows s op) :
    (engine.step s op).Consistent := by
  cases op
  case issuePassport input env => exact (s.issuePassport_cases input env).consistent i ha
  case revokePassport          => exact (s.revokePassport_cases ..).consistent i

theorem run_consistent (r : Run engine g (.new b l) s) : s.Consistent :=
  r.invariant (fun i ha _ => step_consistent i ha) Indexed.empty

theorem run_one_active_passport (r : Run engine .any (.new b l) s) :
    (∀ id p, s.passports.lookup id = some p → p.status = .active →
      s.activeByAgent.lookup p.agentId = some id) ∧
    (∀ id id' p p', s.passports.lookup id = some p → s.passports.lookup id' = some p' →
      p.status = .active → p'.status = .active → p.agentId = p'.agentId → id = id') ∧
    (∀ a id, s.activeByAgent.lookup a = some id →
      ∃ p, s.passports.lookup id = some p ∧ p.agentId = a) := by
  have i := run_consistent r
  exact ⟨fun _ _ => i.active, fun _ _ _ _ => i.active_unique, fun _ _ => i.indexed⟩

end Service

end PassportIssuance
