import AreFoundation.PassportIssuance.Theorems.Issuance

namespace PassportIssuance

open Transition

namespace Passport

-- Nothing but a revocation happens to a passport once it is issued.
def IsRevision (p p' : Passport) : Prop :=
  p' = p ∨ ∃ reason t, p' = p.revoke reason t

namespace IsRevision

variable {p p₁ p₂ : Passport}

theorem trans (h₁ : p.IsRevision p₁) (h₂ : p₁.IsRevision p₂) : p.IsRevision p₂ := by
  cases h₂
  case inl h₂ => exact h₂ ▸ h₁
  case inr h₂ =>
    have ⟨reason, t, h₂⟩ := h₂
    refine .inr ⟨reason, t, ?_⟩
    cases h₁
    case inl h₁ => exact h₁ ▸ h₂
    case inr h₁ =>
      have ⟨_, _, h₁⟩ := h₁
      rw [h₂, h₁]
      rfl

end IsRevision

end Passport

namespace Service

-- What later calls keep of what earlier ones have stored.
structure Preserves (s s' : Service) : Prop where
  passports   : ∀ {id p}, s.passports.lookup id = some p →
                  ∃ p', s'.passports.lookup id = some p' ∧ p.IsRevision p'
  credentials : ∀ {record}, record ∈ s.credentials → record ∈ s'.credentials

namespace Preserves

variable {s s₁ s₂ : Service} {p : Passport} {id : String}

theorem refl : Preserves s s where
  passports h   := ⟨_, h, .inl rfl⟩
  credentials h := h

theorem trans (h₁ : Preserves s s₁) (h₂ : Preserves s₁ s₂) : Preserves s s₂ where
  passports h :=
    have ⟨_, hp₁, hr₁⟩ := h₁.passports h
    have ⟨p₂, hp₂, hr₂⟩ := h₂.passports hp₁
    ⟨p₂, hp₂, hr₁.trans hr₂⟩
  credentials h := h₂.credentials <| h₁.credentials h

theorem insert_revoke (hp : s.passports.lookup id = some p)
    (h : s'.passports = s.passports.insert id (p.revoke reason t))
    (hc : s'.credentials = s.credentials) : Preserves s s' where
  passports {id₁ p₁} h₁ := by
    by_cases he : id₁ = id
    case pos =>
      subst he
      cases Option.some.inj <| hp.symm.trans h₁
      exact ⟨p.revoke reason t, by simp [h], .inr ⟨_, _, rfl⟩⟩
    case neg => exact ⟨p₁, by simp [h, he, h₁], .inl rfl⟩
  credentials hm := hc ▸ hm

theorem insert_new (hf : id ∉ s.passports) (h : s'.passports = s.passports.insert id p)
    (hc : s'.credentials = s.credentials ++ [record]) : Preserves s s' where
  passports {id₁ p₁} h₁ :=
    have hne := HashMap.ne_of_lookup_of_not_mem h₁ hf
    ⟨p₁, by simp [h, hne, h₁], .inl rfl⟩
  credentials hm := hc ▸ List.mem_append_left _ hm

end Preserves

section Step

variable {s : Service} {id : String}

theorem RevokePassport.preserves (h : s.RevokePassport id reason t s') : Preserves s s' := by
  cases h
  case unchanged    => exact .refl
  case current hp _ => exact .insert_revoke hp rfl rfl
  case other hp _   => exact .insert_revoke hp rfl rfl

theorem supersede_preserves (i : s.Consistent) (h : s.activeByAgent.lookup a = some currentId) :
    Preserves s (s.supersede currentId t) := by
  have ⟨p, hp, _⟩ := i.indexed h
  exact .insert_revoke hp (passports_supersede hp) rfl

variable [Sha256] {input : IssueInput} {env : IssueEnv} {op : Op}

theorem IssueNew.preserves (hf : env.passportId ∉ s.passports) (h : s.IssueNew input env r) :
    Preserves s r.2 := by
  cases h
  case unsigned  => exact .refl
  case unbundled => exact ⟨fun h => ⟨_, h, .inl rfl⟩, List.mem_append_left _⟩
  case issued    => exact .insert_new hf rfl rfl

theorem IssuePassport.preserves (i : s.Consistent) (hf : env.passportId ∉ s.passports)
    (h : s.IssuePassport input env r) : Preserves s r.2 := by
  cases h
  case refused              => exact .refl
  case first hn             => exact hn.preserves hf
  case reissue hl _ hn =>
    exact (supersede_preserves i hl).trans <| hn.preserves <| supersede_fresh i hl hf

theorem step_preserves (i : s.Consistent) (ha : engine.allows s op) :
    Preserves s (engine.step s op) := by
  cases op
  case issuePassport input env => exact (s.issuePassport_cases input env).preserves i ha
  case revokePassport          => exact (s.revokePassport_cases ..).preserves

theorem run_preserves (i : s.Consistent) (r : Run engine g s s') : Preserves s s' := by
  have step : ∀ {s₁ op}, s₁.Consistent ∧ Preserves s s₁ → engine.allows s₁ op → g s₁ op →
      (engine.step s₁ op).Consistent ∧ Preserves s (engine.step s₁ op) := by
    intro _ _ ⟨i, h⟩ ha _
    exact ⟨step_consistent i ha, h.trans <| step_preserves i ha⟩
  exact (r.invariant step ⟨i, .refl⟩).right

theorem IssuePassport.stored (h : s.IssuePassport input env (.ok p, s')) :
    s'.passports.lookup p.passportId = some p ∧
    ⟨p.publicKeyPem, input.payload env.now, p.signature⟩ ∈ s'.credentials := by
  cases h
  case first hn   => cases hn; exact ⟨Finmap.lookup_insert _, List.mem_append_right _ (.head _)⟩
  case reissue hn => cases hn; exact ⟨Finmap.lookup_insert _, List.mem_append_right _ (.head _)⟩

end Step

section Verify

variable {s : Service} {id : String} {payload signature : List UInt8} {env : VerifyEnv}

-- The passport is neither revoked nor expired.
def Live (s : Service) (id : String) (now : Calendar.Instant) : Prop :=
  ∃ p, s.passports.lookup id = some p ∧ p.status ≠ .revoked ∧ p.status ≠ .expired ∧
    now ≤ p.expiresTs

theorem verifyPassport_valid (h : s.passports.lookup id = some p) :
    (s.verifyPassport id payload signature env).valid ↔
      Live s id env.now ∧ env.verifyFailed = false ∧
        ⟨p.publicKeyPem, payload, signature⟩ ∈ s.credentials := by
  simp only [verifyPassport, verifyPassportBy, getPassport, Live, h]
  split
  case isTrue hs  => simp [hs]
  case isFalse hs =>
    split
    case isTrue he  => simp; grind
    case isFalse he =>
      by_cases hv : env.verifyFailed
      case pos => simp [verify, hv]
      case neg =>
        by_cases hm : ⟨p.publicKeyPem, payload, signature⟩ ∈ s.credentials
        case pos => simp [verify, hv, hm]; grind
        case neg => simp [verify, hv, hm]

theorem verifyPassport_of_not_issued (h : id ∉ s.passports) :
    s.verifyPassport id payload signature env = ⟨false, .unset, "", some .notFound⟩ := by
  simp only [verifyPassport, verifyPassportBy, getPassport, Finmap.lookup_eq_none.mpr h]

end Verify

section Run

variable [Sha256] {s s₀ s₁ : Service} {input : IssueInput} {env : IssueEnv}

theorem verifyPassport_bound_iff (r₀ : Run engine .any (.new b l) s₀)
    (hf : env.passportId ∉ s₀.passports) (hi : s₀.issuePassport input env = (.ok p, s₁))
    (r : Run engine .any s₁ s) (verifyEnv : VerifyEnv) :
    ∃ stored, s.passports.lookup p.passportId = some stored ∧
      ((∀ payload signature, (s.verifyPassport p.passportId payload signature verifyEnv).valid →
        payload = input.payload env.now ∧ signature = stored.signature) ↔
      (Live s p.passportId verifyEnv.now → verifyEnv.verifyFailed = false →
        ∀ record ∈ s.credentials, record.publicKey = stored.publicKeyPem →
          record.payload = input.payload env.now ∧ record.signature = stored.signature)) := by
  have hc := s₀.issuePassport_cases input env
  rw [hi] at hc
  have i₁ := hc.consistent (run_consistent r₀) hf
  have ⟨stored, hs, _⟩ := (run_preserves i₁ r).passports hc.stored.left
  refine ⟨stored, hs, ?_⟩
  simp only [verifyPassport_valid hs]
  constructor
  case mp =>
    intro h hl hv record hr hk
    exact h _ _ ⟨hl, hv, hk ▸ hr⟩
  case mpr =>
    intro h payload signature ⟨hl, hv, hr⟩
    exact h hl hv _ hr rfl

end Run

section Sample

open scoped Sha256.Standard

def sampleTime : Calendar.Instant :=
  1700000000000000000

def firstEnv : IssueEnv :=
  sampleEnv "p-1" "pub-1" sampleTime ((sampleInput "agent-1" false).payload sampleTime)

def firstPassport : Passport :=
  (sampleInput "agent-1" false).toPassport firstEnv
    ⟨"cred-local", "pub-1", asBytes "sig:" ++ (sampleInput "agent-1" false).payload sampleTime⟩
    ("local-bundle", "1.0.0")

def firstIssued : Service :=
  ((Service.new true true).issuePassport (sampleInput "agent-1" false) firstEnv).2

-- Two passports with keys of their own.
def bothIssued : Service :=
  exec engine firstIssued [sampleIssue "agent-2" "p-2" "pub-2"]

theorem verifyPassport_bound_bothIssued :
    (Live bothIssued "p-1" sampleTime) ∧ (bothIssued.credentials.length = 2) ∧
    (∀ payload signature,
      (bothIssued.verifyPassport "p-1" payload signature ⟨sampleTime, false⟩).valid →
      payload = (sampleInput "agent-1" false).payload sampleTime ∧
      signature = firstPassport.signature) := by
  have issued : (Service.new true true).issuePassport (sampleInput "agent-1" false) firstEnv =
      (.ok firstPassport, firstIssued) := rfl
  have allowed : Admissible engine .any firstIssued [sampleIssue "agent-2" "p-2" "pub-2"] := by
    decide +kernel
  have first : bothIssued.passports.lookup "p-1" = some firstPassport := by decide +kernel
  have signed : ∀ record ∈ bothIssued.credentials, record.publicKey = firstPassport.publicKeyPem →
      record.payload = (sampleInput "agent-1" false).payload sampleTime ∧
      record.signature = firstPassport.signature := by decide +kernel
  have ⟨stored, hs, h⟩ := verifyPassport_bound_iff .refl (by decide +kernel) issued
    (.ofSchedule _ allowed) ⟨sampleTime, false⟩
  have he : stored = firstPassport := Option.some.inj <| hs.symm.trans first
  subst he
  refine ⟨⟨firstPassport, first, by decide +kernel⟩, by decide +kernel, ?_⟩
  exact h.mpr fun _ _ => signed

-- The key of the credential store is used for two passports. Each of them is verified with what was
-- signed for the other one.
theorem verifyPassport_accepts_other_payload :
    ∃ s : Service, Nonempty (Run engine .any (.new true true) s) ∧
      (sampleInput "agent-2" false).payload sampleTime ≠
        (sampleInput "agent-1" false).payload sampleTime ∧
      s.verifyPassport "p-1" ((sampleInput "agent-2" false).payload sampleTime)
        (asBytes "sig:" ++ (sampleInput "agent-2" false).payload sampleTime) ⟨sampleTime, false⟩ =
          ⟨true, .active, "", none⟩ := by
  refine ⟨exec _ _ [sampleIssue "agent-1" "p-1" "pub-local", sampleIssue "agent-2" "p-2" "pub-local"],
    ⟨.ofSchedule _ ?_⟩, ?_⟩ <;> decide +kernel

end Sample

end Service

end PassportIssuance
