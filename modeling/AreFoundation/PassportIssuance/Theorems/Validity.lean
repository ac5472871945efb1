import AreFoundation.PassportIssuance.Theorems.Binding

namespace PassportIssuance

open Transition Calendar

-- The payload that the stored fields of the passport give.
def Passport.payload [Sha256] (p : Passport) : List UInt8 :=
  canonicalPayload p.agentId p.passportType p.scopeSet p.issuedTs p.expiresTs

namespace Passport.IsRevision

variable {p p' : Passport}

theorem payload_eq [Sha256] : (p.IsRevision p') → p'.payload = p.payload
  | .inl h           => h ▸ rfl
  | .inr ⟨_, _, h⟩ => h ▸ rfl

theorem signed_eq : (p.IsRevision p') →
    p'.publicKeyPem = p.publicKeyPem ∧ p'.signature = p.signature ∧ p'.expiresTs = p.expiresTs
  | .inl h         => h ▸ ⟨rfl, rfl, rfl⟩
  | .inr ⟨_, _, h⟩ => h ▸ ⟨rfl, rfl, rfl⟩

theorem status_eq : (p.IsRevision p') → p'.status = p.status ∨ p'.status = .revoked
  | .inl h         => .inl <| h ▸ rfl
  | .inr ⟨_, _, h⟩ => .inr <| h ▸ rfl

end Passport.IsRevision

namespace Service

section Verify

variable {s : Service} {p : Passport} {id : String} {payload signature : List UInt8}
variable {verify : String → List UInt8 → List UInt8 → Option Bool} {now : Instant}

theorem verifyPassportBy_of_active (h : s.passports.lookup id = some p) (ha : p.status = .active)
    (ht : now ≤ p.expiresTs) (hv : verify p.publicKeyPem payload signature = some true) :
    s.verifyPassportBy verify id payload signature now = ⟨true, .active, "", none⟩ := by
  simp [verifyPassportBy, getPassport, h, ha, not_lt.mpr ht, hv]

-- Whatever else is passed to `VerifyPassport`, it does not accept a passport in such a state.
def Ended (p : Passport) (now : Instant) : Prop :=
  p.status = .revoked ∨ p.status = .expired ∨ p.expiresTs < now

theorem ended_of_verifyPassportBy (h : s.passports.lookup id = some p)
    (hr : (s.verifyPassportBy verify id payload signature now).reason = "revoked" ∨
      (s.verifyPassportBy verify id payload signature now).reason = "expired") : Ended p now := by
  simp only [verifyPassportBy, getPassport, h] at hr
  split at hr
  case isTrue hs  => exact .inl hs
  case isFalse hs =>
    split at hr
    case isTrue he => exact .inr he
    case isFalse   => split at hr <;> simp at hr

theorem verifyPassportBy_of_ended (h : s.passports.lookup id = some p) (he : Ended p now) :
    (s.verifyPassportBy verify id payload signature now).valid = false := by
  simp only [verifyPassportBy, getPassport, h]
  split
  case isTrue  => rfl
  case isFalse hs => rw [if_pos (he.resolve_left hs)]

theorem Ended.mono (he : Ended p t) (ht : t ≤ t') (hr : p.IsRevision p') : Ended p' t' := by
  have ⟨_, _, hx⟩ := hr.signed_eq
  cases hr.status_eq
  case inr hs => exact .inl hs
  case inl hs =>
    unfold Ended at *
    rw [hs, hx]
    exact he.imp_right <| .imp_right (lt_of_lt_of_le · ht)

end Verify

section Run

variable [Sha256] {s s₀ s₁ s₂ s₃ : Service} {input : IssueInput} {env : IssueEnv}

theorem IssuePassport.payload_eq (h : s.IssuePassport input env (.ok p, s')) :
    p.payload = input.payload env.now := by
  cases h
  case first hn   => cases hn; rfl
  case reissue hn => cases hn; rfl

theorem run_validity_oneWay (r₀ : Run engine .any (.new b l) s₀)
    (hf : env.passportId ∉ s₀.passports) (hi : s₀.issuePassport input env = (.ok p, s₁))
    (r₁ : Run engine .any s₁ s₂) (r₂ : Run engine .any s₂ s₃) :
    ∃ p₂ p₃, s₂.passports.lookup p.passportId = some p₂ ∧ s₃.passports.lookup p.passportId = some p₃ ∧
      (p₂.status = .active → ∀ verify now, now ≤ p₂.expiresTs →
        (∀ record ∈ s₂.credentials,
          verify record.publicKey record.payload record.signature = some true) →
        s₂.verifyPassportBy verify p.passportId p₂.payload p₂.signature now =
          ⟨true, .active, "", none⟩) ∧
      (p₂.status = .revoked → p₃.status = .revoked) ∧
      (∀ verify payload signature t,
        (s₂.verifyPassportBy verify p.passportId payload signature t).reason = "revoked" ∨
        (s₂.verifyPassportBy verify p.passportId payload signature t).reason = "expired" →
        ∀ verify' payload' signature' t', t ≤ t' →
          (s₃.verifyPassportBy verify' p.passportId payload' signature' t').valid = false) := by
  have hc := s₀.issuePassport_cases input env
  rw [hi] at hc
  have ⟨hp, hr⟩ := hc.stored
  have i₁ := hc.consistent (run_consistent r₀) hf
  have i₂ := r₁.invariant (fun i ha _ => step_consistent i ha) i₁
  have pr₁ := run_preserves i₁ r₁
  have ⟨p₂, hp₂, rev₁⟩ := pr₁.passports hp
  have ⟨p₃, hp₃, rev₂⟩ := (run_preserves i₂ r₂).passports hp₂
  refine ⟨p₂, p₃, hp₂, hp₃, ?active, ?revoked, ?ended⟩
  case active =>
    intro ha verify now ht hv
    have ⟨hk, hs, _⟩ := rev₁.signed_eq
    apply verifyPassportBy_of_active hp₂ ha ht
    rw [rev₁.payload_eq, hc.payload_eq, hk, hs]
    exact hv _ <| pr₁.credentials hr
  case revoked =>
    intro hs
    cases rev₂.status_eq
    case inl h => exact h.trans hs
    case inr h => exact h
  case ended =>
    intro verify payload signature t h verify' payload' signature' t' ht
    have he := ended_of_verifyPassportBy hp₂ h
    exact verifyPassportBy_of_ended hp₃ <| he.mono ht rev₂

end Run

section Sample

open scoped Sha256.Standard

-- The store accepts what it has signed.
def firstVerify : String → List UInt8 → List UInt8 → Option Bool :=
  firstIssued.verify ⟨sampleTime, false⟩

-- The first passport is revoked, and another agent gets one.
def firstRevoked : Service :=
  exec engine firstIssued [.revokePassport "p-1" "leaked" "security" sampleTime]

def revokedThenIssued : Service :=
  exec engine firstRevoked [sampleIssue "agent-2" "p-2" "pub-2"]

theorem run_validity_oneWay_firstRevoked :
    (∀ now ≤ firstPassport.expiresTs,
      firstIssued.verifyPassportBy firstVerify "p-1" firstPassport.payload firstPassport.signature
        now = ⟨true, .active, "", none⟩) ∧
    (∀ verify payload signature, ∀ t > firstPassport.expiresTs,
      (bothIssued.verifyPassportBy verify "p-1" payload signature t).valid = false) ∧
    (revokedThenIssued.passports.lookup "p-1").map (·.status) = some .revoked ∧
    (∀ verify payload signature, ∀ t ≥ sampleTime,
      (revokedThenIssued.verifyPassportBy verify "p-1" payload signature t).valid = false) := by
  have issued : (Service.new true true).issuePassport (sampleInput "agent-1" false) firstEnv =
      (.ok firstPassport, firstIssued) := rfl
  have allowed : Admissible engine .any firstIssued [sampleIssue "agent-2" "p-2" "pub-2"] := by
    decide +kernel
  have first : firstIssued.passports.lookup "p-1" = some firstPassport := by decide +kernel
  have ⟨_, _, hp₂, _, ha, _, he⟩ := run_validity_oneWay .refl (by decide +kernel) issued .refl
    (.ofSchedule _ allowed)
  cases Option.some.inj <| hp₂.symm.trans first
  -- The passport is revoked in the first of two runs.
  have revokes : Admissible engine .any firstIssued
      [.revokePassport "p-1" "leaked" "security" sampleTime] := by decide +kernel
  have allowed' : Admissible engine .any firstRevoked [sampleIssue "agent-2" "p-2" "pub-2"] := by
    decide +kernel
  have ⟨p₂, p₃, hp₂, hp₃, _, hr, he'⟩ := run_validity_oneWay .refl (by decide +kernel) issued
    (.ofSchedule _ revokes) (.ofSchedule _ allowed')
  have revoked : (firstRevoked.passports.lookup "p-1").map (·.status) = some .revoked := by
    decide +kernel
  refine ⟨fun now ht => ha rfl firstVerify now ht (by simp [firstVerify, verify]), ?_, ?_, ?_⟩
  case refine_1 =>
    intro verify payload signature t ht
    refine he firstVerify [] [] (firstPassport.expiresTs + 1) (.inr ?_) _ _ _ t ht
    decide +kernel
  case refine_2 =>
    have hs : p₂.status = .revoked := by
      rw [show firstRevoked.passports.lookup "p-1" = some p₂ from hp₂] at revoked
      exact Option.some.inj revoked
    rw [show revokedThenIssued.passports.lookup "p-1" = some p₃ from hp₃]
    exact congrArg some (hr hs)
  case refine_3 =>
    intro verify payload signature t ht
    refine he' firstVerify [] [] sampleTime (.inl ?_) _ _ _ t ht
    decide +kernel

end Sample

end Service

end PassportIssuance
