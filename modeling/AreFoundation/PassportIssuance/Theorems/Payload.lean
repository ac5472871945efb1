import AreFoundation.PassportIssuance.Theorems.Issuance

namespace PassportIssuance

open Calendar

namespace Scope

-- The fields of a scope that decide what is granted by it.
structure SameGrant (s s' : Scope) : Prop where
  scopeId            : s.scopeId = s'.scopeId
  actionClass        : s.actionClass = s'.actionClass
  resourcePattern    : s.resourcePattern = s'.resourcePattern
  contextConstraints : s.contextConstraints = s'.contextConstraints
  expiresTs          : s.expiresTs = s'.expiresTs

-- The same scope with a later expiry.
def extend (s : Scope) : Scope :=
  { s with expiresTs := s.expiresTs + 1 }

theorem not_sameGrant_extend (s : Scope) : ¬s.SameGrant s.extend := by
  intro h
  have := h.expiresTs
  simp [extend] at this

-- A scope that contributes nothing to the payload.
def blank : Scope where
  scopeId         := ""
  actionClass     := ""
  resourcePattern := ""
  grantedTs       := zeroTime
  expiresTs       := zeroTime

end Scope

-- What `IssuePassport` passes to `canonicalPayload`.
structure Issuance where
  agentId      : String
  passportType : PassportType
  scopes       : List Scope
  issued       : Instant
  expires      : Instant
  deriving DecidableEq

namespace Issuance

def payload [Sha256] (i : Issuance) : List UInt8 :=
  canonicalPayload i.agentId i.passportType i.scopes i.issued i.expires

structure SameAuthority (i i' : Issuance) : Prop where
  agentId      : i.agentId = i'.agentId
  passportType : i.passportType = i'.passportType
  issued       : i.issued = i'.issued
  expires      : i.expires = i'.expires
  scopes       : List.Forall₂ Scope.SameGrant i.scopes i'.scopes

section Payload

variable [Sha256] {i : Issuance}

-- Scopes enter the payload through what is written for them, whatever their number.
theorem payload_congr {scopes : List Scope}
    (h : (scopes.flatMap fun s =>
        asBytes s.scopeId ++ asBytes s.actionClass ++ asBytes s.resourcePattern) =
      i.scopes.flatMap fun s =>
        asBytes s.scopeId ++ asBytes s.actionClass ++ asBytes s.resourcePattern) :
    { i with scopes }.payload = i.payload := by
  simp only [payload, canonicalPayload, h]

theorem payload_not_determines_authority (i : Issuance) :
    ∃ i' : Issuance, i'.payload = i.payload ∧ ¬i.SameAuthority i' := by
  cases hs : i.scopes
  case nil =>
    refine ⟨{ i with scopes := [.blank] }, payload_congr (by simp [hs, Scope.blank]; rfl), ?_⟩
    intro h
    have := h.scopes
    simp [hs] at this
  case cons s tl =>
    refine ⟨{ i with scopes := s.extend :: tl }, payload_congr (by simp [hs, Scope.extend]), ?_⟩
    intro h
    have := h.scopes
    rw [hs] at this
    cases this
    case cons h _ => exact s.not_sameGrant_extend h

end Payload

section Sample

open scoped Sha256.Standard

def sampleIssuance (contextConstraints : HashMap String String) (expiresTs : Instant) : Issuance where
  agentId      := "agent-1"
  passportType := .standard
  scopes       := [{ Service.sampleScope with contextConstraints, expiresTs }]
  issued       := 1700000000000000000
  expires      := 1700003600000000000

-- A scope that is limited to one environment and one hour, and the same scope without the limits.
def limitedIssuance : Issuance :=
  sampleIssuance (Finmap.singleton "env" "test") 1700003600000000000

def unlimitedIssuance : Issuance :=
  sampleIssuance ∅ 1900000000000000000

theorem limited_payload_eq_unlimited :
    limitedIssuance.payload = unlimitedIssuance.payload ∧
    ¬limitedIssuance.SameAuthority unlimitedIssuance := by
  refine ⟨rfl, ?_⟩
  intro h
  cases h.scopes
  case cons h _ => exact absurd h.expiresTs (by decide)

end Sample

end Issuance

end PassportIssuance
