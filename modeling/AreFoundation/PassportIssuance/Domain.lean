import AreFoundation.Library.Calendar
import AreFoundation.Library.Encoding
import AreFoundation.Library.HashMap

namespace PassportIssuance

open Calendar

-- `unset` is the status of the zero value of a passport.
inductive PassportStatus
  | active
  | expired
  | revoked
  | superseded
  | unset
  deriving DecidableEq

def PassportStatus.toRaw : PassportStatus → String
  | active     => "ACTIVE"
  | expired    => "EXPIRED"
  | revoked    => "REVOKED"
  | superseded => "SUPERSEDED"
  | unset      => ""

-- The source uses strings here, so requests can contain types other than the two known ones.
inductive PassportType
  | provisional
  | standard
  | other (raw : String) (unknown : raw ≠ "PROVISIONAL" ∧ raw ≠ "STANDARD")
  deriving DecidableEq

def PassportType.toRaw : PassportType → String
  | provisional => "PROVISIONAL"
  | standard    => "STANDARD"
  | other raw _ => raw

structure Scope where
  scopeId            : String
  actionClass        : String
  resourcePattern    : String
  contextConstraints : HashMap String String := ∅
  isEscalation       : Bool := false
  grantedTs          : Instant
  expiresTs          : Instant
  deriving DecidableEq

structure Passport where
  passportId          : String
  agentId             : String
  passportType        : PassportType
  scopeSet            : List Scope
  status              : PassportStatus
  issuedBy            : String
  credentialId        : String
  publicKeyPem        : String
  signature           : List UInt8
  reason              : String
  issuedTs            : Instant
  expiresTs           : Instant
  revokedTs           : Option Instant := none
  revocationReason    : String := ""
  supersededBy        : String := ""
  policyIdAtIssuance  : String
  policyVerAtIssuance : String
  deriving DecidableEq

-- January 1 of the year 1, the zero value of `time.Time`.
def zeroTime : Instant :=
  -62135596800000000000

-- What a lookup in the map of passports returns for an identifier that is not in it.
def Passport.zero : Passport where
  passportId          := ""
  agentId             := ""
  passportType        := .other "" (by decide)
  scopeSet            := []
  status              := .unset
  issuedBy            := ""
  credentialId        := ""
  publicKeyPem        := ""
  signature           := []
  reason              := ""
  issuedTs            := zeroTime
  expiresTs           := zeroTime
  policyIdAtIssuance  := ""
  policyVerAtIssuance := ""

def Passport.revoke (p : Passport) (reason : String) (now : Instant) : Passport :=
  { p with status := .revoked, revokedTs := some now, revocationReason := reason }

def canonicalPayload [Sha256] (agentId : String) (pType : PassportType) (scopes : List Scope)
    (issued expires : Instant) : List UInt8 :=
  asBytes <| sha256Hex <|
    asBytes agentId ++ asBytes pType.toRaw ++
    (scopes.flatMap fun s =>
      asBytes s.scopeId ++ asBytes s.actionClass ++ asBytes s.resourcePattern) ++
    asBytes issued.formatRfc3339Nano ++ asBytes expires.formatRfc3339Nano

end PassportIssuance
