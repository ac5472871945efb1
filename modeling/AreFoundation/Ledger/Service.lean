import Mathlib.Data.List.Sort
import AreFoundation.Library.Interleaving
import AreFoundation.Library.Serde
import AreFoundation.Ledger.Repository

namespace Ledger

structure AppConfig where
  maxContentSizeBytes : Nat
  genesisHashInput    : String

def AppConfig.genesisHash [Sha256] (config : AppConfig) : String :=
  sha256Hex <| asBytes config.genesisHashInput

inductive ServiceError
  | notFound
  | invalidArgument (message : String)
  | unavailable
  | internal (message : String)
  deriving DecidableEq

def mapRepo : RepositoryError → ServiceError
  | .notFound                => .notFound
  | .unavailable             => .unavailable
  | .chainIntegrityViolation => .internal "chain integrity violation"

structure WriteEntryInput where
  entryType      : String
  agentId        : String
  content        : List UInt8
  contentType    : String
  sourceId       : String
  correlationId  : Option String
  idempotencyKey : Option String
  deriving DecidableEq

structure WriteEntryOutput where
  entryId       : Uuid
  entryHash     : String
  chainPosition : Int
  writtenTsMs   : Int
  deriving DecidableEq

def LedgerEntryRecord.toOutput (entry : LedgerEntryRecord) : WriteEntryOutput where
  entryId       := entry.entryId
  entryHash     := entry.entryHash
  chainPosition := entry.chainPosition
  writtenTsMs   := DateTime.timestampMillis entry.writtenTs

namespace WriteEntryInput

def validate (config : AppConfig) (input : WriteEntryInput) : Except ServiceError Unit :=
  if input.entryType = "" ∨ input.agentId = "" ∨ input.contentType = "" ∨ input.sourceId = "" then
    .error <| .invalidArgument "entry_type, agent_id, content_type and source_id are required"
  else if input.content.length > config.maxContentSizeBytes then
    .error <| .invalidArgument <|
      "content exceeds max " ++ toString config.maxContentSizeBytes ++ " bytes"
  else
    .ok ()

-- The fields of an object are written in the order of their names.
def outboxPayload (input : WriteEntryInput) (eventId : Uuid) (entryHash : String) (now : DateTime) :
    String :=
  Serde.object
    [("agent_id", Serde.string input.agentId),
      ("correlation_id", input.correlationId.elim "null" Serde.string),
      ("entry_hash", Serde.string entryHash),
      ("entry_type", Serde.string input.entryType),
      ("event_id", Serde.string eventId.toText),
      ("event_type", Serde.string "LEDGER_ENTRY_WRITTEN"),
      ("schema_version", Serde.string "1.0.0"),
      ("source_id", Serde.string input.sourceId),
      ("written_ts", toString (DateTime.timestampMillis now))]

def toEntryWriteInput [Sha256]
    (input : WriteEntryInput) (eventId : Uuid) (now : DateTime) (previousHash : String) :
    EntryWriteInput :=
  let entryHash := canonicalEntryHash input.entryType input.agentId input.content input.contentType
    input.sourceId (DateTime.timestampMillis now) previousHash
  { entryType      := input.entryType
    agentId        := input.agentId
    content        := input.content
    contentType    := input.contentType
    sourceId       := input.sourceId
    correlationId  := input.correlationId
    idempotencyKey := input.idempotencyKey
    entryHash      := entryHash
    previousHash   := previousHash
    writtenTs      := now
    outboxPayload  := input.outboxPayload eventId entryHash now }

end WriteEntryInput

structure ImmutableLedgerService (ρ : Type) where
  repo        : ρ
  chainHalted : Finset String := ∅

namespace WriteEntry

-- Where a call of `write_entry` stands. The code between two accesses to state shared with other
-- calls has no effect of its own, so each constructor names the next access.
inductive Pc
  | start
  | findIdempotent (key : String)
  | getChainTip (attempt : Nat)
  | writeEntryWithOutbox (attempt : Nat) (previousHash : String)
  | haltChain
  | returned (result : Except ServiceError WriteEntryOutput)
  deriving DecidableEq

-- What the clock and `Uuid::new_v4` return.
structure Env where
  now     : DateTime
  eventId : Uuid
  newIds  : NewIds

section Continuations

variable [Sha256] (config : AppConfig) (input : WriteEntryInput)

-- How a call goes on after each access.
def begin (chainHalted : Finset String) : Pc :=
  match input.validate config with
  | .error err => .returned <| .error err
  | .ok _      =>
    if input.entryType ∈ chainHalted then
      .returned <| .error .unavailable
    else match input.idempotencyKey with
      | some key => .findIdempotent key
      | none     => .getChainTip 0

def idempotent : Except RepositoryError (Option LedgerEntryRecord) → Pc
  | .error err          => .returned <| .error <| mapRepo err
  | .ok (some existing) => .returned <| .ok existing.toOutput
  | .ok none            => .getChainTip 0

def chainTip (attempt : Nat) : Except RepositoryError ChainTip → Pc
  | .ok tip          => .writeEntryWithOutbox attempt tip.hash
  | .error .notFound => .writeEntryWithOutbox attempt config.genesisHash
  | .error err       => .returned <| .error <| mapRepo err

def written (attempt : Nat) : Except RepositoryError WriteResult → Pc
  | .ok result                      => .returned <| .ok result.entry.toOutput
  | .error .chainIntegrityViolation =>
    if attempt < 4 then .getChainTip (attempt + 1) else .haltChain
  | .error err                      => .returned <| .error <| mapRepo err

-- After the last attempt.
def violated : Pc :=
  .returned <| .error <| .internal "chain integrity violation"

end Continuations

variable [Sha256] [LedgerRepository ρ]

def step (config : AppConfig) (input : WriteEntryInput) (env : Env)
    (svc : ImmutableLedgerService ρ) : Pc → ImmutableLedgerService ρ × Pc
  | .start => (svc, begin config input svc.chainHalted)
  | .findIdempotent key =>
    (svc, idempotent <| LedgerRepository.findIdempotent svc.repo input.entryType key)
  | .getChainTip attempt =>
    if attempt < 5 then
      (svc, chainTip config attempt <| LedgerRepository.getChainTip svc.repo input.entryType)
    else
      (svc, violated)
  | .writeEntryWithOutbox attempt previousHash =>
    let write := input.toEntryWriteInput env.eventId env.now previousHash
    let (result, repo) := LedgerRepository.writeEntryWithOutbox svc.repo write env.newIds
    ({ svc with repo }, written attempt result)
  | .haltChain => ({ svc with chainHalted := insert input.entryType svc.chainHalted }, violated)
  | .returned result => (svc, .returned result)

-- Identifiers are generated in `write_entry_with_outbox` only.
def Allows (env : Env) (svc : ImmutableLedgerService ρ) : Pc → Prop
  | .writeEntryWithOutbox .. => env.newIds.Fresh svc.repo
  | _                        => True

instance (env : Env) (svc : ImmutableLedgerService ρ) : (pc : Pc) → Decidable (Allows env svc pc)
  | .writeEntryWithOutbox .. => inferInstanceAs <| Decidable (env.newIds.Fresh svc.repo)
  | .start | .findIdempotent _ | .getChainTip _ | .haltChain | .returned _ => .isTrue trivial

-- Any number of concurrent calls of `write_entry`, indexed by `ι`.
def writers (config : AppConfig) (calls : ι → WriteEntryInput) :
    Interleaving.System ι (ImmutableLedgerService ρ) Pc Env where
  allows _ env svc pc := Allows env svc pc
  step i env svc pc   := step config (calls i) env svc pc

theorem writers_step (config : AppConfig) (calls : ι → WriteEntryInput) (i : ι) (env : Env)
    (svc : ImmutableLedgerService ρ) (pc : Pc) :
    (writers config calls).step i env svc pc = step config (calls i) env svc pc :=
  rfl

instance (config : AppConfig) (calls : ι → WriteEntryInput) (i : ι) (env : Env)
    (svc : ImmutableLedgerService ρ) (pc : Pc) :
    Decidable ((writers config calls).allows i env svc pc) :=
  inferInstanceAs <| Decidable (Allows env svc pc)

abbrev State (ι ρ : Type) := Interleaving.State ι (ImmutableLedgerService ρ) Pc

def State.init (ι : Type) (repo : ρ) : State ι ρ where
  shared := { repo }
  locals := fun _ => .start

-- The number of steps that a call can still take.
def Pc.rank : Pc → Nat
  | .start                          => 13
  | .findIdempotent _               => 12
  | .getChainTip attempt            => 2 * (5 - attempt) + 1
  | .writeEntryWithOutbox attempt _ => 2 * (4 - attempt) + 2
  | .haltChain                      => 1
  | .returned _                     => 0

end WriteEntry

structure VerifyEntryOutput where
  entryId        : Uuid
  hashValid      : Bool
  chainLinkValid : Bool
  failureReason  : String
  deriving DecidableEq

structure VerifyChainOutput where
  chainValid          : Bool
  entriesChecked      : Nat
  firstInvalidEntryId : Option Uuid
  failureReason       : String
  deriving DecidableEq

section Verification

variable [Sha256] (config : AppConfig)

-- What `verify_entry` makes of the chain.
def linked (entry : LedgerEntryRecord) (chain : List LedgerEntryRecord) : Bool :=
  match chain.find? (fun candidate => candidate.chainPosition == entry.chainPosition - 1) with
  | some prev => prev.entryHash == entry.previousHash
  | none      => false

def verified (entryId : Uuid) (entry : LedgerEntryRecord) (chainLinkValid : Bool) :
    VerifyEntryOutput :=
  let hashValid := entry.recomputedHash == entry.entryHash
  let failureReason :=
    if hashValid && chainLinkValid then ""
    else if !hashValid then "entry_hash_mismatch"
    else "chain_link_mismatch"
  { entryId, hashValid, chainLinkValid, failureReason }

def verifyEntry [LedgerRepository ρ] (repo : ρ) (entryId : Uuid) :
    Except ServiceError VerifyEntryOutput := do
  let entry ← LedgerRepository.getEntry repo entryId |>.mapError mapRepo
  let chainLinkValid ←
    if entry.chainPosition = 1 then
      pure (entry.previousHash == config.genesisHash)
    else do
      let chain ← LedgerRepository.getEntriesByType repo entry.entryType |>.mapError mapRepo
      pure (linked entry chain)
  return verified entryId entry chainLinkValid

def sortByPosition (entries : List LedgerEntryRecord) : List LedgerEntryRecord :=
  entries.insertionSort (fun e₁ e₂ => e₁.chainPosition ≤ e₂.chainPosition)

-- The loop of `verify_chain`: `idx` entries have been accepted so far and `prev` is the last of them.
def checkEntries (idx : Nat) (prev : Option LedgerEntryRecord) :
    List LedgerEntryRecord → VerifyChainOutput
  | [] =>
    { chainValid := true, entriesChecked := idx, firstInvalidEntryId := none, failureReason := "" }
  | entry :: rest =>
    let prevHash := match prev with
      | some prev => prev.entryHash
      | none      => if entry.chainPosition = 1 then config.genesisHash else entry.previousHash
    if entry.previousHash ≠ prevHash then
      { chainValid := false, entriesChecked := idx + 1, firstInvalidEntryId := some entry.entryId,
        failureReason := "chain_link_mismatch" }
    else if entry.entryHash ≠ entry.recomputedHash then
      { chainValid := false, entriesChecked := idx + 1, firstInvalidEntryId := some entry.entryId,
        failureReason := "entry_hash_mismatch" }
    else
      checkEntries (idx + 1) (some entry) rest

-- The position of the entry that bounds the verified range, if there is one.
def boundPosition (entries : List LedgerEntryRecord) (default : Int) :
    Option Uuid → Except ServiceError Int
  | none    => .ok default
  | some id =>
    match entries.find? (·.entryId == id) with
    | some entry => .ok entry.chainPosition
    | none       => .error .notFound

-- `found` is the answer of the repository.
def checkChain (found : Except RepositoryError (List LedgerEntryRecord))
    (startEntryId endEntryId : Option Uuid) : Except ServiceError VerifyChainOutput := do
  let entries ← found.mapError mapRepo
  if entries.isEmpty then
    return { chainValid := true, entriesChecked := 0, firstInvalidEntryId := none,
             failureReason := "" }
  let startPosition ← boundPosition entries 1 startEntryId
  let endPosition ← boundPosition entries ((entries.map (·.chainPosition)).max?.getD 0) endEntryId
  let filtered := entries.filter fun entry =>
    startPosition ≤ entry.chainPosition ∧ entry.chainPosition ≤ endPosition
  return checkEntries config 0 none (sortByPosition filtered)

def verifyChain [LedgerRepository ρ] (repo : ρ) (entryType : String)
    (startEntryId endEntryId : Option Uuid) : Except ServiceError VerifyChainOutput :=
  checkChain config (LedgerRepository.getEntriesByType repo entryType) startEntryId endEntryId

end Verification

end Ledger
