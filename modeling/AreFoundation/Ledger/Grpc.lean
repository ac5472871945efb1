import AreFoundation.Library.Rpc
import AreFoundation.Ledger.Cluster
import AreFoundation.Ledger.Query

namespace Ledger

-- `Uuid::from_str`. Characters outside of ASCII are refused in every position, so that characters can
-- stand for bytes.
namespace Uuid

def hexValue? (c : Char) : Option Nat :=
  if '0' ≤ c ∧ c ≤ '9' then some (c.toNat - 48)
  else if 'a' ≤ c ∧ c ≤ 'f' then some (c.toNat - 87)
  else if 'A' ≤ c ∧ c ≤ 'F' then some (c.toNat - 55)
  else none

def parseHex (n : Nat) : List Char → Option Nat
  | []      => some n
  | c :: cs => (hexValue? c).bind fun d => parseHex (16 * n + d) cs

def parseSimple (cs : List Char) : Option Uuid :=
  (parseHex 0 cs).map (BitVec.ofNat 128)

def parseHyphenated (cs : List Char) : Option Uuid :=
  if cs.length = 36 ∧ [8, 13, 18, 23].all (cs[·]? = some '-') then
    parseSimple <| cs.take 8 ++ (cs.drop 9).take 4 ++ (cs.drop 14).take 4 ++ (cs.drop 19).take 4 ++
      cs.drop 24
  else
    none

-- A UUID may be written in braces or as a URN.
def ofText? (raw : String) : Option Uuid :=
  let cs := raw.toList
  if cs.length = 32 then
    parseSimple cs
  else if cs.length = 36 then
    parseHyphenated cs
  else if cs.length = 38 ∧ cs.head? = some '\x7b' ∧ cs.getLast? = some '\x7d' then
    parseHyphenated (cs.drop 1).dropLast
  else if cs.length = 45 ∧ cs.take 9 = "urn:uuid:".toList then
    parseHyphenated (cs.drop 9)
  else
    none

end Uuid

-- The messages of `are.ledger.v1`.
structure WriteEntryRequest where
  entryType      : String
  agentId        : String
  content        : List UInt8
  contentType    : String
  sourceId       : String
  correlationId  : String
  idempotencyKey : String

structure WriteEntryResponse where
  entryId       : String
  entryHash     : String
  chainPosition : String
  writtenTs     : Int
  deriving DecidableEq

structure LedgerEntry where
  entryId       : String
  entryType     : String
  agentId       : String
  content       : List UInt8
  contentType   : String
  sourceId      : String
  correlationId : String
  entryHash     : String
  previousHash  : String
  chainPosition : Int
  writtenTs     : Int
  deriving DecidableEq

structure QueryEntriesRequest where
  entryType     : String
  agentId       : String
  sourceId      : String
  correlationId : String
  fromTs        : Int
  toTs          : Int
  pageSize      : Int
  pageToken     : String

structure QueryEntriesResponse where
  entries       : List LedgerEntry
  nextPageToken : String
  totalCount    : Nat
  deriving DecidableEq

structure VerifyEntryResponse where
  entryId        : String
  hashValid      : Bool
  chainLinkValid : Bool
  failureReason  : String
  deriving DecidableEq

structure VerifyChainRequest where
  entryType    : String
  startEntryId : String
  endEntryId   : String

structure VerifyChainResponse where
  chainValid          : Bool
  entriesChecked      : Nat
  firstInvalidEntryId : String
  failureReason       : String
  deriving DecidableEq

structure GetChainTipResponse where
  entryId       : String
  entryHash     : String
  chainPosition : Int
  writtenTs     : Int
  deriving DecidableEq

namespace Grpc

def emptyToNone (value : String) : Option String :=
  if value = "" then none else some value

def parseUuid (raw : String) : Except Rpc.Status Uuid :=
  match Uuid.ofText? raw with
  | some id => .ok id
  | none    => .error ⟨.invalidArgument, "must be valid UUID"⟩

def mapErr : ServiceError → Rpc.Status
  | .notFound                => ⟨.notFound, "not found"⟩
  | .invalidArgument message => ⟨.invalidArgument, message⟩
  | .unavailable             => ⟨.unavailable, "unavailable"⟩
  | .internal message        => ⟨.internal, message⟩

end Grpc

open Grpc

def WriteEntryRequest.toInput (request : WriteEntryRequest) : WriteEntryInput where
  entryType      := request.entryType
  agentId        := request.agentId
  content        := request.content
  contentType    := request.contentType
  sourceId       := request.sourceId
  correlationId  := emptyToNone request.correlationId
  idempotencyKey := emptyToNone request.idempotencyKey

def WriteEntryOutput.toResponse (output : WriteEntryOutput) : WriteEntryResponse where
  entryId       := output.entryId.toText
  entryHash     := output.entryHash
  chainPosition := toString output.chainPosition
  writtenTs     := output.writtenTsMs

def LedgerEntryRecord.toMessage (entry : LedgerEntryRecord) : LedgerEntry where
  entryId       := entry.entryId.toText
  entryType     := entry.entryType
  agentId       := entry.agentId
  content       := entry.content
  contentType   := entry.contentType
  sourceId      := entry.sourceId
  correlationId := entry.correlationId.getD ""
  entryHash     := entry.entryHash
  previousHash  := entry.previousHash
  chainPosition := entry.chainPosition
  writtenTs     := DateTime.timestampMillis entry.writtenTs

def QueryEntriesRequest.toInput (request : QueryEntriesRequest) : QueryEntriesInput where
  entryType     := emptyToNone request.entryType
  agentId       := emptyToNone request.agentId
  sourceId      := emptyToNone request.sourceId
  correlationId := emptyToNone request.correlationId
  fromTs        := if request.fromTs = 0 then none else some request.fromTs
  toTs          := if request.toTs = 0 then none else some request.toTs
  pageSize      := request.pageSize
  pageToken     := emptyToNone request.pageToken

def QueryEntriesOutput.toResponse (output : QueryEntriesOutput) : QueryEntriesResponse where
  entries       := output.entries.map (·.toMessage)
  nextPageToken := output.nextToken.getD ""
  totalCount    := output.total

def VerifyEntryOutput.toResponse (output : VerifyEntryOutput) : VerifyEntryResponse where
  entryId        := output.entryId.toText
  hashValid      := output.hashValid
  chainLinkValid := output.chainLinkValid
  failureReason  := output.failureReason

def VerifyChainOutput.toResponse (output : VerifyChainOutput) : VerifyChainResponse where
  chainValid          := output.chainValid
  entriesChecked      := output.entriesChecked
  firstInvalidEntryId := (output.firstInvalidEntryId.map (·.toText)).getD ""
  failureReason       := output.failureReason

def ChainTip.toResponse (tip : ChainTip) : GetChainTipResponse where
  entryId       := tip.entryId.toText
  entryHash     := tip.hash
  chainPosition := tip.position
  writtenTs     := DateTime.timestampMillis tip.writtenTs

namespace PostgresClient

-- `ORDER BY written_ts, chain_position` leaves the order of entries of different types open.
def QueryEntries (t : Tables) (found : List LedgerEntryRecord) : Prop :=
  found.Perm t.ledgerEntries ∧
    found.Pairwise fun e e' => e.writtenTs < e'.writtenTs ∨
      e.writtenTs = e'.writtenTs ∧ e.chainPosition ≤ e'.chainPosition

instance (t : Tables) (found : List LedgerEntryRecord) : Decidable (QueryEntries t found) :=
  inferInstanceAs <| Decidable (_ ∧ _)

end PostgresClient

-- The server as its clients see it. Any number of calls write, in any number of processes that share
-- the database, and any number of calls read.
namespace Grpc

inductive Read
  | getEntry (entryId : String)
  | queryEntries (request : QueryEntriesRequest)
  | verifyEntry (entryId : String)
  | verifyChain (request : VerifyChainRequest)
  | getChainTip (entryType : String)

inductive Response
  | entry (entry : LedgerEntry)
  | entries (response : QueryEntriesResponse)
  | entryVerified (response : VerifyEntryResponse)
  | chainVerified (response : VerifyChainResponse)
  | chainTip (response : GetChainTipResponse)
  deriving DecidableEq

-- `verify_entry` reads twice: the entry, and then its chain.
inductive Thread
  | start
  | linking (entryId : Uuid) (entry : LedgerEntryRecord)
  | returned (result : Except Rpc.Status Response)
  deriving DecidableEq

def required (entryType : String) : Except Rpc.Status Unit :=
  if entryType = "" then .error ⟨.invalidArgument, "entry_type is required"⟩ else .ok ()

def parseBound (raw : String) : Except Rpc.Status (Option Uuid) :=
  if raw = "" then .ok none else (parseUuid raw).map some

def answer (result : Except RepositoryError α) : Except Rpc.Status α :=
  result.mapError (mapErr <| mapRepo ·)

section Read

variable [Sha256] (config : AppConfig) (t : Tables) (found : List LedgerEntryRecord)

-- `verify_entry` once it has the entry.
def checkLink (entryId : Uuid) (entry : LedgerEntryRecord) : Thread :=
  if entry.chainPosition = 1 then
    .returned <| .ok <| .entryVerified
      (verified entryId entry <| entry.previousHash == config.genesisHash).toResponse
  else
    .linking entryId entry

def Read.start : Read → Thread
  | .getEntry raw          => .returned do
    let entryId ← parseUuid raw
    let entry ← answer (t.getEntry entryId)
    return .entry entry.toMessage
  | .queryEntries request  => .returned do
    let output ← (Ledger.queryEntries (.ok found) request.toInput).mapError mapErr
    return .entries output.toResponse
  | .verifyEntry raw       =>
    match parseUuid raw with
    | .error status => .returned <| .error status
    | .ok entryId   =>
      match answer (t.getEntry entryId) with
      | .error status => .returned <| .error status
      | .ok entry     => checkLink config entryId entry
  | .verifyChain request   => .returned do
    required request.entryType
    let startEntryId ← parseBound request.startEntryId
    let endEntryId ← parseBound request.endEntryId
    let output ← (checkChain config (PostgresClient.getEntriesByType t request.entryType) startEntryId
      endEntryId).mapError mapErr
    return .chainVerified output.toResponse
  | .getChainTip entryType => .returned do
    required entryType
    let tip ← answer (PostgresClient.getChainTip t entryType)
    return .chainTip tip.toResponse

def Read.step (call : Read) : Thread → Thread
  | .start                 => call.start config t found
  | .linking entryId entry => .returned do
    let chain ← answer (PostgresClient.getEntriesByType t entry.entryType)
    return .entryVerified (verified entryId entry <| linked entry chain).toResponse
  | .returned result       => .returned result

end Read

structure State (ι π κ : Type*) where
  ledger : Interleaving.State ι (Cluster.Shared ι π) Cluster.Pc
  reads  : κ → Thread

inductive Event (ι κ : Type*)
  | write (i : ι) (env : WriteEntry.Env)
  | read (k : κ) (found : List LedgerEntryRecord)

variable [Sha256] [Database] [DecidableEq ι] [DecidableEq π] [DecidableEq κ] (config : AppConfig)
variable (process : ι → π) (writes : ι → WriteEntryRequest) (reads : κ → Read)

abbrev ledger : Interleaving.System ι (Cluster.Shared ι π) Cluster.Pc WriteEntry.Env :=
  Cluster.system config (fun i => (writes i).toInput) process

def system : Transition.System (State ι π κ) (Event ι κ) where
  allows s
    | .write i env  => (ledger config process writes).allows i env s.ledger.shared (s.ledger.locals i)
    | .read _ found => PostgresClient.QueryEntries s.ledger.shared.db.committed found
  step s
    | .write i env  => { s with ledger := s.ledger.next (ledger config process writes) i env }
    | .read k found =>
      { s with
        reads := Function.update s.reads k
          ((reads k).step config s.ledger.shared.db.committed found (s.reads k)) }

instance [Fintype ι] (s : State ι π κ) :
    (e : Event ι κ) → Decidable ((system config process writes reads).allows s e)
  | .write i env  => inferInstanceAs <|
      Decidable ((ledger config process writes).allows i env s.ledger.shared (s.ledger.locals i))
  | .read _ found => inferInstanceAs <|
      Decidable (PostgresClient.QueryEntries s.ledger.shared.db.committed found)

def opened (ι π κ : Type*) : State ι π κ where
  ledger  := Cluster.opened ι π {}
  reads _ := .start

end Grpc

end Ledger
