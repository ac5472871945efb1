import AreFoundation.Ledger.Query

namespace Ledger

namespace InMemoryLedgerRepository

variable (repo : InMemoryLedgerRepository)

-- Hash maps list their values in an unspecified order.
def pendingOutbox : Multiset OutboxRecord :=
  repo.outbox.entries.map (·.2) |>.filter (·.status = .pending)

def markOutboxDelivered (outboxId : Uuid) : Except RepositoryError Unit × InMemoryLedgerRepository :=
  match repo.outbox.lookup outboxId with
  | none        => (.error .notFound, repo)
  | some record =>
    (.ok (), { repo with outbox := repo.outbox.insert outboxId { record with status := .delivered } })

end InMemoryLedgerRepository

namespace OutboxProcessor

-- Where the loop of `start_outbox_processor` stands.
inductive Pc
  | pendingOutbox
  | publish (records : List OutboxRecord)
  | markOutboxDelivered (record : OutboxRecord) (records : List OutboxRecord)

-- The order in which the pending records are listed, and whether the publisher succeeds.
structure Env where
  pending   : List OutboxRecord
  published : Bool

-- A record whose event is not published, or that cannot be marked, is left to the next round.
def step (env : Env) (svc : ImmutableLedgerService InMemoryLedgerRepository) :
    Pc → ImmutableLedgerService InMemoryLedgerRepository × Pc
  | .pendingOutbox            => (svc, .publish env.pending)
  | .publish []               => (svc, .pendingOutbox)
  | .publish (record :: rest) =>
    (svc, bif env.published then .markOutboxDelivered record rest else .publish rest)
  | .markOutboxDelivered record rest =>
    ({ svc with repo := (svc.repo.markOutboxDelivered record.outboxId).2 }, .publish rest)

def Allows (env : Env) (svc : ImmutableLedgerService InMemoryLedgerRepository) : Pc → Prop
  | .pendingOutbox => (env.pending : Multiset OutboxRecord) = svc.repo.pendingOutbox
  | _              => True

instance (env : Env) (svc : ImmutableLedgerService InMemoryLedgerRepository) :
    (pc : Pc) → Decidable (Allows env svc pc)
  | .pendingOutbox                        => inferInstanceAs <| Decidable (_ = _)
  | .publish _ | .markOutboxDelivered _ _ => .isTrue trivial

end OutboxProcessor

-- Calls that only read.
inductive Query
  | getEntry (entryId : Uuid)
  | queryEntries (query : QueryEntriesInput)
  | getChainTip (entryType : String)
  | verifyEntry (entryId : Uuid)
  | verifyChain (entryType : String) (startEntryId endEntryId : Option Uuid)

inductive Answer
  | entry (result : Except ServiceError LedgerEntryRecord)
  | entries (result : Except ServiceError QueryEntriesOutput)
  | chainTip (result : Except ServiceError ChainTip)
  | entryVerified (result : Except ServiceError VerifyEntryOutput)
  | chainVerified (result : Except ServiceError VerifyChainOutput)

namespace Query

-- `verify_entry` reads twice: the entry, and then its chain.
inductive Pc
  | start
  | getEntriesByType (entryId : Uuid) (entry : LedgerEntryRecord)
  | returned (answer : Answer)

variable [Sha256] (config : AppConfig) (repo : InMemoryLedgerRepository)

-- `values` is the order in which the entries are listed.
def begin (values : List LedgerEntryRecord) : Query → Pc
  | getEntry entryId      => .returned <| .entry <| (repo.getEntry entryId).mapError mapRepo
  | queryEntries query    =>
    .returned <| .entries <| Ledger.queryEntries (InMemoryLedgerRepository.queryEntries values) query
  | getChainTip entryType => .returned <| .chainTip <| (repo.getChainTip entryType).mapError mapRepo
  | verifyEntry entryId   =>
    match repo.getEntry entryId with
    | .error err => .returned <| .entryVerified <| .error <| mapRepo err
    | .ok entry  =>
      if entry.chainPosition = 1 then
        .returned <| .entryVerified <| .ok <|
          verified entryId entry (entry.previousHash == config.genesisHash)
      else
        .getEntriesByType entryId entry
  | verifyChain entryType startEntryId endEntryId =>
    .returned <| .chainVerified <| Ledger.verifyChain config repo entryType startEntryId endEntryId

def step (values : List LedgerEntryRecord) (query : Query) : Pc → Pc
  | .start                          => query.begin config repo values
  | .getEntriesByType entryId entry =>
    .returned <| .entryVerified <| .ok <|
      verified entryId entry (linked entry <| repo.getEntriesByType entry.entryType)
  | .returned answer                => .returned answer

-- Hash maps list their values in an unspecified order.
def Allows (values : List LedgerEntryRecord) : Prop :=
  (values : Multiset LedgerEntryRecord) = repo.entries.entries.map (·.2)

instance (values : List LedgerEntryRecord) : Decidable (Allows repo values) :=
  inferInstanceAs <| Decidable (_ = _)

end Query

variable [Sha256]

namespace Server

-- The tasks that share the repository.
inductive Thread
  | writeEntry (input : WriteEntryInput) (pc : WriteEntry.Pc)
  | outboxProcessor (pc : OutboxProcessor.Pc)
  | query (query : Query) (pc : Query.Pc)

inductive Thread.Starts : Thread → Prop
  | writeEntry : Starts (.writeEntry input .start)
  | outboxProcessor : Starts (.outboxProcessor .pendingOutbox)
  | query : Starts (.query q .start)

structure Env where
  write  : WriteEntry.Env
  outbox : OutboxProcessor.Env
  values : List LedgerEntryRecord

def step (config : AppConfig) (env : Env) (svc : ImmutableLedgerService InMemoryLedgerRepository) :
    Thread → ImmutableLedgerService InMemoryLedgerRepository × Thread
  | .writeEntry input pc =>
    (WriteEntry.step config input env.write svc pc).map id (.writeEntry input)
  | .outboxProcessor pc =>
    (OutboxProcessor.step env.outbox svc pc).map id .outboxProcessor
  | .query q pc => (svc, .query q <| q.step config svc.repo env.values pc)

def Allows (env : Env) (svc : ImmutableLedgerService InMemoryLedgerRepository) : Thread → Prop
  | .writeEntry _ pc    => WriteEntry.Allows env.write svc pc
  | .outboxProcessor pc => OutboxProcessor.Allows env.outbox svc pc
  | .query _ _          => Query.Allows svc.repo env.values

instance (env : Env) (svc : ImmutableLedgerService InMemoryLedgerRepository) :
    (thread : Thread) → Decidable (Allows env svc thread)
  | .writeEntry _ _    => inferInstanceAs <| Decidable (WriteEntry.Allows ..)
  | .outboxProcessor _ => inferInstanceAs <| Decidable (OutboxProcessor.Allows ..)
  | .query _ _         => inferInstanceAs <| Decidable (Query.Allows ..)

def server (ι : Type) (config : AppConfig) :
    Interleaving.System ι (ImmutableLedgerService InMemoryLedgerRepository) Thread Env where
  allows _ env svc thread := Allows env svc thread
  step _ env svc thread   := step config env svc thread

instance (ι : Type) (config : AppConfig) (i : ι) (env : Env)
    (svc : ImmutableLedgerService InMemoryLedgerRepository) (thread : Thread) :
    Decidable ((server ι config).allows i env svc thread) :=
  inferInstanceAs <| Decidable (Allows env svc thread)

abbrev State (ι : Type) :=
  Interleaving.State ι (ImmutableLedgerService InMemoryLedgerRepository) Thread

end Server

end Ledger
