import AreFoundation.Ledger.Transactions

-- `write_entry` in several processes that share one database. Every call has a connection of its own,
-- which allows more interleavings than one connection for each process.
namespace Ledger.Cluster

open Transactions (Connections Call)

inductive Pc
  | start
  | findIdempotent (key : String)
  | getChainTip (attempt : Nat)
  | writeEntryWithOutbox (attempt : Nat) (call : Call) (pc : Transactions.Pc)
  | haltChain
  | returned (result : Except ServiceError WriteEntryOutput)

-- Each process remembers the chains that it has halted.
structure Shared (ι π : Type*) where
  db          : Connections ι
  chainHalted : π → Finset String

section Step

variable [Sha256] [Database] [DecidableEq ι] [DecidableEq π]
variable (config : AppConfig) (input : WriteEntryInput) (process : π) (i : ι) (env : WriteEntry.Env)
variable (sh : Shared ι π)

def write (previousHash : String) : Call where
  input := input.toEntryWriteInput env.eventId env.now previousHash
  ids   := env.newIds

-- A transaction begins where the call of one process would write the entry.
def Pc.ofWriteEntry : WriteEntry.Pc → Pc
  | .start                                     => .start
  | .findIdempotent key                        => .findIdempotent key
  | .getChainTip attempt                       => .getChainTip attempt
  | .writeEntryWithOutbox attempt previousHash =>
    .writeEntryWithOutbox attempt (write input env previousHash) .start
  | .haltChain                                 => .haltChain
  | .returned result                           => .returned result

-- How a call goes on after a statement of its transaction.
def resume (attempt : Nat) (call : Call) : Transactions.Pc → Pc
  | .returned result => .ofWriteEntry input env <| WriteEntry.written attempt result
  | pc               => .writeEntryWithOutbox attempt call pc

def step : Pc → Shared ι π × Pc
  | .start =>
    (sh, .ofWriteEntry input env <| WriteEntry.begin config input (sh.chainHalted process))
  | .findIdempotent key =>
    (sh, .ofWriteEntry input env <| WriteEntry.idempotent <|
      PostgresClient.findIdempotent sh.db.committed input.entryType key)
  | .getChainTip attempt =>
    if attempt < 5 then
      (sh, .ofWriteEntry input env <| WriteEntry.chainTip config attempt <|
        PostgresClient.getChainTip sh.db.committed input.entryType)
    else
      (sh, .ofWriteEntry input env WriteEntry.violated)
  | .writeEntryWithOutbox attempt call pc =>
    ({ sh with db := (Transactions.step call i sh.db pc).1 },
      resume input env attempt call (Transactions.step call i sh.db pc).2)
  | .haltChain =>
    ({ sh with
        chainHalted := Function.update sh.chainHalted process
          (insert input.entryType <| sh.chainHalted process) },
      .ofWriteEntry input env WriteEntry.violated)
  | .returned result => (sh, .returned result)

def Ready : Pc → Prop
  | .writeEntryWithOutbox _ call pc => Transactions.Ready call i sh.db pc
  | _                               => True

instance [Fintype ι] (pc : Pc) : Decidable (Ready i sh pc) := by
  unfold Ready
  split <;> infer_instance

end Step

def system [Sha256] [Database] [DecidableEq ι] [DecidableEq π] (config : AppConfig)
    (calls : ι → WriteEntryInput) (process : ι → π) :
    Interleaving.System ι (Shared ι π) Pc WriteEntry.Env where
  allows i _ sh pc := Ready i sh pc
  step i env sh pc := step config (calls i) (process i) i env sh pc

instance [Sha256] [Database] [DecidableEq ι] [DecidableEq π] [Fintype ι] (config : AppConfig)
    (calls : ι → WriteEntryInput) (process : ι → π) (i : ι) (env : WriteEntry.Env) (sh : Shared ι π)
    (pc : Pc) : Decidable ((system config calls process).allows i env sh pc) :=
  inferInstanceAs <| Decidable (Ready i sh pc)

def opened (ι π : Type*) (t : Tables) : Interleaving.State ι (Shared ι π) Pc where
  shared   := ⟨⟨t, fun _ => []⟩, fun _ => ∅⟩
  locals _ := .start

end Ledger.Cluster
