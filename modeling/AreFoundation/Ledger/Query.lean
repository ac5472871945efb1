import Mathlib.Data.Prod.Lex
import AreFoundation.Library.SortByKey
import AreFoundation.Ledger.Service

open SortByKey

namespace Ledger

structure QueryEntriesInput where
  entryType     : Option String := none
  agentId       : Option String := none
  sourceId      : Option String := none
  correlationId : Option String := none
  fromTs        : Option Int := none
  toTs          : Option Int := none
  pageSize      : Int := 0
  pageToken     : Option String := none

-- The source returns a tuple.
structure QueryEntriesOutput where
  entries   : List LedgerEntryRecord
  nextToken : Option String
  total     : Nat
  deriving DecidableEq

def LedgerEntryRecord.sortKey (entry : LedgerEntryRecord) : Int ×ₗ Int :=
  toLex (DateTime.timestampMillis entry.writtenTs, entry.chainPosition)

-- The order in which a map lists its values is unspecified, so they are given as a list.
def InMemoryLedgerRepository.queryEntries (values : List LedgerEntryRecord) :
    Except RepositoryError (List LedgerEntryRecord) :=
  .ok <| sortByKey (·.sortKey) values

def withoutSign : List Char → List Char
  | '+' :: ds => ds
  | ds        => ds

-- `str::parse::<usize>` on a platform with 64 bits.
def parseUsize (raw : String) : Option Nat :=
  let digits := withoutSign raw.toList
  if digits ≠ [] ∧ digits.all Char.isDigit ∧ Nat.ofDigitChars 10 digits 0 < 2 ^ 64 then
    some <| Nat.ofDigitChars 10 digits 0
  else
    none

def retain (filter : Option α) (keep : LedgerEntryRecord → α → Bool)
    (entries : List LedgerEntryRecord) : List LedgerEntryRecord :=
  match filter with
  | none       => entries
  | some value => entries.filter (keep · value)

namespace QueryEntriesInput

variable (query : QueryEntriesInput)

def select (entries : List LedgerEntryRecord) : List LedgerEntryRecord :=
  entries
    |> retain query.entryType (fun entry filter => entry.entryType == filter)
    |> retain query.agentId (fun entry filter => entry.agentId == filter)
    |> retain query.sourceId (fun entry filter => entry.sourceId == filter)
    |> retain query.correlationId (fun entry filter => entry.correlationId == some filter)
    |> retain query.fromTs (fun entry ts => DateTime.timestampMillis entry.writtenTs ≥ ts)
    |> retain query.toTs (fun entry ts => DateTime.timestampMillis entry.writtenTs ≤ ts)

def size : Nat :=
  if query.pageSize ≤ 0 then 100
  else if query.pageSize > 1000 then 1000
  else query.pageSize.toNat

def offset : Nat :=
  (query.pageToken.bind parseUsize).getD 0

end QueryEntriesInput

-- `found` is the answer of the repository.
def queryEntries (found : Except RepositoryError (List LedgerEntryRecord))
    (query : QueryEntriesInput) : Except ServiceError QueryEntriesOutput := do
  let entries ← found.mapError mapRepo
  let entries := sortByKey (·.sortKey) (query.select entries)
  let pageEntries := (entries.drop query.offset).take query.size
  let nextOffset := query.offset + pageEntries.length
  return { entries   := pageEntries
           nextToken := if nextOffset < entries.length then some (toString nextOffset) else none
           total     := entries.length }

end Ledger
