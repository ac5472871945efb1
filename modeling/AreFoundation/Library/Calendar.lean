import Mathlib.Data.Int.Notation
import Mathlib.Tactic.Common

-- Instants of the UTC time scale and their textual form.
namespace Calendar

-- Nanoseconds since the Unix epoch.
abbrev Instant := Int

def Instant.unixMilli (t : Instant) : Int :=
  t / 1000000

structure Date where
  year  : Int
  month : Int
  day   : Int
  deriving DecidableEq

-- The date of a day given by its distance from the epoch. Years are counted from March, so that leap
-- days are at their end, and grouped into eras of 400 years.
def Date.ofDays (days : Int) : Date :=
  let z   := days + 719468
  let era := z / 146097
  let doe := z % 146097
  let yoe := (doe - doe / 1460 + doe / 36524 - doe / 146096) / 365
  let doy := doe - (365 * yoe + yoe / 4 - yoe / 100)
  let mp  := (5 * doy + 2) / 153
  let month := if mp < 10 then mp + 3 else mp - 9
  { year  := yoe + era * 400 + if month ≤ 2 then 1 else 0
    month := month
    day   := doy - (153 * mp + 2) / 5 + 1 }

def padded (width : Nat) (n : Int) : String :=
  let digits := toString n.natAbs
  let zeros  := String.ofList <| .replicate (width - digits.length) '0'
  (if n < 0 then "-" else "") ++ zeros ++ digits

-- The fraction of a second without trailing zeros, empty if there is none.
def fraction (nanos : Int) : String :=
  if nanos = 0 then ""
  else "." ++ String.ofList ((padded 9 nanos).toList.reverse.dropWhile (· = '0')).reverse

-- The layout `2006-01-02T15:04:05.999999999Z07:00`.
def Instant.formatRfc3339Nano (t : Instant) : String :=
  let seconds := t / 1000000000
  let date    := Date.ofDays (seconds / 86400)
  let clock   := seconds % 86400
  padded 4 date.year ++ "-" ++ padded 2 date.month ++ "-" ++ padded 2 date.day ++ "T" ++
    padded 2 (clock / 3600) ++ ":" ++ padded 2 (clock / 60 % 60) ++ ":" ++ padded 2 (clock % 60) ++
    fraction (t % 1000000000) ++ "Z"

example : Instant.formatRfc3339Nano 1709210096120000000 = "2024-02-29T12:34:56.12Z" := by
  decide +kernel

-- The layout `2006-01-02T15:04:05Z07:00`.
def Instant.formatRfc3339 (t : Instant) : String :=
  Instant.formatRfc3339Nano (t / 1000000000 * 1000000000)

example : Instant.formatRfc3339 1709210096120000000 = "2024-02-29T12:34:56Z" := by
  decide +kernel

end Calendar
