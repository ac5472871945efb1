import AreFoundation.Library.Interleaving
import AreFoundation.Library.ReadCommitted
import AreFoundation.RestBff.Postgres

-- `FinishRegister` and `FinishPassport` of the Postgres repository, where the transactions of several
-- calls are open at the same time. Statements fail because of what is stored, but not because a
-- connection is lost.
namespace RestBff.Transactions

open ReadCommitted

-- That keys are unique is not part of the tables, but follows from how rows are inserted.
structure Tables where
  agents       : List AgentRow := []
  registerIdem : List IdemRow := []
  passportIdem : List IdemRow := []
  passports    : List PassportRow := []

-- A value of a primary key.
inductive Key
  | agent (agentId : String)
  | registerIdem (idemKey : String)
  | passportIdem (idemKey : String)
  | passport (passportId : String)
  deriving DecidableEq

inductive Change
  | insertAgent (row : AgentRow)
  | insertRegisterIdem (row : IdemRow)
  | insertPassportIdem (row : IdemRow)
  | insertPassport (row : PassportRow)
  | updatePassport (passportId : String) (responseBody : Json)

def Change.key : Change → Key
  | insertAgent row             => .agent row.agentId
  | insertRegisterIdem row      => .registerIdem row.idemKey
  | insertPassportIdem row      => .passportIdem row.idemKey
  | insertPassport row          => .passport row.passportId
  | updatePassport passportId _ => .passport passportId

namespace Tables

variable (t : Tables)

def contains : Key → Bool
  | .agent agentId        => t.agents.any (·.agentId = agentId)
  | .registerIdem idemKey => t.registerIdem.any (·.idemKey = idemKey)
  | .passportIdem idemKey => t.passportIdem.any (·.idemKey = idemKey)
  | .passport passportId  => t.passports.any (·.passportId = passportId)

def apply : Change → Tables
  | .insertAgent row        => { t with agents := t.agents ++ [row] }
  | .insertRegisterIdem row => { t with registerIdem := t.registerIdem ++ [row] }
  | .insertPassportIdem row => { t with passportIdem := t.passportIdem ++ [row] }
  | .insertPassport row     => { t with passports := t.passports ++ [row] }
  | .updatePassport passportId responseBody =>
    { t with
      passports := t.passports.map fun row =>
        if row.passportId = passportId then { row with responseBody } else row }

end Tables

inductive Statement
  | insert (row : Change)
  | insertOrIgnore (row : Change)          -- `ON CONFLICT DO NOTHING`
  | insertOrUpdate (row conflict : Change) -- `ON CONFLICT DO UPDATE`

namespace Statement

def row : Statement → Change
  | insert row | insertOrIgnore row | insertOrUpdate row _ => row

def key (st : Statement) : Key :=
  st.row.key

-- What is changed, or `none` if the key is violated.
def execute (t : Tables) (st : Statement) : Option (List Change) :=
  if t.contains st.key then
    match st with
    | insert _                  => none
    | insertOrIgnore _          => some []
    | insertOrUpdate _ conflict => some [conflict]
  else
    some [st.row]

end Statement

inductive Call
  | finishRegister (idemKey agentId : String) (responseBody : Json) (record : AgentRec)
  | finishPassport (idemKey agentId : String) (responseBody : Json)

namespace Call

def idemKey : Call → String
  | finishRegister idemKey _ _ _ | finishPassport idemKey _ _ => idemKey

def agentId : Call → String
  | finishRegister _ agentId _ _ | finishPassport _ agentId _ => agentId

def responseBody : Call → Json
  | finishRegister _ _ responseBody _ | finishPassport _ _ responseBody => responseBody

-- The first statement of a transaction.
def select (t : Tables) : Call → Option Json
  | finishRegister idemKey _ _ _ =>
    (t.registerIdem.find? (·.idemKey = idemKey)).map (·.responseBody)
  | finishPassport idemKey _ _ =>
    (t.passportIdem.find? (·.idemKey = idemKey)).map (·.responseBody)

-- The statements that change rows.
def statements : Call → List Statement
  | finishRegister idemKey agentId responseBody record =>
    [.insertOrIgnore <| .insertAgent <| record.toRow agentId,
      .insert <| .insertRegisterIdem ⟨idemKey, responseBody⟩]
  | finishPassport idemKey agentId responseBody =>
    let passportId := passportIdFromBody responseBody
    .insert (.insertPassportIdem ⟨idemKey, responseBody⟩) ::
      if passportId = "" then [] else
        [.insertOrUpdate (.insertPassport ⟨passportId, agentId, responseBody⟩)
          (.updatePassport passportId responseBody)]

def race : Call → String
  | finishRegister idemKey _ _ _ => "register idem race: " ++ idemKey
  | finishPassport idemKey _ _   => "passport idem race: " ++ idemKey

end Call

inductive FinishError
  | agentNotFound
  | race (message : String)
  deriving DecidableEq

-- The points before each statement, with the number of iterations that are left after this one.
inductive Pc
  | selecting (attempts : Nat) -- Including this one.
  | findingAgent (attempts : Nat)
  | executing (attempts : Nat) (statements : List Statement)
  | rollingBack (attempts : Nat)
  | returned (result : Except FinishError Json)

abbrev Database (ι : Type*) := Store ι Tables Change

section Step

variable [DecidableEq ι] (call : Call) (i : ι) (db : Database ι)

def Call.found (attempts : Nat) : Pc :=
  match call with
  | finishRegister _ _ _ _ => .executing attempts call.statements
  | finishPassport _ _ _   => .findingAgent attempts

def step : Pc → Database ι × Pc
  | .selecting 0              => (db, .returned <| .error <| .race call.race)
  | .selecting (attempts + 1) =>
    match call.select (db.view Tables.apply i) with
    | some cached => (db.rollback i, .returned <| .ok cached)
    | none        => (db, call.found attempts)
  | .findingAgent attempts =>
    if (db.view Tables.apply i).contains (.agent call.agentId) then
      (db, .executing attempts call.statements)
    else
      (db.rollback i, .returned <| .error .agentNotFound)
  | .executing attempts (st :: rest) =>
    match st.execute (db.view Tables.apply i) with
    | none         => (db, .rollingBack attempts)
    | some changes => (db.write i changes, .executing attempts rest)
  | .executing _ []        => (db.commit i Tables.apply, .returned <| .ok call.responseBody)
  | .rollingBack attempts  => (db.rollback i, .selecting attempts)
  | .returned result       => (db, .returned result)

-- A statement waits for the other transactions that have changed its row.
def Ready : Pc → Prop
  | .executing _ (st :: _) => db.Free Change.key i st.key
  | _                      => True

instance [Fintype ι] (pc : Pc) : Decidable (Ready i db pc) := by
  unfold Ready
  split <;> infer_instance

end Step

def system [DecidableEq ι] (calls : ι → Call) : Interleaving.System ι (Database ι) Pc Unit where
  allows i _ db pc := Ready i db pc
  step i _ db pc   := step (calls i) i db pc

instance [DecidableEq ι] [Fintype ι] (calls : ι → Call) (i : ι) (e : Unit) (db : Database ι)
    (pc : Pc) : Decidable ((system calls).allows i e db pc) :=
  inferInstanceAs <| Decidable (Ready i db pc)

-- No call has begun its first transaction. There are eight iterations.
def opened (ι : Type*) (t : Tables) : Interleaving.State ι (Database ι) Pc where
  shared   := ⟨t, fun _ => []⟩
  locals _ := .selecting 8

end RestBff.Transactions
