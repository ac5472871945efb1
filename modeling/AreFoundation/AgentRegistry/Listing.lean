import Mathlib.Data.String.Basic
import AreFoundation.AgentRegistry.Service
import AreFoundation.Library.Pagination

namespace AgentRegistry

structure AgentFilter where
  status    : String
  agentType : String
  ownerId   : String

def AgentFilter.accepts (f : AgentFilter) (a : Agent) : Bool :=
  (if f.status ≠ "" then a.status.toRaw = f.status else a.status ≠ .deregistered) &&
    (f.agentType = "" || a.agentType.toRaw = Go.toUpper f.agentType) &&
    (f.ownerId = "" || a.ownerId = f.ownerId)

def pageLimit (limit : Int) : Nat :=
  if limit ≤ 0 then 50 else if limit > 1000 then 1000 else limit.toNat

namespace Registry

variable (r : Registry)

-- The rows of `agents` in the order of their primary key.
def agentRows : List (String × Agent) :=
  Pagination.sortedKeys r.agents |>.filterMap fun agentId => (r.agents.lookup agentId).map (agentId, ·)

def matching (f : AgentFilter) : List (String × Agent) :=
  r.agentRows.filter fun row => f.accepts row.2

-- Returns a page, the token for the next one, and the length of the page.
def listAgents (f : AgentFilter) (limit : Int) (token : String) : List Agent × String × Nat :=
  let result := (r.matching f).filter (fun row => token = "" || token < row.1)
    |>.take (pageLimit limit + 1)
  if result.length > pageLimit limit then
    let page := result.take (pageLimit limit)
    (page.map (·.2), (result[pageLimit limit]?.map (·.1)).getD "", page.length)
  else
    (result.map (·.2), "", result.length)

end Registry

end AgentRegistry
