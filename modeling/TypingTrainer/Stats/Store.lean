import TypingTrainer.Files

namespace TypingTrainer.Stats.Store

abbrev Action := ExceptT Fault (StateM Files)

def beside (place : List String) (ending : String) : List String :=
  place.dropLast ++ [place.getLast?.getD "" ++ ending]

def journal (place : List String) : List String := beside place "-journal"

def log (place : List String) : List String := beside place "-wal"

def index (place : List String) : List String := beside place "-shm"

inductive Holding
  | nothing
  | table (t : Table)
  | foreign

def holding (fs : Files) (place : List String) : Holding :=
  match fs.entries.get? place with
  | some (.file (.table t)) => .table t
  | some (.file (.bytes (_ :: _ :: _))) => .foreign
  | _ => .nothing

def bytesAt (place : List String) : Action Text.Bytes := do
  match (← get).entries.get? place with
  | some (.file (.bytes b)) => return b
  | _ => return []

def remove (place : List String) : Action Unit := modify (·.remove place)

def refuseFolder (place : List String) (fault : Fault) : Action Unit := do
  if (← get).isFolder place then throw fault

def clearNothing (place : List String) : Action Unit := do
  unless (← bytesAt (journal place)).isEmpty do remove (journal place)
  refuseFolder (log place) .unreadable
  unless (← bytesAt (log place)).isEmpty do remove (log place)
  refuseFolder (journal place) (.unopened none)
  remove (journal place)

def logHeader : Nat := 32

/-- Clears away what is beside a file that holds something. A journal that begins with a zero is
done with and may stay, and so may a log without an index that has no change in it. -/
def clearHolding (place : List String) : Action Unit := do
  refuseFolder (journal place) .unreadable
  if (← bytesAt (journal place)).head?.any (· ≠ 0) then remove (journal place)
  refuseFolder (log place) (.unopened none)
  let logged := (← bytesAt (log place)).length
  if logHeader ≤ logged then refuseFolder (index place) .locked
  if 0 < logged ∧ ¬ (← get).isFolder (index place) then
    remove (log place)
    remove (index place)

def openAt (place : List String) : Action Table := do
  match holding (← get) place with
  | .table t =>
    clearHolding place
    return t
  | .foreign =>
    clearHolding place
    throw .foreign
  | .nothing =>
    if ((← get).entries.get? place).isNone then modify (·.set place (.file (.bytes [])))
    clearNothing place
    modify (·.set place (.file (.table .empty)))
    return .empty

def read (fs : Files) (place : List String) : Except Fault Table :=
  match holding fs place with
  | .table t => .ok t
  | .foreign => .error .foreign
  | .nothing => .error .noTable

end TypingTrainer.Stats.Store
