import TypingTrainer.SortedMap
import TypingTrainer.Stats.Database

namespace TypingTrainer.Stats

structure Table where
  nameless : List Row
  named : SortedMap String Row

inductive Cell
  | null
  | integer (i : Int)
  | text (s : String)
  deriving DecidableEq

namespace Cell

/-- In a column of texts a number is kept as its digits. -/
def text? : Cell → Option String
  | null => none
  | integer i => some (toString i)
  | text s => some s

def amount (column : String) : Cell → Except Fault Amount
  | null => .error (.missing column)
  | integer i => .ok (.integer i)
  | text s => .ok (.ofText s)

end Cell

namespace Table

def empty : Table := ⟨[], ∅⟩

def upsert (t : Table) (id : String) (wpm accuracy : Nat) (time : String) : Table :=
  { t with named := t.named.insert id (Row.fold (t.named.get? id) wpm accuracy time) }

def rows (t : Table) : List (Option String × Row) :=
  t.nameless.map (fun r => (none, r)) ++ t.named.entries.map fun e => (some e.1, e.2)

def database : Database Table where
  empty := empty
  upsert := upsert
  row? t id := t.named.get? id
  rows := rows

def put (t : Table) (id : Option String) (row : Row) : Table :=
  match id with
  | some id => { t with named := t.named.insert id row }
  | none => { t with nameless := t.nameless ++ [row] }

def putCells (t : Table) (id wpm accuracy count time : Cell) : Except Fault Table := do
  let wpm ← wpm.amount "best_wpm"
  let accuracy ← accuracy.amount "best_accuracy"
  let count ← count.amount "practice_count"
  match time.text? with
  | some time => return t.put id.text? ⟨wpm, accuracy, count, time⟩
  | none => throw (.missing "last_practiced")

def record (t : Table) (id : String) (wpm accuracy : Nat) (time : Moment) (zone : Int := 0) :
    Table := database.record Time.rfc3339 t id wpm accuracy time zone

def get (t : Table) (id : String) : Except Fault (Option Best) := database.get Time.rfc3339 t id

def all (t : Table) : Except Fault (List (String × Best)) := database.all Time.rfc3339 t

def summary (t : Table) : Except Fault Summary := database.summary Time.rfc3339 t

def quoteField (s : String) : String :=
  if s.toList.any fun c => c == ',' || c == '"' || c == '\n' || c == '\r' then
    "\"" ++ String.ofList (s.toList.flatMap fun c => if c = '"' then ['"', '"'] else [c]) ++ "\""
  else s

def csvLine (fields : List String) : String := ",".intercalate (fields.map quoteField) ++ "\n"

def csvHeader : List String :=
  ["snippet_id", "best_wpm", "best_accuracy", "practice_count", "last_practiced"]

def csvRow (id : String) (b : Best) : List String :=
  [id, toString b.wpm, toString b.accuracy, toString b.practiceCount, Time.write b.lastPracticed]

def csv (rows : List (String × Best)) : String :=
  if rows.isEmpty then ""
  else csvLine csvHeader ++ String.join (rows.map fun r => csvLine (csvRow r.1 r.2))

end Table

end TypingTrainer.Stats
