import TypingTrainer.Stats.Amount
import TypingTrainer.Time

namespace TypingTrainer.Stats

structure Row where
  bestWpm : Amount
  bestAccuracy : Amount
  practiceCount : Amount
  lastPracticed : String

def Row.fold (row? : Option Row) (wpm accuracy : Nat) (time : String) : Row :=
  match row? with
  | none => ⟨.integer wpm, .integer accuracy, .integer 1, time⟩
  | some row => ⟨row.bestWpm.max wpm, row.bestAccuracy.max accuracy, row.practiceCount.next, time⟩

structure Best where
  wpm : Nat
  accuracy : Nat
  practiceCount : Nat
  lastPracticed : Moment
  deriving DecidableEq

structure Summary where
  practiced : Nat
  averageBestWpm : Nat
  bestWpm : Nat
  deriving DecidableEq

inductive Kind
  | null
  | real
  | text
  deriving DecidableEq

inductive Fault
  | wrongKind (kind : Kind) (index : Nat) (column : String)
  | outOfRange (value : Int) (index : Nat)
  | missing (column : String)
  | noTable
  | foreign
  | unreadable
  | locked
  | unopened (path? : Option String)
  deriving DecidableEq

def Kind.name : Kind → String
  | null => "Null"
  | real => "Real"
  | text => "Text"

def Fault.message : Fault → String
  | wrongKind kind index column =>
    "stats database error: Invalid column type " ++ kind.name ++ " at index: " ++ toString index ++
      ", name: " ++ column
  | outOfRange value index =>
    "stats database error: Integer " ++ toString value ++ " out of range at index " ++
      toString index
  | missing column =>
    "stats database error: NOT NULL constraint failed: snippet_stats." ++ column
  | noTable => "stats database error: no such table: snippet_stats"
  | foreign => "stats database error: file is not a database"
  | unreadable => "stats database error: disk I/O error"
  | locked => "stats database error: locking protocol"
  | unopened none => "stats database error: unable to open database file"
  | unopened (some path) => "stats database error: unable to open database file: " ++ path

/-- A database of rows by their ids. A row may be without one. -/
structure Database (σ : Type) where
  empty : σ
  upsert : σ → String → Nat → Nat → String → σ
  row? : σ → String → Option Row
  rows : σ → List (Option String × Row)

def countBound : Int := 4294967296

def readCount (a : Amount) (index : Nat) (column : String) : Except Fault Nat :=
  match a with
  | .integer i =>
    if 0 ≤ i ∧ i < countBound then .ok i.toNat else .error (.outOfRange i index)
  | .real _ => .error (.wrongKind .real index column)
  | .text _ => .error (.wrongKind .text index column)

def readId : Option String → Except Fault String
  | some id => .ok id
  | none => .error (.wrongKind .null 0 "snippet_id")

/-- Reads a row whose first column is number `offset` of the answer. The time is looked at first. -/
def Row.read (form : Time.Form) (r : Row) (offset : Nat) : Except Fault Best := do
  let some time := form.read? r.lastPracticed
    | throw (.wrongKind .text (offset + 3) "last_practiced")
  return {
    wpm := ← readCount r.bestWpm offset "best_wpm"
    accuracy := ← readCount r.bestAccuracy (offset + 1) "best_accuracy"
    practiceCount := ← readCount r.practiceCount (offset + 2) "practice_count"
    lastPracticed := time }

def mean (total count : Nat) : Nat := (2 * total + count) / (2 * count)

namespace Database

variable {σ : Type} (db : Database σ) (form : Time.Form)

def record (t : σ) (id : String) (wpm accuracy : Nat) (time : Moment) (zone : Int) : σ :=
  db.upsert t id wpm accuracy (form.write time zone)

def get (t : σ) (id : String) : Except Fault (Option Best) :=
  match db.row? t id with
  | none => .ok none
  | some r => (r.read form 0).map some

def all (t : σ) : Except Fault (List (String × Best)) :=
  (db.rows t).mapM fun (id?, r) => do return (← readId id?, ← r.read form 1)

def summary (t : σ) : Except Fault Summary := do
  let rows ← db.all form t
  let total := rows.foldl (fun n r => n + r.2.wpm) 0
  let best := rows.foldl (fun n r => max n r.2.wpm) 0
  if rows.isEmpty then return ⟨0, 0, 0⟩
  else return ⟨rows.length, mean total rows.length, best⟩

end Database

end TypingTrainer.Stats
