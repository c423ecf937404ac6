import TypingTrainer.Json.Decode
import TypingTrainer.Json.Value
import TypingTrainer.Stats.Table

namespace TypingTrainer.Stats

open Json

namespace Best

def toJson (id : String) (b : Best) : Value := .obj [
  ("snippet_id", .str id), ("best_wpm", .num b.wpm), ("best_accuracy", .num b.accuracy),
  ("practice_count", .num b.practiceCount), ("last_practiced", .str (Time.write b.lastPracticed))]

end Best

namespace Row

structure Draft where
  id : Option String := none
  wpm : Option Nat := none
  accuracy : Option Nat := none
  count : Option Nat := none
  time : Option String := none

def Draft.finish? (d : Draft) : Option (String × Row) := do
  return (← d.id, ⟨.integer (← d.wpm), .integer (← d.accuracy), .integer (← d.count), ← d.time⟩)

def fields : List (RecordField Draft) := [
  .of "snippet_id" (·.id) (fun d x => { d with id := some x }) decodeString,
  .of "best_wpm" (·.wpm) (fun d x => { d with wpm := some x }) decodeCount,
  .of "best_accuracy" (·.accuracy) (fun d x => { d with accuracy := some x }) decodeCount,
  .of "practice_count" (·.count) (fun d x => { d with count := some x }) decodeCount,
  .of "last_practiced" (·.time) (fun d x => { d with time := some x }) decodeString]

def decode : Decoder (String × Row) := decodeRecord fields {} Draft.finish?

end Row

namespace Table

def toText (t : Table) : Except Fault String := do
  let rows ← t.all
  return (Value.arr (rows.map fun (id, b) => b.toJson id)).text .pretty

def ofText? (text : String) : Option Table :=
  match decodeText (decodeList Row.decode) (text.toList.map some) with
  | .ok rows => some ⟨[], SortedMap.ofList rows⟩
  | .error _ => none

end Table

end TypingTrainer.Stats
