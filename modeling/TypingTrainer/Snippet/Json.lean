import TypingTrainer.Json.Decode
import TypingTrainer.Json.Value
import TypingTrainer.Snippet

namespace TypingTrainer

open Json

namespace Token

def toJson (t : Token) : Value := .obj [
  ("text", .str t.text), ("type", .str t.kind),
  ("categories", .arr (t.categories.toList.map fun c => .str c.tag)),
  ("base_typeable", .bool t.baseTypeable), ("typeable", .bool t.typeable),
  ("start_col", .num t.startCol), ("end_col", .num t.endCol)]

structure Draft where
  text : Option String := none
  kind : Option String := none
  categories : Option (SortedSet Category) := none
  baseTypeable : Option Bool := none
  typeable : Option Bool := none
  startCol : Option Nat := none
  endCol : Option Nat := none

def Draft.finish? (d : Draft) : Option Token := do
  return {
    text := ← d.text
    kind := ← d.kind
    categories := d.categories.getD ∅
    baseTypeable := ← d.baseTypeable
    typeable := d.typeable.getD false
    startCol := ← d.startCol
    endCol := ← d.endCol }

def decodeCategories : Decoder (SortedSet Category) := fun node => do
  return SortedSet.ofList ((← decodeList decodeString node).map Category.ofTag)

def fields : List (RecordField Draft) := [
  .of "text" (·.text) (fun d x => { d with text := some x }) decodeString,
  .of "type" (·.kind) (fun d x => { d with kind := some x }) decodeString,
  .of "categories" (·.categories) (fun d x => { d with categories := some x }) decodeCategories,
  .of "base_typeable" (·.baseTypeable) (fun d x => { d with baseTypeable := some x }) decodeBool,
  .of "typeable" (·.typeable) (fun d x => { d with typeable := some x }) decodeBool,
  .of "start_col" (·.startCol) (fun d x => { d with startCol := some x }) decodeCount,
  .of "end_col" (·.endCol) (fun d x => { d with endCol := some x }) decodeCount]

def decode : Decoder Token := decodeRecord fields {} Draft.finish?

end Token

namespace CharPos

def toJson (p : CharPos) : Value :=
  .obj [("token_idx", .num p.token), ("display_col", .num p.column)]

structure Draft where
  token : Option Nat := none
  column : Option Nat := none

def Draft.finish? (d : Draft) : Option CharPos := do return ⟨← d.token, ← d.column⟩

def fields : List (RecordField Draft) := [
  .of "token_idx" (·.token) (fun d x => { d with token := some x }) decodeCount,
  .of "display_col" (·.column) (fun d x => { d with column := some x }) decodeCount]

def decode : Decoder CharPos := decodeRecord fields {} Draft.finish?

end CharPos

namespace Line

def toJson (l : Line) : Value := .obj [
  ("line_number", .num l.number), ("indent_level", .num l.indent),
  ("display_tokens", .arr (l.tokens.map Token.toJson)), ("typing_sequence", .str l.sequence),
  ("char_map", .obj (l.charMap.entries.map fun e => (toString e.1, e.2.toJson)))]

structure Draft where
  number : Option Nat := none
  indent : Option Nat := none
  tokens : Option (List Token) := none
  sequence : Option String := none
  charMap : Option (SortedMap Nat CharPos) := none

def Draft.finish? (d : Draft) : Option Line := do
  return {
    number := ← d.number
    indent := ← d.indent
    tokens := ← d.tokens
    sequence := d.sequence.getD ""
    charMap := d.charMap.getD ∅ }

def decodeCharMap : Decoder (SortedMap Nat CharPos) := fun node => do
  return SortedMap.ofList (← decodeCountMap CharPos.decode node)

def fields : List (RecordField Draft) := [
  .of "line_number" (·.number) (fun d x => { d with number := some x }) decodeCount,
  .of "indent_level" (·.indent) (fun d x => { d with indent := some x }) decodeCount,
  .of "display_tokens" (·.tokens) (fun d x => { d with tokens := some x })
    (decodeList Token.decode),
  .of "typing_sequence" (·.sequence) (fun d x => { d with sequence := some x }) decodeString,
  .of "char_map" (·.charMap) (fun d x => { d with charMap := some x }) decodeCharMap]

def decode : Decoder Line := decodeRecord fields {} Draft.finish?

end Line

namespace Snippet

def toJson (s : Snippet) : Value := .obj [
  ("language", .str s.language.name), ("total_lines", .num s.totalLines),
  ("lines", .arr (s.lines.map Line.toJson))]

structure Draft where
  language : Option Language := none
  totalLines : Option Nat := none
  lines : Option (List Line) := none

def Draft.finish? (d : Draft) : Option Snippet := do
  return ⟨← d.language, ← d.totalLines, ← d.lines⟩

def fields : List (RecordField Draft) := [
  .of "language" (·.language) (fun d x => { d with language := some x })
    (decodeName Language.ofName?),
  .of "total_lines" (·.totalLines) (fun d x => { d with totalLines := some x }) decodeCount,
  .of "lines" (·.lines) (fun d x => { d with lines := some x }) (decodeList Line.decode)]

def decode : Decoder Snippet := decodeRecord fields {} Draft.finish?

def ofText (text : String) (reader : List Symbol → Read := read) : Except Fault Snippet :=
  decodeText decode (text.toList.map some) reader

def text (layout : Layout) (s : Snippet) : String := s.toJson.text layout

end Snippet

end TypingTrainer
