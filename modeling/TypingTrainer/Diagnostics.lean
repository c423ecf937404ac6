import TypingTrainer.Json.Value
import TypingTrainer.Snippet

namespace TypingTrainer.Diagnostics

def showBlank : Char → Char
  | ' ' => '·'
  | '\t' => '→'
  | '\n' => '↵'
  | c => c

def visualize (text : String) : String := text.map showBlank

structure TokenReport where
  index : Nat
  token : Token
  deriving DecidableEq

def TokenReport.display (r : TokenReport) : String := visualize r.token.text

structure BlankCount where
  total : Nat
  typeable : Nat
  nonTypeable : Nat
  deriving DecidableEq

structure LineReport where
  number : Nat
  sequence : String
  typeable : List TokenReport
  nonTypeable : List TokenReport
  blanks : BlankCount
  deriving DecidableEq

structure Location where
  line : Nat
  index : Nat
  token : Token
  deriving DecidableEq

structure Problems where
  typeableBlanks : List Location
  uncategorized : List Location
  deriving DecidableEq

structure SnippetReport where
  language : Language
  tokens : Nat
  typeable : Nat
  blanks : Nat
  typeableBlanks : Nat
  samples : List TokenReport
  deriving DecidableEq

def reports (tokens : List Token) : List TokenReport :=
  tokens.zipIdx.map fun (t, i) => ⟨i, t⟩

def isTypeableBlank (t : Token) : Bool := t.isBlank && t.typeable

def isUncategorized (t : Token) : Bool := t.typeable && t.categories.toList.isEmpty

def line (l : Line) : LineReport where
  number := l.number
  sequence := l.sequence
  typeable := (reports l.tokens).filter fun r => r.token.typeable
  nonTypeable := (reports l.tokens).filter fun r => !r.token.typeable
  blanks := {
    total := l.tokens.countP Token.isBlank
    typeable := l.tokens.countP isTypeableBlank
    nonTypeable := l.tokens.countP fun t => t.isBlank && !t.typeable }

def locations (s : Snippet) : List Location :=
  s.lines.flatMap fun l => l.tokens.zipIdx.map fun (t, i) => ⟨l.number, i, t⟩

def problems (s : Snippet) : Problems where
  typeableBlanks := (locations s).filter fun l => isTypeableBlank l.token
  uncategorized := (locations s).filter fun l => isUncategorized l.token

def sampleSize : Nat := 10

def snippet (s : Snippet) : SnippetReport :=
  let tokens := s.lines.flatMap Line.tokens
  { language := s.language
    tokens := tokens.length
    typeable := tokens.countP Token.typeable
    blanks := tokens.countP Token.isBlank
    typeableBlanks := tokens.countP isTypeableBlank
    samples := reports ((tokens.filter Token.typeable).take sampleSize) }

def overview (snippets : List Snippet) : List SnippetReport := snippets.map snippet

open Json

def locationJson (l : Location) : Value := .obj [
  ("line", .num l.line),
  ("token", .obj [
    ("text", .str l.token.text), ("type", .str l.token.kind),
    ("categories", .arr (l.token.categories.toList.map fun c => .str c.tag))])]

def snippetJson (s : Snippet) : Value :=
  let found := (problems s).typeableBlanks
  .obj [
    ("language", .str s.language.name), ("total_lines", .num s.totalLines),
    ("typeable_whitespace_count", .num found.length),
    ("typeable_whitespace_locations", .arr (found.map locationJson))]

def exportText (snippets : List Snippet) : String :=
  (Value.arr (snippets.map snippetJson)).text .pretty

end TypingTrainer.Diagnostics
