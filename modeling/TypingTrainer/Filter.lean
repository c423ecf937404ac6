import TypingTrainer.Preset
import TypingTrainer.Snippet
import TypingTrainer.Text.Letter
import TypingTrainer.Text.Numeral

namespace TypingTrainer

namespace Token

def occursIn (part : List Char) : List Char → Bool
  | [] => part.isEmpty
  | c :: cs => part.isPrefixOf (c :: cs) || occursIn part cs

def startsName (c : Char) : Bool := Text.isLetter c || c == '_' || c == '$'

def continuesName (c : Char) : Bool :=
  Text.isLetter c || Text.isNumeral c || c == '_' || c == '-' || c == '.' || c == '$'

def isNameText : List Char → Bool
  | [] => false
  | c :: cs => startsName c && cs.all continuesName

def isIdentifierLike (t : Token) : Bool :=
  t.has .identifier || occursIn "identifier".toList t.kind.toList || isNameText t.text.toList

def opensTag (t : Token) : Bool := t.text == "<" || t.text == "</"

def closesTag (t : Token) : Bool := t.text == ">" || t.text == "/>"

def interruptsTag (t : Token) : Bool := t.text == "<" || t.text == "\x7b"

end Token

namespace Filter

/-- Whether a tag left open is closed before anything interrupts it. -/
def tagCloses : List Token → Bool
  | [] => false
  | t :: rest => t.closesTag || (!t.interruptsTag && tagCloses rest)

def isTagName (before? : Option Token) (t : Token) (rest : List Token) : Bool :=
  before?.any Token.opensTag && t.isIdentifierLike && tagCloses rest

def decides (rules : Rules) (before? : Option Token) (t : Token) (rest : List Token) : Bool :=
  !t.isBlank && t.baseTypeable && !(isTagName before? t rest && rules.excludes .angleBracket) &&
    (rules.includesText t.text || !t.categories.toList.any rules.excludes)

def flagFrom (rules : Rules) (before? : Option Token) : List Token → List Token
  | [] => []
  | t :: rest => { t with typeable := decides rules before? t rest } :: flagFrom rules (some t) rest

def flag (rules : Rules) (tokens : List Token) : List Token := flagFrom rules none tokens

def sequence (tokens : List Token) : List Char :=
  (tokens.filter Token.typeable).flatMap fun t => t.text.toList

def origins (tokens : List Token) : List CharPos :=
  tokens.zipIdx.flatMap fun (t, i) =>
    if t.typeable then List.replicate t.text.length ⟨i, t.startCol⟩ else []

end Filter

/-- The line under a typing mode. Flags, sequence and char map are built anew from the tokens. -/
def Line.filter (l : Line) (p : Preset) : Line :=
  let tokens := Filter.flag p.rules l.tokens
  { l with
    tokens := tokens
    sequence := String.ofList (Filter.sequence tokens)
    charMap := .ofPositions (Filter.origins tokens) }

def Snippet.filter (s : Snippet) (p : Preset) : Snippet :=
  { s with lines := s.lines.map (·.filter p) }

end TypingTrainer
