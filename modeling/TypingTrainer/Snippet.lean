import TypingTrainer.Category
import TypingTrainer.Language
import TypingTrainer.Text.Blank

namespace TypingTrainer

structure Token where
  text : String
  kind : String
  categories : SortedSet Category
  /-- What the tokenizer allows to be typed at all, whatever the typing mode. -/
  baseTypeable : Bool
  typeable : Bool
  startCol : Nat
  endCol : Nat
  deriving DecidableEq

namespace Token

def ofText (text kind : String) (categories : List Category) (startCol : Nat) : Token where
  text := text
  kind := kind
  categories := SortedSet.ofList categories
  baseTypeable := !Text.allBlank text
  typeable := false
  startCol := startCol
  endCol := startCol + text.length

def isBlank (t : Token) : Bool := Text.allBlank t.text

def has (t : Token) (c : Category) : Bool := t.categories.toList.contains c

end Token

/-- Where a character of the typing sequence comes from: its token, and the column at which that
token starts. -/
structure CharPos where
  token : Nat
  column : Nat
  deriving DecidableEq

structure Line where
  number : Nat
  indent : Nat
  tokens : List Token
  sequence : String
  charMap : SortedMap Nat CharPos
  deriving DecidableEq

namespace Line

def typingLen (l : Line) : Nat := l.sequence.length

def expected? (l : Line) (i : Nat) : Option Char := l.sequence.toList[i]?

def isTypeable (l : Line) : Bool := l.sequence != ""

end Line

/-- A tokenized source text. The total is as its file says and need not be the number of lines. -/
structure Snippet where
  language : Language
  totalLines : Nat
  lines : List Line
  deriving DecidableEq

end TypingTrainer
