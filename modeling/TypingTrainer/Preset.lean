import TypingTrainer.Category

namespace TypingTrainer

inductive Preset
  | minimal
  | standard
  | full
  deriving DecidableEq

structure Rules where
  title : String
  description : String
  excluded : List Category
  /-- Token texts that stay typeable even when a category excludes them. -/
  included : List String

namespace Rules

def excludes (r : Rules) (c : Category) : Bool := r.excluded.contains c

def includesText (r : Rules) (text : String) : Bool := r.included.contains text

end Rules

namespace Preset

instance : Inhabited Preset := ⟨standard⟩

def all : List Preset := [minimal, standard, full]

def name : Preset → String
  | minimal => "minimal"
  | standard => "standard"
  | full => "full"

def ofName? (s : String) : Option Preset := all.find? fun p => p.name == s

def next : Preset → Preset
  | minimal => standard
  | standard => full
  | full => minimal

def rules : Preset → Rules
  | minimal => {
      title := "Minimal"
      description := "Type only keywords and identifiers"
      excluded := [.parenthesis, .curlyBrace, .squareBracket, .angleBracket, .operator,
        .punctuation, .stringContent, .stringDelimiter, .comment]
      included := [] }
  | standard => {
      title := "Standard"
      description := "Balanced practice without pinky strain (recommended)"
      excluded := [.curlyBrace, .squareBracket, .angleBracket, .stringContent, .punctuation,
        .stringDelimiter, .comment]
      included := [":", ".", ",", "(", ")"] }
  | full => {
      title := "Full"
      description := "Type everything except whitespace and comments"
      excluded := [.comment, .stringContent]
      included := [] }

theorem ofName?_name (p : Preset) : ofName? p.name = some p := by
  cases p <;> decide

end Preset

end TypingTrainer
