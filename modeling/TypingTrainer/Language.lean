namespace TypingTrainer

inductive Language
  | python
  | javascript
  | typescript
  | tsx
  deriving DecidableEq, Inhabited

namespace Language

def all : List Language := [python, javascript, typescript, tsx]

def name : Language → String
  | python => "python"
  | javascript => "javascript"
  | typescript => "typescript"
  | tsx => "tsx"

def ofName? (s : String) : Option Language := all.find? fun l => l.name == s

def next : Language → Language
  | python => javascript
  | javascript => typescript
  | typescript => tsx
  | tsx => python

theorem ofName?_name (l : Language) : ofName? l.name = some l := by
  cases l <;> decide

end Language

end TypingTrainer
