namespace TypingTrainer.Path

inductive Component
  | root
  | here
  | up
  | name (s : String)
  deriving DecidableEq

def splitSlash : List Char → List (List Char)
  | [] => [[]]
  | '/' :: rest => [] :: splitSlash rest
  | c :: rest =>
    match splitSlash rest with
    | part :: parts => (c :: part) :: parts
    | [] => [[c]]

def steps (path : String) : List Component :=
  let inner := (splitSlash path.toList).filterMap fun part =>
    if part = [] then none
    else if part = ['.'] then some .here
    else if part = ['.', '.'] then some .up
    else some (.name (String.ofList part))
  if path.toList.head? = some '/' then .root :: inner else inner

def components (path : String) : List Component :=
  match steps path with
  | [] => []
  | c :: rest => c :: rest.filter (· ≠ .here)

def endsInSlash (path : String) : Bool := path.toList.getLast? == some '/'

def lastName? : List Component → Option String
  | cs => match cs.getLast? with
    | some (.name s) => some s
    | _ => none

def parentOf? (cs : List Component) : Option (List Component) :=
  match cs.getLast? with
  | none | some .root => none
  | _ => some cs.dropLast

/-- The text in front of the last dot, and the text after it. A dot in front does not count. -/
def splitDot (name : String) : String × Option String :=
  let (after, before) := name.toList.reverse.span (· ≠ '.')
  match before with
  | _ :: b :: bs => (String.ofList (b :: bs).reverse, some (String.ofList after.reverse))
  | _ => (name, none)

def fileName? (path : String) : Option String := lastName? (components path)

def parentName? (path : String) : Option String := (parentOf? (components path)).bind lastName?

def stem? (path : String) : Option String := (fileName? path).map fun n => (splitDot n).1

def extension? (path : String) : Option String := (fileName? path).bind fun n => (splitDot n).2

def join (base path : String) : String :=
  if path.toList.head? = some '/' ∨ base = "" then path
  else if base.toList.getLast? = some '/' then base ++ path
  else base ++ "/" ++ path

def isAbsolute (path : String) : Bool := path.toList.head? == some '/'

end TypingTrainer.Path
