import TypingTrainer.Config

namespace TypingTrainer.CommandLine

structure Arguments where
  snippet : Option String := none
  language : Option Language := none
  preset : Option Preset := none
  random : Option String := none
  diagnose : Bool := false
  exportStats : Option String := none
  log : Option String := none
  deriving DecidableEq

inductive Refusal
  | invalidValue
  | unknownArgument
  | conflict
  | tooManyValues
  | help
  | version
  deriving DecidableEq

def Refusal.message : Refusal → String
  | invalidValue => "error: an option has no value, or one that it does not take"
  | unknownArgument => "error: unexpected argument"
  | conflict => "error: arguments that cannot be used together, or one used twice"
  | tooManyValues => "error: a value for an option that takes none"
  | help => "help"
  | version => "treetype 0.3.0"

def usage : String := "\n".intercalate [
  "Usage: treetype [OPTIONS]",
  "",
  "  -s, --snippet <FILE>       tokenized snippet to practice",
  "  -l, --language <LANGUAGE>  python, javascript, typescript or tsx",
  "  -p, --preset <PRESET>      minimal, standard or full",
  "  -r, --random <FOLDER>      practice a random snippet from a folder",
  "      --diagnose             print a report on the tokens",
  "      --export-stats <CSV>   write the statistics to a file",
  "      --log <FILE>           log file",
  ""]

inductive Opt
  | snippet
  | language
  | preset
  | random
  | diagnose
  | exportStats
  | log
  | help
  | version
  deriving DecidableEq

namespace Opt

def takesValue : Opt → Bool
  | diagnose | help | version => false
  | _ => true

def ofLong? (name : String) : Option Opt :=
  [("snippet", snippet), ("language", language), ("preset", preset), ("random", random),
    ("diagnose", diagnose), ("export-stats", exportStats), ("log", log), ("help", help),
    ("version", version)].lookup name

def ofShort? (c : Char) : Option Opt :=
  [('s', snippet), ('l', language), ('p', preset), ('r', random), ('h', help),
    ('V', version)].lookup c

end Opt

namespace Arguments

def fill {α : Type} (place : Option α) (value : Option α) : Except Refusal (Option α) :=
  if place.isSome then .error .conflict
  else
    match value with
    | some v => .ok (some v)
    | none => .error .invalidValue

def pathOf (value : String) : Option String := if value = "" then none else some value

def store (a : Arguments) (value : String) : Opt → Except Refusal Arguments
  | .snippet => do return { a with snippet := ← fill a.snippet (pathOf value) }
  | .language => do return { a with language := ← fill a.language (Language.ofName? value) }
  | .preset => do return { a with preset := ← fill a.preset (Preset.ofName? value) }
  | .random => do return { a with random := ← fill a.random (pathOf value) }
  | .exportStats => do return { a with exportStats := ← fill a.exportStats (pathOf value) }
  | .log => do return { a with log := ← fill a.log (pathOf value) }
  | .diagnose | .help | .version => .ok a

def raise (a : Arguments) : Opt → Except Refusal Arguments
  | .diagnose => if a.diagnose then .error .conflict else .ok { a with diagnose := true }
  | .help => .error .help
  | .version => .error .version
  | _ => .ok a

structure Open where
  opt : Opt
  value : Option String

def close (a : Arguments) : Option Open → Except Refusal Arguments
  | none => .ok a
  | some ⟨_, none⟩ => .error .invalidValue
  | some ⟨opt, some value⟩ => a.store value opt

def take (a : Arguments) (last : Option Open) (opt : Opt) (attached : Option String) :
    Except Refusal (Arguments × Option Open) :=
  match opt.takesValue, attached with
  | true, some value => do return (← (← a.close last).store value opt, none)
  | true, none => do return (← a.close last, some ⟨opt, none⟩)
  | false, none => do return (← (← a.close last).raise opt, none)
  | false, some _ => .error .tooManyValues

def splitLong (cs : List Char) : String × Option String :=
  match cs.span (· ≠ '=') with
  | (name, _ :: value) => (String.ofList name, some (String.ofList value))
  | (name, []) => (String.ofList name, none)

def attachedShort : List Char → Option String
  | [] => none
  | '=' :: value => some (String.ofList value)
  | value => some (String.ofList value)

def takeShort (a : Arguments) (last : Option Open) :
    List Char → Except Refusal (Arguments × Option Open)
  | [] => .ok (a, last)
  | c :: rest =>
    match Opt.ofShort? c with
    | none => .error .unknownArgument
    | some opt =>
      if opt.takesValue then a.take last opt (attachedShort rest)
      else do
        let (a, last) ← a.take last opt none
        a.takeShort last rest

def parseFrom (a : Arguments) (last : Option Open) : List String → Except Refusal Arguments
  | [] => a.close last
  | arg :: rest =>
    match arg.toList with
    | ['-', '-'] => if rest.isEmpty then a.close last else .error .unknownArgument
    | '-' :: '-' :: long => do
      let (name, attached) := splitLong long
      match Opt.ofLong? name with
      | none => throw .unknownArgument
      | some opt =>
        let (a, last) ← a.take last opt attached
        a.parseFrom last rest
    | '-' :: c :: more => do
      let (a, last) ← a.takeShort last (c :: more)
      a.parseFrom last rest
    | _ =>
      match last with
      | some ⟨opt, none⟩ => a.parseFrom (some ⟨opt, some arg⟩) rest
      | _ => .error .unknownArgument

def parse (args : List String) : Except Refusal Arguments := do
  let a ← ({} : Arguments).parseFrom none args
  if a.snippet.isSome && a.random.isSome then throw .conflict
  return a

def applyTo (a : Arguments) (stored : Config) : Config where
  preset := a.preset.getD stored.preset
  language := a.language.getD stored.language

end Arguments

end TypingTrainer.CommandLine
