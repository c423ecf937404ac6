import TypingTrainer.App
import TypingTrainer.CommandLine.Arguments
import TypingTrainer.Diagnostics
import TypingTrainer.Files
import TypingTrainer.Folders
import TypingTrainer.Snippet.Json
import TypingTrainer.Stats.Store

namespace TypingTrainer

inductive Failure
  | file (f : FileFault)
  | json (f : Json.Fault)
  | stats (f : Stats.Fault)
  | csv
  | noSnippets (folder : String)
  deriving DecidableEq

def FileFault.message : FileFault → String
  | .notFound => "No such file or directory"
  | .isFolder => "Is a directory"
  | .notFolder => "Not a directory"
  | .alreadyExists => "File exists"
  | .invalidText => "stream did not contain valid UTF-8"

def Json.Fault.message : Json.Fault → String
  | .ended => "the text ends too early"
  | .malformed => "the text is malformed"
  | .shape => "the value has another shape"

def Failure.message : Failure → String
  | file f => f.message
  | json f => "snippet json error: " ++ f.message
  | stats f => f.message
  | csv => "csv export error"
  | noSnippets folder => "no snippet files found in \x60" ++ folder ++ "\x60"

namespace CommandLine

def liftFile {α : Type} : Except FileFault α → Except Failure α := Except.mapError .file

def loadFile (fs : Files) (path : String) : Except Failure Snippet := do
  let text ← liftFile (fs.readText path)
  (Snippet.ofText text).mapError .json

def isSnippetPath (path : String) : Bool :=
  Path.extension? path == some "json" && Path.fileName? path != some "metadata.json"

def candidates (fs : Files) (folder : String) : Except Failure (List String) := do
  let found := (← liftFile (fs.list folder)).filter isSnippetPath
  if found.isEmpty then throw (.noSnippets folder)
  return found

def pick (fs : Files) (folder : String) (choice : Nat) : Except Failure String := do
  let found ← candidates fs folder
  match found[choice % found.length]? with
  | some path => return path
  | none => throw (.noSnippets folder)

def loadSnippet (a : Arguments) (fs : Files) (choice : Nat) (language : Language) :
    Except Failure (Snippet × SnippetInfo) := do
  let path? ← match a.snippet, a.random with
    | some path, _ => pure (some path)
    | none, some folder => some <$> pick fs folder choice
    | none, none => pure none
  match path? with
  | some path => do
    let s ← loadFile fs path
    return (s, .ofPath path s.language)
  | none => return (.embedded language, .embedded language)

def diagnose (a : Arguments) (fs : Files) (choice : Nat) (preset : Preset) :
    Except Failure String := do
  let snippets ←
    if a.snippet.isNone && a.random.isNone then pure (Language.all.map Snippet.embedded)
    else do pure [(← loadSnippet a fs choice default).1]
  return Diagnostics.exportText (snippets.map (·.filter preset))

def saveConfig (fs : Files) (path : String) (c : Config) : Except FileFault Files := do
  let fs ← fs.makeParents path
  fs.write path (.bytes (Text.toUtf8 c.text))

def loadConfig (fs : Files) (path : String) : Config := Config.load (fs.readBytes path).toOption

def openStats (fs : Files) (path : String) : Except Failure Stats.Table × Files :=
  match fs.makeParents path with
  | .error f => (.error (.file f), fs)
  | .ok fs =>
    match fs.openFile path with
    | .error _ => (.error (.stats (.unopened (some path))), fs)
    | .ok place =>
      let (opened, fs) := (Stats.Store.openAt place).run.run fs
      (opened.mapError .stats, fs)

def exportCsv (t : Stats.Table) (fs : Files) (path : String) : Except Failure (Files × Nat) := do
  let rows ← t.all.mapError .stats
  let text := Stats.Table.csv rows
  match fs.write path (.bytes (Text.toUtf8 text)) with
  | .ok fs => return (fs, rows.length)
  | .error _ => throw .csv

def openLog (fs : Files) (path? : Option String) : Files :=
  match path? with
  | none => fs
  | some path =>
    match fs.makeParents path with
    | .error _ => fs
    | .ok made => (made.append path).toOption.getD made

inductive Outcome
  | exit (code : Nat) (output : String)
  | refused (r : Refusal)
  | failed (f : Failure)
  | noTerminal
  | screen (app : App)

structure Run where
  outcome : Outcome
  files : Files

def Outcome.code : Outcome → Nat
  | exit code _ => code
  | refused .help | refused .version => 0
  | refused _ => 2
  | failed _ => 1
  | noTerminal => 2
  | screen _ => 0

def Outcome.output : Outcome → String
  | exit _ output => output
  | _ => ""

def exportStats (env : Environment) (fs : Files) (csvPath : String) : Run :=
  match openStats fs env.statsPath with
  | (.error f, fs) => ⟨.failed f, fs⟩
  | (.ok t, opened) =>
    match exportCsv t opened csvPath with
    | .error f => ⟨.failed f, opened⟩
    | .ok (written, rows) =>
      ⟨.exit 0 ("exported " ++ toString rows ++ " snippet(s) to " ++ csvPath ++ "\n"), written⟩

def startApp (a : Arguments) (env : Environment) (fs : Files) (choice : Nat) (config : Config)
    (writable : Bool) : Run :=
  match loadSnippet a fs choice config.language with
  | .error f => ⟨.failed f, fs⟩
  | .ok (s, info) =>
    let (opened, fs) := openStats fs env.statsPath
    let recorder := opened.toOption.map fun _ => { accepts := fun _ => true : Recorder }
    let practice := Practice.begin s info config.preset Practice.defaultSettleDelay recorder
    ⟨.screen { practice := practice, config := config, store := ⟨config, writable⟩ }, fs⟩

/-- The whole program up to the point where it needs the screen. The configuration is saved with
what the arguments set before anything else is done. -/
def run (args : List String) (env : Environment) (fs : Files) (choice : Nat) (terminal : Bool) :
    Run :=
  match Arguments.parse args with
  | .error r => ⟨.refused r, fs⟩
  | .ok a =>
    let fs := openLog fs (a.log.or env.logPath?)
    let config := a.applyTo (loadConfig fs env.configPath)
    let saved := saveConfig fs env.configPath config
    let writable := saved.toOption.isSome
    let fs := saved.toOption.getD fs
    if a.diagnose then
      match diagnose a fs choice config.preset with
      | .ok text => ⟨.exit 0 (text ++ "\n"), fs⟩
      | .error f => ⟨.failed f, fs⟩
    else
      match a.exportStats with
      | some path => exportStats env fs path
      | none => if terminal then startApp a env fs choice config writable else ⟨.noTerminal, fs⟩

end CommandLine

end TypingTrainer
