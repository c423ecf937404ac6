import Std.Time.DateTime.Timestamp
import TypingTrainer.CommandLine
import TypingTrainer.Screen.Terminal
import TypingTrainer.Stats.Archive
import TypingTrainer.View

namespace TypingTrainer.Main

def placePath (place : List String) : String := "/" ++ "/".intercalate place

def namesIn (path : String) : IO (List String) := do
  let entries ← ((← IO.currentDir) / path).readDir
  return entries.toList.map fun e => e.fileName

partial def takePlace (deep : Bool) (fs : Files) (place : List String) : IO Files := do
  let path := placePath place
  if ← ((← IO.currentDir) / path).isDir then
    let fs := fs.set place .folder
    if deep then
      (← namesIn path).foldlM (fun fs name => takePlace true fs (place ++ [name])) fs
    else return fs
  else
    match ← (IO.FS.readBinFile path).toBaseIO with
    | .ok bytes => return fs.set place (.file (.bytes bytes.toList))
    | .error _ => return fs

def follow (place : List String) : Path.Component → List String
  | .root => []
  | .here => place
  | .up => place.dropLast
  | .name n => place ++ [n]

def takePath (deep : Bool) (fs : Files) (path : String) : IO Files := do
  let mut fs ← takePlace false fs fs.current
  let mut place := fs.current
  for c in Path.components path do
    place := follow place c
    fs ← takePlace false fs place
  takePlace deep fs place

def takeStats (fs : Files) (path : String) : Files :=
  match fs.resolve path, (fs.readText path).toOption.bind Stats.Table.ofText? with
  | .ok place, some t => fs.set place (.file (.table t))
  | _, _ => fs

def environment : IO Environment := do
  return {
    home := ← IO.getEnv "HOME"
    configHome := ← IO.getEnv "XDG_CONFIG_HOME"
    dataHome := ← IO.getEnv "XDG_DATA_HOME"
    accountHome := none }

def takeFiles (args : List String) (env : Environment) : IO Files := do
  let current := (Path.components (← IO.currentDir).toString).foldl follow []
  let a := (CommandLine.Arguments.parse args).toOption.getD {}
  let named := [a.snippet, a.exportStats, a.log, env.logPath?].filterMap id
  let mut fs : Files := ⟨∅, current⟩
  for path in env.configPath :: env.statsPath :: named do
    fs ← takePath false fs path
  if let some folder := a.random then
    fs ← takePath true fs folder
  return takeStats fs env.statsPath

def writeEntry (before : Option Entry) (path : String) : Entry → IO Unit
  | .folder => if before.isNone then IO.FS.createDirAll path else pure ()
  | .file (.bytes b) => do
    if let some (.file (.bytes old)) := before then
      if old = b then return
    IO.FS.writeBinFile path b.toByteArray
  | .file (.table t) => do
    if let .ok text := t.toText then
      IO.FS.writeFile path text

def writeFiles (before after : Files) : IO Unit :=
  for (place, e) in after.entries.entries do
    writeEntry (before.entries.get? place) (placePath place) e

def clock : IO Instant := do
  let t ← Std.Time.Timestamp.now
  return t.val.second.val * 1000000000 + t.val.nano.val

def momentOf (now : Instant) : Moment :=
  ⟨now / 1000000000, (now % 1000000000).toNat⟩

def recordCalls (env : Environment) (fs : Files) (calls : List Call) (now : Instant) :
    IO Files := do
  if calls.isEmpty then return fs
  let (.ok t, opened) := CommandLine.openStats fs env.statsPath | return fs
  let t := calls.foldl
    (fun t c => t.record c.record.id c.record.wpm c.record.accuracy (momentOf now)) t
  let .ok written := opened.write env.statsPath (.table t) | return fs
  writeFiles fs written
  return written

def saveConfigs (env : Environment) (fs : Files) (saved : List Config) : IO Files := do
  let some config := saved.getLast? | return fs
  let .ok written := CommandLine.saveConfig fs env.configPath config | return fs
  writeFiles fs written
  return written

def size (name : String) (fallback : Nat) : IO Nat := do
  return ((← IO.getEnv name).bind String.toNat?).getD fallback

/-- Draws the app and types what comes in until a key quits or the input ends. A line of input is
typed without the line feed that ends it. -/
partial def play (env : Environment) (fs : Files) (app : App) : IO Unit := do
  IO.sleep 60
  let now ← clock
  let (polled, app) := app.poll now
  let mut fs ← recordCalls env fs polled.calls now
  let mut app := app
  let screen := View.draw app.practice now (← size "COLUMNS" 80) (← size "LINES" 24)
  IO.println screen.sequence
  let text ← (← IO.getStdin).getLine
  if text.isEmpty then return
  for c in text.toList.filter fun c => c ≠ '\n' do
    let now ← clock
    let r := app.handleKey (Key.ofTerminal c) now
    unless r.running do return
    app := r.app
    fs ← recordCalls env (← saveConfigs env fs r.saved) r.calls now
  play env fs app

def report (env : Environment) (run : CommandLine.Run) : IO Unit := do
  match run.outcome with
  | .exit _ output => IO.print output
  | .refused .help => IO.print CommandLine.usage
  | .refused .version => IO.println CommandLine.Refusal.version.message
  | .refused r => IO.eprintln r.message
  | .failed f => IO.eprintln ("error: " ++ f.message)
  | .noTerminal => IO.eprintln "error: stdin must be a tty"
  | .screen app => play env run.files app

def runWith (args : List String) : IO UInt32 := do
  let env ← environment
  let fs ← takeFiles args env
  let choice ← IO.rand 0 1000000007
  let run := CommandLine.run args env fs choice (← (← IO.getStdin).isTty)
  writeFiles fs run.files
  report env run
  return run.outcome.code.toUInt32

end TypingTrainer.Main

def main (args : List String) : IO UInt32 := TypingTrainer.Main.runWith args
