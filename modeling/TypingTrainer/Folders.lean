import TypingTrainer.Path

namespace TypingTrainer

structure Environment where
  home : Option String
  configHome : Option String
  dataHome : Option String
  accountHome : Option String

namespace Environment

def appName : String := "treetype"

def configKey : String := "treetype_config"

def nonempty (s : String) : Option String := if s = "" then none else some s

def baseHome (e : Environment) : Option String := (e.home.bind nonempty).or e.accountHome

def conventional (e : Environment) (set : Option String) (inHome : List String) : Option String :=
  e.baseHome.map fun home =>
    Path.join ((set.filter Path.isAbsolute).getD (inHome.foldl Path.join home)) appName

def stateFolder (e : Environment) : Option String :=
  match e.home with
  | some home => some ([".local", "state", appName].foldl Path.join home)
  | none => e.conventional e.dataHome [".local", "share"]

def configFolder (e : Environment) : Option String := e.conventional e.configHome [".config"]

def statsPath? (e : Environment) : Option String := e.stateFolder.map (Path.join · "stats.db")

def logPath? (e : Environment) : Option String := e.stateFolder.map (Path.join · "treetype.log")

def statsPath (e : Environment) : String := e.statsPath?.getD "treetype_stats.db"

def configPath (e : Environment) : String :=
  (e.configFolder.map (Path.join · (configKey ++ ".json"))).getD (configKey ++ ".json")

end Environment

end TypingTrainer
