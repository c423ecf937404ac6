import TypingTrainer.Language
import TypingTrainer.Path

namespace TypingTrainer

/-- Which snippet is practised; the id is its key in the statistics. -/
structure SnippetInfo where
  path : Option String := none
  id : Option String := none
  language : Option Language := none
  deriving DecidableEq, Inhabited

namespace SnippetInfo

def embedded (l : Language) : SnippetInfo where
  id := some (l.name ++ "-default")
  language := some l

def ofPath (path : String) (l : Language) : SnippetInfo :=
  let stem := (Path.stem? path).getD ""
  let id := match Path.parentName? path with
    | some folder => folder ++ "-" ++ stem
    | none => stem
  { path := some path, id := some id, language := some l }

end SnippetInfo

end TypingTrainer
