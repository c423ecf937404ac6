import TypingTrainer.Path
import TypingTrainer.SortedMap
import TypingTrainer.Stats.Table
import TypingTrainer.Text.Utf8

namespace TypingTrainer

inductive Content
  | bytes (b : Text.Bytes)
  | table (t : Stats.Table)

inductive Entry
  | folder
  | file (c : Content)

inductive FileFault
  | notFound
  | isFolder
  | notFolder
  | alreadyExists
  | invalidText
  deriving DecidableEq

/-- Folders and files by the names on the way to them from the root, and the folder in which
relative paths begin. -/
structure Files where
  entries : SortedMap (List String) Entry
  current : List String

namespace Files

def isFolder (fs : Files) (place : List String) : Bool :=
  place.isEmpty ||
    match fs.entries.get? place with
    | some .folder => true
    | _ => false

def set (fs : Files) (place : List String) (e : Entry) : Files :=
  { fs with entries := fs.entries.insert place e }

def remove (fs : Files) (place : List String) : Files :=
  { fs with entries := fs.entries.erase place }

def enter (fs : Files) (place : List String) (c : Path.Component) :
    Except FileFault (List String) :=
  if fs.isFolder place then
    .ok (match c with
      | .root => []
      | .here => place
      | .up => place.dropLast
      | .name n => place ++ [n])
  else
    match fs.entries.get? place with
    | none => .error .notFound
    | some _ => .error .notFolder

/-- The place that a path leads to, step by step. Its last name need not exist. -/
def resolve (fs : Files) (path : String) : Except FileFault (List String) :=
  if path = "" then .error .notFound else (Path.steps path).foldlM fs.enter fs.current

def read (fs : Files) (path : String) : Except FileFault Content := do
  let place ← fs.resolve path
  if fs.isFolder place then throw .isFolder
  match fs.entries.get? place with
  | some (.file c) => if Path.endsInSlash path then throw .notFolder else return c
  | _ => throw .notFound

def readBytes (fs : Files) (path : String) : Except FileFault Text.Bytes := do
  match ← fs.read path with
  | .bytes b => return b
  | .table _ => throw .invalidText

def readText (fs : Files) (path : String) : Except FileFault String := do
  match Text.ofUtf8? (← fs.readBytes path) with
  | some s => return s
  | none => throw .invalidText

def openFile (fs : Files) (path : String) : Except FileFault (List String) := do
  let place ← fs.resolve path
  if fs.isFolder place || Path.endsInSlash path then throw .isFolder
  return place

def write (fs : Files) (path : String) (c : Content) : Except FileFault Files := do
  return fs.set (← fs.openFile path) (.file c)

def append (fs : Files) (path : String) : Except FileFault Files := do
  let place ← fs.openFile path
  match fs.entries.get? place with
  | some _ => return fs
  | none => return fs.set place (.file (.bytes []))

def makeFolder (state : Files × List String) (c : Path.Component) :
    Except FileFault (Files × List String) := do
  let (fs, place) := state
  let next ← fs.enter place c
  if fs.isFolder next then return (fs, next)
  else
    match fs.entries.get? next with
    | none => return (fs.set next .folder, next)
    | some _ => return (fs, next)

def makeFoldersAt (fs : Files) (components : List Path.Component) : Except FileFault Files := do
  let (fs, place) ← components.foldlM makeFolder (fs, fs.current)
  if fs.isFolder place then return fs else throw .alreadyExists

def makeParents (fs : Files) (path : String) : Except FileFault Files :=
  match Path.parentOf? (Path.components path) with
  | some parent => fs.makeFoldersAt parent
  | none => .ok fs

def filesBelow (fs : Files) (place : List String) : List (List String) :=
  fs.entries.entries.filterMap fun (p, e) =>
    match e with
    | .folder => none
    | .file _ =>
      if place.isPrefixOf p && place.length < p.length then some (p.drop place.length) else none

def list (fs : Files) (path : String) : Except FileFault (List String) := do
  let place ← fs.resolve path
  if fs.isFolder place then return (fs.filesBelow place).map fun names => names.foldl Path.join path
  else
    match fs.entries.get? place with
    | none => throw .notFound
    | some _ => throw .notFolder

end Files

end TypingTrainer
