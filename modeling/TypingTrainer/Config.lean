import TypingTrainer.Json.Decode
import TypingTrainer.Json.Value
import TypingTrainer.Language
import TypingTrainer.Preset
import TypingTrainer.Text.Utf8

namespace TypingTrainer

open Json

structure Config where
  preset : Preset := default
  language : Language := default
  deriving DecidableEq, Inhabited

namespace Config

def toJson (c : Config) : Value :=
  .obj [("preset", .str c.preset.name), ("language", .str c.language.name)]

def text (c : Config) : String := c.toJson.text .pretty

structure Draft where
  preset : Option Preset := none
  language : Option Language := none

def Draft.finish? (d : Draft) : Option Config := do return ⟨← d.preset, ← d.language⟩

def fields : List (RecordField Draft) := [
  .of "preset" (·.preset) (fun d x => { d with preset := some x }) (decodeName Preset.ofName?),
  .of "language" (·.language) (fun d x => { d with language := some x })
    (decodeName Language.ofName?)]

def decode : Decoder Config := decodeRecord fields {} Draft.finish?

def ofBytes? (bytes : Text.Bytes) : Option Config :=
  (decodeText decode (Text.decodeUtf8 bytes)).toOption

def load (stored : Option Text.Bytes) : Config := (stored.bind ofBytes?).getD {}

end Config

end TypingTrainer
