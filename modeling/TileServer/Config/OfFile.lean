import TileServer.Config.OfDocument
import TileServer.Text.Utf8

namespace TileServer.Config

def ofFile (home : Option String) : Except OsError Bytes → Reading Config
  | .error error => .fail (.unreadable error)
  | .ok content => match Utf8.decodeString? content with
    | some text => ofText home text
    | none => .fail (.unreadable .notText)

def load (home : Option String) (path : String) : Except OsError Bytes → Reading Config
  | .error .noEntry => .warn (.noFile path) {}
  | content => ofFile home content

end TileServer.Config
