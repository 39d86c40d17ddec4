import TileServer.Os.Error
import TileServer.Wire.Frame

namespace TileServer

inductive ProtocolError
  | frame (error : Wire.FrameError)
  | notText (fault : Utf8.Fault)
  | connectionFailed (path : String) (error : OsError)
  | connectionClosed
  | unexpectedReply (expected actual : UInt32)
  | notJson
  | io (error : OsError)
  deriving Repr, DecidableEq

def ProtocolError.message : ProtocolError → String
  | .frame error => error.message
  | .notText fault => "Message payload is not valid UTF-8: " ++ fault.message
  | .connectionFailed path error =>
    "Failed to connect to IPC socket at " ++ path ++ ": " ++ error.message
  | .connectionClosed => "Connection closed by peer"
  | .unexpectedReply expected actual =>
    "Received reply of type " ++ toString actual.toNat ++ " but expected " ++ toString expected.toNat
  | .notJson => "Failed to deserialize payload"
  | .io error => "IPC I/O error: " ++ error.message

def Wire.Message.text (message : Wire.Message) : Except ProtocolError String :=
  match Utf8.decode message.payload with
  | .ok text => .ok (String.ofList text)
  | .error fault => .error (.notText fault)

end TileServer
