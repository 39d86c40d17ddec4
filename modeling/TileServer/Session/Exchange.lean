import TileServer.Session.Loop

namespace TileServer.Session

def exchange (session : Session) (name : String) (bytes : Bytes) : Session × Bytes :=
  let answered := ((session.connect name 0).write name bytes).settle
  ((answered.close name).settle.clearNews,
    ((answered.peer? name).map Peer.transcript).getD [])

end TileServer.Session
