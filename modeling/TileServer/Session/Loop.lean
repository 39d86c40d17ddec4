import TileServer.Session.Basic

namespace TileServer.Session

def publishedPerRound : Nat := 128

def acceptedSocket (peer : Peer) : Socket :=
  { outlet := if peer.gone then .broken .brokenPipe else .buffered .fresh }

def busyListener? (session : Session) : Option Nat :=
  ((session.peers.filter (fun peer => !peer.accepted)).map Peer.listener).min?

def acceptAll (session : Session) (listener : Nat) : Wake × Session :=
  let isNew (peer : Peer) : Bool := !peer.accepted && peer.listener == listener
  (.accepted ((session.peers.filter isNew).map (fun peer => (peer.fd, acceptedSocket peer))),
    { session with
      peers := session.peers.map (fun peer =>
        if isNew peer then { peer with accepted := true } else peer) })

def readable? (session : Session) : Option (Client × Peer) :=
  session.server.registry.clients.findSome? (fun client =>
    (session.peers.find? (fun peer => peer.fd == client.fd && peer.isReadable)).map (client, ·))

def caller? (session : Session) : Option (Wake × Session) :=
  match session.busyListener? with
  | some listener => some (session.acceptAll listener)
  | none => match session.readable? with
    | some (client, peer) =>
      let limit := client.readLimit
      some (.client peer.fd (.ready false (some (peer.readAnswer limit))),
        session.modifyPeer peer.fd (fun peer => peer.wasRead limit))
    | none => none

/-- What ends the next wait, and the session without it; `none` if the loop would wait. -/
def wake? (session : Session) : Option (Wake × Session) :=
  let signalled := session.display.wakes || session.keyboard.wakes
  match session.published.select signalled session.caller? with
  | none => none
  | some .device => some (.device, session)
  | some (.published event published) => some (.published event, { session with published })
  | some (.caller (wake, rest)) => some (wake, rest)

def turn (session : Session) (wake : Wake) : Session :=
  { session with
    server := (session.server.turn
      ⟨session.display.events ++ session.keyboard.events, wake⟩).prepare
    display := session.display.drained
    keyboard := session.keyboard.drained }

def turns : Nat → Nat → Session → Session
  | 0, _, session => session
  | fuel + 1, credit, session => match session.wake? with
    | none => session
    | some (.published event, rest) =>
      if credit = 0 then session
      else turns fuel (credit - 1) (rest.turn (.published event))
    | some (wake, rest) => turns fuel credit (rest.turn wake)

/-- A bound on the turns that what waits can cause. One turn drains both devices, and each turn for a
connection accepts it, reads some of its bytes or reads that it has ended. -/
def workload (session : Session) : Nat :=
  session.published.waiting.length +
    session.peers.foldr (fun peer size => peer.waiting.size + 3 + size) 0 + 2

def isBusy (session : Session) : Bool :=
  session.wake?.isSome || session.peers.any (fun peer =>
    !peer.stalled && !peer.gone &&
      ((session.client? peer).any (fun client => client.socket.taken.length != peer.received)))

def rounds : Nat → Session → Session
  | 0, session => session
  | fuel + 1, session =>
    if session.isBusy then
      let received := (turns session.workload publishedPerRound session).receiveAll
      rounds fuel { received with server := received.server.prepare }
    else session

def backlog (session : Session) : Nat :=
  session.server.registry.clients.foldr (fun client size => client.pendingOutput + size) 0

def settleWithin : Nat → Session → Session
  | 0, session => session
  | fuel + 1, session =>
    if session.isBusy then settleWithin fuel (rounds (session.backlog + 1) session) else session

def settle (session : Session) : Session :=
  let ready := { session with server := session.server.prepare }
  settleWithin (ready.workload + 1) ready

def shutdown (session : Session) : Session :=
  { session with
    server := session.server.shutdown
    published := session.published.close
    listening := 0 }.receiveAll

end TileServer.Session
