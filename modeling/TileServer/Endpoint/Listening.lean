import TileServer.Endpoint.Activation

namespace TileServer

/-- A file system and the listeners that are live, the oldest first. -/
structure Listening where
  files : FileSystem
  live : List Listener
  deriving Repr, DecidableEq

namespace Listening

inductive Operation
  | bind (path : String)
  | inherit (descriptor : Int32) (use : Activation.Descriptor)
  | drop (place : Nat)
  deriving Repr, DecidableEq

def perform (listening : Listening) : Operation → Listening
  | .bind path => match Listener.bind listening.files path with
    | (files, .ok listener) => ⟨files, listening.live ++ [listener]⟩
    | (files, .error _) => { listening with files }
  | .inherit descriptor use => match Activation.adopt? descriptor use with
    | some adopted => { listening with live := listening.live ++ [adopted.listener] }
    | none => listening
  | .drop place => match listening.live[place]? with
    | some listener => ⟨listener.drop listening.files, listening.live.eraseIdx place⟩
    | none => listening

def run (listening : Listening) (operations : List Operation) : Listening :=
  operations.foldl perform listening

end Listening

end TileServer
