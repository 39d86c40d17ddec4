import TileServer.Os.FileSystem

namespace TileServer

inductive Origin
  | bound (path : String)
  | inherited
  deriving Repr, DecidableEq

/-- A listening socket, by the identity of its file. -/
structure Listener where
  socket : Nat
  origin : Origin
  deriving Repr, DecidableEq

inductive BindStep
  | createDirectory (path : String)
  | removeStale (path : String)
  | createSocket (path : String)
  deriving Repr, DecidableEq

def BindStep.message : BindStep → String
  | .createDirectory path => "Failed to create socket directory " ++ path
  | .removeStale path => "Failed to remove stale socket file: " ++ path
  | .createSocket path => "Failed to create IPC socket at " ++ path

structure BindError where
  step : BindStep
  cause : OsError
  deriving Repr, DecidableEq

def BindError.message (error : BindError) : String :=
  error.step.message ++ ": " ++ error.cause.message

namespace Listener

def path? (listener : Listener) : Option String :=
  match listener.origin with
  | .bound path => some path
  | .inherited => none

def makeRoom (files : FileSystem) (path : String) : FileSystem × Option BindError :=
  match (Path.parent? path).filter (fun parent => !parent.isEmpty) with
  | none => (files, none)
  | some parent =>
    let (files, cause) := files.makeDirectories parent
    (files, cause.map (fun cause => ⟨.createDirectory parent, cause⟩))

def clear (files : FileSystem) (path : String) : FileSystem × Option BindError :=
  if files.contains path then
    match files.remove path with
    | .ok cleared => (cleared, none)
    | .error cause => (files, some ⟨.removeStale path, cause⟩)
  else (files, none)

/-- Creates a socket at a path: makes its directory, removes what is there, and then binds. A step
that fails ends the attempt, and what was done before it stays done. -/
def bind (files : FileSystem) (path : String) : FileSystem × Except BindError Listener :=
  match makeRoom files path with
  | (files, some error) => (files, .error error)
  | (files, none) => match clear files path with
    | (files, some error) => (files, .error error)
    | (files, none) => match files.bindSocket path with
      | .error cause => (files, .error ⟨.createSocket path, cause⟩)
      | .ok bound => (bound, .ok ⟨files.made, .bound path⟩)

def drop (files : FileSystem) (listener : Listener) : FileSystem :=
  match listener.origin with
  | .inherited => files
  | .bound path => match files.remove path with
    | .ok removed => removed
    | .error _ => files

def isReachedBy (listener : Listener) (files : FileSystem) (path : String) : Bool :=
  match files.socketAt path with
  | .ok file => file.identity == listener.socket
  | .error _ => false

end Listener

end TileServer
