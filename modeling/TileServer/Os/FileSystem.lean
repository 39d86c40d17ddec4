import TileServer.Os.Error
import TileServer.Os.Path
import TileServer.Text.Utf8

namespace TileServer

inductive FileKind
  | file (content : Bytes)
  | directory
  | socket
  | dangling
  deriving Repr, DecidableEq

structure File where
  identity : Nat
  kind : FileKind
  deriving Repr, DecidableEq

structure FileEntry where
  parent : Nat
  name : String
  file : File
  deriving Repr, DecidableEq

/-- Files have no permissions, and symbolic links are those that lead nowhere. -/
structure FileSystem where
  entries : List FileEntry
  here : Nat
  made : Nat
  deriving Repr, DecidableEq

inductive Target
  | directory (identity : Nat)
  | child (parent : Nat) (name : String)
  deriving Repr, DecidableEq

namespace FileSystem

def maxName : Nat := 255

def maxPath : Nat := 4096

def maxSocketPath : Nat := 108

def root : Nat := 0

def child? (files : FileSystem) (parent : Nat) (name : String) : Option File :=
  (files.entries.find? (fun entry => entry.parent == parent && entry.name == name)).map
    FileEntry.file

def above (files : FileSystem) (directory : Nat) : Nat :=
  match files.entries.find? (fun entry => entry.file.identity == directory) with
  | some entry => entry.parent
  | none => root

def insert (files : FileSystem) (parent : Nat) (name : String) (kind : FileKind) : FileSystem :=
  { files with
    entries := ⟨parent, name, ⟨files.made, kind⟩⟩ :: files.entries
    made := files.made + 1 }

def empty (names : List String) : FileSystem :=
  names.foldl (fun files name => { files.insert files.here name .directory with here := files.made })
    ⟨[], root, root + 1⟩

def enter (files : FileSystem) (directory : Nat) (name : String) : Except OsError Nat :=
  if name = "." then .ok directory
  else if name = ".." then .ok (files.above directory)
  else if maxName < name.utf8ByteSize then .error .nameTooLong
  else match files.child? directory name with
    | none => .error .noEntry
    | some file => match file.kind with
      | .directory => .ok file.identity
      | .dangling => .error .noEntry
      | .file _ => .error .notDirectory
      | .socket => .error .notDirectory

def walk (files : FileSystem) (directory : Nat) : List String → Except OsError Target
  | [] => .ok (.directory directory)
  | [name] =>
    if name = "." || name = ".." then (files.enter directory name).map .directory
    else if maxName < name.utf8ByteSize then .error .nameTooLong
    else .ok (.child directory name)
  | name :: rest => do files.walk (← files.enter directory name) rest

def start (files : FileSystem) (path : String) : Nat :=
  if Path.isAbsolute path then root else files.here

def pathFault? (path : String) : Option OsError :=
  if path.toList.contains (Char.ofNat 0) then some .nameHoldsZero
  else if maxPath ≤ path.utf8ByteSize then some .nameTooLong
  else none

def target (files : FileSystem) (path : String) : Except OsError Target :=
  match pathFault? path with
  | some error => .error error
  | none =>
    if path.isEmpty then .error .noEntry
    else files.walk (files.start path) (Path.names path)

def lookup (files : FileSystem) (path : String) : Except OsError File := do
  match ← files.target path with
  | .directory identity => .ok ⟨identity, .directory⟩
  | .child parent name => match files.child? parent name with
    | none => .error .noEntry
    | some file =>
      if Path.isSlashed path then
        (files.enter parent name).map (fun identity => ⟨identity, .directory⟩)
      else .ok file

def contains (files : FileSystem) (path : String) : Bool :=
  match files.lookup path with
  | .ok _ => true
  | .error _ => false

/-- Enters directories one after another and creates those that are missing. What is no directory is
met as one to create, unless names follow it and none was missing: then it is one to enter. -/
def makeAlong (files : FileSystem) (making : Bool) (directory : Nat) :
    List String → FileSystem × Option OsError
  | [] => (files, none)
  | name :: rest => match files.enter directory name with
    | .ok next => files.makeAlong making next rest
    | .error .noEntry => match files.child? directory name with
      | none => (files.insert directory name .directory).makeAlong true files.made rest
      | some _ => (files, some .exists)
    | .error .notDirectory =>
      (files, some (if making || rest.isEmpty then .exists else .notDirectory))
    | .error error => (files, some error)

/-- Creates a directory and those above it that are missing. A directory that is there already will
do, and what was created stays if a later step fails. -/
def makeDirectories (files : FileSystem) (path : String) : FileSystem × Option OsError :=
  match pathFault? path with
  | some error => (files, some error)
  | none => files.makeAlong false (files.start path) (Path.names path)

def remove (files : FileSystem) (path : String) : Except OsError FileSystem := do
  match ← files.target path with
  | .directory _ => .error .isDirectory
  | .child parent name => match files.child? parent name with
    | none => .error .noEntry
    | some file =>
      if file.kind = .directory then .error .isDirectory
      else if Path.isSlashed path then .error .notDirectory
      else .ok { files with
        entries := files.entries.filter (fun entry => entry.file.identity != file.identity) }

def put (files : FileSystem) (path : String) (kind : FileKind) : Except OsError FileSystem := do
  match ← files.target path with
  | .directory _ => .error .exists
  | .child parent name =>
    if (files.child? parent name).isSome then .error .exists
    else if Path.isSlashed path then .error .noEntry
    else .ok (files.insert parent name kind)

def addressFault? (path : String) : Option OsError :=
  if path.toList.contains (Char.ofNat 0) then some .pathHoldsZero
  else if maxSocketPath ≤ path.utf8ByteSize then some .pathTooLong
  else none

/-- Makes the socket that a path names. The empty path names nothing here, where a system may find an
address of its own that is not in the file system. -/
def bindSocket (files : FileSystem) (path : String) : Except OsError FileSystem :=
  match addressFault? path with
  | some error => .error error
  | none => match files.put path .socket with
    | .error .exists => .error .addressInUse
    | result => result

def socketAt (files : FileSystem) (path : String) : Except OsError File :=
  match addressFault? path with
  | some error => .error error
  | none =>
    if path.isEmpty then .error .invalidArgument
    else match files.lookup path with
      | .error error => .error error
      | .ok file => match file.kind with
        | .socket => .ok file
        | .dangling => .error .noEntry
        | .file _ => .error .connectionRefused
        | .directory => .error .connectionRefused

def read (files : FileSystem) (path : String) : Except OsError Bytes := do
  let file ← files.lookup path
  match file.kind with
  | .file content => .ok content
  | .directory => .error .isDirectory
  | .dangling => .error .noEntry
  | .socket => .error .noDevice

end FileSystem

end TileServer
