import TileServer.Config.Basic
import TileServer.Config.Diagnostic
import TileServer.Kdl.Reader
import TileServer.Os.Path

namespace TileServer

open Kdl (Node)

def readInt32? (value : Int) : Option Int32 :=
  if -2147483648 ≤ value ∧ value ≤ 2147483647 then some (Int32.ofInt value) else none

def readExtent? (value : Int) : Option UInt32 :=
  if 0 < value ∧ value ≤ 4294967295 then some (UInt32.ofNat value.toNat) else none

def readSize (node : Node) : Reading Nat := do
  let value ← Reading.require (.setting node.name) node.firstInt?
  Reading.check (.notPositive node.name value) (if 0 < value then some value.toNat else none)

def readKeyword (α : Type) [Keyword α] (bar : String) (node : Node) : Reading α := do
  let text ← Reading.require (.barSetting bar node.name) node.firstString?
  Reading.check (.keyword bar (Keyword.title α) text) (Keyword.ofWord? α text)

namespace GlobalConfig

def readOption (home : Option String) (config : GlobalConfig) (node : Node) :
    Reading GlobalConfig :=
  match node.name with
  | "log-level" => match node.firstString? with
    | none => pure config
    | some text => do
      let logLevel ← Reading.check (.logLevel text) (LogLevel.ofWord? text)
      return { config with logLevel }
  | "ipc-socket-path" => match node.firstString? with
    | none => pure config
    | some text => pure { config with socketPath := some (Path.expandTilde home text) }
  | "max-message-size" => do
    let maxMessageSize ← readSize node
    return { config with maxMessageSize }
  | "max-client-backlog" => do
    let maxClientBacklog ← readSize node
    return { config with maxClientBacklog }
  | name => .warn (.globalOption name) config

def read (home : Option String) (node : Node) : Reading GlobalConfig :=
  node.children.foldlM (readOption home) {}

end GlobalConfig

namespace OutputConfig

def readRect (output : OutputConfig) (node : Node) : Reading OutputConfig :=
  match node.arguments.filterMap Kdl.Value.asInt? with
  | [x, y, width, height] => do
    let x ← Reading.check (.coordinate output.name x) (readInt32? x)
    let y ← Reading.check (.coordinate output.name y) (readInt32? y)
    let width ← Reading.check (.extent output.name width) (readExtent? width)
    let height ← Reading.check (.extent output.name height) (readExtent? height)
    return { output with x, y, width, height }
  | _ => .fail (.invalid (.rectShape output.name))

def readOption (output : OutputConfig) (node : Node) : Reading OutputConfig :=
  match node.name with
  | "rect" => output.readRect node
  | "primary" => pure { output with primary := node.isSet }
  | name => .warn (.outputOption name) output

def read (node : Node) : Reading OutputConfig := do
  let name ← Reading.require .outputName node.firstString?
  node.children.foldlM readOption { name }

end OutputConfig

namespace WorkspaceConfig

def readOption (workspace : WorkspaceConfig) (node : Node) : Reading WorkspaceConfig :=
  match node.name with
  | "output" => pure { workspace with output := node.firstString? }
  | name => .warn (.workspaceOption name) workspace

def read (node : Node) : Reading WorkspaceConfig := do
  let name ← Reading.require .workspaceName node.firstString?
  node.children.foldlM readOption { name }

end WorkspaceConfig

namespace BarConfig

def colorKey (name : String) : String :=
  String.ofList (name.toList.map (fun c => if c = '-' then '_' else c))

def readColor (bar : BarConfig) (node : Node) : Reading BarConfig :=
  let key := colorKey node.name
  if barColorKeys.contains key then
    match node.firstString? with
    | some color => pure { bar with colors := bar.colors.insert key color }
    | none => pure bar
  else .warn (.barColor key bar.id) bar

def readOption (bar : BarConfig) (node : Node) : Reading BarConfig :=
  match node.name with
  | "output" =>
    pure { bar with outputs := bar.outputs ++ node.arguments.filterMap Kdl.Value.asString? }
  | "tray-output" => pure { bar with trayOutput := node.firstString? }
  | "socket-path" => pure { bar with socketPath := node.firstString? }
  | "mode" => do
    let mode ← readKeyword BarMode bar.id node
    return { bar with mode }
  | "hidden-state" => do
    let hiddenState ← readKeyword HiddenState bar.id node
    return { bar with hiddenState }
  | "modifier" => do
    let modifier ← readKeyword Modifier bar.id node
    return { bar with modifier }
  | "position" => do
    let position ← readKeyword BarPosition bar.id node
    return { bar with position }
  | "status-command" => pure { bar with statusCommand := node.firstString? }
  | "font" => pure { bar with font := node.firstString? }
  | "workspace-buttons" => pure { bar with workspaceButtons := node.isSet }
  | "binding-mode-indicator" => pure { bar with bindingModeIndicator := node.isSet }
  | "verbose" => pure { bar with verbose := node.isSet }
  | "colors" => node.children.foldlM readColor bar
  | name => .warn (.barOption name) bar

/-- A bar. Without an id of its own it is named by its place among the bars. -/
def read (index : Nat) (node : Node) : Reading BarConfig :=
  node.children.foldlM readOption { id := node.firstString?.getD ("bar-" ++ toString index) }

end BarConfig

namespace Config

inductive Section
  | global (settings : GlobalConfig)
  | output (output : OutputConfig)
  | workspace (workspace : WorkspaceConfig)
  | bar (bar : BarConfig)
  | unknown
  deriving Repr, DecidableEq

namespace Section

def global? : Section → Option GlobalConfig
  | global read => some read
  | _ => none

def output? : Section → Option OutputConfig
  | output read => some read
  | _ => none

def workspace? : Section → Option WorkspaceConfig
  | workspace read => some read
  | _ => none

def bar? : Section → Option BarConfig
  | bar read => some read
  | _ => none

end Section

def readSection (home : Option String) (bars : Nat) (node : Node) : Reading Section :=
  match node.name with
  | "global" => Section.global <$> GlobalConfig.read home node
  | "output" => Section.output <$> OutputConfig.read node
  | "workspace" => Section.workspace <$> WorkspaceConfig.read node
  | "bar" => Section.bar <$> BarConfig.read bars node
  | name => .warn (.topLevel name) .unknown

def readSections (home : Option String) (bars : Nat) : List Node → Reading (List Section)
  | [] => pure []
  | node :: rest => do
    let first ← readSection home bars node
    (first :: ·) <$> readSections home (if node.name = "bar" then bars + 1 else bars) rest

/-- The configuration that sections make up. Of several global sections the last counts. -/
def ofSections (sections : List Section) : Config where
  global := (sections.filterMap Section.global?).getLast?.getD {}
  outputs := sections.filterMap Section.output?
  workspaces := sections.filterMap Section.workspace?
  bars := sections.filterMap Section.bar?

def duplicate? (seen : List String) : List String → Option String
  | [] => none
  | id :: rest => if seen.contains id then some id else duplicate? (id :: seen) rest

def stray? (outputs : List String) : List WorkspaceConfig → Option (String × String)
  | [] => none
  | workspace :: rest => match workspace.output with
    | some output =>
      if outputs.contains output then stray? outputs rest else some (workspace.name, output)
    | none => stray? outputs rest

/-- What no single node shows: bar ids are distinct, and workspaces are on outputs there are. -/
def validate (config : Config) : Reading Config :=
  match duplicate? [] (config.bars.map BarConfig.id) with
  | some id => .fail (.invalid (.duplicateBar id))
  | none => match stray? (config.outputs.map OutputConfig.name) config.workspaces with
    | some (workspace, output) => .fail (.invalid (.unknownOutput workspace output))
    | none => pure config

def ofDocument (home : Option String) (document : List Node) : Reading Config := do
  let sections ← readSections home 0 document
  (ofSections sections).validate

def ofText (home : Option String) (text : String) : Reading Config :=
  match Kdl.read? text.toList with
  | some document => ofDocument home document
  | none => .fail .notKdl

end Config

end TileServer
