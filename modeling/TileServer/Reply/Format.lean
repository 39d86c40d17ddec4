import TileServer.Json.Record
import TileServer.Reply.Basic

namespace TileServer

open Json

def Rect.toJson (rect : Rect) : Json :=
  .obj [("x", ofInt32 rect.x), ("y", ofInt32 rect.y), ("width", ofUInt32 rect.width),
    ("height", ofUInt32 rect.height)]

def Rect.ofJson? (json : Json) : Option Rect :=
  match slots? ["x", "y", "width", "height"] 0 json with
  | some [x, y, width, height] => do
    return {
      x := ← required? asInt32? x
      y := ← required? asInt32? y
      width := ← required? asUInt32? width
      height := ← required? asUInt32? height }
  | _ => none

def WorkspaceReply.toJson (workspace : WorkspaceReply) : Json :=
  .obj [("num", orNull ofInt32 workspace.num), ("name", .str workspace.name),
    ("visible", .bool workspace.visible), ("focused", .bool workspace.focused),
    ("rect", workspace.rect.toJson), ("output", .str workspace.output),
    ("urgent", .bool workspace.urgent)]

def WorkspaceReply.ofJson? (json : Json) : Option WorkspaceReply :=
  match slots? ["num", "name", "visible", "focused", "rect", "output", "urgent"] 0 json with
  | some [num, name, visible, focused, rect, output, urgent] => do
    return {
      num := ← optional? asInt32? num
      name := ← required? asString? name
      visible := ← required? asBool? visible
      focused := ← required? asBool? focused
      rect := ← required? Rect.ofJson? rect
      output := ← required? asString? output
      urgent := ← required? asBool? urgent }
  | _ => none

def OutputReply.toJson (output : OutputReply) : Json :=
  .obj [("name", .str output.name), ("active", .bool output.active),
    ("primary", .bool output.primary), ("rect", output.rect.toJson),
    ("current_workspace", orNull .str output.currentWorkspace)]

def OutputReply.ofJson? (json : Json) : Option OutputReply :=
  match slots? ["name", "active", "primary", "rect", "current_workspace"] 0 json with
  | some [name, active, primary, rect, currentWorkspace] => do
    return {
      name := ← required? asString? name
      active := ← required? asBool? active
      primary := ← required? asBool? primary
      rect := ← required? Rect.ofJson? rect
      currentWorkspace := ← optional? asString? currentWorkspace }
  | _ => none

def VersionReply.toJson (version : VersionReply) : Json :=
  .obj [("major", ofUInt32 version.major), ("minor", ofUInt32 version.minor),
    ("patch", ofUInt32 version.patch), ("human_readable", .str version.humanReadable)]

def VersionReply.ofJson? (json : Json) : Option VersionReply :=
  match slots? ["major", "minor", "patch", "human_readable"] 0 json with
  | some [major, minor, patch, humanReadable] => do
    return {
      major := ← required? asUInt32? major
      minor := ← required? asUInt32? minor
      patch := ← required? asUInt32? patch
      humanReadable := ← required? asString? humanReadable }
  | _ => none

def SuccessReply.toJson (reply : SuccessReply) : Json :=
  .obj [("success", .bool reply.success)]

def SuccessReply.ofJson? (json : Json) : Option SuccessReply :=
  match slots? ["success"] 0 json with
  | some [success] => do
    return { success := ← required? asBool? success }
  | _ => none

def CommandReply.toJson (reply : CommandReply) : Json :=
  .obj (("success", .bool reply.success) :: field? "error" .str reply.error)

def CommandReply.ofJson? (json : Json) : Option CommandReply :=
  match slots? ["success", "error"] 1 json with
  | some [success, error] => do
    return {
      success := ← required? asBool? success
      error := ← optional? asString? error }
  | _ => none

def stringsJson (items : List String) : Json :=
  .arr (items.map .str)

def stringsOfJson? : Json → Option (List String) :=
  asList? asString?

def StringMap.ofJson? : Json → Option StringMap
  | .obj fields => do
    let entries ← fields.mapM (fun field => (asString? field.2).map (fun value => (field.1, value)))
    return StringMap.ofList entries
  | _ => none

def StringMap.toJson (map : StringMap) : Json :=
  .obj (map.entries.map (fun entry => (entry.1, .str entry.2)))

def BarReply.toJson (bar : BarReply) : Json :=
  .obj
    ([("id", .str bar.id)] ++
      field? "outputs" stringsJson (if bar.outputs.isEmpty then none else some bar.outputs) ++
      field? "tray_output" .str bar.trayOutput ++ field? "socket_path" .str bar.socketPath ++
      [("mode", .str bar.mode), ("hidden_state", .str bar.hiddenState),
        ("modifier", .str bar.modifier), ("position", .str bar.position)] ++
      field? "status_command" .str bar.statusCommand ++ field? "font" .str bar.font ++
      [("workspace_buttons", .bool bar.workspaceButtons),
        ("binding_mode_indicator", .bool bar.bindingModeIndicator), ("verbose", .bool bar.verbose),
        ("colors", bar.colors.toJson)])

def BarReply.fieldNames : List String :=
  ["id", "outputs", "tray_output", "socket_path", "mode", "hidden_state", "modifier", "position",
    "status_command", "font", "workspace_buttons", "binding_mode_indicator", "verbose", "colors"]

def BarReply.ofJson? (json : Json) : Option BarReply :=
  match slots? BarReply.fieldNames 0 json with
  | some [id, outputs, trayOutput, socketPath, mode, hiddenState, modifier, position, statusCommand,
      font, workspaceButtons, bindingModeIndicator, verbose, colors] => do
    return {
      id := ← required? asString? id
      outputs := ← orElse? [] stringsOfJson? outputs
      trayOutput := ← optional? asString? trayOutput
      socketPath := ← optional? asString? socketPath
      mode := ← required? asString? mode
      hiddenState := ← required? asString? hiddenState
      modifier := ← required? asString? modifier
      position := ← required? asString? position
      statusCommand := ← optional? asString? statusCommand
      font := ← optional? asString? font
      workspaceButtons := ← required? asBool? workspaceButtons
      bindingModeIndicator := ← required? asBool? bindingModeIndicator
      verbose := ← required? asBool? verbose
      colors := ← required? StringMap.ofJson? colors }
  | _ => none

end TileServer
