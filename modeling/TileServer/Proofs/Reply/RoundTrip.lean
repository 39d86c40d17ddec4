import TileServer.Proofs.Json.Fields
import TileServer.Reply.Format

namespace TileServer

open Json

theorem insertEntry_last {key value : String} {entries : List (String × String)}
    (above : ∀ entry ∈ entries, entry.1 < key) :
    insertEntry key value entries = entries ++ [(key, value)] := by
  induction entries with
  | nil => rfl
  | cons first rest ih =>
    obtain ⟨below, others⟩ := List.forall_mem_cons.1 above
    have different : key ≠ first.1 := fun same => String.lt_irrefl _ (same ▸ below)
    rw [insertEntry, if_neg (String.lt_asymm below), if_neg different, ih others, List.cons_append]

namespace StringMap

theorem entries_insertAll (map : StringMap) {entries : List (String × String)}
    (ascending : (map.entries ++ entries).Pairwise (fun a b => a.1 < b.1)) :
    (entries.foldl (fun map entry => map.insert entry.1 entry.2) map).entries =
      map.entries ++ entries := by
  induction entries generalizing map with
  | nil => exact (List.append_nil _).symm
  | cons entry entries ih =>
    have inserted : (map.insert entry.1 entry.2).entries = map.entries ++ [entry] :=
      insertEntry_last (fun other member =>
        (List.pairwise_append.1 ascending).2.2 other member entry List.mem_cons_self)
    rw [List.foldl_cons, ih, inserted, List.append_assoc]
    · rfl
    · rw [inserted, List.append_assoc]
      exact ascending

theorem ofList_entries (map : StringMap) : ofList map.entries = map := by
  have entries : (ofList map.entries).entries = map.entries :=
    entries_insertAll empty map.ascending
  obtain ⟨_, _⟩ := map
  exact (StringMap.mk.injEq ..).mpr entries

theorem faithful : Faithful StringMap.toJson StringMap.ofJson? where
  plain map := by
    refine .obj (fun field member => ?_)
    obtain ⟨entry, _, rfl⟩ := List.mem_map.1 member
    exact .str entry.2
  back map := by
    have entries : (map.entries.map (fun entry => (entry.1, Json.str entry.2))).mapM
        (fun field => (asString? field.2).map (fun value => (field.1, value))) = some map.entries :=
      mapM_map (fun _ _ => rfl)
    have read : ofJson? map.toJson = (some map.entries).bind (fun entries => some (ofList entries)) :=
      congrArg (fun read => Option.bind read (fun entries => some (ofList entries))) entries
    rw [read, Option.bind_some, map.ofList_entries]

end StringMap

theorem Json.str_ne_null (text : String) : Json.str text ≠ .null := by
  simp

theorem Json.ofInt32_ne_null (value : Int32) : ofInt32 value ≠ .null := by
  simp [ofInt32]

theorem faithful_strings : Faithful stringsJson stringsOfJson? :=
  faithful_str.list

def Rect.slots (rect : Rect) : List (String × Option Json) :=
  [("x", some (ofInt32 rect.x)), ("y", some (ofInt32 rect.y)),
    ("width", some (ofUInt32 rect.width)), ("height", some (ofUInt32 rect.height))]

theorem Rect.faithful : Faithful Rect.toJson Rect.ofJson? := by
  refine .of_slots slots ["x", "y", "width", "height"] 0 (fun _ => rfl) (fun _ => rfl) (by decide)
    (fun rect => ?_) (fun rect found => ?_)
  · simp [slots, faithful_int32.plain, faithful_uint32.plain]
  · unfold ofJson?
    rw [found]
    simp only [slots, List.map_cons, List.map_nil, required?, faithful_int32.back,
      faithful_uint32.back]
    rfl

def WorkspaceReply.slots (workspace : WorkspaceReply) : List (String × Option Json) :=
  [("num", some (orNull ofInt32 workspace.num)), ("name", some (.str workspace.name)),
    ("visible", some (.bool workspace.visible)), ("focused", some (.bool workspace.focused)),
    ("rect", some workspace.rect.toJson), ("output", some (.str workspace.output)),
    ("urgent", some (.bool workspace.urgent))]

theorem WorkspaceReply.faithful : Faithful WorkspaceReply.toJson WorkspaceReply.ofJson? := by
  refine .of_slots slots ["num", "name", "visible", "focused", "rect", "output", "urgent"] 0
    (fun _ => rfl) (fun _ => rfl) (by decide) (fun workspace => ?_) (fun workspace found => ?_)
  · simp [slots, faithful_int32.plain_orNull, faithful_str.plain, faithful_bool.plain,
      Rect.faithful.plain]
  · unfold ofJson?
    rw [found]
    simp only [slots, List.map_cons, List.map_nil, required?, faithful_str.back, faithful_bool.back,
      Rect.faithful.back, faithful_int32.optional?_orNull ofInt32_ne_null]
    rfl

def OutputReply.slots (output : OutputReply) : List (String × Option Json) :=
  [("name", some (.str output.name)), ("active", some (.bool output.active)),
    ("primary", some (.bool output.primary)), ("rect", some output.rect.toJson),
    ("current_workspace", some (orNull .str output.currentWorkspace))]

theorem OutputReply.faithful : Faithful OutputReply.toJson OutputReply.ofJson? := by
  refine .of_slots slots ["name", "active", "primary", "rect", "current_workspace"] 0
    (fun _ => rfl) (fun _ => rfl) (by decide) (fun output => ?_) (fun output found => ?_)
  · simp [slots, faithful_str.plain_orNull, faithful_str.plain, faithful_bool.plain,
      Rect.faithful.plain]
  · unfold ofJson?
    rw [found]
    simp only [slots, List.map_cons, List.map_nil, required?, faithful_str.back, faithful_bool.back,
      Rect.faithful.back, faithful_str.optional?_orNull str_ne_null]
    rfl

def VersionReply.slots (version : VersionReply) : List (String × Option Json) :=
  [("major", some (ofUInt32 version.major)), ("minor", some (ofUInt32 version.minor)),
    ("patch", some (ofUInt32 version.patch)), ("human_readable", some (.str version.humanReadable))]

theorem VersionReply.faithful : Faithful VersionReply.toJson VersionReply.ofJson? := by
  refine .of_slots slots ["major", "minor", "patch", "human_readable"] 0 (fun _ => rfl)
    (fun _ => rfl) (by decide) (fun version => ?_) (fun version found => ?_)
  · simp [slots, faithful_uint32.plain, faithful_str.plain]
  · unfold ofJson?
    rw [found]
    simp only [slots, List.map_cons, List.map_nil, required?, faithful_uint32.back, faithful_str.back]
    rfl

theorem SuccessReply.faithful : Faithful SuccessReply.toJson SuccessReply.ofJson? where
  plain reply := .obj (by simp [faithful_bool.plain])
  back _ := rfl

def CommandReply.slots (reply : CommandReply) : List (String × Option Json) :=
  [("success", some (.bool reply.success)), ("error", reply.error.map .str)]

theorem CommandReply.toJson_eq (reply : CommandReply) : reply.toJson = .obj (present reply.slots) := by
  simp [toJson, slots]

theorem CommandReply.faithful : Faithful CommandReply.toJson CommandReply.ofJson? := by
  refine .of_slots slots ["success", "error"] 1 toJson_eq (fun _ => rfl) (by decide)
    (fun reply => ?_) (fun reply found => ?_)
  · simp [slots, faithful_bool.plain, faithful_str.plain]
  · unfold ofJson?
    rw [found]
    simp only [slots, List.map_cons, List.map_nil, required?, faithful_bool.back,
      faithful_str.optional? str_ne_null]
    rfl

def BarReply.slots (bar : BarReply) : List (String × Option Json) :=
  [("id", some (.str bar.id)),
    ("outputs", (if bar.outputs.isEmpty then none else some bar.outputs).map stringsJson),
    ("tray_output", bar.trayOutput.map .str), ("socket_path", bar.socketPath.map .str),
    ("mode", some (.str bar.mode)), ("hidden_state", some (.str bar.hiddenState)),
    ("modifier", some (.str bar.modifier)), ("position", some (.str bar.position)),
    ("status_command", bar.statusCommand.map .str), ("font", bar.font.map .str),
    ("workspace_buttons", some (.bool bar.workspaceButtons)),
    ("binding_mode_indicator", some (.bool bar.bindingModeIndicator)),
    ("verbose", some (.bool bar.verbose)), ("colors", some bar.colors.toJson)]

theorem BarReply.toJson_eq (bar : BarReply) : bar.toJson = .obj (present bar.slots) := by
  simp [toJson, slots]

theorem BarReply.outputs_back (outputs : List String) :
    orElse? [] stringsOfJson?
      ((if outputs.isEmpty then none else some outputs).map stringsJson) = some outputs := by
  cases outputs with
  | nil => rfl
  | cons output outputs => exact faithful_strings.back (output :: outputs)

theorem BarReply.faithful : Faithful BarReply.toJson BarReply.ofJson? := by
  refine .of_slots slots fieldNames 0 toJson_eq (fun _ => rfl) (by decide) (fun bar => ?_)
    (fun bar found => ?_)
  · simp [slots, faithful_str.plain, faithful_bool.plain, faithful_strings.plain,
      StringMap.faithful.plain]
  · unfold ofJson?
    rw [found]
    simp only [slots, List.map_cons, List.map_nil, required?, faithful_str.back, faithful_bool.back,
      StringMap.faithful.back, faithful_str.optional? str_ne_null, outputs_back]
    rfl

end TileServer
