import TileServer.Proofs.Config.Accepted
import TileServer.Proofs.Layout.Places

namespace TileServer.Layout

/-- Whether the output at a place is the one that is meant: the first of a name, or without a name the
first of all. -/
def IsMeant (outputs : List String) (name : Option String) (place : Nat) : Prop :=
  match name with
  | none => place = 0
  | some name => outputs[place]? = some name ∧ ∀ before < place, outputs[before]? ≠ some name

/-- A layout with the outputs of a configuration, or a single one where there are none, and with its
workspaces in front of all others. -/
structure LaysOut (layout : Layout) (config : Config) : Prop where
  outputs : layout.outputs.map Output.name =
    if config.outputs = [] then ["headless-0"] else config.outputs.map OutputConfig.name
  workspaces : ∀ (index : Nat) (workspace : WorkspaceConfig),
    config.workspaces[index]? = some workspace →
      ∃ placed, layout.workspaces[index]? = some placed ∧ placed.name = workspace.name ∧
        IsMeant (layout.outputs.map Output.name) workspace.output placed.output
  found : ∀ workspace ∈ config.workspaces, ∀ name, workspace.output = some name →
    (outputsOf config.outputs).findIdx? (fun output => output.name == name) ≠ none

theorem names_outputsOf (outputs : List OutputConfig) :
    (outputsOf outputs).map Output.name =
      if outputs = [] then ["headless-0"] else outputs.map OutputConfig.name := by
  cases outputs with
  | nil => rfl
  | cons output outputs =>
    rw [if_neg (List.cons_ne_nil _ _)]
    change ((output :: outputs).map outputOf).map Output.name = _
    rw [List.map_map]
    rfl

theorem mem_names_outputsOf {outputs : List OutputConfig} {name : String}
    (member : name ∈ outputs.map OutputConfig.name) : name ∈ (outputsOf outputs).map Output.name := by
  have nonempty : outputs ≠ [] := by
    rintro rfl
    cases member
  rw [names_outputsOf, if_neg nonempty]
  exact member

theorem exists_findIdx? {outputs : List Output} {name : String}
    (member : name ∈ outputs.map Output.name) :
    ∃ index, outputs.findIdx? (fun output => output.name == name) = some index := by
  obtain ⟨output, there, rfl⟩ := List.mem_map.1 member
  apply Option.isSome_iff_exists.1
  rw [List.findIdx?_isSome, List.any_eq_true]
  exact ⟨output, there, beq_self_eq_true _⟩

theorem isMeant_place {outputs : List Output} {workspace : WorkspaceConfig}
    (known : ∀ name, workspace.output = some name → name ∈ outputs.map Output.name) :
    IsMeant (outputs.map Output.name) workspace.output (place outputs workspace).output := by
  cases assigned : workspace.output with
  | none =>
    change (place outputs workspace).output = 0
    rw [place, assigned]
    rfl
  | some name =>
    obtain ⟨index, found⟩ := exists_findIdx? (known name assigned)
    have placed : (place outputs workspace).output = index := by
      rw [place, assigned, Option.bind_some, found]
      rfl
    obtain ⟨inside, here, first⟩ := List.findIdx?_eq_some_iff_getElem.1 found
    rw [placed]
    refine ⟨?_, fun before earlier same => ?_⟩
    · rw [List.getElem?_map, List.getElem?_eq_getElem inside, Option.map_some, beq_iff_eq.1 here]
    · rw [List.getElem?_map, List.getElem?_eq_getElem (Nat.lt_trans earlier inside),
        Option.map_some, Option.some.injEq] at same
      exact first before earlier (beq_iff_eq.2 same)

theorem laysOut_ofConfig {config : Config} (valid : config.WellFormed) :
    (ofConfig config).LaysOut config := by
  have filled : Filled 0 (config.workspaces.map (place (outputsOf config.outputs)))
      (outputsOf config.outputs) ((ofConfig config).outputs, (ofConfig config).workspaces) :=
    filled_fill 0 _ _
  have names : (ofConfig config).outputs.map Output.name =
      (outputsOf config.outputs).map Output.name := names_fill 0 _ _
  have known : ∀ workspace ∈ config.workspaces, ∀ name, workspace.output = some name →
      name ∈ (outputsOf config.outputs).map Output.name :=
    fun workspace member name assigned =>
      mem_names_outputsOf (valid.assigned workspace member name assigned)
  refine ⟨names.trans (names_outputsOf config.outputs), ?_, ?_⟩
  · intro index workspace here
    refine ⟨place (outputsOf config.outputs) workspace, ?_, rfl, ?_⟩
    · apply getElem?_of_prefix filled.kept
      rw [List.getElem?_map, here, Option.map_some]
    · rw [names]
      exact isMeant_place (known workspace (List.mem_of_getElem? here))
  · intro workspace member name assigned
    obtain ⟨index, found⟩ := exists_findIdx? (known workspace member name assigned)
    rw [found]
    exact nofun

/-- A configuration that is accepted is well formed, and the server starts with its workspaces in their
order, each on the first output of the name that it is assigned to, or on the first output. -/
theorem accepted_laid_out {home : Option String} {text : String} {config : Config}
    (accepted : (Config.ofText home text).accepted? = some config) :
    config.WellFormed ∧ (ofConfig config).LaysOut config := by
  have valid := Config.wellFormed_of_accepted accepted
  exact ⟨valid, laysOut_ofConfig valid⟩

def revised : String :=
  "workspace \"mail\" \x7b\n output \"left\"\n output \"right\"\n\x7d\nworkspace \"1\"\n" ++
    "output \"left\" \x7b\n rect 0 0 640 480\n rect 0 0 800 600\n\x7d\n" ++
    "output \"right\" \x7b\n primary\n\x7d\noutput \"right\""

def revisedConfig : Config where
  outputs := [{ name := "left", width := 800, height := 600 }, { name := "right", primary := true },
    { name := "right" }]
  workspaces := [{ name := "mail", output := some "right" }, { name := "1" }]

theorem accepted_laid_out_of_revised :
    (Config.ofText none revised).accepted? = some revisedConfig ∧ revisedConfig.WellFormed ∧
      ∃ placed, (ofConfig revisedConfig).workspaces[0]? = some placed ∧ placed.name = "mail" ∧
        IsMeant ["left", "right", "right"] (some "right") placed.output := by
  have accepted : (Config.ofText none revised).accepted? = some revisedConfig := by decide +kernel
  obtain ⟨valid, laid⟩ := accepted_laid_out accepted
  exact ⟨accepted, valid, laid.workspaces 0 _ rfl⟩

example : (ofConfig revisedConfig).workspaces.map (fun workspace =>
    (workspace.name, workspace.output)) = [("mail", 1), ("1", 0), ("2", 2)] := by
  decide +kernel

end TileServer.Layout
