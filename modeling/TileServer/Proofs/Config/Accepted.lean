import Mathlib.Data.List.Nodup
import TileServer.Config.OfDocument

namespace TileServer

namespace Reading

/-- What a reading comes to if it does not fail. Warnings and the reason of a failure are left out. -/
def accepted? (reading : Reading α) : Option α :=
  reading.result.toOption

@[simp] theorem accepted?_pure (value : α) : (pure value : Reading α).accepted? = some value :=
  rfl

@[simp] theorem accepted?_warn (warning : Warning) (value : α) :
    (warn warning value).accepted? = some value :=
  rfl

@[simp] theorem accepted?_fail (error : ConfigError) : (fail error : Reading α).accepted? = none :=
  rfl

@[simp] theorem accepted?_bind (first : Reading α) (second : α → Reading β) :
    (first >>= second).accepted? = first.accepted?.bind (fun value => (second value).accepted?) := by
  obtain ⟨warnings, result⟩ := first
  cases result <;> rfl

@[simp] theorem accepted?_map (change : α → β) (reading : Reading α) :
    (change <$> reading).accepted? = reading.accepted?.map change := by
  obtain ⟨warnings, result⟩ := reading
  cases result <;> rfl

theorem accepted?_bind_eq_some {first : Reading α} {second : α → Reading β} {last : β} :
    (first >>= second).accepted? = some last ↔
      ∃ value, first.accepted? = some value ∧ (second value).accepted? = some last := by
  rw [accepted?_bind, Option.bind_eq_some_iff]

theorem accepted?_map_eq_some {change : α → β} {reading : Reading α} {last : β} :
    (change <$> reading).accepted? = some last ↔
      ∃ value, reading.accepted? = some value ∧ change value = last := by
  rw [accepted?_map, Option.map_eq_some_iff]

@[simp] theorem accepted?_require (part : Required) (value : Option α) :
    (require part value).accepted? = value := by
  cases value <;> rfl

@[simp] theorem accepted?_check (fault : Fault) (value : Option α) :
    (check fault value).accepted? = value := by
  cases value <;> rfl

theorem keeps_foldlM {step : α → β → Reading α} {Holds : α → Prop}
    (keeps : ∀ value item next, Holds value → (step value item).accepted? = some next → Holds next)
    {items : List β} {first last : α} (start : Holds first)
    (accepted : (items.foldlM step first).accepted? = some last) : Holds last := by
  induction items generalizing first with
  | nil =>
    cases accepted
    exact start
  | cons item items ih =>
    rw [List.foldlM_cons, accepted?_bind_eq_some] at accepted
    obtain ⟨next, here, later⟩ := accepted
    exact ih (keeps first item next start here) later

end Reading

def GlobalConfig.Positive (config : GlobalConfig) : Prop :=
  1 ≤ config.maxMessageSize ∧ 1 ≤ config.maxClientBacklog

def OutputConfig.Sized (output : OutputConfig) : Prop :=
  1 ≤ output.width.toNat ∧ 1 ≤ output.height.toNat

def BarConfig.Colored (bar : BarConfig) : Prop :=
  ∀ entry ∈ bar.colors.entries, entry.1 ∈ barColorKeys

open Kdl (Node)

theorem GlobalConfig.positive_default : GlobalConfig.Positive {} :=
  ⟨by decide, by decide⟩

theorem OutputConfig.sized_default (name : String) : OutputConfig.Sized { name } := by
  change 1 ≤ (1920 : UInt32).toNat ∧ 1 ≤ (1080 : UInt32).toNat
  decide

theorem positive_of_readSize {node : Node} {size : Nat}
    (accepted : (readSize node).accepted? = some size) : 1 ≤ size := by
  rw [readSize, Reading.accepted?_bind_eq_some] at accepted
  obtain ⟨value, _, checked⟩ := accepted
  rw [Reading.accepted?_check] at checked
  split at checked
  · rename_i positive
    cases checked
    omega
  · cases checked

theorem GlobalConfig.Positive.readOption {home : Option String} {config next : GlobalConfig}
    {node : Node} (positive : config.Positive)
    (accepted : (config.readOption home node).accepted? = some next) : next.Positive := by
  unfold GlobalConfig.readOption at accepted
  split at accepted
  · split at accepted
    · cases accepted
      exact positive
    · obtain ⟨level, _, done⟩ := Reading.accepted?_bind_eq_some.1 accepted
      cases done
      exact positive
  · split at accepted
    · cases accepted
      exact positive
    · cases accepted
      exact positive
  · obtain ⟨size, read, done⟩ := Reading.accepted?_bind_eq_some.1 accepted
    cases done
    exact ⟨positive_of_readSize read, positive.2⟩
  · obtain ⟨size, read, done⟩ := Reading.accepted?_bind_eq_some.1 accepted
    cases done
    exact ⟨positive.1, positive_of_readSize read⟩
  · cases accepted
    exact positive

theorem positive_of_readExtent? {value : Int} {size : UInt32} (read : readExtent? value = some size) :
    1 ≤ size.toNat := by
  unfold readExtent? at read
  split at read
  · rename_i range
    cases read
    rw [UInt32.toNat_ofNat_of_lt' (by simp only [UInt32.size]; omega)]
    omega
  · cases read

theorem OutputConfig.Sized.readRect {output next : OutputConfig} {node : Node}
    (accepted : (output.readRect node).accepted? = some next) : next.Sized := by
  unfold OutputConfig.readRect at accepted
  split at accepted
  · simp only [Reading.accepted?_bind_eq_some, Reading.accepted?_check] at accepted
    obtain ⟨x, _, y, _, width, wide, height, high, done⟩ := accepted
    cases done
    exact ⟨positive_of_readExtent? wide, positive_of_readExtent? high⟩
  · cases accepted

theorem OutputConfig.Sized.readOption {output next : OutputConfig} {node : Node}
    (sized : output.Sized) (accepted : (output.readOption node).accepted? = some next) :
    next.Sized := by
  unfold OutputConfig.readOption at accepted
  split at accepted
  · exact readRect accepted
  · cases accepted
    exact sized
  · cases accepted
    exact sized

theorem BarConfig.Colored.readColor {bar next : BarConfig} {node : Node} (colored : bar.Colored)
    (accepted : (bar.readColor node).accepted? = some next) : next.Colored := by
  unfold BarConfig.readColor at accepted
  simp only at accepted
  split at accepted
  · rename_i known
    split at accepted
    · cases accepted
      intro entry member
      rcases mem_insertEntry member with rfl | old
      · simpa using known
      · exact colored entry old
    · cases accepted
      exact colored
  · cases accepted
    exact colored

theorem BarConfig.Colored.readOption {bar next : BarConfig} {node : Node} (colored : bar.Colored)
    (accepted : (bar.readOption node).accepted? = some next) : next.Colored := by
  unfold BarConfig.readOption at accepted
  split at accepted
  case h_4 | h_5 | h_6 | h_7 =>
    obtain ⟨value, _, done⟩ := Reading.accepted?_bind_eq_some.1 accepted
    cases done
    exact colored
  case h_13 => exact Reading.keeps_foldlM (fun _ _ _ => readColor) colored accepted
  all_goals
    cases accepted
    exact colored

namespace Config

def Section.Valid : Section → Prop
  | global read => read.Positive
  | output read => read.Sized
  | workspace _ => True
  | bar read => read.Colored
  | unknown => True

theorem Section.valid_of_read {home : Option String} {bars : Nat} {node : Node} {part : Section}
    (accepted : (readSection home bars node).accepted? = some part) : part.Valid := by
  unfold readSection at accepted
  split at accepted
  case h_5 =>
    cases accepted
    exact trivial
  all_goals
    obtain ⟨value, read, rfl⟩ := Reading.accepted?_map_eq_some.1 accepted
  case h_1 =>
    exact Reading.keeps_foldlM (fun _ _ _ => GlobalConfig.Positive.readOption)
      GlobalConfig.positive_default read
  case h_2 =>
    rw [OutputConfig.read, Reading.accepted?_bind_eq_some] at read
    obtain ⟨name, _, read⟩ := read
    exact Reading.keeps_foldlM (fun _ _ _ => OutputConfig.Sized.readOption)
      (OutputConfig.sized_default name) read
  case h_3 => exact trivial
  case h_4 =>
    refine Reading.keeps_foldlM (fun _ _ _ => BarConfig.Colored.readOption) ?_ read
    exact List.forall_mem_nil _

theorem valid_of_readSections {home : Option String} {bars : Nat} {document : List Node}
    {sections : List Section} (accepted : (readSections home bars document).accepted? = some sections) :
    ∀ part ∈ sections, part.Valid := by
  induction document generalizing bars sections with
  | nil =>
    cases accepted
    exact List.forall_mem_nil _
  | cons node document ih =>
    rw [readSections, Reading.accepted?_bind_eq_some] at accepted
    obtain ⟨first, read, accepted⟩ := accepted
    obtain ⟨rest, later, rfl⟩ := Reading.accepted?_map_eq_some.1 accepted
    exact List.forall_mem_cons.2 ⟨Section.valid_of_read read, ih later⟩

theorem Section.holds_of_valid {select : Section → Option α} {Holds : α → Prop}
    {sections : List Section} (valid : ∀ part ∈ sections, part.Valid)
    (holds : ∀ part item, part.Valid → select part = some item → Holds item) :
    ∀ item ∈ sections.filterMap select, Holds item := by
  intro item member
  obtain ⟨part, there, found⟩ := List.mem_filterMap.1 member
  exact holds part item (valid part there) found

theorem positive_ofSections {sections : List Section} (valid : ∀ part ∈ sections, part.Valid) :
    (ofSections sections).global.Positive := by
  have each : ∀ settings ∈ sections.filterMap Section.global?, settings.Positive := by
    refine Section.holds_of_valid valid (fun part settings valid found => ?_)
    cases part <;> cases found
    exact valid
  rw [ofSections]
  cases last : (sections.filterMap Section.global?).getLast? with
  | none => exact GlobalConfig.positive_default
  | some settings => exact each settings (List.mem_of_getLast? last)

theorem sized_ofSections {sections : List Section} (valid : ∀ part ∈ sections, part.Valid) :
    ∀ output ∈ (ofSections sections).outputs, output.Sized := by
  refine Section.holds_of_valid valid (fun part output valid found => ?_)
  cases part <;> cases found
  exact valid

theorem colored_ofSections {sections : List Section} (valid : ∀ part ∈ sections, part.Valid) :
    ∀ bar ∈ (ofSections sections).bars, bar.Colored := by
  refine Section.holds_of_valid valid (fun part bar valid found => ?_)
  cases part <;> cases found
  exact valid

/-- A configuration in which every value is one that the server can use, and every name leads to what
it names. -/
structure WellFormed (config : Config) : Prop where
  bars : (config.bars.map BarConfig.id).Nodup
  assigned : ∀ workspace ∈ config.workspaces, ∀ name, workspace.output = some name →
    name ∈ config.outputs.map OutputConfig.name
  sizes : ∀ output ∈ config.outputs, 1 ≤ output.width.toNat ∧ 1 ≤ output.height.toNat
  limits : 1 ≤ config.global.maxMessageSize ∧ 1 ≤ config.global.maxClientBacklog
  colors : ∀ bar ∈ config.bars, ∀ entry ∈ bar.colors.entries, entry.1 ∈ barColorKeys

theorem duplicate?_eq_none {seen ids : List String} :
    duplicate? seen ids = none ↔ ids.Nodup ∧ ∀ id ∈ ids, id ∉ seen := by
  induction ids generalizing seen with
  | nil => simp [duplicate?]
  | cons id ids ih =>
    unfold duplicate?
    split
    · rename_i before
      have old : id ∈ seen := by simpa using before
      exact ⟨nofun, fun fresh => absurd old (fresh.2 id List.mem_cons_self)⟩
    · rename_i before
      have new : id ∉ seen := by simpa using before
      rw [ih, List.nodup_cons, List.forall_mem_cons]
      constructor
      · rintro ⟨distinct, others⟩
        exact ⟨⟨fun again => others id again List.mem_cons_self, distinct⟩, new,
          fun other member old => others other member (List.mem_cons_of_mem _ old)⟩
      · rintro ⟨⟨once, distinct⟩, _, others⟩
        refine ⟨distinct, fun other member old => ?_⟩
        rcases List.mem_cons.1 old with same | old
        · exact once (same ▸ member)
        · exact others other member old

theorem stray?_eq_none {outputs : List String} {workspaces : List WorkspaceConfig} :
    stray? outputs workspaces = none ↔
      ∀ workspace ∈ workspaces, ∀ name, workspace.output = some name → name ∈ outputs := by
  induction workspaces with
  | nil => exact ⟨fun _ => List.forall_mem_nil _, fun _ => rfl⟩
  | cons workspace workspaces ih =>
    rw [List.forall_mem_cons, ← ih]
    cases assigned : workspace.output with
    | none =>
      simp only [stray?, assigned]
      exact ⟨fun later => ⟨nofun, later⟩, And.right⟩
    | some name =>
      simp only [stray?, assigned, Option.some.injEq, forall_eq', List.contains_iff_mem]
      split
      · rename_i known
        exact ⟨fun later => ⟨known, later⟩, And.right⟩
      · rename_i unknown
        exact ⟨nofun, fun both => absurd both.1 unknown⟩

theorem accepted?_validate {config accepted : Config} :
    config.validate.accepted? = some accepted ↔
      config = accepted ∧ (config.bars.map BarConfig.id).Nodup ∧
        ∀ workspace ∈ config.workspaces, ∀ name, workspace.output = some name →
          name ∈ config.outputs.map OutputConfig.name := by
  have distinct : duplicate? [] (config.bars.map BarConfig.id) = none ↔
      (config.bars.map BarConfig.id).Nodup := by
    simp [duplicate?_eq_none]
  rw [← distinct, ← stray?_eq_none]
  unfold validate
  split
  · rename_i found
    rw [found]
    exact ⟨nofun, fun all => absurd all.2.1 nofun⟩
  · rename_i unique
    rw [unique]
    split
    · rename_i found
      rw [found]
      exact ⟨nofun, fun all => absurd all.2.2 nofun⟩
    · rename_i homed
      rw [homed, Reading.accepted?_pure, Option.some.injEq]
      exact ⟨fun same => ⟨same, rfl, rfl⟩, And.left⟩

theorem wellFormed_of_accepted {home : Option String} {text : String} {config : Config}
    (accepted : (ofText home text).accepted? = some config) : config.WellFormed := by
  unfold ofText at accepted
  split at accepted
  · rename_i document _
    rw [ofDocument, Reading.accepted?_bind_eq_some] at accepted
    obtain ⟨sections, read, valid⟩ := accepted
    obtain ⟨rfl, distinct, assigned⟩ := accepted?_validate.1 valid
    have each := valid_of_readSections read
    exact ⟨distinct, assigned, sized_ofSections each, positive_ofSections each,
      colored_ofSections each⟩
  · cases accepted

theorem bars_distinct {home : Option String} {text : String} {config : Config}
    (accepted : (ofText home text).accepted? = some config) : (config.bars.map BarConfig.id).Nodup :=
  (wellFormed_of_accepted accepted).bars

end Config

end TileServer
