import TileServer.Proofs.Config.Accepted

namespace TileServer

namespace Config

open Kdl (Node)

def sectionNames : List String := ["global", "output", "workspace", "bar"]

def named (name : String) (document : List Node) : List Node :=
  document.filter (fun node => node.name == name)

/-- Whether two documents have the same sections, those of each kind in the same order. -/
def SameSections (first second : List Node) : Prop :=
  ∀ name ∈ sectionNames, named name first = named name second

instance (first second : List Node) : Decidable (SameSections first second) :=
  inferInstanceAs (Decidable (∀ name ∈ sectionNames, named name first = named name second))

structure Parts where
  globals : List GlobalConfig
  outputs : List OutputConfig
  workspaces : List WorkspaceConfig
  bars : List BarConfig

def partsOf (sections : List Section) : Parts where
  globals := sections.filterMap Section.global?
  outputs := sections.filterMap Section.output?
  workspaces := sections.filterMap Section.workspace?
  bars := sections.filterMap Section.bar?

def Parts.config (parts : Parts) : Config where
  global := parts.globals.getLast?.getD {}
  outputs := parts.outputs
  workspaces := parts.workspaces
  bars := parts.bars

def Section.addTo (parts : Parts) : Section → Parts
  | global read => { parts with globals := read :: parts.globals }
  | output read => { parts with outputs := read :: parts.outputs }
  | workspace read => { parts with workspaces := read :: parts.workspaces }
  | bar read => { parts with bars := read :: parts.bars }
  | unknown => parts

theorem partsOf_cons (first : Section) (sections : List Section) :
    partsOf (first :: sections) = first.addTo (partsOf sections) := by
  cases first <;> rfl

def readEach? (read : Nat → Node → Reading α) (index : Nat) : List Node → Option (List α)
  | [] => some []
  | node :: rest => (read index node).accepted?.bind (fun first =>
    (readEach? read (index + 1) rest).map (first :: ·))

def Parts.ofLists? (globals : Option (List GlobalConfig)) (outputs : Option (List OutputConfig))
    (workspaces : Option (List WorkspaceConfig)) (bars : Option (List BarConfig)) : Option Parts := do
  return ⟨← globals, ← outputs, ← workspaces, ← bars⟩

def readParts? (home : Option String) (bars : Nat) (document : List Node) : Option Parts :=
  Parts.ofLists? (readEach? (fun _ => GlobalConfig.read home) 0 (named "global" document))
    (readEach? (fun _ => OutputConfig.read) 0 (named "output" document))
    (readEach? (fun _ => WorkspaceConfig.read) 0 (named "workspace" document))
    (readEach? BarConfig.read bars (named "bar" document))

theorem named_cons (name : String) (node : Node) (document : List Node) :
    named name (node :: document) =
      if node.name = name then node :: named name document else named name document := by
  simp [named, List.filter_cons]

theorem readEach?_const (read : Node → Reading α) (index : Nat) (nodes : List Node) :
    readEach? (fun _ => read) index nodes = readEach? (fun _ => read) 0 nodes := by
  induction nodes generalizing index with
  | nil => rfl
  | cons node nodes ih => simp only [readEach?, ih (index + 1), ih (0 + 1)]

theorem readParts?_cons (home : Option String) (bars : Nat) (node : Node) (document : List Node) :
    readParts? home bars (node :: document) =
      (readSection home bars node).accepted?.bind (fun first =>
        (readParts? home (if node.name = "bar" then bars + 1 else bars) document).map
          (first.addTo ·)) := by
  unfold readSection readParts?
  split <;> rename_i name
  -- The node is read with those of its kind, and it does not matter which kind fails first.
  case h_5 unknownGlobal unknownOutput unknownWorkspace =>
    simp only [named_cons, if_neg unknownGlobal, if_neg unknownOutput, if_neg unknownWorkspace,
      if_neg name]
    exact Option.map_id'.symm
  all_goals
    simp only [named_cons, name, readEach?, readEach?_const _ 1, String.reduceEq, if_true, if_false,
      Nat.zero_add, Reading.accepted?_map]
    generalize readEach? _ _ (named "global" document) = globals
    generalize readEach? _ _ (named "output" document) = outputs
    generalize readEach? _ _ (named "workspace" document) = workspaces
    generalize readEach? _ _ (named "bar" document) = others
  case h_1 =>
    cases (GlobalConfig.read home node).accepted? <;> cases globals <;> cases outputs <;>
      cases workspaces <;> cases others <;> rfl
  case h_2 =>
    cases (OutputConfig.read node).accepted? <;> cases globals <;> cases outputs <;>
      cases workspaces <;> cases others <;> rfl
  case h_3 =>
    cases (WorkspaceConfig.read node).accepted? <;> cases globals <;> cases outputs <;>
      cases workspaces <;> cases others <;> rfl
  case h_4 =>
    cases (BarConfig.read bars node).accepted? <;> cases globals <;> cases outputs <;>
      cases workspaces <;> cases others <;> rfl

theorem readSections_cons (home : Option String) (bars : Nat) (node : Node) (document : List Node) :
    (readSections home bars (node :: document)).accepted? =
      (readSection home bars node).accepted?.bind (fun first =>
        (readSections home (if node.name = "bar" then bars + 1 else bars) document).accepted?.map
          (first :: ·)) := by
  simp [readSections]

theorem map_partsOf_readSections (home : Option String) (bars : Nat) (document : List Node) :
    (readSections home bars document).accepted?.map partsOf = readParts? home bars document := by
  induction document generalizing bars with
  | nil => rfl
  | cons node document ih =>
    rw [readSections_cons, readParts?_cons, ← ih]
    cases (readSection home bars node).accepted? with
    | none => rfl
    | some first =>
      rw [Option.bind_some, Option.bind_some, Option.map_map, Option.map_map]
      congr 1
      exact funext (partsOf_cons first)

theorem accepted?_ofDocument (home : Option String) (document : List Node) :
    (ofDocument home document).accepted? =
      (readParts? home 0 document).bind (fun parts => parts.config.validate.accepted?) := by
  rw [ofDocument, Reading.accepted?_bind, ← map_partsOf_readSections, Option.bind_map]
  rfl

theorem SameSections.readParts?_eq {first second : List Node} (same : SameSections first second)
    (home : Option String) (bars : Nat) :
    readParts? home bars first = readParts? home bars second := by
  simp only [readParts?, same "global" (by decide), same "output" (by decide),
    same "workspace" (by decide), same "bar" (by decide)]

theorem ofText_eq {text : String} {document : List Node} (home : Option String)
    (read : Kdl.read? text.toList = some document) :
    ofText home text = ofDocument home document := by
  simp only [ofText, read]

/-- Documents that differ by the order of nodes with different names, and by unknown nodes. -/
inductive Rearranged : List Node → List Node → Prop
  | refl (document : List Node) : Rearranged document document
  | exchange {first second : Node} (different : first.name ≠ second.name) (front rest : List Node) :
    Rearranged (front ++ first :: second :: rest) (front ++ second :: first :: rest)
  | leaveOut {node : Node} (unknown : node.name ∉ sectionNames) (front rest : List Node) :
    Rearranged (front ++ node :: rest) (front ++ rest)
  | symm {one other : List Node} (rearranged : Rearranged one other) : Rearranged other one
  | trans {one middle other : List Node} (first : Rearranged one middle)
    (second : Rearranged middle other) : Rearranged one other

theorem named_append (name : String) (front rest : List Node) :
    named name (front ++ rest) = named name front ++ named name rest :=
  List.filter_append ..

theorem Rearranged.sameSections {one other : List Node} (rearranged : Rearranged one other) :
    SameSections one other := by
  intro name known
  induction rearranged with
  | refl => rfl
  | @exchange first second different front rest =>
    have apart : ¬ (first.name = name ∧ second.name = name) :=
      fun both => different (both.1.trans both.2.symm)
    simp only [named_append, named_cons]
    split <;> split <;> simp_all
  | @leaveOut node unknown front rest =>
    have other : node.name ≠ name := fun same => unknown (same ▸ known)
    rw [named_append, named_cons, if_neg other, named_append]
  | symm _ same => exact same.symm
  | trans _ _ first second => exact first.trans second

theorem Rearranged.within {one other : List Node} (rearranged : Rearranged one other)
    (before after : List Node) : Rearranged (before ++ one ++ after) (before ++ other ++ after) := by
  induction rearranged with
  | refl => exact .refl _
  | exchange different front rest =>
    simpa using exchange different (before ++ front) (rest ++ after)
  | leaveOut unknown front rest =>
    simpa using leaveOut unknown (before ++ front) (rest ++ after)
  | symm _ ih => exact ih.symm
  | trans _ _ first second => exact first.trans second

theorem Rearranged.pass {node : Node} {others : List Node}
    (apart : ∀ other ∈ others, node.name ≠ other.name) (rest : List Node) :
    Rearranged (node :: others ++ rest) (others ++ node :: rest) := by
  induction others with
  | nil => exact .refl _
  | cons other others ih =>
    obtain ⟨here, later⟩ := List.forall_mem_cons.1 apart
    have moved := (ih later).within [other] []
    simp only [List.append_nil] at moved
    exact (exchange here [] (others ++ rest)).trans moved

theorem Rearranged.gather (name : String) (document : List Node) :
    Rearranged document (named name document ++ document.filter (fun node => node.name != name)) := by
  induction document with
  | nil => exact .refl _
  | cons node document ih =>
    have first := ih.within [node] []
    simp only [List.append_nil] at first
    refine first.trans ?_
    by_cases same : node.name = name
    · rw [named_cons, if_pos same, List.filter_cons_of_neg (by simp [same])]
      exact .refl _
    · have apart : ∀ other ∈ named name document, node.name ≠ other.name := by
        intro other member equal
        have own : other.name = name := by simpa using (List.mem_filter.1 member).2
        exact same (equal.trans own)
      simpa [named_cons, same] using pass apart _

theorem Rearranged.sort {names : List String} (distinct : names.Nodup) (document : List Node) :
    Rearranged document (names.flatMap (fun name => named name document) ++
      document.filter (fun node => node.name ∉ names)) := by
  induction names generalizing document with
  | nil =>
    have all : document.filter (fun node => node.name ∉ ([] : List String)) = document :=
      List.filter_eq_self.2 (fun _ _ => by simp)
    rw [List.flatMap_nil, List.nil_append, all]
    exact .refl document
  | cons name names ih =>
    obtain ⟨fresh, distinct⟩ := List.nodup_cons.1 distinct
    let others := document.filter (fun node => node.name != name)
    have kept : ∀ other ∈ names, named other others = named other document := by
      intro other member
      have apart : other ≠ name := fun same => fresh (same ▸ member)
      rw [named, named, List.filter_filter]
      refine List.filter_congr (fun node _ => ?_)
      by_cases same : node.name = other <;> simp [same, apart]
    have unknown : others.filter (fun node => node.name ∉ names) =
        document.filter (fun node => node.name ∉ name :: names) := by
      rw [List.filter_filter]
      refine List.filter_congr (fun node _ => ?_)
      rw [Bool.eq_iff_iff]
      simp [and_comm]
    have rest := (ih distinct others).within (named name document) []
    rw [List.flatMap_congr kept, unknown, List.append_nil, List.append_nil] at rest
    rw [List.flatMap_cons, List.append_assoc]
    exact (gather name document).trans rest

theorem Rearranged.leaveAllOut {nodes : List Node} (unknown : ∀ node ∈ nodes, node.name ∉ sectionNames)
    (front : List Node) : Rearranged (front ++ nodes) front := by
  induction nodes with
  | nil => simpa using refl front
  | cons node nodes ih =>
    obtain ⟨first, others⟩ := List.forall_mem_cons.1 unknown
    exact (leaveOut first front nodes).trans (ih others)

/-- Two documents have the same sections, those of each kind in the same order, exactly if they come
from each other by exchanging neighbours and by adding and leaving out unknown nodes. -/
theorem rearranged_iff {one other : List Node} : Rearranged one other ↔ SameSections one other := by
  have sorted (document : List Node) :
      Rearranged document (sectionNames.flatMap (fun name => named name document)) := by
    refine (Rearranged.sort (by decide) document).trans (.leaveAllOut ?_ _)
    intro node member
    simpa using (List.mem_filter.1 member).2
  refine ⟨Rearranged.sameSections, fun same => (sorted one).trans ?_⟩
  rw [List.flatMap_congr same]
  exact (sorted other).symm

/-- Two documents with the same sections, those of each kind in the same order, are both accepted or
both refused, and if they are accepted then as the same configuration. -/
theorem order_immaterial {first second : String} {one other : List Node}
    (readFirst : Kdl.read? first.toList = some one) (readSecond : Kdl.read? second.toList = some other)
    (same : Rearranged one other) (home : Option String) :
    (ofText home first).accepted? = (ofText home second).accepted? := by
  rw [ofText_eq home readFirst, ofText_eq home readSecond, accepted?_ofDocument,
    accepted?_ofDocument, same.sameSections.readParts?_eq]

def interleaved : String :=
  "workspace \"web\" \x7b output \"DP-1\"; \x7d\nbar\nfont 9\noutput \"DP-1\"\nbar \"top\"\nbar"

def grouped : String :=
  "output \"DP-1\"\nbar\nbar \"top\"\nbar\nworkspace \"web\" \x7b output \"DP-1\"; \x7d"

def outputNode : Node := .mk "output" [⟨none, .str "DP-1"⟩] []

def workspaceNode : Node := .mk "workspace" [⟨none, .str "web"⟩] [outputNode]

def barNode (id : Option String) : Node := .mk "bar" (id.toList.map (fun id => ⟨none, .str id⟩)) []

def interleavedNodes : List Node :=
  [workspaceNode, barNode none, .mk "font" [⟨none, .int 9⟩] [], outputNode, barNode (some "top"),
    barNode none]

def groupedNodes : List Node :=
  [outputNode, barNode none, barNode (some "top"), barNode none, workspaceNode]

theorem order_immaterial_of_interleaved :
    (ofText none interleaved).accepted? = (ofText none grouped).accepted? ∧
      (ofText none interleaved).accepted?.map (fun config => config.bars.map BarConfig.id) =
        some ["bar-0", "top", "bar-2"] := by
  have readFirst : Kdl.read? interleaved.toList = some interleavedNodes := by decide +kernel
  have readSecond : Kdl.read? grouped.toList = some groupedNodes := by decide +kernel
  have same : Rearranged interleavedNodes groupedNodes := rearranged_iff.2 (by decide)
  exact ⟨order_immaterial readFirst readSecond same none, by decide +kernel⟩

end Config

end TileServer
