import TileServer.Layout.Start
import TileServer.Proofs.Config.Accepted
import TileServer.Proofs.Layout.Places
import TileServer.Proofs.Reply.Payloads
import TileServer.Proofs.Server.Layouts

namespace TileServer

/-- What a server with a socket tells a bar about itself. -/
def BarConfig.told (bar : BarConfig) (socketPath : Option String) : BarReply :=
  { bar.toReply with socketPath := bar.socketPath.or socketPath }

theorem Keyword.word_injective {α : Type} [Keyword α] (complete : ∀ value : α, value ∈ all)
    (distinct : (all.map (word (α := α))).Nodup) : Function.Injective (word (α := α)) :=
  fun one other same => List.inj_on_of_nodup_map distinct (complete one) (complete other) same

theorem BarConfig.toReply_injective : Function.Injective BarConfig.toReply := by
  have modes : Function.Injective (Keyword.word (α := BarMode)) :=
    Keyword.word_injective (fun mode => by cases mode <;> decide) (by decide)
  have states : Function.Injective (Keyword.word (α := HiddenState)) :=
    Keyword.word_injective (fun state => by cases state <;> decide) (by decide)
  have modifiers : Function.Injective (Keyword.word (α := Modifier)) :=
    Keyword.word_injective (fun modifier => by cases modifier <;> decide) (by decide)
  have positions : Function.Injective (Keyword.word (α := BarPosition)) :=
    Keyword.word_injective (fun position => by cases position <;> decide) (by decide)
  rintro ⟨⟩ ⟨⟩ same
  simp only [toReply, BarReply.mk.injEq] at same
  simp only [BarConfig.mk.injEq]
  obtain ⟨id, outputs, tray, socket, mode, state, modifier, position, rest⟩ := same
  exact ⟨id, outputs, tray, socket, modes mode, states state, modifiers modifier, positions position, rest⟩

theorem exists_filter_eq {bars : List BarConfig} (distinct : (bars.map BarConfig.id).Nodup)
    {id : String} (member : id ∈ bars.map BarConfig.id) :
    ∃ bar, bars.filter (fun bar => bar.id == id) = [bar] := by
  obtain ⟨bar, there, rfl⟩ := List.mem_map.1 member
  have one := List.count_eq_one_of_mem distinct member
  rw [List.count, List.countP_map] at one
  exact ⟨bar, Layout.filter_eq_singleton one there (beq_self_eq_true bar.id)⟩

theorem Layout.bar?_of_filter {layout : Layout} {id : String} {bar : BarConfig}
    (only : layout.bars.filter (fun bar => bar.id == id) = [bar]) :
    layout.bar? id = some bar.toReply := by
  rw [bar?, ← List.head?_filter, only]
  rfl

theorem Layout.bar?_eq_none {layout : Layout} {id : String}
    (unknown : id ∉ layout.bars.map BarConfig.id) : layout.bar? id = none := by
  rw [bar?, Option.map_eq_none_iff, List.find?_eq_none]
  intro bar member same
  exact unknown (List.mem_map.2 ⟨bar, member, beq_iff_eq.1 same⟩)

theorem Utf8.encodeString_ne_nil {text : String} (nonempty : text ≠ "") : encodeString text ≠ [] := by
  intro empty
  have same := decode_encode text.toList
  rw [← encodeString, empty] at same
  exact nonempty (String.toList_eq_nil_iff.1 (Except.ok.inj same).symm)

namespace Server

def barRequest (payload : Bytes) : Wire.Message :=
  ⟨Wire.RequestKind.getBarConfig.code, payload⟩

/-- How a server that has some bars answers questions about them. -/
structure TellsBars (server : Server) (bars : List BarConfig) (socketPath : Option String) : Prop where
  listed : ∀ fd, ∃ reply, (server.dispatch fd (barRequest [])).payload = some reply ∧
    (Json.read? reply).bind stringsOfJson? = some (bars.map BarConfig.id)
  found : ∀ fd, ∀ id ∈ bars.map BarConfig.id, id ≠ "" → ∃ bar reply,
    bars.filter (fun bar => bar.id == id) = [bar] ∧
    (server.dispatch fd (barRequest (Utf8.encodeString id))).payload = some reply ∧
    (Json.read? reply).bind BarReply.ofJson? = some (bar.told socketPath)
  unknown : ∀ fd payload text, payload ≠ [] → Utf8.decode payload = .ok text →
    String.ofList text ∉ bars.map BarConfig.id →
    (server.dispatch fd (barRequest payload)).payload = some (Json.obj [("id", .null)]).bytes

variable {server : Server}

theorem payload_barRequest {payload : Bytes} (nonempty : payload ≠ []) (fd : Nat) :
    (server.dispatch fd (barRequest payload)).payload =
      some (server.barReply (String.ofList (Utf8.repair payload))).bytes := by
  have filled : payload.isEmpty = false := by simpa using nonempty
  rw [barRequest, dispatch_code]
  simp only [answer, filled]
  rfl

theorem tellsBars (distinct : (server.layout.bars.map BarConfig.id).Nodup) :
    server.TellsBars server.layout.bars server.socketPath := by
  refine ⟨fun fd => ?_, ?_, ?_⟩
  · rw [barRequest, dispatch_code]
    exact ⟨_, rfl, faithful_strings.read?_bytes _⟩
  · intro fd id member nonempty
    obtain ⟨bar, only⟩ := exists_filter_eq distinct member
    have text : String.ofList (Utf8.repair (Utf8.encodeString id)) = id := by
      rw [Utf8.encodeString, Utf8.repair_of_decode (Utf8.decode_encode id.toList), String.ofList_toList]
    refine ⟨bar, _, only, payload_barRequest (Utf8.encodeString_ne_nil nonempty) fd, ?_⟩
    rw [text, barReply, Layout.bar?_of_filter only]
    exact BarReply.faithful.read?_bytes _
  · intro fd payload text nonempty valid unknown
    rw [payload_barRequest nonempty, Utf8.repair_of_decode valid, barReply, Layout.bar?_eq_none unknown]

/-- Whatever happened since it was started with an accepted configuration, a server lists the ids of the
bars, answers each of them but the empty one with all that is configured of the one bar that has it,
and no other text with a bar. -/
theorem bars_found {home : Option String} {text : String} {config : Config}
    (accepted : (Config.ofText home text).accepted? = some config) (maxMessage maxBacklog : Nat)
    (socketPath : Option String) (turns : List Turn) :
    ((start (Layout.ofConfig config) maxMessage maxBacklog socketPath).run turns).TellsBars
        config.bars socketPath ∧
      Function.Injective BarConfig.toReply := by
  have advances :=
    (start (Layout.ofConfig config) maxMessage maxBacklog socketPath).run_advances turns
  have bars : ((start (Layout.ofConfig config) maxMessage maxBacklog socketPath).run
      turns).layout.bars = config.bars := advances.bars
  have socket : ((start (Layout.ofConfig config) maxMessage maxBacklog socketPath).run
      turns).socketPath = socketPath := advances.socketPath
  have told := tellsBars (bars.symm ▸ Config.bars_distinct accepted)
  rw [bars, socket] at told
  exact ⟨told, BarConfig.toReply_injective⟩

def twoBars : String :=
  "bar \"top\" \x7b\n position \"top\"\n socket-path \"/run/top.sock\"\n\x7d\nbar"

def twoBarsConfig : Config where
  bars := [{ id := "top", position := .top, socketPath := some "/run/top.sock" }, { id := "bar-1" }]

theorem bars_found_of_two :
    (Config.ofText none twoBars).accepted? = some twoBarsConfig ∧
      ∃ bar reply, bar ∈ twoBarsConfig.bars ∧
        (((start (Layout.ofConfig twoBarsConfig) 64 4096 (some "/run/tile.sock")).run
          [⟨[.command "workspace 2".toList], .device⟩]).dispatch 7
            (barRequest (Utf8.encodeString "bar-1"))).payload = some reply ∧
        (Json.read? reply).bind BarReply.ofJson? = some (bar.told (some "/run/tile.sock")) := by
  have accepted : (Config.ofText none twoBars).accepted? = some twoBarsConfig := by decide +kernel
  obtain ⟨bar, reply, only, sent, read⟩ := (bars_found accepted 64 4096 (some "/run/tile.sock")
    [⟨[.command "workspace 2".toList], .device⟩]).1.found 7 "bar-1" (by decide) (by decide)
  have member : bar ∈ twoBarsConfig.bars :=
    List.mem_of_mem_filter (only.symm ▸ List.mem_singleton_self bar)
  exact ⟨accepted, bar, reply, member, sent, read⟩

/-- An id may be empty. It is listed, but to ask for it is to ask for the list. -/
theorem empty_id_unasked :
    (Config.ofText none "bar \"\"").accepted? = some { bars := [{ id := "" }] } ∧
      ((start (Layout.ofConfig { bars := [{ id := "" }] }) 64 4096 none).dispatch 7
        (barRequest [])).payload = some (stringsJson [""]).bytes ∧
      (((start (Layout.ofConfig { bars := [{ id := "" }] }) 64 4096 none).dispatch 7
        (barRequest (Utf8.encodeString ""))).payload.bind Json.read?).bind BarReply.ofJson? = none := by
  decide +kernel

end Server

end TileServer
