import TileServer.Proofs.Reply.RoundTrip
import TileServer.Server.Answer

namespace TileServer

open Json

inductive ReplyFormat : {α : Type} → (α → Json) → (Json → Option α) → Prop
  | rect : ReplyFormat Rect.toJson Rect.ofJson?
  | workspace : ReplyFormat WorkspaceReply.toJson WorkspaceReply.ofJson?
  | output : ReplyFormat OutputReply.toJson OutputReply.ofJson?
  | version : ReplyFormat VersionReply.toJson VersionReply.ofJson?
  | success : ReplyFormat SuccessReply.toJson SuccessReply.ofJson?
  | command : ReplyFormat CommandReply.toJson CommandReply.ofJson?
  | bar : ReplyFormat BarReply.toJson BarReply.ofJson?
  | str : ReplyFormat Json.str asString?
  | list {α : Type} {write : α → Json} {read : Json → Option α} (each : ReplyFormat write read) :
    ReplyFormat (fun items => .arr (items.map write)) (asList? read)

theorem ReplyFormat.faithful {α : Type} {write : α → Json} {read : Json → Option α}
    (format : ReplyFormat write read) : Faithful write read := by
  induction format with
  | rect => exact Rect.faithful
  | workspace => exact WorkspaceReply.faithful
  | output => exact OutputReply.faithful
  | version => exact VersionReply.faithful
  | success => exact SuccessReply.faithful
  | command => exact CommandReply.faithful
  | bar => exact BarReply.faithful
  | str => exact faithful_str
  | list _ faithful => exact faithful.list

/-- A type whose values are read as they were written, and whose texts, once a value was read and
written, stay the same. -/
structure Survives {α : Type} (write : α → Json) (read : Json → Option α) : Prop where
  back : ∀ value, (read? (write value).bytes).bind read = some value
  again : ∀ text value, (read? text).bind read = some value →
    ∃ same, (read? (write value).bytes).bind read = some same ∧ same = value ∧
      (write same).bytes = (write value).bytes

theorem Json.Faithful.survives {α : Type} {write : α → Json} {read : Json → Option α}
    (faithful : Faithful write read) : Survives write read :=
  ⟨faithful.read?_bytes, fun _ value _ => ⟨value, faithful.read?_bytes value, rfl, rfl⟩⟩

namespace Server

/-- What a server tells a client in its reply to a request of a kind, and how the client reads it. -/
inductive Tells (server : Server) (fd : Nat) (payload : Bytes) :
    Wire.RequestKind → {α : Type} → (Json → Option α) → α → Prop
  | results : server.Tells fd payload .runCommand (asList? CommandReply.ofJson?)
    (server.runCommand (Utf8.repair payload)).2.results
  | workspaces : server.Tells fd payload .getWorkspaces (asList? WorkspaceReply.ofJson?)
    server.layout.workspaceReplies
  | subscribed : server.Tells fd payload .subscribe SuccessReply.ofJson?
    (server.subscribe fd payload).2
  | outputs : server.Tells fd payload .getOutputs (asList? OutputReply.ofJson?)
    server.layout.outputReplies
  | marks : server.Tells fd payload .getMarks stringsOfJson? server.layout.marks
  | bar {bar : BarReply} (named : payload.isEmpty = false)
    (known : server.layout.bar? (String.ofList (Utf8.repair payload)) = some bar) :
    server.Tells fd payload .getBarConfig BarReply.ofJson?
      { bar with socketPath := bar.socketPath.or server.socketPath }
  | version : server.Tells fd payload .getVersion VersionReply.ofJson? TileServer.version

theorem dispatch_code (server : Server) (fd : Nat) (payload : Bytes) (kind : Wire.RequestKind) :
    server.dispatch fd ⟨kind.code, payload⟩ = server.answer fd payload kind := by
  cases kind <;> rfl

theorem Tells.reply {server : Server} {fd : Nat} {payload : Bytes} {kind : Wire.RequestKind}
    {α : Type} {read : Json → Option α} {value : α} (tells : server.Tells fd payload kind read value) :
    ∃ reply, (server.dispatch fd ⟨kind.code, payload⟩).payload = some reply ∧
      (read? reply).bind read = some value := by
  rw [dispatch_code]
  cases tells with
  | results => exact ⟨_, rfl, CommandReply.faithful.list.read?_bytes _⟩
  | workspaces => exact ⟨_, rfl, WorkspaceReply.faithful.list.read?_bytes _⟩
  | subscribed => exact ⟨_, rfl, SuccessReply.faithful.read?_bytes _⟩
  | outputs => exact ⟨_, rfl, OutputReply.faithful.list.read?_bytes _⟩
  | marks => exact ⟨_, rfl, faithful_strings.read?_bytes _⟩
  | version => exact ⟨_, rfl, VersionReply.faithful.read?_bytes _⟩
  | bar named known =>
    refine ⟨_, ?_, BarReply.faithful.read?_bytes _⟩
    simp only [answer, named, barReply, known]
    rfl

end Server

/-- Every value of every reply type survives being written and read, and so does every text that is
accepted as one; and the replies of a server are read as the values that it told. -/
theorem replies_survive :
    (∀ {α : Type} (write : α → Json) (read : Json → Option α), ReplyFormat write read →
      Survives write read) ∧
    ∀ (server : Server) (fd : Nat) (payload : Bytes) (kind : Wire.RequestKind) {α : Type}
      (read : Json → Option α) (value : α), server.Tells fd payload kind read value →
        ∃ reply, (server.dispatch fd ⟨kind.code, payload⟩).payload = some reply ∧
          (Json.read? reply).bind read = some value :=
  ⟨fun _ _ format => format.faithful.survives, fun _ _ _ _ _ _ _ tells => tells.reply⟩

def Server.panelled : Server :=
  ⟨⟨[], [], none, [], "default", [{ id := "bar-0", font := some "pango:\u0007 \"8\"" }], 0⟩,
    ⟨[], [], 0, [], 64, 4096⟩, some "/run/😀.sock"⟩

theorem replies_survive_of_panel :
    Json.read? (CommandReply.toJson ⟨false, some "\u0001\"😀"⟩).bytes >>= CommandReply.ofJson? =
      some ⟨false, some "\u0001\"😀"⟩ ∧
    ∃ bar reply, Server.panelled.layout.bar? "bar-0" = some bar ∧
      (Server.panelled.dispatch 7 ⟨6, Utf8.encode "bar-0".toList⟩).payload = some reply ∧
      (Json.read? reply).bind BarReply.ofJson? = some { bar with socketPath := some "/run/😀.sock" } := by
  obtain ⟨formats, tells⟩ := replies_survive
  have known : Server.panelled.layout.bar? (String.ofList (Utf8.repair (Utf8.encode "bar-0".toList))) =
      some (BarConfig.toReply { id := "bar-0", font := some "pango:\u0007 \"8\"" }) := by
    decide +kernel
  obtain ⟨reply, sent, read⟩ := tells Server.panelled 7 _ _ _ _ (.bar rfl known)
  exact ⟨(formats _ _ .command).back _, _, reply, by decide +kernel, sent, read⟩

example : (Json.read? (Utf8.encode "\x7b \"error\":\"\\ud83d\\ude00\", \"success\":false\x7d".toList)).bind
    CommandReply.ofJson? = some ⟨false, some "😀"⟩ := by
  decide +kernel

end TileServer
