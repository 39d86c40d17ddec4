import Mathlib.Logic.Relation
import TileServer.Server.Loop

namespace TileServer

/-- The ways in which a server changes its layout. -/
inductive Layout.Alters (layout : Layout) : Layout → Prop
  | run (text : List Char) : layout.Alters (layout.run text).layout
  | render : layout.Alters layout.render

namespace Server

structure Advances (before after : Server) : Prop where
  layout : Relation.ReflTransGen Layout.Alters before.layout after.layout
  socketPath : after.socketPath = before.socketPath

variable {server : Server}

theorem Advances.trans {before middle after : Server} (one : before.Advances middle)
    (other : middle.Advances after) : before.Advances after :=
  ⟨one.layout.trans other.layout, other.socketPath.trans one.socketPath⟩

theorem advances_registry (server : Server) (registry : Registry) :
    server.Advances { server with registry } :=
  ⟨.refl, rfl⟩

theorem runCommand_advances (server : Server) (text : List Char) :
    server.Advances (server.runCommand text).1 :=
  ⟨.single (.run text), rfl⟩

theorem renderIf_advances (server : Server) (wanted : Bool) :
    server.Advances (server.renderIf wanted) := by
  cases wanted with
  | false => exact server.advances_registry _
  | true => exact ⟨.single .render, rfl⟩

theorem subscribe_advances (server : Server) (fd : Nat) (payload : Bytes) :
    server.Advances (server.subscribe fd payload).1 := by
  unfold subscribe
  split
  · split <;> exact server.advances_registry _
  · exact server.advances_registry _

theorem dispatch_advances (server : Server) (fd : Nat) (message : Wire.Message) :
    server.Advances (server.dispatch fd message).server := by
  unfold dispatch
  split
  · rename_i kind _
    cases kind with
    | runCommand => exact server.runCommand_advances _
    | subscribe => exact server.subscribe_advances fd message.payload
    | getBarConfig =>
      simp only [answer]
      split <;> exact server.advances_registry _
    | _ => exact server.advances_registry _
  · exact server.advances_registry _

theorem reply_advances (server : Server) (fd : Nat) (message : Wire.Message)
    (payload : Option Bytes) : server.Advances (server.reply fd message payload) := by
  unfold reply
  split
  · unfold sendReply
    split <;> exact server.advances_registry _
  · exact server.advances_registry _

theorem handleMessage_advances (server : Server) (fd serial : Nat) (message : Wire.Message) :
    server.Advances (server.handleMessage fd serial message) := by
  have requested : server.Advances (server.note (.request serial message)) :=
    server.advances_registry _
  have dispatched := (server.note (.request serial message)).dispatch_advances fd message
  unfold handleMessage
  simp only
  generalize (server.note (.request serial message)).dispatch fd message = answer at dispatched ⊢
  have rendered := answer.server.renderIf_advances answer.render
  have replied := (answer.server.renderIf answer.render).reply_advances fd message answer.payload
  exact (((requested.trans dispatched).trans rendered).trans replied).trans (advances_registry _ _)

theorem handleFrames_advances (server : Server) (fd serial attempts : Nat) :
    server.Advances (server.handleFrames fd serial attempts) := by
  induction attempts generalizing server with
  | zero => exact server.advances_registry _
  | succ attempts ih =>
    unfold handleFrames
    split
    · exact server.advances_registry _
    · exact server.advances_registry _
    · rename_i registry message _
      have handled := (server.advances_registry registry).trans
        (handleMessage_advances { server with registry } fd serial message)
      simp only
      split
      · exact handled.trans (ih _)
      · exact handled

theorem handleRead_advances (server : Server) (fd : Nat) (answer : ReadAnswer) :
    server.Advances (server.handleRead fd answer) := by
  unfold handleRead
  split
  · exact server.advances_registry _
  · exact server.advances_registry _
  · exact server.advances_registry _
  · unfold handleInbound
    split
    · exact server.advances_registry _
    · exact (server.advances_registry _).trans (handleFrames_advances _ _ _ _)

theorem service_advances (server : Server) (fd : Nat) (readiness : Readiness) :
    server.Advances (server.service fd readiness) := by
  cases readiness with
  | failed error => exact server.advances_registry _
  | ready writable read =>
    unfold service
    simp only
    split
    · exact server.advances_registry _
    · exact server.advances_registry _
    · exact (server.advances_registry _).trans (handleRead_advances _ fd _)

theorem handleDevices_advances (server : Server) (events : List DeviceEvent) :
    server.Advances (server.handleDevices events).1 := by
  induction events generalizing server with
  | nil => exact server.advances_registry _
  | cons event events ih =>
    have handled : server.Advances (server.handleDevice event).1 := by
      cases event with
      | publish event => exact server.advances_registry _
      | command text => exact server.runCommand_advances text
      | render => exact server.advances_registry _
    exact handled.trans (ih _)

theorem turn_advances (server : Server) (turn : Turn) : server.Advances (server.turn turn) := by
  have drained : server.Advances (server.drain turn.devices) :=
    (server.handleDevices_advances turn.devices).trans (renderIf_advances _ _)
  refine drained.trans ?_
  unfold Server.turn
  cases turn.wake with
  | device => exact advances_registry _ _
  | published event => exact advances_registry _ _
  | accepted connections => exact advances_registry _ _
  | client fd readiness => exact service_advances _ fd readiness

theorem run_advances (server : Server) (turns : List Turn) : server.Advances (server.run turns) := by
  have prepared (server : Server) : server.Advances server.prepare := server.advances_registry _
  unfold run
  refine (prepared server).trans ?_
  generalize server.prepare = server
  induction turns generalizing server with
  | nil => exact server.advances_registry _
  | cons turn turns ih => exact ((server.turn_advances turn).trans (prepared _)).trans (ih _)

end Server

namespace Layout

def fixtures (layout : Layout) : List BarConfig × Nat :=
  (layout.bars, layout.renders)

theorem fixtures_focusAt (layout : Layout) (index : Nat) (changes : List Change) :
    (layout.focusAt index changes).layout.fixtures = layout.fixtures := by
  unfold focusAt
  split
  · rfl
  · split <;> rfl

theorem fixtures_apply (layout : Layout) (command : Command) :
    (layout.apply command).layout.fixtures = layout.fixtures := by
  cases command with
  | workspace name =>
    simp only [apply, focusNamed]
    split
    · exact layout.fixtures_focusAt _ _
    · exact fixtures_focusAt _ _ _
  | mark name =>
    simp only [apply]
    split <;> rfl
  | unmark name => cases name <;> rfl
  | mode name => rfl
  | nop => rfl

theorem fixtures_runParts (layout : Layout) (parts : List (List Char)) :
    (layout.runParts parts).layout.fixtures = layout.fixtures := by
  induction parts generalizing layout with
  | nil => rfl
  | cons part parts ih =>
    unfold runParts
    cases Command.read part with
    | error error => exact ih layout
    | ok command => exact (ih _).trans (layout.fixtures_apply command)

theorem bars_run (layout : Layout) (text : List Char) : (layout.run text).layout.bars = layout.bars :=
  congrArg Prod.fst (layout.fixtures_runParts (Command.parts text))

theorem renders_run (layout : Layout) (text : List Char) :
    (layout.run text).layout.renders = layout.renders :=
  congrArg Prod.snd (layout.fixtures_runParts (Command.parts text))

theorem Alters.bars {before after : Layout} (alters : before.Alters after) :
    after.bars = before.bars := by
  cases alters with
  | run text => exact before.bars_run text
  | render => rfl

end Layout

theorem Server.Advances.bars {before after : Server} (advances : before.Advances after) :
    after.layout.bars = before.layout.bars := by
  have led := advances.layout
  generalize after.layout = last at led ⊢
  induction led with
  | refl => rfl
  | tail _ alters same => exact alters.bars.trans same

end TileServer
