import TileServer.Proofs.Server.Runs
import TileServer.Proofs.Server.Serving

namespace TileServer

def Registry.Operation.IsPlain : Operation → Prop
  | register _ _ | send _ _ => False
  | _ => True

def Wake.Brings (fresh : Socket → Prop) : Wake → Prop
  | .accepted connections => ∀ connection ∈ connections, fresh connection.2
  | _ => True

open Registry

/-- A property of registries that lasts while a server runs, if the sockets of the connections that it
accepts have one of theirs. A client that cannot take a reply is dropped before anything else, so that
only then the property has to hold. -/
structure Lasts (fresh : Socket → Prop) (kept : Registry → Prop) : Prop where
  perform : ∀ (registry : Registry) (operation : Operation), kept registry → operation.IsPlain →
    kept (registry.perform operation)
  register : ∀ (registry : Registry) (fd : Nat) (socket : Socket), kept registry →
    registry.contains fd = false → fresh socket → kept (registry.register fd socket)
  reply : ∀ (server : Server) (fd : Nat) (reply : Wire.Message), kept server.registry →
    kept (server.sendReply fd reply).registry

namespace Lasts

variable {fresh : Socket → Prop} {kept : Registry → Prop} {server : Server}

theorem publishChanges (lasts : Lasts fresh kept) {registry : Registry} (holds : kept registry)
    (changes : List Change) : kept (registry.publishChanges changes) := by
  induction changes generalizing registry with
  | nil => exact holds
  | cons change changes ih =>
    exact ih (lasts.perform registry (.broadcast change.toEvent) holds True.intro)

theorem drop (lasts : Lasts fresh kept) (holds : kept server.registry) (cause : Cause) (fd : Nat) :
    kept (server.drop cause fd).registry :=
  lasts.perform server.registry (.drop cause fd) holds True.intro

theorem note (lasts : Lasts fresh kept) (holds : kept server.registry) (deed : Deed) :
    kept (server.note deed).registry :=
  lasts.perform server.registry (.note deed) holds True.intro

theorem renderIf (lasts : Lasts fresh kept) (holds : kept server.registry) (wanted : Bool) :
    kept (server.renderIf wanted).registry := by
  cases wanted with
  | false => exact holds
  | true => exact lasts.note holds .rendered

theorem subscribe (lasts : Lasts fresh kept) (holds : kept server.registry) (fd : Nat)
    (payload : Bytes) : kept (server.subscribe fd payload).1.registry := by
  unfold Server.subscribe
  split
  · rename_i events _
    split
    · exact lasts.perform server.registry (.subscribe fd events) holds True.intro
    · exact holds
  · exact holds

theorem dispatch (lasts : Lasts fresh kept) (holds : kept server.registry) (fd : Nat)
    (message : Wire.Message) : kept (server.dispatch fd message).server.registry := by
  unfold Server.dispatch
  split
  · rename_i kind _
    cases kind with
    | runCommand =>
      exact lasts.publishChanges holds (server.layout.run (Utf8.repair message.payload)).changes
    | subscribe => exact lasts.subscribe holds fd message.payload
    | getBarConfig =>
      simp only [Server.answer]
      split <;> exact holds
    | _ => exact holds
  · exact holds

theorem handleMessage (lasts : Lasts fresh kept) (holds : kept server.registry) (fd serial : Nat)
    (message : Wire.Message) : kept (server.handleMessage fd serial message).registry := by
  have dispatched := lasts.dispatch (lasts.note holds (.request serial message)) fd message
  unfold Server.handleMessage
  simp only
  generalize (server.note (.request serial message)).dispatch fd message = answer at dispatched ⊢
  have rendered := lasts.renderIf dispatched answer.render
  refine lasts.note ?_ (.finished serial)
  unfold Server.reply
  split
  · exact lasts.reply _ fd _ rendered
  · exact rendered

theorem handleFrames (lasts : Lasts fresh kept) (holds : kept server.registry)
    (fd serial attempts : Nat) : kept (server.handleFrames fd serial attempts).registry := by
  induction attempts generalizing server with
  | zero => exact holds
  | succ attempts ih =>
    have next := lasts.perform server.registry (.next fd) holds True.intro
    rw [Registry.perform] at next
    unfold Server.handleFrames
    split <;> rename_i result <;> rw [result] at next
    · exact next
    · rename_i registry _
      have taken : kept ({ server with registry } : Server).registry := next
      exact lasts.drop taken .malformed fd
    · rename_i registry message
      have taken : kept ({ server with registry } : Server).registry := next
      have handled := lasts.handleMessage taken fd serial message
      simp only
      split
      · exact ih handled
      · exact handled

theorem handleRead (lasts : Lasts fresh kept) (holds : kept server.registry) (fd : Nat)
    (answer : ReadAnswer) : kept (server.handleRead fd answer).registry := by
  unfold Server.handleRead
  split
  · exact holds
  · exact lasts.drop holds .readFailed fd
  · exact lasts.drop holds .hungUp fd
  · rename_i bytes _
    have received := lasts.perform server.registry (.receive fd bytes) holds True.intro
    unfold Server.handleInbound
    split
    · exact received
    · exact lasts.handleFrames received fd _ _

theorem service (lasts : Lasts fresh kept) (holds : kept server.registry) (fd : Nat)
    (readiness : Readiness) : kept (server.service fd readiness).registry := by
  cases readiness with
  | failed error => exact lasts.drop holds .failed fd
  | ready writable read =>
    have flushed : kept (if writable then server.registry.flushClient fd
        else (server.registry, none)).1 := by
      cases writable with
      | false => exact holds
      | true => exact lasts.perform server.registry (.flush fd) holds True.intro
    unfold Server.service
    simp only
    generalize (if writable then server.registry.flushClient fd
      else (server.registry, none)) = result at flushed ⊢
    obtain ⟨registry, error⟩ := result
    have written : kept ({ server with registry } : Server).registry := flushed
    cases error with
    | some error => exact lasts.drop written .writeFailed fd
    | none =>
      cases read with
      | none => exact written
      | some answer =>
        have roomy : kept ({ server with registry := registry.makeRoom fd } : Server).registry :=
          lasts.perform registry (.makeRoom fd) flushed True.intro
        exact lasts.handleRead roomy fd answer

theorem handleDevices (lasts : Lasts fresh kept) (holds : kept server.registry)
    (events : List DeviceEvent) : kept (server.handleDevices events).1.registry := by
  induction events generalizing server with
  | nil => exact holds
  | cons event events ih =>
    refine ih ?_
    cases event with
    | publish event => exact lasts.perform server.registry (.broadcast event) holds True.intro
    | command text => exact lasts.publishChanges holds (server.layout.run text).changes
    | render => exact holds

theorem drain (lasts : Lasts fresh kept) (holds : kept server.registry)
    (devices : List DeviceEvent) : kept (server.drain devices).registry :=
  lasts.renderIf (lasts.handleDevices holds devices) (server.handleDevices devices).2

theorem accept (lasts : Lasts fresh kept) {registry : Registry} (holds : kept registry)
    {connections : List (Nat × Socket)} (admitted : registry.Admits connections)
    (brought : ∀ connection ∈ connections, fresh connection.2) :
    kept (connections.foldl (fun registry connection =>
      registry.register connection.1 connection.2) registry) := by
  induction connections generalizing registry with
  | nil => exact holds
  | cons connection connections ih =>
    obtain ⟨unused, admitted⟩ := admitted
    obtain ⟨first, others⟩ := List.forall_mem_cons.1 brought
    exact ih (lasts.register registry connection.1 connection.2 holds unused first) admitted others

theorem turn (lasts : Lasts fresh kept) (holds : kept server.registry) {turn : Turn}
    (admitted : server.Admits turn) (brings : turn.wake.Brings fresh) :
    kept (server.turn turn).registry := by
  have drained := lasts.drain holds turn.devices
  obtain ⟨devices, wake⟩ := turn
  cases wake with
  | device => exact drained
  | published event =>
    have arrived := lasts.note drained (.arrived event)
    exact lasts.perform _ (.broadcast event) arrived True.intro
  | accepted connections => exact lasts.accept drained admitted brings
  | client fd readiness => exact lasts.service drained fd readiness

theorem run (lasts : Lasts fresh kept) (holds : kept server.registry) {turns : List Turn}
    (admitted : server.prepare.AdmitsAll turns) (brings : ∀ turn ∈ turns, turn.wake.Brings fresh) :
    ∃ before : Server, kept before.registry ∧ server.run turns = before.prepare := by
  unfold Server.run
  induction turns generalizing server with
  | nil => exact ⟨server, holds, rfl⟩
  | cons turn turns ih =>
    obtain ⟨first, later⟩ := admitted
    obtain ⟨own, others⟩ := List.forall_mem_cons.1 brings
    have prepared : kept server.prepare.registry :=
      lasts.perform server.registry .flushAll holds True.intro
    exact ih (lasts.turn prepared first own) later others

end Lasts

end TileServer
