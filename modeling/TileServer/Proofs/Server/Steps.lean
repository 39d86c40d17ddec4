import Mathlib.Logic.Relation
import TileServer.Proofs.Server.Deeds
import TileServer.Proofs.Server.Records

namespace TileServer

/-- A message that was handled, for the connection with a serial number, and what was done meanwhile,
latest first. -/
structure Handling where
  serial : Nat
  message : Wire.Message
  deeds : List Deed
  deriving DecidableEq

def Handling.add (deed : Deed) (handling : Handling) : Handling :=
  { handling with deeds := deed :: handling.deeds }

def Phase.isBusy : Phase → Bool
  | handling _ _ | answered _ _ => true
  | _ => false

def handlings : List Deed → List Handling
  | [] => []
  | .request serial message :: past => ⟨serial, message, []⟩ :: handlings past
  | deed :: past =>
    if (phase past).isBusy then (handlings past).modifyHead (Handling.add deed) else handlings past

namespace Deed

def request? : Deed → Option (Nat × Wire.Message)
  | request serial message => some (serial, message)
  | _ => none

def IsApart : Deed → Prop
  | accepted _ | read _ _ | arrived _ | published _ | notified _ _ | dropped _ _ => True
  | _ => False

def IsIdle : Deed → Prop
  | rendered => True
  | deed => deed.IsApart

def IsWithin : Deed → Prop
  | subscribed _ _ | reply _ _ | published _ | notified _ _ | rendered | dropped _ _ => True
  | _ => False

def IsReply (reply : Wire.Message) : Deed → Prop
  | .reply _ message => message = reply
  | dropped _ cause => cause = .unanswerable
  | _ => False

theorem IsApart.isIdle {deed : Deed} (apart : deed.IsApart) : deed.IsIdle := by
  cases deed with
  | rendered => exact True.intro
  | _ => exact apart

theorem IsReply.isWithin {reply : Wire.Message} {deed : Deed} (replies : deed.IsReply reply) :
    deed.IsWithin := by
  cases deed with
  | reply | dropped => exact True.intro
  | _ => cases replies

end Deed

variable {serial : Nat} {message : Wire.Message} {deed : Deed} {later past : List Deed}

theorem handlings_cons (other : deed.request? = none) (past : List Deed) :
    handlings (deed :: past) =
      if (phase past).isBusy then (handlings past).modifyHead (Handling.add deed)
      else handlings past := by
  cases deed with
  | request => cases other
  | _ => rfl

theorem requests_handlings (journal : List Deed) :
    (handlings journal).map (fun handling => (handling.serial, handling.message)) =
      journal.filterMap Deed.request? := by
  induction journal with
  | nil => rfl
  | cons deed past ih =>
    cases request : deed.request? with
    | some item =>
      rw [List.filterMap_cons_some request, ← ih]
      cases deed with
      | request => exact congrArg (· :: _) (Option.some.inj request)
      | _ => cases request
    | none =>
      have kept : ((handlings past).modifyHead (Handling.add deed)).map
          (fun handling => (handling.serial, handling.message)) =
            (handlings past).map (fun handling => (handling.serial, handling.message)) := by
        cases handlings past <;> rfl
      rw [List.filterMap_cons_none request, ← ih, handlings_cons request]
      split
      · exact kept
      · rfl

theorem isBusy_of_idle (idle : deed.IsIdle) {now : Phase} (free : now.isBusy = false) :
    (now.after deed).isBusy = false := by
  cases deed with
  | accepted | read | notified | dropped | rendered => exact free
  | arrived => rfl
  | published =>
    cases now with
    | idle | heralding => rfl
    | _ => cases free
  | _ => cases idle

theorem isBusy_of_within (within : deed.IsWithin) {now : Phase} (busy : now.isBusy = true) :
    (now.after deed).isBusy = true := by
  cases now with
  | idle | heralding => cases busy
  | handling | answered =>
    cases deed with
    | accepted | read | request | finished | arrived => cases within
    | _ => rfl

theorem request?_of_idle (idle : deed.IsIdle) : deed.request? = none := by
  cases deed with
  | request => cases idle
  | _ => rfl

theorem request?_of_within (within : deed.IsWithin) : deed.request? = none := by
  cases deed with
  | request => cases within
  | _ => rfl

theorem handlings_of_idle (idle : ∀ deed ∈ later, deed.IsIdle)
    (free : (phase past).isBusy = false) :
    handlings (later ++ past) = handlings past ∧ (phase (later ++ past)).isBusy = false := by
  induction later with
  | nil => exact ⟨rfl, free⟩
  | cons deed later ih =>
    obtain ⟨here, others⟩ := List.forall_mem_cons.1 idle
    obtain ⟨same, still⟩ := ih others
    rw [List.cons_append, handlings_cons (request?_of_idle here), still]
    exact ⟨same, isBusy_of_idle here still⟩

theorem handlings_of_within {deeds : List Deed} {rest : List Handling}
    (within : ∀ deed ∈ later, deed.IsWithin) (busy : (phase past).isBusy = true)
    (latest : handlings past = ⟨serial, message, deeds⟩ :: rest) :
    handlings (later ++ past) = ⟨serial, message, later ++ deeds⟩ :: rest ∧
      (phase (later ++ past)).isBusy = true := by
  induction later with
  | nil => exact ⟨latest, busy⟩
  | cons deed later ih =>
    obtain ⟨here, others⟩ := List.forall_mem_cons.1 within
    obtain ⟨same, still⟩ := ih others
    rw [List.cons_append, handlings_cons (request?_of_within here), still, same]
    exact ⟨rfl, isBusy_of_within here still⟩

def Phase.about? : Phase → Option (Nat × Wire.Message)
  | handling serial message | answered serial message => some (serial, message)
  | _ => none

theorem Phase.isBusy_of_about? {now : Phase} {item : Nat × Wire.Message}
    (about : now.about? = some item) : now.isBusy = true := by
  cases now with
  | idle | heralding => cases about
  | handling | answered => rfl

theorem Phase.about?_after {now : Phase} {item : Nat × Wire.Message} (other : deed.request? = none)
    (about : (now.after deed).about? = some item) : now.about? = some item := by
  cases deed with
  | request => cases other
  | finished | arrived => cases about
  | reply | published => cases now <;> exact about
  | _ => exact about

theorem handlings_of_about? {journal : List Deed}
    (about : (phase journal).about? = some (serial, message)) :
    ∃ deeds rest, handlings journal = ⟨serial, message, deeds⟩ :: rest := by
  induction journal with
  | nil => cases about
  | cons deed past ih =>
    cases request : deed.request? with
    | some item =>
      cases deed with
      | request =>
        cases about
        exact ⟨[], handlings past, rfl⟩
      | _ => cases request
    | none =>
      have earlier := Phase.about?_after request about
      obtain ⟨deeds, rest, latest⟩ := ih earlier
      rw [handlings_cons request, Phase.isBusy_of_about? earlier, latest]
      exact ⟨deed :: deeds, rest, rfl⟩

theorem about?_of_mem_deeds {journal : List Deed} {handling : Handling}
    (handled : handling ∈ handlings journal) (done : deed ∈ handling.deeds) :
    ∃ later past, journal = later ++ deed :: past ∧
      (phase past).about? = some (handling.serial, handling.message) := by
  induction journal generalizing handling with
  | nil => cases handled
  | cons latest past ih =>
    have before {earlier : Handling} (there : earlier ∈ handlings past) (done : deed ∈ earlier.deeds) :
        ∃ later older, latest :: past = later ++ deed :: older ∧
          (phase older).about? = some (earlier.serial, earlier.message) := by
      obtain ⟨later, older, split, about⟩ := ih there done
      exact ⟨latest :: later, older, congrArg (latest :: ·) split, about⟩
    cases request : latest.request? with
    | some item =>
      cases latest with
      | request =>
        rcases List.mem_cons.1 handled with rfl | there
        · cases done
        · exact before there done
      | _ => cases request
    | none =>
      -- A deed is put to the latest message only while that is being handled.
      rw [handlings_cons request] at handled
      split at handled
      · rename_i busy
        obtain ⟨⟨serial, message⟩, about⟩ : ∃ item, (phase past).about? = some item := by
          cases now : phase past with
          | idle | heralding =>
            rw [now] at busy
            cases busy
          | handling serial message | answered serial message => exact ⟨(serial, message), rfl⟩
        obtain ⟨deeds, rest, head⟩ := handlings_of_about? about
        rw [head] at handled before
        rcases List.mem_cons.1 handled with rfl | there
        · rcases List.mem_cons.1 done with rfl | earlier
          · exact ⟨[], past, rfl, about⟩
          · have first : (⟨serial, message, deeds⟩ : Handling) ∈
                (⟨serial, message, deeds⟩ : Handling) :: rest := List.mem_cons_self
            have told := before first earlier
            exact told
        · exact before (List.mem_cons_of_mem _ there) done
      · exact before handled done

theorem handlings_of_finished (within : ∀ deed ∈ later, deed.IsWithin) :
    handlings (.finished serial :: (later ++ .request serial message :: past)) =
      ⟨serial, message, .finished serial :: later⟩ :: handlings past := by
  have begun : handlings (.request serial message :: past) = ⟨serial, message, []⟩ :: handlings past :=
    rfl
  have opened : (phase (.request serial message :: past)).isBusy = true := rfl
  obtain ⟨same, busy⟩ := handlings_of_within within opened begun
  rw [handlings_cons rfl, busy, same, List.append_nil]
  rfl

namespace Registry

theorem Continues.idle {before after : Registry} (apart : before.Continues Deed.IsApart after) :
    before.Continues Deed.IsIdle after := by
  obtain ⟨later, journal, between⟩ := apart
  exact ⟨later, journal, fun deed member => (between deed member).isIdle⟩

theorem Continues.handlings_eq {before after : Registry} (idle : before.Continues Deed.IsIdle after)
    (free : (phase before.journal).isBusy = false) :
    handlings after.journal = handlings before.journal ∧ (phase after.journal).isBusy = false := by
  obtain ⟨later, journal, idle⟩ := idle
  rw [journal]
  exact handlings_of_idle idle free

def Operation.IsBetween : Operation → Prop
  | subscribe _ _ | send _ _ => False
  | note deed => deed.IsApart
  | _ => True

theorem Operation.IsBetween.continues {operation : Operation} (between : operation.IsBetween)
    (registry : Registry) : registry.Continues Deed.IsApart (registry.perform operation) := by
  have dealt {fd : Nat} (deals : operation.fd? = some fd)
      (apart : ∀ client, ∀ deed ∈ operation.deed? client, deed.IsApart) :
      registry.Continues Deed.IsApart (registry.perform operation) :=
    continues_perform deals (fun client _ => apart client)
  cases operation with
  | subscribe | send => cases between
  | register fd socket =>
    have accepted : (Deed.accepted registry.accepted).IsApart := True.intro
    exact continues_cons accepted rfl
  | note deed => exact continues_cons between rfl
  | broadcast event =>
    exact continues_broadcast registry event True.intro (fun _ => True.intro) (fun _ => True.intro)
  | flushAll => exact continues_dropAll .writeFailed (fun _ => True.intro) _ _
  | shutdown => exact continues_dropAll .closed (fun _ => True.intro) _ _
  | drop cause fd =>
    refine dealt rfl ?_
    rintro client _ ⟨⟩
    exact True.intro
  | receive fd bytes =>
    refine dealt rfl ?_
    rintro client _ ⟨⟩
    exact True.intro
  | makeRoom fd | next fd | flush fd =>
    refine dealt rfl ?_
    rintro client _ ⟨⟩

end Registry

namespace Server

open Registry Relation

variable {server : Server} {fd attempts : Nat} {devices : Prop}

theorem sendReply_continues (server : Server) (fd : Nat) (reply : Wire.Message) :
    server.registry.Continues (Deed.IsReply reply) (server.sendReply fd reply).registry := by
  have sent : server.registry.Continues (Deed.IsReply reply) (server.registry.send fd reply).1 := by
    have deals : (Operation.send fd reply).fd? = some fd := rfl
    refine continues_perform deals ?_
    rintro client _ _ ⟨⟩
    rfl
  have dropped (registry : Registry) :
      registry.Continues (Deed.IsReply reply) (registry.drop .unanswerable fd) :=
    continues_dropAll .unanswerable (fun _ => rfl) registry [fd]
  unfold sendReply
  split <;> rename_i result <;> rw [result] at sent
  · exact sent
  · exact sent
  · exact sent.trans (dropped _)

theorem layout_sendReply (server : Server) (fd : Nat) (reply : Wire.Message) :
    (server.sendReply fd reply).layout = server.layout := by
  unfold sendReply
  split <;> rfl

theorem handleMessage_spec (server : Server) (fd serial : Nat) (message : Wire.Message) :
    let answer := (server.note (.request serial message)).dispatch fd message
    (server.handleMessage fd serial message).layout =
      (if answer.render then answer.server.layout.render else answer.server.layout) ∧
    ∃ replied, (∀ deed ∈ replied, ∃ payload, answer.payload = some payload ∧
        deed.IsReply ⟨message.kind, payload⟩) ∧
      (server.handleMessage fd serial message).registry.journal = .finished serial ::
        (replied ++ ((if answer.render then [.rendered] else []) ++ answer.server.registry.journal)) := by
  intro answer
  have shown : (answer.server.renderIf answer.render).layout =
      (if answer.render then answer.server.layout.render else answer.server.layout) ∧
      (answer.server.renderIf answer.render).registry.journal =
        (if answer.render then [.rendered] else []) ++ answer.server.registry.journal := by
    unfold renderIf
    split <;> exact ⟨rfl, rfl⟩
  have unfolded : server.handleMessage fd serial message =
      ((answer.server.renderIf answer.render).reply fd message answer.payload).note
        (.finished serial) := rfl
  rw [unfolded, ← shown.1, ← shown.2]
  cases paid : answer.payload with
  | none => exact ⟨rfl, [], List.forall_mem_nil _, rfl⟩
  | some payload =>
    obtain ⟨replied, journal, replies⟩ :=
      (answer.server.renderIf answer.render).sendReply_continues fd ⟨message.kind, payload⟩
    refine ⟨layout_sendReply _ fd _, replied,
      fun deed member => ⟨payload, rfl, replies deed member⟩, ?_⟩
    exact congrArg (Deed.finished serial :: ·) journal

theorem handlings_handleMessage (server : Server) (fd serial : Nat) (message : Wire.Message)
    {told : List Deed} (within : ∀ deed ∈ told, deed.IsWithin)
    (journal : ((server.note (.request serial message)).dispatch fd message).server.registry.journal =
      told ++ .request serial message :: server.registry.journal) :
    let answer := (server.note (.request serial message)).dispatch fd message
    ∃ replied, (∀ deed ∈ replied, ∃ payload, answer.payload = some payload ∧
        deed.IsReply ⟨message.kind, payload⟩) ∧
      let deeds := .finished serial ::
        (replied ++ ((if answer.render then [.rendered] else []) ++ told))
      (server.handleMessage fd serial message).registry.journal =
          deeds ++ .request serial message :: server.registry.journal ∧
        handlings (server.handleMessage fd serial message).registry.journal =
          ⟨serial, message, deeds⟩ :: handlings server.registry.journal := by
  intro answer
  obtain ⟨_, replied, replies, whole⟩ := server.handleMessage_spec fd serial message
  rw [journal, ← List.append_assoc, ← List.append_assoc, List.append_assoc replied] at whole
  refine ⟨replied, replies, whole, ?_⟩
  rw [whole]
  refine handlings_of_finished ?_
  rw [List.forall_mem_append, List.forall_mem_append]
  refine ⟨fun deed member => ?_, fun deed member => ?_, within⟩
  · obtain ⟨payload, _, reply⟩ := replies deed member
    exact reply.isWithin
  · split at member
    · rw [List.mem_singleton.1 member]
      exact True.intro
    · cases member

/-- What a server does at a time, and it does something for its devices only if these bring anything. -/
inductive Step (devices : Prop) (before : Server) : Server → Prop
  | between {registry : Registry} (apart : before.registry.Continues Deed.IsApart registry) :
      Step devices before { before with registry }
  | device (present : devices) {after : Server}
      (idle : before.registry.Continues Deed.IsIdle after.registry) : Step devices before after
  | handle {fd serial : Nat} {message : Wire.Message}
      (registered : before.registry.contains fd = true) :
      Step devices before (before.handleMessage fd serial message)

theorem step_perform (server : Server) {operation : Operation} (between : operation.IsBetween) :
    Step devices server { server with registry := server.registry.perform operation } :=
  .between (between.continues server.registry)

theorem contains_next {registry after : Registry} {message : Wire.Message}
    (taken : registry.next fd = (after, .ok (some message))) : after.contains fd = true := by
  unfold Registry.next at taken
  cases found : registry.find? fd with
  | none => simp [found] at taken
  | some client =>
    cases frame : Wire.takeFrame registry.maxMessage client.inbound with
    | incomplete => simp [found, frame] at taken
    | failed error => simp [found, frame] at taken
    | message first rest =>
      simp only [found, frame, Prod.mk.injEq] at taken
      have again : (registry.modify fd (fun client => client.keep rest)).find? fd =
          some (client.keep rest) := find?_modify found (fun _ own => own)
      rw [← taken.1, contains, again]
      rfl

theorem handleFrames_steps (server : Server) (fd serial attempts : Nat) :
    ReflTransGen (Step devices) server (server.handleFrames fd serial attempts) := by
  induction attempts generalizing server with
  | zero => exact .refl
  | succ attempts ih =>
    have between : (Operation.next fd).IsBetween := True.intro
    have taken : Step devices server { server with registry := (server.registry.next fd).1 } :=
      server.step_perform between
    unfold handleFrames
    split <;> rename_i result <;> rw [result] at taken
    · exact .single taken
    · have drops : (Operation.drop .malformed fd).IsBetween := True.intro
      exact (ReflTransGen.single taken).tail (step_perform _ drops)
    · rename_i registry message
      have handles : Step devices { server with registry } (handleMessage { server with registry } fd serial
        message) := .handle (contains_next result)
      have handled := (ReflTransGen.single taken).tail handles
      simp only
      split
      · exact handled.trans (ih _)
      · exact handled

theorem handleRead_steps (server : Server) (fd : Nat) (answer : ReadAnswer) :
    ReflTransGen (Step devices) server (server.handleRead fd answer) := by
  have drops (cause : Cause) : ReflTransGen (Step devices) server (server.drop cause fd) :=
    have between : (Operation.drop cause fd).IsBetween := True.intro
    .single (step_perform _ between)
  unfold handleRead
  split
  · exact .refl
  · exact drops .readFailed
  · exact drops .hungUp
  · rename_i bytes _
    have between : (Operation.receive fd bytes).IsBetween := True.intro
    have received : Step devices server { server with registry := server.registry.receive fd bytes } :=
      server.step_perform between
    unfold handleInbound
    split
    · exact .single received
    · exact (ReflTransGen.single received).trans (handleFrames_steps _ fd _ _)

theorem service_steps (server : Server) (fd : Nat) (readiness : Readiness) :
    ReflTransGen (Step devices) server (server.service fd readiness) := by
  have drops (server : Server) (cause : Cause) : Step devices server (server.drop cause fd) :=
    have between : (Operation.drop cause fd).IsBetween := True.intro
    step_perform _ between
  cases readiness with
  | failed error => exact .single (drops server .failed)
  | ready writable read =>
    have flushed : ReflTransGen (Step devices) server { server with
        registry := (if writable then server.registry.flushClient fd else (server.registry, none)).1 } := by
      cases writable with
      | false => exact .refl
      | true =>
        have between : (Operation.flush fd).IsBetween := True.intro
        exact .single (server.step_perform between)
    unfold service
    simp only
    generalize (if writable then server.registry.flushClient fd
      else (server.registry, none)) = result at flushed ⊢
    obtain ⟨registry, error⟩ := result
    cases error with
    | some error => exact flushed.tail (drops _ .writeFailed)
    | none =>
      cases read with
      | none => exact flushed
      | some answer =>
        have between : (Operation.makeRoom fd).IsBetween := True.intro
        exact (flushed.tail (step_perform { server with registry } between)).trans
          (handleRead_steps _ fd answer)

theorem accept_steps (server : Server) (connections : List (Nat × Socket)) :
    ReflTransGen (Step devices) server (server.accept connections) := by
  induction connections generalizing server with
  | nil => exact .refl
  | cons connection connections ih =>
    have between : (Operation.register connection.1 connection.2).IsBetween := True.intro
    exact (ReflTransGen.single (server.step_perform between)).trans (ih _)

theorem continues_publishChanges (registry : Registry) (changes : List Change) :
    registry.Continues Deed.IsIdle (registry.publishChanges changes) := by
  induction changes generalizing registry with
  | nil => exact continues_of_same rfl
  | cons change changes ih =>
    exact (continues_broadcast registry change.toEvent True.intro (fun _ => True.intro)
      (fun _ => True.intro)).trans (ih _)

theorem drain_continues (server : Server) (events : List DeviceEvent) :
    server.registry.Continues Deed.IsIdle (server.drain events).registry := by
  have handled : server.registry.Continues Deed.IsIdle (server.handleDevices events).1.registry := by
    induction events generalizing server with
    | nil => exact continues_of_same rfl
    | cons event events ih =>
      refine Continues.trans ?_ (ih _)
      cases event with
      | publish event =>
        exact continues_broadcast server.registry event True.intro (fun _ => True.intro)
          (fun _ => True.intro)
      | command text => exact continues_publishChanges server.registry _
      | render => exact continues_of_same rfl
  refine handled.trans ?_
  unfold drain renderIf
  simp only
  split
  · have rendered : Deed.rendered.IsIdle := True.intro
    exact continues_cons rendered rfl
  · exact continues_of_same rfl

theorem drain_steps (server : Server) {events : List DeviceEvent} (present : events ≠ [] → devices) :
    ReflTransGen (Step devices) server (server.drain events) := by
  cases events with
  | nil => exact .refl
  | cons event events => exact .single (.device (present nofun) (server.drain_continues _))

theorem turn_steps (server : Server) {turn : Turn} (present : turn.devices ≠ [] → devices) :
    ReflTransGen (Step devices) server (server.turn turn) := by
  refine (server.drain_steps present).trans ?_
  unfold Server.turn
  generalize server.drain turn.devices = server
  cases turn.wake with
  | device => exact .refl
  | published event =>
    have noted : (Operation.note (.arrived event)).IsBetween := True.intro
    have between : (Operation.broadcast event).IsBetween := True.intro
    exact (ReflTransGen.single (server.step_perform noted)).tail (step_perform _ between)
  | accepted connections => exact server.accept_steps connections
  | client fd readiness => exact server.service_steps fd readiness

theorem run_steps (server : Server) {turns : List Turn}
    (present : ∀ turn ∈ turns, turn.devices ≠ [] → devices) :
    ReflTransGen (Step devices) server (server.run turns) := by
  have prepared (server : Server) : Step devices server server.prepare :=
    have between : Operation.flushAll.IsBetween := True.intro
    server.step_perform between
  unfold run
  refine (ReflTransGen.single (prepared server)).trans ?_
  generalize server.prepare = server
  induction turns generalizing server with
  | nil => exact .refl
  | cons turn turns ih =>
    obtain ⟨first, others⟩ := List.forall_mem_cons.1 present
    exact ((server.turn_steps first).tail (prepared _)).trans (ih others _)

end Server

end TileServer
