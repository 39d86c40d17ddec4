import TileServer.Proofs.Server.Entries
import TileServer.Proofs.Server.Records

namespace TileServer

def Wire.Message.IsCommand (message : Wire.Message) : Prop :=
  message.kind = Wire.RequestKind.runCommand.code

def Event.IsChange (event : Event) : Prop :=
  event.name = "workspace" ∨ event.name = "mode"

theorem Change.isChange_toEvent (change : Change) : change.toEvent.IsChange := by
  cases change with
  | opened | focused => exact Or.inl rfl
  | mode => exact Or.inr rfl

/-- A deed by which nothing is done to a client. -/
def Deed.IsRemark : Deed → Prop
  | .request _ _ | .finished _ | .arrived _ | .rendered => True
  | _ => False

theorem Deed.IsRemark.isMute {deed : Deed} (remark : deed.IsRemark) : deed.IsMute := by
  cases deed with
  | reply | notified => exact remark.elim
  | _ => exact True.intro

/-- What a client is heard to have said in full, once bytes are read behind those that were kept. No
bytes are read if its socket fails before. -/
def Client.heard (limit : Nat) (client : Client) : Readiness → List Wire.Message
  | .ready writable (some (.bytes (byte :: bytes))) =>
    if writable && client.flush.2.isSome then []
    else (Wire.decodeAll limit (client.inbound.bytes ++ byte :: bytes)).messages
  | _ => []

namespace Registry

/-- An operation of a server that serves the client with a descriptor, and that may run commands. -/
def Operation.Serves (fd : Nat) (commands : Prop) (operation : Operation) : Prop :=
  operation.IsProper ∧ match operation with
    | broadcast event => commands ∧ event.IsChange
    | note deed => deed.IsRemark
    | other => other.fd? = some fd

/-- An operation of a server that handles a message of the client, so that no bytes are taken in. -/
def Operation.Answers (fd : Nat) (commands : Prop) (operation : Operation) : Prop :=
  operation.Serves fd commands ∧ ¬ operation.IsIntake

/-- A registry in which no complete message of the client with a descriptor is a command, once bytes
are read behind those that were kept. -/
structure Tame (fd : Nat) (coming : Bytes) (registry : Registry) : Prop where
  distinct : registry.Distinct
  plain : ∀ client ∈ registry.clients, client.fd = fd →
    ∀ message ∈ (Wire.decodeAll registry.maxMessage (client.inbound.bytes ++ coming)).messages,
      ¬ message.IsCommand

variable {registry after : Registry} {fd : Nat} {coming : Bytes} {commands : Prop}
  {operation : Operation}

theorem Operation.Serves.inner (serves : operation.Serves fd commands) :
    ¬ operation.IsRegistration := by
  intro registers
  cases operation with
  | register => cases serves.2
  | _ => exact registers

theorem Tame.perform (tame : registry.Tame fd coming) (inner : ¬ operation.IsRegistration)
    (quiet : ¬ operation.IsIntake) : (registry.perform operation).Tame fd coming := by
  obtain ⟨change, alters⟩ := tame.distinct.alters inner
  refine ⟨tame.distinct.perform inner, ?_⟩
  intro client member own
  rw [alters.clients] at member
  obtain ⟨earlier, before, changed⟩ := List.mem_filterMap.1 member
  have place : client.fd = earlier.fd :=
    congrArg Prod.snd (alters.identity earlier before client changed)
  rw [alters.alike.maxMessage, alters.inbound quiet earlier before client changed]
  exact tame.plain earlier before (place.symm.trans own)

theorem Tame.answered (tame : registry.Tame fd coming)
    (reaches : registry.Reaches (fun _ => Operation.Answers fd commands) after) :
    after.Tame fd coming := by
  induction reaches with
  | refl => exact tame
  | step _ answers ih => exact ih.perform answers.1.inner answers.2

theorem Tame.receive (tame : registry.Tame fd coming) : (registry.receive fd coming).Tame fd [] := by
  have inner : ¬ (Operation.receive fd coming).IsRegistration := id
  refine ⟨tame.distinct.perform inner, ?_⟩
  unfold Registry.receive
  cases found : registry.find? fd with
  | none =>
    intro client member own
    have different := List.find?_eq_none.1 found client member
    exact absurd (beq_iff_eq.2 own) different
  | some client =>
    intro other member own
    obtain ⟨earlier, before, rfl⟩ := List.mem_map.1 member
    by_cases same : earlier.fd = fd
    · have read : (earlier.receive coming).inbound.bytes = earlier.inbound.bytes ++ coming :=
        Wire.ByteQueue.bytes_push ..
      rw [if_pos same, List.append_nil, read]
      exact tame.plain earlier before same
    · rw [if_neg same] at own
      exact absurd own same

theorem Tame.next (tame : registry.Tame fd []) {message : Wire.Message}
    (taken : registry.next fd = (after, .ok (some message))) :
    ¬ message.IsCommand ∧ after.Tame fd [] := by
  have inner : ¬ (Operation.next fd).IsRegistration := id
  have distinct := tame.distinct.perform inner
  rw [Registry.perform, taken] at distinct
  unfold Registry.next at taken
  cases found : registry.find? fd with
  | none => simp [found] at taken
  | some client =>
    obtain ⟨there, _, own⟩ := find?_standing found
    have decoded := Wire.map_takeFrame registry.maxMessage client.inbound
    cases frame : Wire.takeFrame registry.maxMessage client.inbound with
    | incomplete => simp [found, frame] at taken
    | failed error => simp [found, frame] at taken
    | message first rest =>
      simp only [found, frame, Prod.mk.injEq, Except.ok.injEq, Option.some.injEq] at taken
      obtain ⟨rfl, rfl⟩ := taken
      rw [frame] at decoded
      have plain := tame.plain client there own
      rw [List.append_nil, Wire.decodeAll_of_message decoded.symm] at plain
      refine ⟨plain first (List.mem_append_left _ List.mem_cons_self), distinct, ?_⟩
      intro other member same said heard
      obtain ⟨earlier, _, rfl⟩ := List.mem_map.1 member
      refine plain said (List.mem_append_right _ ?_)
      by_cases equal : earlier.fd = fd
      · rw [if_pos equal, List.append_nil] at heard
        exact heard
      · rw [if_neg equal] at same
        exact absurd same equal

theorem Distinct.tame (distinct : registry.Distinct) {writable : Bool} {byte : UInt8}
    (plain : ∀ client, registry.find? fd = some client →
      ∀ message ∈ client.heard registry.maxMessage
        (.ready writable (some (.bytes (byte :: coming)))), ¬ message.IsCommand)
    (written : (if writable then registry.flushClient fd else (registry, none)).2 = none) :
    registry.Tame fd (byte :: coming) := by
  refine ⟨distinct, fun client member own => ?_⟩
  have found : registry.find? fd = some client := own ▸ distinct.find?_of_mem member
  have reads : (writable && client.flush.2.isSome) = false := by
    cases writable with
    | false => rfl
    | true =>
      rw [if_pos rfl, flushClient, found] at written
      exact congrArg Option.isSome written
  have heard := plain client found
  rw [Client.heard, if_neg (by simp [reads])] at heard
  exact heard

end Registry

namespace Server

open Registry

/-- A server that becomes another one by operations of a kind on its registry, with the same layout
unless it may run commands. -/
structure Becomes (kind : Operation → Prop) (commands : Prop) (before after : Server) : Prop where
  registry : before.registry.Reaches (fun _ operation => kind operation) after.registry
  layout : commands ∨ after.layout = before.layout

variable {server before middle after : Server} {kind : Operation → Prop} {commands : Prop}
  {fd serial : Nat} {message : Wire.Message}

theorem Becomes.refl (server : Server) : server.Becomes kind commands server :=
  ⟨.refl, Or.inr rfl⟩

theorem Becomes.trans (one : before.Becomes kind commands middle)
    (other : middle.Becomes kind commands after) : before.Becomes kind commands after := by
  refine ⟨one.registry.trans other.registry, ?_⟩
  rcases one.layout with run | first
  · exact Or.inl run
  · exact other.layout.imp_right (fun second => second.trans first)

theorem Becomes.mono {wider : Operation → Prop} (becomes : before.Becomes kind commands after)
    (weaker : ∀ operation, kind operation → wider operation) :
    before.Becomes wider commands after :=
  ⟨becomes.registry.mono (fun _ => weaker), becomes.layout⟩

theorem becomes_perform (operation : Operation) (met : kind operation)
    (registry : after.registry = before.registry.perform operation)
    (layout : after.layout = before.layout) : before.Becomes kind commands after :=
  ⟨registry ▸ reaches_perform operation met, Or.inr layout⟩

theorem publishChanges_reaches {meets : Registry → Operation → Prop} (registry : Registry)
    (met : ∀ registry (change : Change), meets registry (.broadcast change.toEvent))
    (changes : List Change) : registry.Reaches meets (registry.publishChanges changes) := by
  induction changes generalizing registry with
  | nil => exact .refl
  | cons change changes ih =>
    have published : registry.Reaches meets (registry.publish change.toEvent) :=
      reaches_perform (.broadcast change.toEvent) (met registry change)
    exact published.trans (ih _)

theorem note_becomes (server : Server) {deed : Deed} (remark : deed.IsRemark) :
    server.Becomes (Operation.Answers fd commands) commands (server.note deed) :=
  becomes_perform (.note deed) ⟨⟨remark.isMute, remark⟩, id⟩ rfl rfl

theorem drop_becomes (server : Server) (cause : Cause) (fd : Nat) :
    server.Becomes (Operation.Answers fd commands) commands (server.drop cause fd) :=
  becomes_perform (.drop cause fd) ⟨⟨True.intro, rfl⟩, id⟩ rfl rfl

theorem runCommand_becomes (server : Server) (run : commands) (text : List Char) :
    server.Becomes (Operation.Answers fd commands) commands (server.runCommand text).1 :=
  ⟨publishChanges_reaches server.registry
    (fun _ change => ⟨⟨rfl, run, change.isChange_toEvent⟩, id⟩) _, Or.inl run⟩

theorem subscribe_becomes (server : Server) (fd : Nat) (payload : Bytes) :
    server.Becomes (Operation.Answers fd commands) commands (server.subscribe fd payload).1 := by
  unfold Server.subscribe
  split
  · rename_i events _
    split
    · exact becomes_perform (.subscribe fd events) ⟨⟨True.intro, rfl⟩, id⟩ rfl rfl
    · exact .refl server
  · exact .refl server

theorem dispatch_becomes (server : Server) (fd : Nat) {message : Wire.Message}
    (said : message.IsCommand → commands) :
    server.Becomes (Operation.Answers fd commands) commands (server.dispatch fd message).server ∧
      ((server.dispatch fd message).render = true → commands) := by
  unfold Server.dispatch
  split
  · rename_i kind known
    have code := Wire.RequestKind.code_of_ofCode? known
    cases kind with
    | runCommand =>
      have run := said code.symm
      exact ⟨server.runCommand_becomes run _, fun _ => run⟩
    | subscribe => exact ⟨server.subscribe_becomes fd message.payload, fun wanted => (by cases wanted)⟩
    | getBarConfig =>
      simp only [Server.answer]
      split
      · exact ⟨.refl server, fun wanted => (by cases wanted)⟩
      · exact ⟨.refl server, fun wanted => (by cases wanted)⟩
    | _ => exact ⟨.refl server, fun wanted => (by cases wanted)⟩
  · exact ⟨.refl server, fun wanted => (by cases wanted)⟩

theorem not_isEvent_of_answered {payload : Bytes}
    (answered : (server.dispatch fd message).payload = some payload) :
    ¬ Wire.Message.IsEvent ⟨message.kind, payload⟩ := by
  unfold Server.dispatch at answered
  split at answered
  · rename_i kind known
    rw [Wire.Message.IsEvent, ← Wire.RequestKind.code_of_ofCode? known, kind.not_isEvent_code]
    exact Bool.false_ne_true
  · cases answered

theorem renderIf_becomes (server : Server) {wanted : Bool} (asked : wanted = true → commands) :
    server.Becomes (Operation.Answers fd commands) commands (server.renderIf wanted) := by
  cases wanted with
  | false => exact .refl server
  | true =>
    have noted : server.Becomes (Operation.Answers fd commands) commands (server.note .rendered) :=
      server.note_becomes True.intro
    exact ⟨noted.registry, Or.inl (asked rfl)⟩

theorem sendReply_becomes (server : Server) (fd : Nat) {reply : Wire.Message}
    (plain : ¬ reply.IsEvent) :
    server.Becomes (Operation.Answers fd commands) commands (server.sendReply fd reply) := by
  have sent : server.registry.Reaches (fun _ => Operation.Answers fd commands)
      (server.registry.send fd reply).1 :=
    reaches_perform (.send fd reply) ⟨⟨plain, rfl⟩, id⟩
  unfold Server.sendReply
  split <;> rename_i result <;> rw [result] at sent
  · exact ⟨sent, Or.inr rfl⟩
  · exact ⟨sent, Or.inr rfl⟩
  · exact ⟨sent.trans (reaches_perform (.drop .unanswerable fd) ⟨⟨True.intro, rfl⟩, id⟩),
      Or.inr rfl⟩

theorem handleMessage_becomes (server : Server) (fd serial : Nat) {message : Wire.Message}
    (said : message.IsCommand → commands) :
    server.Becomes (Operation.Answers fd commands) commands
      (server.handleMessage fd serial message) := by
  have requested : server.Becomes (Operation.Answers fd commands) commands
      (server.note (.request serial message)) := server.note_becomes True.intro
  obtain ⟨dispatched, asked⟩ := (server.note (.request serial message)).dispatch_becomes fd said
  -- The reply has the code of the message, which is known if there is a reply.
  have plain {payload : Bytes}
      (answered : ((server.note (.request serial message)).dispatch fd message).payload =
        some payload) : ¬ Wire.Message.IsEvent ⟨message.kind, payload⟩ :=
    not_isEvent_of_answered answered
  unfold handleMessage
  simp only
  generalize (server.note (.request serial message)).dispatch fd message = answer
    at dispatched asked plain ⊢
  have rendered : answer.server.Becomes (Operation.Answers fd commands) commands
      (answer.server.renderIf answer.render) := answer.server.renderIf_becomes asked
  have replied : (answer.server.renderIf answer.render).Becomes (Operation.Answers fd commands) commands
      ((answer.server.renderIf answer.render).reply fd message answer.payload) := by
    unfold Server.reply
    split
    · rename_i payload answered
      exact sendReply_becomes _ fd (plain answered)
    · exact .refl _
  exact (((requested.trans dispatched).trans rendered).trans replied).trans
    (note_becomes _ True.intro)

theorem handleFrames_becomes (server : Server) (fd serial attempts : Nat)
    (tame : commands ∨ server.registry.Tame fd []) :
    server.Becomes (Operation.Serves fd commands) commands
      (server.handleFrames fd serial attempts) := by
  -- What is left of the messages stays tame while one of them is handled.
  induction attempts generalizing server with
  | zero => exact .refl server
  | succ attempts ih =>
    have next : server.registry.Reaches (fun _ => Operation.Serves fd commands)
        (server.registry.next fd).1 := reaches_perform (.next fd) ⟨True.intro, rfl⟩
    unfold handleFrames
    split <;> rename_i result <;> rw [result] at next
    · exact ⟨next, Or.inr rfl⟩
    · rename_i registry error
      have taken : server.Becomes (Operation.Serves fd commands) commands { server with registry } :=
        ⟨next, Or.inr rfl⟩
      exact taken.trans ((drop_becomes _ .malformed fd).mono (fun _ => And.left))
    · rename_i registry message
      have taken : server.Becomes (Operation.Serves fd commands) commands { server with registry } :=
        ⟨next, Or.inr rfl⟩
      have left := tame.imp_right (fun tame => tame.next result)
      have said : message.IsCommand → commands :=
        fun command => left.elim id (fun left => absurd command left.1)
      have handled := handleMessage_becomes { server with registry } fd serial said
      have still := left.imp_right (fun left => left.2.answered handled.registry)
      have first := taken.trans (handled.mono (fun _ => And.left))
      simp only
      split
      · exact first.trans (ih _ still)
      · exact first

theorem handleRead_becomes (server : Server) (fd : Nat) (answer : ReadAnswer)
    (tame : commands ∨ ∀ byte bytes, answer = .bytes (byte :: bytes) →
      server.registry.Tame fd (byte :: bytes)) :
    server.Becomes (Operation.Serves fd commands) commands (server.handleRead fd answer) := by
  have drops (cause : Cause) :
      server.Becomes (Operation.Serves fd commands) commands (server.drop cause fd) :=
    (server.drop_becomes cause fd).mono (fun _ => And.left)
  unfold handleRead
  split
  · exact .refl server
  · exact drops .readFailed
  · exact drops .hungUp
  · rename_i bytes nonempty
    have received : server.Becomes (Operation.Serves fd commands) commands
        { server with registry := server.registry.receive fd bytes } :=
      becomes_perform (.receive fd bytes) ⟨True.intro, rfl⟩ rfl rfl
    unfold handleInbound
    split
    · exact received
    · refine received.trans (handleFrames_becomes _ fd _ _ (tame.imp_right (fun tame => ?_)))
      cases bytes with
      | nil => exact absurd rfl nonempty
      | cons byte bytes => exact (tame byte bytes rfl).receive

theorem service_becomes (server : Server) (fd : Nat) (readiness : Readiness)
    (plain : commands ∨ server.registry.Distinct ∧ ∀ client, server.registry.find? fd = some client →
      ∀ message ∈ client.heard server.registry.maxMessage readiness, ¬ message.IsCommand) :
    server.Becomes (Operation.Serves fd commands) commands (server.service fd readiness) := by
  cases readiness with
  | failed error => exact (server.drop_becomes .failed fd).mono (fun _ => And.left)
  | ready writable read =>
    have tame : (if writable then server.registry.flushClient fd else (server.registry, none)).2 = none →
        ∀ byte bytes, read = some (.bytes (byte :: bytes)) →
          commands ∨ server.registry.Tame fd (byte :: bytes) := by
      rintro written byte bytes rfl
      exact plain.imp_right (fun plain => plain.1.tame plain.2 written)
    have flushed : server.registry.Reaches (fun _ => Operation.Answers fd commands)
        (if writable then server.registry.flushClient fd else (server.registry, none)).1 := by
      cases writable with
      | false => exact .refl
      | true => exact reaches_perform (.flush fd) ⟨⟨True.intro, rfl⟩, id⟩
    unfold service
    simp only
    generalize (if writable then server.registry.flushClient fd
      else (server.registry, none)) = result at flushed tame ⊢
    obtain ⟨registry, error⟩ := result
    have written : server.Becomes (Operation.Serves fd commands) commands { server with registry } :=
      ⟨flushed.mono (fun _ _ => And.left), Or.inr rfl⟩
    cases error with
    | some error =>
      exact written.trans ((drop_becomes _ .writeFailed fd).mono (fun _ => And.left))
    | none =>
      cases read with
      | none => exact written
      | some answer =>
        have roomy : registry.Reaches (fun _ => Operation.Answers fd commands)
            (registry.makeRoom fd) := reaches_perform (.makeRoom fd) ⟨⟨True.intro, rfl⟩, id⟩
        have ready : server.Becomes (Operation.Serves fd commands) commands
            { server with registry := registry.makeRoom fd } :=
          ⟨(flushed.trans roomy).mono (fun _ _ => And.left), Or.inr rfl⟩
        refine ready.trans (handleRead_becomes _ fd answer ?_)
        by_cases run : commands
        · exact Or.inl run
        · refine Or.inr (fun byte bytes same => ?_)
          have tame := (tame rfl byte bytes (congrArg some same)).resolve_left run
          exact tame.answered (flushed.trans roomy)

end Server

end TileServer
