import TileServer.Proofs.Layout.Moves
import TileServer.Proofs.Server.Layouts
import TileServer.Proofs.Server.Serving
import TileServer.Proofs.Server.Steps

namespace TileServer

open Relation

def Event.change? (event : Event) : Option Change :=
  (Json.read? event.payload).bind (Change.ofJson? event.name)

def Event.tellsFocus (event : Event) : Bool :=
  event.change?.any Change.isFocus

theorem WorkspaceRef.plain_toJson (ref : WorkspaceRef) : ref.toJson.Plain := by
  refine .obj (fun field member => ?_)
  simp only [List.mem_cons, List.not_mem_nil, or_false] at member
  rcases member with rfl | rfl | rfl
  · exact .str ref.name
  · exact Json.faithful_int32.plain_orNull ref.num
  · exact .str ref.output

theorem Change.plain_toJson (change : Change) : change.toJson.Plain := by
  cases change with
  | opened current =>
    refine .obj (fun field member => ?_)
    simp only [List.mem_cons, List.not_mem_nil, or_false] at member
    rcases member with rfl | rfl
    · exact .str "init"
    · exact current.plain_toJson
  | focused current old =>
    refine .obj (fun field member => ?_)
    simp only [List.mem_cons, List.not_mem_nil, or_false] at member
    rcases member with rfl | rfl | rfl
    · exact .str "focus"
    · exact current.plain_toJson
    · cases old with
      | none => exact .null
      | some old => exact old.plain_toJson
  | mode name =>
    refine .obj (fun field member => ?_)
    rw [List.mem_singleton.1 member]
    exact .str name

theorem Change.change?_toEvent (change : Change) : change.toEvent.change? = some change := by
  have read : Json.read? change.toJson.bytes = some change.toJson := change.plain_toJson.read?_bytes
  have told : change.toEvent.change? =
      (Json.read? change.toJson.bytes).bind (Change.ofJson? change.event) := rfl
  rw [told, read, Option.bind_some, change.ofJson?_toJson]

theorem Change.tellsFocus_toEvent (change : Change) : change.toEvent.tellsFocus = change.isFocus := by
  rw [Event.tellsFocus, change.change?_toEvent]
  rfl

namespace Deed

def publications : Deed → List Event
  | published event => [event]
  | _ => []

def IsNotice : Deed → Prop
  | published _ | notified _ _ => True
  | dropped _ cause => cause = .overflowed
  | _ => False

def IsAnswering : Deed → Prop
  | subscribed _ _ => True
  | deed => deed.IsNotice

variable {deed : Deed}

theorem IsNotice.isAnswering (notice : deed.IsNotice) : deed.IsAnswering := by
  cases deed with
  | subscribed => exact True.intro
  | _ => exact notice

theorem IsAnswering.isWithin (answering : deed.IsAnswering) : deed.IsWithin := by
  cases deed with
  | subscribed | published | notified | dropped => exact True.intro
  | _ => cases answering

theorem IsAnswering.ne_rendered (answering : deed.IsAnswering) : deed ≠ .rendered := by
  rintro rfl
  cases answering

theorem IsApart.ne_rendered (apart : deed.IsApart) : deed ≠ .rendered := by
  rintro rfl
  cases apart

theorem IsReply.ne_rendered {reply : Wire.Message} (replies : deed.IsReply reply) :
    deed ≠ .rendered := by
  rintro rfl
  cases replies

theorem IsReply.publications_eq {reply : Wire.Message} (replies : deed.IsReply reply) :
    deed.publications = [] := by
  cases deed with
  | published => cases replies
  | _ => rfl

end Deed

namespace Registry

theorem publish_told (registry : Registry) (event : Event) :
    ∃ told, (registry.publish event).journal = told ++ registry.journal ∧
      (∀ deed ∈ told, deed.IsNotice) ∧ tell Deed.publications told = [event] := by
  obtain ⟨dropped, notices, journal, overflows, notified⟩ := registry.journal_broadcast event
  refine ⟨dropped ++ (notices ++ [.published event]), ?_, ?_, ?_⟩
  · rw [publish, journal, List.append_assoc, List.append_assoc, List.singleton_append]
  · rw [List.forall_mem_append, List.forall_mem_append, List.forall_mem_singleton]
    refine ⟨fun deed member => ?_, fun deed member => ?_, True.intro⟩
    · obtain ⟨serial, rfl⟩ := overflows deed member
      rfl
    · obtain ⟨serial, rfl⟩ := notified deed member
      exact True.intro
  · rw [tell_of_silent _ (fun deed member => ?_), tell_of_silent _ (fun deed member => ?_)]
    · rfl
    · obtain ⟨serial, rfl⟩ := notified deed member
      rfl
    · obtain ⟨serial, rfl⟩ := overflows deed member
      rfl

theorem publishChanges_told (registry : Registry) (changes : List Change) :
    ∃ told, (registry.publishChanges changes).journal = told ++ registry.journal ∧
      (∀ deed ∈ told, deed.IsNotice) ∧
      tell Deed.publications told = changes.map Change.toEvent := by
  induction changes generalizing registry with
  | nil => exact ⟨[], rfl, List.forall_mem_nil _, rfl⟩
  | cons change changes ih =>
    obtain ⟨first, journal, notices, told⟩ := registry.publish_told change.toEvent
    obtain ⟨others, journal', notices', told'⟩ := ih (registry.publish change.toEvent)
    refine ⟨others ++ first, ?_, List.forall_mem_append.2 ⟨notices', notices⟩, ?_⟩
    · rw [List.append_assoc, ← journal, ← journal']
      rfl
    · rw [tell_append, told, told']
      rfl

end Registry

instance (message : Wire.Message) : Decidable message.IsCommand :=
  inferInstanceAs (Decidable (message.kind = Wire.RequestKind.runCommand.code))

namespace Layout

def heed (layout : Layout) (message : Wire.Message) : Outcome :=
  if message.IsCommand then layout.run (Utf8.repair message.payload) else ⟨layout, [], false, []⟩

def serve (layout : Layout) (message : Wire.Message) : Layout :=
  if (layout.heed message).needsRender then (layout.heed message).layout.render
  else (layout.heed message).layout

def served (layout : Layout) (handled : List Handling) : Layout :=
  handled.foldr (fun handling layout => layout.serve handling.message) layout

theorem heed_of_command {message : Wire.Message} (command : message.IsCommand) (layout : Layout) :
    layout.heed message = layout.run (Utf8.repair message.payload) :=
  if_pos command

theorem heed_of_other {message : Wire.Message} (other : ¬ message.IsCommand) (layout : Layout) :
    layout.heed message = ⟨layout, [], false, []⟩ :=
  if_neg other

theorem needsRender_heed_iff (layout : Layout) (message : Wire.Message) :
    (layout.heed message).needsRender = true ↔
      message.IsCommand ∧ layout.MovesAt (Command.parts (Utf8.repair message.payload)) := by
  by_cases command : message.IsCommand
  · rw [heed_of_command command, and_iff_right command]
    exact layout.needsRender_iff_movesAt _
  · rw [heed_of_other command]
    exact iff_of_false nofun (fun moves => command moves.1)

theorem any_changes_heed (layout : Layout) (message : Wire.Message) :
    (layout.heed message).changes.any Change.isFocus = (layout.heed message).needsRender := by
  by_cases command : message.IsCommand
  · rw [heed_of_command command]
    exact layout.any_changes_runParts _
  · rw [heed_of_other command]
    rfl

theorem renders_serve (layout : Layout) (message : Wire.Message) :
    (layout.serve message).renders =
      layout.renders + if (layout.heed message).needsRender then 1 else 0 := by
  have kept : (layout.heed message).layout.renders = layout.renders := by
    by_cases command : message.IsCommand
    · rw [heed_of_command command, renders_run]
    · rw [heed_of_other command]
  unfold serve
  split
  · exact congrArg (· + 1) kept
  · exact kept

end Layout

namespace Server

structure Dispatches (server : Server) (message : Wire.Message) (answer : Answer) (told : List Deed) :
    Prop where
  layout : answer.server.layout = (server.layout.heed message).layout
  render : answer.render = (server.layout.heed message).needsRender
  journal : answer.server.registry.journal = told ++ server.registry.journal
  answering : ∀ deed ∈ told, deed.IsAnswering
  published : tell Deed.publications told = (server.layout.heed message).changes.map Change.toEvent

variable {server : Server}

theorem dispatches_of_other {message : Wire.Message} {answer : Answer} {told : List Deed}
    (other : ¬ message.IsCommand) (layout : answer.server.layout = server.layout)
    (calm : answer.render = false)
    (journal : answer.server.registry.journal = told ++ server.registry.journal)
    (quiet : ∀ deed ∈ told, ∃ serial events, deed = .subscribed serial events) :
    server.Dispatches message answer told := by
  have left := server.layout.heed_of_other other
  refine ⟨by rw [layout, left], by rw [calm, left], journal, fun deed member => ?_, ?_⟩
  · obtain ⟨serial, events, rfl⟩ := quiet deed member
    exact True.intro
  · rw [left, tell_eq_nil (fun deed member => ?_)]
    · rfl
    · obtain ⟨serial, events, rfl⟩ := quiet deed member
      rfl

theorem layout_subscribe (server : Server) (fd : Nat) (payload : Bytes) :
    (server.subscribe fd payload).1.layout = server.layout := by
  unfold subscribe
  split
  · split <;> rfl
  · rfl

theorem subscribe_continues (server : Server) (fd : Nat) (payload : Bytes) :
    server.registry.Continues (fun deed => ∃ serial events, deed = .subscribed serial events)
      (server.subscribe fd payload).1.registry := by
  unfold subscribe
  split
  · rename_i events _
    split
    · have deals : (Registry.Operation.subscribe fd events).fd? = some fd := rfl
      refine Registry.continues_perform deals ?_
      rintro client _ _ ⟨⟩
      exact ⟨client.serial, events, rfl⟩
    · exact Registry.continues_of_same rfl
  · exact Registry.continues_of_same rfl

theorem dispatch_dispatches (server : Server) (fd : Nat) (message : Wire.Message) :
    ∃ told, server.Dispatches message (server.dispatch fd message) told := by
  unfold dispatch
  split
  · rename_i kind known
    have code := Wire.RequestKind.code_of_ofCode? known
    have still (payload : Option Bytes) (other : kind.code ≠ Wire.RequestKind.runCommand.code) :
        ∃ told, server.Dispatches message ⟨server, payload, false⟩ told :=
      ⟨[], dispatches_of_other (fun command => other (code.trans command)) rfl rfl rfl
        (List.forall_mem_nil _)⟩
    cases kind with
    | runCommand =>
      have run := server.layout.heed_of_command code.symm
      obtain ⟨told, journal, notices, published⟩ := server.registry.publishChanges_told
        (server.layout.run (Utf8.repair message.payload)).changes
      refine ⟨told, ?_, ?_, journal, fun deed member => (notices deed member).isAnswering, ?_⟩
      · rw [run]
        rfl
      · rw [run]
        rfl
      · rw [run]
        exact published
    | subscribe =>
      obtain ⟨told, journal, quiet⟩ := server.subscribe_continues fd message.payload
      have other : ¬ message.IsCommand := fun command => absurd (code.trans command) (by decide)
      exact ⟨told, dispatches_of_other other (server.layout_subscribe fd _) rfl journal quiet⟩
    | getBarConfig =>
      simp only [answer]
      split <;> exact still _ (by decide)
    | _ => exact still _ (by decide)
  · rename_i unknown
    have other : ¬ message.IsCommand := by
      intro command
      rw [show message.kind = Wire.RequestKind.runCommand.code from command] at unknown
      exact absurd unknown (by decide)
    exact ⟨[], dispatches_of_other other rfl rfl rfl (List.forall_mem_nil _)⟩

end Server

namespace Handling

/-- Whether a command text was run, and an event was published meanwhile that tells of a workspace that got
the focus. -/
def tellsFocus (handling : Handling) : Bool :=
  decide handling.message.IsCommand &&
    (tell Deed.publications handling.deeds).any Event.tellsFocus

/-- What was done about a message where the layout was `before`. -/
structure Renders (before : Layout) (handling : Handling) : Prop where
  moves : handling.tellsFocus = true ↔ handling.message.IsCommand ∧
    before.MovesAt (Command.parts (Utf8.repair handling.message.payload))
  published : tell Deed.publications handling.deeds =
    (before.heed handling.message).changes.map Change.toEvent
  /-- Latest first, a reply follows a render, and a render follows all that is done for the answer. -/
  order : ∃ replied told, handling.deeds = .finished handling.serial ::
      (replied ++ ((if handling.tellsFocus then [.rendered] else []) ++ told)) ∧
    (∀ deed ∈ replied, ∃ payload, deed.IsReply ⟨handling.message.kind, payload⟩) ∧
    ∀ deed ∈ told, deed.IsAnswering

theorem tellsFocus_of_published {handling : Handling} {before : Layout}
    (published : tell Deed.publications handling.deeds =
      (before.heed handling.message).changes.map Change.toEvent) :
    handling.tellsFocus = (before.heed handling.message).needsRender := by
  have focuses : (Event.tellsFocus ∘ Change.toEvent) = Change.isFocus :=
    funext (fun change => change.tellsFocus_toEvent)
  rw [tellsFocus, published, List.any_map, focuses, Layout.any_changes_heed]
  by_cases command : handling.message.IsCommand
  · rw [decide_eq_true command, Bool.true_and]
  · rw [before.heed_of_other command, Bool.and_false]

theorem renders_of_answered {before : Layout} {message : Wire.Message} {replied told : List Deed}
    (serial : Nat) (replies : ∀ deed ∈ replied, ∃ payload, deed.IsReply ⟨message.kind, payload⟩)
    (answering : ∀ deed ∈ told, deed.IsAnswering)
    (published : tell Deed.publications told = (before.heed message).changes.map Change.toEvent) :
    Renders before ⟨serial, message, .finished serial ::
      (replied ++ ((if (before.heed message).needsRender then [.rendered] else []) ++ told))⟩ := by
  have quiet : ∀ deed ∈ replied, deed.publications = [] := by
    intro deed member
    obtain ⟨payload, reply⟩ := replies deed member
    exact reply.publications_eq
  have publishes : tell Deed.publications (.finished serial ::
      (replied ++ ((if (before.heed message).needsRender then [.rendered] else []) ++ told))) =
        (before.heed message).changes.map Change.toEvent := by
    rw [tell_cons, tell_of_silent _ quiet, tell_of_silent _ (fun deed member => ?_), published]
    · exact List.append_nil _
    · split at member
      · rw [List.mem_singleton.1 member]
        rfl
      · cases member
  have tells : tellsFocus ⟨serial, message, .finished serial ::
      (replied ++ ((if (before.heed message).needsRender then [.rendered] else []) ++ told))⟩ =
        (before.heed message).needsRender := tellsFocus_of_published publishes
  refine ⟨?_, publishes, replied, told, ?_, replies, answering⟩
  · rw [tells]
    exact before.needsRender_heed_iff message
  · rw [tells]

theorem count_rendered {deeds : List Deed} (others : ∀ deed ∈ deeds, deed ≠ .rendered) :
    deeds.count .rendered = 0 :=
  List.count_eq_zero.2 (fun member => others _ member rfl)

theorem Renders.count {before : Layout} {handling : Handling} (renders : handling.Renders before) :
    handling.deeds.count .rendered = if handling.tellsFocus then 1 else 0 := by
  obtain ⟨replied, told, deeds, replies, answering⟩ := renders.order
  have first : replied.count .rendered = 0 := count_rendered (fun deed member => by
    obtain ⟨payload, reply⟩ := replies deed member
    exact reply.ne_rendered)
  have last : told.count .rendered = 0 :=
    count_rendered (fun deed member => (answering deed member).ne_rendered)
  have ended : Deed.finished handling.serial ≠ .rendered := nofun
  rw [deeds, List.count_cons_of_ne ended, List.count_append, List.count_append, first, last]
  cases handling.tellsFocus <;> rfl

end Handling

namespace Server

variable {server : Server}

theorem handleMessage_renders (server : Server) (fd serial : Nat) (message : Wire.Message) :
    (server.handleMessage fd serial message).layout = server.layout.serve message ∧
    ∃ deeds, Handling.Renders server.layout ⟨serial, message, deeds⟩ ∧
      handlings (server.handleMessage fd serial message).registry.journal =
        ⟨serial, message, deeds⟩ :: handlings server.registry.journal ∧
      (server.handleMessage fd serial message).registry.journal =
        deeds ++ .request serial message :: server.registry.journal := by
  obtain ⟨told, dispatches⟩ := (server.note (.request serial message)).dispatch_dispatches fd message
  obtain ⟨layout, _⟩ := server.handleMessage_spec fd serial message
  obtain ⟨replied, replies, journal, handled⟩ := server.handlings_handleMessage fd serial message
    (fun deed member => (dispatches.answering deed member).isWithin) dispatches.journal
  rw [dispatches.render, dispatches.layout] at layout
  rw [dispatches.render] at journal handled
  refine ⟨layout, _, Handling.renders_of_answered serial (fun deed member => ?_) dispatches.answering
    dispatches.published, handled, journal⟩
  obtain ⟨payload, _, reply⟩ := replies deed member
  exact ⟨payload, reply⟩

/-- A server that has rendered its layout as often as a handled message told of a focus that moved. -/
structure Counts (first : Layout) (server : Server) : Prop where
  layout : server.layout = first.served (handlings server.registry.journal)
  renders : server.layout.renders =
    first.renders + (handlings server.registry.journal).countP Handling.tellsFocus
  journal : server.registry.journal.count .rendered =
    (handlings server.registry.journal).countP Handling.tellsFocus
  each : ∀ later handling past, handlings server.registry.journal = later ++ handling :: past →
    handling.Renders (first.served past)

variable {first : Layout}

theorem counts_start (layout : Layout) (maxMessage maxBacklog : Nat) (socketPath : Option String) :
    (start layout maxMessage maxBacklog socketPath).Counts layout :=
  ⟨rfl, rfl, rfl, fun later handling past split => by cases later <;> cases split⟩

theorem Counts.between (counts : server.Counts first) {registry : Registry}
    (apart : server.registry.Continues Deed.IsApart registry)
    (idle : (phase server.registry.journal).isBusy = false) :
    Counts first { server with registry } ∧ (phase registry.journal).isBusy = false := by
  obtain ⟨same, still⟩ := apart.idle.handlings_eq idle
  obtain ⟨later, journal, between⟩ := apart
  have calm : registry.journal.count .rendered = server.registry.journal.count .rendered := by
    rw [journal, List.count_append, Nat.add_eq_right]
    exact Handling.count_rendered (fun deed member => (between deed member).ne_rendered)
  refine ⟨⟨?_, ?_, ?_, ?_⟩, still⟩
  · exact counts.layout.trans (congrArg first.served same.symm)
  · exact same ▸ counts.renders
  · exact calm.trans (same ▸ counts.journal)
  · exact same ▸ counts.each

theorem Counts.handleMessage (counts : server.Counts first) (fd serial : Nat)
    (message : Wire.Message) : (server.handleMessage fd serial message).Counts first := by
  obtain ⟨layout, deeds, renders, handled, journal⟩ := server.handleMessage_renders fd serial message
  have tells := Handling.tellsFocus_of_published renders.published
  have count := renders.count
  refine ⟨?_, ?_, ?_, ?_⟩
  · rw [layout, handled, counts.layout]
    rfl
  · rw [layout, handled, Layout.renders_serve, counts.renders, List.countP_cons, tells, Nat.add_assoc]
  · have begun : Deed.request serial message ≠ .rendered := nofun
    rw [handled, journal, List.count_append, List.count_cons_of_ne begun, counts.journal, count,
      List.countP_cons, Nat.add_comm]
  · intro later handling past split
    rw [handled] at split
    cases later with
    | nil =>
      obtain ⟨rfl, rfl⟩ := List.cons.inj split
      rw [← counts.layout]
      exact renders
    | cons latest later => exact counts.each later handling past (List.cons.inj split).2

theorem Counts.steps {after : Server} (counts : server.Counts first)
    (idle : (phase server.registry.journal).isBusy = false)
    (steps : ReflTransGen (Step False) server after) :
    after.Counts first ∧ (phase after.registry.journal).isBusy = false := by
  induction steps with
  | refl => exact ⟨counts, idle⟩
  | tail _ step ih =>
    obtain ⟨counts, idle⟩ := ih
    cases step with
    | between apart => exact counts.between apart idle
    | device present => exact present.elim
    | handle => exact ⟨counts.handleMessage _ _ _, rfl⟩

/-- Without devices, in every run, the layout is rendered as often as a command text is run at which the
focus moves, and events that are published meanwhile tell so; each time it is rendered once, behind all
that the text does and before its reply, whoever is dropped meanwhile; and at no other time. -/
theorem renders_counted (layout : Layout) (maxMessage maxBacklog : Nat) (socketPath : Option String)
    (turns : List Turn) (headless : ∀ turn ∈ turns, turn.devices = []) :
    let served := (start layout maxMessage maxBacklog socketPath).run turns
    served.Counts layout ∧
      (handlings served.registry.journal).map (fun handling => (handling.serial, handling.message)) =
        served.registry.journal.filterMap Deed.request? := by
  intro served
  have steps : ReflTransGen (Step False) _ served :=
    run_steps _ (fun turn member devices => devices (headless turn member))
  exact ⟨((counts_start layout maxMessage maxBacklog socketPath).steps rfl steps).1,
    requests_handlings _⟩

def detours : List Turn :=
  [⟨[], .accepted [(3, { outlet := .blocked }), (4, {})]⟩,
    hears 3 .subscribe (stringsJson ["Workspace"]).bytes,
    hears 3 .runCommand (Utf8.encodeString "workspace a,workspace 1"),
    hears 4 .runCommand (Utf8.encodeString "mark a;workspace 1"),
    hears 4 .getMarks [],
    hears 4 .runCommand (Utf8.encodeString "workspace 2;frob")]
where
  hears (fd : Nat) (kind : Wire.RequestKind) (payload : Bytes) : Turn :=
    ⟨[], .client fd (.ready false (some (.bytes (Wire.frame ⟨kind.code, payload⟩))))⟩

theorem renders_counted_of_detours :
    (∀ turn ∈ detours, turn.devices = []) ∧
      ((start (Layout.ofConfig {}) 64 64 none).run detours).Counts (Layout.ofConfig {}) :=
  have headless : ∀ turn ∈ detours, turn.devices = [] := by decide
  ⟨headless, (renders_counted (Layout.ofConfig {}) 64 64 none detours headless).1⟩

example : (handlings ((start (Layout.ofConfig {}) 64 64 none).run detours).registry.journal).map
      (fun handling => (handling.message.kind, handling.tellsFocus)) =
        [(0, true), (5, false), (0, false), (0, true), (2, false)] ∧
    Deed.dropped 0 .overflowed ∈ ((start (Layout.ofConfig {}) 64 64 none).run detours).registry.journal ∧
    ((start (Layout.ofConfig {}) 64 64 none).run detours).layout.renders = 2 := by
  decide +kernel

end Server

end TileServer
