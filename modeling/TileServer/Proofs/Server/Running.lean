import TileServer.Proofs.Server.Delivery
import TileServer.Proofs.Server.Runs
import TileServer.Server.Running

namespace TileServer

def Happening.events : Happening → List Event
  | sent event => [event]
  | waited _ _ _ => []

namespace Running

/-- Whether the connections that a happening brings come with descriptors that are not in use. -/
def Admits (running : Running) : Happening → Prop
  | .sent _ => True
  | .waited devices signalled caller => ∀ turn events,
    running.wait devices signalled caller = some (turn, events) → running.server.Admits turn

def AdmitsAll : Running → List Happening → Prop
  | _, [] => True
  | running, happening :: rest =>
    running.Admits happening ∧ (running.step happening).AdmitsAll rest

structure Steady (limit : Nat) (arrived sent : List Event) (running : Running) : Prop where
  opened : running.events.isOpen = true
  resting : running.server.registry.Resting limit arrived
  kept : arrived ++ running.events.waiting = sent

variable {running : Running} {limit : Nat} {arrived sent : List Event}

theorem steady_start (layout : Layout) (maxMessage maxBacklog : Nat) (socketPath : Option String) :
    (start layout maxMessage maxBacklog socketPath).Steady maxMessage [] [] where
  opened := rfl
  resting := (Registry.resting_new maxMessage maxBacklog).flushAll
  kept := rfl

theorem wait_events {devices : List DeviceEvent} {signalled : Bool} {caller : Option Caller}
    {turn : Turn} {events : EventQueue}
    (woken : running.wait devices signalled caller = some (turn, events)) :
    events.isOpen = running.events.isOpen ∧
      turn.wake.arrivals ++ events.waiting = running.events.waiting := by
  unfold wait EventQueue.select EventQueue.take? at woken
  cases signalled with
  | true =>
    cases woken
    exact ⟨rfl, rfl⟩
  | false =>
    cases queued : running.events.waiting with
    | nil =>
      cases caller with
      | none => simp [queued] at woken
      | some caller =>
        simp only [queued, Bool.false_eq_true, if_false, Option.map_some, Option.some.injEq,
          Prod.mk.injEq] at woken
        obtain ⟨rfl, rfl⟩ := woken
        cases caller <;> exact ⟨rfl, queued⟩
    | cons event rest =>
      simp only [queued, Bool.false_eq_true, if_false, Option.some.injEq, Prod.mk.injEq] at woken
      obtain ⟨rfl, rfl⟩ := woken
      exact ⟨rfl, rfl⟩

theorem Steady.step (steady : running.Steady limit arrived sent) {happening : Happening}
    (admitted : running.Admits happening) :
    ∃ later, (running.step happening).Steady limit (arrived ++ later) (sent ++ happening.events) := by
  obtain ⟨opened, resting, kept⟩ := steady
  cases happening with
  | sent event =>
    have sends : running.events.send event =
        ({ running.events with waiting := running.events.waiting ++ [event] }, true) := by
      rw [EventQueue.send, if_pos opened]
    refine ⟨[], ?_⟩
    rw [List.append_nil, Running.step, sends]
    exact ⟨opened, resting, by rw [← kept, List.append_assoc]; rfl⟩
  | waited devices signalled caller =>
    rw [Happening.events, List.append_nil, Running.step]
    cases woken : running.wait devices signalled caller with
    | none =>
      refine ⟨[], ?_⟩
      rw [List.append_nil]
      exact ⟨opened, resting, kept⟩
    | some taken =>
      obtain ⟨turn, events⟩ := taken
      obtain ⟨still, waiting⟩ := wait_events woken
      refine ⟨turn.wake.arrivals, still.trans opened,
        (Server.turn_resting resting (admitted turn events woken)).flushAll, ?_⟩
      rw [List.append_assoc, waiting, kept]

theorem Steady.run (steady : running.Steady limit arrived sent) {happenings : List Happening}
    (admitted : running.AdmitsAll happenings) :
    ∃ later, (running.run happenings).Steady limit (arrived ++ later)
      (sent ++ happenings.flatMap Happening.events) := by
  induction happenings generalizing running arrived sent with
  | nil =>
    refine ⟨[], ?_⟩
    rw [List.append_nil, List.flatMap_nil, List.append_nil]
    exact steady
  | cons happening happenings ih =>
    obtain ⟨first, others⟩ := admitted
    obtain ⟨one, next⟩ := steady.step first
    obtain ⟨more, last⟩ := ih next others
    refine ⟨one ++ more, ?_⟩
    rw [List.append_assoc, List.append_assoc] at last
    exact last

theorem Steady.takes (steady : running.Steady limit arrived sent) {event : Event}
    {rest : List Event} (queued : running.events.waiting = event :: rest)
    (devices : List DeviceEvent) (caller : Option Caller) :
    (running.step (.waited devices false caller)).Steady limit (arrived ++ [event]) sent ∧
      (running.step (.waited devices false caller)).events.waiting = rest := by
  obtain ⟨opened, resting, kept⟩ := steady
  have woken : running.wait devices false caller =
      some (⟨devices, .published event⟩, { running.events with waiting := rest }) := by
    unfold wait EventQueue.select EventQueue.take?
    rw [queued]
    rfl
  rw [Running.step, woken]
  refine ⟨⟨opened, ?_, ?_⟩, rfl⟩
  · have admitted : running.server.Admits ⟨devices, .published event⟩ := True.intro
    exact (Server.turn_resting resting admitted).flushAll
  · rw [← kept, queued, List.append_assoc]
    rfl

theorem Steady.catches_up (steady : running.Steady limit arrived sent)
    {waits : List (List DeviceEvent × Option Caller)}
    (enough : waits.length = running.events.waiting.length) :
    (running.run (waits.map (fun wait => .waited wait.1 false wait.2))).Steady limit sent sent := by
  induction waits generalizing running arrived with
  | nil =>
    have drained : running.events.waiting = [] := List.length_eq_zero_iff.1 enough.symm
    have all : arrived = sent := by
      have kept := steady.kept
      rw [drained, List.append_nil] at kept
      exact kept
    rw [all] at steady
    exact steady
  | cons wait waits ih =>
    cases queued : running.events.waiting with
    | nil =>
      rw [queued] at enough
      cases enough
    | cons event rest =>
      rw [queued, List.length_cons, List.length_cons, Nat.succ_inj] at enough
      obtain ⟨next, left⟩ := steady.takes queued wait.1 wait.2
      exact ih next (by rw [left]; exact enough)

/-- A run after which some events were sent from outside, as one client sees it. -/
structure Delivers (serial : Nat) (sent : List Event) (running : Running) : Prop where
  /-- Whoever the journal says is registered is a client. -/
  registered : serial ∈ live running.server.registry.journal ↔
    ∃ client ∈ running.server.registry.clients, client.serial = serial
  /-- Whatever the journal says that the client follows it is subscribed to. -/
  subscribed : ∀ client ∈ running.server.registry.clients, client.serial = serial →
    ∀ name, client.isSubscribed name = follows serial name running.server.registry.journal
  /-- A frame that it gets is an event's, and was promised before the event was published. -/
  promised : ∀ later past message,
    running.server.registry.journal = later ++ .notified serial message :: past →
    ∃ (event : Event) (older : List Deed) (others : List Nat),
      message = event.message ∧
      past = others.map (fun other => Deed.notified other message) ++ .published event :: older ∧
      Promised serial event.name older
  /-- It gets what it is owed, in the order of publication. -/
  exact : tell (Deed.noticesTo serial) running.server.registry.journal =
    owed serial running.server.registry.journal
  /-- Events from outside are taken up in their order, and the others wait. -/
  arrived : tell Deed.arrivals running.server.registry.journal ++ running.events.waiting = sent
  /-- An event from outside that is taken up is published before anything else is done. -/
  published : ∀ later past event,
    running.server.registry.journal = later ++ .arrived event :: past →
    ∃ rest, later = rest ++ [.published event]

theorem Steady.delivers (steady : running.Steady limit arrived sent) (serial : Nat) :
    running.Delivers serial sent := by
  obtain ⟨opened, ⟨bound, history, coherent, idle, quiet⟩, kept⟩ := steady
  have lawful := coherent.lawful
  refine ⟨?_, ?_, ?_, lawful.notices_eq_owed serial, by rw [history, kept], ?_⟩
  · rw [coherent.live_iff]
    constructor
    · rintro ⟨standing, member, same⟩
      obtain ⟨client, there, rfl⟩ := List.mem_map.1 member
      exact ⟨client, there, same⟩
    · rintro ⟨client, there, same⟩
      exact ⟨client.standing, List.mem_map_of_mem there, same⟩
  · rintro client member rfl name
    exact (coherent.agrees client.standing (List.mem_map_of_mem member)).subscriptions name
  · intro later past message split
    rw [split] at lawful
    exact lawful.promised
  · intro later past event split
    rw [split] at lawful idle
    rcases lawful.arrived with rfl | published
    · cases idle
    · exact published

/-- In every run, each client gets those published events that it follows, each once and in their
order, and none that it was not promised before; and the events that were sent from outside are
published in their order, all of them after as many waits without a signal as there are left. -/
theorem events_delivered (layout : Layout) (maxMessage maxBacklog : Nat)
    (socketPath : Option String) (happenings : List Happening)
    (admitted : (start layout maxMessage maxBacklog socketPath).AdmitsAll happenings)
    (serial : Nat) :
    ((start layout maxMessage maxBacklog socketPath).run happenings).Delivers serial
        (happenings.flatMap Happening.events) ∧
      ∀ waits : List (List DeviceEvent × Option Caller),
        waits.length =
          ((start layout maxMessage maxBacklog socketPath).run happenings).events.waiting.length →
        tell Deed.arrivals
            (((start layout maxMessage maxBacklog socketPath).run happenings).run
              (waits.map (fun wait => .waited wait.1 false wait.2))).server.registry.journal =
          happenings.flatMap Happening.events := by
  obtain ⟨arrived, steady⟩ :=
    (steady_start layout maxMessage maxBacklog socketPath).run admitted
  refine ⟨steady.delivers serial, ?_⟩
  intro waits enough
  exact (steady.catches_up enough).resting.history

def announcement : List Happening :=
  [.waited [] false (some (.newcomers [(7, {})])),
    .waited [] false (some (.client 7
      (.ready false (some (.bytes (Wire.frame ⟨2, (stringsJson ["Mode"]).bytes⟩)))))),
    .sent ⟨"mode", 0x80000002, []⟩, .waited [] false none, .sent ⟨"window", 0x80000003, []⟩]

theorem events_delivered_of_announcement :
    (start bare 64 4096 none).AdmitsAll announcement ∧
      ((start bare 64 4096 none).run announcement).Delivers 0
        [⟨"mode", 0x80000002, []⟩, ⟨"window", 0x80000003, []⟩] ∧
      tell Deed.arrivals (((start bare 64 4096 none).run announcement).run
          [.waited [] false none]).server.registry.journal =
        [⟨"mode", 0x80000002, []⟩, ⟨"window", 0x80000003, []⟩] :=
  have admitted : (start bare 64 4096 none).AdmitsAll announcement := by
    refine ⟨?_, ?_, True.intro, ?_, True.intro, True.intro⟩
    · rintro _ _ ⟨⟩
      exact ⟨rfl, True.intro⟩
    · rintro _ _ ⟨⟩
      exact True.intro
    · rintro _ _ ⟨⟩
      exact True.intro
  have delivered := events_delivered bare 64 4096 none announcement admitted 0
  ⟨admitted, delivered.1, delivered.2 [([], none)] (by decide)⟩

example : tell (Deed.noticesTo 0)
    ((start bare 64 4096 none).run announcement).server.registry.journal =
      [⟨0x80000002, []⟩] := by
  decide

end Running

end TileServer
