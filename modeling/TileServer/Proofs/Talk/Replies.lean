import TileServer.Proofs.Talk.Served

namespace TileServer.Talk

/-- How the replies that a client took stand to the messages that it sent. -/
inductive Account (serial : Nat) (talk : Talk) : Prop
  | even (even : talk.taken.length + talk.awaited.length = talk.asked.length) : Account serial talk
  | closed (closed : talk.Closed serial)
      (all : (tell (Deed.repliesOf serial) talk.journal).length ≤ talk.taken.length) :
      Account serial talk
  | deaf (deaf : talk.connection.Deaf (talk.ended = true)) : Account serial talk

/-- A talk whose two ends agree, and whose client is owed no more than the reply that it waits for. -/
structure Faithful (serial : Nat) (talk : Talk) : Prop where
  served : talk.Served serial
  hearing : talk.Hearing
  account : talk.Account serial

variable {serial : Nat} {talk : Talk}

theorem length_awaited (talk : Talk) : talk.awaited.length ≤ 1 := by
  unfold awaited
  cases talk.calling.bind Call.message? <;> simp

theorem Served.connected (served : talk.Served serial) (after : Connection) :
    Served serial { talk with connection := after } :=
  ⟨served.resting, served.opened, served.records, served.named, served.known, served.latest,
    served.read, served.written⟩

theorem Faithful.rebased (faithful : talk.Faithful serial) {base : Connection}
    (arrived : base.arrived = talk.connection.arrived) (reads : base.reads = talk.connection.reads)
    (buffer : base.buffer = talk.connection.buffer) :
    Faithful serial { talk with connection := base } := by
  obtain ⟨served, hearing, account⟩ := faithful
  refine ⟨served.connected base, hearing.draws (.of_same arrived reads buffer) talk.calling, ?_⟩
  have same : taken { talk with connection := base } = talk.taken := by
    rw [taken, taken, arrived]
  cases account with
  | even even => exact .even (by rw [same]; exact even)
  | closed closed all => exact .closed closed (by rw [same]; exact all)
  | deaf deaf => exact .deaf (deaf.of_same buffer reads)

theorem taken_of_draws {messages : List Wire.Message} {after : Connection}
    (draws : talk.connection.Draws messages after) :
    Wire.repliesIn after.arrived.reverse = talk.taken ++ Wire.repliesIn messages := by
  rw [draws.arrived, List.reverse_append, List.reverse_reverse, Wire.repliesIn_append, taken]

structure Caught (serial : Nat) (taken : List Wire.Message) (talk : Talk) : Prop where
  requests : tell (Deed.requestsOf serial) talk.journal = talk.asked
  replies : tell (Deed.repliesOf serial) talk.journal = taken
  length : taken.length = talk.asked.length

theorem Faithful.bound (faithful : talk.Faithful serial) {messages : List Wire.Message}
    {after : Connection}
    (takes : Connection.Takes messages talk.connection after) :
    (Wire.repliesIn messages).length ≤ talk.awaited.length ∧
      (Wire.repliesIn messages ≠ [] →
        talk.Caught serial (talk.taken ++ Wire.repliesIn messages)) := by
  obtain ⟨served, hearing, account⟩ := faithful
  have heard : Hearing { talk with connection := after } :=
    hearing.draws takes.draws talk.calling
  have starts : talk.taken ++ Wire.repliesIn messages <+: tell (Deed.repliesOf serial) talk.journal := by
    rw [← taken_of_draws takes.draws]
    exact (served.connected after).starts_taken heard
  have length := starts.length_le
  rw [List.length_append] at length
  cases account with
  -- The replies taken and still awaited are as many as the messages sent, and there are no more.
  | even even =>
    have bound := served.replies_le
    refine ⟨by omega, fun took => ?_⟩
    have one := talk.length_awaited
    have more := List.length_pos_iff.2 took
    obtain ⟨limit, arrived, resting⟩ := served.resting
    have answered := resting.replies_le serial
    have requests := served.requests_prefix.length_le
    refine ⟨served.requests_prefix.eq_of_length ?_, (starts.eq_of_length ?_).symm, ?_⟩
    · simp only [journal] at *
      omega
    · rw [List.length_append]
      omega
    · rw [List.length_append]
      omega
  | closed closed all =>
    have replyless : Wire.repliesIn messages = [] := List.length_eq_zero_iff.1 (by omega)
    simp [replyless]
  | deaf deaf =>
    rw [deaf.takes takes]
    exact ⟨Nat.zero_le _, fun took => absurd rfl took⟩

theorem Account.moved (account : talk.Account serial) {after : Connection}
    (idle : talk.awaited = []) (arrived : Wire.repliesIn after.arrived.reverse = talk.taken)
    (deaf : talk.connection.Deaf (talk.ended = true) → after.Deaf (talk.ended = true)) :
    Account serial { talk with connection := after, calling := none } := by
  cases account with
  | even even =>
    refine .even ?_
    rw [idle] at even
    rw [taken, arrived]
    exact even
  | closed closed all =>
    refine .closed closed ?_
    rw [taken, arrived]
    exact all
  | deaf unhearing => exact .deaf (deaf unhearing)

theorem Served.replies_lt (served : talk.Served serial)
    (unread : tell (Deed.bytesOf serial) talk.journal ≠ talk.asked.flatMap Wire.frame) :
    (tell (Deed.repliesOf serial) talk.journal).length < talk.asked.length := by
  obtain ⟨limit, arrived, resting⟩ := served.resting
  refine Nat.lt_of_le_of_ne served.replies_le (fun whole => unread ?_)
  have answered := resting.replies_le serial
  have all : tell (Deed.requestsOf serial) talk.journal = talk.asked := by
    refine served.requests_prefix.eq_of_length (Nat.le_antisymm served.requests_prefix.length_le ?_)
    rw [← whole]
    exact answered
  have taken : talk.asked <+:
      (Wire.decodeAll limit (tell (Deed.bytesOf serial) talk.journal)).messages := by
    rw [← all]
    exact (resting.serves serial).inOrder
  have whole := Wire.frames_prefix_of_messages taken
  exact served.read.eq_of_length (Nat.le_antisymm served.read.length_le whole.length_le)

/-- A reply that the server gave to the request that the client sent last. -/
structure Own (serial : Nat) (message reply : Wire.Message) (talk : Talk) : Prop where
  requests : tell (Deed.requestsOf serial) talk.journal = talk.asked
  exchange : ∃ front, tell (Deed.exchangeOf serial) talk.journal =
    front ++ [.request serial message, .reply serial reply] ∧ Answered serial front
  kind : reply.kind = message.kind
  plain : ¬ reply.IsEvent

theorem Caught.own {earlier : List Wire.Message} {message reply : Wire.Message}
    (caught : talk.Caught serial (earlier ++ [reply])) (served : talk.Served serial)
    (awaits : talk.awaited = [message]) (plain : ¬ reply.IsEvent) :
    talk.Own serial message reply := by
  obtain ⟨limit, arrived, resting⟩ := served.resting
  obtain ⟨older, asked⟩ := served.latest
  rw [awaits] at asked
  have known : message.IsRequest := (served.known message (by rw [asked]; simp)).1
  have length := caught.length
  rw [asked, List.length_append, List.length_append] at length
  obtain ⟨front, other, exchange, before, kind, others, replies⟩ :=
    resting.last_answered (caught.requests.trans asked) known (by
      have replies := congrArg List.length caught.replies
      rw [List.length_append] at replies
      simp only [journal] at replies
      simp at length replies
      omega)
  have same : other = reply :=
    (List.append_singleton_inj.1 (replies.symm.trans caught.replies)).2
  subst same
  exact ⟨caught.requests, ⟨front, exchange, before⟩, kind, plain⟩

theorem Faithful.deaf_of_failed (faithful : talk.Faithful serial) {messages : List Wire.Message}
    {last after : Connection} {error : ProtocolError}
    (takes : Connection.Takes messages talk.connection last)
    (received : last.receive = (after, .error error))
    (closing : error = .connectionClosed → talk.ended = true) : after.Deaf (talk.ended = true) := by
  have heard : Hearing { talk with connection := last } :=
    faithful.hearing.draws takes.draws talk.calling
  exact Connection.deaf_of_failed received heard.falls heard.ended closing

theorem Faithful.replied (faithful : talk.Faithful serial) {events : List Wire.Message}
    {message reply : Wire.Message} {last after : Connection} (awaits : talk.awaited = [message])
    (takes : Connection.Takes events talk.connection last)
    (all : ∀ event ∈ events, event.IsEvent) (received : last.receive = (after, .ok reply))
    (plain : ¬ reply.IsEvent) :
    (Wire.repliesIn after.arrived.reverse).length = talk.asked.length ∧
      talk.Own serial message reply := by
  have whole := takes.snoc received
  have replies : Wire.repliesIn (events ++ [reply]) = [reply] := by
    rw [Wire.repliesIn_append, Wire.repliesIn_of_all all,
      Wire.repliesIn_of_none (by simpa using plain)]
    rfl
  have caught := (faithful.bound whole).2 (by simp [replies])
  rw [replies] at caught
  refine ⟨?_, caught.own faithful.served awaits plain⟩
  rw [taken_of_draws whole.draws, replies]
  exact caught.length

theorem Faithful.unwritten (faithful : talk.Faithful serial) {message : Wire.Message}
    (awaits : talk.awaited = [message]) (closed : talk.Closed serial)
    (unread : tell (Deed.bytesOf serial) talk.journal ≠ talk.asked.flatMap Wire.frame) :
    Account serial { talk with calling := none } := by
  cases faithful.account with
  | even even =>
    have fewer := faithful.served.replies_lt unread
    rw [awaits, List.length_singleton] at even
    have all : (tell (Deed.repliesOf serial) talk.journal).length ≤ talk.taken.length := by omega
    exact .closed closed all
  | closed closed all => exact .closed closed all
  | deaf deaf => exact .deaf deaf

theorem Faithful.request (faithful : talk.Faithful serial) {kind : Wire.RequestKind}
    {payload : Bytes} {outcome : Connection × Except ProtocolError Wire.Message}
    (asked : talk.connection.request kind payload = outcome)
    (awaits : talk.awaited =
      if payload.length ≤ Wire.maxLength then [⟨kind.code, payload⟩] else [])
    (closing : outcome.2 = .error .connectionClosed → talk.ended = true)
    (unwritten : talk.connection.writeFault ≠ none → talk.Closed serial ∧
      tell (Deed.bytesOf serial) talk.journal ≠ talk.asked.flatMap Wire.frame) :
    Account serial { talk with connection := outcome.1, calling := none } ∧
      (∀ reply, outcome.2 = .ok reply → talk.Own serial ⟨kind.code, payload⟩ reply) ∧
      ∀ expected actual, outcome.2 ≠ .error (.unexpectedReply expected actual) := by
  rcases talk.connection.request_cases kind payload with
    ⟨long, error, failed⟩ | ⟨fits, ⟨reason, faulty, failed⟩ | waits⟩
  · cases asked.symm.trans failed
    rw [if_neg (Nat.not_le_of_lt long)] at awaits
    exact ⟨faithful.account.moved awaits rfl id, by simp, by simp⟩
  · cases asked.symm.trans failed
    rw [if_pos fits] at awaits
    obtain ⟨closed, unread⟩ := unwritten (by simp [faulty])
    exact ⟨faithful.unwritten awaits closed unread, by simp, by simp⟩
  · rw [if_pos fits] at awaits
    have based : Faithful serial { talk with
        connection := { talk.connection with
          sent := ⟨kind.code, payload⟩ :: talk.connection.sent } } :=
      faithful.rebased rfl rfl rfl
    obtain ⟨events, last, takes, all, ends⟩ := Connection.awaitReplyAfter_ends []
      { talk.connection with sent := ⟨kind.code, payload⟩ :: talk.connection.sent } kind
    rw [← Connection.awaitReply, ← waits, asked] at ends
    cases ends with
    | @failed after error received =>
      have deaf := based.deaf_of_failed takes received (fun same => closing (by rw [same]))
      refine ⟨.deaf (deaf.of_same rfl rfl), by simp, ?_⟩
      rintro expected actual ⟨⟩
      exact Connection.expected_of_failed received expected actual rfl
    | @replied after reply received plain same =>
      obtain ⟨even, own⟩ := based.replied awaits takes all received plain
      refine ⟨.even even, ?_, by simp⟩
      rintro _ ⟨⟩
      exact ⟨own.requests, own.exchange, own.kind, own.plain⟩
    | @mismatched after reply received plain different =>
      obtain ⟨_, own⟩ := based.replied awaits takes all received plain
      exact absurd own.kind different

theorem Faithful.nextEvent (faithful : talk.Faithful serial)
    {outcome : Connection × Except ProtocolError Wire.Message}
    (waits : talk.connection.nextEvent = outcome) (idle : talk.awaited = [])
    (closing : outcome.2 = .error .connectionClosed → talk.ended = true) :
    Account serial { talk with connection := outcome.1, calling := none } ∧
      Wire.repliesIn outcome.1.arrived.reverse = talk.taken ∧
      ∀ expected actual, outcome.2 ≠ .error (.unexpectedReply expected actual) := by
  unfold Connection.nextEvent at waits
  split at waits
  · cases waits
    exact ⟨faithful.account.moved idle rfl (fun deaf => deaf.of_same rfl rfl), rfl, by simp⟩
  · obtain ⟨replies, last, takes, plain, ends⟩ := talk.connection.awaitEvent_ends
    rw [waits] at ends
    have replyless {messages : List Wire.Message} {after : Connection}
        (takes : Connection.Takes messages talk.connection after) :
        Wire.repliesIn messages = [] := by
      have bound := (faithful.bound takes).1
      rw [idle] at bound
      exact List.length_eq_zero_iff.1 (Nat.le_zero.1 bound)
    cases ends with
    | @failed after error received =>
      have deaf := faithful.deaf_of_failed takes received (fun same => closing (by rw [same]))
      refine ⟨.deaf deaf, ?_, ?_⟩
      · have draws := takes.draws.trans (Connection.receive_draws received)
        rw [taken_of_draws draws, Wire.repliesIn_append, replyless takes]
        exact List.append_nil _
      · rintro expected actual ⟨⟩
        exact Connection.expected_of_failed received expected actual rfl
    | @given after event received isEvent =>
      have whole := takes.snoc received
      have same : Wire.repliesIn after.arrived.reverse = talk.taken := by
        rw [taken_of_draws whole.draws, replyless whole, List.append_nil]
      refine ⟨faithful.account.moved idle same (fun deaf => ?_), same, by simp⟩
      exact absurd (deaf.takes whole) (by simp)

/-- A call that gives the client only what is its own: a reply to this very request and to no other one,
and an event without taking a reply away. -/
structure Matched (serial : Nat) (talk : Talk) (call : Call)
    (outcome : Connection × Except ProtocolError call.Result) : Prop where
  own : ∀ kind payload result, call.asks? = some (kind, payload) → outcome.2 = .ok result →
    ∃ reply, talk.Own serial ⟨kind.code, payload⟩ reply ∧ call.Makes reply result
  expected : ∀ expected actual, outcome.2 ≠ .error (.unexpectedReply expected actual)
  kept : call.asks? = none → Wire.repliesIn outcome.1.arrived.reverse = talk.taken

theorem Faithful.returns (faithful : talk.Faithful serial) {call : Call} {fault : Option OsError}
    (calling : talk.calling = some call) (permitted : talk.Permits serial (.returns fault)) :
    Account serial { talk with connection := (talk.outcome call fault).1, calling := none } ∧
      talk.Matched serial call (talk.outcome call fault) := by
  obtain ⟨closing, unwritten⟩ := permitted.calling calling
  have based : Faithful serial { talk with
      connection := { talk.connection with writeFault := fault } } :=
    faithful.rebased rfl rfl rfl
  cases asks : call.asks? with
  | some asked =>
    obtain ⟨kind, payload⟩ := asked
    have awaits : talk.awaited =
        if payload.length ≤ Wire.maxLength then [⟨kind.code, payload⟩] else [] := by
      rw [awaited, calling, Option.bind_some, Call.message?, asks]
      simp only
      split <;> rfl
    have follows := Connection.perform_snd asks { talk.connection with writeFault := fault }
    obtain ⟨account, own, expected⟩ := based.request rfl awaits
      (fun closed => closing (Connection.Follows.error (closed ▸ follows))) unwritten
    rw [← Connection.perform_fst asks] at account
    refine ⟨account, ?_, ?_, fun silent => by simp [asks] at silent⟩
    · intro kind payload result same made
      cases asks.symm.trans same
      rw [outcome] at made
      obtain ⟨reply, replied, makes⟩ := Connection.Follows.ok (made ▸ follows)
      obtain ⟨requests, exchange, kind, plain⟩ := own reply replied
      exact ⟨reply, ⟨requests, exchange, kind, plain⟩, makes⟩
    · intro wanted actual unexpected
      rw [outcome] at unexpected
      exact expected wanted actual (Connection.Follows.unexpected (unexpected ▸ follows))
  | none => cases call with
    | request | requestJson | subscribe => cases asks
    | nextEvent =>
      have idle : talk.awaited = [] := by
        rw [awaited, calling]
        rfl
      obtain ⟨account, kept, expected⟩ := based.nextEvent rfl idle closing
      exact ⟨account, by simp [Call.asks?], expected, fun _ => kept⟩

theorem faithful_start (layout : Layout) (maxMessage maxBacklog : Nat) (socketPath : Option String)
    (serial : Nat) : (start layout maxMessage maxBacklog socketPath).Faithful serial where
  served := served_start layout maxMessage maxBacklog socketPath serial
  hearing := hearing_start layout maxMessage maxBacklog socketPath
  account := .even rfl

theorem Faithful.carried (faithful : talk.Faithful serial) {running : Running}
    (served : Served serial { talk with running })
    (grows : talk.journal <:+ journal { talk with running }) :
    Faithful serial { talk with running } := by
  obtain ⟨_, hearing, account⟩ := faithful
  refine ⟨served, ⟨hearing.heard, hearing.fits, hearing.falls, hearing.ended⟩, ?_⟩
  cases account with
  | even even => exact .even even
  | closed closed all =>
    -- A client whose connection is closed gets no more replies.
    obtain ⟨cause, dropped⟩ := closed
    obtain ⟨limit, arrived, resting⟩ := served.resting
    obtain ⟨later, grown⟩ := grows
    have lawful : Lawful _ (journal { talk with running }) := resting.coherent.lawful
    refine .closed ⟨cause, grown ▸ List.mem_append_right later dropped⟩ ?_
    rw [← grown] at lawful ⊢
    rw [lawful.replies_of_dropped dropped]
    exact all
  | deaf deaf => exact .deaf deaf

theorem Account.begins (account : talk.Account serial) (free : talk.calling = none) (call : Call) :
    Account serial (talk.step (.begins call)) := by
  cases account with
  | even even =>
    refine .even ?_
    rw [awaited, free] at even
    rw [awaited, Talk.step, Option.bind_some, List.length_append, ← even]
    rfl
  | closed closed all => exact .closed closed all
  | deaf deaf => exact .deaf deaf

theorem Account.hears (account : talk.Account serial) {answer : ReadAnswer}
    (falls : answer.content ≠ [] → talk.ended = false) :
    Account serial (talk.step (.hears answer)) := by
  cases account with
  | even even => exact .even even
  | closed closed all => exact .closed closed all
  | deaf deaf =>
    refine .deaf ?_
    cases deaf with
    | garbled failed => exact .garbled failed
    | silent ended incomplete quiet =>
      refine .silent (by simp [Talk.step, ended]) incomplete (fun other member => ?_)
      rcases List.mem_append.1 member with before | last
      · exact quiet other before
      · rw [List.mem_singleton.1 last]
        by_contra more
        exact absurd (ended.symm.trans (falls more)) (by decide)

theorem Faithful.step (faithful : talk.Faithful serial) {step : Step}
    (permitted : talk.Permits serial step) : (talk.step step).Faithful serial := by
  have served := faithful.served.step permitted
  have hearing := faithful.hearing
  cases step with
  | served happening => exact faithful.carried served (faithful.served.serves permitted).2
  | stopped => exact faithful.carried served faithful.served.stops.2
  | begins call =>
    exact ⟨served, ⟨hearing.heard, hearing.fits, hearing.falls, hearing.ended⟩,
      faithful.account.begins permitted.free call⟩
  | hears answer =>
    exact ⟨served, hearing.hears permitted.falls, faithful.account.hears permitted.falls⟩
  | returns fault =>
    obtain ⟨call, calling⟩ := permitted.called
    obtain ⟨account, _⟩ := faithful.returns calling permitted
    obtain ⟨messages, draws, _⟩ :=
      Connection.perform_draws { talk.connection with writeFault := fault } call
    have heard := hearing.draws ⟨draws.arrived, draws.bytes, draws.fits⟩ none
    rw [Talk.step, calling] at served ⊢
    exact ⟨served, heard, account⟩

theorem Faithful.run (faithful : talk.Faithful serial) {steps : List Step}
    (permitted : talk.PermitsAll serial steps) : (talk.run steps).Faithful serial := by
  induction steps generalizing talk with
  | nil => exact faithful
  | cons step steps ih =>
    obtain ⟨first, others⟩ := permitted
    exact ih (faithful.step first) others

/-- In every talk, whatever other clients do and whatever is published, a call that returns to the client
a result made of a reply returns what it makes of the reply that the server gave to this very request;
no request ends because of the reply to another one; and waiting for an event takes no reply away. -/
theorem replies_own (layout : Layout) (maxMessage maxBacklog : Nat) (socketPath : Option String)
    (serial : Nat) (steps : List Step)
    (permitted : (start layout maxMessage maxBacklog socketPath).PermitsAll serial steps)
    {call : Call} {fault : Option OsError}
    (calling : ((start layout maxMessage maxBacklog socketPath).run steps).calling = some call)
    (returns : ((start layout maxMessage maxBacklog socketPath).run steps).Permits serial
      (.returns fault)) :
    ((start layout maxMessage maxBacklog socketPath).run steps).Matched serial call
      (((start layout maxMessage maxBacklog socketPath).run steps).outcome call fault) :=
  (((faithful_start layout maxMessage maxBacklog socketPath serial).run permitted).returns calling
    returns).2

def inquiry : List Step :=
  [.served (.waited [] false (some (.newcomers [(7, {})]))),
    .begins (.request .getVersion []),
    .served (.waited [] false (some (.client 7
      (.ready false (some (.bytes (Wire.frame ⟨7, []⟩))))))),
    .hears (.bytes Wire.magic),
    .hears (.bytes ((Wire.frame ⟨7, version.toJson.bytes⟩).drop 6))]

theorem inquiry_outcome :
    (((start bare 64 4096 none).run inquiry).outcome (.request .getVersion []) none).2 =
      .ok ⟨7, version.toJson.bytes⟩ := by
  let base : Connection :=
    { reads := [.bytes Wire.magic, .bytes ((Wire.frame ⟨7, version.toJson.bytes⟩).drop 6)]
      sent := [⟨7, []⟩] }
  have received : base.receive.2 = .ok ⟨7, version.toJson.bytes⟩ := by decide
  change (base.awaitReply .getVersion).2 = _
  unfold Connection.awaitReply Connection.awaitReplyAfter
  split
  · rename_i failed
    rw [failed] at received
    cases received
  · rename_i taken
    rw [taken] at received
    cases received
    rfl

theorem replies_own_of_inquiry :
    (start bare 64 4096 none).PermitsAll 0 inquiry ∧
      ((start bare 64 4096 none).run inquiry).calling = some (.request .getVersion []) ∧
      ((start bare 64 4096 none).run inquiry).Permits 0 (.returns none) ∧
      ((start bare 64 4096 none).run inquiry).Own 0 ⟨7, []⟩ ⟨7, version.toJson.bytes⟩ := by
  have permitted : (start bare 64 4096 none).PermitsAll 0 inquiry := by
    have served : ∃ client ∈ ((start bare 64 4096 none).run inquiry).running.server.registry.clients ++
        ((start bare 64 4096 none).run inquiry).running.server.registry.departed,
        client.serial = 0 ∧
          client.socket.accepted = Wire.frame ⟨7, version.toJson.bytes⟩ := by decide
    obtain ⟨client, member, own, written⟩ := served
    refine ⟨.served ?_ ?_ (by decide), .begins rfl, .served ?_ ?_ (by decide),
      .hears (by decide) rfl member own ?_, .hears (by decide) rfl member own ?_, True.intro⟩
    · rintro _ _ ⟨⟩
      exact ⟨rfl, True.intro⟩
    · refine ⟨by simp, ?_⟩
      rintro _ ⟨⟩
      simp [Caller.wake, Wake.IsProper, Socket.accepted]
    · rintro _ _ ⟨⟩
      exact True.intro
    · refine ⟨by simp, ?_⟩
      rintro _ ⟨⟩
      exact True.intro
    · rw [written]
      decide
    · rw [written]
      decide
  have calling : ((start bare 64 4096 none).run inquiry).calling =
      some (.request .getVersion []) := rfl
  have returns : ((start bare 64 4096 none).run inquiry).Permits 0 (.returns none) := by
    refine .returns calling (fun closed => ?_) (fun fault => absurd rfl fault)
    cases closed.symm.trans inquiry_outcome
  have matched := replies_own bare 64 4096 none 0 inquiry permitted calling returns
  obtain ⟨reply, own, made⟩ := matched.own .getVersion [] _ rfl inquiry_outcome
  cases made
  exact ⟨permitted, calling, returns, own⟩

end TileServer.Talk
