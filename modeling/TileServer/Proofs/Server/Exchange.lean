import TileServer.Proofs.Server.Lawful

namespace TileServer

/-- The messages and replies of a client, each request with its reply right behind it. A message of
another type code has none. -/
inductive Answered (serial : Nat) : List Deed → Prop
  | nil : Answered serial []
  | silent {front : List Deed} {message : Wire.Message} (before : Answered serial front)
      (unknown : ¬ message.IsRequest) : Answered serial (front ++ [.request serial message])
  | replied {front : List Deed} {message reply : Wire.Message} (before : Answered serial front)
      (known : message.IsRequest) (kind : reply.kind = message.kind) :
      Answered serial (front ++ [.request serial message, .reply serial reply])

/-- Whether a client was dropped between the beginning and the end of the handling of a message. -/
def DroppedDuring (serial : Nat) (message : Wire.Message) (journal : List Deed) : Prop :=
  ∃ later during past cause,
    journal = later ++ .finished serial :: (during ++ .request serial message :: past) ∧
      Deed.dropped serial cause ∈ during ∧ ∀ other, Deed.finished other ∉ during

/-- Whether a client was dropped before its last request was answered. -/
def CutShort (serial : Nat) (journal : List Deed) : Prop :=
  ∃ front last, tell (Deed.exchangeOf serial) journal = front ++ [.request serial last] ∧
    Answered serial front ∧ last.IsRequest ∧ DroppedDuring serial last journal

theorem DroppedDuring.append {serial : Nat} {message : Wire.Message} {journal : List Deed}
    (during : DroppedDuring serial message journal) (later : List Deed) :
    DroppedDuring serial message (later ++ journal) := by
  obtain ⟨behind, between, past, cause, rfl, dropped, unfinished⟩ := during
  exact ⟨later ++ behind, between, past, cause, by simp, dropped, unfinished⟩

theorem CutShort.dropped {serial : Nat} {journal : List Deed} (cut : CutShort serial journal) :
    ∃ cause, Deed.dropped serial cause ∈ journal := by
  obtain ⟨_, _, _, _, _, _, _, _, cause, rfl, dropped, _⟩ := cut
  exact ⟨cause, by simp [dropped]⟩

theorem CutShort.append {serial : Nat} {journal later : List Deed} (cut : CutShort serial journal)
    (silent : ∀ deed ∈ later, deed.exchangeOf serial = []) : CutShort serial (later ++ journal) := by
  obtain ⟨front, last, exchange, answered, known, during⟩ := cut
  exact ⟨front, last, by rw [tell_of_silent journal silent, exchange], answered, known,
    during.append later⟩

/-- Whether a message has been taken up and nothing has ended since; its sender may be gone. -/
def Ongoing (serial : Nat) (message : Wire.Message) (journal : List Deed) : Prop :=
  ∃ during past, journal = during ++ .request serial message :: past ∧
    (∀ other, Deed.finished other ∉ during) ∧
    (serial ∈ live journal ∨ ∃ cause, Deed.dropped serial cause ∈ during)

theorem Ongoing.cons {serial : Nat} {message : Wire.Message} {journal : List Deed} {deed : Deed}
    (ongoing : Ongoing serial message journal) (inner : ∀ other, Deed.finished other ≠ deed)
    (stays : serial ∈ live journal → serial ∈ live (deed :: journal) ∨
      ∃ cause, Deed.dropped serial cause = deed) :
    Ongoing serial message (deed :: journal) := by
  obtain ⟨during, older, rfl, unfinished, there⟩ := ongoing
  refine ⟨deed :: during, older, rfl, ?_, ?_⟩
  · intro other member
    rcases List.mem_cons.1 member with same | member
    · exact inner other same
    · exact unfinished other member
  · rcases there with there | ⟨cause, dropped⟩
    · rcases stays there with stays | ⟨cause, rfl⟩
      · exact Or.inl stays
      · exact Or.inr ⟨cause, List.mem_cons_self⟩
    · exact Or.inr ⟨cause, List.mem_cons_of_mem _ dropped⟩

/-- A message that is being handled has no reply yet, and all before it have theirs; otherwise all
have, but for one whose sender was dropped meanwhile. -/
structure InOrder (serial : Nat) (journal : List Deed) : Prop where
  handling : ∀ message, phase journal = .handling serial message →
    ∃ front, tell (Deed.exchangeOf serial) journal = front ++ [.request serial message] ∧
      Answered serial front
  otherwise : (∀ message, phase journal ≠ .handling serial message) →
    Answered serial (tell (Deed.exchangeOf serial) journal) ∨ CutShort serial journal

namespace InOrder

variable {serial : Nat} {journal : List Deed}

theorem append {later : List Deed} (before : InOrder serial journal)
    (silent : ∀ deed ∈ later, deed.exchangeOf serial = [])
    (same : ∀ message, phase (later ++ journal) = .handling serial message ↔
      phase journal = .handling serial message) : InOrder serial (later ++ journal) := by
  obtain ⟨handling, otherwise⟩ := before
  refine ⟨?_, ?_⟩
  · intro message handled
    rw [tell_of_silent journal silent]
    exact handling message ((same message).1 handled)
  · intro calm
    rw [tell_of_silent journal silent]
    rcases otherwise (fun message handled => calm message ((same message).2 handled)) with
      answered | cut
    · exact Or.inl answered
    · exact Or.inr (cut.append silent)

theorem cons {deed : Deed} (before : InOrder serial journal) (silent : deed.exchangeOf serial = [])
    (same : ∀ message, phase (deed :: journal) = .handling serial message ↔
      phase journal = .handling serial message) : InOrder serial (deed :: journal) := by
  rw [← List.singleton_append]
  exact before.append (by simpa using silent) same

theorem reply {message reply : Wire.Message} (before : InOrder serial journal)
    (handled : phase journal = .handling serial message) (answers : Answers message reply) :
    InOrder serial (.reply serial reply :: journal) := by
  have after : phase (.reply serial reply :: journal) = .answered serial message := by
    rw [phase, handled]
    rfl
  obtain ⟨front, exchange, answered⟩ := before.handling message handled
  have whole : tell (Deed.exchangeOf serial) (.reply serial reply :: journal) =
      front ++ [.request serial message, .reply serial reply] := by
    rw [tell_cons, exchange]
    simp [Deed.exchangeOf]
  refine ⟨by simp [after], fun _ => Or.inl ?_⟩
  rw [whole]
  exact answered.replied answers.known answers.kind

end InOrder

namespace Lawful

variable {maxPayload : Nat} {journal : List Deed}

theorem not_live_of_cutShort {serial : Nat} (lawful : Lawful maxPayload journal)
    (cut : CutShort serial journal) : serial ∉ live journal := by
  obtain ⟨cause, dropped⟩ := cut.dropped
  exact lawful.once.2 serial cause dropped

theorem since_request {serial : Nat} {message : Wire.Message} (lawful : Lawful maxPayload journal)
    (handled : phase journal = .handling serial message) : Ongoing serial message journal := by
  -- Only a few deeds are done while a message is handled; each goes in front of `during`.
  induction lawful with
  | start => cases handled
  | @step past deed lawful allowed ih =>
    cases allowed with
    | accepted idle => cases idle.symm.trans handled
    | read idle => cases idle.symm.trans handled
    | request idle registered next =>
      cases handled
      exact ⟨[], past, rfl, by simp, Or.inl registered⟩
    | subscribed => exact (ih handled).cons (by simp) Or.inl
    | reply running => rw [phase, running] at handled; cases handled
    | finished => cases handled
    | arrived => cases handled
    | rendered => exact (ih handled).cons (by simp) Or.inl
    | @dropped other cause =>
      refine (ih handled).cons (by simp) (fun registered => ?_)
      by_cases same : other = serial
      · subst same
        exact Or.inr ⟨cause, rfl⟩
      · exact Or.inl ((List.mem_erase_of_ne (fun equal => same equal.symm)).2 registered)
  | @published past event lawful awaited plain ih =>
    rw [phase_publication] at handled
    have calm : phase past = .handling serial message := by
      cases before : phase past <;> rw [before] at handled <;> cases handled
      rfl
    obtain ⟨during, older, split, unfinished, there⟩ := ih calm
    refine ⟨publication event past ++ during, older, by rw [List.append_assoc, ← split], ?_, ?_⟩
    · intro other member
      rcases List.mem_append.1 member with new | old
      · rcases mem_publication.1 new with ⟨_, _, same⟩ | same <;> cases same
      · exact unfinished other old
    · rw [live_publication]
      rcases there with there | ⟨cause, dropped⟩
      · exact Or.inl there
      · exact Or.inr ⟨cause, List.mem_append_right _ dropped⟩

theorem requests_prefix (lawful : Lawful maxPayload journal) (serial : Nat) :
    tell (Deed.requestsOf serial) journal <+:
      (Wire.decodeAll maxPayload (tell (Deed.bytesOf serial) journal)).messages := by
  induction lawful with
  | start => exact List.nil_prefix
  | @step past deed lawful allowed ih =>
    rw [tell_cons, tell_cons]
    cases allowed with
    | read =>
      rw [show Deed.requestsOf serial (.read _ _) = [] from rfl, List.append_nil]
      exact ih.trans (Wire.messages_prefix_append maxPayload _ _)
    | @request other message idle registered next =>
      by_cases same : other = serial
      · subst same
        simpa [Deed.requestsOf, Deed.bytesOf] using next
      · simpa [Deed.requestsOf, Deed.bytesOf, same] using ih
    | _ => simpa [Deed.requestsOf, Deed.bytesOf] using ih
  | @published past event lawful awaited plain ih =>
    rw [requests_publication, bytes_publication]
    exact ih

theorem settled_of_dropped {serial : Nat} {cause : Cause} (lawful : Lawful maxPayload journal)
    (dropped : Deed.dropped serial cause ∈ journal) (calm : ¬ cause.IsSudden) :
    Settled maxPayload serial journal := by
  induction lawful with
  | start => cases dropped
  | @step past deed lawful allowed ih =>
    have gone : ∀ other, .dropped serial cause ∈ past → other ∈ live past → other ≠ serial := by
      rintro other member registered rfl
      exact lawful.once.2 other cause member registered
    unfold Settled at ih ⊢
    rw [tell_cons, tell_cons]
    cases allowed with
    | @dropped other why free registered settled =>
      simp only [List.mem_cons, Deed.dropped.injEq] at dropped
      rcases dropped with ⟨rfl, rfl⟩ | dropped
      · simpa [Deed.requestsOf, Deed.bytesOf, Settled] using (settled calm).2
      · simpa [Deed.requestsOf, Deed.bytesOf] using ih dropped
    | read idle registered =>
      simp only [List.mem_cons, reduceCtorEq, false_or] at dropped
      simpa [Deed.requestsOf, Deed.bytesOf, gone _ dropped registered] using ih dropped
    | request idle registered next =>
      simp only [List.mem_cons, reduceCtorEq, false_or] at dropped
      simpa [Deed.requestsOf, Deed.bytesOf, gone _ dropped registered] using ih dropped
    | _ =>
      simp only [List.mem_cons, reduceCtorEq, false_or] at dropped
      simpa [Deed.requestsOf, Deed.bytesOf] using ih dropped
  | @published past event lawful awaited plain ih =>
    rcases List.mem_append.1 dropped with new | old
    · exact (outward_of_publication new).elim
    · rw [Settled, requests_publication, bytes_publication]
      exact ih old

theorem inOrder_request {serial : Nat} {message : Wire.Message} (lawful : Lawful maxPayload journal)
    (idle : phase journal = .idle) (registered : serial ∈ live journal)
    (before : InOrder serial journal) : InOrder serial (.request serial message :: journal) := by
  have calm : ∀ message, phase journal ≠ .handling serial message := by simp [idle]
  refine ⟨?_, fun silent => absurd rfl (silent message)⟩
  rintro _ ⟨⟩
  refine ⟨tell (Deed.exchangeOf serial) journal, by simp [Deed.exchangeOf], ?_⟩
  rcases before.otherwise calm with answered | cut
  · exact answered
  · exact absurd registered (lawful.not_live_of_cutShort cut)

theorem inOrder_finished {serial : Nat} {message : Wire.Message}
    (lawful : Lawful maxPayload journal) (handled : phase journal = .handling serial message)
    (unanswered : message.IsRequest → serial ∉ live journal) (before : InOrder serial journal) :
    InOrder serial (.finished serial :: journal) := by
  refine ⟨fun _ handled => (by cases handled), fun _ => ?_⟩
  obtain ⟨front, exchange, answered⟩ := before.handling message handled
  have whole : tell (Deed.exchangeOf serial) (.finished serial :: journal) =
      front ++ [.request serial message] := by
    rw [tell_cons, exchange]
    simp [Deed.exchangeOf]
  by_cases known : message.IsRequest
  · right
    obtain ⟨during, older, split, unfinished, there⟩ := lawful.since_request handled
    rcases there with there | ⟨cause, dropped⟩
    · exact absurd there (unanswered known)
    · exact ⟨front, message, whole, answered, known,
        [], during, older, cause, by rw [List.nil_append, ← split], dropped, unfinished⟩
  · left
    rw [whole]
    exact answered.silent known

theorem inOrder (lawful : Lawful maxPayload journal) (serial : Nat) : InOrder serial journal := by
  -- All deeds but a request, a reply and the end of a message leave the exchange and the phase alone.
  induction lawful with
  | start => exact ⟨fun _ handled => (by cases handled), fun _ => Or.inl .nil⟩
  | @step past deed lawful allowed ih =>
    cases allowed with
    | accepted => exact ih.cons rfl (fun _ => Iff.rfl)
    | read => exact ih.cons rfl (fun _ => Iff.rfl)
    | subscribed => exact ih.cons rfl (fun _ => Iff.rfl)
    | rendered => exact ih.cons rfl (fun _ => Iff.rfl)
    | dropped => exact ih.cons rfl (fun _ => Iff.rfl)
    | arrived idle => exact ih.cons rfl (by simp [phase, Phase.after, idle])
    | @request other message idle registered next =>
      by_cases same : other = serial
      · subst same
        exact lawful.inOrder_request idle registered ih
      · exact ih.cons (by simp [Deed.exchangeOf, same]) (by simp [phase, Phase.after, idle, same])
    | @reply other message reply handled registered answers =>
      by_cases same : other = serial
      · subst same
        exact ih.reply handled answers
      · exact ih.cons (by simp [Deed.exchangeOf, same])
          (by simp [phase, Phase.after, handled, same])
    | @finished other message handled =>
      rcases handled with answered | ⟨handled, unanswered⟩
      · exact ih.cons rfl (by simp [phase, Phase.after, answered])
      · by_cases same : other = serial
        · subst same
          exact lawful.inOrder_finished handled unanswered ih
        · exact ih.cons rfl (by simp [phase, Phase.after, handled, same])
  | @published past event lawful awaited plain ih =>
    refine ih.append (fun _ member => exchangeOf_of_publication member serial) ?_
    intro message
    rw [phase_publication]
    cases phase past <;> simp [Phase.after]

end Lawful

end TileServer
