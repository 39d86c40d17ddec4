import Mathlib.Data.List.Nodup
import TileServer.Proofs.Server.History
import TileServer.Proofs.Wire.Decoding

namespace TileServer

/-- Whether a message has a type code that requests have, so that it is answered. -/
def Wire.Message.IsRequest (message : Wire.Message) : Prop := message.kind ≤ 7

def Wire.Message.IsSubscription (message : Wire.Message) : Prop :=
  message.kind = Wire.RequestKind.subscribe.code

/-- What a reply has to be for the message that it answers. -/
structure Answers (message reply : Wire.Message) : Prop where
  known : message.IsRequest
  kind : reply.kind = message.kind
  subscription : message.IsSubscription →
    reply.payload = (SuccessReply.mk (Server.subscription? message.payload).isSome).toJson.bytes

def followers (name : String) (journal : List Deed) : List Nat :=
  (live journal).filter (fun serial => follows serial name journal)

/-- The clients that an event is queued for. -/
def audience (event : Event) (journal : List Deed) : List Nat :=
  if event.payload.length ≤ Wire.maxLength then followers event.name journal else []

def publication (event : Event) (journal : List Deed) : List Deed :=
  ((audience event journal).map (fun serial => Deed.notified serial event.message)).reverse ++
    [.published event]

/-- Whether all complete frames that a client sent were handled. -/
def Settled (maxPayload : Nat) (serial : Nat) (journal : List Deed) : Prop :=
  tell (Deed.requestsOf serial) journal =
    (Wire.decodeAll maxPayload (tell (Deed.bytesOf serial) journal)).messages

def Cause.IsSudden : Cause → Prop
  | .overflowed | .unanswerable => True
  | _ => False

def Phase.IsFree (phase : Phase) : Prop := ∀ event, phase ≠ .heralding event

/-- What a server that reads payloads up to a bound does after its past, beside publishing. -/
inductive Allowed (maxPayload : Nat) (past : List Deed) : Deed → Prop
  | accepted {serial : Nat} (idle : phase past = .idle)
      (fresh : ∀ deed ∈ past, deed.serial? ≠ some serial) :
      Allowed maxPayload past (.accepted serial)
  | read {serial : Nat} {bytes : Bytes} (idle : phase past = .idle)
      (registered : serial ∈ live past) : Allowed maxPayload past (.read serial bytes)
  | request {serial : Nat} {message : Wire.Message} (idle : phase past = .idle)
      (registered : serial ∈ live past)
      (next : tell (Deed.requestsOf serial) past ++ [message] <+:
        (Wire.decodeAll maxPayload (tell (Deed.bytesOf serial) past)).messages) :
      Allowed maxPayload past (.request serial message)
  | subscribed {serial : Nat} {message : Wire.Message} {events : List String}
      (handled : phase past = .handling serial message) (registered : serial ∈ live past)
      (subscription : message.IsSubscription)
      (wanted : Server.subscription? message.payload = some events) :
      Allowed maxPayload past (.subscribed serial events)
  | reply {serial : Nat} {message reply : Wire.Message}
      (handled : phase past = .handling serial message) (registered : serial ∈ live past)
      (answers : Answers message reply) : Allowed maxPayload past (.reply serial reply)
  | finished {serial : Nat} {message : Wire.Message}
      (handled : phase past = .answered serial message ∨
        phase past = .handling serial message ∧ (message.IsRequest → serial ∉ live past)) :
      Allowed maxPayload past (.finished serial)
  | arrived {event : Event} (idle : phase past = .idle) :
      Allowed maxPayload past (.arrived event)
  | rendered (free : (phase past).IsFree) : Allowed maxPayload past .rendered
  | dropped {serial : Nat} {cause : Cause} (free : (phase past).IsFree)
      (registered : serial ∈ live past)
      (settled : ¬ cause.IsSudden → phase past = .idle ∧ Settled maxPayload serial past) :
      Allowed maxPayload past (.dropped serial cause)

/-- The journals of a server that reads payloads up to a bound, latest deed first. -/
inductive Lawful (maxPayload : Nat) : List Deed → Prop
  | start : Lawful maxPayload []
  | step {past : List Deed} {deed : Deed} (lawful : Lawful maxPayload past)
      (allowed : Allowed maxPayload past deed) : Lawful maxPayload (deed :: past)
  | published {past : List Deed} {event : Event} (lawful : Lawful maxPayload past)
      (awaited : ∀ other, phase past = .heralding other → other = event)
      (plain : ∀ serial message, phase past = .handling serial message →
        ¬ message.IsSubscription) :
      Lawful maxPayload (publication event past ++ past)

theorem mem_audience {serial : Nat} {event : Event} {journal : List Deed} :
    serial ∈ audience event journal ↔
      serial ∈ live journal ∧ follows serial event.name journal ∧
        event.payload.length ≤ Wire.maxLength := by
  unfold audience followers
  by_cases fits : event.payload.length ≤ Wire.maxLength
  · simp [fits]
  · simp [fits]

theorem mem_publication {event : Event} {journal : List Deed} {deed : Deed} :
    deed ∈ publication event journal ↔
      (∃ serial ∈ audience event journal, Deed.notified serial event.message = deed) ∨
        deed = .published event := by
  simp only [publication, List.mem_append, List.mem_reverse, List.mem_map, List.mem_singleton]

theorem outward_of_publication {event : Event} {journal : List Deed} {deed : Deed}
    (member : deed ∈ publication event journal) : deed.IsOutward := by
  rcases mem_publication.1 member with ⟨serial, _, rfl⟩ | rfl <;> exact True.intro

theorem arrivals_of_publication {event : Event} {journal : List Deed} {deed : Deed}
    (member : deed ∈ publication event journal) : deed.arrivals = [] := by
  rcases mem_publication.1 member with ⟨serial, _, rfl⟩ | rfl <;> rfl

theorem exchangeOf_of_publication {event : Event} {journal : List Deed} {deed : Deed}
    (member : deed ∈ publication event journal) (serial : Nat) : deed.exchangeOf serial = [] := by
  rcases mem_publication.1 member with ⟨other, _, rfl⟩ | rfl <;> rfl

theorem requests_publication (serial : Nat) (event : Event) (past : List Deed) :
    tell (Deed.requestsOf serial) (publication event past ++ past) =
      tell (Deed.requestsOf serial) past :=
  tell_of_silent past (fun _ member =>
    (Deed.isSilent_of_outward (outward_of_publication member) serial).requests)

theorem bytes_publication (serial : Nat) (event : Event) (past : List Deed) :
    tell (Deed.bytesOf serial) (publication event past ++ past) = tell (Deed.bytesOf serial) past :=
  tell_of_silent past (fun _ member =>
    (Deed.isSilent_of_outward (outward_of_publication member) serial).bytes)

theorem live_publication (event : Event) (past : List Deed) :
    live (publication event past ++ past) = live past :=
  live_of_outward past (fun _ member => outward_of_publication member)

theorem phase_publication (event : Event) (past : List Deed) :
    phase (publication event past ++ past) = (phase past).after (.published event) := by
  have skip : ∀ (serials : List Nat) (journal : List Deed),
      phase (serials.map (fun serial => Deed.notified serial event.message) ++ journal) =
        phase journal := by
    intro serials journal
    induction serials with
    | nil => rfl
    | cons serial serials ih => exact ih
  rw [publication, ← List.map_reverse, List.append_assoc, skip]
  rfl

theorem split_notices {message : Wire.Message} {serials : List Nat} {tail later older : List Deed}
    {deed : Deed}
    (split : serials.map (fun serial => Deed.notified serial message) ++ tail =
      later ++ deed :: older) :
    (∃ back, later = serials.map (fun serial => Deed.notified serial message) ++ back ∧
        tail = back ++ deed :: older) ∨
      ∃ serial ∈ serials, ∃ others : List Nat, deed = .notified serial message ∧
        older = others.map (fun other => Deed.notified other message) ++ tail := by
  induction serials generalizing later with
  | nil => exact Or.inl ⟨later, rfl, split⟩
  | cons serial serials ih =>
    cases later with
    | nil =>
      cases split
      exact Or.inr ⟨serial, List.mem_cons_self, serials, rfl, rfl⟩
    | cons first later =>
      simp only [List.map_cons, List.cons_append, List.cons.injEq] at split
      obtain ⟨rfl, split⟩ := split
      rcases ih split with ⟨back, rfl, tails⟩ | ⟨other, member, others, deeds, olders⟩
      · exact Or.inl ⟨back, rfl, tails⟩
      · exact Or.inr ⟨other, List.mem_cons_of_mem _ member, others, deeds, olders⟩

theorem split_publication {event : Event} {past later older : List Deed} {deed : Deed}
    (split : publication event past ++ past = later ++ deed :: older) :
    (deed = .published event ∧ older = past) ∨
      (∃ serial ∈ audience event past, ∃ others : List Nat,
        deed = .notified serial event.message ∧
          older = others.map (fun other => Deed.notified other event.message) ++
            .published event :: past) ∨
      ∃ back, later = publication event past ++ back ∧ past = back ++ deed :: older := by
  simp only [publication, ← List.map_reverse, List.append_assoc, List.cons_append,
    List.nil_append] at split ⊢
  rcases split_notices split with ⟨back, rfl, tails⟩ | ⟨serial, member, others, deeds, olders⟩
  · cases back with
    | nil =>
      cases tails
      exact Or.inl ⟨rfl, rfl⟩
    | cons first back =>
      simp only [List.cons_append, List.cons.injEq] at tails
      obtain ⟨rfl, tails⟩ := tails
      exact Or.inr (Or.inr ⟨back, rfl, tails⟩)
  · exact Or.inr (Or.inl ⟨serial, List.mem_reverse.1 member, others, deeds, olders⟩)

namespace Lawful

variable {maxPayload : Nat} {journal later past : List Deed}

theorem allowed {deed : Deed} (lawful : Lawful maxPayload (later ++ deed :: past))
    (alone : ∀ event, deed ≠ .published event)
    (untold : ∀ serial message, deed ≠ .notified serial message) :
    Lawful maxPayload past ∧ Allowed maxPayload past deed := by
  generalize whole : later ++ deed :: past = journal at lawful
  induction lawful generalizing later with
  | start => simp at whole
  | step lawful allowed ih =>
    cases later with
    | nil =>
      cases whole
      exact ⟨lawful, allowed⟩
    | cons first later =>
      simp only [List.cons_append, List.cons.injEq] at whole
      exact ih whole.2
  | published lawful awaited plain ih =>
    rcases split_publication whole.symm with ⟨same, _⟩ | ⟨_, _, _, same, _⟩ | ⟨back, _, split⟩
    · exact absurd same (alone _)
    · exact absurd same (untold _ _)
    · exact ih split.symm

theorem notified {serial : Nat} {message : Wire.Message}
    (lawful : Lawful maxPayload (later ++ .notified serial message :: past)) :
    ∃ (event : Event) (older : List Deed) (others : List Nat),
      message = event.message ∧ serial ∈ audience event older ∧
      past = others.map (fun other => Deed.notified other message) ++ .published event :: older ∧
      Lawful maxPayload older ∧
      ∀ serial message, phase older = .handling serial message → ¬ message.IsSubscription := by
  generalize whole : later ++ .notified serial message :: past = journal at lawful
  induction lawful generalizing later with
  | start => simp at whole
  | step lawful allowed ih =>
    cases later with
    | nil =>
      cases whole
      cases allowed
    | cons first later =>
      simp only [List.cons_append, List.cons.injEq] at whole
      exact ih whole.2
  | @published older event lawful awaited plain ih =>
    rcases split_publication whole.symm with ⟨same, _⟩ | ⟨_, member, others, same, rest⟩ |
      ⟨back, _, split⟩
    · cases same
    · cases same
      exact ⟨event, older, others, rfl, member, rest, lawful, plain⟩
    · exact ih split.symm

theorem arrived {event : Event} (lawful : Lawful maxPayload (later ++ .arrived event :: past)) :
    later = [] ∨ ∃ rest, later = rest ++ [.published event] := by
  generalize whole : later ++ .arrived event :: past = journal at lawful
  induction lawful generalizing later with
  | start => simp at whole
  | @step older deed lawful allowed ih =>
    cases later with
    | nil => exact Or.inl rfl
    | cons first later =>
      simp only [List.cons_append, List.cons.injEq] at whole
      obtain ⟨rfl, whole⟩ := whole
      right
      rcases ih whole with rfl | ⟨rest, rfl⟩
      -- Nothing but the publication is allowed while the event is heralded.
      · have heralds : phase older = .heralding event := by
          rw [← whole]
          rfl
        cases allowed with
        | accepted idle => rw [heralds] at idle; cases idle
        | read idle => rw [heralds] at idle; cases idle
        | request idle => rw [heralds] at idle; cases idle
        | subscribed handled => rw [heralds] at handled; cases handled
        | reply handled => rw [heralds] at handled; cases handled
        | finished handled =>
          rw [heralds] at handled
          rcases handled with handled | ⟨handled, _⟩ <;> cases handled
        | arrived idle => rw [heralds] at idle; cases idle
        | rendered free => exact absurd heralds (free event)
        | dropped free => exact absurd heralds (free event)
      · exact ⟨first :: rest, rfl⟩
  | @published older other lawful awaited plain ih =>
    right
    rcases split_publication whole.symm with ⟨same, _⟩ | ⟨_, _, _, same, _⟩ | ⟨back, rfl, split⟩
    · cases same
    · cases same
    · rcases ih split.symm with rfl | ⟨rest, rfl⟩
      · have heralds : phase older = .heralding event := by
          rw [split]
          rfl
        rw [← awaited event heralds, List.append_nil]
        exact ⟨_, rfl⟩
      · exact ⟨publication other older ++ rest, by rw [List.append_assoc]⟩

end Lawful

theorem accepted_of_live {serial : Nat} {journal : List Deed} (registered : serial ∈ live journal) :
    Deed.accepted serial ∈ journal := by
  induction journal with
  | nil => cases registered
  | cons deed past ih =>
    cases deed with
    | accepted other =>
      simp only [live, List.mem_append, List.mem_singleton] at registered
      rcases registered with before | rfl
      · exact List.mem_cons_of_mem _ (ih before)
      · exact List.mem_cons_self
    | dropped other cause => exact List.mem_cons_of_mem _ (ih (List.mem_of_mem_erase registered))
    | _ => exact List.mem_cons_of_mem _ (ih registered)

theorem Lawful.once {maxPayload : Nat} {journal : List Deed} (lawful : Lawful maxPayload journal) :
    (live journal).Nodup ∧
      ∀ serial cause, Deed.dropped serial cause ∈ journal → serial ∉ live journal := by
  induction lawful with
  | start => exact ⟨List.nodup_nil, by simp⟩
  | @step past deed lawful allowed ih =>
    obtain ⟨nodup, gone⟩ := ih
    cases allowed with
    | @accepted serial idle fresh =>
      have unknown : serial ∉ live past :=
        fun registered => fresh _ (accepted_of_live registered) rfl
      refine ⟨List.Nodup.append nodup (List.nodup_singleton _) (by simpa using unknown), ?_⟩
      intro other cause member
      simp only [List.mem_cons, reduceCtorEq, false_or] at member
      have different : other ≠ serial := by
        rintro rfl
        exact fresh _ member rfl
      simp [live, gone other cause member, different]
    | @dropped serial cause free registered settled =>
      refine ⟨nodup.erase serial, ?_⟩
      intro other why member
      simp only [live, nodup.mem_erase_iff, not_and]
      simp only [List.mem_cons, Deed.dropped.injEq] at member
      rcases member with ⟨rfl, rfl⟩ | member
      · exact fun different => absurd rfl different
      · exact fun _ => gone other why member
    | _ =>
      refine ⟨nodup, ?_⟩
      intro other why member
      simp only [List.mem_cons, reduceCtorEq, false_or] at member
      exact gone other why member
  | @published past event lawful awaited plain ih =>
    rw [live_publication]
    refine ⟨ih.1, ?_⟩
    intro other why member
    rcases List.mem_append.1 member with new | old
    · exact (outward_of_publication new).elim
    · exact ih.2 other why old

theorem Lawful.not_mem_of_dropped {maxPayload serial : Nat} {later past : List Deed} {cause : Cause}
    {deed : Deed} (lawful : Lawful maxPayload (later ++ past))
    (dropped : .dropped serial cause ∈ past) (alone : ∀ event, deed ≠ .published event)
    (untold : ∀ serial message, deed ≠ .notified serial message)
    (needs : ∀ older, Allowed maxPayload older deed → serial ∈ live older) : deed ∉ later := by
  intro member
  obtain ⟨front, back, rfl⟩ := List.append_of_mem member
  rw [List.append_assoc, List.cons_append] at lawful
  obtain ⟨before, allowed⟩ := lawful.allowed alone untold
  exact before.once.2 serial cause (List.mem_append_right _ dropped) (needs _ allowed)

end TileServer
