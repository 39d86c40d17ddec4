import TileServer.Proofs.Server.Exchange

namespace TileServer

/-- The messages that a client is owed: those of the events that were published while it was
registered and followed their name, as far as they could be framed. -/
def owed (serial : Nat) : List Deed → List Wire.Message
  | [] => []
  | .published event :: past =>
    if serial ∈ live past ∧ follows serial event.name past ∧ event.payload.length ≤ Wire.maxLength
      then owed serial past ++ [event.message] else owed serial past
  | _ :: past => owed serial past

/-- Whether a subscription of a client to some events was answered with success. -/
def Granted (serial : Nat) (events : List String) (journal : List Deed) : Prop :=
  ∃ message,
    [.request serial message,
        .reply serial ⟨message.kind, (SuccessReply.mk true).toJson.bytes⟩] <:+:
      tell (Deed.exchangeOf serial) journal ∧
    message.IsSubscription ∧ Server.subscription? message.payload = some events

/-- Whether a client asked for the events of a name and was told that it will get them. -/
def Promised (serial : Nat) (name : String) (journal : List Deed) : Prop :=
  ∃ events wanted, Granted serial events journal ∧ wanted ∈ events ∧
    Text.sameFolded wanted name = true

theorem Granted.append {serial : Nat} {events : List String} {past : List Deed}
    (granted : Granted serial events past) (later : List Deed) :
    Granted serial events (later ++ past) := by
  obtain ⟨message, answered, subscription, wanted⟩ := granted
  refine ⟨message, ?_, subscription, wanted⟩
  rw [tell_append]
  exact answered.trans (List.prefix_append _ _).isInfix

/-- What has become of a subscription: it is still being handled, or its client is gone, or it was
answered with success. -/
inductive Subscribed (serial : Nat) (events : List String) (journal : List Deed) : Prop
  | asking {message : Wire.Message} (handled : phase journal = .handling serial message)
      (subscription : message.IsSubscription)
      (wanted : Server.subscription? message.payload = some events) :
      Subscribed serial events journal
  | gone (gone : serial ∉ live journal) : Subscribed serial events journal
  | granted (granted : Granted serial events journal) : Subscribed serial events journal

theorem owed_notices (serial : Nat) (message : Wire.Message) (serials : List Nat)
    (journal : List Deed) :
    owed serial (serials.map (fun other => Deed.notified other message) ++ journal) =
      owed serial journal := by
  induction serials with
  | nil => rfl
  | cons other serials ih => exact ih

theorem owed_publication (serial : Nat) (event : Event) (past : List Deed) :
    owed serial (publication event past ++ past) =
      owed serial past ++ if serial ∈ audience event past then [event.message] else [] := by
  rw [publication, ← List.map_reverse, List.append_assoc, owed_notices]
  simp only [List.singleton_append, owed, mem_audience]
  split
  · rfl
  · rw [List.append_nil]

theorem tell_notices {serials : List Nat} (nodup : serials.Nodup) (serial : Nat)
    (message : Wire.Message) :
    (serials.map (fun other => Deed.notified other message)).flatMap (Deed.noticesTo serial) =
      if serial ∈ serials then [message] else [] := by
  induction serials with
  | nil => rfl
  | cons other serials ih =>
    obtain ⟨fresh, nodup⟩ := List.nodup_cons.1 nodup
    rw [List.map_cons, List.flatMap_cons, ih nodup, Deed.noticesTo]
    by_cases same : other = serial
    · subst same
      simp [fresh]
    · have different : serial ≠ other := fun equal => same equal.symm
      simp [same, different]

theorem tell_publication {event : Event} {past : List Deed} (nodup : (live past).Nodup)
    (serial : Nat) :
    tell (Deed.noticesTo serial) (publication event past) =
      if serial ∈ audience event past then [event.message] else [] := by
  have listed : (audience event past).Nodup := by
    unfold audience followers
    split
    · exact nodup.filter _
    · exact List.nodup_nil
  rw [← tell_notices listed serial event.message, publication, tell_append, tell]
  simp [Deed.noticesTo, tell]

namespace Lawful

variable {maxPayload : Nat} {journal : List Deed}

theorem notices_eq_owed (lawful : Lawful maxPayload journal) (serial : Nat) :
    tell (Deed.noticesTo serial) journal = owed serial journal := by
  induction lawful with
  | start => rfl
  | @step past deed lawful allowed ih =>
    cases allowed <;> exact (tell_cons _ _ _).trans ((List.append_nil _).trans ih)
  | @published past event lawful awaited plain ih =>
    rw [tell_append, tell_publication lawful.once.1, owed_publication, ih]

theorem granted_of_reply {serial : Nat} {message reply : Wire.Message} {events : List String}
    (lawful : Lawful maxPayload journal) (handled : phase journal = .handling serial message)
    (answers : Answers message reply) (subscription : message.IsSubscription)
    (wanted : Server.subscription? message.payload = some events) :
    Granted serial events (.reply serial reply :: journal) := by
  obtain ⟨front, exchange, _⟩ := (lawful.inOrder serial).handling message handled
  have payload := answers.subscription subscription
  rw [wanted, Option.isSome_some] at payload
  have same : reply = ⟨message.kind, (SuccessReply.mk true).toJson.bytes⟩ := by
    rw [← answers.kind, ← payload]
  refine ⟨message, ⟨front, [], ?_⟩, subscription, wanted⟩
  rw [tell_cons, exchange, same]
  simp [Deed.exchangeOf]

theorem subscribed {serial : Nat} {events : List String} (lawful : Lawful maxPayload journal)
    (done : Deed.subscribed serial events ∈ journal) : Subscribed serial events journal := by
  -- A subscription is asked for until its reply is queued or its client is gone, and both last.
  induction lawful with
  | start => cases done
  | @step past deed lawful allowed ih =>
    have go : ∀ (before : .subscribed serial events ∈ past)
        (asks : ∀ message, phase past = .handling serial message → message.IsSubscription →
          Server.subscription? message.payload = some events →
          Subscribed serial events (deed :: past))
        (stays : serial ∉ live past → serial ∉ live (deed :: past)),
        Subscribed serial events (deed :: past) := by
      intro before asks stays
      cases ih before with
      | @asking message handled subscription wanted =>
        exact asks message handled subscription wanted
      | gone gone => exact .gone (stays gone)
      | granted granted => exact .granted (granted.append [deed])
    have idles : ∀ (idle : phase past = .idle) message,
        phase past = .handling serial message → message.IsSubscription →
        Server.subscription? message.payload = some events →
        Subscribed serial events (deed :: past) := by
      intro idle message handled
      rw [idle] at handled
      cases handled
    have lasts : ∀ (same : (phase past).after deed = phase past) message,
        phase past = .handling serial message → message.IsSubscription →
        Server.subscription? message.payload = some events →
        Subscribed serial events (deed :: past) := by
      intro same message handled
      exact .asking (same.trans handled)
    have earlier : (∀ other names, deed ≠ .subscribed other names) →
        .subscribed serial events ∈ past := by
      intro different
      rcases List.mem_cons.1 done with same | before
      · exact absurd same.symm (different serial events)
      · exact before
    cases allowed with
    | @accepted other idle fresh =>
      have before := earlier (by simp)
      refine go before (idles idle) ?_
      have different : serial ≠ other := by
        rintro rfl
        exact fresh _ before rfl
      simp [live, different]
    | read idle registered => exact go (earlier (by simp)) (idles idle) id
    | request idle registered next => exact go (earlier (by simp)) (idles idle) id
    | arrived idle => exact go (earlier (by simp)) (idles idle) id
    | @subscribed other message names handled registered subscription wanted =>
      rcases List.mem_cons.1 done with same | before
      · cases same
        exact .asking handled subscription wanted
      · exact go before (lasts rfl) id
    | @reply other message reply handled registered answers =>
      refine go (earlier (by simp)) ?_ id
      intro asked asking subscription wanted
      rw [handled] at asking
      cases asking
      exact .granted (lawful.granted_of_reply handled answers subscription wanted)
    | @finished other message handled =>
      refine go (earlier (by simp)) ?_ id
      intro asked asking subscription wanted
      rcases handled with answered | ⟨unanswered, gone⟩
      · rw [answered] at asking
        cases asking
      · rw [unanswered] at asking
        cases asking
        have request : message.IsRequest := by
          rw [Wire.Message.IsRequest, subscription]
          decide
        exact .gone (gone request)
    | rendered free => exact go (earlier (by simp)) (lasts rfl) id
    | dropped free registered settled =>
      refine go (earlier (by simp)) (lasts rfl) ?_
      intro gone member
      exact gone (List.mem_of_mem_erase member)
  | @published past event lawful awaited plain ih =>
    rcases List.mem_append.1 done with new | before
    · exact (outward_of_publication new).elim
    · cases ih before with
      | @asking message handled subscription wanted =>
        exact absurd subscription (plain serial message handled)
      | gone gone => exact .gone (by rw [live_publication]; exact gone)
      | granted granted => exact .granted (granted.append _)

theorem exists_subscribed {serial : Nat} {name : String}
    (followed : follows serial name journal = true) :
    ∃ events wanted, Deed.subscribed serial events ∈ journal ∧ wanted ∈ events ∧
      Text.sameFolded wanted name = true := by
  obtain ⟨wanted, member, same⟩ := List.any_eq_true.1 followed
  simp only [tell, List.mem_flatMap, List.mem_reverse] at member
  obtain ⟨deed, done, named⟩ := member
  cases deed with
  | subscribed other events =>
    simp only [Deed.namesOf] at named
    split at named
    · rename_i equal
      subst equal
      exact ⟨events, wanted, done, named, same⟩
    · cases named
  | _ => cases named

theorem promised {serial : Nat} {message : Wire.Message} {later past : List Deed}
    (lawful : Lawful maxPayload (later ++ .notified serial message :: past)) :
    ∃ (event : Event) (older : List Deed) (others : List Nat),
      message = event.message ∧
      past = others.map (fun other => Deed.notified other message) ++ .published event :: older ∧
      Promised serial event.name older := by
  obtain ⟨event, older, others, same, heard, split, before, plain⟩ := lawful.notified
  refine ⟨event, older, others, same, split, ?_⟩
  obtain ⟨registered, followed, _⟩ := mem_audience.1 heard
  obtain ⟨events, wanted, subscribed, member, name⟩ := exists_subscribed followed
  cases before.subscribed subscribed with
  | @asking asked handled subscription _ => exact absurd subscription (plain serial asked handled)
  | gone gone => exact absurd registered gone
  | granted granted => exact ⟨events, wanted, granted, member, name⟩

end Lawful

end TileServer
