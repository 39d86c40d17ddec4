import TileServer.Proofs.Server.Reaches

namespace TileServer

namespace Deed

def repliesOf (serial : Nat) : Deed → List Wire.Message
  | reply other message => if other = serial then [message] else []
  | _ => []

theorem requestsOf_exchangeOf (serial : Nat) (deed : Deed) :
    (deed.exchangeOf serial).flatMap (requestsOf serial) = deed.requestsOf serial := by
  cases deed with
  | request other message | reply other message =>
    by_cases same : other = serial <;> simp [exchangeOf, requestsOf, same]
  | _ => rfl

theorem repliesOf_exchangeOf (serial : Nat) (deed : Deed) :
    (deed.exchangeOf serial).flatMap (repliesOf serial) = deed.repliesOf serial := by
  cases deed with
  | request other message | reply other message =>
    by_cases same : other = serial <;> simp [exchangeOf, repliesOf, same]
  | _ => rfl

theorem IsProper.repliesIn {deed : Deed} (proper : deed.IsProper) (serial : Nat) :
    Wire.repliesIn (deed.outputOf serial) = deed.repliesOf serial := by
  cases deed with
  | reply other message =>
    have plain : ∀ each ∈ (reply other message).outputOf serial, ¬ each.IsEvent := by
      intro each member
      simp only [outputOf] at member
      split at member
      · rw [List.mem_singleton.1 member]
        exact proper
      · cases member
    exact Wire.repliesIn_of_none plain
  | notified other message =>
    refine Wire.repliesIn_of_all (fun each member => ?_)
    simp only [outputOf] at member
    split at member
    · rw [List.mem_singleton.1 member]
      exact proper
    · cases member
  | _ => rfl

end Deed

theorem tell_flatMap (pick : Deed → List Deed) (each : Deed → List α) (journal : List Deed) :
    (tell pick journal).flatMap each = tell (fun deed => (pick deed).flatMap each) journal := by
  simp [tell, List.flatMap_assoc]

theorem requestsOf_exchange (serial : Nat) (journal : List Deed) :
    (tell (Deed.exchangeOf serial) journal).flatMap (Deed.requestsOf serial) =
      tell (Deed.requestsOf serial) journal := by
  simp only [tell_flatMap, Deed.requestsOf_exchangeOf]

theorem repliesOf_exchange (serial : Nat) (journal : List Deed) :
    (tell (Deed.exchangeOf serial) journal).flatMap (Deed.repliesOf serial) =
      tell (Deed.repliesOf serial) journal := by
  simp only [tell_flatMap, Deed.repliesOf_exchangeOf]

theorem repliesIn_output {journal : List Deed} (proper : ∀ deed ∈ journal, deed.IsProper)
    (serial : Nat) :
    Wire.repliesIn (tell (Deed.outputOf serial) journal) = tell (Deed.repliesOf serial) journal := by
  induction journal with
  | nil => rfl
  | cons deed past ih =>
    obtain ⟨first, others⟩ := List.forall_mem_cons.1 proper
    rw [tell_cons, tell_cons, Wire.repliesIn_append, ih others, first.repliesIn]

namespace Answered

variable {serial : Nat} {exchange : List Deed}

theorem replies_le (answered : Answered serial exchange) :
    (exchange.flatMap (Deed.repliesOf serial)).length ≤
      (exchange.flatMap (Deed.requestsOf serial)).length := by
  induction answered with
  | nil => exact Nat.le_refl _
  | silent before unknown ih =>
    simp only [List.flatMap_append, List.length_append]
    exact Nat.add_le_add ih (Nat.zero_le _)
  | replied before known kind ih =>
    simp only [List.flatMap_append, List.length_append]
    refine Nat.add_le_add ih ?_
    simp [Deed.repliesOf, Deed.requestsOf]

theorem last {older : List Wire.Message} {message : Wire.Message}
    (answered : Answered serial exchange)
    (requests : exchange.flatMap (Deed.requestsOf serial) = older ++ [message])
    (known : message.IsRequest) :
    ∃ front reply, exchange = front ++ [.request serial message, .reply serial reply] ∧
      Answered serial front ∧ reply.kind = message.kind := by
  cases answered with
  | nil => simp at requests
  | @silent front other before unknown =>
    have same : other = message := by
      simp only [List.flatMap_append, Deed.requestsOf, List.flatMap_singleton, if_true] at requests
      exact (List.append_singleton_inj.1 requests).2
    exact absurd (same ▸ known) unknown
  | @replied front other reply before _ kind =>
    have same : other = message := by
      simp only [List.flatMap_append, List.flatMap_cons, List.flatMap_nil, List.append_nil,
        Deed.requestsOf, if_true] at requests
      exact (List.append_singleton_inj.1 requests).2
    subst same
    exact ⟨front, reply, rfl, before, kind⟩

end Answered

theorem Lawful.replies_of_dropped {maxPayload serial : Nat} {later past : List Deed} {cause : Cause}
    (lawful : Lawful maxPayload (later ++ past)) (dropped : .dropped serial cause ∈ past) :
    tell (Deed.repliesOf serial) (later ++ past) = tell (Deed.repliesOf serial) past := by
  refine tell_of_silent past (fun deed member => ?_)
  cases deed with
  | reply other message =>
    refine if_neg (fun same => ?_)
    subst same
    refine lawful.not_mem_of_dropped dropped (by simp) (by simp) ?_ member
    rintro _ ⟨⟩
    assumption
  | _ => rfl

theorem Registry.bytes_drop (registry : Registry) (cause : Cause) (fd serial : Nat) :
    tell (Deed.bytesOf serial) (registry.drop cause fd).journal =
      tell (Deed.bytesOf serial) registry.journal := by
  unfold Registry.drop
  split
  · rfl
  · exact (tell_cons _ _ _).trans (List.append_nil _)

theorem Registry.bytes_dropAll (registry : Registry) (cause : Cause) (fds : List Nat) (serial : Nat) :
    tell (Deed.bytesOf serial) (fds.foldl (Registry.drop cause) registry).journal =
      tell (Deed.bytesOf serial) registry.journal := by
  induction fds generalizing registry with
  | nil => rfl
  | cons fd fds ih => exact (ih _).trans (registry.bytes_drop cause fd serial)

namespace Registry.Resting

variable {registry : Registry} {limit serial : Nat} {arrived : List Event}

theorem replies_le (resting : registry.Resting limit arrived) (serial : Nat) :
    (tell (Deed.repliesOf serial) registry.journal).length ≤
      (tell (Deed.requestsOf serial) registry.journal).length := by
  rw [← requestsOf_exchange, ← repliesOf_exchange]
  rcases (resting.serves serial).answered with answered | ⟨front, last, exchange, answered, _⟩
  · exact answered.replies_le
  · rw [exchange, List.flatMap_append, List.flatMap_append, List.length_append, List.length_append]
    exact Nat.add_le_add answered.replies_le (Nat.zero_le _)

theorem last_answered (resting : registry.Resting limit arrived) {older : List Wire.Message}
    {message : Wire.Message}
    (requests : tell (Deed.requestsOf serial) registry.journal = older ++ [message])
    (known : message.IsRequest)
    (whole : older.length < (tell (Deed.repliesOf serial) registry.journal).length) :
    ∃ front reply,
      tell (Deed.exchangeOf serial) registry.journal =
        front ++ [.request serial message, .reply serial reply] ∧
      Answered serial front ∧ reply.kind = message.kind ∧
      ∃ earlier, tell (Deed.repliesOf serial) registry.journal = earlier ++ [reply] := by
  rw [← requestsOf_exchange] at requests
  rw [← repliesOf_exchange] at whole ⊢
  rcases (resting.serves serial).answered with answered | ⟨front, last, exchange, answered, _⟩
  · obtain ⟨front, reply, exchange, before, kind⟩ := answered.last requests known
    refine ⟨front, reply, exchange, before, kind, front.flatMap (Deed.repliesOf serial), ?_⟩
    rw [exchange, List.flatMap_append]
    simp [Deed.repliesOf]
  -- A client that was cut short has one reply less than requests.
  · have fewer := answered.replies_le
    rw [exchange, List.flatMap_append] at requests whole
    have same := (List.append_singleton_inj.1
      (by simpa [Deed.requestsOf] using requests :
        front.flatMap (Deed.requestsOf serial) ++ [last] = older ++ [message])).1
    rw [same] at fewer
    simp only [Deed.repliesOf, List.flatMap_cons, List.flatMap_nil, List.append_nil] at whole
    omega

end Registry.Resting

end TileServer
