import TileServer.Proofs.Connection.Events

namespace TileServer.Connection

/-- A connection that gets no message any more: what it has read begins with no frame, or its stream is
over and it will read nothing. -/
inductive Deaf (ending : Prop) (connection : Connection) : Prop
  | garbled {error : Wire.FrameError}
      (failed : Wire.takeFrame Wire.defaultMaxPayload connection.buffer = .failed error) :
      Deaf ending connection
  | silent (ended : ending)
      (incomplete : Wire.takeFrame Wire.defaultMaxPayload connection.buffer = .incomplete)
      (quiet : ∀ answer ∈ connection.reads, answer.content = []) : Deaf ending connection

variable {ending : Prop} {connection after : Connection}

theorem Deaf.of_same (deaf : connection.Deaf ending) (buffer : after.buffer = connection.buffer)
    (reads : after.reads = connection.reads) : after.Deaf ending := by
  cases deaf with
  | garbled failed => exact .garbled (buffer ▸ failed)
  | silent ended incomplete quiet => exact .silent ended (buffer ▸ incomplete) (reads ▸ quiet)

theorem arrival_failed {buffer : Wire.ByteQueue} {reads : List ReadAnswer} {error : ProtocolError}
    (failed : (arrival buffer reads).result = .error error) :
    (∃ fault, Wire.takeFrame Wire.defaultMaxPayload (arrival buffer reads).buffer = .failed fault) ∨
    Wire.takeFrame Wire.defaultMaxPayload (arrival buffer reads).buffer = .incomplete ∧
      (error = .connectionClosed ∧ (arrival buffer reads).reads = [] ∨
        ∃ front answer, reads = front ++ answer :: (arrival buffer reads).reads ∧
          answer.content = []) := by
  fun_induction arrival buffer reads with
  | case1 => cases failed
  | case2 buffer reads fault garbled => exact .inl ⟨fault, garbled⟩
  | case3 buffer incomplete =>
    cases failed
    exact .inr ⟨incomplete, .inl ⟨rfl, rfl⟩⟩
  | case4 buffer incomplete later => exact .inr ⟨incomplete, .inr ⟨[], .wouldBlock, rfl, rfl⟩⟩
  | case5 buffer incomplete fault later =>
    exact .inr ⟨incomplete, .inr ⟨[], .fails fault, rfl, rfl⟩⟩
  | case6 buffer incomplete later => exact .inr ⟨incomplete, .inr ⟨[], .bytes [], rfl, rfl⟩⟩
  | case7 buffer incomplete byte bytes later ih =>
    rcases ih failed with garbled | ⟨last, closed | ⟨front, answer, split, nothing⟩⟩
    · exact .inl garbled
    · exact .inr ⟨last, .inl closed⟩
    · refine .inr ⟨last, .inr ⟨.bytes (byte :: bytes) :: front, answer, ?_, nothing⟩⟩
      rw [List.cons_append, ← split]

theorem unexpected_arrival (buffer : Wire.ByteQueue) (reads : List ReadAnswer)
    (expected actual : UInt32) :
    (arrival buffer reads).result ≠ .error (.unexpectedReply expected actual) := by
  fun_induction arrival buffer reads with
  | case1 | case2 | case3 | case4 | case5 | case6 => simp
  | case7 _ _ _ _ _ ih => exact ih

theorem expected_of_failed {error : ProtocolError}
    (received : connection.receive = (after, .error error)) (expected actual : UInt32) :
    error ≠ .unexpectedReply expected actual := by
  rintro rfl
  exact unexpected_arrival _ _ expected actual (received_of_eq received).came

def Falls (reads : List ReadAnswer) : Prop :=
  reads.Pairwise (fun earlier later => earlier.content = [] → later.content = [])

theorem deaf_of_failed {error : ProtocolError} (received : connection.receive = (after, .error error))
    (falls : Falls connection.reads)
    (ended : ∀ answer ∈ connection.reads, answer.content = [] → ending)
    (closed : error = .connectionClosed → ending) : after.Deaf ending := by
  obtain ⟨failed, buffer, reads, _⟩ := received_of_eq received
  have verdict := arrival_failed failed
  rw [← buffer, ← reads] at verdict
  rcases verdict with ⟨_, garbled⟩ | ⟨incomplete, ⟨rfl, empty⟩ | ⟨front, answer, split, nothing⟩⟩
  · exact .garbled garbled
  · exact .silent (closed rfl) incomplete (by simp [empty])
  · rw [Falls, split, List.pairwise_append] at falls
    have quiet := (List.pairwise_cons.1 falls.2.1).1
    refine .silent (ended answer ?_ nothing) incomplete (fun later there => quiet later there nothing)
    rw [split]
    exact List.mem_append_right _ List.mem_cons_self

theorem arrival_of_quiet {buffer : Wire.ByteQueue} {reads : List ReadAnswer}
    {message : Wire.Message}
    (incomplete : Wire.takeFrame Wire.defaultMaxPayload buffer = .incomplete)
    (quiet : ∀ answer ∈ reads, answer.content = []) : (arrival buffer reads).result ≠ .ok message := by
  intro taken
  cases reads with
  | nil => simp [arrival, incomplete] at taken
  | cons answer later =>
    have nothing := quiet answer List.mem_cons_self
    cases answer with
    | bytes content =>
      cases content with
      | nil => simp [arrival, incomplete] at taken
      | cons => cases nothing
    | wouldBlock | fails => simp [arrival, incomplete] at taken

theorem Deaf.receive_ne (deaf : connection.Deaf ending) (message : Wire.Message) :
    connection.receive ≠ (after, .ok message) := by
  intro received
  have taken := (received_of_eq received).came
  cases deaf with
  | garbled failed =>
    unfold arrival at taken
    simp only [failed] at taken
    cases taken
  | silent _ incomplete quiet => exact arrival_of_quiet incomplete quiet taken

theorem Deaf.takes (deaf : connection.Deaf ending) {messages : List Wire.Message}
    (takes : Takes messages connection after) : messages = [] := by
  cases takes with
  | nil => rfl
  | cons received _ => exact absurd received (deaf.receive_ne _)

end TileServer.Connection
