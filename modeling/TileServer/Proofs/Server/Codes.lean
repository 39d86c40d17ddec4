import TileServer.Proofs.Server.Reaches

namespace TileServer

/-- An event that is published by its name, or that one of some turns brings with a code of its own. -/
def Event.IsFrom (turns : List Turn) (event : Event) : Prop :=
  event.IsNamed ∨ ∃ turn ∈ turns, turn.Brings event

/-- A deed by which a reply is queued without the bit of events, or an event as it was published. -/
def Deed.IsCoded (turns : List Turn) : Deed → Prop
  | reply _ message => ¬ message.IsEvent
  | notified _ message => ∃ event : Event, message = event.message ∧ event.IsFrom turns
  | _ => True

theorem Deed.IsMute.isCoded {deed : Deed} (mute : deed.IsMute) (turns : List Turn) :
    deed.IsCoded turns := by
  cases deed with
  | reply | notified => exact mute.elim
  | _ => exact True.intro

theorem Wire.RequestKind.code_ne_of_isEvent {code : UInt32} (event : isEvent code = true)
    (kind : RequestKind) : code ≠ kind.code := by
  rintro rfl
  rw [kind.not_isEvent_code] at event
  cases event

open Registry

variable {registry before after : Registry} {operation : Operation} {turn : Turn} {turns : List Turn}

theorem Turn.Does.codes (does : turn.Does registry operation) (among : turn ∈ turns) :
    registry.Continues (Deed.IsCoded turns) (registry.perform operation) := by
  cases operation with
  | register fd socket =>
    have accepted : (Deed.accepted registry.accepted).IsCoded turns := True.intro
    exact continues_cons accepted rfl
  | broadcast event =>
    have source : event.IsFrom turns := does.imp_right (fun brings => ⟨turn, among, brings⟩)
    exact registry.continues_broadcast event True.intro (fun _ => ⟨event, rfl, source⟩)
      (fun _ => True.intro)
  | note deed =>
    have remark : deed.IsRemark := does
    exact continues_cons (remark.isMute.isCoded turns) rfl
  | send fd message =>
    have deals : (Operation.send fd message).fd? = some fd := rfl
    refine continues_perform deals (fun client _ deed noted => ?_)
    obtain rfl := Option.some.inj noted
    exact does.1
  | flushAll | shutdown =>
    obtain ⟨_, _, _, _, deals⟩ := does
    cases deals
  | drop | subscribe | receive =>
    refine continues_perform rfl (fun client _ deed noted => ?_)
    cases noted
    exact True.intro
  | makeRoom | next | flush => exact continues_perform rfl (fun client _ deed noted => nomatch noted)

theorem Registry.Reaches.codes (reaches : before.Reaches turn.Does after) (among : turn ∈ turns) :
    before.Continues (Deed.IsCoded turns) after := by
  induction reaches with
  | refl => exact continues_of_same rfl
  | step _ does ih => exact ih.trans (does.codes among)

namespace Server

variable {server : Server}

theorem prepare_codes (server : Server) (turns : List Turn) :
    server.registry.Continues (Deed.IsCoded turns) server.prepare.registry :=
  continues_dropAll .writeFailed (fun _ => True.intro) _ _

theorem turns_codes {coming : List Turn} (among : ∀ turn ∈ coming, turn ∈ turns)
    (admitted : server.AdmitsAll coming) :
    server.registry.Continues (Deed.IsCoded turns)
      (coming.foldl (fun server turn => (server.turn turn).prepare) server).registry := by
  induction coming generalizing server with
  | nil => exact continues_of_same rfl
  | cons turn coming ih =>
    obtain ⟨first, others⟩ := List.forall_mem_cons.1 among
    obtain ⟨admitted, later⟩ := admitted
    have turned := ((turn_reaches admitted).codes first).trans (prepare_codes _ turns)
    exact turned.trans (ih others later)

theorem run_codes (admitted : server.prepare.AdmitsAll turns) :
    server.registry.Continues (Deed.IsCoded turns) (server.run turns).registry :=
  (server.prepare_codes turns).trans (turns_codes (fun _ => id) admitted)

/-- In every run, a reply never has the bit that tells events, and an event that is queued for a client
has the code that it was published with; so the two are told apart as long as no event comes from
outside the layout with a code that lacks the bit. -/
theorem codes_kept (layout : Layout) (maxMessage maxBacklog : Nat) (socketPath : Option String)
    (turns : List Turn)
    (admitted : (start layout maxMessage maxBacklog socketPath).prepare.AdmitsAll turns) :
    (∀ serial message, Deed.reply serial message ∈
        ((start layout maxMessage maxBacklog socketPath).run turns).registry.journal →
      Wire.isEvent message.kind = false) ∧
    (∀ serial message, Deed.notified serial message ∈
        ((start layout maxMessage maxBacklog socketPath).run turns).registry.journal →
      ∃ event : Event, message = event.message ∧ event.IsFrom turns) ∧
    ((∀ turn ∈ turns, ∀ event, turn.Brings event → Wire.isEvent event.code = true) →
      ∀ serial message, Deed.notified serial message ∈
          ((start layout maxMessage maxBacklog socketPath).run turns).registry.journal →
        Wire.isEvent message.kind = true ∧ ∀ kind : Wire.RequestKind, message.kind ≠ kind.code) := by
  obtain ⟨later, journal, coded⟩ := run_codes admitted
  have all : later = ((start layout maxMessage maxBacklog socketPath).run turns).registry.journal :=
    (List.append_nil later).symm.trans journal.symm
  rw [all] at coded
  refine ⟨fun serial message member => Bool.eq_false_iff.2 (coded _ member),
    fun serial message member => coded _ member, fun masked serial message member => ?_⟩
  obtain ⟨event, rfl, source⟩ := coded _ member
  have marked : Wire.isEvent event.code = true := by
    rcases source with named | ⟨turn, there, brings⟩
    · exact named.isEvent
    · exact masked turn there event brings
  exact ⟨marked, Wire.RequestKind.code_ne_of_isEvent marked⟩

def ticks (code : UInt32) : List Turn :=
  [⟨[], .accepted [(7, {})]⟩,
    ⟨[], .client 7 (.ready false (some (.bytes (Wire.frame ⟨2, (stringsJson ["tick"]).bytes⟩))))⟩,
    ⟨[], .published ⟨"tick", code, [123, 125]⟩⟩]

theorem codes_kept_of_ticks :
    (start bare 64 4096 none).prepare.AdmitsAll (ticks 0x80000007) ∧
      (∀ turn ∈ ticks 0x80000007, ∀ event, turn.Brings event → Wire.isEvent event.code = true) ∧
      Deed.notified 0 ⟨0x80000007, [123, 125]⟩ ∈
        ((start bare 64 4096 none).run (ticks 0x80000007)).registry.journal ∧
      ∀ kind : Wire.RequestKind, (0x80000007 : UInt32) ≠ kind.code := by
  have admitted : (start bare 64 4096 none).prepare.AdmitsAll (ticks 0x80000007) :=
    ⟨⟨rfl, True.intro⟩, True.intro, True.intro, True.intro⟩
  have masked : ∀ turn ∈ ticks 0x80000007, ∀ event, turn.Brings event →
      Wire.isEvent event.code = true := by
    intro turn member event brings
    simp only [ticks, List.mem_cons, List.not_mem_nil, or_false] at member
    rcases member with rfl | rfl | rfl
    · simp [Turn.Brings] at brings
    · simp [Turn.Brings] at brings
    · obtain rfl : (⟨"tick", 0x80000007, [123, 125]⟩ : Event) = event := by simpa [Turn.Brings] using brings
      rfl
  have queued : Deed.notified 0 ⟨0x80000007, [123, 125]⟩ ∈
      ((start bare 64 4096 none).run (ticks 0x80000007)).registry.journal := by
    decide +kernel
  obtain ⟨-, -, marked⟩ := codes_kept bare 64 4096 none _ admitted
  exact ⟨admitted, masked, queued, (marked masked 0 _ queued).2⟩

/-- An event whose frame has the code of the replies to requests for the version. -/
theorem notified_as_reply :
    Deed.notified 0 ⟨7, [123, 125]⟩ ∈ ((start bare 64 4096 none).run (ticks 7)).registry.journal ∧
      Wire.isEvent 7 = false ∧ Wire.RequestKind.getVersion.code = 7 := by
  decide +kernel

end Server

end TileServer
