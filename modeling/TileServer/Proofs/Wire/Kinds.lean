import Mathlib.Tactic.IntervalCases
import TileServer.Wire.Frame
import TileServer.Wire.Kind

namespace TileServer.Wire

namespace RequestKind

theorem code_of_ofCode? {code : UInt32} {kind : RequestKind} (known : ofCode? code = some kind) :
    kind.code = code := by
  have same := List.find?_some known
  exact beq_iff_eq.1 same

theorem code_le (kind : RequestKind) : kind.code ≤ 7 := by
  cases kind <;> decide

theorem exists_ofCode? {code : UInt32} (request : code ≤ 7) : ∃ kind, ofCode? code = some kind := by
  have bound : code.toNat ≤ 7 := UInt32.le_iff_toNat_le.1 request
  rw [← UInt32.ofNat_toNat (x := code)]
  interval_cases code.toNat
  · exact ⟨runCommand, rfl⟩
  · exact ⟨getWorkspaces, rfl⟩
  · exact ⟨subscribe, rfl⟩
  · exact ⟨getOutputs, rfl⟩
  · exact ⟨getTree, rfl⟩
  · exact ⟨getMarks, rfl⟩
  · exact ⟨getBarConfig, rfl⟩
  · exact ⟨getVersion, rfl⟩

theorem not_isEvent_code (kind : RequestKind) : isEvent kind.code = false := by
  cases kind <;> rfl

end RequestKind

theorem isEvent_eventCode (name : String) : isEvent (eventCode name) = true := by
  unfold eventCode
  cases EventKind.ofName? name with
  | none => rfl
  | some kind => cases kind <;> rfl

def Message.IsEvent (message : Message) : Prop := isEvent message.kind = true

def eventsIn (messages : List Message) : List Message :=
  messages.filter (fun message => isEvent message.kind)

def repliesIn (messages : List Message) : List Message :=
  messages.filter (fun message => !isEvent message.kind)

theorem eventsIn_append (first second : List Message) :
    eventsIn (first ++ second) = eventsIn first ++ eventsIn second :=
  List.filter_append ..

theorem repliesIn_append (first second : List Message) :
    repliesIn (first ++ second) = repliesIn first ++ repliesIn second :=
  List.filter_append ..

theorem eventsIn_of_all {messages : List Message} (all : ∀ message ∈ messages, message.IsEvent) :
    eventsIn messages = messages :=
  List.filter_eq_self.2 all

theorem eventsIn_of_none {messages : List Message}
    (eventless : ∀ message ∈ messages, ¬ message.IsEvent) : eventsIn messages = [] :=
  List.filter_eq_nil_iff.2 eventless

theorem repliesIn_of_all {messages : List Message} (all : ∀ message ∈ messages, message.IsEvent) :
    repliesIn messages = [] := by
  refine List.filter_eq_nil_iff.2 (fun message member reply => ?_)
  have event : isEvent message.kind = true := all message member
  rw [event] at reply
  cases reply

theorem repliesIn_of_none {messages : List Message}
    (eventless : ∀ message ∈ messages, ¬ message.IsEvent) : repliesIn messages = messages := by
  refine List.filter_eq_self.2 (fun message member => ?_)
  rw [Bool.not_eq_true']
  exact Bool.not_eq_true _ ▸ eventless message member

end TileServer.Wire
