import TileServer.CommandLine.Sender
import TileServer.Proofs.Layout.Parts
import TileServer.Proofs.Reply.Payloads
import TileServer.Proofs.Server.Commands

namespace TileServer

theorem Command.newline_not_mem {part : List Char} {error : CommandError}
    (refused : read part = .error error) : '\n' ∉ error.message.toList := by
  rcases read_eq_error refused with ⟨rfl, _⟩ | ⟨verb, known, rfl⟩ | ⟨verb, typed, rfl⟩
  · decide
  · simp only [List.mem_cons, List.not_mem_nil, or_false] at known
    rcases known with rfl | rfl | rfl <;> decide
  · change '\n' ∉ ("Unknown command: " ++ String.ofList verb).toList
    rw [String.toList_append, List.mem_append]
    rintro (fixed | own)
    · have absent : '\n' ∉ "Unknown command: ".toList := by decide
      exact absent fixed
    · rw [String.toList_ofList] at own
      have visible := Text.not_blank_of_mem_words typed '\n' own
      cases visible

theorem Command.exists_errors (parts : List (List Char)) :
    ∃ errors : List CommandError,
      (parts.map reply).filter (fun result => !result.success) = errors.map CommandReply.failed ∧
        ∀ error ∈ errors, ∃ part, read part = .error error := by
  induction parts with
  | nil => exact ⟨[], rfl, List.forall_mem_nil _⟩
  | cons part parts ih =>
    obtain ⟨errors, failures, refusals⟩ := ih
    rw [List.map_cons]
    cases refused : read part with
    | ok command =>
      have succeeds : reply part = .ok := by rw [reply, refused]
      refine ⟨errors, ?_, refusals⟩
      rw [succeeds, List.filter_cons_of_neg (by decide), failures]
    | error error =>
      have fails : reply part = .failed error := by rw [reply, refused]
      refine ⟨error :: errors, ?_, List.forall_mem_cons.2 ⟨⟨part, refused⟩, refusals⟩⟩
      rw [fails, List.filter_cons_of_pos rfl, failures]
      rfl

namespace CommandLine

theorem Report.toList_errorText (report : Report) :
    report.errorText.toList =
      (report.errors.map (fun error => ("ERROR: " ++ error).toList)).flatMap (· ++ ['\n']) := by
  unfold errorText
  rw [String.toList_join, List.flatMap_map, List.flatMap_map]
  apply List.flatMap_congr
  intro error _
  rw [String.toList_append]
  rfl

theorem Report.pieces_errorText {report : Report}
    (single : ∀ error ∈ report.errors, '\n' ∉ error.toList) :
    Text.pieces (· == '\n') report.errorText.toList =
      report.errors.map (fun error => ("ERROR: " ++ error).toList) ++ [[]] := by
  rw [report.toList_errorText]
  refine Text.pieces_lines (beq_self_eq_true '\n') ?_
  intro line member c inside
  obtain ⟨error, listed, rfl⟩ := List.mem_map.1 member
  have absent : '\n' ∉ ("ERROR: " ++ error).toList := by
    rw [String.toList_append, List.mem_append, not_or]
    exact ⟨by decide, single error listed⟩
  exact beq_false_of_ne (ne_of_mem_of_not_mem inside absent)

namespace Sender

theorem failures_written {results : List CommandReply} {errors : List CommandError}
    (failed : results.filter (fun result => !result.success) = errors.map CommandReply.failed) :
    failures (Utf8.encodeString (Json.arr (results.map CommandReply.toJson)).text) =
      errors.map CommandError.message := by
  -- The sender reads the text of the reply, and not the bytes that it was given.
  have sent : Utf8.encodeString (Json.arr (results.map CommandReply.toJson)).text =
      (Json.arr (results.map CommandReply.toJson)).bytes := by
    rw [Utf8.encodeString, Json.text, String.toList_ofList, Json.bytes]
  unfold failures
  rw [sent, CommandReply.faithful.list.read?_bytes results]
  change (results.filter (fun result => !result.success)).map
    (fun result => result.error.getD "command failed") = _
  rw [failed, List.map_map]
  rfl

theorem all_success_iff {results : List CommandReply} {errors : List CommandError}
    (failed : results.filter (fun result => !result.success) = errors.map CommandReply.failed) :
    results.all CommandReply.success = true ↔ errors.map CommandError.message = [] := by
  rw [List.map_eq_nil_iff, ← List.map_eq_nil_iff (f := CommandReply.failed), ← failed,
    List.filter_eq_nil_iff, List.all_eq_true]
  simp only [Bool.not_eq_true', Bool.not_eq_false]

theorem errors_reportReply (quiet : Bool) (text : String) :
    (reportReply true quiet text).errors =
      if quiet then [] else failures (Utf8.encodeString text) :=
  rfl

theorem status_reportReply (quiet : Bool) (text : String) :
    (reportReply true quiet text).ending.status =
      if failures (Utf8.encodeString text) = [] then 0 else 2 := by
  cases failed : failures (Utf8.encodeString text) with
  | nil => simp [reportReply, failed, Ending.status]
  | cons error errors => simp [reportReply, failed, Ending.status]

theorem pieces_reportReply {text : String} {messages : List String}
    (listed : failures (Utf8.encodeString text) = messages)
    (single : ∀ message ∈ messages, '\n' ∉ message.toList) (quiet : Bool) :
    Text.pieces (· == '\n') (reportReply true quiet text).errorText.toList =
      (if quiet then [] else messages.map (fun message => ("ERROR: " ++ message).toList)) ++ [[]] := by
  have shown : (reportReply true quiet text).errors = if quiet then [] else messages := by
    rw [errors_reportReply, listed]
  have absent : ∀ error ∈ (reportReply true quiet text).errors, '\n' ∉ error.toList := by
    intro error member
    rw [shown] at member
    cases quiet with
    | true => cases member
    | false => exact single error member
  rw [Report.pieces_errorText absent, shown]
  cases quiet <;> rfl

/-- Whatever state a server is in and whatever command text it is sent, the sender that prints the reply
ends with status 2 if a command failed and with 0 if none did, and it lists on standard error, each on
a line of its own and unless it is to be quiet, the very errors of the commands that failed. -/
theorem status_truthful :
    (∀ command : List Char, Utf8.repair (Utf8.encode command) = command) ∧
    ∀ (server : Server) (fd : Nat) (payload : Bytes),
      ∃ (reply : Bytes) (text : String) (messages : List String),
        (server.dispatch fd ⟨Wire.RequestKind.runCommand.code, payload⟩).payload = some reply ∧
        Utf8.decodeString? reply = some text ∧
        ((server.runCommand (Utf8.repair payload)).2.results.filter
          (fun result => !result.success)).map CommandReply.error = messages.map some ∧
        ∀ quiet : Bool,
          (reportReply true quiet text).ending.status =
            (if (server.runCommand (Utf8.repair payload)).2.results.all CommandReply.success
              then 0 else 2) ∧
          Text.pieces (· == '\n') (reportReply true quiet text).errorText.toList =
            (if quiet then [] else messages.map (fun message => ("ERROR: " ++ message).toList)) ++
              [[]] := by
  refine ⟨fun command => Utf8.repair_of_decode (Utf8.decode_encode command), ?_⟩
  intro server fd payload
  let results := (server.runCommand (Utf8.repair payload)).2.results
  let written := Json.arr (results.map CommandReply.toJson)
  obtain ⟨errors, failed, refusals⟩ := Command.exists_errors (Command.parts (Utf8.repair payload))
  rw [← server.results_runCommand] at failed
  have listed : failures (Utf8.encodeString written.text) = errors.map CommandError.message :=
    failures_written failed
  have single : ∀ message ∈ errors.map CommandError.message, '\n' ∉ message.toList := by
    intro message member
    obtain ⟨error, there, rfl⟩ := List.mem_map.1 member
    obtain ⟨part, refused⟩ := refusals error there
    exact Command.newline_not_mem refused
  refine ⟨Utf8.encodeString written.text, written.text, errors.map CommandError.message, ?_,
    Utf8.decodeString?_encode written.text, ?_, fun quiet => ⟨?_, ?_⟩⟩
  · rw [Utf8.encodeString, Json.text, String.toList_ofList]
    rfl
  · rw [failed, List.map_map, List.map_map]
    rfl
  · rw [status_reportReply, listed]
    simp only [all_success_iff failed]
  · exact pieces_reportReply listed single quiet

end Sender

end CommandLine

end TileServer
