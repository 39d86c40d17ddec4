import TileServer.Layout.Command
import TileServer.Proofs.Text.Pieces

namespace TileServer

namespace Command

def reply (part : List Char) : CommandReply :=
  match read part with
  | .ok _ => .ok
  | .error error => .failed error

def succeeds (part : List Char) : Bool :=
  (reply part).success

def isCommand (piece : List Char) : Bool :=
  !piece.all Text.isBlank

/-- The pieces of a command text that are commands, as they stand in it. -/
def commands (text : List Char) : List (List Char) :=
  (Text.pieces isSeparator text).filter isCommand

def succeeding (items : List (List Char)) (results : List CommandReply) : List (List Char) :=
  ((items.zip results).filter (fun entry => entry.2.success)).map Prod.fst

/-- Strikes out the pieces whose results are failures. A piece that is no command has no result. -/
def strike : List (List Char) → List CommandReply → List (List Char)
  | [], _ => []
  | piece :: rest, results =>
    if isCommand piece then
      match results with
      | [] => piece :: rest
      | result :: results => (if result.success then piece else []) :: strike rest results
    else piece :: strike rest results

/-- A command text without the pieces whose results are failures; the separators stay. -/
def without (text : List Char) (results : List CommandReply) : List Char :=
  Text.rejoined (strike (Text.pieces isSeparator text) results) (text.filter isSeparator)

theorem named_eq_error {verb : String} {make : String → Command} {words : List (List Char)}
    {error : CommandError} (refused : named verb make words = .error error) :
    error = .missingName verb := by
  cases words with
  | nil => exact (Except.error.inj refused).symm
  | cons word words => cases refused

theorem named_eq_ok {verb : String} {make : String → Command} {words : List (List Char)}
    {command : Command} (reads : named verb make words = .ok command) :
    words ≠ [] ∧ command = make (String.ofList (Text.joined words)) := by
  cases words with
  | nil => cases reads
  | cons word words => exact ⟨List.cons_ne_nil _ _, (Except.ok.inj reads).symm⟩

theorem read_eq_error {part : List Char} {error : CommandError} (refused : read part = .error error) :
    (error = .empty ∧ Text.words part = []) ∨
      (∃ verb ∈ ["workspace", "mark", "mode"], error = .missingName verb) ∨
      ∃ verb ∈ Text.words part, error = .unknown (String.ofList verb) := by
  unfold read at refused
  split at refused
  · rename_i wordless
    exact .inl ⟨(Except.error.inj refused).symm, wordless⟩
  · rename_i verb rest worded
    right
    rw [worded]
    split at refused
    · exact .inl ⟨"workspace", by decide, named_eq_error refused⟩
    · split at refused
      · exact .inl ⟨"mark", by decide, named_eq_error refused⟩
      · split at refused
        · split at refused <;> cases refused
        · split at refused
          · exact .inl ⟨"mode", by decide, named_eq_error refused⟩
          · split at refused
            · cases refused
            · exact .inr ⟨verb, List.mem_cons_self, (Except.error.inj refused).symm⟩

theorem isEmpty_trim (piece : List Char) : (!(Text.trim piece).isEmpty) = isCommand piece := by
  rw [isCommand, Bool.eq_iff_iff, Bool.not_eq_true', Bool.not_eq_true', ← Bool.not_eq_true,
    ← Bool.not_eq_true, List.isEmpty_iff, Text.trim_eq_nil_iff, List.all_eq_true]
  rfl

theorem parts_eq (text : List Char) : parts text = (commands text).map Text.trim := by
  rw [parts, commands, List.filter_map]
  congr 2
  funext piece
  exact isEmpty_trim piece

theorem parts_append (first second : List Char) {separator : Char}
    (separates : isSeparator separator = true) :
    parts (first ++ separator :: second) = parts first ++ parts second := by
  simp only [parts]
  rw [Text.pieces_append first second separates, List.map_append, List.filter_append]

theorem words_ne_nil {text part : List Char} (member : part ∈ parts text) : Text.words part ≠ [] := by
  obtain ⟨cut, filled⟩ := List.mem_filter.1 member
  obtain ⟨piece, _, rfl⟩ := List.mem_map.1 cut
  intro wordless
  rw [Text.words_trim, Text.words_eq_nil_iff, ← Text.trim_eq_nil_iff] at wordless
  rw [wordless] at filled
  cases filled

theorem read_ne_empty {text part : List Char} (member : part ∈ parts text) :
    read part ≠ .error .empty := by
  intro refused
  rcases read_eq_error refused with ⟨_, wordless⟩ | ⟨_, _, other⟩ | ⟨_, _, other⟩
  · exact words_ne_nil member wordless
  · cases other
  · cases other

theorem length_strike (pieces : List (List Char)) (results : List CommandReply) :
    (strike pieces results).length = pieces.length := by
  fun_induction strike pieces results with
  | case1 => rfl
  | case2 => rfl
  | case3 piece rest _ result results ih => exact congrArg (· + 1) ih
  | case4 piece rest results _ ih => exact congrArg (· + 1) ih

theorem mem_strike {pieces : List (List Char)} {results : List CommandReply} {item : List Char}
    (member : item ∈ strike pieces results) : item = [] ∨ item ∈ pieces := by
  fun_induction strike pieces results with
  | case1 => cases member
  | case2 => exact .inr member
  | case3 piece rest _ result results ih =>
    rcases List.mem_cons.1 member with rfl | member
    · split
      · exact .inr List.mem_cons_self
      · exact .inl rfl
    · exact (ih member).imp_right (List.mem_cons_of_mem _)
  | case4 piece rest results _ ih =>
    rcases List.mem_cons.1 member with rfl | member
    · exact .inr List.mem_cons_self
    · exact (ih member).imp_right (List.mem_cons_of_mem _)

theorem pieces_without (text : List Char) (results : List CommandReply) :
    Text.pieces isSeparator (without text results) =
      strike (Text.pieces isSeparator text) results := by
  apply Text.pieces_rejoined
  · rw [length_strike, Text.length_pieces]
  · intro item member
    rcases mem_strike member with rfl | member
    · exact List.forall_mem_nil _
    · exact Text.whole_of_mem_pieces member
  · exact fun mark member => (List.mem_filter.1 member).2

theorem filter_strike {pieces : List (List Char)} {results : List CommandReply}
    (length : results.length = (pieces.filter isCommand).length) :
    (strike pieces results).filter isCommand = succeeding (pieces.filter isCommand) results := by
  fun_induction strike pieces results with
  | case1 results => rfl
  | case2 piece rest command =>
    -- There is a result for every command, so they cannot run out here.
    rw [List.filter_cons_of_pos command] at length
    cases length
  | case3 piece rest command result results ih =>
    rw [List.filter_cons_of_pos command] at length ⊢
    have later := ih (Nat.succ.inj length)
    cases success : result.success with
    | true =>
      rw [if_pos rfl, List.filter_cons_of_pos command, later]
      unfold succeeding
      rw [List.zip_cons_cons, List.filter_cons, if_pos success]
      rfl
    | false =>
      have gone : ¬ isCommand [] = true := by decide
      have failure : ¬ result.success = true := by simp [success]
      rw [if_neg nofun, List.filter_cons_of_neg gone, later]
      unfold succeeding
      rw [List.zip_cons_cons, List.filter_cons, if_neg failure]
  | case4 piece rest results blank ih =>
    rw [List.filter_cons_of_neg blank] at length ⊢
    rw [List.filter_cons_of_neg blank]
    exact ih length

theorem succeeding_map (change : List Char → List Char) (items : List (List Char))
    (results : List CommandReply) :
    succeeding (items.map change) results = (succeeding items results).map change := by
  rw [succeeding, List.zip_map_left, List.filter_map, List.map_map, succeeding, List.map_map]
  rfl

theorem succeeding_of_failures {items : List (List Char)} {results : List CommandReply}
    (failures : ∀ result ∈ results, result.success = false) : succeeding items results = [] := by
  have failed : (items.zip results).filter (fun entry => entry.2.success) = [] := by
    apply List.filter_eq_nil_iff.2
    intro entry member
    rw [failures entry.2 (List.of_mem_zip member).2]
    exact nofun
  rw [succeeding, failed]
  rfl

theorem parts_without {text : List Char} {results : List CommandReply}
    (length : results.length = (parts text).length) :
    parts (without text results) = succeeding (parts text) results := by
  rw [parts_eq, List.length_map] at length
  rw [parts_eq, parts_eq, succeeding_map, commands, pieces_without, filter_strike length, commands]

end Command

namespace Layout

def runPart (layout : Layout) (part : List Char) : Outcome :=
  match Command.read part with
  | .ok command =>
    let effect := layout.apply command
    ⟨effect.layout, [.ok], effect.moved, effect.changes⟩
  | .error error => ⟨layout, [.failed error], false, []⟩

def Outcome.andThen (one other : Outcome) : Outcome :=
  ⟨other.layout, one.results ++ other.results, one.needsRender || other.needsRender,
    one.changes ++ other.changes⟩

/-- What is left of an outcome where failures are not counted. -/
def Outcome.successes (outcome : Outcome) : Outcome :=
  { outcome with results := outcome.results.filter CommandReply.success }

theorem Outcome.andThen_assoc (first second third : Outcome) :
    (first.andThen second).andThen third = first.andThen (second.andThen third) := by
  simp only [andThen, List.append_assoc, Bool.or_assoc]

theorem Outcome.successes_andThen (one other : Outcome) :
    (one.andThen other).successes = one.successes.andThen other.successes := by
  simp only [andThen, successes, List.filter_append]

theorem runParts_cons (layout : Layout) (part : List Char) (rest : List (List Char)) :
    layout.runParts (part :: rest) =
      (layout.runPart part).andThen ((layout.runPart part).layout.runParts rest) := by
  rw [runParts]
  unfold runPart
  cases Command.read part <;> rfl

theorem results_runPart (layout : Layout) (part : List Char) :
    (layout.runPart part).results = [Command.reply part] := by
  unfold runPart Command.reply
  cases Command.read part <;> rfl

theorem runPart_of_success {part : List Char} (success : Command.succeeds part = true)
    (layout : Layout) : (layout.runPart part).successes = layout.runPart part := by
  have kept : [Command.reply part].filter CommandReply.success = [Command.reply part] :=
    List.filter_cons_of_pos success
  rw [Outcome.successes, results_runPart, kept, ← results_runPart layout]

theorem runPart_of_failure {part : List Char} (failure : Command.succeeds part = false)
    (layout : Layout) : (layout.runPart part).successes = ⟨layout, [], false, []⟩ := by
  unfold runPart
  unfold Command.succeeds Command.reply at failure
  cases read : Command.read part with
  | ok command =>
    rw [read] at failure
    cases failure
  | error error => rfl

theorem runParts_append (layout : Layout) (first second : List (List Char)) :
    layout.runParts (first ++ second) =
      (layout.runParts first).andThen ((layout.runParts first).layout.runParts second) := by
  induction first generalizing layout with
  | nil => rfl
  | cons part first ih =>
    rw [List.cons_append, runParts_cons, runParts_cons, ih, Outcome.andThen_assoc]
    rfl

theorem results_runParts (layout : Layout) (parts : List (List Char)) :
    (layout.runParts parts).results = parts.map Command.reply := by
  induction parts generalizing layout with
  | nil => rfl
  | cons part parts ih =>
    rw [runParts_cons, Outcome.andThen, results_runPart, ih]
    rfl

theorem runParts_filter (layout : Layout) (parts : List (List Char)) :
    layout.runParts (parts.filter Command.succeeds) =
      (layout.runParts parts).successes := by
  induction parts generalizing layout with
  | nil => rfl
  | cons part parts ih =>
    rw [runParts_cons, Outcome.successes_andThen]
    cases success : Command.succeeds part with
    | true =>
      rw [List.filter_cons_of_pos success, runParts_cons, ih, runPart_of_success success]
    | false =>
      -- The rest is run from the layout that the failing part was given.
      have failure : ¬ Command.succeeds part = true := by simp [success]
      have same : (layout.runPart part).layout = layout :=
        congrArg Outcome.layout (runPart_of_failure success layout)
      rw [List.filter_cons_of_neg failure, ih, runPart_of_failure success, same]
      rfl

theorem succeeding_results (layout : Layout) (parts : List (List Char)) :
    Command.succeeding parts (layout.runParts parts).results =
      parts.filter Command.succeeds := by
  rw [results_runParts, Command.succeeding, ← List.map_prod_left_eq_zip, List.filter_map,
    List.map_map]
  exact List.map_id _

end Layout

end TileServer
