import TileServer.Layout.Start
import TileServer.Proofs.Layout.Parts
import TileServer.Server.Answer

namespace TileServer

theorem Registry.publishChanges_append (registry : Registry) (first second : List Change) :
    registry.publishChanges (first ++ second) =
      (registry.publishChanges first).publishChanges second :=
  List.foldl_append

theorem CommandError.message_ne_empty {error : CommandError} (other : error ≠ .empty) :
    error.message ≠ CommandError.empty.message := by
  intro same
  -- The other messages are longer, whatever the verb.
  have length : error.message.length = 13 := congrArg String.length same
  cases error with
  | missingName verb =>
    have long : ": missing name".length = 14 := by decide
    change (verb ++ ": missing name").length = 13 at length
    rw [String.length_append] at length
    omega
  | unknown verb =>
    have long : "Unknown command: ".length = 17 := by decide
    change ("Unknown command: " ++ verb).length = 13 at length
    rw [String.length_append] at length
    omega
  | empty => exact other rfl

namespace Server

theorem isSeparator_of_eq {separator : Char} (separates : separator = ';' ∨ separator = ',') :
    Command.isSeparator separator = true := by
  rcases separates with rfl | rfl <;> decide

theorem runCommand_append (server : Server) (first second : List Char) {separator : Char}
    (separates : Command.isSeparator separator = true) :
    server.runCommand (first ++ separator :: second) =
      (((server.runCommand first).1.runCommand second).1,
        (server.runCommand first).2.andThen ((server.runCommand first).1.runCommand second).2) := by
  unfold runCommand Layout.run
  rw [Command.parts_append first second separates, Layout.runParts_append]
  simp only [Layout.Outcome.andThen, Registry.publishChanges_append]

theorem results_runCommand (server : Server) (text : List Char) :
    (server.runCommand text).2.results = (Command.parts text).map Command.reply :=
  Layout.results_runParts server.layout (Command.parts text)

theorem runCommand_of_succeeding {server : Server} {text left : List Char}
    (kept : Command.parts left =
      Command.succeeding (Command.parts text) (server.runCommand text).2.results) :
    server.runCommand left =
      ((server.runCommand text).1, (server.runCommand text).2.successes) := by
  have same : server.layout.run left = (server.layout.run text).successes := by
    have results : (server.runCommand text).2.results =
        (server.layout.runParts (Command.parts text)).results := rfl
    rw [results, Layout.succeeding_results] at kept
    rw [Layout.run, kept, Layout.runParts_filter]
    rfl
  unfold runCommand
  rw [same]
  rfl

/-- To run two texts with a separator between them is to run the one and then the other: the layout, the
clients and what they are sent, the results and the changes are the same. A text has one result for
each piece that is more than blanks, and none says that a command was empty. -/
theorem texts_in_turn (server : Server) :
    (∀ (first second : List Char) (separator : Char), separator = ';' ∨ separator = ',' →
      let one := server.runCommand first
      let other := one.1.runCommand second
      server.runCommand (first ++ separator :: second) =
        (other.1, ⟨other.2.layout, one.2.results ++ other.2.results,
          one.2.needsRender || other.2.needsRender, one.2.changes ++ other.2.changes⟩)) ∧
    ∀ text : List Char,
      (server.runCommand text).2.results.length =
          ((Text.pieces Command.isSeparator text).filter
            (fun piece => !piece.all Text.isBlank)).length ∧
        ∀ result ∈ (server.runCommand text).2.results,
          result.error ≠ some CommandError.empty.message := by
  refine ⟨fun first second separator separates => ?_, fun text => ⟨?_, ?_⟩⟩
  · exact server.runCommand_append first second (isSeparator_of_eq separates)
  · rw [results_runCommand, List.length_map, Command.parts_eq, List.length_map]
    rfl
  · intro result member
    rw [results_runCommand] at member
    obtain ⟨part, there, rfl⟩ := List.mem_map.1 member
    unfold Command.reply
    cases read : Command.read part with
    | ok command => exact nofun
    | error error =>
      have other : error ≠ .empty := fun same => Command.read_ne_empty there (same ▸ read)
      intro same
      exact CommandError.message_ne_empty other (Option.some.inj same)

def watched : Server :=
  ⟨Layout.ofConfig {}, ((Registry.new 64 4096).register 3 {}).subscribe 3 ["workspace"], none⟩

theorem texts_in_turn_of_detour :
    (',' = ';' ∨ ',' = ',') ∧
      (watched.runCommand ("mark a;workspace 2".toList ++ ',' :: " ;frob, workspace 1".toList)).2.results =
        (watched.runCommand "mark a;workspace 2".toList).2.results ++
          ((watched.runCommand "mark a;workspace 2".toList).1.runCommand
            " ;frob, workspace 1".toList).2.results :=
  have separates : ',' = ';' ∨ ',' = ',' := by decide
  ⟨separates, congrArg (fun run => run.2.results) (watched.texts_in_turn.1 _ _ _ separates)⟩

/-- Whether the parts that fail are struck out, or with them the separators and blanks around them, or
whether they are left where they are: the layout, the clients and what they are sent, the changes, the
wish for a render and the successes are the same. Where everything fails nothing happens. -/
theorem failures_removable (server : Server) (text : List Char) :
    server.runCommand (Command.without text (server.runCommand text).2.results) =
        ((server.runCommand text).1, (server.runCommand text).2.successes) ∧
      (∀ left : List Char, Command.parts left =
          Command.succeeding (Command.parts text) (server.runCommand text).2.results →
        server.runCommand left =
          ((server.runCommand text).1, (server.runCommand text).2.successes)) ∧
      ((∀ result ∈ (server.runCommand text).2.results, result.success = false) →
        server.runCommand text =
          (server, ⟨server.layout, (server.runCommand text).2.results, false, []⟩)) := by
  have removable : ∀ left : List Char, Command.parts left =
      Command.succeeding (Command.parts text) (server.runCommand text).2.results →
        server.runCommand left =
          ((server.runCommand text).1, (server.runCommand text).2.successes) :=
    fun left kept => runCommand_of_succeeding kept
  have each : (server.runCommand text).2.results.length = (Command.parts text).length := by
    rw [results_runCommand, List.length_map]
  refine ⟨removable _ (Command.parts_without each), removable, fun failures => ?_⟩
  -- What is left is the empty text, which does nothing.
  have nothing := removable [] (Command.succeeding_of_failures failures).symm
  obtain ⟨same, outcome⟩ := Prod.mk.inj nothing
  rw [Layout.Outcome.successes, Layout.Outcome.mk.injEq] at outcome
  obtain ⟨layout, _, render, changes⟩ := outcome
  apply Prod.ext
  · exact same.symm
  · exact (Layout.Outcome.mk.injEq ..).mpr ⟨layout.symm, rfl, render.symm, changes.symm⟩

def stumbling : List Char := "frob; mark a,workspace ;workspace 2 , mode".toList

theorem failures_removable_of_stumbling :
    Command.without stumbling (watched.runCommand stumbling).2.results =
        "; mark a,;workspace 2 ,".toList ∧
      Command.parts "mark a;workspace 2".toList =
        Command.succeeding (Command.parts stumbling) (watched.runCommand stumbling).2.results ∧
      (watched.runCommand "; mark a,;workspace 2 ,".toList).2.changes =
        (watched.runCommand "mark a;workspace 2".toList).2.changes ∧
      (∀ result ∈ (watched.runCommand "frob,mode".toList).2.results, result.success = false) ∧
      (watched.runCommand "frob,mode".toList).1 = watched := by
  have struck : Command.without stumbling (watched.runCommand stumbling).2.results =
      "; mark a,;workspace 2 ,".toList := by decide +kernel
  have kept : Command.parts "mark a;workspace 2".toList =
      Command.succeeding (Command.parts stumbling) (watched.runCommand stumbling).2.results := by
    decide +kernel
  obtain ⟨removable, left, _⟩ := watched.failures_removable stumbling
  obtain ⟨_, _, nothing⟩ := watched.failures_removable "frob,mode".toList
  have failures : ∀ result ∈ (watched.runCommand "frob,mode".toList).2.results,
      result.success = false := by decide +kernel
  have same : watched.runCommand "; mark a,;workspace 2 ,".toList =
      watched.runCommand "mark a;workspace 2".toList :=
    calc
      _ = watched.runCommand (Command.without stumbling (watched.runCommand stumbling).2.results) :=
        congrArg watched.runCommand struck.symm
      _ = ((watched.runCommand stumbling).1, (watched.runCommand stumbling).2.successes) := removable
      _ = watched.runCommand "mark a;workspace 2".toList := (left _ kept).symm
  exact ⟨struck, kept, congrArg (fun run => run.2.changes) same, failures,
    congrArg Prod.fst (nothing failures)⟩

example : (watched.runCommand stumbling).2.results.map CommandReply.error =
    [some "Unknown command: frob", none, some "workspace: missing name", none,
      some "mode: missing name"] := by
  decide +kernel

end Server

end TileServer
