import TileServer.Proofs.Layout.Mirror
import TileServer.Proofs.Layout.Parts

namespace TileServer

def Change.isFocus : Change → Bool
  | .focused _ _ => true
  | _ => false

namespace Layout

def MovesAt (layout : Layout) (parts : List (List Char)) : Prop :=
  ∃ front part back, parts = front ++ part :: back ∧
    (layout.runParts (front ++ [part])).layout.focused ≠ (layout.runParts front).layout.focused

/-- A move of the focus, as it is told by what comes of it. -/
structure Moves (before after : Layout) (moved : Bool) (changes : List Change) : Prop where
  focused : moved = true ↔ after.focused ≠ before.focused
  told : changes.any Change.isFocus = moved

variable {layout : Layout}

theorem moves_focusAt (layout : Layout) (index : Nat) {changes : List Change}
    (calm : changes.any Change.isFocus = false) :
    layout.Moves (layout.focusAt index changes).layout (layout.focusAt index changes).moved
      (layout.focusAt index changes).changes := by
  unfold focusAt
  split
  · exact ⟨iff_of_false nofun (fun other => other rfl), calm⟩
  · rename_i unfocused
    split
    · exact ⟨iff_of_false nofun (fun other => other rfl), calm⟩
    · refine ⟨iff_of_true rfl (fun same => unfocused same.symm), ?_⟩
      rw [List.any_append, calm]
      rfl

theorem moves_focusNamed (layout : Layout) (name : String) :
    layout.Moves (layout.focusNamed name).layout (layout.focusNamed name).moved
      (layout.focusNamed name).changes := by
  unfold focusNamed
  split
  · exact layout.moves_focusAt _ rfl
  · have calm : [Change.opened (layout.ref ⟨name, layout.focusedOutput, false⟩)].any
        Change.isFocus = false := rfl
    have moves := (layout.opened name).moves_focusAt layout.workspaces.length calm
    exact ⟨moves.focused, moves.told⟩

theorem moves_apply (layout : Layout) (command : Command) :
    layout.Moves (layout.apply command).layout (layout.apply command).moved
      (layout.apply command).changes := by
  have still {after : Layout} {changes : List Change} (same : after.focused = layout.focused)
      (calm : changes.any Change.isFocus = false) : layout.Moves after false changes :=
    ⟨iff_of_false nofun (fun other => other same), calm⟩
  cases command with
  | workspace name => exact layout.moves_focusNamed name
  | mark name =>
    refine still ?_ rfl
    simp only [apply]
    split <;> rfl
  | unmark name => cases name <;> exact still rfl rfl
  | mode name => exact still rfl rfl
  | nop => exact still rfl rfl

theorem moves_runPart (layout : Layout) (part : List Char) :
    layout.Moves (layout.runPart part).layout (layout.runPart part).needsRender
      (layout.runPart part).changes := by
  unfold runPart
  split
  · exact layout.moves_apply _
  · exact ⟨iff_of_false nofun (fun other => other rfl), rfl⟩

theorem movesAt_nil (layout : Layout) : ¬ layout.MovesAt [] := by
  rintro ⟨front, part, back, split, _⟩
  cases front <;> cases split

theorem layout_runParts_singleton (layout : Layout) (part : List Char) :
    (layout.runParts [part]).layout = (layout.runPart part).layout := by
  rw [runParts_cons]
  rfl

theorem movesAt_cons (layout : Layout) (part : List Char) (rest : List (List Char)) :
    layout.MovesAt (part :: rest) ↔
      (layout.runPart part).layout.focused ≠ layout.focused ∨
        (layout.runPart part).layout.MovesAt rest := by
  constructor
  · rintro ⟨front, other, back, split, moves⟩
    cases front with
    | nil =>
      cases split
      rw [List.nil_append, layout_runParts_singleton] at moves
      exact .inl moves
    | cons first front =>
      cases split
      refine .inr ⟨front, other, back, rfl, ?_⟩
      rw [List.cons_append, runParts_cons, runParts_cons] at moves
      exact moves
  · rintro (moves | ⟨front, other, back, rfl, moves⟩)
    · refine ⟨[], part, rest, rfl, ?_⟩
      rw [List.nil_append, layout_runParts_singleton]
      exact moves
    · refine ⟨part :: front, other, back, rfl, ?_⟩
      rw [List.cons_append, runParts_cons, runParts_cons]
      exact moves

theorem needsRender_iff_movesAt (layout : Layout) (parts : List (List Char)) :
    (layout.runParts parts).needsRender = true ↔ layout.MovesAt parts := by
  induction parts generalizing layout with
  | nil => exact iff_of_false nofun layout.movesAt_nil
  | cons part parts ih =>
    rw [runParts_cons, movesAt_cons, ← ih, ← (layout.moves_runPart part).focused]
    exact Bool.or_eq_true _ _ ▸ Iff.rfl

theorem any_changes_runParts (layout : Layout) (parts : List (List Char)) :
    (layout.runParts parts).changes.any Change.isFocus = (layout.runParts parts).needsRender := by
  induction parts generalizing layout with
  | nil => rfl
  | cons part parts ih =>
    rw [runParts_cons, Outcome.andThen, List.any_append, ih, (layout.moves_runPart part).told]

end Layout

end TileServer
