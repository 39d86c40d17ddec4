import Mathlib.Data.List.DropRight
import TileServer.Proofs.Os.Files
import TileServer.Proofs.Text.Pieces

namespace TileServer

namespace Path

variable {path piece last : String} {front : List String}

theorem pieces_eq (path : String) :
    pieces path = (path.toList.splitOn '/').map String.ofList := by
  rw [pieces, Text.pieces_eq_splitOnP]
  rfl

theorem intercalate_pieces (path : String) : "/".intercalate (pieces path) = path := by
  apply String.toList_inj.1
  have texts : (pieces path).map String.toList = path.toList.splitOn '/' := by
    rw [pieces_eq, List.map_map]
    exact List.map_id'' (fun _ => String.toList_ofList) _
  rw [String.toList_intercalate, texts]
  exact List.intercalate_splitOn '/'

theorem slash_not_mem (member : piece ∈ pieces path) : '/' ∉ piece.toList := by
  obtain ⟨text, cut, rfl⟩ := List.mem_map.1 member
  intro slash
  rw [String.toList_ofList] at slash
  exact absurd (Text.whole_of_mem_pieces cut '/' slash) (by decide)

theorem pieces_intercalate {items : List String} (nonempty : items ≠ [])
    (whole : ∀ item ∈ items, '/' ∉ item.toList) : pieces ("/".intercalate items) = items := by
  have cut : (("/".intercalate items).toList).splitOn '/' = items.map String.toList := by
    rw [String.toList_intercalate]
    apply List.splitOn_intercalate
    · intro text member
      obtain ⟨item, there, rfl⟩ := List.mem_map.1 member
      exact whole item there
    · simpa using nonempty
  rw [pieces_eq, cut, List.map_map]
  exact List.map_id'' (fun _ => String.ofList_toList) _

theorem parent?_of_named (cut : pieces path = front ++ [last]) (named : isIdle last = false) :
    parent? path = some (if trimPieces front = [] then if isAbsolute path then "/" else ""
      else "/".intercalate (trimPieces front)) := by
  have kept : trimPieces (front ++ [last]) = front ++ [last] :=
    List.rdropWhile_concat_neg isIdle front last (by simp [named])
  rw [parent?, cut, kept]
  cases front with
  | nil => rfl
  | cons first front =>
    have rest : (first :: front ++ [last]).dropLast = first :: front := List.dropLast_concat
    simp only [List.cons_append] at rest ⊢
    rw [rest]
    cases trimPieces (first :: front) <;> rfl

theorem exists_last (filled : path ≠ "") (unslashed : isSlashed path = false) :
    ∃ front last, pieces path = front ++ [last] ∧ last ≠ "" := by
  have whole := intercalate_pieces path
  rcases List.eq_nil_or_concat (pieces path) with empty | ⟨front, last, cut⟩
  · rw [empty] at whole
    exact absurd whole.symm filled
  · rw [List.concat_eq_append] at cut
    refine ⟨front, last, cut, ?_⟩
    rintro rfl
    rw [cut] at whole
    by_cases first : front = []
    · subst first
      exact filled whole.symm
    · rw [String.intercalate_append_of_ne_nil first (List.cons_ne_nil _ _)] at whole
      rw [← whole] at unslashed
      simp [isSlashed] at unslashed

theorem intercalate_trimPieces (cut : pieces path = front ++ [last]) (kept : trimPieces front ≠ []) :
    ∃ rest, path = "/".intercalate (trimPieces front) ++ rest := by
  have around : trimPieces front ++ front.rtakeWhile isIdle = front :=
    List.rdropWhile_append_rtakeWhile
  have behind : front.rtakeWhile isIdle ++ [last] ≠ [] := by simp
  refine ⟨"/" ++ "/".intercalate (front.rtakeWhile isIdle ++ [last]), ?_⟩
  rw [← String.append_assoc, ← String.intercalate_append_of_ne_nil kept behind,
    ← List.append_assoc, around, ← cut, intercalate_pieces]

theorem names_trimPieces (cut : pieces path = front ++ [last]) (kept : trimPieces front ≠ []) :
    names ("/".intercalate (trimPieces front)) =
      (trimPieces front).filter (fun piece => piece != "") := by
  have whole : ∀ piece ∈ trimPieces front, '/' ∉ piece.toList := by
    intro piece member
    have inside : piece ∈ pieces path := by
      rw [cut]
      exact List.mem_append_left _ ((List.rdropWhile_prefix isIdle front).subset member)
    exact slash_not_mem inside
  rw [names, pieces_intercalate kept whole]

end Path

namespace FileSystem

variable {files : FileSystem} {path name name' : String} {directory next parent : Nat} {names : List String}

theorem makeAlong_of_enters (enters : names.foldlM files.enter directory = .ok next) (making : Bool) :
    files.makeAlong making directory names = (files, none) := by
  induction names generalizing directory with
  | nil => rfl
  | cons name names ih =>
    rw [List.foldlM_cons] at enters
    obtain ⟨middle, first, others⟩ := exists_of_bind enters
    simp only [makeAlong, first]
    exact ih others

theorem walk_concat (files : FileSystem) (directory : Nat) (names : List String) (name : String) :
    files.walk directory (names ++ [name]) =
      (names.foldlM files.enter directory).bind (fun next => files.walk next [name]) := by
  induction names generalizing directory with
  | nil => rfl
  | cons first names ih =>
    have step : files.walk directory (first :: (names ++ [name])) =
        (files.enter directory first).bind (fun next => files.walk next (names ++ [name])) := by
      cases names <;> rfl
    rw [List.cons_append, step, List.foldlM_cons]
    cases files.enter directory first with
    | error error => rfl
    | ok next => exact ih next

theorem pathFault?_of_longer {text rest : String} (fits : pathFault? (text ++ rest) = none) :
    pathFault? text = none := by
  unfold pathFault? at fits ⊢
  split at fits
  · cases fits
  · rename_i noZero
    split at fits
    · cases fits
    · rename_i short
      rw [String.utf8ByteSize_append] at short
      rw [String.toList_append, List.contains_iff_mem, List.mem_append, not_or] at noZero
      rw [if_neg (by simpa using noZero.1), if_neg (by omega)]

theorem named_of_walk (leads : files.walk directory [name] = .ok (.child parent name')) :
    name ≠ "." := by
  rintro rfl
  unfold walk enter at leads
  cases leads

theorem entered_of_target (leads : files.target path = .ok (.child parent name))
    (unslashed : Path.isSlashed path = false) :
    ∃ front last next, Path.pieces path = front ++ [last] ∧ Path.isIdle last = false ∧
      (front.filter (fun piece => piece != "")).foldlM files.enter (files.start path) = .ok next := by
  have filled : path ≠ "" := by
    rintro rfl
    cases leads
  obtain ⟨front, last, cut, ends⟩ := Path.exists_last filled unslashed
  have names : Path.names path = front.filter (fun piece => piece != "") ++ [last] := by
    rw [Path.names, cut, List.filter_append, List.filter_cons_of_pos (by simpa using ends)]
    rfl
  unfold target at leads
  split at leads
  · cases leads
  · split at leads
    · cases leads
    · rw [names, walk_concat] at leads
      obtain ⟨next, entered, there⟩ := exists_of_bind leads
      have named : Path.isIdle last = false := by simp [Path.isIdle, ends, named_of_walk there]
      exact ⟨front, last, next, cut, named, entered⟩

theorem start_of_longer {text rest : String} (filled : text ≠ "") :
    files.start (text ++ rest) = files.start text := by
  have letters : text.toList ≠ [] := fun empty => filled (String.toList_eq_nil_iff.1 empty)
  unfold start Path.isAbsolute
  rw [String.toList_append, List.head?_append_of_ne_nil _ letters]

theorem makeDirectories_parent (leads : files.target path = .ok (.child parent name))
    (unslashed : Path.isSlashed path = false) {text : String} (above : Path.parent? path = some text)
    (filled : text ≠ "") : files.makeDirectories text = (files, none) := by
  obtain ⟨front, last, next, cut, named, entered⟩ := entered_of_target leads unslashed
  have fits := pathFault?_of_target leads
  rw [Path.parent?_of_named cut named] at above
  by_cases nameless : Path.trimPieces front = []
  -- Without a name in front of the last one there is only the root to make, if anything.
  · rw [if_pos nameless] at above
    split at above
    · cases above
      rfl
    · cases above
      exact absurd rfl filled
  · rw [if_neg nameless] at above
    cases above
    obtain ⟨rest, whole⟩ := Path.intercalate_trimPieces cut nameless
    have around : Path.trimPieces front ++ front.rtakeWhile Path.isIdle = front :=
      List.rdropWhile_append_rtakeWhile
    rw [← around, List.filter_append, List.foldlM_append, whole, start_of_longer filled] at entered
    obtain ⟨middle, first, _⟩ := exists_of_bind entered
    rw [whole] at fits
    rw [makeDirectories, pathFault?_of_longer fits]
    simp only [Path.names_trimPieces cut nameless]
    exact makeAlong_of_enters first false

end FileSystem

end TileServer
