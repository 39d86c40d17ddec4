namespace TileServer

def insertEntry (key value : String) : List (String × String) → List (String × String)
  | [] => [(key, value)]
  | (k, v) :: rest =>
    if key < k then (key, value) :: (k, v) :: rest
    else if key = k then (key, value) :: rest
    else (k, v) :: insertEntry key value rest

theorem mem_insertEntry {key value : String} {entries : List (String × String)}
    {entry : String × String} (member : entry ∈ insertEntry key value entries) :
    entry = (key, value) ∨ entry ∈ entries := by
  induction entries with
  | nil => simpa [insertEntry] using member
  | cons first rest ih =>
    obtain ⟨k, v⟩ := first
    simp only [insertEntry] at member
    split at member
    · simpa using member
    · split at member
      · rcases List.mem_cons.mp member with same | member
        · exact .inl same
        · exact .inr (List.mem_cons_of_mem _ member)
      · rcases List.mem_cons.mp member with same | member
        · exact .inr (same ▸ List.mem_cons_self ..)
        · rcases ih member with same | member
          · exact .inl same
          · exact .inr (List.mem_cons_of_mem _ member)

theorem insertEntry_ascending {entries : List (String × String)} (key value : String)
    (ascending : entries.Pairwise (fun a b => a.1 < b.1)) :
    (insertEntry key value entries).Pairwise (fun a b => a.1 < b.1) := by
  induction entries with
  | nil => simp [insertEntry]
  | cons first rest ih =>
    obtain ⟨k, v⟩ := first
    rw [List.pairwise_cons] at ascending
    obtain ⟨least, ascending⟩ := ascending
    simp only [insertEntry]
    split
    · rename_i below
      refine List.pairwise_cons.mpr ⟨?_, List.pairwise_cons.mpr ⟨least, ascending⟩⟩
      intro entry member
      rcases List.mem_cons.mp member with rfl | member
      · exact below
      · exact String.lt_trans below (least _ member)
    · rename_i notBelow
      split
      · rename_i same
        subst same
        exact List.pairwise_cons.mpr ⟨least, ascending⟩
      · rename_i different
        refine List.pairwise_cons.mpr ⟨?_, ih ascending⟩
        intro entry member
        rcases mem_insertEntry member with rfl | member
        · exact Std.lt_of_le_of_ne (String.not_lt.mp notBelow) (fun same => different same.symm)
        · exact least _ member

structure StringMap where
  entries : List (String × String)
  ascending : entries.Pairwise (fun a b => a.1 < b.1)
  deriving DecidableEq

namespace StringMap

instance : Repr StringMap := ⟨fun map level => reprPrec map.entries level⟩

def empty : StringMap := ⟨[], .nil⟩

def insert (map : StringMap) (key value : String) : StringMap :=
  ⟨insertEntry key value map.entries, insertEntry_ascending key value map.ascending⟩

def ofList (entries : List (String × String)) : StringMap :=
  entries.foldl (fun map entry => map.insert entry.1 entry.2) empty

end StringMap

end TileServer
