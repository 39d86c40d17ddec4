import TileServer.Proofs.Os.Files

namespace TileServer.FileSystem

/-- No two files of a directory have the same name. -/
def Unambiguous (files : FileSystem) : Prop :=
  (files.entries.map (fun entry => (entry.parent, entry.name))).Nodup

variable {files after : FileSystem} {parent : Nat} {name path : String} {file : File}

theorem child?_eq_none_iff :
    files.child? parent name = none ↔
      (parent, name) ∉ files.entries.map (fun entry => (entry.parent, entry.name)) := by
  simp [child?]

theorem Unambiguous.insert (unambiguous : files.Unambiguous) (free : files.child? parent name = none)
    (kind : FileKind) : (files.insert parent name kind).Unambiguous :=
  List.nodup_cons.2 ⟨child?_eq_none_iff.1 free, unambiguous⟩

theorem Unambiguous.erase (unambiguous : files.Unambiguous) (identity : Nat) :
    (files.erase identity).Unambiguous :=
  unambiguous.sublist (List.filter_sublist.map _)

theorem Unambiguous.makeAlong (unambiguous : files.Unambiguous) (making : Bool) (directory : Nat)
    (names : List String) : (files.makeAlong making directory names).1.Unambiguous := by
  induction names generalizing files making directory with
  | nil => exact unambiguous
  | cons name names ih =>
    unfold FileSystem.makeAlong
    split
    · exact ih unambiguous making _
    · split
      · rename_i free
        exact ih (unambiguous.insert free .directory) true _
      · exact unambiguous
    · exact unambiguous
    · exact unambiguous

theorem Unambiguous.makeDirectories (unambiguous : files.Unambiguous) (path : String) :
    (files.makeDirectories path).1.Unambiguous := by
  unfold FileSystem.makeDirectories
  split
  · exact unambiguous
  · exact unambiguous.makeAlong false _ _

theorem Unambiguous.bindSocket (unambiguous : files.Unambiguous)
    (bound : files.bindSocket path = .ok after) : after.Unambiguous := by
  obtain ⟨parent, name, _, free, _, rfl⟩ := put_eq_ok (bindSocket_eq_ok bound).2
  exact unambiguous.insert free .socket

theorem Unambiguous.child?_erase_self (unambiguous : files.Unambiguous)
    (found : files.child? parent name = some file) :
    (files.erase file.identity).child? parent name = none := by
  obtain ⟨entry, member, rfl, rfl, rfl⟩ := exists_of_child? found
  apply child?_eq_none_iff.2
  intro again
  obtain ⟨other, there, same⟩ := List.mem_map.1 again
  obtain ⟨there, apart⟩ := List.mem_filter.1 there
  have equal := List.inj_on_of_nodup_map unambiguous there member same
  rw [equal] at apart
  exact absurd rfl (bne_iff_ne.1 apart)

theorem Unambiguous.target_erase (unambiguous : files.Unambiguous) (sound : files.WellFormed)
    {identity : Nat} (named : files.fileAt? path = some identity) :
    ∃ parent name, (files.erase identity).target path = .ok (.child parent name) ∧
      (files.erase identity).child? parent name = none ∧ Path.isSlashed path = false := by
  have keeps := erase_keeps sound named
  obtain ⟨file, found, plain, rfl⟩ := fileAt?_eq_some.1 named
  obtain ⟨parent, name, leads, there, unslashed⟩ := (lookup_plain_iff plain).1 found
  exact ⟨parent, name, (keeps.target sound leads).1, unambiguous.child?_erase_self there,
    unslashed⟩

theorem Unambiguous.lookup_erase (unambiguous : files.Unambiguous) (sound : files.WellFormed)
    {identity : Nat} (named : files.fileAt? path = some identity) :
    (files.erase identity).lookup path = .error .noEntry := by
  obtain ⟨parent, name, leads, free, _⟩ := unambiguous.target_erase sound named
  simp [lookup, leads, free, bind, Except.bind]

theorem Unambiguous.bindSocket_erase (unambiguous : files.Unambiguous) (sound : files.WellFormed)
    (short : path.utf8ByteSize < maxSocketPath) {identity : Nat}
    (named : files.fileAt? path = some identity) :
    ∃ after, (files.erase identity).bindSocket path = .ok after := by
  obtain ⟨parent, name, leads, free, unslashed⟩ := unambiguous.target_erase sound named
  have put : (files.erase identity).put path .socket =
      .ok ((files.erase identity).insert parent name .socket) := by
    simp [FileSystem.put, leads, free, unslashed, bind, Except.bind]
  exact ⟨_, by rw [FileSystem.bindSocket, addressFault?_of_target leads short, put]⟩

end TileServer.FileSystem
