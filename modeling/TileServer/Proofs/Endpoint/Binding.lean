import TileServer.Proofs.Endpoint.Sockets
import TileServer.Proofs.Os.Naming
import TileServer.Proofs.Os.Parents

namespace TileServer

namespace Listener

open FileSystem

variable {files : FileSystem} {path : String}

theorem makeRoom_unambiguous (unambiguous : files.Unambiguous) (path : String) :
    (makeRoom files path).1.Unambiguous := by
  unfold makeRoom
  split
  · exact unambiguous
  · exact unambiguous.makeDirectories _

theorem clear_unambiguous (unambiguous : files.Unambiguous) (path : String) :
    (clear files path).1.Unambiguous := by
  cases named : files.fileAt? path with
  | none =>
    rw [clear_of_none named]
    exact unambiguous
  | some identity =>
    rw [clear_of_fileAt? named]
    exact unambiguous.erase identity

theorem bind_unambiguous (unambiguous : files.Unambiguous) (path : String) :
    (bind files path).1.Unambiguous := by
  have roomy := makeRoom_unambiguous unambiguous path
  unfold bind
  generalize makeRoom files path = room at roomy
  obtain ⟨made, _ | error⟩ := room
  · have cleared := clear_unambiguous roomy path
    simp only
    generalize clear made path = clearing at cleared
    obtain ⟨free, _ | error⟩ := clearing
    · cases bound : free.bindSocket path with
      | error cause => simpa only [bound] using cleared
      | ok after => simpa only [bound] using cleared.bindSocket bound
    · exact cleared
  · exact roomy

theorem bind_of_stale (sound : files.WellFormed) (unambiguous : files.Unambiguous)
    (short : path.utf8ByteSize < maxSocketPath) {identity : Nat}
    (stale : stale? files path = some identity) : ∃ listener, (bind files path).2 = .ok listener := by
  have roomy := makeRoom_keeps sound path
  have distinct := makeRoom_unambiguous unambiguous path
  unfold stale? at stale
  unfold bind
  generalize makeRoom files path = room at stale roomy distinct
  obtain ⟨made, _ | error⟩ := room
  · obtain ⟨after, bound⟩ := distinct.bindSocket_erase roomy.sound short stale
    simp only [clear_of_fileAt? stale, bound]
    exact ⟨_, rfl⟩
  · cases stale

theorem stale?_of_failed (sound : files.WellFormed) (unambiguous : files.Unambiguous)
    (short : path.utf8ByteSize < maxSocketPath) {error : BindError}
    (failed : (bind files path).2 = .error error) : stale? files path = none := by
  rw [Option.eq_none_iff_forall_ne_some]
  intro identity stale
  obtain ⟨listener, done⟩ := bind_of_stale sound unambiguous short stale
  rw [failed] at done
  cases done

theorem bind_of_long (sound : files.WellFormed) (long : maxSocketPath ≤ path.utf8ByteSize) :
    ∃ error, (bind files path).2 = .error error := by
  obtain ⟨free, _, ⟨error, failed⟩ | ⟨after, bound, _⟩⟩ := bind_cases sound path
  · exact ⟨error, by rw [failed]⟩
  · exact absurd bound (bindSocket_of_long long)

theorem makeRoom_of_fileAt? {identity : Nat} (named : files.fileAt? path = some identity) :
    makeRoom files path = (files, none) := by
  obtain ⟨file, found, plain, _⟩ := fileAt?_eq_some.1 named
  obtain ⟨parent, name, leads, _, unslashed⟩ := (lookup_plain_iff plain).1 found
  unfold makeRoom
  split
  · rfl
  · rename_i text above
    obtain ⟨above, filled⟩ := Option.filter_eq_some_iff.1 above
    rw [makeDirectories_parent leads unslashed above (by simpa using filled)]
    rfl

theorem bind_of_fileAt? {identity : Nat} (named : files.fileAt? path = some identity)
    (long : maxSocketPath ≤ path.utf8ByteSize) : (bind files path).1 = files.erase identity := by
  rw [bind, makeRoom_of_fileAt? named]
  simp only [clear_of_fileAt? named]
  cases bound : (files.erase identity).bindSocket path with
  | error cause => rfl
  | ok after => exact absurd bound (bindSocket_of_long long)

/-- An attempt to bind that fails spares every file that any path leads to, if its own path is short enough
for a socket. An attempt with a path that is too long always fails; and what was at the path is lost, if it
was no directory, and nothing else is. -/
theorem failed_bind_spares (sound : files.WellFormed) (unambiguous : files.Unambiguous) (path : String) :
    ((bind files path).1.WellFormed ∧ (bind files path).1.Unambiguous) ∧
      (path.utf8ByteSize < maxSocketPath → ∀ error, (bind files path).2 = .error error →
        (∀ entry ∈ files.entries, entry ∈ (bind files path).1.entries) ∧
          ∀ other file, files.lookup other = .ok file → (bind files path).1.lookup other = .ok file) ∧
      (maxSocketPath ≤ path.utf8ByteSize → (∃ error, (bind files path).2 = .error error) ∧
        (∀ file, files.lookup path = .ok file → file.kind ≠ .directory →
          (bind files path).1.lookup path = .error .noEntry) ∧
        ∀ entry ∈ files.entries, entry ∉ (bind files path).1.entries ↔
          stale? files path = some entry.file.identity) := by
  have keeps := bind_keeps sound path
  refine ⟨⟨keeps.sound, bind_unambiguous unambiguous path⟩, ?_, ?_⟩
  · intro short error failed
    rw [stale?_of_failed sound unambiguous short failed] at keeps
    exact ⟨fun entry member => keeps.entry entry member nofun,
      fun other file => keeps.lookup_of_none sound⟩
  · intro long
    refine ⟨bind_of_long sound long, ?_, fun entry => keeps.not_mem_iff⟩
    intro file found plain
    have named : files.fileAt? path = some file.identity := fileAt?_eq_some.2 ⟨file, found, plain, rfl⟩
    rw [bind_of_fileAt? named long]
    exact unambiguous.lookup_erase sound named

def crowded (long : String) : FileSystem :=
  (((FileSystem.empty ["t"]).insert 1 long (.file [])).insert 1 "run" .directory).insert 3 "ipc.sock"
    .socket

theorem wellFormed_crowded (long : String) : (crowded long).WellFormed := by
  have start := wellFormed_empty ["t"]
  have file := wellFormed_insert start start.here long (.file [])
  have folder := wellFormed_insert file (start.here.insert 1 long (.file [])) "run" .directory
  exact wellFormed_insert folder (.inr ⟨_, List.mem_cons_self, rfl⟩) "ipc.sock" .socket

def longName : String :=
  String.ofList (List.replicate 120 'x')

theorem lookup_longName : (crowded longName).lookup longName = .ok ⟨2, .file []⟩ := by
  decide +kernel

theorem failed_bind_spares_of_crowded :
    (crowded longName).WellFormed ∧ (crowded longName).Unambiguous ∧
      "run".utf8ByteSize < maxSocketPath ∧
      (bind (crowded longName) "run").2 = .error ⟨.removeStale "run", .isDirectory⟩ ∧
      (crowded longName).lookup "run/ipc.sock" = .ok ⟨4, .socket⟩ ∧
      (bind (crowded longName) "run").1.lookup "run/ipc.sock" = .ok ⟨4, .socket⟩ ∧
      maxSocketPath ≤ longName.utf8ByteSize ∧
      (∃ error, (bind (crowded longName) longName).2 = .error error) ∧
      (crowded longName).lookup longName = .ok ⟨2, .file []⟩ ∧
      (bind (crowded longName) longName).1.lookup longName = .error .noEntry := by
  have sound := wellFormed_crowded longName
  have unambiguous : (crowded longName).Unambiguous := by
    unfold Unambiguous
    decide +kernel
  have short : "run".utf8ByteSize < maxSocketPath := by decide +kernel
  have failed : (bind (crowded longName) "run").2 = .error ⟨.removeStale "run", .isDirectory⟩ := by
    decide +kernel
  have there : (crowded longName).lookup "run/ipc.sock" = .ok ⟨4, .socket⟩ := by decide +kernel
  have long : maxSocketPath ≤ longName.utf8ByteSize := by decide +kernel
  obtain ⟨_, spares, _⟩ := failed_bind_spares sound unambiguous "run"
  obtain ⟨_, _, loses⟩ := failed_bind_spares sound unambiguous longName
  obtain ⟨fails, gone, _⟩ := loses long
  exact ⟨sound, unambiguous, short, failed, there, (spares short _ failed).2 _ _ there, long, fails,
    lookup_longName, gone _ lookup_longName nofun⟩

/-- The file at a path is removed before the path is found to be too long for a socket. -/
theorem long_bind_destroys :
    (crowded longName).lookup longName = .ok ⟨2, .file []⟩ ∧
      (bind (crowded longName) longName).2 = .error ⟨.createSocket longName, .pathTooLong⟩ ∧
      (bind (crowded longName) longName).1.lookup longName = .error .noEntry :=
  ⟨lookup_longName, by decide +kernel⟩

end Listener

end TileServer
