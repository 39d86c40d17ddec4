import TileServer.Endpoint.Listening
import TileServer.Proofs.Os.Files

namespace TileServer

namespace Listener

open FileSystem

variable {files : FileSystem} {path : String}

/-- The file that binding to a path removes. -/
def stale? (files : FileSystem) (path : String) : Option Nat :=
  match makeRoom files path with
  | (files, none) => files.fileAt? path
  | (_, some _) => none

theorem makeRoom_keeps (sound : files.WellFormed) (path : String) :
    files.Keeps none (makeRoom files path).1 := by
  unfold makeRoom
  split
  · exact sound.keeps
  · exact makeDirectories_keeps sound _

theorem clear_of_fileAt? {identity : Nat} (named : files.fileAt? path = some identity) :
    clear files path = (files.erase identity, none) := by
  obtain ⟨file, found, _, _⟩ := fileAt?_eq_some.1 named
  have there : files.contains path = true := by rw [contains, found]
  have removed : files.remove path = .ok (files.erase identity) :=
    remove_eq_ok_iff.2 ⟨identity, named, rfl⟩
  rw [clear, if_pos there, removed]

theorem clear_of_none (absent : files.fileAt? path = none) : (clear files path).1 = files := by
  unfold clear
  split
  · cases removal : files.remove path with
    | error error => rfl
    | ok after =>
      obtain ⟨identity, named, _⟩ := remove_eq_ok_iff.1 removal
      rw [absent] at named
      cases named
  · rfl

theorem clear_keeps (sound : files.WellFormed) (path : String) :
    files.Keeps (files.fileAt? path) (clear files path).1 := by
  cases named : files.fileAt? path with
  | none =>
    rw [clear_of_none named]
    exact sound.keeps
  | some identity =>
    rw [clear_of_fileAt? named]
    exact erase_keeps sound named

theorem bind_cases (sound : files.WellFormed) (path : String) :
    ∃ free, files.Keeps (stale? files path) free ∧
      ((∃ error, bind files path = (free, .error error)) ∨
        ∃ after, free.bindSocket path = .ok after ∧
          bind files path = (after, .ok ⟨free.made, .bound path⟩)) := by
  have roomy := makeRoom_keeps sound path
  unfold bind stale?
  generalize makeRoom files path = room at roomy
  obtain ⟨made, _ | error⟩ := room
  · have cleared := clear_keeps roomy.sound path
    simp only
    generalize clear made path = clearing at cleared
    obtain ⟨free, _ | error⟩ := clearing
    · refine ⟨free, roomy.followed cleared, ?_⟩
      cases bound : free.bindSocket path with
      | error cause => exact Or.inl ⟨⟨.createSocket path, cause⟩, by simp only [bound]⟩
      | ok after => exact Or.inr ⟨after, rfl, by simp only [bound]⟩
    · exact ⟨free, roomy.followed cleared, Or.inl ⟨error, rfl⟩⟩
  · exact ⟨made, roomy, Or.inl ⟨error, rfl⟩⟩

theorem bind_keeps (sound : files.WellFormed) (path : String) :
    files.Keeps (stale? files path) (bind files path).1 := by
  obtain ⟨free, kept, ⟨error, failed⟩ | ⟨after, bound, done⟩⟩ := bind_cases sound path
  · rw [failed]
    exact kept
  · rw [done]
    exact kept.trans (bindSocket_keeps kept.sound bound).1

theorem bind_eq_ok (sound : files.WellFormed) {after : FileSystem} {listener : Listener}
    (done : bind files path = (after, .ok listener)) : listener.path? = some path ∧
      files.made ≤ listener.socket ∧ listener.socket < after.made ∧
      after.socketAt path = .ok ⟨listener.socket, .socket⟩ := by
  obtain ⟨free, kept, ⟨error, failed⟩ | ⟨last, bound, made⟩⟩ := bind_cases sound path
  · rw [failed] at done
    cases done
  · rw [made] at done
    cases done
    obtain ⟨_, grown, served⟩ := bindSocket_keeps kept.sound bound
    exact ⟨rfl, kept.made, grown, served⟩

/-- The file that ending a listener removes. -/
def leaves? (files : FileSystem) (listener : Listener) : Option Nat :=
  listener.path?.bind files.fileAt?

theorem drop_keeps (sound : files.WellFormed) (listener : Listener) :
    files.Keeps (listener.leaves? files) (listener.drop files) := by
  obtain ⟨socket, origin⟩ := listener
  cases origin with
  | inherited => exact sound.keeps
  | bound path =>
    have same : Listener.leaves? files ⟨socket, .bound path⟩ = files.fileAt? path := rfl
    rw [same]
    simp only [drop]
    cases removal : files.remove path with
    | error error =>
      have absent : files.fileAt? path = none := by
        rw [Option.eq_none_iff_forall_ne_some]
        intro identity named
        rw [remove_eq_ok_iff.2 ⟨identity, named, rfl⟩] at removal
        cases removal
      rw [absent]
      exact sound.keeps
    | ok after =>
      obtain ⟨identity, named, rfl⟩ := remove_eq_ok_iff.1 removal
      rw [named]
      exact erase_keeps sound named

theorem leaves?_of_socketAt {listener : Listener} (own : listener.path? = some path)
    (served : files.socketAt path = .ok ⟨listener.socket, .socket⟩) :
    listener.leaves? files = some listener.socket := by
  rw [leaves?, own, Option.bind_some]
  exact fileAt?_eq_some.2 ⟨_, (lookup_of_socketAt served).2, by nofun, rfl⟩

end Listener

namespace Listening

open FileSystem

/-- The file that an operation removes. -/
def doomed? (listening : Listening) : Operation → Option Nat
  | .bind path => Listener.stale? listening.files path
  | .inherit _ _ => none
  | .drop place => (listening.live[place]?).bind (Listener.leaves? listening.files)

/-- Whether an operation leaves the files of live listeners to them: nobody binds to a path that leads
to one, and what is handed over is a socket that is there and that nobody has. -/
def Permits (listening : Listening) : Operation → Prop
  | .bind path => ∀ listener ∈ listening.live,
    Listener.stale? listening.files path ≠ some listener.socket
  | .inherit _ (.listening socket) =>
    socket < listening.files.made ∧ ∀ listener ∈ listening.live, listener.socket ≠ socket
  | .inherit _ _ => True
  | .drop _ => True

def PermitsAll (listening : Listening) : List Operation → Prop
  | [] => True
  | operation :: rest => listening.Permits operation ∧ (listening.perform operation).PermitsAll rest

variable {listening : Listening} {operation : Operation}

theorem files_bind (listening : Listening) (path : String) :
    (listening.perform (.bind path)).files = (Listener.bind listening.files path).1 := by
  simp only [perform]
  cases Listener.bind listening.files path with
  | mk files outcome => cases outcome <;> rfl

theorem files_inherit (listening : Listening) (descriptor : Int32) (use : Activation.Descriptor) :
    (listening.perform (.inherit descriptor use)).files = listening.files := by
  cases use <;> rfl

theorem perform_keeps (sound : listening.files.WellFormed) (operation : Operation) :
    listening.files.Keeps (listening.doomed? operation) (listening.perform operation).files := by
  cases operation with
  | bind path =>
    rw [files_bind]
    exact Listener.bind_keeps sound path
  | inherit descriptor use =>
    rw [files_inherit]
    exact sound.keeps
  | drop place =>
    simp only [perform, doomed?]
    cases listening.live[place]? with
    | none => exact sound.keeps
    | some listener => exact Listener.drop_keeps sound listener

/-- Every bound listener is reached by its path, and no two listeners have the same socket. -/
structure Orderly (listening : Listening) : Prop where
  sound : listening.files.WellFormed
  made : ∀ listener ∈ listening.live, listener.socket < listening.files.made
  distinct : (listening.live.map Listener.socket).Nodup
  served : ∀ listener ∈ listening.live, ∀ path, listener.path? = some path →
    listening.files.socketAt path = .ok ⟨listener.socket, .socket⟩

theorem Orderly.dropped_of_doomed (orderly : listening.Orderly) (permitted : listening.Permits operation)
    {listener : Listener} (member : listener ∈ listening.live)
    (doomed : listening.doomed? operation = some listener.socket) :
    ∃ place, operation = .drop place ∧ listening.live[place]? = some listener := by
  cases operation with
  | bind path => exact absurd doomed (permitted listener member)
  | inherit descriptor use => cases doomed
  | drop place =>
    obtain ⟨other, there, leaves⟩ := Option.bind_eq_some_iff.1 doomed
    refine ⟨place, rfl, ?_⟩
    have inside := List.mem_of_getElem? there
    cases own : other.path? with
    | none =>
      rw [Listener.leaves?, own] at leaves
      cases leaves
    | some path =>
      rw [Listener.leaves?_of_socketAt own (orderly.served other inside path own)] at leaves
      rw [there, List.inj_on_of_nodup_map orderly.distinct inside member (Option.some.inj leaves)]

theorem Orderly.of_spared (orderly : listening.Orderly) {live : List Listener}
    (fewer : live.Sublist listening.live)
    (spared : ∀ listener ∈ live, listening.doomed? operation ≠ some listener.socket) :
    Orderly ⟨(listening.perform operation).files, live⟩ := by
  have keeps := perform_keeps orderly.sound operation
  refine ⟨keeps.sound, ?_, orderly.distinct.sublist (fewer.map _), ?_⟩
  · intro listener member
    exact Nat.lt_of_lt_of_le (orderly.made listener (fewer.subset member)) keeps.made
  · intro listener member path own
    exact keeps.socketAt orderly.sound (orderly.served listener (fewer.subset member) path own)
      (spared listener member)

theorem Orderly.add (orderly : listening.Orderly) {listener : Listener}
    (made : listener.socket < listening.files.made)
    (fresh : ∀ other ∈ listening.live, other.socket ≠ listener.socket)
    (served : ∀ path, listener.path? = some path →
      listening.files.socketAt path = .ok ⟨listener.socket, .socket⟩) :
    Orderly { listening with live := listening.live ++ [listener] } := by
  have either : ∀ other ∈ listening.live ++ [listener], other ∈ listening.live ∨ other = listener := by
    intro other member
    simpa using member
  refine ⟨orderly.sound, ?_, ?_, ?_⟩
  · intro other member
    rcases either other member with old | rfl
    · exact orderly.made other old
    · exact made
  · rw [List.map_append]
    refine List.nodup_append.2 ⟨orderly.distinct, List.nodup_singleton _, ?_⟩
    intro socket old other new
    obtain ⟨one, member, rfl⟩ := List.mem_map.1 old
    rw [List.mem_singleton.1 new]
    exact fresh one member
  · intro other member
    rcases either other member with old | rfl
    · exact orderly.served other old
    · exact served

theorem Orderly.perform (orderly : listening.Orderly) (permitted : listening.Permits operation) :
    (listening.perform operation).Orderly := by
  cases operation with
  | bind path =>
    have kept : Orderly ⟨(listening.perform (.bind path)).files, listening.live⟩ :=
      orderly.of_spared (.refl _) permitted
    rw [files_bind] at kept
    simp only [Listening.perform]
    cases result : Listener.bind listening.files path with
    | mk files outcome =>
    rw [result] at kept
    cases outcome with
    | error error => exact kept
    | ok listener =>
      obtain ⟨own, fresh, made, served⟩ := Listener.bind_eq_ok orderly.sound result
      refine kept.add made (fun other member => ?_) ?_
      · exact Nat.ne_of_lt (Nat.lt_of_lt_of_le (orderly.made other member) fresh)
      · intro other same
        rw [own] at same
        cases same
        exact served
  | inherit descriptor use =>
    cases use with
    | listening socket => exact orderly.add permitted.1 permitted.2 nofun
    | other => exact orderly
    | closed => exact orderly
  | drop place =>
    cases there : listening.live[place]? with
    | none =>
      simp only [Listening.perform, there]
      exact orderly
    | some listener =>
      have spared : ∀ other ∈ listening.live.eraseIdx place,
          listening.doomed? (.drop place) ≠ some other.socket := by
        intro other left doomed
        obtain ⟨index, apart, listed⟩ := List.mem_eraseIdx_iff_getElem?.1 left
        obtain ⟨_, ⟨⟩, here⟩ := orderly.dropped_of_doomed permitted (List.mem_of_getElem? listed) doomed
        have inside := (List.getElem?_eq_some_iff.1 listed).1
        exact apart ((List.getElem?_inj inside orderly.distinct.of_map).1 (listed.trans here.symm))
      have kept := orderly.of_spared (List.eraseIdx_sublist _ _) spared
      simp only [Listening.perform, there] at kept ⊢
      exact kept

theorem sound_run (sound : listening.files.WellFormed) (operations : List Operation) :
    (listening.run operations).files.WellFormed := by
  induction operations generalizing listening with
  | nil => exact sound
  | cons operation operations ih => exact ih (perform_keeps sound operation).sound

theorem Orderly.run (orderly : listening.Orderly) {operations : List Operation}
    (permitted : listening.PermitsAll operations) : (listening.run operations).Orderly := by
  induction operations generalizing listening with
  | nil => exact orderly
  | cons operation operations ih =>
    obtain ⟨first, others⟩ := permitted
    exact ih (orderly.perform first) others

theorem isReachedBy_of_socketAt {files : FileSystem} {listener : Listener} {path : String}
    (served : files.socketAt path = .ok ⟨listener.socket, .socket⟩) :
    listener.isReachedBy files path = true := by
  simp only [Listener.isReachedBy, served, beq_self_eq_true]

/-- In every run, an operation removes a file exactly if its path leads there, whoever listens on it. If
nobody binds to a path that leads to the socket of a live listener, then every bound listener is reached
by its path as long as it is live, and its file is removed only by dropping it. -/
theorem sockets_kept {files : FileSystem} (sound : files.WellFormed) (operations : List Operation) :
    (∀ operation, ∀ entry ∈ (run ⟨files, []⟩ operations).files.entries,
      entry ∉ ((run ⟨files, []⟩ operations).perform operation).files.entries ↔
        (run ⟨files, []⟩ operations).doomed? operation = some entry.file.identity) ∧
    (PermitsAll ⟨files, []⟩ operations →
      (∀ listener ∈ (run ⟨files, []⟩ operations).live, ∀ path, listener.path? = some path →
        listener.isReachedBy (run ⟨files, []⟩ operations).files path = true) ∧
      ∀ operation, (run ⟨files, []⟩ operations).Permits operation →
        ∀ listener ∈ (run ⟨files, []⟩ operations).live,
          (run ⟨files, []⟩ operations).doomed? operation = some listener.socket →
            ∃ place, operation = .drop place ∧
              (run ⟨files, []⟩ operations).live[place]? = some listener) := by
  have start : Orderly ⟨files, []⟩ := ⟨sound, nofun, List.nodup_nil, nofun⟩
  refine ⟨fun operation entry => (perform_keeps (sound_run sound operations) operation).not_mem_iff, ?_⟩
  intro permitted
  have orderly := start.run permitted
  refine ⟨fun listener member path own => ?_, fun operation next listener => ?_⟩
  · exact isReachedBy_of_socketAt (orderly.served listener member path own)
  · exact orderly.dropped_of_doomed next

def apart : List Operation := [.bind "ipc.sock", .bind "run/tile/ipc.sock", .drop 0]

theorem sockets_kept_of_apart :
    (FileSystem.empty ["t"]).WellFormed ∧ PermitsAll ⟨.empty ["t"], []⟩ apart ∧
      ∀ listener ∈ (run ⟨.empty ["t"], []⟩ apart).live, ∀ path, listener.path? = some path →
        listener.isReachedBy (run ⟨.empty ["t"], []⟩ apart).files path = true := by
  have sound := wellFormed_empty ["t"]
  have permitted : PermitsAll ⟨.empty ["t"], []⟩ apart := by
    refine ⟨nofun, ?_, True.intro, True.intro⟩
    unfold Permits
    decide +kernel
  exact ⟨sound, permitted, ((sockets_kept sound apart).2 permitted).1⟩

def rebound : Listening :=
  run ⟨.empty ["t"], []⟩ [.bind "ipc.sock", .bind "ipc.sock"]

def handed : Listening :=
  run ⟨(FileSystem.empty ["t"]).insert 1 "ipc.sock" .socket, []⟩
    [.inherit 3 (.listening 2), .bind "ipc.sock"]

/-- To bind to a path removes the file of the live listener there, also of one that was handed over, and
to drop that listener removes the file of the one that took its place. -/
theorem live_sockets_removed :
    rebound.live.map (fun listener => (listener.socket, listener.isReachedBy rebound.files "ipc.sock")) =
        [(2, false), (3, true)] ∧
      (rebound.perform (.drop 0)).live.map (fun listener =>
        (listener.socket, listener.isReachedBy (rebound.perform (.drop 0)).files "ipc.sock")) =
        [(3, false)] ∧
      handed.live.map (fun listener => (listener.socket, listener.isReachedBy handed.files "ipc.sock")) =
        [(2, false), (3, true)] := by
  decide +kernel

end Listening

end TileServer
