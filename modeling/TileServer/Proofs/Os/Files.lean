import Mathlib.Data.List.Nodup
import TileServer.Os.FileSystem

namespace TileServer

def Target.base : Target → Nat
  | .directory identity => identity
  | .child parent _ => parent

namespace FileSystem

def IsFolder (files : FileSystem) (directory : Nat) : Prop :=
  directory = root ∨ ∃ entry ∈ files.entries, entry.file = ⟨directory, .directory⟩

structure WellFormed (files : FileSystem) : Prop where
  made : root < files.made
  given : ∀ entry ∈ files.entries, root < entry.file.identity ∧ entry.file.identity < files.made
  distinct : (files.entries.map (fun entry => entry.file.identity)).Nodup
  parents : ∀ entry ∈ files.entries, files.IsFolder entry.parent
  here : files.IsFolder files.here

/-- How one file system comes from another one by creating files, and by removing at most one that is
no directory. -/
structure Keeps (removed : Option Nat) (before after : FileSystem) : Prop where
  sound : after.WellFormed
  here : after.here = before.here
  made : before.made ≤ after.made
  spared : ∀ directory, before.IsFolder directory → removed ≠ some directory
  folder : ∀ directory, before.IsFolder directory → after.IsFolder directory
  above : ∀ directory, before.IsFolder directory → after.above directory = before.above directory
  child : ∀ parent name file, before.child? parent name = some file →
    removed ≠ some file.identity → after.child? parent name = some file
  entry : ∀ entry ∈ before.entries, removed ≠ some entry.file.identity → entry ∈ after.entries
  fresh : ∀ entry ∈ after.entries, entry ∈ before.entries ∨ before.made ≤ entry.file.identity
  gone : ∀ identity, removed = some identity →
    identity < after.made ∧ ∀ entry ∈ after.entries, entry.file.identity ≠ identity

def erase (files : FileSystem) (identity : Nat) : FileSystem :=
  { files with entries := files.entries.filter (fun entry => entry.file.identity != identity) }

/-- The file that a path names, if it is no directory. -/
def fileAt? (files : FileSystem) (path : String) : Option Nat :=
  match files.lookup path with
  | .ok file => if file.kind = .directory then none else some file.identity
  | .error _ => none

variable {files before middle after : FileSystem} {removed : Option Nat} {parent directory : Nat}
  {name path : String} {file : File} {entry : FileEntry}

theorem exists_of_child? (found : files.child? parent name = some file) :
    ∃ entry ∈ files.entries, entry.parent = parent ∧ entry.name = name ∧ entry.file = file := by
  obtain ⟨entry, first, same⟩ := Option.map_eq_some_iff.1 found
  have named := List.find?_some first
  rw [Bool.and_eq_true, beq_iff_eq, beq_iff_eq] at named
  exact ⟨entry, List.mem_of_find?_eq_some first, named.1, named.2, same⟩

theorem WellFormed.lt_made (sound : files.WellFormed) (folder : files.IsFolder directory) :
    directory < files.made := by
  rcases folder with rfl | ⟨entry, member, same⟩
  · exact sound.made
  · have given := (sound.given entry member).2
    rwa [same] at given

theorem WellFormed.eq_of_identity (sound : files.WellFormed) {other : FileEntry}
    (member : entry ∈ files.entries) (there : other ∈ files.entries)
    (same : entry.file.identity = other.file.identity) : entry = other :=
  List.inj_on_of_nodup_map sound.distinct member there same

theorem WellFormed.ne_of_plain (sound : files.WellFormed) (member : entry ∈ files.entries)
    (plain : entry.file.kind ≠ .directory) (folder : files.IsFolder directory) :
    directory ≠ entry.file.identity := by
  rintro rfl
  rcases folder with isRoot | ⟨other, there, same⟩
  · exact absurd (sound.given entry member).1 (isRoot ▸ Nat.lt_irrefl _)
  · have equal := sound.eq_of_identity member there (by rw [same])
    exact plain (by rw [equal, same])

theorem WellFormed.isFolder_above (sound : files.WellFormed) (directory : Nat) :
    files.IsFolder (files.above directory) := by
  unfold above
  split
  · rename_i entry found
    exact sound.parents entry (List.mem_of_find?_eq_some found)
  · exact Or.inl rfl

theorem IsFolder.insert (folder : files.IsFolder directory) (parent : Nat) (name : String)
    (kind : FileKind) : (files.insert parent name kind).IsFolder directory := by
  refine folder.imp_right ?_
  rintro ⟨entry, member, same⟩
  exact ⟨entry, List.mem_cons_of_mem _ member, same⟩

theorem wellFormed_insert (sound : files.WellFormed) (folder : files.IsFolder parent) (name : String)
    (kind : FileKind) : (files.insert parent name kind).WellFormed := by
  have grown : ∀ directory, files.IsFolder directory →
      (files.insert parent name kind).IsFolder directory :=
    fun directory before => before.insert parent name kind
  refine ⟨Nat.lt_succ_of_lt sound.made, ?_, ?_, ?_, grown _ sound.here⟩
  · intro entry member
    rcases List.mem_cons.1 member with rfl | old
    · exact ⟨sound.made, Nat.lt_succ_self _⟩
    · obtain ⟨positive, below⟩ := sound.given entry old
      exact ⟨positive, Nat.lt_succ_of_lt below⟩
  · refine List.nodup_cons.2 ⟨fun again => ?_, sound.distinct⟩
    obtain ⟨entry, member, same⟩ := List.mem_map.1 again
    have below := (sound.given entry member).2
    exact absurd same (Nat.ne_of_lt below)
  · intro entry member
    rcases List.mem_cons.1 member with rfl | old
    · exact grown _ folder
    · exact grown _ (sound.parents entry old)

theorem wellFormed_empty (names : List String) : (empty names).WellFormed := by
  have start : WellFormed ⟨[], root, root + 1⟩ :=
    ⟨Nat.zero_lt_one, by simp, by simp, by simp, Or.inl rfl⟩
  unfold empty
  generalize (⟨[], root, root + 1⟩ : FileSystem) = files at start
  induction names generalizing files with
  | nil => exact start
  | cons name names ih =>
    have grown := wellFormed_insert start start.here name .directory
    refine ih _ ⟨grown.made, grown.given, grown.distinct, grown.parents, Or.inr ?_⟩
    exact ⟨_, List.mem_cons_self, rfl⟩

theorem child?_insert (files : FileSystem) (parent other : Nat) (name word : String) (kind : FileKind) :
    (files.insert parent name kind).child? other word =
      if parent = other ∧ name = word then some ⟨files.made, kind⟩ else files.child? other word := by
  unfold child? insert
  rw [List.find?_cons]
  by_cases same : parent = other ∧ name = word
  · simp [same]
  · have apart : (parent == other && name == word) = false := by
      rw [Bool.eq_false_iff, ne_eq, Bool.and_eq_true, beq_iff_eq, beq_iff_eq]
      exact same
    simp only [apart, if_neg same]

theorem above_insert (files : FileSystem) (parent : Nat) (name : String) (kind : FileKind)
    (old : directory ≠ files.made) : (files.insert parent name kind).above directory =
      files.above directory := by
  have apart : (files.made == directory) = false := beq_false_of_ne old.symm
  unfold above insert
  rw [List.find?_cons]
  simp only [apart]

theorem WellFormed.keeps (sound : files.WellFormed) : files.Keeps none files where
  sound := sound
  here := rfl
  made := Nat.le_refl _
  spared _ _ := nofun
  folder _ := id
  above _ _ := rfl
  child _ _ _ found _ := found
  entry _ member _ := member
  fresh _ := Or.inl
  gone := nofun

theorem Keeps.trans (one : before.Keeps removed middle) (other : middle.Keeps none after) :
    before.Keeps removed after where
  sound := other.sound
  here := other.here.trans one.here
  made := Nat.le_trans one.made other.made
  spared := one.spared
  folder directory folder := other.folder directory (one.folder directory folder)
  above directory folder :=
    (other.above directory (one.folder directory folder)).trans (one.above directory folder)
  child parent name file found left :=
    other.child parent name file (one.child parent name file found left) nofun
  entry entry member left := other.entry entry (one.entry entry member left) nofun
  fresh entry member := by
    rcases other.fresh entry member with old | new
    · exact one.fresh entry old
    · exact Or.inr (Nat.le_trans one.made new)
  gone identity same := by
    obtain ⟨below, others⟩ := one.gone identity same
    refine ⟨Nat.lt_of_lt_of_le below other.made, fun entry member => ?_⟩
    rcases other.fresh entry member with old | new
    · exact others entry old
    · exact (Nat.ne_of_lt (Nat.lt_of_lt_of_le below new)).symm

theorem Keeps.followed (one : before.Keeps none middle) (other : middle.Keeps removed after) :
    before.Keeps removed after where
  sound := other.sound
  here := other.here.trans one.here
  made := Nat.le_trans one.made other.made
  spared directory folder := other.spared directory (one.folder directory folder)
  folder directory folder := other.folder directory (one.folder directory folder)
  above directory folder :=
    (other.above directory (one.folder directory folder)).trans (one.above directory folder)
  child parent name file found left :=
    other.child parent name file (one.child parent name file found nofun) left
  entry entry member left := other.entry entry (one.entry entry member nofun) left
  fresh entry member := by
    rcases other.fresh entry member with old | new
    · exact one.fresh entry old
    · exact Or.inr (Nat.le_trans one.made new)
  gone := other.gone

theorem Keeps.not_mem_iff (keeps : before.Keeps removed after) (member : entry ∈ before.entries) :
    entry ∉ after.entries ↔ removed = some entry.file.identity := by
  constructor
  · intro lost
    by_contra left
    exact lost (keeps.entry entry member left)
  · exact fun same still => (keeps.gone _ same).2 entry still rfl

theorem keeps_insert (sound : files.WellFormed) (parented : files.IsFolder parent)
    (free : files.child? parent name = none) (kind : FileKind) :
    files.Keeps none (files.insert parent name kind) where
  sound := wellFormed_insert sound parented name kind
  here := rfl
  made := Nat.le_succ _
  spared _ _ := nofun
  folder _ folder := folder.insert parent name kind
  above directory folder := above_insert files parent name kind (Nat.ne_of_lt (sound.lt_made folder))
  child other word file found _ := by
    rw [child?_insert, if_neg, found]
    rintro ⟨rfl, rfl⟩
    rw [free] at found
    cases found
  entry entry member _ := List.mem_cons_of_mem _ member
  fresh entry member := by
    rcases List.mem_cons.1 member with rfl | old
    · exact Or.inr (Nat.le_refl _)
    · exact Or.inl old
  gone := nofun

theorem find?_filter_of_kept {items : List α} {kept wanted : α → Bool} {item : α}
    (found : items.find? wanted = some item) (stays : kept item = true) :
    (items.filter kept).find? wanted = some item := by
  obtain ⟨here, front, back, rfl, before⟩ := List.find?_eq_some_iff_append.1 found
  rw [List.filter_append, List.filter_cons_of_pos stays]
  refine List.find?_eq_some_iff_append.2 ⟨here, _, _, rfl, fun other member => ?_⟩
  exact before other (List.mem_of_mem_filter member)

theorem IsFolder.erase (folder : files.IsFolder directory) {identity : Nat}
    (apart : directory ≠ identity) : (files.erase identity).IsFolder directory := by
  refine folder.imp_right ?_
  rintro ⟨entry, member, same⟩
  refine ⟨entry, List.mem_filter.2 ⟨member, ?_⟩, same⟩
  simpa [same] using apart

theorem above_erase (files : FileSystem) {identity : Nat} (apart : directory ≠ identity) :
    (files.erase identity).above directory = files.above directory := by
  have alike : (fun other : FileEntry => other.file.identity != identity &&
      other.file.identity == directory) = fun other => other.file.identity == directory := by
    funext other
    rw [Bool.eq_iff_iff, Bool.and_eq_true, and_iff_right_iff_imp, beq_iff_eq, bne_iff_ne]
    rintro rfl
    exact apart
  simp only [above, erase, List.find?_filter, Bool.decide_and, Bool.decide_eq_true, alike]

theorem child?_erase {identity : Nat} (found : files.child? parent name = some file)
    (apart : file.identity ≠ identity) : (files.erase identity).child? parent name = some file := by
  obtain ⟨entry, first, rfl⟩ := Option.map_eq_some_iff.1 found
  have stays : (entry.file.identity != identity) = true := bne_iff_ne.2 apart
  unfold child? FileSystem.erase
  rw [find?_filter_of_kept first stays, Option.map_some]

theorem wellFormed_erase (sound : files.WellFormed) (member : entry ∈ files.entries)
    (plain : entry.file.kind ≠ .directory) : (files.erase entry.file.identity).WellFormed := by
  have folder : ∀ directory, files.IsFolder directory →
      (files.erase entry.file.identity).IsFolder directory :=
    fun directory before => before.erase (sound.ne_of_plain member plain before)
  refine ⟨sound.made, ?_, ?_, ?_, folder _ sound.here⟩
  · exact fun other there => sound.given other (List.mem_of_mem_filter there)
  · exact sound.distinct.sublist (List.filter_sublist.map _)
  · exact fun other there => folder _ (sound.parents other (List.mem_of_mem_filter there))

theorem keeps_erase (sound : files.WellFormed) (member : entry ∈ files.entries)
    (plain : entry.file.kind ≠ .directory) :
    files.Keeps (some entry.file.identity) (files.erase entry.file.identity) where
  sound := wellFormed_erase sound member plain
  here := rfl
  made := Nat.le_refl _
  spared directory folder same := sound.ne_of_plain member plain folder (Option.some.inj same).symm
  folder directory folder := folder.erase (sound.ne_of_plain member plain folder)
  above directory folder := files.above_erase (sound.ne_of_plain member plain folder)
  child parent name file found left := child?_erase found (fun same => left (congrArg some same.symm))
  entry other there left :=
    List.mem_filter.2 ⟨there, bne_iff_ne.2 (fun same => left (congrArg some same.symm))⟩
  fresh other there := Or.inl (List.mem_of_mem_filter there)
  gone := by
    rintro _ ⟨⟩
    exact ⟨(sound.given entry member).2, fun other there => bne_iff_ne.1 (List.mem_filter.1 there).2⟩

theorem exists_of_bind {first : Except OsError α} {second : α → Except OsError β} {last : β}
    (done : first.bind second = .ok last) : ∃ middle, first = .ok middle ∧ second middle = .ok last := by
  cases first with
  | error error => cases done
  | ok middle => exact ⟨middle, rfl, done⟩

theorem enter_eq_ok_iff {next : Nat} : files.enter directory name = .ok next ↔
    name = "." ∧ next = directory ∨ name = ".." ∧ next = files.above directory ∨
      name ≠ "." ∧ name ≠ ".." ∧ name.utf8ByteSize ≤ maxName ∧
        files.child? directory name = some ⟨next, .directory⟩ := by
  unfold enter
  by_cases dot : name = "."
  · simp [dot, eq_comm]
  · by_cases dots : name = ".."
    · simp [dots, eq_comm]
    · by_cases long : maxName < name.utf8ByteSize
      · simp [dot, dots, long, Nat.not_le.2 long]
      · simp only [dot, dots, long, Nat.not_lt.1 long, if_false, false_and, false_or, ne_eq,
          not_false_eq_true, true_and]
        rcases files.child? directory name with _ | ⟨identity, kind⟩
        · exact ⟨nofun, nofun⟩
        · cases kind <;> simp

theorem Keeps.enter (keeps : before.Keeps removed after) (sound : before.WellFormed)
    (folder : before.IsFolder directory) {next : Nat} (enters : before.enter directory name = .ok next) :
    after.enter directory name = .ok next ∧ before.IsFolder next := by
  rw [enter_eq_ok_iff] at enters ⊢
  rcases enters with ⟨dot, rfl⟩ | ⟨dots, rfl⟩ | ⟨noDot, noDots, short, found⟩
  · exact ⟨Or.inl ⟨dot, rfl⟩, folder⟩
  · rw [keeps.above directory folder]
    exact ⟨Or.inr (Or.inl ⟨dots, rfl⟩), sound.isFolder_above directory⟩
  · obtain ⟨entry, member, _, _, same⟩ := exists_of_child? found
    have there : before.IsFolder next := Or.inr ⟨entry, member, same⟩
    have still := keeps.child _ _ _ found (keeps.spared next there)
    exact ⟨Or.inr (Or.inr ⟨noDot, noDots, short, still⟩), there⟩

theorem Keeps.walk (keeps : before.Keeps removed after) (sound : before.WellFormed)
    {names : List String} (folder : before.IsFolder directory) {target : Target}
    (leads : before.walk directory names = .ok target) :
    after.walk directory names = .ok target ∧ before.IsFolder target.base := by
  induction names generalizing directory with
  | nil =>
    cases leads
    exact ⟨rfl, folder⟩
  | cons name names ih =>
    cases names with
    | nil =>
      unfold FileSystem.walk at leads ⊢
      split at leads
      · rename_i dots
        rw [if_pos dots]
        cases enters : before.enter directory name with
        | error error =>
          rw [enters] at leads
          cases leads
        | ok next =>
          obtain ⟨same, there⟩ := keeps.enter sound folder enters
          rw [enters] at leads
          cases leads
          rw [same]
          exact ⟨rfl, there⟩
      · rename_i noDots
        rw [if_neg noDots]
        split at leads
        · cases leads
        · rename_i short
          cases leads
          exact ⟨if_neg short, folder⟩
    | cons second names =>
      unfold FileSystem.walk at leads ⊢
      obtain ⟨next, enters, others⟩ := exists_of_bind leads
      obtain ⟨same, there⟩ := keeps.enter sound folder enters
      rw [same]
      exact ih there others

theorem WellFormed.isFolder_start (sound : files.WellFormed) (path : String) :
    files.IsFolder (files.start path) := by
  unfold start
  split
  · exact Or.inl rfl
  · exact sound.here

theorem Keeps.target (keeps : before.Keeps removed after) (sound : before.WellFormed) {target : Target}
    (leads : before.target path = .ok target) :
    after.target path = .ok target ∧ before.IsFolder target.base := by
  have start : after.start path = before.start path := by
    rw [FileSystem.start, FileSystem.start, keeps.here]
  unfold FileSystem.target at leads ⊢
  split at leads
  · cases leads
  · split at leads
    · cases leads
    · rename_i filled
      simp only [if_neg filled, start]
      exact keeps.walk sound (sound.isFolder_start path) leads

theorem lookup_plain_iff (plain : file.kind ≠ .directory) :
    files.lookup path = .ok file ↔ ∃ parent name, files.target path = .ok (.child parent name) ∧
      files.child? parent name = some file ∧ Path.isSlashed path = false := by
  unfold lookup
  cases files.target path with
  | error error => exact ⟨nofun, nofun⟩
  | ok target =>
    cases target with
    | directory identity =>
      refine ⟨fun same => ?_, nofun⟩
      cases same
      exact absurd rfl plain
    | child parent name =>
      simp only [bind, Except.bind]
      cases found : files.child? parent name with
      | none =>
        refine ⟨nofun, ?_⟩
        rintro ⟨_, _, ⟨⟩, there, _⟩
        rw [found] at there
        cases there
      | some other =>
        cases slashed : Path.isSlashed path with
        | true =>
          refine ⟨fun same => ?_, nofun⟩
          simp only [if_true] at same
          cases enters : files.enter parent name with
          | error error =>
            rw [enters] at same
            cases same
          | ok next =>
            rw [enters] at same
            cases same
            exact absurd rfl plain
        | false =>
          refine ⟨fun same => ⟨parent, name, rfl, ?_, rfl⟩, ?_⟩
          · cases same
            exact found
          · rintro ⟨_, _, ⟨⟩, there, _⟩
            rw [found] at there
            cases there
            rfl

theorem Keeps.lookup (keeps : before.Keeps removed after) (sound : before.WellFormed)
    (plain : file.kind ≠ .directory) (named : before.lookup path = .ok file)
    (left : removed ≠ some file.identity) : after.lookup path = .ok file := by
  obtain ⟨parent, name, leads, found, unslashed⟩ := (lookup_plain_iff plain).1 named
  refine (lookup_plain_iff plain).2 ⟨parent, name, (keeps.target sound leads).1, ?_, unslashed⟩
  exact keeps.child parent name file found left

theorem Keeps.lookup_of_none (keeps : before.Keeps none after) (sound : before.WellFormed)
    (named : before.lookup path = .ok file) : after.lookup path = .ok file := by
  unfold FileSystem.lookup at named ⊢
  obtain ⟨target, leads, named⟩ := exists_of_bind named
  obtain ⟨leads', folder⟩ := keeps.target sound leads
  rw [leads']
  cases target with
  | directory identity => exact named
  | child parent name =>
    simp only [bind, Except.bind] at named ⊢
    cases found : before.child? parent name with
    | none =>
      rw [found] at named
      cases named
    | some other =>
      rw [found] at named
      rw [keeps.child parent name other found nofun]
      by_cases slashed : Path.isSlashed path = true
      · simp only [if_pos slashed] at named ⊢
        cases enters : before.enter parent name with
        | error error =>
          rw [enters] at named
          cases named
        | ok next =>
          have entered : after.enter parent name = .ok next := (keeps.enter sound folder enters).1
          rw [enters] at named
          rw [entered]
          exact named
      · simp only [if_neg slashed] at named ⊢
        exact named

theorem lookup_of_socketAt (served : files.socketAt path = .ok file) :
    file.kind = .socket ∧ files.lookup path = .ok file := by
  unfold socketAt at served
  split at served
  · cases served
  · split at served
    · cases served
    · split at served
      · cases served
      · rename_i other named
        split at served
        · rename_i kind
          cases served
          exact ⟨kind, named⟩
        · cases served
        · cases served
        · cases served

theorem Keeps.socketAt (keeps : before.Keeps removed after) (sound : before.WellFormed)
    (served : before.socketAt path = .ok file) (left : removed ≠ some file.identity) :
    after.socketAt path = .ok file := by
  obtain ⟨kind, named⟩ := lookup_of_socketAt served
  have plain : file.kind ≠ .directory := by
    rw [kind]
    nofun
  have still := keeps.lookup sound plain named left
  unfold FileSystem.socketAt at served ⊢
  split at served
  · cases served
  · split at served
    · cases served
    · rename_i filled
      simp only [if_neg filled, still, kind]

theorem makeAlong_keeps (sound : files.WellFormed) (folder : files.IsFolder directory) (making : Bool)
    (names : List String) : files.Keeps none (files.makeAlong making directory names).1 := by
  induction names generalizing files making directory with
  | nil => exact sound.keeps
  | cons name names ih =>
    unfold makeAlong
    split
    · rename_i next enters
      exact ih sound (sound.keeps.enter sound folder enters).2 making
    · split
      · rename_i free
        have inserted := keeps_insert sound folder free .directory
        exact inserted.trans (ih inserted.sound (Or.inr ⟨_, List.mem_cons_self, rfl⟩) true)
      · exact sound.keeps
    · exact sound.keeps
    · exact sound.keeps

theorem makeDirectories_keeps (sound : files.WellFormed) (path : String) :
    files.Keeps none (files.makeDirectories path).1 := by
  unfold makeDirectories
  split
  · exact sound.keeps
  · exact makeAlong_keeps sound (sound.isFolder_start path) false _

theorem fileAt?_eq_some {identity : Nat} : files.fileAt? path = some identity ↔
    ∃ file, files.lookup path = .ok file ∧ file.kind ≠ .directory ∧ file.identity = identity := by
  unfold fileAt?
  cases files.lookup path with
  | error error => simp
  | ok file => by_cases kind : file.kind = .directory <;> simp [kind]

theorem exists_of_fileAt? {identity : Nat} (named : files.fileAt? path = some identity) :
    ∃ entry ∈ files.entries, entry.file.kind ≠ .directory ∧ entry.file.identity = identity := by
  obtain ⟨file, found, plain, rfl⟩ := fileAt?_eq_some.1 named
  obtain ⟨parent, name, _, there, _⟩ := (lookup_plain_iff plain).1 found
  obtain ⟨entry, member, _, _, rfl⟩ := exists_of_child? there
  exact ⟨entry, member, plain, rfl⟩

theorem remove_eq_ok_iff : files.remove path = .ok after ↔
    ∃ identity, files.fileAt? path = some identity ∧ after = files.erase identity := by
  constructor
  · intro removed
    unfold remove at removed
    obtain ⟨target, leads, removed⟩ := exists_of_bind removed
    cases target with
    | directory identity => cases removed
    | child parent name =>
      simp only at removed
      split at removed
      · cases removed
      · rename_i file found
        split at removed
        · cases removed
        · rename_i plain
          split at removed
          · cases removed
          · rename_i unslashed
            cases removed
            have named := (lookup_plain_iff plain).2
              ⟨parent, name, leads, found, Bool.eq_false_iff.2 unslashed⟩
            exact ⟨file.identity, fileAt?_eq_some.2 ⟨file, named, plain, rfl⟩, rfl⟩
  · rintro ⟨identity, named, rfl⟩
    obtain ⟨file, found, plain, rfl⟩ := fileAt?_eq_some.1 named
    obtain ⟨parent, name, leads, there, unslashed⟩ := (lookup_plain_iff plain).1 found
    unfold remove
    rw [leads]
    simp only [bind, Except.bind, there, if_neg plain, unslashed]
    rfl

theorem erase_keeps (sound : files.WellFormed) {identity : Nat}
    (named : files.fileAt? path = some identity) : files.Keeps (some identity) (files.erase identity) := by
  obtain ⟨entry, member, plain, rfl⟩ := exists_of_fileAt? named
  exact keeps_erase sound member plain

theorem put_eq_ok {kind : FileKind} (put : files.put path kind = .ok after) :
    ∃ parent name, files.target path = .ok (.child parent name) ∧ files.child? parent name = none ∧
      Path.isSlashed path = false ∧ after = files.insert parent name kind := by
  unfold FileSystem.put at put
  obtain ⟨target, leads, put⟩ := exists_of_bind put
  cases target with
  | directory identity => cases put
  | child parent name =>
    simp only at put
    split at put
    · cases put
    · rename_i vacant
      split at put
      · cases put
      · rename_i unslashed
        cases put
        exact ⟨parent, name, leads, by simpa using vacant, Bool.eq_false_iff.2 unslashed, rfl⟩

theorem bindSocket_eq_ok (bound : files.bindSocket path = .ok after) :
    addressFault? path = none ∧ files.put path .socket = .ok after := by
  unfold bindSocket at bound
  split at bound
  · cases bound
  · rename_i address
    split at bound
    · cases bound
    · exact ⟨address, bound⟩

theorem isEmpty_of_target {target : Target} (leads : files.target path = .ok target) :
    path.isEmpty = false := by
  rw [Bool.eq_false_iff]
  intro empty
  unfold FileSystem.target at leads
  rw [if_pos empty] at leads
  split at leads <;> cases leads

theorem pathFault?_of_target {target : Target} (leads : files.target path = .ok target) :
    pathFault? path = none := by
  unfold FileSystem.target at leads
  split at leads
  · cases leads
  · rename_i fits
    exact fits

theorem addressFault?_of_target {target : Target} (leads : files.target path = .ok target)
    (short : path.utf8ByteSize < maxSocketPath) : addressFault? path = none := by
  have fits := pathFault?_of_target leads
  unfold pathFault? at fits
  split at fits
  · cases fits
  · rename_i noZero
    rw [addressFault?, if_neg noZero, if_neg (Nat.not_le.2 short)]

theorem bindSocket_of_long (long : maxSocketPath ≤ path.utf8ByteSize) :
    files.bindSocket path ≠ .ok after := by
  intro bound
  have address := (bindSocket_eq_ok bound).1
  unfold addressFault? at address
  rw [if_pos long] at address
  split at address <;> cases address

theorem bindSocket_keeps (sound : files.WellFormed) (bound : files.bindSocket path = .ok after) :
    files.Keeps none after ∧ files.made < after.made ∧
      after.socketAt path = .ok ⟨files.made, .socket⟩ := by
  obtain ⟨address, put⟩ := bindSocket_eq_ok bound
  obtain ⟨parent, name, leads, free, unslashed, rfl⟩ := put_eq_ok put
  have keeps := keeps_insert sound (sound.keeps.target sound leads).2 free .socket
  have named : (files.insert parent name .socket).lookup path = .ok ⟨files.made, .socket⟩ := by
    refine (lookup_plain_iff (by nofun)).2 ⟨parent, name, (keeps.target sound leads).1, ?_, unslashed⟩
    rw [child?_insert, if_pos ⟨rfl, rfl⟩]
  refine ⟨keeps, Nat.lt_succ_self _, ?_⟩
  simp only [FileSystem.socketAt, address, isEmpty_of_target leads, named]
  rfl

end FileSystem

end TileServer
