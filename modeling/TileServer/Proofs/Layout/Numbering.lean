import Mathlib.Order.Bounds.Defs
import TileServer.Proofs.Layout.Names

namespace TileServer

/-- Two workspaces that are told apart by their names and by their numbers. -/
def Workspace.Apart (one other : Workspace) : Prop :=
  one.name ≠ other.name ∧ one.num? ≠ other.num?

namespace Layout

/-- A search that counts up through the numbers of 32 bits until one is free. The counter is stepped to
the next number, and must not wrap around, before a number is tried, also before the one that is free. -/
inductive Search (taken : List Int32) : Int32 → Nat → Int32 → Prop
  | found {counter : Int32} (steps : counter < counter + 1) (free : counter ∉ taken) :
    Search taken counter 1 counter
  | next {counter last : Int32} {tried : Nat} (steps : counter < counter + 1) (used : counter ∈ taken)
    (search : Search taken (counter + 1) tried last) : Search taken counter (tried + 1) last

/-- The number that is found for a new workspace. -/
structure FoundFor (workspaces : List Workspace) (number : Nat) : Prop where
  search : ∃ tried ≤ workspaces.length + 1,
    Search (workspaces.filterMap Workspace.num?) 1 tried (Int32.ofNat number)
  fits : (Int32.ofNat number).toInt = number
  least : IsLeast {other | 0 < other ∧ ∀ workspace ∈ workspaces, workspace.number? ≠ some other} number
  fresh : toString number ∉ workspaces.map Workspace.name
  back : workspaceNumber? (toString number) = some number

/-- Workspaces that are added to the first ones, each named by the number that is found for it among those
before it, and told apart from each other and from the first ones. -/
structure Fresh (first added : List Workspace) : Prop where
  found : ∀ front workspace back, added = front ++ workspace :: back →
    ∃ number, FoundFor (first ++ front) number ∧ workspace.name = toString number ∧
      workspace.number? = some number
  distinct : added.Pairwise Workspace.Apart
  apart : ∀ workspace ∈ added, ∀ other ∈ first, workspace.Apart other

def vacant (workspaces : List Workspace) (place : Nat) : Bool :=
  workspaces.all (fun workspace => workspace.output != place)

theorem toInt_ofNat {number : Nat} (fits : number ≤ maxWorkspaceNumber) :
    (Int32.ofNat number).toInt = number := by
  unfold maxWorkspaceNumber at fits
  exact Int32.toInt_ofNat_of_lt (by omega)

theorem ofNat_inj {one other : Nat} (fits : one ≤ maxWorkspaceNumber)
    (fits' : other ≤ maxWorkspaceNumber) (same : Int32.ofNat one = Int32.ofNat other) : one = other := by
  have equal := congrArg Int32.toInt same
  rw [toInt_ofNat fits, toInt_ofNat fits'] at equal
  omega

theorem lt_succ_ofNat {number : Nat} (fits : number < maxWorkspaceNumber) :
    Int32.ofNat number < Int32.ofNat number + 1 := by
  have next : Int32.ofNat number + 1 = Int32.ofNat (number + 1) := (Int32.ofNat_add number 1).symm
  rw [next, Int32.lt_iff_toInt_lt, toInt_ofNat (by omega), toInt_ofNat (by omega)]
  omega

theorem number?_le {workspace : Workspace} {number : Nat}
    (numbered : workspace.number? = some number) : number ≤ maxWorkspaceNumber := by
  unfold Workspace.number? workspaceNumber? at numbered
  split at numbered
  · rename_i read
    cases numbered
    exact (Numeral.natural_eq_ok_iff.1 read).2
  · cases numbered

theorem num?_inj {one other : Workspace} (same : one.num? = other.num?) :
    one.number? = other.number? := by
  unfold Workspace.num? at same
  cases first : one.number? with
  | none =>
    rw [first, Option.map_none] at same
    exact (Option.map_eq_none_iff.1 same.symm).symm
  | some number =>
    rw [first, Option.map_some] at same
    obtain ⟨number', second, equal⟩ := Option.map_eq_some_iff.1 same.symm
    rw [second, ofNat_inj (number?_le second) (number?_le first) equal]

theorem mem_nums_iff {workspaces : List Workspace} {number : Nat} (fits : number ≤ maxWorkspaceNumber) :
    Int32.ofNat number ∈ workspaces.filterMap Workspace.num? ↔
      number ∈ workspaces.filterMap Workspace.number? := by
  rw [List.mem_filterMap, List.mem_filterMap]
  constructor
  · rintro ⟨workspace, member, has⟩
    obtain ⟨other, numbered, same⟩ := Option.map_eq_some_iff.1 has
    exact ⟨workspace, member, ofNat_inj (number?_le numbered) fits same ▸ numbered⟩
  · rintro ⟨workspace, member, has⟩
    exact ⟨workspace, member, by rw [Workspace.num?, has, Option.map_some]⟩

theorem Search.ends {taken : List Int32} {counter last : Int32} {tried : Nat}
    (search : Search taken counter tried last) :
    counter.toInt ≤ last.toInt ∧ last < last + 1 ∧ last ∉ taken := by
  induction search with
  | found steps free => exact ⟨le_rfl, steps, free⟩
  | next steps used _ ih =>
    obtain ⟨later, stepped, free⟩ := ih
    exact ⟨(Int32.lt_iff_toInt_lt.1 steps).le.trans later, stepped, free⟩

theorem search_from {taken : List Int32} {start number : Nat} (low : start ≤ number)
    (fits : number < maxWorkspaceNumber)
    (used : ∀ other, start ≤ other → other < number → Int32.ofNat other ∈ taken)
    (free : Int32.ofNat number ∉ taken) :
    Search taken (Int32.ofNat start) (number + 1 - start) (Int32.ofNat number) := by
  induction low using Nat.decreasingInduction with
  | self =>
    have one : number + 1 - number = 1 := by omega
    rw [one]
    exact .found (lt_succ_ofNat fits) free
  | of_succ start less ih =>
    have next : Int32.ofNat (start + 1) = Int32.ofNat start + 1 := Int32.ofNat_add start 1
    have tried : number + 1 - start = number + 1 - (start + 1) + 1 := by omega
    have later := ih (fun other above => used other (by omega))
    rw [next] at later
    rw [tried]
    exact .next (lt_succ_ofNat (by omega)) (used start (Nat.le_refl start) less) later

theorem nextFreeNumber_least (workspaces : List Workspace) :
    IsLeast {other | 0 < other ∧ ∀ workspace ∈ workspaces, workspace.number? ≠ some other}
      (nextFreeNumber workspaces) := by
  obtain ⟨free, within, below⟩ := List.find?_range'_eq_some.1 (find?_nextFreeNumber workspaces)
  have bounds := List.mem_range'_1.1 within
  constructor
  · exact ⟨by omega, by simpa using free⟩
  · rintro other ⟨positive, unused⟩
    by_contra less
    have taken := below other positive (by omega)
    simp at taken
    obtain ⟨workspace, member, has⟩ := taken
    exact unused workspace member has

theorem nextFreeNumber_found {workspaces : List Workspace}
    (fits : nextFreeNumber workspaces < maxWorkspaceNumber)
    (room : workspaces.length < maxWorkspaceNumber) :
    FoundFor workspaces (nextFreeNumber workspaces) := by
  obtain ⟨bound, free⟩ := nextFreeNumber_free workspaces
  have least := nextFreeNumber_least workspaces
  have used : ∀ other, 1 ≤ other → other < nextFreeNumber workspaces →
      Int32.ofNat other ∈ workspaces.filterMap Workspace.num? := by
    intro other positive less
    apply (mem_nums_iff (by omega)).2
    by_contra unused
    have below := least.2 ⟨positive, by simpa using unused⟩
    omega
  have search := search_from least.1.1 fits used (fun taken => free ((mem_nums_iff fits.le).1 taken))
  refine ⟨⟨_, ?_, search⟩, toInt_ofNat fits.le, least, nextFreeNumber_fresh room,
    workspaceNumber?_toString fits.le⟩
  omega

theorem FoundFor.lt {workspaces : List Workspace} {number : Nat} (found : FoundFor workspaces number) :
    number < maxWorkspaceNumber := by
  obtain ⟨_, _, search⟩ := found.search
  have fits := found.fits
  have bound := Int32.toInt_le (Int32.ofNat number)
  have last : Int32.maxValue.toInt = 2147483647 := rfl
  unfold maxWorkspaceNumber
  by_contra large
  have same : number = 2147483647 := by omega
  subst same
  exact absurd search.ends.2.1 (by decide)

theorem foundFor_iff {workspaces : List Workspace} (room : workspaces.length < maxWorkspaceNumber) :
    FoundFor workspaces (nextFreeNumber workspaces) ↔ ∃ number, 0 < number ∧
      number < maxWorkspaceNumber ∧ ∀ workspace ∈ workspaces, workspace.number? ≠ some number := by
  constructor
  · intro found
    obtain ⟨positive, free⟩ := found.least.1
    exact ⟨_, positive, found.lt, free⟩
  · rintro ⟨number, positive, small, free⟩
    have below := (nextFreeNumber_least workspaces).2 ⟨positive, free⟩
    exact nextFreeNumber_found (below.trans_lt small) room

theorem Fresh.cons {first added : List Workspace} {workspace : Workspace} {number : Nat}
    (fresh : Fresh (first ++ [workspace]) added) (found : FoundFor first number)
    (named : workspace.name = toString number) : Fresh first (workspace :: added) := by
  have numbered : workspace.number? = some number := by rw [Workspace.number?, named, found.back]
  refine ⟨?_, ?_, ?_⟩
  · intro front other back split
    cases front with
    | nil =>
      obtain ⟨rfl, rfl⟩ := List.cons.inj split
      rw [List.append_nil]
      exact ⟨number, found, named, numbered⟩
    | cons head front =>
      obtain ⟨rfl, rest⟩ := List.cons.inj split
      have later := fresh.found front other back rest
      rw [List.append_assoc] at later
      exact later
  · apply List.pairwise_cons.2
    refine ⟨fun other member => ?_, fresh.distinct⟩
    obtain ⟨names, numbers⟩ := fresh.apart other member workspace (by simp)
    exact ⟨names.symm, numbers.symm⟩
  · intro one member other there
    rcases List.mem_cons.1 member with rfl | member
    · constructor
      · intro same
        apply found.fresh
        rw [← named, same]
        exact List.mem_map_of_mem there
      · intro same
        exact found.least.1.2 other there ((num?_inj same).symm.trans numbered)
    · exact fresh.apart one member other (by simp [there])

theorem fill_fresh (index : Nat) {workspaces : List Workspace} {outputs : List Output}
    (room : ∀ place ∈ List.range' index outputs.length, vacant workspaces place = true →
      workspaces.length + outputs.length < maxWorkspaceNumber) :
    ∃ added, (fill index workspaces outputs).2 = workspaces ++ added ∧ Fresh workspaces added ∧
      added.map Workspace.output =
        (List.range' index outputs.length).filter (vacant workspaces) := by
  fun_induction fill index workspaces outputs with
  | case1 index workspaces =>
    exact ⟨[], (List.append_nil _).symm, ⟨by simp, List.Pairwise.nil, by simp⟩, rfl⟩
  | case2 index workspaces output rest shown found outputs all rests ih =>
    rw [rests] at ih
    rw [List.length_cons, List.range'_succ, List.forall_mem_cons] at room
    obtain ⟨added, whole, fresh, placed⟩ := ih (fun place member empty => by
      have more := room.2 place member empty
      omega)
    obtain ⟨inside, here, _⟩ := List.findIdx?_eq_some_iff_getElem.1 found
    have occupied : ¬ vacant workspaces index = true := by
      intro empty
      have other := List.all_eq_true.1 empty _ (List.getElem_mem inside)
      simp [beq_iff_eq.1 here] at other
    refine ⟨added, whole, fresh, ?_⟩
    rw [placed, List.length_cons, List.range'_succ, List.filter_cons_of_neg occupied]
  | case3 index workspaces output rest unshown added outputs all rests ih =>
    have empty : vacant workspaces index = true := by
      apply List.all_eq_true.2
      intro workspace member
      simpa using List.findIdx?_eq_none_iff.1 unshown workspace member
    rw [List.length_cons, List.range'_succ, List.forall_mem_cons] at room
    have enough := room.1 empty
    rw [rests, List.length_append, List.length_singleton] at ih
    obtain ⟨more, whole, fresh, placed⟩ := ih (fun _ _ _ => by omega)
    -- The new workspace is on this output, which the rest of the outputs do not include.
    have same : ∀ place ∈ List.range' (index + 1) rest.length,
        vacant (workspaces ++ [added]) place = vacant workspaces place := by
      intro place member
      have behind := (List.mem_range'_1.1 member).1
      have apart : (added.output != place) = true := by
        apply bne_iff_ne.2
        show index ≠ place
        omega
      simp [vacant, apart]
    have found : FoundFor workspaces (nextFreeNumber workspaces) := by
      obtain ⟨bound, _⟩ := nextFreeNumber_free workspaces
      exact nextFreeNumber_found (by omega) (by omega)
    refine ⟨added :: more, by rw [whole, List.append_assoc]; rfl, fresh.cons found rfl, ?_⟩
    rw [List.map_cons, placed, List.length_cons, List.range'_succ, List.filter_cons_of_pos empty,
      List.filter_congr same]

theorem room_of_vacant {config : Config}
    (room : config.workspaces.length + config.outputs.length < maxWorkspaceNumber) {place : Nat}
    (inside : place < (outputsOf config.outputs).length)
    (empty : vacant (config.workspaces.map (Layout.place (outputsOf config.outputs))) place = true) :
    (config.workspaces.map (Layout.place (outputsOf config.outputs))).length +
      (outputsOf config.outputs).length < maxWorkspaceNumber := by
  rw [List.length_map]
  cases outputs : config.outputs with
  | cons output rest =>
    rw [outputs] at room
    have length : (outputsOf (output :: rest)).length = (output :: rest).length := List.length_map _
    rw [length]
    exact room
  | nil =>
    rw [outputs] at inside empty
    cases workspaces : config.workspaces with
    | nil => decide
    | cons workspace rest =>
      have only : place = 0 := Nat.lt_one_iff.1 inside
      have first := output_place_lt (List.cons_ne_nil onlyOutput []) workspace
      have here : (Layout.place [onlyOutput] workspace).output = 0 := Nat.lt_one_iff.1 first
      rw [workspaces, List.map_cons, vacant, List.all_cons, only, outputsOf, here] at empty
      cases empty

/-- While there are at least two workspaces fewer than positive numbers of 32 bits, a new one is given the
least that none has, which is found after at most one try more than there are workspaces, and no step of
the counter wraps around; its digits are no name yet, and are read as that number again. With one workspace
fewer that is so unless they have all those numbers but the last one. So the workspaces that are added at
the start are on the outputs that have none, one on each; each one's number is found in that way, and they
are told apart from each other and from those of the configuration by their names and by their numbers. -/
theorem workspaces_numbered :
    (∀ workspaces : List Workspace, workspaces.length < maxWorkspaceNumber - 1 →
      FoundFor workspaces (nextFreeNumber workspaces)) ∧
    (∀ workspaces : List Workspace, workspaces.length = maxWorkspaceNumber - 1 →
      (FoundFor workspaces (nextFreeNumber workspaces) ↔ ∃ number, 0 < number ∧
        number < maxWorkspaceNumber ∧ ∀ workspace ∈ workspaces, workspace.number? ≠ some number)) ∧
    ∀ config : Config, config.workspaces.length + config.outputs.length < maxWorkspaceNumber →
      let configured := config.workspaces.map (place (outputsOf config.outputs))
      ∃ added, (ofConfig config).workspaces = configured ++ added ∧ Fresh configured added ∧
        added.map Workspace.output =
          (List.range (ofConfig config).outputs.length).filter (vacant configured) := by
  have last : maxWorkspaceNumber - 1 < maxWorkspaceNumber := by decide
  refine ⟨?_, ?_, ?_⟩
  · intro workspaces room
    obtain ⟨bound, _⟩ := nextFreeNumber_free workspaces
    exact nextFreeNumber_found (by omega) (by omega)
  · exact fun workspaces length => foundFor_iff (length.trans_lt last)
  · intro config room configured
    have filled : Filled 0 configured (outputsOf config.outputs)
        ((ofConfig config).outputs, (ofConfig config).workspaces) := filled_fill 0 _ _
    obtain ⟨added, whole, fresh, placed⟩ := fill_fresh 0 (fun place member empty =>
      room_of_vacant room (by simpa using (List.mem_range'_1.1 member).2) empty)
    refine ⟨added, whole, fresh, ?_⟩
    rw [placed, filled.length, List.range_eq_range']

def scattered : Config where
  outputs := [{ name := "A" }, { name := "B" }, { name := "C" }, { name := "D" }]
  workspaces := [{ name := "2: mail", output := some "B" }, { name := "01", output := some "B" },
    { name := "2147483648", output := some "B" }]

def scatteredWorkspaces : List Workspace :=
  scattered.workspaces.map (place (outputsOf scattered.outputs))

def unnumbered : Workspace := ⟨"mail", 0, false⟩

theorem workspaces_numbered_of_scattered :
    scatteredWorkspaces.length < maxWorkspaceNumber - 1 ∧ FoundFor scatteredWorkspaces 3 ∧
      FoundFor (List.replicate (maxWorkspaceNumber - 1) unnumbered)
        (nextFreeNumber (List.replicate (maxWorkspaceNumber - 1) unnumbered)) ∧
      scattered.workspaces.length + scattered.outputs.length < maxWorkspaceNumber ∧
      ∃ added, Fresh scatteredWorkspaces added ∧ added.map Workspace.output = [0, 2, 3] ∧
        (ofConfig scattered).workspaces = scatteredWorkspaces ++ added := by
  have few : scatteredWorkspaces.length < maxWorkspaceNumber - 1 := by decide
  have room : scattered.workspaces.length + scattered.outputs.length < maxWorkspaceNumber := by decide
  obtain ⟨found, more, numbered⟩ := workspaces_numbered
  obtain ⟨added, whole, fresh, placed⟩ := numbered scattered room
  have most : (List.replicate (maxWorkspaceNumber - 1) unnumbered).length = maxWorkspaceNumber - 1 :=
    List.length_replicate
  have one : ∀ workspace ∈ List.replicate (maxWorkspaceNumber - 1) unnumbered,
      workspace.number? ≠ some 1 := by
    intro workspace member
    rw [List.eq_of_mem_replicate member]
    decide
  have third : nextFreeNumber scatteredWorkspaces = 3 := by decide +kernel
  have unoccupied : (List.range (ofConfig scattered).outputs.length).filter
      (vacant scatteredWorkspaces) = [0, 2, 3] := by decide +kernel
  refine ⟨few, third ▸ found scatteredWorkspaces few, (more _ most).2 ⟨1, ?_, ?_, one⟩, room, added,
    fresh, placed.trans unoccupied, whole⟩
  · decide
  · decide

example : (ofConfig scattered).names = ["2: mail", "01", "2147483648", "3", "4", "5"] := by
  decide +kernel

/-- Workspaces with all positive numbers of 32 bits but the last one. -/
def crowded : List Workspace :=
  (List.range' 1 (maxWorkspaceNumber - 1)).map (fun number => ⟨toString number, 0, false⟩)

theorem mem_nums_crowded {number : Nat} (positive : 0 < number) (small : number < maxWorkspaceNumber) :
    Int32.ofNat number ∈ crowded.filterMap Workspace.num? := by
  have member : number ∈ List.range' 1 (maxWorkspaceNumber - 1) := List.mem_range'_1.2 (by omega)
  refine List.mem_filterMap.2 ⟨⟨toString number, 0, false⟩, List.mem_map_of_mem member, ?_⟩
  rw [Workspace.num?, Workspace.number?, workspaceNumber?_toString small.le, Option.map_some]

/-- Only the last number is free among these, and no search ends, as its counter would have to be past the
last number before that is tried. -/
theorem no_search_of_crowded :
    crowded.length < maxWorkspaceNumber ∧ nextFreeNumber crowded = maxWorkspaceNumber ∧
      ¬ ∃ tried number, Search (crowded.filterMap Workspace.num?) 1 tried number := by
  have length : crowded.length = maxWorkspaceNumber - 1 := by
    rw [crowded, List.length_map, List.length_range']
  have positive : 0 < maxWorkspaceNumber := by decide
  refine ⟨by omega, ?_, ?_⟩
  · obtain ⟨bound, free⟩ := nextFreeNumber_free crowded
    by_contra other
    have small : nextFreeNumber crowded < maxWorkspaceNumber := by omega
    apply free
    exact (mem_nums_iff small.le).1 (mem_nums_crowded (nextFreeNumber_least crowded).1.1 small)
  · rintro ⟨tried, number, search⟩
    obtain ⟨above, steps, free⟩ := search.ends
    have one : (1 : Int32).toInt = 1 := rfl
    have bound := Int32.toInt_le number
    have last : Int32.maxValue.toInt = 2147483647 := rfl
    have same : Int32.ofNat number.toInt.toNat = number := by
      rw [← Int32.ofInt_eq_ofNat, Int.toNat_of_nonneg (by omega), Int32.ofInt_toInt]
    apply free
    rw [← same]
    refine mem_nums_crowded (by omega) ?_
    unfold maxWorkspaceNumber
    by_contra large
    have largest : number = Int32.maxValue := Int32.toInt_inj.1 (by omega)
    subst largest
    exact absurd steps (by decide)

end Layout

end TileServer
